import BotaSdk.Protocol.ChunkedWrites

/-!
# Regulatory receipts in fragments

`RegulatoryReceiptAssembler` of `protocol/regulatory.rs`: a receipt arrives in at most 64 frames,
each an index, the number of frames and a piece.  A frame that repeats the one before is skipped,
and frame 0 starts over.
-/

namespace BotaSdk

namespace Regulatory

def REGULATORY_RECEIPT_LENGTH : Nat := 198

/-- The header checks at the top of `push`. -/
def wellFormed (frame : List UInt8) (index total : UInt8) : Bool :=
  3 ≤ frame.length ∧ frame.length ≤ 246 ∧ total ≠ 0 ∧ total ≤ 64 ∧ index < total

end Regulatory

open Regulatory

structure RegulatoryReceiptAssembler where
  bytes : List UInt8 := []
  total : UInt8 := 0
  next : UInt8 := 0
  previous : List UInt8 := []
deriving Repr, DecidableEq

namespace RegulatoryReceiptAssembler

abbrev Answer : Type := Except DeviceSdkError (Option (List UInt8))

/-- `if frame[0] == 0`. -/
def restarted (self : RegulatoryReceiptAssembler) (index total : UInt8) :
    RegulatoryReceiptAssembler :=
  if index = 0 then { self with bytes := [], total, next := 0 } else self

/-- The rest of `push`, from the comparison with the fragment that is expected. -/
def append (self : RegulatoryReceiptAssembler) (index total : UInt8) (payload : List UInt8) :
    RegulatoryReceiptAssembler × Answer :=
  if total ≠ self.total ∨ index ≠ self.next ∨
      REGULATORY_RECEIPT_LENGTH < self.bytes.length + payload.length then
    (self, .error invalid)
  else
    let self := { self with
      bytes := self.bytes ++ payload
      next := self.next + 1
      previous := index :: total :: payload }
    if self.next = self.total then
      if self.bytes.length ≠ REGULATORY_RECEIPT_LENGTH then (self, .error invalid)
      else (self, .ok (some self.bytes))
    else (self, .ok none)

def push (self : RegulatoryReceiptAssembler) (frame : List UInt8) :
    RegulatoryReceiptAssembler × Answer :=
  match frame with
  | index :: total :: payload =>
    if wellFormed frame index total = false then (self, .error invalid)
    else if frame = self.previous then (self, .ok none)
    else (self.restarted index total).append index total payload
  -- `frame.len() < 3`
  | _ => (self, .error invalid)

/-- The assembler after a sequence of frames. -/
def after (self : RegulatoryReceiptAssembler) : List (List UInt8) → RegulatoryReceiptAssembler
  | [] => self
  | frame :: rest => (self.push frame).1.after rest

/-- What it answers to each of them. -/
def answers (self : RegulatoryReceiptAssembler) : List (List UInt8) → List Answer
  | [] => []
  | frame :: rest => (self.push frame).2 :: (self.push frame).1.answers rest

/-! ## One frame -/

section Push

variable {self : RegulatoryReceiptAssembler} {index total : UInt8} {payload : List UInt8}

theorem push_malformed (h : wellFormed (index :: total :: payload) index total = false) :
    self.push (index :: total :: payload) = (self, .error invalid) := by
  unfold push
  exact if_pos h

theorem push_again (hw : wellFormed (index :: total :: payload) index total)
    (h : index :: total :: payload = self.previous) :
    self.push (index :: total :: payload) = (self, .ok none) := by
  unfold push
  show (if wellFormed (index :: total :: payload) index total = false then _ else _) = _
  rw [if_neg (by rw [hw]; decide), if_pos h]

theorem push_fragment (hw : wellFormed (index :: total :: payload) index total)
    (h : index :: total :: payload ≠ self.previous) :
    self.push (index :: total :: payload)
      = (self.restarted index total).append index total payload := by
  unfold push
  show (if wellFormed (index :: total :: payload) index total = false then _ else _) = _
  rw [if_neg (by rw [hw]; decide), if_neg h]

theorem restarted_first : self.restarted 0 total = { self with bytes := [], total, next := 0 } :=
  if_pos rfl

theorem restarted_later (h : index ≠ 0) : self.restarted index total = self :=
  if_neg h

/-- A fragment out of place, or too long, is refused. -/
theorem append_refused
    (h : total ≠ self.total ∨ index ≠ self.next ∨
      REGULATORY_RECEIPT_LENGTH < self.bytes.length + payload.length) :
    self.append index total payload = (self, .error invalid) := by
  unfold append
  exact if_pos h

/-- The fragment that is expected is taken, and answered by the receipt when it is the last. -/
theorem append_expected (h : ¬(total ≠ self.total ∨ index ≠ self.next ∨
      REGULATORY_RECEIPT_LENGTH < self.bytes.length + payload.length)) :
    (self.append index total payload).1 = { self with
        bytes := self.bytes ++ payload
        next := self.next + 1
        previous := index :: total :: payload } ∧
      (self.append index total payload).2 =
        if self.next + 1 = self.total then
          if (self.bytes ++ payload).length ≠ REGULATORY_RECEIPT_LENGTH then .error invalid
          else .ok (some (self.bytes ++ payload))
        else .ok none := by
  unfold append
  rw [if_neg h]
  dsimp only
  by_cases hlast : self.next + 1 = self.total
  · rw [if_pos hlast, if_pos hlast]
    by_cases hlen : (self.bytes ++ payload).length ≠ REGULATORY_RECEIPT_LENGTH
    · rw [if_pos hlen, if_pos hlen]
      exact ⟨rfl, rfl⟩
    · rw [if_neg hlen, if_neg hlen]
      exact ⟨rfl, rfl⟩
  · rw [if_neg hlast, if_neg hlast]
    exact ⟨rfl, rfl⟩

end Push

/-! ## A receipt delivered in order -/

/-- A receipt cut into at most 64 pieces, none of them empty. -/
structure Split (receipt : List UInt8) (pieces : List (List UInt8)) : Prop where
  length : receipt.length = REGULATORY_RECEIPT_LENGTH
  whole : pieces.flatten = receipt
  count : pieces.length ≤ 64
  nonempty : ∀ piece ∈ pieces, piece ≠ []

def fragment (pieces : List (List UInt8)) (i : Nat) : List UInt8 :=
  UInt8.ofNat i :: UInt8.ofNat pieces.length :: pieces.getD i []

/-- What the device sends when `k` fragments have arrived since fragment 0. -/
inductive Move where
  | next
  | duplicate
  | restart
deriving Repr, DecidableEq

namespace Move

def Allowed (n k : Nat) : Move → Prop
  | next => k < n
  | duplicate => 0 < k
  | restart => 0 < k

instance (n k : Nat) : (move : Move) → Decidable (move.Allowed n k)
  | next => inferInstanceAs (Decidable (k < n))
  | duplicate => inferInstanceAs (Decidable (0 < k))
  | restart => inferInstanceAs (Decidable (0 < k))

def arrived (k : Nat) : Move → Nat
  | next => k + 1
  | duplicate => k
  | restart => 1

def frame (pieces : List (List UInt8)) (k : Nat) : Move → List UInt8
  | next => fragment pieces k
  | duplicate => fragment pieces (k - 1)
  | restart => fragment pieces 0

/-- The receipt at the last fragment, and nothing before it. -/
def answer (receipt : List UInt8) (n k : Nat) : Move → Option (List UInt8)
  | next => if k + 1 = n then some receipt else none
  | duplicate => none
  | restart => none

end Move

/-- Every move of a delivery is one the device can make there. -/
def Delivery (n : Nat) : Nat → List Move → Prop
  | _, [] => True
  | k, move :: moves => move.Allowed n k ∧ Delivery n (move.arrived k) moves

instance decidableDelivery (n : Nat) :
    (k : Nat) → (moves : List Move) → Decidable (Delivery n k moves)
  | _, [] => .isTrue trivial
  | k, move :: moves =>
    have := decidableDelivery n (move.arrived k) moves
    inferInstanceAs (Decidable (move.Allowed n k ∧ Delivery n (move.arrived k) moves))

def frames (pieces : List (List UInt8)) : Nat → List Move → List (List UInt8)
  | _, [] => []
  | k, move :: moves => move.frame pieces k :: frames pieces (move.arrived k) moves

def expected (receipt : List UInt8) (n : Nat) : Nat → List Move → List Answer
  | _, [] => []
  | k, move :: moves => .ok (move.answer receipt n k) :: expected receipt n (move.arrived k) moves

/-- The assembler when `k` fragments have arrived. -/
def arrived (start : RegulatoryReceiptAssembler) (pieces : List (List UInt8)) :
    Nat → RegulatoryReceiptAssembler
  | 0 => start
  | k + 1 => {
      bytes := (pieces.take (k + 1)).flatten
      total := UInt8.ofNat pieces.length
      next := UInt8.ofNat (k + 1)
      previous := fragment pieces k }

section Delivery

variable {receipt : List UInt8} {pieces : List (List UInt8)} {k : Nat}

theorem length_piece_le (hs : Split receipt pieces) (hk : k < pieces.length) :
    1 ≤ (pieces.getD k []).length ∧
      (pieces.take k).flatten.length + (pieces.getD k []).length ≤ REGULATORY_RECEIPT_LENGTH := by
  have hget : pieces.getD k [] = pieces[k] := by
    rw [List.getD_eq_getElem?_getD, List.getElem?_eq_getElem hk, Option.getD_some]
  rw [hget]
  constructor
  · exact List.length_pos_iff.mpr (hs.nonempty _ (List.getElem_mem hk))
  · have htake : (pieces.take (k + 1)).flatten.length ≤ pieces.flatten.length := by
      conv_rhs => rw [← List.take_append_drop (k + 1) pieces, List.flatten_append,
        List.length_append]
      exact Nat.le_add_right _ _
    rw [List.take_add_one, List.getElem?_eq_getElem hk, Option.toList_some, List.flatten_append,
      List.flatten_singleton, List.length_append] at htake
    rw [← hs.length, ← hs.whole]
    exact htake

theorem take_succ_flatten (hk : k < pieces.length) :
    (pieces.take (k + 1)).flatten = (pieces.take k).flatten ++ pieces.getD k [] := by
  rw [List.take_add_one, List.flatten_append, List.getD_eq_getElem?_getD,
    List.getElem?_eq_getElem hk]
  simp

theorem toNat_index (hk : k ≤ 64) : (UInt8.ofNat k).toNat = k :=
  Nat.mod_eq_of_lt (by omega)

theorem index_ne {i j : Nat} (hi : i ≤ 64) (hj : j ≤ 64) (h : i ≠ j) :
    UInt8.ofNat i ≠ UInt8.ofNat j := fun hij =>
  h (by rw [← toNat_index hi, ← toNat_index hj, hij])

theorem wellFormed_fragment (hs : Split receipt pieces) (hk : k < pieces.length) :
    wellFormed (fragment pieces k) (UInt8.ofNat k) (UInt8.ofNat pieces.length) := by
  obtain ⟨hpos, hle⟩ := length_piece_le hs hk
  have hcount := hs.count
  have hlen : (fragment pieces k).length = (pieces.getD k []).length + 2 := rfl
  have hbound : (pieces.getD k []).length ≤ 198 := by
    show _ ≤ REGULATORY_RECEIPT_LENGTH
    omega
  have htotal : UInt8.ofNat pieces.length ≠ UInt8.ofNat 0 :=
    index_ne hcount (by omega) (by omega)
  have hle64 : UInt8.ofNat pieces.length ≤ 64 := by
    rw [UInt8.le_iff_toNat_le, toNat_index hcount]
    exact hcount
  have hlt : UInt8.ofNat k < UInt8.ofNat pieces.length := by
    rw [UInt8.lt_iff_toNat_lt, toNat_index hcount, toNat_index (by omega)]
    exact hk
  exact decide_eq_true ⟨by omega, by omega, htotal, hle64, hlt⟩

theorem fragment_ne {j : Nat} (hs : Split receipt pieces) (hk : k < pieces.length)
    (hj : j < pieces.length) (h : k ≠ j) : fragment pieces k ≠ fragment pieces j := by
  intro heq
  have hcount := hs.count
  exact index_ne (by omega) (by omega) h (List.cons.inj heq).1

variable {start : RegulatoryReceiptAssembler}

theorem restarted_expected (start : RegulatoryReceiptAssembler) (hs : Split receipt pieces)
    (hk : k < pieces.length) :
    let self := (arrived start pieces k).restarted (UInt8.ofNat k) (UInt8.ofNat pieces.length)
    self.bytes = (pieces.take k).flatten ∧ self.total = UInt8.ofNat pieces.length ∧
      self.next = UInt8.ofNat k := by
  have hcount := hs.count
  cases k with
  | zero => exact ⟨rfl, rfl, rfl⟩
  | succ k =>
    have hne : UInt8.ofNat (k + 1) ≠ UInt8.ofNat 0 :=
      index_ne (by omega) (by omega) (Nat.succ_ne_zero k)
    rw [restarted_later hne]
    exact ⟨rfl, rfl, rfl⟩

/-- The expected fragment moves the assembler on by one. -/
theorem append_fragment (start : RegulatoryReceiptAssembler) {self : RegulatoryReceiptAssembler}
    (hs : Split receipt pieces)
    (hk : k < pieces.length) (hbytes : self.bytes = (pieces.take k).flatten)
    (htotal : self.total = UInt8.ofNat pieces.length) (hnext : self.next = UInt8.ofNat k) :
    self.append (UInt8.ofNat k) (UInt8.ofNat pieces.length) (pieces.getD k [])
      = (arrived start pieces (k + 1),
          .ok (if k + 1 = pieces.length then some receipt else none)) := by
  have hcount := hs.count
  have hfits : ¬(UInt8.ofNat pieces.length ≠ self.total ∨ UInt8.ofNat k ≠ self.next ∨
      REGULATORY_RECEIPT_LENGTH < self.bytes.length + (pieces.getD k []).length) := by
    rw [htotal, hnext, hbytes]
    simpa using (length_piece_le hs hk).2
  obtain ⟨hstate, hanswer⟩ := append_expected hfits
  have hsucc : self.next + 1 = UInt8.ofNat (k + 1) := by
    rw [hnext]
    exact (UInt8.ofNat_add k 1).symm
  have hpayload : self.bytes ++ pieces.getD k [] = (pieces.take (k + 1)).flatten := by
    rw [hbytes, take_succ_flatten hk]
  refine Prod.ext ?_ ?_
  · rw [hstate, hsucc, hpayload, htotal]
    rfl
  · rw [hanswer, hsucc, hpayload, htotal]
    by_cases hlast : k + 1 = pieces.length
    · have hwhole : (pieces.take (k + 1)).flatten = receipt := by
        rw [hlast, List.take_length, hs.whole]
      rw [if_pos (by rw [hlast]), if_pos hlast, hwhole, if_neg (by rw [hs.length]; simp)]
    · rw [if_neg (index_ne (by omega) hcount hlast), if_neg hlast]

theorem push_next (hs : Split receipt pieces) (hstart : start.previous ≠ fragment pieces 0)
    (hk : k < pieces.length) :
    (arrived start pieces k).push (fragment pieces k)
      = (arrived start pieces (k + 1),
          .ok (if k + 1 = pieces.length then some receipt else none)) := by
  -- a fragment is a duplicate only of itself
  have hnew : fragment pieces k ≠ (arrived start pieces k).previous := by
    cases k with
    | zero => exact hstart.symm
    | succ k => exact fragment_ne hs hk (by omega) (Nat.succ_ne_self k)
  obtain ⟨hbytes, htotal, hnext⟩ := restarted_expected start hs hk
  refine (push_fragment (wellFormed_fragment hs hk) hnew).trans ?_
  exact append_fragment start hs hk hbytes htotal hnext

theorem push_duplicate (hs : Split receipt pieces) (hk : k < pieces.length) :
    (arrived start pieces (k + 1)).push (fragment pieces k)
      = (arrived start pieces (k + 1), .ok none) :=
  push_again (wellFormed_fragment hs hk) rfl

/-- Fragment 0 again: a duplicate when it was the last one, else it starts over. -/
theorem push_restart (hs : Split receipt pieces) (hk : k < pieces.length) :
    (arrived start pieces (k + 1)).push (fragment pieces 0)
      = (arrived start pieces 1, .ok none) := by
  have hpos : 0 < pieces.length := by omega
  cases k with
  -- after fragment 0 alone, which may be the whole receipt, a restart is a duplicate
  | zero => exact push_duplicate hs hpos
  | succ k =>
    have hnew : fragment pieces 0 ≠ (arrived start pieces (k + 2)).previous :=
      fragment_ne hs hpos hk (Nat.succ_ne_zero k).symm
    refine (push_fragment (wellFormed_fragment hs hpos) hnew).trans ?_
    refine (append_fragment start hs hpos rfl rfl rfl).trans ?_
    rw [if_neg (by omega)]

/-- One move of a delivery. -/
theorem push_move (hs : Split receipt pieces) (hstart : start.previous ≠ fragment pieces 0)
    (hk : k ≤ pieces.length) {move : Move} (h : move.Allowed pieces.length k) :
    (arrived start pieces k).push (move.frame pieces k)
      = (arrived start pieces (move.arrived k), .ok (move.answer receipt pieces.length k)) := by
  cases move with
  | next => exact push_next hs hstart h
  | duplicate =>
    obtain ⟨k, rfl⟩ : ∃ i, k = i + 1 := Nat.exists_eq_add_one.mpr h
    exact push_duplicate hs (by omega)
  | restart =>
    obtain ⟨k, rfl⟩ : ∃ i, k = i + 1 := Nat.exists_eq_add_one.mpr h
    exact push_restart hs (by omega)

theorem Move.arrived_le {move : Move} (hk : k ≤ pieces.length)
    (h : move.Allowed pieces.length k) : move.arrived k ≤ pieces.length := by
  cases move with
  | next => exact h
  | duplicate => exact hk
  | restart => exact le_trans h hk

/-- A whole delivery, whatever is sent twice and however often it starts over. -/
theorem answers_delivery (start : RegulatoryReceiptAssembler) (hs : Split receipt pieces)
    (hstart : start.previous ≠ fragment pieces 0)
    (moves : List Move) (hk : k ≤ pieces.length) (h : Delivery pieces.length k moves) :
    (arrived start pieces k).answers (frames pieces k moves)
      = expected receipt pieces.length k moves := by
  induction moves generalizing k with
  | nil => rfl
  | cons move moves ih =>
    obtain ⟨hmove, hrest⟩ := h
    show _ :: _ = _
    rw [push_move hs hstart hk hmove, ih (Move.arrived_le hk hmove) hrest]
    rfl

end Delivery

/-! ## What a published receipt is made of -/

/-- The frame is refused when `count` pieces of `total`, together `size` bytes, have arrived, and
does not start over. -/
def Refused (total : UInt8) (count size : Nat) : List UInt8 → Prop
  | index :: total' :: payload =>
    wellFormed (index :: total' :: payload) index total' = false ∨
      index ≠ 0 ∧ (total' ≠ total ∨ index.toNat ≠ count ∨
        REGULATORY_RECEIPT_LENGTH < size + payload.length)
  | _ => True

/-- One run of fragments with one total, in order from fragment 0, and the pieces it carries.
Between the fragments stand only repetitions of the last one and frames that are refused. -/
inductive Spelled (total : UInt8) : List (List UInt8) → List (List UInt8) → Prop
  | first (payload : List UInt8) : Spelled total [0 :: total :: payload] [payload]
  | next {run pieces : List (List UInt8)} (payload : List UInt8) (h : Spelled total run pieces) :
      Spelled total (run ++ [UInt8.ofNat pieces.length :: total :: payload]) (pieces ++ [payload])
  | duplicate {run pieces : List (List UInt8)} {payload : List UInt8}
      (h : Spelled total run (pieces ++ [payload])) :
      Spelled total (run ++ [UInt8.ofNat pieces.length :: total :: payload]) (pieces ++ [payload])
  | refused {run pieces : List (List UInt8)} {frame : List UInt8} (h : Spelled total run pieces)
      (hframe : Refused total pieces.length pieces.flatten.length frame) :
      Spelled total (run ++ [frame]) pieces

/-- The assembler stands in a run that the history ends with. -/
structure InRun (history : List (List UInt8)) (assembler : RegulatoryReceiptAssembler)
    (before run pieces : List (List UInt8)) (last : List UInt8) : Prop where
  split : history = before ++ run
  spelled : Spelled assembler.total run (pieces ++ [last])
  next : assembler.next.toNat = pieces.length + 1
  bytes : assembler.bytes = (pieces ++ [last]).flatten
  previous : assembler.previous = UInt8.ofNat pieces.length :: assembler.total :: last

/-- After any history: nothing has arrived, or a run has begun. -/
def Sound (history : List (List UInt8)) (self : RegulatoryReceiptAssembler) : Prop :=
  self.next = 0 ∧ self.bytes = [] ∨ ∃ before run pieces last, InRun history self before run pieces last

section Sound

variable {history before run pieces : List (List UInt8)} {self : RegulatoryReceiptAssembler}
variable {index total : UInt8} {payload last frame : List UInt8}

theorem sound_default : Sound [] {} :=
  Or.inl ⟨rfl, rfl⟩

/-- A frame that the run refuses leaves it as it is. -/
theorem InRun.refused (h : InRun history self before run pieces last)
    (hframe : Refused self.total (pieces.length + 1) (pieces ++ [last]).flatten.length frame) :
    InRun (history ++ [frame]) self before (run ++ [frame]) pieces last where
  split := by rw [h.split, List.append_assoc]
  spelled := h.spelled.refused (by rw [List.length_append]; exact hframe)
  next := h.next
  bytes := h.bytes
  previous := h.previous

theorem InRun.again (h : InRun history self before run pieces last) :
    InRun (history ++ [self.previous]) self before (run ++ [self.previous]) pieces last where
  split := by rw [h.split, List.append_assoc]
  spelled := by
    rw [h.previous]
    exact h.spelled.duplicate
  next := h.next
  bytes := h.bytes
  previous := h.previous

/-- A frame that neither arrives nor starts over. -/
theorem Sound.refused (h : Sound history self)
    (hframe : ∀ before run pieces last, InRun history self before run pieces last →
      Refused self.total (pieces.length + 1) (pieces ++ [last]).flatten.length frame) :
    Sound (history ++ [frame]) self := by
  rcases h with hnone | ⟨before, run, pieces, last, h⟩
  · exact Or.inl hnone
  · exact Or.inr ⟨before, _, pieces, last, h.refused (hframe before run pieces last h)⟩

/-- The bytes are a receipt's, and the history ends with the run that spelled them. -/
def Published (history : List (List UInt8)) (out : List UInt8) : Prop :=
  out.length = REGULATORY_RECEIPT_LENGTH ∧ ∃ total before run pieces,
    history = before ++ run ∧ Spelled total run pieces ∧ pieces.length = total.toNat ∧
      out = pieces.flatten

/-- What a step keeps, and what it may answer. -/
def Kept (history : List (List UInt8)) (result : RegulatoryReceiptAssembler × Answer) : Prop :=
  Sound history result.1 ∧ ∀ out, result.2 = .ok (some out) → Published history out

theorem Kept.error {e : DeviceSdkError} (h : Sound history self) : Kept history (self, .error e) :=
  ⟨h, fun _ hout => nomatch hout⟩

/-- A fragment that is taken: the run has one piece more. -/
theorem kept_append (before pieces : List (List UInt8)) (hindex : index = self.next)
    (htotal : total = self.total)
    (hwf : wellFormed (index :: total :: payload) index total)
    (hsize : self.bytes.length + payload.length ≤ REGULATORY_RECEIPT_LENGTH)
    (hsplit : history ++ [index :: total :: payload] = before ++ run)
    (hspelled : Spelled self.total run (pieces ++ [payload]))
    (hnext : self.next.toNat = pieces.length) (hbytes : self.bytes = pieces.flatten) :
    Kept (history ++ [index :: total :: payload]) (self.append index total payload) := by
  subst hindex htotal
  have hfits : ¬(self.total ≠ self.total ∨ self.next ≠ self.next ∨
      REGULATORY_RECEIPT_LENGTH < self.bytes.length + payload.length) := by
    simpa using hsize
  -- the index is below a total of at most 64, so that the next one does not wrap
  obtain ⟨-, -, -, htotal64, hlt⟩ := of_decide_eq_true hwf
  rw [UInt8.le_iff_toNat_le] at htotal64
  rw [UInt8.lt_iff_toNat_lt] at hlt
  have h64 : (64 : UInt8).toNat = 64 := rfl
  have hsucc : (self.next + 1).toNat = pieces.length + 1 := by
    rw [UInt8.toNat_add, hnext]
    show (pieces.length + 1) % 256 = _
    omega
  have hflat : self.bytes ++ payload = (pieces ++ [payload]).flatten := by
    rw [List.flatten_append, List.flatten_singleton, hbytes]
  have hindex : self.next = UInt8.ofNat pieces.length := by
    rw [← hnext, UInt8.ofNat_toNat]
  obtain ⟨hstate, hanswer⟩ := append_expected hfits
  constructor
  · rw [hstate]
    refine Or.inr ⟨before, run, pieces, payload, hsplit, hspelled, hsucc, hflat, ?_⟩
    rw [← hindex]
  · intro out hout
    rw [hanswer] at hout
    split at hout
    · rename_i hlast
      split at hout
      · nomatch hout
      · rename_i hlength
        obtain rfl : self.bytes ++ payload = out := Option.some.inj (Except.ok.inj hout)
        refine ⟨Decidable.not_not.mp hlength, self.total, before, run, _, hsplit, hspelled, ?_, hflat⟩
        rw [← hlast, hsucc, List.length_append, List.length_singleton]
    · nomatch hout

/-- Fragment 0 begins a run of its own. -/
theorem kept_first (hwf : wellFormed (0 :: total :: payload) 0 total) :
    Kept (history ++ [0 :: total :: payload]) ((self.restarted 0 total).append 0 total payload) := by
  rw [restarted_first]
  by_cases hsize : REGULATORY_RECEIPT_LENGTH < payload.length
  · -- what had arrived before is gone, and the fragment is not taken either
    rw [append_refused (Or.inr (Or.inr (by simpa using hsize)))]
    exact Kept.error (Or.inl ⟨rfl, rfl⟩)
  · exact kept_append history [] rfl rfl hwf (by simpa using hsize) rfl
      (Spelled.first payload) rfl rfl

/-- A later fragment continues the run, or is refused. -/
theorem kept_later (h : Sound history self) (hindex : index ≠ 0)
    (hwf : wellFormed (index :: total :: payload) index total) :
    Kept (history ++ [index :: total :: payload])
      ((self.restarted index total).append index total payload) := by
  rw [restarted_later hindex]
  by_cases hrefused : total ≠ self.total ∨ index ≠ self.next ∨
      REGULATORY_RECEIPT_LENGTH < self.bytes.length + payload.length
  · rw [append_refused hrefused]
    refine Kept.error (h.refused fun before run pieces last hrun => Or.inr ⟨hindex, ?_⟩)
    rw [← hrun.bytes, ← hrun.next, Ne, Ne, UInt8.toNat_inj]
    exact hrefused
  · obtain ⟨htotal, hnext, hsize⟩ := not_or.mp hrefused |>.imp_right not_or.mp
    have hnext : index = self.next := Decidable.not_not.mp hnext
    have htotal : total = self.total := Decidable.not_not.mp htotal
    rcases h with ⟨hzero, -⟩ | ⟨before, run, pieces, last, hrun⟩
    · -- nothing has arrived, and only fragment 0 is expected
      exact absurd (hnext.trans hzero) hindex
    · have hlen : (pieces ++ [last]).length = pieces.length + 1 := List.length_append
      have hfragment : index :: total :: payload
          = UInt8.ofNat (pieces ++ [last]).length :: self.total :: payload := by
        rw [hlen, ← hrun.next, UInt8.ofNat_toNat, hnext, htotal]
      refine kept_append before _ hnext htotal hwf (Nat.not_lt.mp hsize) ?_
        (hrun.spelled.next payload) (hrun.next.trans hlen.symm) hrun.bytes
      rw [hrun.split, List.append_assoc, hfragment]

/-- One frame. -/
theorem push_kept (h : Sound history self) : Kept (history ++ [frame]) (self.push frame) := by
  match frame with
  | [] => exact Kept.error (h.refused fun _ _ _ _ _ => trivial)
  | [_] => exact Kept.error (h.refused fun _ _ _ _ _ => trivial)
  | index :: total :: payload =>
    by_cases hwf : wellFormed (index :: total :: payload) index total = false
    · rw [push_malformed hwf]
      exact Kept.error (h.refused fun _ _ _ _ _ => Or.inl hwf)
    have hwf : wellFormed (index :: total :: payload) index total := by simpa using hwf
    by_cases hagain : index :: total :: payload = self.previous
    · rw [push_again hwf hagain]
      refine ⟨?_, fun _ hout => nomatch hout⟩
      -- a frame from before a failed restart may come again while nothing has arrived
      rcases h with hnone | ⟨before, run, pieces, last, hrun⟩
      · exact Or.inl hnone
      · rw [hagain]
        exact Or.inr ⟨before, _, pieces, last, hrun.again⟩
    · rw [push_fragment hwf hagain]
      by_cases hindex : index = 0
      · subst hindex
        exact kept_first hwf
      · exact kept_later h hindex hwf

theorem sound_after (h : Sound history self) (frames : List (List UInt8)) :
    Sound (history ++ frames) (self.after frames) := by
  induction frames generalizing history self with
  | nil => rwa [List.append_nil]
  | cons frame frames ih =>
    rw [List.append_cons]
    exact ih (push_kept h).1

end Sound

/-- For every receipt and every split of it, delivered in order with repetitions of the last
fragment and restarts anywhere, the answers are the receipt at each last fragment that is not a
repetition and nothing before it; and whatever is returned after any frames is a receipt's length of
bytes that one run spelled. -/
theorem receipt_reassembly :
    (∀ receipt pieces moves, Split receipt pieces → Delivery pieces.length 0 moves →
      answers {} (frames pieces 0 moves) = expected receipt pieces.length 0 moves) ∧
    ∀ history frame out, ((after {} history).push frame).2 = .ok (some out) →
      out.length = REGULATORY_RECEIPT_LENGTH ∧ ∃ total before run pieces,
        history ++ [frame] = before ++ run ∧ Spelled total run pieces ∧
          pieces.length = total.toNat ∧ out = pieces.flatten := by
  constructor
  · intro receipt pieces moves hs h
    have hstart : ({} : RegulatoryReceiptAssembler).previous ≠ fragment pieces 0 :=
      List.cons_ne_nil _ _ |>.symm
    exact answers_delivery {} hs hstart moves (Nat.zero_le _) h
  · intro history frame out h
    exact (push_kept (sound_after sound_default history)).2 out h

/-- Two fragments, the first sent twice, and the whole receipt once more. -/
theorem receipt_reassembly_sample :
    let pieces := [List.replicate 100 (1 : UInt8), List.replicate 98 (2 : UInt8)]
    let receipt := pieces.flatten
    answers {} (frames pieces 0 [.next, .duplicate, .next, .restart, .next])
        = [.ok none, .ok none, .ok (some receipt), .ok none, .ok (some receipt)] ∧
      receipt.length = REGULATORY_RECEIPT_LENGTH := by
  intro pieces receipt
  have hs : Split receipt pieces := ⟨by decide +kernel, rfl, by decide, by decide⟩
  have hd : Delivery pieces.length 0 [.next, .duplicate, .next, .restart, .next] := by
    decide
  have hout : ((after {} [fragment pieces 0]).push (fragment pieces 1)).2 = .ok (some receipt) := by
    decide +kernel
  exact ⟨receipt_reassembly.1 receipt pieces _ hs hd,
    (receipt_reassembly.2 [fragment pieces 0] (fragment pieces 1) receipt hout).1⟩

/-! ## Runs that were interrupted -/

section Interrupted

/-- A run with nothing between its fragments but repetitions of the last one. -/
inductive Uninterrupted (total : UInt8) : List (List UInt8) → List (List UInt8) → Prop
  | first (payload : List UInt8) : Uninterrupted total [0 :: total :: payload] [payload]
  | next {run pieces : List (List UInt8)} (payload : List UInt8)
      (h : Uninterrupted total run pieces) :
      Uninterrupted total (run ++ [UInt8.ofNat pieces.length :: total :: payload])
        (pieces ++ [payload])
  | duplicate {run pieces : List (List UInt8)} {payload : List UInt8}
      (h : Uninterrupted total run (pieces ++ [payload])) :
      Uninterrupted total (run ++ [UInt8.ofNat pieces.length :: total :: payload])
        (pieces ++ [payload])

variable {total : UInt8} {run pieces : List (List UInt8)}

theorem Uninterrupted.head (h : Uninterrupted total run pieces) :
    ∃ payload rest, run = (0 :: total :: payload) :: rest := by
  induction h with
  | first payload => exact ⟨payload, [], rfl⟩
  | next payload h ih =>
    obtain ⟨opening, rest, rfl⟩ := ih
    exact ⟨opening, _, rfl⟩
  | duplicate h ih =>
    obtain ⟨opening, rest, rfl⟩ := ih
    exact ⟨opening, _, rfl⟩

/-- Every frame of it has its total. -/
theorem Uninterrupted.total_eq (h : Uninterrupted total run pieces) :
    ∀ frame ∈ run, frame[1]? = some total := by
  have snoc : ∀ {run : List (List UInt8)} {index payload}, (∀ frame ∈ run, frame[1]? = some total) →
      ∀ frame ∈ run ++ [index :: total :: payload], frame[1]? = some total := by
    intro run index payload hrun frame hframe
    rcases List.mem_append.mp hframe with hold | hnew
    · exact hrun frame hold
    · rw [List.mem_singleton.mp hnew]
      rfl
  induction h with
  | first payload =>
    intro frame hframe
    rw [List.mem_singleton.mp hframe]
    rfl
  | next payload h ih => exact snoc ih
  | duplicate h ih => exact snoc ih

/-- A frame of another total stands between two fragments of a history that opens once. -/
theorem not_uninterrupted {first between last : List UInt8} {before : List (List UInt8)}
    (hbetween : between[1]? ≠ first[1]?) (hopens : between.head? ≠ some 0)
    (hlast : last.head? ≠ some 0) (hsplit : [first, between, last] = before ++ run) :
    ¬Uninterrupted total run pieces := by
  intro h
  obtain ⟨payload, rest, rfl⟩ := h.head
  have htotal := h.total_eq
  -- the run starts with the first frame, the refused one or the last
  rcases before with _ | ⟨_, _ | ⟨_, before⟩⟩
  · -- the run is the whole history
    rw [List.nil_append] at hsplit
    rw [← hsplit] at htotal
    exact hbetween ((htotal between (by simp)).trans (htotal first (by simp)).symm)
  · obtain ⟨-, hsplit⟩ := List.cons.inj hsplit
    rw [(List.cons.inj hsplit).1] at hopens
    exact hopens rfl
  · obtain ⟨-, hsplit⟩ := List.cons.inj (List.cons.inj hsplit).2
    rcases before with _ | ⟨_, before⟩
    · rw [(List.cons.inj hsplit).1] at hlast
      exact hlast rfl
    · exact absurd (congrArg List.length hsplit) (by simp)

/-- Two fragments of a receipt, and a frame of three between them. -/
def interrupted : List (List UInt8) :=
  [0 :: 2 :: List.replicate 100 1, [1, 3, 9], 1 :: 2 :: List.replicate 98 2]

/-- The receipt is returned although a refused frame stands between its fragments; and a restart of
a receipt of one fragment is taken for a repetition. -/
theorem receipt_reassembly_counterexample :
    (answers {} interrupted = [.ok none, .error invalid,
        .ok (some (List.replicate 100 1 ++ List.replicate 98 2))] ∧
      ¬∃ total before run pieces, interrupted = before ++ run ∧
        Uninterrupted total run pieces) ∧
    answers {} (frames [List.replicate 198 1] 0 [.next, .restart]) =
      [.ok (some (List.replicate 198 1)), .ok none] := by
  refine ⟨⟨by decide +kernel, ?_⟩, by decide +kernel⟩
  rintro ⟨total, before, run, pieces, hsplit, h⟩
  exact not_uninterrupted (by decide) (by decide) (by decide) hsplit h

end Interrupted

end RegulatoryReceiptAssembler

end BotaSdk
