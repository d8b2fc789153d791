import BotaSdk.Protocol.EncryptedUploadV2Receiver

/-!
# Consecutive packets of the batch-v2 receiver

What the loops of the receiver read off the buffered packets: the contiguous run that the scan of a
window finds, and the part of it that one append takes.
-/

namespace BotaSdk.EncryptedUploadV2Receiver

open Protocol

/-- The bytes of packets, one after the other. -/
def content (packets : List Packet) : List UInt8 :=
  packets.flatMap Packet.bytes

@[simp] theorem content_nil : content [] = [] := rfl

@[simp] theorem content_cons (packet : Packet) (rest : List Packet) :
    content (packet :: rest) = packet.bytes ++ content rest := List.flatMap_cons

@[simp] theorem content_append (front back : List Packet) :
    content (front ++ back) = content front ++ content back := List.flatMap_append

/-- `run` are the packets of the sequences from `sequence` on, the first at `offset` and each
starting where the one before it stops. -/
def Chain (packets : BySequence Packet) : Nat → Nat → List Packet → Prop
  | _, _, [] => True
  | sequence, offset, packet :: run =>
    packets.lookup sequence = some packet ∧ packet.offset = offset ∧
      Chain packets (sequence + 1) packet.stop run

section Chains

variable {packets : BySequence Packet} {sequence offset : Nat} {run front back : List Packet}

theorem chain_append : Chain packets sequence offset (front ++ back) ↔
    Chain packets sequence offset front ∧
      Chain packets (sequence + front.length) (offset + (content front).length) back := by
  induction front generalizing sequence offset with
  | nil => simp [Chain]
  | cons packet front ih =>
    simp only [List.cons_append, Chain, ih, content_cons, List.length_append, List.length_cons]
    constructor
    · rintro ⟨hlookup, rfl, hfront, hback⟩
      refine ⟨⟨hlookup, rfl, hfront⟩, ?_⟩
      rwa [← Nat.add_assoc packet.offset, show sequence + (front.length + 1) =
        sequence + 1 + front.length by omega]
    · rintro ⟨⟨hlookup, rfl, hfront⟩, hback⟩
      refine ⟨hlookup, rfl, hfront, ?_⟩
      rwa [← Nat.add_assoc packet.offset, show sequence + (front.length + 1) =
        sequence + 1 + front.length by omega] at hback

/-- A packet buffered under a fresh sequence breaks no chain. -/
theorem Chain.insert {fresh : Nat} {packet : Packet} (hfresh : fresh ∉ packets)
    (h : Chain packets sequence offset run) :
    Chain (packets.insert fresh packet) sequence offset run := by
  induction run generalizing sequence offset with
  | nil => trivial
  | cons head run ih =>
    obtain ⟨hlookup, hoffset, hrun⟩ := h
    have hne : sequence ≠ fresh := by
      rintro rfl
      rw [AList.lookup_eq_none.mpr hfresh] at hlookup
      exact nomatch hlookup
    exact ⟨by rw [AList.lookup_insert_ne hne, hlookup], hoffset, ih hrun⟩

/-- Of two chains from one point the shorter one is a part of the longer one. -/
theorem Chain.isPrefix (hfront : Chain packets sequence offset front)
    (hrun : Chain packets sequence offset run) (hlength : front.length ≤ run.length) :
    front <+: run := by
  induction front generalizing sequence offset run with
  | nil => exact List.nil_prefix
  | cons packet front ih =>
    cases run with
    | nil => exact absurd hlength (by simp)
    | cons packet' run =>
      obtain ⟨hlookup, -, hfront⟩ := hfront
      obtain ⟨hlookup', -, hrun⟩ := hrun
      obtain rfl : packet = packet' := Option.some.inj (hlookup.symm.trans hlookup')
      exact List.cons_prefix_cons.mpr ⟨rfl, ih hfront hrun (Nat.le_of_succ_le_succ hlength)⟩

theorem Chain.lookup (h : Chain packets sequence offset run) {index : Nat}
    (hindex : index < run.length) :
    ∃ packet, packets.lookup (sequence + index) = some packet := by
  induction run generalizing sequence offset index with
  | nil => exact absurd hindex (by simp)
  | cons packet run ih =>
    obtain ⟨hlookup, -, hrun⟩ := h
    cases index with
    | zero => exact ⟨packet, hlookup⟩
    | succ index =>
      obtain ⟨found, hfound⟩ := ih hrun (Nat.lt_of_succ_lt_succ hindex)
      exact ⟨found, by rw [← hfound]; congr 1; omega⟩

theorem Chain.mem (h : Chain packets sequence offset run) {packet : Packet} (hmem : packet ∈ run) :
    ∃ key, packets.lookup key = some packet := by
  induction run generalizing sequence offset with
  | nil => exact absurd hmem List.not_mem_nil
  | cons head run ih =>
    obtain ⟨hlookup, -, hrun⟩ := h
    rcases List.mem_cons.mp hmem with rfl | hmem
    · exact ⟨sequence, hlookup⟩
    · exact ih hrun hmem

/-- The range of a map over a chain is the chain. -/
theorem Chain.packetRange {last : Nat} (h : Chain packets sequence offset run)
    (hlast : last + 1 = sequence + run.length) : packetRange packets sequence last = run := by
  unfold EncryptedUploadV2Receiver.packetRange
  rw [show last + 1 - sequence = run.length by omega]
  clear hlast
  induction run generalizing sequence offset with
  | nil => rfl
  | cons packet run ih =>
    obtain ⟨hlookup, -, hrun⟩ := h
    rw [List.length_cons, List.range'_succ]
    simp only [List.filterMap_cons, hlookup]
    rw [ih hrun]

end Chains

/-! ## The scan of a window -/

section Scan

variable {packets : BySequence Packet} {count sequence offset stagedOffset highest : Nat}

/-- What the scan finds, when the staged prefix ends with a packet of the run. -/
structure Scanned (packets : BySequence Packet) (stagedOffset count sequence offset : Nat)
    (result : Nat × Nat) (run : List Packet) : Prop where
  chain : Chain packets sequence offset run
  offset : result.1 = offset + (content run).length
  highest : result.2 + 1 = sequence + run.length
  length : run.length ≤ count
  maximal : run.length = count ∨ packets.lookup (sequence + run.length) = none
  staged : stagedOffset ≤ result.1

theorem scanWindow_cases (hfits : ∀ key packet, packets.lookup key = some packet →
      packet.stop < 2 ^ 64) (hhighest : highest + 1 = sequence)
    {written : List Packet} (hwritten : Chain packets sequence offset written)
    (hroom : written.length ≤ count)
    (hstaged : stagedOffset ≤ offset + (content written).length)
    (hends : written = [] ∨ stagedOffset = offset + (content written).length) :
    (∃ error ≠ stagedPrefixSplits,
        scanWindow packets stagedOffset count sequence offset highest = .err error) ∨
      ∃ result run, scanWindow packets stagedOffset count sequence offset highest = .ok result ∧
        Scanned packets stagedOffset count sequence offset result run := by
  induction count generalizing sequence offset highest written with
  | zero =>
    obtain rfl := List.eq_nil_of_length_eq_zero (Nat.le_zero.mp hroom)
    exact .inr ⟨_, [], rfl, trivial, by simp, by simp [hhighest], by simp, .inl rfl, by
      simpa using hstaged⟩
  | succ count ih =>
    rw [scanWindow]
    cases hlookup : packets.lookup sequence with
    | none =>
      obtain rfl : written = [] := by
        cases written with
        | nil => rfl
        | cons packet written => exact nomatch hlookup.symm.trans hwritten.1
      exact .inr ⟨_, [], rfl, trivial, by simp, by simp [hhighest], by simp, .inr hlookup, by
        simpa using hstaged⟩
    | some packet =>
      dsimp only
      by_cases hoffset : packet.offset = offset
      · rw [if_neg (not_not.mpr hoffset), if_neg (Nat.not_le.mpr (hfits _ _ hlookup))]
        -- the staged prefix ends at or before this packet, or goes on after it
        obtain ⟨rest, hrest, hrestRoom, hrestStaged, hrestEnds, hwhole⟩ :
            ∃ rest, Chain packets (sequence + 1) packet.stop rest ∧ rest.length ≤ count ∧
              stagedOffset ≤ packet.stop + (content rest).length ∧
              (rest = [] ∨ stagedOffset = packet.stop + (content rest).length) ∧
              ¬(packet.offset < stagedOffset ∧ stagedOffset < packet.stop) := by
          cases written with
          | nil =>
            have hle : stagedOffset ≤ packet.offset := by simpa [hoffset] using hstaged
            refine ⟨[], trivial, by simp, ?_, .inl rfl, by omega⟩
            rw [content_nil, List.length_nil, Packet.stop]
            omega
          | cons head written =>
            obtain ⟨hhead, -, hrest⟩ := hwritten
            obtain rfl : head = packet := Option.some.inj (hhead.symm.trans hlookup)
            have hends' : stagedOffset = head.stop + (content written).length := by
              have := hends.resolve_left (List.cons_ne_nil _ _)
              rw [this, content_cons, List.length_append, Packet.stop, hoffset, Nat.add_assoc]
            exact ⟨written, hrest, Nat.le_of_succ_le_succ hroom, hends'.le, .inr hends', by omega⟩
        rw [if_neg hwhole]
        rcases ih rfl hrest hrestRoom hrestStaged hrestEnds with herror | ⟨result, run, hok, hscan⟩
        · exact .inl herror
        refine .inr ⟨result, packet :: run, hok, ⟨hlookup, hoffset, hscan.chain⟩, ?_, ?_, ?_, ?_,
          hscan.staged⟩
        · rw [hscan.offset, content_cons, List.length_append, Packet.stop, hoffset, Nat.add_assoc]
        · rw [hscan.highest, List.length_cons]
          omega
        · exact Nat.succ_le_succ hscan.length
        · rw [List.length_cons, show sequence + (run.length + 1) = sequence + 1 + run.length by omega]
          exact hscan.maximal.imp (congrArg (· + 1)) id
      · rw [if_pos hoffset]
        exact .inl ⟨_, by decide, rfl⟩

end Scan

/-! ## One append -/

section Batch

variable {packets : BySequence Packet} {sequence offset stagedOffset : Nat}
  {run written rest : List Packet}

/-- What is already staged is passed over. -/
theorem appendBatch_written (hchain : Chain packets sequence offset written)
    (hbytes : ∀ packet ∈ written, packet.bytes ≠ [])
    (hstaged : offset + (content written).length ≤ stagedOffset) :
    appendBatch stagedOffset (written ++ rest) [] = appendBatch stagedOffset rest [] := by
  induction written generalizing sequence offset with
  | nil => rfl
  | cons packet written ih =>
    obtain ⟨-, rfl, hrest⟩ := hchain
    have hlength := List.length_pos_iff.mpr (hbytes packet List.mem_cons_self)
    rw [content_cons, List.length_append] at hstaged
    rw [List.cons_append, appendBatch, if_pos (by omega)]
    refine ih hrest (fun p hp => hbytes p (List.mem_cons_of_mem _ hp)) ?_
    rw [Packet.stop]
    omega

/-- One append takes whole packets from the front of what is left. -/
theorem appendBatch_rest (hchain : Chain packets sequence offset rest)
    (hstaged : stagedOffset ≤ offset) (bytes : List UInt8) :
    ∃ batch, batch <+: rest ∧ appendBatch stagedOffset rest bytes = bytes ++ content batch := by
  induction rest generalizing sequence offset bytes with
  | nil => exact ⟨[], List.prefix_rfl, (List.append_nil bytes).symm⟩
  | cons packet rest ih =>
    obtain ⟨-, rfl, hrest⟩ := hchain
    rw [appendBatch, if_neg (Nat.not_lt.mpr hstaged)]
    by_cases hfull : MAXIMUM_APPEND_BYTES < bytes.length + packet.bytes.length
    · rw [if_pos hfull]
      exact ⟨[], List.nil_prefix, (List.append_nil bytes).symm⟩
    · rw [if_neg hfull]
      obtain ⟨batch, hprefix, heq⟩ := ih hrest (Nat.le_add_right_of_le hstaged)
        (bytes ++ packet.bytes)
      refine ⟨packet :: batch, List.cons_prefix_cons.mpr ⟨rfl, hprefix⟩, ?_⟩
      rw [heq, content_cons, List.append_assoc]

/-- One append takes at least one packet, if one is left. -/
theorem appendBatch_ne_nil {packet : Packet} (hoffset : stagedOffset ≤ packet.offset)
    (hbytes : packet.bytes ≠ []) (hsmall : packet.bytes.length ≤ MAXIMUM_APPEND_BYTES) :
    appendBatch stagedOffset (packet :: rest) [] ≠ [] := by
  have hgrows : ∀ (packets : List Packet) (bytes : List UInt8),
      bytes ≠ [] → appendBatch stagedOffset packets bytes ≠ [] := by
    intro packets
    induction packets with
    | nil => exact fun bytes h => h
    | cons head packets ih =>
      intro bytes h
      rw [appendBatch]
      split
      · exact ih bytes h
      · split
        · exact h
        · exact ih _ (List.append_ne_nil_of_left_ne_nil h _)
  rw [appendBatch, if_neg (Nat.not_lt.mpr hoffset), if_neg (by simpa using hsmall)]
  exact hgrows rest _ (by simpa using hbytes)

end Batch

end BotaSdk.EncryptedUploadV2Receiver
