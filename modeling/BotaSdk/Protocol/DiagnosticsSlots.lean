import BotaSdk.Protocol.DiagnosticsMessages

/-!
# The slot of one diagnostics index

A slot that has accepted some messages holds the one META among them, the last SIGNATURE after it,
and what the DETAIL chunks have spelled in order from offset 0.
-/

namespace BotaSdk.Diagnostics

open Checked

/-- An assembly that nothing has been copied to. -/
def freshDetail : DetailAssembly where
  bytes := List.replicate DIAGNOSTIC_DETAIL_FIXED_LENGTH 0
  received := 0

/-- The assembly when the chunks so far have spelled `spelled`. -/
def assemblyOf (spelled : List UInt8) : Option DetailAssembly :=
  if spelled = [] then none
  else some {
    bytes := spelled ++ List.replicate (DIAGNOSTIC_DETAIL_FIXED_LENGTH - spelled.length) 0
    received := spelled.length }

section Assembly

variable {spelled data : List UInt8} {offset : Nat} {known : Bool} {assembled : DetailAssembly}

theorem getD_assemblyOf (spelled : List UInt8) : (assemblyOf spelled).getD freshDetail = {
    bytes := spelled ++ List.replicate (DIAGNOSTIC_DETAIL_FIXED_LENGTH - spelled.length) 0
    received := spelled.length } := by
  unfold assemblyOf
  by_cases h : spelled = []
  · subst h
    rfl
  · rw [if_neg h]
    rfl

theorem assemblyOf_eq_none : assemblyOf spelled = none ↔ spelled = [] := by
  unfold assemblyOf
  by_cases h : spelled = []
  · exact ⟨fun _ => h, fun _ => if_pos h⟩
  · rw [if_neg h]
    exact ⟨fun hnone => (nomatch hnone), fun hnil => absurd hnil h⟩

/-- Copying at the end of what is spelled spells the data. -/
theorem copy_assemblyOf (hfits : spelled.length + data.length ≤ DIAGNOSTIC_DETAIL_FIXED_LENGTH) :
    ((assemblyOf spelled).getD freshDetail).copy spelled.length data = {
      bytes := (spelled ++ data) ++
        List.replicate (DIAGNOSTIC_DETAIL_FIXED_LENGTH - (spelled ++ data).length) 0
      received := (spelled ++ data).length } := by
  rw [getD_assemblyOf]
  unfold DetailAssembly.copy
  have htake : (spelled ++ List.replicate (DIAGNOSTIC_DETAIL_FIXED_LENGTH - spelled.length) 0).take
      spelled.length = spelled := List.take_left
  have hdrop : (spelled ++ List.replicate (DIAGNOSTIC_DETAIL_FIXED_LENGTH - spelled.length)
      (0 : UInt8)).drop (spelled.length + data.length)
      = List.replicate (DIAGNOSTIC_DETAIL_FIXED_LENGTH - (spelled ++ data).length) 0 := by
    rw [List.drop_append, List.drop_eq_nil_of_le (by omega), List.nil_append, List.drop_replicate,
      List.length_append]
    congr 1
    omega
  simp only [htake, hdrop, List.length_append]

theorem beginDetail_eq_ok {detail begun : Option DetailAssembly} :
    beginDetail offset detail = .ok begun ↔
      (offset = 0 → detail = none) ∧ begun = if offset = 0 then some freshDetail else detail := by
  unfold beginDetail
  by_cases hzero : offset = 0
  · rw [if_pos hzero, if_pos hzero]
    cases detail with
    | none => exact ⟨fun h => ⟨fun _ => rfl, (Except.ok.inj h).symm⟩, fun h => by rw [h.2]; rfl⟩
    | some detail => exact ⟨fun h => (nomatch h), fun h => (nomatch h.1 hzero)⟩
  · rw [if_neg hzero, if_neg hzero]
    exact ⟨fun h => ⟨fun h => absurd h hzero, (Except.ok.inj h).symm⟩, fun h => by rw [h.2]⟩

theorem finishDetail_eq_ok {detail : DetailAssembly} : finishDetail known detail = .ok assembled ↔
    (detail.received = DIAGNOSTIC_DETAIL_FIXED_LENGTH →
      known = true ∧ validateDetail detail.bytes = .ok ()) ∧ assembled = detail := by
  unfold finishDetail
  by_cases hfull : detail.received = DIAGNOSTIC_DETAIL_FIXED_LENGTH
  · rw [if_pos hfull]
    cases known with
    | false => exact ⟨fun h => (nomatch h), fun h => (nomatch (h.1 hfull).1)⟩
    | true =>
      rw [if_neg (by decide), seq_eq_ok]
      constructor
      · intro ⟨hvalid, h⟩
        exact ⟨fun _ => ⟨rfl, hvalid⟩, (Except.ok.inj h).symm⟩
      · intro ⟨hvalid, h⟩
        exact ⟨(hvalid hfull).2, by rw [h]⟩
  · rw [if_neg hfull]
    exact ⟨fun h => ⟨fun hf => absurd hf hfull, (Except.ok.inj h).symm⟩, fun h => by rw [h.2]⟩

theorem assemblyOf_append (spelled : List UInt8) (h : data ≠ []) : assemblyOf (spelled ++ data) = some {
    bytes := (spelled ++ data) ++
      List.replicate (DIAGNOSTIC_DETAIL_FIXED_LENGTH - (spelled ++ data).length) 0
    received := (spelled ++ data).length } :=
  if_neg (List.append_ne_nil_of_right_ne_nil spelled h)

/-- What is being assembled when a chunk continues it. -/
theorem begun_assemblyOf {detail : DetailAssembly}
    (hbegin : beginDetail offset (assemblyOf spelled) = .ok (some detail)) :
    detail = (assemblyOf spelled).getD freshDetail := by
  obtain ⟨hnew, hbegun⟩ := beginDetail_eq_ok.mp hbegin
  by_cases hzero : offset = 0
  · rw [hnew hzero]
    rw [if_pos hzero] at hbegun
    exact Option.some.inj hbegun
  · rw [if_neg hzero] at hbegun
    rw [← hbegun]
    rfl

theorem begin_assemblyOf : beginDetail spelled.length (assemblyOf spelled)
    = .ok (some ((assemblyOf spelled).getD freshDetail)) := by
  refine beginDetail_eq_ok.mpr ⟨fun h => assemblyOf_eq_none.mpr (List.length_eq_zero_iff.mp h), ?_⟩
  by_cases hnil : spelled = []
  · subst hnil
    rfl
  · rw [if_neg (fun h => hnil (List.length_eq_zero_iff.mp h))]
    unfold assemblyOf
    rw [if_neg hnil]
    rfl

/-- A complete assembly is padded by nothing. -/
theorem bytes_of_full (h : spelled.length = DIAGNOSTIC_DETAIL_FIXED_LENGTH) :
    spelled ++ List.replicate (DIAGNOSTIC_DETAIL_FIXED_LENGTH - spelled.length) 0 = spelled := by
  rw [h, Nat.sub_self, List.replicate_zero, List.append_nil]

/-- A chunk is accepted when it continues what is spelled, and completes it validly. -/
theorem receiveDetail_assemblyOf :
    receiveDetail offset DIAGNOSTIC_DETAIL_FIXED_LENGTH data known (assemblyOf spelled)
        = .ok assembled ↔
      data ≠ [] ∧ offset = spelled.length ∧
      (spelled ++ data).length ≤ DIAGNOSTIC_DETAIL_FIXED_LENGTH ∧
      ((spelled ++ data).length = DIAGNOSTIC_DETAIL_FIXED_LENGTH →
        known = true ∧ validateDetail (spelled ++ data) = .ok ()) ∧
      assemblyOf (spelled ++ data) = some assembled := by
  have hreceived : ((assemblyOf spelled).getD freshDetail).received = spelled.length := by
    rw [getD_assemblyOf]
  constructor
  · intro h
    obtain ⟨-, hne, hfits⟩ := receiveDetail_eq_ok h
    unfold receiveDetail at h
    rw [if_neg (not_or.mpr ⟨not_not.mpr rfl, not_or.mpr ⟨hne, Nat.not_lt.mpr hfits⟩⟩),
      bind_eq_ok] at h
    obtain ⟨begun, hbegin, h⟩ := h
    cases begun with
    | none => exact nomatch h
    | some detail =>
      obtain rfl := begun_assemblyOf hbegin
      dsimp only at h
      by_cases hoffset : ((assemblyOf spelled).getD freshDetail).received ≠ offset
      · rw [if_pos hoffset] at h
        exact nomatch h
      · obtain rfl : spelled.length = offset := hreceived.symm.trans (not_not.mp hoffset)
        rw [if_neg hoffset, copy_assemblyOf hfits, finishDetail_eq_ok] at h
        obtain ⟨hfull, rfl⟩ := h
        have hlen : (spelled ++ data).length ≤ DIAGNOSTIC_DETAIL_FIXED_LENGTH := by
          rw [List.length_append]
          exact hfits
        refine ⟨hne, rfl, hlen, fun hcomplete => ?_, assemblyOf_append _ hne⟩
        obtain ⟨hknown, hvalid⟩ := hfull hcomplete
        rw [bytes_of_full hcomplete] at hvalid
        exact ⟨hknown, hvalid⟩
  · rintro ⟨hne, rfl, hlen, hfull, hassembled⟩
    rw [List.length_append] at hlen
    unfold receiveDetail
    rw [if_neg (not_or.mpr ⟨not_not.mpr rfl, not_or.mpr ⟨hne, Nat.not_lt.mpr hlen⟩⟩), bind_eq_ok]
    refine ⟨_, begin_assemblyOf, ?_⟩
    dsimp only
    rw [if_neg (not_not.mpr hreceived), copy_assemblyOf hlen, finishDetail_eq_ok]
    rw [assemblyOf_append _ hne] at hassembled
    refine ⟨fun hcomplete => ?_, (Option.some.inj hassembled).symm⟩
    rw [bytes_of_full hcomplete]
    exact hfull hcomplete

end Assembly

/-! ## What a slot has accepted -/

namespace Body

def metadata? : Body → Option Metadata
  | .metadata said => some said
  | _ => none

def signature? : Body → Option String
  | .signature said => some said
  | _ => none

def detail? : Body → Option (Nat × List UInt8)
  | .detail offset data => some (offset, data)
  | _ => none

end Body

def metas (bodies : List Body) : List Metadata :=
  bodies.filterMap Body.metadata?

def signatures (bodies : List Body) : List String :=
  bodies.filterMap Body.signature?

def chunks (bodies : List Body) : List (Nat × List UInt8) :=
  bodies.filterMap Body.detail?

/-- The bytes that chunks carry. -/
def spell (chunks : List (Nat × List UInt8)) : List UInt8 :=
  chunks.flatMap Prod.snd

/-- Every chunk begins where the chunks before it end. -/
def InOrder (chunks : List (Nat × List UInt8)) : Prop :=
  ∀ before chunk after, chunks = before ++ chunk :: after → chunk.1 = (spell before).length

/-- The metadata with the last signature that came after it. -/
def signedBy (metadata : Metadata) (signatures : List String) : Metadata :=
  { metadata with signature := (signatures.getLast?).or metadata.signature }

/-- What a slot's entries say about the messages it has accepted. -/
structure Sound (bodies : List Body) (slot : Slot) : Prop where
  unknown : slot.event = none → metas bodies = []
  known : ∀ event, slot.event = some event → ∃ metadata before after,
    bodies = before ++ .metadata metadata :: after ∧ metas before = [] ∧ metas after = [] ∧
      event = signedBy metadata (signatures after)
  order : InOrder (chunks bodies)
  nonempty : ∀ chunk ∈ chunks bodies, chunk.2 ≠ []
  detail : slot.detail = assemblyOf (spell (chunks bodies))
  valid : (spell (chunks bodies)).length = DIAGNOSTIC_DETAIL_FIXED_LENGTH →
    validateDetail (spell (chunks bodies)) = .ok ()

section Sound

variable {bodies rest : List Body} {slot slot' : Slot} {body : Body} {offset : Nat}
variable {data : List UInt8} {given given' : List (Nat × List UInt8)}

@[simp] theorem metas_append : metas (bodies ++ rest) = metas bodies ++ metas rest :=
  List.filterMap_append

@[simp] theorem signatures_append :
    signatures (bodies ++ rest) = signatures bodies ++ signatures rest :=
  List.filterMap_append

@[simp] theorem chunks_append : chunks (bodies ++ rest) = chunks bodies ++ chunks rest :=
  List.filterMap_append

@[simp] theorem spell_append : spell (given ++ given') = spell given ++ spell given' :=
  List.flatMap_append

theorem inOrder_nil : InOrder [] := by
  intro before chunk after h
  simp at h

theorem InOrder.snoc (h : InOrder given) (hoffset : offset = (spell given).length) :
    InOrder (given ++ [(offset, data)]) := by
  intro before chunk after heq
  rcases List.eq_nil_or_concat after with rfl | ⟨init, last, rfl⟩
  · obtain ⟨rfl, hchunk⟩ := List.append_inj' heq rfl
    rw [← (List.cons.inj hchunk).1]
    exact hoffset
  · rw [List.concat_eq_append, ← List.cons_append, ← List.append_assoc] at heq
    obtain ⟨rfl, -⟩ := List.append_inj' heq rfl
    exact h before chunk init rfl

theorem sound_empty : Sound [] {} where
  unknown := fun _ => rfl
  known := fun _ h => nomatch h
  order := inOrder_nil
  nonempty := by simp [chunks]
  detail := rfl
  valid := fun h => nomatch h

theorem chunks_metadata (metadata : Metadata) :
    chunks (bodies ++ [.metadata metadata]) = chunks bodies := by
  rw [chunks_append]
  exact List.append_nil _

theorem chunks_signature (signature : String) :
    chunks (bodies ++ [.signature signature]) = chunks bodies := by
  rw [chunks_append]
  exact List.append_nil _

theorem metas_signature (signature : String) :
    metas (bodies ++ [.signature signature]) = metas bodies := by
  rw [metas_append]
  exact List.append_nil _

theorem Sound.metadata (h : Sound bodies slot) (hnew : slot.event = none) (metadata : Metadata) :
    Sound (bodies ++ [.metadata metadata]) { slot with event := some metadata } where
  unknown := fun h => nomatch h
  known := by
    intro event hevent
    obtain rfl := Option.some.inj hevent
    exact ⟨_, bodies, [], rfl, h.unknown hnew, rfl, rfl⟩
  order := by rw [chunks_metadata]; exact h.order
  nonempty := by rw [chunks_metadata]; exact h.nonempty
  detail := by rw [chunks_metadata]; exact h.detail
  valid := by rw [chunks_metadata]; exact h.valid

theorem Sound.signature (h : Sound bodies slot) (signature : String) :
    Sound (bodies ++ [.signature signature]) { slot with event := Slot.sign signature slot.event } where
  unknown := by
    intro hnone
    have hevent : slot.event = none := Option.map_eq_none_iff.mp hnone
    rw [metas_signature, h.unknown hevent]
  known := by
    intro event hevent
    obtain ⟨old, hold, rfl⟩ := Option.map_eq_some_iff.mp hevent
    obtain ⟨metadata, before, after, rfl, hbefore, hafter, rfl⟩ := h.known old hold
    refine ⟨metadata, before, after ++ [.signature signature], ?_, hbefore, ?_, ?_⟩
    · rw [List.append_assoc, List.cons_append]
    · rw [metas_signature, hafter]
    · have hlast : signatures (after ++ [.signature signature]) = signatures after ++ [signature] := by
        rw [signatures_append]
        rfl
      unfold signedBy
      rw [hlast, List.getLast?_concat]
      rfl
  order := by rw [chunks_signature]; exact h.order
  nonempty := by rw [chunks_signature]; exact h.nonempty
  detail := by rw [chunks_signature]; exact h.detail
  valid := by rw [chunks_signature]; exact h.valid

theorem chunks_snoc : chunks (bodies ++ [.detail offset data]) = chunks bodies ++ [(offset, data)] := by
  rw [chunks_append]
  rfl

theorem spell_snoc : spell (given ++ [(offset, data)]) = spell given ++ data := by
  rw [spell_append]
  simp [spell]

theorem Sound.chunk (h : Sound bodies slot)
    (hreceive : slot.receive (.detail offset data) = some slot') :
    Sound (bodies ++ [.detail offset data]) slot' := by
  obtain ⟨assembled, hassembled, rfl⟩ := receive_detail_eq_some.mp hreceive
  rw [h.detail, receiveDetail_assemblyOf] at hassembled
  obtain ⟨hne, hoffset, -, hfull, heq⟩ := hassembled
  have hmetas : metas (bodies ++ [.detail offset data]) = metas bodies := by
    rw [metas_append]
    exact List.append_nil _
  constructor
  · intro hnone
    rw [hmetas]
    exact h.unknown hnone
  · intro event hevent
    obtain ⟨metadata, before, after, rfl, hbefore, hafter, rfl⟩ := h.known event hevent
    refine ⟨metadata, before, after ++ [.detail offset data], ?_, hbefore, ?_, ?_⟩
    · rw [List.append_assoc, List.cons_append]
    · rw [metas_append, hafter]
      rfl
    · have hsame : signatures (after ++ [.detail offset data]) = signatures after := by
        rw [signatures_append]
        exact List.append_nil _
      rw [hsame]
  · rw [chunks_snoc]
    exact h.order.snoc hoffset
  · rw [chunks_snoc]
    exact List.forall_mem_append.mpr ⟨h.nonempty, by simpa using hne⟩
  · rw [chunks_snoc, spell_snoc]
    exact heq.symm
  · rw [chunks_snoc, spell_snoc]
    exact fun hlen => (hfull hlen).2

theorem Sound.receive (h : Sound bodies slot) (hreceive : slot.receive body = some slot') :
    Sound (bodies ++ [body]) slot' := by
  cases body with
  | metadata metadata =>
    by_cases hknown : slot.event.isSome
    · have hnone : slot.receive (.metadata metadata) = none := if_pos hknown
      rw [hnone] at hreceive
      exact nomatch hreceive
    · have hsome : slot.receive (.metadata metadata) = some { slot with event := some metadata } :=
        if_neg hknown
      rw [hsome] at hreceive
      obtain rfl := Option.some.inj hreceive
      exact h.metadata (by simpa using hknown) metadata
  | signature signature =>
    obtain rfl := Option.some.inj hreceive
    exact h.signature signature
  | detail offset data => exact h.chunk hreceive

/-- What a slot holds after any run that it accepts. -/
theorem sound_of_run (h : Keyed.runSlot Slot.receive {} bodies = some slot) : Sound bodies slot :=
  Keyed.runSlot_invariant sound_empty (fun _ _ _ _ hsound hreceive => hsound.receive hreceive) h

end Sound

/-! ## The messages of one event in its own order -/

/-- The chunks of a detail, from `start` on. -/
def chunkBodies (start : Nat) : List (List UInt8) → List Body
  | [] => []
  | piece :: pieces => .detail start piece :: chunkBodies (start + piece.length) pieces

/-- The chunks may begin before the META and go on after the SIGNATURE. -/
def ownOrder (metadata : Metadata) (signature : String)
    (before between after : List (List UInt8)) : List Body :=
  chunkBodies 0 before ++ .metadata metadata ::
    (chunkBodies before.flatten.length between ++ .signature signature ::
      chunkBodies (before ++ between).flatten.length after)

section OwnOrder

variable {event : Option Metadata} {spelled : List UInt8} {pieces : List (List UInt8)}

theorem receive_chunk {data : List UInt8} (hne : data ≠ [])
    (hfits : (spelled ++ data).length ≤ DIAGNOSTIC_DETAIL_FIXED_LENGTH)
    (hfull : (spelled ++ data).length = DIAGNOSTIC_DETAIL_FIXED_LENGTH →
      event.isSome ∧ validateDetail (spelled ++ data) = .ok ()) :
    Slot.receive { event, detail := assemblyOf spelled } (.detail spelled.length data)
      = some { event, detail := assemblyOf (spelled ++ data) } := by
  have hassembled := assemblyOf_append spelled hne
  refine receive_detail_eq_some.mpr ⟨_, receiveDetail_assemblyOf.mpr
    ⟨hne, rfl, hfits, hfull, hassembled⟩, ?_⟩
  rw [hassembled]

/-- Chunks in order are accepted; the last one needs the META and a valid detail. -/
theorem runSlot_chunks (event : Option Metadata) (spelled : List UInt8) (hne : ∀ piece ∈ pieces, piece ≠ [])
    (hfits : (spelled ++ pieces.flatten).length ≤ DIAGNOSTIC_DETAIL_FIXED_LENGTH)
    (hfull : (spelled ++ pieces.flatten).length = DIAGNOSTIC_DETAIL_FIXED_LENGTH → pieces ≠ [] →
      event.isSome ∧ validateDetail (spelled ++ pieces.flatten) = .ok ()) :
    Keyed.runSlot Slot.receive { event, detail := assemblyOf spelled }
        (chunkBodies spelled.length pieces)
      = some { event, detail := assemblyOf (spelled ++ pieces.flatten) } := by
  induction pieces generalizing spelled with
  | nil =>
    rw [List.flatten_nil, List.append_nil]
    rfl
  | cons piece pieces ih =>
    obtain ⟨hpiece, hrest⟩ := List.forall_mem_cons.mp hne
    rw [List.flatten_cons, ← List.append_assoc] at hfits hfull
    have hhere : (spelled ++ piece).length ≤ DIAGNOSTIC_DETAIL_FIXED_LENGTH := by
      rw [List.length_append] at hfits
      omega
    have hlast : (spelled ++ piece).length = DIAGNOSTIC_DETAIL_FIXED_LENGTH →
        event.isSome ∧ validateDetail (spelled ++ piece) = .ok () := by
      intro hlen
      -- a piece that completes the detail is the last one
      have hnil : pieces.flatten = [] := by
        rw [List.length_append, hlen] at hfits
        exact List.length_eq_zero_iff.mp (by omega)
      rw [hnil, List.append_nil] at hfull
      exact hfull hlen (List.cons_ne_nil _ _)
    have hstep := receive_chunk hpiece hhere hlast
    have hih := ih (spelled ++ piece) hrest hfits
      (fun hlen _ => hfull hlen (List.cons_ne_nil _ _))
    rw [List.length_append] at hih
    show (Slot.receive _ (.detail spelled.length piece)).bind _ = _
    rw [hstep, List.flatten_cons, ← List.append_assoc]
    exact hih

theorem runSlot_ownOrder (metadata : Metadata) (signature : String)
    {before between after : List (List UInt8)}
    (hne : ∀ piece ∈ before ++ between ++ after, piece ≠ [])
    (hlen : (before ++ between ++ after).flatten.length = DIAGNOSTIC_DETAIL_FIXED_LENGTH)
    (hvalid : validateDetail (before ++ between ++ after).flatten = .ok ())
    (hmeta : between ++ after ≠ []) :
    Keyed.runSlot Slot.receive {} (ownOrder metadata signature before between after)
      = some {
          event := some { metadata with signature := some signature }
          detail := assemblyOf (before ++ between ++ after).flatten } := by
  have hbefore : ∀ piece ∈ before, piece ≠ [] := fun piece h => hne piece (by simp [h])
  have hbetween : ∀ piece ∈ between, piece ≠ [] := fun piece h => hne piece (by simp [h])
  have hafter : ∀ piece ∈ after, piece ≠ [] := fun piece h => hne piece (by simp [h])
  have hmore : 0 < (between ++ after).flatten.length := by
    obtain ⟨piece, hpiece⟩ := List.exists_mem_of_ne_nil _ hmeta
    refine List.length_pos_iff.mpr fun hnil => ?_
    have hnil : piece = [] := List.flatten_eq_nil_iff.mp hnil piece hpiece
    refine hne piece ?_ hnil
    rw [List.append_assoc]
    exact List.mem_append_right _ hpiece
  simp only [List.flatten_append, List.length_append] at hlen hmore
  -- the chunks before the META cannot complete the detail
  have h₁ : Keyed.runSlot Slot.receive {} (chunkBodies 0 before)
      = some { event := none, detail := assemblyOf before.flatten } :=
    runSlot_chunks none [] hbefore
      (by rw [List.nil_append]; omega) (by rw [List.nil_append]; omega)
  have h₂ := runSlot_chunks (some metadata) before.flatten hbetween
    (by rw [List.length_append]; omega) (fun hfull _ => ⟨rfl, ?_⟩)
  have h₃ := runSlot_chunks (some { metadata with signature := some signature })
    (before ++ between).flatten hafter
    (by simp only [List.flatten_append, List.length_append]; omega) (fun _ _ => ⟨rfl, ?_⟩)
  · unfold ownOrder
    rw [Keyed.runSlot_append, h₁]
    show Keyed.runSlot Slot.receive { event := some metadata, detail := assemblyOf before.flatten } _
      = _
    rw [Keyed.runSlot_append, h₂]
    show Keyed.runSlot Slot.receive
      { event := some { metadata with signature := some signature },
        detail := assemblyOf (before.flatten ++ between.flatten) } _ = _
    rw [← List.flatten_append, h₃, ← List.flatten_append]
  · rwa [← List.flatten_append]
  · have hnil : after.flatten = [] := by
      rw [List.length_append] at hfull
      exact List.length_eq_zero_iff.mp (by omega)
    rw [List.flatten_append, List.flatten_append, hnil, List.append_nil] at hvalid
    exact hvalid

end OwnOrder

end BotaSdk.Diagnostics
