import BotaSdk.Protocol.DiagnosticsRuns

/-!
# What END publishes

A batch's events are the complete slots below its count; a device's batch is published from any
interleaving of its events.
-/

namespace BotaSdk.Diagnostics

open Bytes Checked

/-! ## END -/

section Finish

variable {self : DeviceDiagnosticsDecoder} {count : UInt8} {batch : DeviceDiagnosticsBatch}
variable {events : List DeviceDiagnosticEvent} {indices : List Nat} {index : UInt8} {n : Nat}

theorem publish_eq_ok : self.publish indices = .ok events ↔
    List.Forall₂ (fun index event => self.publishAt (UInt8.ofNat index) = .ok event) indices events := by
  induction indices generalizing events with
  | nil =>
    show Except.ok [] = _ ↔ _
    rw [List.forall₂_nil_left_iff, Except.ok.injEq]
    exact eq_comm
  | cons index indices ih =>
    show ((self.publishAt (UInt8.ofNat index)) >>= _) = _ ↔ _
    simp only [bind_eq_ok, Except.ok.injEq, List.forall₂_cons_left_iff, ih]
    constructor
    · rintro ⟨event, hevent, rest, hrest, rfl⟩
      exact ⟨event, rest, hevent, hrest, rfl⟩
    · rintro ⟨event, rest, hevent, hrest, rfl⟩
      exact ⟨event, hevent, rest, hrest, rfl⟩

/-- What END publishes at an index is there when the slot is complete. -/
theorem publishAt_eq_ok {event : DeviceDiagnosticEvent} : self.publishAt index = .ok event ↔
    ∃ metadata detail signature, (slots self index).event = some metadata ∧
      (slots self index).detail = some detail ∧
      detail.received = DIAGNOSTIC_DETAIL_FIXED_LENGTH ∧ metadata.signature = some signature ∧
      DeviceDiagnosticsDecoder.event metadata signature detail.bytes = .ok event := by
  show _ ↔ ∃ metadata detail signature, self.events.lookup index = some metadata ∧
    self.details.lookup index = some detail ∧ _
  unfold DeviceDiagnosticsDecoder.publishAt
  cases hevent : self.events.lookup index with
  | none => exact ⟨fun h => (nomatch h), fun ⟨_, _, _, h, _⟩ => (nomatch h)⟩
  | some metadata =>
    dsimp only
    cases hdetail : self.details.lookup index with
    | none => exact ⟨fun h => (nomatch h), fun ⟨_, _, _, _, h, _⟩ => (nomatch h)⟩
    | some detail =>
      by_cases hfull : detail.received = DIAGNOSTIC_DETAIL_FIXED_LENGTH
      · have hfilter : (some detail).filter (fun detail =>
            decide (detail.received = DIAGNOSTIC_DETAIL_FIXED_LENGTH)) = some detail := by
          simp [hfull]
        rw [hfilter]
        dsimp only
        cases hsignature : metadata.signature with
        | none =>
          constructor
          · exact fun h => nomatch h
          · rintro ⟨_, _, signature, heq, -, -, hsigned, -⟩
            obtain rfl := Option.some.inj heq
            rw [hsignature] at hsigned
            exact nomatch hsigned
        | some signature =>
          constructor
          · exact fun h => ⟨metadata, detail, signature, rfl, rfl, hfull, hsignature, h⟩
          · rintro ⟨_, _, signature', heq, heq', -, hsigned, h⟩
            obtain rfl := Option.some.inj heq
            obtain rfl := Option.some.inj heq'
            rw [hsignature] at hsigned
            obtain rfl := Option.some.inj hsigned
            exact h
      · have hfilter : (some detail).filter (fun detail =>
            decide (detail.received = DIAGNOSTIC_DETAIL_FIXED_LENGTH)) = none := by
          simp [hfull]
        rw [hfilter]
        constructor
        · exact fun h => nomatch h
        · rintro ⟨_, _, _, -, heq, hreceived, -⟩
          obtain rfl := Option.some.inj heq
          exact absurd hreceived hfull

theorem published_eq_ok : published self count = .ok batch ↔
    self.events.keys.card = count.toNat ∧ self.details.keys.card = count.toNat ∧
      batch.schemaVersion = DIAGNOSTIC_DETAIL_VERSION ∧
      List.Forall₂ (fun index event => self.publishAt (UInt8.ofNat index) = .ok event)
        (List.range count.toNat) batch.events := by
  unfold published
  by_cases hcount : self.events.keys.card ≠ count.toNat ∨ self.details.keys.card ≠ count.toNat
  · rw [if_pos hcount]
    exact ⟨fun h => (nomatch h), fun ⟨h, h', _⟩ => absurd hcount (by simp [h, h'])⟩
  · rw [if_neg hcount]
    obtain ⟨hevents, hdetails⟩ := not_or.mp hcount
    simp only [bind_eq_ok, Except.ok.injEq, publish_eq_ok]
    constructor
    · rintro ⟨events, hpublished, rfl⟩
      exact ⟨not_not.mp hevents, not_not.mp hdetails, rfl, hpublished⟩
    · rintro ⟨-, -, hversion, hpublished⟩
      refine ⟨batch.events, hpublished, ?_⟩
      rw [← hversion]

/-- Entries at every index below the count leave none at another. -/
theorem mem_iff_of_card {keys : Finset UInt8} (hcard : keys.card = n) (hn : n ≤ 256)
    (hall : ∀ i < n, UInt8.ofNat i ∈ keys) (index : UInt8) : index ∈ keys ↔ index.toNat < n := by
  have hnat : ∀ i < n, (UInt8.ofNat i).toNat = i := fun i hi => Nat.mod_eq_of_lt (by omega)
  have hsub : (Finset.range n).image UInt8.ofNat ⊆ keys := by
    intro index hindex
    obtain ⟨i, hi, rfl⟩ := Finset.mem_image.mp hindex
    exact hall i (Finset.mem_range.mp hi)
  have hinj : Set.InjOn UInt8.ofNat (Finset.range n : Set Nat) := by
    intro i hi j hj hij
    rw [Finset.mem_coe, Finset.mem_range] at hi hj
    rw [← hnat i hi, ← hnat j hj, hij]
  have hsize : ((Finset.range n).image UInt8.ofNat).card = n := by
    rw [Finset.card_image_of_injOn hinj, Finset.card_range]
  -- there are as many entries as indices below the count, so that there is no other
  have heq : (Finset.range n).image UInt8.ofNat = keys :=
    Finset.eq_of_subset_of_card_le hsub (by rw [hsize, hcard])
  constructor
  · intro hindex
    rw [← heq] at hindex
    obtain ⟨i, hi, rfl⟩ := Finset.mem_image.mp hindex
    rw [hnat i (Finset.mem_range.mp hi)]
    exact Finset.mem_range.mp hi
  · intro hindex
    rw [← UInt8.ofNat_toNat (x := index)]
    exact hall _ hindex

theorem card_of_mem_iff {keys : Finset UInt8} (hn : n ≤ 256)
    (hall : ∀ index, index ∈ keys ↔ index.toNat < n) : keys.card = n := by
  have hinj : Set.InjOn UInt8.toNat (keys : Set UInt8) := fun _ _ _ _ h => UInt8.toNat_inj.mp h
  have himage : keys.image UInt8.toNat = Finset.range n := by
    ext i
    rw [Finset.mem_image, Finset.mem_range]
    constructor
    · rintro ⟨index, hindex, rfl⟩
      exact (hall index).mp hindex
    · intro hi
      have hnat : (UInt8.ofNat i).toNat = i := Nat.mod_eq_of_lt (by omega)
      exact ⟨UInt8.ofNat i, (hall _).mpr (by rw [hnat]; exact hi), hnat⟩
  rw [← Finset.card_image_of_injOn hinj, himage, Finset.card_range]

end Finish

/-! ## What a batch is made of -/

/-- The messages to one index make up the event: one META, a SIGNATURE after it (the last one
counts) and the chunks of a valid detail in order. -/
def Complete (bodies : List Body) (event : DeviceDiagnosticEvent) : Prop :=
  ∃ metadata before after signature,
    bodies = before ++ .metadata metadata :: after ∧ metas before = [] ∧ metas after = [] ∧
    (signatures after).getLast? = some signature ∧
    InOrder (chunks bodies) ∧
    (spell (chunks bodies)).length = DIAGNOSTIC_DETAIL_FIXED_LENGTH ∧
    validateDetail (spell (chunks bodies)) = .ok () ∧
    DeviceDiagnosticsDecoder.event metadata signature (spell (chunks bodies)) = .ok event

/-- The batch is published at END from the packets since the read was last cleared: the indices
below the count are complete events, and nothing else is pending. -/
def Publishes (history : List (List UInt8)) (packet : List UInt8) (batch : DeviceDiagnosticsBatch) :
    Prop :=
  ∃ before run count, Since history before run ∧
    message packet = .ok (.finish count) ∧ batch.schemaVersion = DIAGNOSTIC_DETAIL_VERSION ∧
    List.Forall₂ (fun index event =>
      Complete (Keyed.project (UInt8.ofNat index) (run.filterMap said)) event)
      (List.range count.toNat) batch.events ∧
    ∀ index : UInt8, count.toNat ≤ index.toNat →
      metas (Keyed.project index (run.filterMap said)) = [] ∧
      chunks (Keyed.project index (run.filterMap said)) = []

section Publish

variable {self : DeviceDiagnosticsDecoder} {history run : List (List UInt8)} {packet : List UInt8}
variable {batch : DeviceDiagnosticsBatch} {index : UInt8} {metadata : Metadata}
variable {bodies : List Body}

/-- A META says nothing about the signature. -/
theorem unsigned_of_said (h : said packet = some (index, .metadata metadata)) :
    metadata.signature = none := by
  unfold said at h
  split at h
  · rename_i heq
    have hpush := Option.some.inj h
    obtain ⟨rfl, rfl⟩ := Prod.mk.inj hpush
    match packet with
    | [] => exact nomatch heq
    | opcode :: rest =>
      have hmessage : opcodeMessage opcode (opcode :: rest) = .ok (.about _ (.metadata metadata)) := heq
      unfold opcodeMessage at hmessage
      split_ifs at hmessage
      · obtain ⟨_, decoded, -, -, hdecoded, hbody⟩ := metadataMessage_eq_ok.mp hmessage
        obtain ⟨-, hbody⟩ := Message.about.inj hbody
        obtain rfl := Body.metadata.inj hbody
        unfold decodeMetadata at hdecoded
        simp only [bind_eq_ok, Except.ok.injEq] at hdecoded
        obtain ⟨_, _, _, _, _, _, _, _, _, _, rfl⟩ := hdecoded
        rfl
      · obtain ⟨_, _, -, -, -, hbody⟩ := signatureMessage_eq_ok.mp hmessage
        exact nomatch (Message.about.inj hbody).2
      · obtain ⟨_, _, _, -, -, -, -, -, -, -, hbody⟩ := detailMessage_eq_ok.mp hmessage
        exact nomatch (Message.about.inj hbody).2
      · obtain ⟨_, -, -, hbody⟩ := finishMessage_eq_ok.mp hmessage
        exact nomatch hbody
      · exact nomatch hmessage
  · exact nomatch h

theorem unsigned_of_mem
    (h : .metadata metadata ∈ Keyed.project index (run.filterMap said)) :
    metadata.signature = none := by
  unfold Keyed.project at h
  obtain ⟨⟨index', body⟩, hmem, hbody⟩ := List.mem_filterMap.mp h
  obtain ⟨packet, -, hsaid⟩ := List.mem_filterMap.mp hmem
  split at hbody
  · obtain rfl : body = .metadata metadata := Option.some.inj hbody
    exact unsigned_of_said hsaid
  · exact nomatch hbody

theorem complete_of_publishAt {event : DeviceDiagnosticEvent}
    (hsound : Sound bodies (slots self index))
    (hunsigned : ∀ metadata, .metadata metadata ∈ bodies → metadata.signature = none)
    (h : self.publishAt index = .ok event) : Complete bodies event := by
  obtain ⟨signed, detail, signature, hevent, hdetail, hfull, hsignature, hok⟩ := publishAt_eq_ok.mp h
  obtain ⟨metadata, before, after, hbodies, hbefore, hafter, rfl⟩ := hsound.known signed hevent
  -- the detail is what the chunks spell, and it is full
  have hassembled : assemblyOf (spell (chunks bodies)) = some detail := hsound.detail ▸ hdetail
  have hne : spell (chunks bodies) ≠ [] := by
    intro hnil
    rw [assemblyOf_eq_none.mpr hnil] at hassembled
    exact nomatch hassembled
  unfold assemblyOf at hassembled
  rw [if_neg hne] at hassembled
  obtain rfl := Option.some.inj hassembled
  have hlen : (spell (chunks bodies)).length = DIAGNOSTIC_DETAIL_FIXED_LENGTH := hfull
  dsimp only at hok
  rw [bytes_of_full hlen] at hok
  -- the META has no signature of its own, so that the published one is the last that was sent
  have hnone : metadata.signature = none := hunsigned metadata (by rw [hbodies]; simp)
  have hlast : (signatures after).getLast? = some signature := by
    unfold signedBy at hsignature
    rwa [hnone, Option.or_none] at hsignature
  exact ⟨metadata, before, after, signature, hbodies, hbefore, hafter, hlast, hsound.order, hlen,
    hsound.valid hlen, hok⟩

theorem nothing_of_not_mem (hsound : Sound bodies (slots self index))
    (hevents : index ∉ self.events.keys) (hdetails : index ∉ self.details.keys) :
    metas bodies = [] ∧ chunks bodies = [] := by
  rw [Finmap.mem_keys] at hevents hdetails
  constructor
  · exact hsound.unknown (Finmap.lookup_eq_none.mpr hevents)
  · have hnone : assemblyOf (spell (chunks bodies)) = none := by
      rw [← hsound.detail]
      exact Finmap.lookup_eq_none.mpr hdetails
    have hspell := assemblyOf_eq_none.mp hnone
    refine List.eq_nil_iff_forall_not_mem.mpr fun chunk hchunk => ?_
    exact hsound.nonempty chunk hchunk (List.flatMap_eq_nil_iff.mp hspell chunk hchunk)

/-- Only END publishes. -/
theorem finish_of_push (hpush : (self.push packet).2 = .ok (some batch)) :
    ∃ count, message packet = .ok (.finish count) ∧ published self count = .ok batch := by
  have hcases := push_cases self packet
  have hfails : ¬Fails (self.push packet) := by
    rintro ⟨e, he⟩
    rw [he] at hpush
    exact nomatch hpush
  -- any other packet is answered with an error or with nothing yet
  cases hmessage : message packet with
  | error e =>
    rw [hmessage] at hcases
    exact absurd hcases hfails
  | ok m =>
    rw [hmessage] at hcases
    cases m with
    | reset =>
      have hreset : self.push packet = ({}, .ok none) := hcases
      rw [hreset] at hpush
      exact nomatch hpush
    | about index body =>
      have hdelivered : Delivered self index body (self.push packet) := hcases
      unfold Delivered at hdelivered
      cases hslot : (slots self index).receive body with
      | none =>
        rw [hslot] at hdelivered
        exact absurd hdelivered hfails
      | some slot =>
        rw [hslot] at hdelivered
        obtain ⟨self', hself', -⟩ := hdelivered
        rw [hself'] at hpush
        exact nomatch hpush
    | ignored =>
      have hignored : self.push packet = (self, .ok none) := hcases
      rw [hignored] at hpush
      exact nomatch hpush
    | finish count =>
      have hfinished : Finished self count (self.push packet) := hcases
      unfold Finished at hfinished
      cases hpublished : published self count with
      | error e =>
        rw [hpublished] at hfinished
        exact absurd hfinished hfails
      | ok published =>
        rw [hpublished] at hfinished
        rw [hfinished] at hpush
        obtain rfl := Option.some.inj (Except.ok.inj hpush)
        exact ⟨count, rfl, hpublished⟩

/-- The events and the details of a published read are those below the count. -/
theorem mem_keys_of_published {count : UInt8} (h : published self count = .ok batch)
    (index : UInt8) : (index ∈ self.events.keys ↔ index.toNat < count.toNat) ∧
      (index ∈ self.details.keys ↔ index.toNat < count.toNat) := by
  obtain ⟨hevents, hdetails, -, hall⟩ := published_eq_ok.mp h
  have heach : ∀ i ∈ List.range count.toNat, ∃ event,
      self.publishAt (UInt8.ofNat i) = .ok event :=
    ((List.forall₂_and_left _ _).mp (hall.imp fun i event hat => ⟨⟨event, hat⟩, hat⟩)).1
  have hmem : ∀ i < count.toNat, UInt8.ofNat i ∈ self.events.keys ∧
      UInt8.ofNat i ∈ self.details.keys := by
    intro i hi
    obtain ⟨event, hevent⟩ := heach i (List.mem_range.mpr hi)
    obtain ⟨metadata, detail, -, hmetadata, hdetail, -⟩ := publishAt_eq_ok.mp hevent
    exact ⟨Finmap.mem_keys.mpr (Finmap.mem_of_lookup_eq_some hmetadata),
      Finmap.mem_keys.mpr (Finmap.mem_of_lookup_eq_some hdetail)⟩
  have hlt : count.toNat ≤ 256 := count.toNat_lt.le
  exact ⟨mem_iff_of_card hevents hlt (fun i hi => (hmem i hi).1) index,
    mem_iff_of_card hdetails hlt (fun i hi => (hmem i hi).2) index⟩

theorem publishes_of_pending (h : Pending history)
    (hpush : ((after {} history).push packet).2 = .ok (some batch)) :
    Publishes history packet batch := by
  obtain ⟨before, run, hsince, hrun⟩ := h
  have hsound : ∀ index, Sound (Keyed.project index (run.filterMap said))
      (slots (after {} history) index) :=
    fun index => sound_of_run (Keyed.run_eq_some.mp hrun index)
  obtain ⟨count, hmessage, hpublished⟩ := finish_of_push hpush
  obtain ⟨-, -, hversion, hall⟩ := published_eq_ok.mp hpublished
  refine ⟨before, run, count, hsince, hmessage, hversion, ?_, ?_⟩
  · exact hall.imp fun index event hevent =>
      complete_of_publishAt (hsound _) (fun _ => unsigned_of_mem) hevent
  · -- the entries below the count are all, and no META and no chunk goes without an entry
    intro index hindex
    obtain ⟨hevents, hdetails⟩ := mem_keys_of_published hpublished index
    refine nothing_of_not_mem (hsound index) ?_ ?_
    · rw [hevents]
      omega
    · rw [hdetails]
      omega

end Publish

end BotaSdk.Diagnostics
