import BotaSdk.Protocol.DiagnosticsDelivery

/-!
# Whole diagnostics reads

Every interleaving of a batch publishes it, only complete events are published, and what a failed
read has left behind never is.
-/

namespace BotaSdk.Diagnostics

open Bytes Checked

/-! ## A delivered batch -/

section Delivered

variable {self : DeviceDiagnosticsDecoder} {contents : List EventContent} {index : UInt8}
variable {events : List DeviceDiagnosticEvent}

theorem describe_ok (hvalid : ∀ content ∈ contents, content.Valid) :
    ∃ events, List.Forall₂ (fun (content : EventContent) event => content.describe = .ok event)
      contents events := by
  induction contents with
  | nil => exact ⟨[], .nil⟩
  | cons content contents ih =>
    obtain ⟨hcontent, hrest⟩ := List.forall_mem_cons.mp hvalid
    obtain ⟨event, hevent⟩ := event_ok (length_of_validateDetail hcontent.detail) content.metadata
      content.signatureText
    obtain ⟨events, hevents⟩ := ih hrest
    exact ⟨event :: events, .cons hevent hevents⟩

theorem slotsOf_lt (h : index.toNat < contents.length) :
    slotsOf contents index = contents[index.toNat].slot := by
  unfold slotsOf
  rw [List.getElem?_eq_getElem h]

theorem slotsOf_ge (h : contents.length ≤ index.toNat) : slotsOf contents index = {} := by
  unfold slotsOf
  rw [List.getElem?_eq_none h]

theorem detail_slot {content : EventContent} (hvalid : content.Valid) :
    content.slot.detail = some {
      bytes := content.detail, received := DIAGNOSTIC_DETAIL_FIXED_LENGTH } := by
  have hlen := length_of_validateDetail hvalid.detail
  have hne : content.detail ≠ [] := by
    intro hnil
    rw [hnil] at hlen
    exact nomatch hlen
  show assemblyOf content.detail = _
  unfold assemblyOf
  rw [if_neg hne, bytes_of_full hlen, hlen]

/-- The keys of a delivered batch. -/
theorem mem_keys_of_slots (hvalid : ∀ content ∈ contents, content.Valid)
    (h : slots self = slotsOf contents) (index : UInt8) :
    (index ∈ self.events.keys ↔ index.toNat < contents.length) ∧
      (index ∈ self.details.keys ↔ index.toNat < contents.length) := by
  have hindex := congrFun h index
  have hevent : self.events.lookup index = (slotsOf contents index).event :=
    congrArg Slot.event hindex
  have hdetail : self.details.lookup index = (slotsOf contents index).detail :=
    congrArg Slot.detail hindex
  rw [Finmap.mem_keys, Finmap.mem_keys, ← Finmap.lookup_isSome, ← Finmap.lookup_isSome, hevent,
    hdetail]
  by_cases hlt : index.toNat < contents.length
  · rw [slotsOf_lt hlt, detail_slot (hvalid _ (List.getElem_mem hlt))]
    exact ⟨iff_of_true rfl hlt, iff_of_true rfl hlt⟩
  · rw [slotsOf_ge (Nat.not_lt.mp hlt)]
    exact ⟨iff_of_false (by decide) hlt, iff_of_false (by decide) hlt⟩

theorem publishAt_of_slots (hvalid : ∀ content ∈ contents, content.Valid)
    (h : slots self = slotsOf contents) (hlt : index.toNat < contents.length)
    {event : DeviceDiagnosticEvent} (hevent : contents[index.toNat].describe = .ok event) :
    self.publishAt index = .ok event := by
  have hslot : slots self index = contents[index.toNat].slot := by
    rw [h, slotsOf_lt hlt]
  have hdetail := detail_slot (hvalid _ (List.getElem_mem hlt))
  rw [← hslot] at hdetail
  have hsigned : (slots self index).event = some { contents[index.toNat].metadata with
      signature := some contents[index.toNat].signatureText } := by
    rw [hslot]
    rfl
  exact publishAt_eq_ok.mpr ⟨_, _, contents[index.toNat].signatureText, hsigned, hdetail, rfl, rfl,
    hevent⟩

theorem published_of_slots (hvalid : ∀ content ∈ contents, content.Valid)
    (hcount : contents.length ≤ 255) (h : slots self = slotsOf contents)
    (hevents : List.Forall₂ (fun (content : EventContent) event => content.describe = .ok event)
      contents events) :
    published self (UInt8.ofNat contents.length)
      = .ok { schemaVersion := DIAGNOSTIC_DETAIL_VERSION, events } := by
  have hnat : ∀ i ≤ 255, (UInt8.ofNat i).toNat = i := fun i hi => Nat.mod_eq_of_lt (by omega)
  have hkeys := mem_keys_of_slots hvalid h
  refine published_eq_ok.mpr ⟨?_, ?_, rfl, ?_⟩
  · rw [hnat _ hcount]
    exact card_of_mem_iff (by omega) fun index => (hkeys index).1
  · rw [hnat _ hcount]
    exact card_of_mem_iff (by omega) fun index => (hkeys index).2
  · rw [hnat _ hcount]
    refine List.forall₂_iff_get.mpr ⟨by rw [List.length_range]; exact hevents.length_eq, ?_⟩
    intro i hi hi'
    rw [List.length_range] at hi
    have htoNat : (UInt8.ofNat i).toNat = i := hnat i (by omega)
    have hdescribe := (List.forall₂_iff_get.mp hevents).2 i hi hi'
    rw [List.get_eq_getElem, List.get_eq_getElem] at hdescribe
    rw [List.get_eq_getElem, List.get_eq_getElem, List.getElem_range]
    refine publishAt_of_slots hvalid h (by rw [htoNat]; exact hi) ?_
    simp only [htoNat]
    exact hdescribe

/-- All packets of a batch, in any interleaving, and its END. -/
theorem delivered {tagged : List (UInt8 × List UInt8)} (hcount : contents.length ≤ 255)
    (hvalid : ∀ content ∈ contents, content.Valid)
    (hevents : List.Forall₂ (fun (content : EventContent) event => content.describe = .ok event)
      contents events) (h : Interleaving contents tagged) :
    (∀ answer ∈ answers {} (tagged.map Prod.snd), answer = .ok none) ∧
      ((after {} (tagged.map Prod.snd)).push (endPacket contents.length)).2
        = .ok (some { schemaVersion := DIAGNOSTIC_DETAIL_VERSION, events }) := by
  have hsaid : ∀ packet ∈ tagged.map Prod.snd, (said packet).isSome := by
    intro packet hpacket
    obtain ⟨tag, htag, rfl⟩ := List.mem_map.mp hpacket
    obtain ⟨body, hbody⟩ := said_of_interleaving hvalid h tag htag
    rw [hbody]
    rfl
  have hrun := run_of_interleaving hvalid h
  rw [← slots_empty] at hrun
  obtain ⟨hslots, hanswers⟩ := after_of_run hsaid hrun
  refine ⟨hanswers, ?_⟩
  have hcases := push_cases (after {} (tagged.map Prod.snd)) (endPacket contents.length)
  rw [message_endPacket] at hcases
  have hfinished : Finished _ (UInt8.ofNat contents.length) _ := hcases
  unfold Finished at hfinished
  rw [published_of_slots hvalid hcount hslots hevents] at hfinished
  rw [hfinished]

end Delivered

/-! ## Packets that discard the read -/

/-- A packet that the pending state does not allow. -/
inductive Discarded (self : DeviceDiagnosticsDecoder) (packet : List UInt8) : Prop
  | malformed {e : DeviceSdkError} (h : message packet = .error e)
  | repeatedMeta {index : UInt8} {metadata : Metadata}
      (h : message packet = .ok (.about index (.metadata metadata)))
      (hknown : (slots self index).event.isSome)
  | outOfOrder {index : UInt8} {offset : Nat} {data : List UInt8}
      (h : message packet = .ok (.about index (.detail offset data)))
      (hoffset : offset ≠ ((slots self index).detail.getD freshDetail).received)
  | unknownDetail {index : UInt8} {offset : Nat} {data : List UInt8}
      (h : message packet = .ok (.about index (.detail offset data)))
      (hfull : offset + data.length = DIAGNOSTIC_DETAIL_FIXED_LENGTH)
      (hunknown : (slots self index).event = none)
  | invalidDetail {index : UInt8} {offset : Nat} {data : List UInt8}
      (h : message packet = .ok (.about index (.detail offset data)))
      (hfull : offset + data.length = DIAGNOSTIC_DETAIL_FIXED_LENGTH)
      (hinvalid : validateDetail
        (((slots self index).detail.getD freshDetail).copy offset data).bytes ≠ .ok ())

section Discarded

variable {self : DeviceDiagnosticsDecoder} {history : List (List UInt8)} {packet : List UInt8}
variable {index : UInt8} {body : Body} {offset : Nat} {data : List UInt8}

theorem fails_of_refused (h : message packet = .ok (.about index body))
    (hrefused : ∀ slot, (slots self index).receive body ≠ some slot) : Fails (self.push packet) := by
  have hcases := push_cases self packet
  rw [h] at hcases
  have hdelivered : Delivered self index body (self.push packet) := hcases
  unfold Delivered at hdelivered
  cases hslot : (slots self index).receive body with
  | none =>
    rw [hslot] at hdelivered
    exact hdelivered
  | some slot => exact absurd hslot (hrefused slot)

/-- What a chunk that is accepted satisfies, in a decoder that packets have led to. -/
theorem chunk_of_receive {slot : Slot} (hself : after {} history = self)
    (h : (slots self index).receive (.detail offset data) = some slot) :
    offset = ((slots self index).detail.getD freshDetail).received ∧
      (offset + data.length = DIAGNOSTIC_DETAIL_FIXED_LENGTH →
        (slots self index).event.isSome ∧
        validateDetail (((slots self index).detail.getD freshDetail).copy offset data).bytes
          = .ok ()) := by
  -- the slot is the one that the pending packets make, whose detail is what its chunks spell
  obtain ⟨before, run, -, hrun⟩ := pending history
  rw [hself] at hrun
  have hsound : Sound _ (slots self index) := sound_of_run (Keyed.run_eq_some.mp hrun index)
  obtain ⟨assembled, hassembled, -⟩ := receive_detail_eq_some.mp h
  rw [hsound.detail, receiveDetail_assemblyOf] at hassembled
  obtain ⟨-, rfl, hfits, hfull, -⟩ := hassembled
  rw [List.length_append] at hfits
  rw [hsound.detail, copy_assemblyOf hfits, getD_assemblyOf]
  refine ⟨rfl, fun hlen => ?_⟩
  rw [← List.length_append] at hlen
  rw [bytes_of_full hlen]
  exact hfull hlen

theorem fails_of_discarded (hself : after {} history = self) (h : Discarded self packet) :
    Fails (self.push packet) := by
  cases h with
  | malformed h =>
    have hcases := push_cases self packet
    rw [h] at hcases
    exact hcases
  | @repeatedMeta index metadata h hknown =>
    refine fails_of_refused h fun slot hslot => ?_
    have hnone : (slots self index).receive (.metadata metadata) = none := if_pos hknown
    rw [hnone] at hslot
    exact nomatch hslot
  | outOfOrder h hoffset =>
    exact fails_of_refused h fun slot hslot => hoffset (chunk_of_receive hself hslot).1
  | unknownDetail h hfull hunknown =>
    refine fails_of_refused h fun slot hslot => ?_
    have hknown := ((chunk_of_receive hself hslot).2 hfull).1
    rw [hunknown] at hknown
    exact nomatch hknown
  | invalidDetail h hfull hinvalid =>
    exact fails_of_refused h fun slot hslot =>
      hinvalid ((chunk_of_receive hself hslot).2 hfull).2

theorem slots_injective {self self' : DeviceDiagnosticsDecoder} (h : slots self = slots self') :
    self = self' := by
  have hevents : self.events = self'.events :=
    Finmap.ext_lookup fun index => congrArg Slot.event (congrFun h index)
  have hdetails : self.details = self'.details :=
    Finmap.ext_lookup fun index => congrArg Slot.detail (congrFun h index)
  cases self
  cases self'
  cases hevents
  cases hdetails
  rfl

/-- A SIGNATURE is accepted, and changes the event of its index alone. -/
theorem push_signature {signature : String}
    (h : message packet = .ok (.about index (.signature signature))) :
    ∃ self', self.push packet = (self', .ok none) ∧
      slots self' = Function.update (slots self) index
        { slots self index with event := Slot.sign signature (slots self index).event } := by
  have hcases := push_cases self packet
  rw [h] at hcases
  exact hcases

/-- A SIGNATURE for an index without META is ignored. -/
theorem push_signature_unknown {signature : String}
    (h : message packet = .ok (.about index (.signature signature)))
    (hunknown : (slots self index).event = none) : self.push packet = (self, .ok none) := by
  obtain ⟨self', hpush, hslots⟩ := @push_signature self packet index signature h
  have hsame : { slots self index with event := Slot.sign signature (slots self index).event } =
      slots self index := by
    rw [hunknown]
    exact congrArg (fun event => Slot.mk event (slots self index).detail) hunknown.symm
  rw [hsame, Function.update_eq_self] at hslots
  rw [hpush, slots_injective hslots]

/-- A further SIGNATURE replaces the one before. -/
theorem push_signature_known {signature : String} {metadata : Metadata}
    (h : message packet = .ok (.about index (.signature signature)))
    (hknown : (slots self index).event = some metadata) :
    ∃ self', self.push packet = (self', .ok none) ∧
      slots self' = Function.update (slots self) index
        { slots self index with event := some { metadata with signature := some signature } } := by
  obtain ⟨self', hpush, hslots⟩ := @push_signature self packet index signature h
  rw [hknown] at hslots
  exact ⟨self', hpush, hslots⟩

end Discarded

/-- Every interleaving of a batch of at most 255 events publishes the same batch; a batch is
published from complete events alone, and from nothing before the last reset, failure or END; a
packet that discards the read leaves nothing of it to a later batch; a SIGNATURE is ignored at an
index without META, and replaces the one before at another. -/
theorem diagnostics_reads :
    (∀ contents : List EventContent, contents.length ≤ 255 →
      (∀ content ∈ contents, content.Valid) → ∃ batch : DeviceDiagnosticsBatch,
        List.Forall₂ (fun (content : EventContent) event => content.describe = .ok event) contents
          batch.events ∧
        ∀ tagged, Interleaving contents tagged →
          (∀ answer ∈ answers {} (tagged.map Prod.snd), answer = .ok none) ∧
          ((after {} (tagged.map Prod.snd)).push (endPacket contents.length)).2
            = .ok (some batch)) ∧
    (∀ history packet batch, ((after {} history).push packet).2 = .ok (some batch) →
      Publishes history packet batch) ∧
    (∀ history packet, Discarded (after {} history) packet →
      ∃ e, (after {} history).push packet = ({}, .error e)) ∧
    (∀ history packet later packet' batch, ((after {} history).push packet).2 ≠ .ok none →
      ((after {} (history ++ packet :: later)).push packet').2 = .ok (some batch) →
      Publishes later packet' batch) ∧
    ∀ history packet index signature,
      message packet = .ok (.about index (.signature signature)) →
      ((slots (after {} history) index).event = none →
        (after {} history).push packet = (after {} history, .ok none)) ∧
      ∀ metadata, (slots (after {} history) index).event = some metadata →
        ∃ self, (after {} history).push packet = (self, .ok none) ∧
          slots self = Function.update (slots (after {} history)) index
            { slots (after {} history) index with
              event := some { metadata with signature := some signature } } := by
  refine ⟨?_, ?_, ?_, ?_, ?_⟩
  · intro contents hcount hvalid
    obtain ⟨events, hevents⟩ := describe_ok hvalid
    exact ⟨{ schemaVersion := DIAGNOSTIC_DETAIL_VERSION, events }, hevents,
      fun tagged h => delivered hcount hvalid hevents h⟩
  · exact fun history packet batch h => publishes_of_pending (pending history) h
  · exact fun history packet h => fails_of_discarded rfl h
  · -- the decoder has started over, so that the earlier packets do not matter
    intro history packet later packet' batch hconsumed h
    have hnew : after {} (history ++ packet :: later) = after {} later := by
      rw [after_append, after_cons, push_consumed hconsumed]
    rw [hnew] at h
    exact publishes_of_pending (pending later) h
  · intro history packet index signature h
    exact ⟨push_signature_unknown h, fun _ hknown => push_signature_known h hknown⟩

/-! ## Two events -/

/-- The pieces of 14 bytes of a detail. -/
def cutDetail (detail : List UInt8) : List (List UInt8) :=
  (List.range 13).map fun i => (detail.drop (14 * i)).take 14

/-- The build `a4f02973d61c`. -/
def sampleBuild : List UInt8 :=
  [0x61, 0x34, 0x66, 0x30, 0x32, 0x39, 0x37, 0x33, 0x64, 0x36, 0x31, 0x63]

/-- A detail without a report. -/
def sampleDetail : List UInt8 :=
  [1, 0] ++ sampleBuild ++ List.replicate 162 0

/-- A detail with one, of two addresses and a breadcrumb. -/
def reportDetail : List UInt8 :=
  [1, 1] ++ sampleBuild ++ [3, 4, 1, 2, 1, 3] ++ List.replicate 156 7

def sampleContent : EventContent where
  eventType := 3
  reason := 5
  uptimeMs := 982341
  eventId := 42
  signature := 0x0123456789abcdef
  detail := sampleDetail

def reportContent : EventContent where
  eventType := 4
  reason := 1
  uptimeMs := 1000000
  eventId := 43
  signature := 0xfedcba9876543210
  detail := reportDetail

def sampleContents : List EventContent :=
  [sampleContent, reportContent]

def samplePackets : List (List UInt8) :=
  packetsOf 0 sampleContent [] [] (cutDetail sampleDetail)

/-- The META after two pieces of the detail, and the SIGNATURE after four. -/
def reportPackets : List (List UInt8) :=
  let pieces := cutDetail reportDetail
  packetsOf 1 reportContent (pieces.take 2) ((pieces.drop 2).take 2) (pieces.drop 4)

/-- The packets of the two events by turns. -/
def sampleTagged : List (UInt8 × List UInt8) :=
  (samplePackets.zip reportPackets).flatMap fun pair => [(0, pair.1), (1, pair.2)]

def sampleRead : List (List UInt8) :=
  sampleTagged.map Prod.snd

theorem valid_sample : ∀ content ∈ sampleContents, content.Valid := by
  intro content hcontent
  rcases List.mem_pair.mp hcontent with rfl | rfl
  · exact ⟨by decide, by decide +kernel⟩
  · exact ⟨by decide, by decide +kernel⟩

theorem interleaving_sample : Interleaving sampleContents sampleTagged := by
  intro index
  by_cases hzero : index = 0
  · subst hzero
    have hcut : Cut sampleContent.detail [] [] (cutDetail sampleDetail) :=
      ⟨by decide +kernel, by decide +kernel, by decide +kernel, by decide +kernel⟩
    exact ⟨[], [], cutDetail sampleDetail, hcut, by decide +kernel⟩
  by_cases hone : index = 1
  · subst hone
    have hcut : Cut reportContent.detail ((cutDetail reportDetail).take 2)
        (((cutDetail reportDetail).drop 2).take 2) ((cutDetail reportDetail).drop 4) :=
      ⟨by decide +kernel, by decide +kernel, by decide +kernel, by decide +kernel⟩
    exact ⟨_, _, _, hcut, by decide +kernel⟩
  · -- no packet is of another index
    have hge : sampleContents.length ≤ index.toNat := by
      have hzero' : index.toNat ≠ 0 := fun hn => hzero (UInt8.toNat_inj.mp hn)
      have hone' : index.toNat ≠ 1 := fun hn => hone (UInt8.toNat_inj.mp hn)
      show 2 ≤ index.toNat
      omega
    have htags : ∀ message ∈ sampleTagged, message.1 = 0 ∨ message.1 = 1 := by decide +kernel
    rw [List.getElem?_eq_none hge]
    refine List.filterMap_eq_nil_iff.mpr fun message hmessage => if_neg ?_
    rcases htags message hmessage with h | h
    · rw [h]
      exact Ne.symm hzero
    · rw [h]
      exact Ne.symm hone

/-- Two events by turns, discarded by a malformed packet and read once more; a stray SIGNATURE and a
repeated one. -/
theorem diagnostics_reads_sample : ∃ batch : DeviceDiagnosticsBatch,
    batch.events.length = 2 ∧
    ((after {} sampleRead).push (endPacket 2)).2 = .ok (some batch) ∧
    Publishes sampleRead (endPacket 2) batch ∧
    (∃ e, (after {} sampleRead).push [0x90] = ({}, .error e)) ∧
    ((after {} (sampleRead ++ [0x90] :: sampleRead)).push (endPacket 2)).2 = .ok (some batch) ∧
    (after {} sampleRead).push (signaturePacket 9 sampleContent) =
      (after {} sampleRead, .ok none) ∧
    ∃ self, ∃ metadata : Metadata, (after {} sampleRead).push (signaturePacket 0 reportContent) =
        (self, .ok none) ∧
      (slots self 0).event = some { metadata with signature := some "fedcba9876543210" } := by
  obtain ⟨batch, hevents, hall⟩ := diagnostics_reads.1 sampleContents (by decide) valid_sample
  have hpush : ((after {} sampleRead).push (endPacket 2)).2 = .ok (some batch) :=
    (hall _ interleaving_sample).2
  -- a META that is cut short discards the first read
  have hmalformed : Discarded (after {} sampleRead) [0x90] :=
    .malformed (e := Cursor.truncated 17 1) rfl
  obtain ⟨e, he⟩ := diagnostics_reads.2.2.1 sampleRead [0x90] hmalformed
  have hconsumed : ((after {} sampleRead).push [0x90]).2 ≠ .ok none := by
    rw [he]
    exact fun hn => by cases hn
  have hagain : ((after {} (sampleRead ++ [0x90] :: sampleRead)).push (endPacket 2)).2 =
      .ok (some batch) := by
    rw [after_append, after_cons, he]
    exact hpush
  have hpublishes : Publishes sampleRead (endPacket 2) batch :=
    diagnostics_reads.2.2.2.1 sampleRead [0x90] sampleRead _ batch hconsumed hagain
  -- two SIGNATUREs before the END of the first read
  have hunknown : (slots (after {} sampleRead) 9).event = none := by decide +kernel
  have hstray := (diagnostics_reads.2.2.2.2 sampleRead (signaturePacket 9 sampleContent) 9 _
    message_signaturePacket).1 hunknown
  have hknown : (slots (after {} sampleRead) 0).event.isSome = true := by decide +kernel
  obtain ⟨metadata, hmetadata⟩ := Option.isSome_iff_exists.mp hknown
  obtain ⟨self, hself, hslots⟩ := (diagnostics_reads.2.2.2.2 sampleRead
    (signaturePacket 0 reportContent) 0 _ message_signaturePacket).2 metadata hmetadata
  refine ⟨batch, hevents.length_eq.symm, hpush, hpublishes, ⟨e, he⟩, hagain, hstray, self, metadata,
    hself, ?_⟩
  rw [hslots, Function.update_self]
  have htext : reportContent.signatureText = "fedcba9876543210" := by decide +kernel
  rw [htext]

/-- A second signature for the event is accepted, and its batch published. -/
theorem diagnostics_reads_counterexample :
    ¬∀ history packet batch, ((after {} history).push packet).2 = .ok (some batch) →
      ∀ index < batch.events.length,
        (signatures (Keyed.project (UInt8.ofNat index) (history.filterMap said))).length = 1 := by
  intro h
  let packets := samplePackets ++ [signaturePacket 0 { sampleContent with signature := 7 }]
  have hpublished : (((after {} packets).push (endPacket 1)).2.toOption.join.any
      fun batch => batch.events.length == 1) = true := by
    decide +kernel
  have htwo : (signatures (Keyed.project (UInt8.ofNat 0) (packets.filterMap said))).length = 2 := by
    decide +kernel
  cases hbatch : ((after {} packets).push (endPacket 1)).2 with
  | error error =>
    rw [hbatch] at hpublished
    cases hpublished
  | ok batch =>
    rw [hbatch] at hpublished
    cases batch with
    | none => cases hpublished
    | some batch =>
      have hone := h packets (endPacket 1) batch hbatch 0 (by
        rw [eq_of_beq hpublished]
        decide)
      rw [htwo] at hone
      exact absurd hone (by decide)

end BotaSdk.Diagnostics
