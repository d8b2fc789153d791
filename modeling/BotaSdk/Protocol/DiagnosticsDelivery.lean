import BotaSdk.Protocol.DiagnosticsBatches

/-!
# A device's diagnostics batch

The packets of a batch, and the slots they leave in any interleaving that keeps each event's own
order.
-/

namespace BotaSdk.Diagnostics

open Bytes Checked

/-- An event as the device holds it. -/
structure EventContent where
  eventType : UInt8
  reason : UInt16
  uptimeMs : UInt32
  eventId : UInt64
  signature : UInt64
  detail : List UInt8
deriving Repr, DecidableEq

namespace EventContent

def typeName (content : EventContent) : String :=
  match Diagnostics.eventType content.eventType with
  | .ok name => name
  | .error _ => ""

def metadata (content : EventContent) : Metadata where
  eventId := hex 8 content.eventId.toNat
  eventType := content.typeName
  reasonCode := Diagnostics.reason content.reason.toNat
  uptimeMs := content.uptimeMs.toNat
  signature := none

def signatureText (content : EventContent) : String :=
  hex 8 content.signature.toNat

/-- An event of a known type with a valid detail. -/
structure Valid (content : EventContent) : Prop where
  known : Diagnostics.eventType content.eventType = .ok content.typeName
  detail : validateDetail content.detail = .ok ()

def slot (content : EventContent) : Slot where
  event := some { content.metadata with signature := some content.signatureText }
  detail := assemblyOf content.detail

/-- What is published of the event. -/
def describe (content : EventContent) : Except DeviceSdkError DeviceDiagnosticEvent :=
  DeviceDiagnosticsDecoder.event content.metadata content.signatureText content.detail

end EventContent

/-- The detail's pieces: `before` the META, `between` META and SIGNATURE, and `after` both. -/
structure Cut (detail : List UInt8) (before between after : List (List UInt8)) : Prop where
  whole : (before ++ between ++ after).flatten = detail
  nonempty : ∀ piece ∈ before ++ between ++ after, piece ≠ []
  fits : ∀ piece ∈ before ++ between ++ after, piece.length ≤ 14
  -- the META comes before the last piece
  known : between ++ after ≠ []

def metaPacket (index : UInt8) (content : EventContent) : List UInt8 :=
  DEVICE_DIAGNOSTICS_EVT_META :: index :: content.eventType ::
    (leBytes 2 content.reason.toNat ++ (leBytes 4 content.uptimeMs.toNat ++
      leBytes 8 content.eventId.toNat))

def signaturePacket (index : UInt8) (content : EventContent) : List UInt8 :=
  DEVICE_DIAGNOSTICS_EVT_SIGNATURE :: index :: leBytes 8 content.signature.toNat

def chunkPacket (index : UInt8) (offset : Nat) (data : List UInt8) : List UInt8 :=
  DEVICE_DIAGNOSTICS_EVT_DETAIL :: index ::
    (leBytes 2 offset ++ (leBytes 2 DIAGNOSTIC_DETAIL_FIXED_LENGTH ++ data))

def chunkPackets (index : UInt8) (start : Nat) : List (List UInt8) → List (List UInt8)
  | [] => []
  | piece :: pieces =>
    chunkPacket index start piece :: chunkPackets index (start + piece.length) pieces

def packetsOf (index : UInt8) (content : EventContent) (before between after : List (List UInt8)) :
    List (List UInt8) :=
  chunkPackets index 0 before ++ metaPacket index content ::
    (chunkPackets index before.flatten.length between ++ signaturePacket index content ::
      chunkPackets index (before ++ between).flatten.length after)

def endPacket (count : Nat) : List UInt8 :=
  [DEVICE_DIAGNOSTICS_EVT_END, UInt8.ofNat count]

/-- The packets, each with its event's index, keep each event's own order. -/
def Interleaving (contents : List EventContent) (tagged : List (UInt8 × List UInt8)) : Prop :=
  ∀ index : UInt8, match contents[index.toNat]? with
    | some content => ∃ before between after, Cut content.detail before between after ∧
        Keyed.project index tagged = packetsOf index content before between after
    | none => Keyed.project index tagged = []

/-! ## What the packets say -/

section Packets

variable {index : UInt8} {content : EventContent} {offset : Nat} {data : List UInt8}

theorem requireExact_ok {packet : List UInt8} {n : Nat} (h : packet.length = n) :
    Cursor.requireExact packet n = .ok () := by
  unfold Cursor.requireExact
  rw [Cursor.require_ok h.ge]
  exact if_neg (not_not.mpr h)

theorem message_metaPacket (h : content.Valid) :
    message (metaPacket index content) = .ok (.about index (.metadata content.metadata)) := by
  have hlen : (metaPacket index content).length = 17 := by
    simp [metaPacket]
  have hreason : Cursor.u16Le (metaPacket index content) 3 = .ok content.reason.toNat := by
    rw [Cursor.u16Le_ok (by omega)]
    show Except.ok (leNat ((leBytes 2 content.reason.toNat ++ _).take 2)) = _
    rw [List.take_left' (length_leBytes 2 _), leNat_leBytes_of_lt content.reason.toNat_lt]
  have huptime : Cursor.u32Le (metaPacket index content) 5 = .ok content.uptimeMs.toNat := by
    rw [Cursor.u32Le_ok (by omega)]
    show Except.ok (leNat (((leBytes 2 content.reason.toNat ++ (leBytes 4 content.uptimeMs.toNat ++
      leBytes 8 content.eventId.toNat)).drop 2).take 4)) = _
    rw [List.drop_left' (length_leBytes 2 _), List.take_left' (length_leBytes 4 _),
      leNat_leBytes_of_lt content.uptimeMs.toNat_lt]
  have hid : Cursor.u64Le (metaPacket index content) 9 = .ok content.eventId.toNat := by
    rw [Cursor.u64Le_ok (by omega)]
    have hdrop : (leBytes 2 content.reason.toNat ++ (leBytes 4 content.uptimeMs.toNat ++
        leBytes 8 content.eventId.toNat)).drop 6 = leBytes 8 content.eventId.toNat := by
      rw [← List.append_assoc]
      exact List.drop_left' (by simp)
    show Except.ok (leNat ((List.drop 6 _).take 8)) = _
    rw [hdrop, List.take_of_length_le (length_leBytes 8 _).le,
      leNat_leBytes_of_lt content.eventId.toNat_lt]
  have hdecoded : decodeMetadata (metaPacket index content) = .ok content.metadata := by
    have hkind : Cursor.u8 (metaPacket index content) 2 = .ok content.eventType :=
      Cursor.u8_ok (by omega)
    unfold decodeMetadata
    rw [hid, hkind]
    show (Diagnostics.eventType content.eventType >>= _) = _
    rw [h.known, hreason, huptime]
    rfl
  have hmax : ¬DIAGNOSTIC_MAX_PACKET_BYTES < (metaPacket index content).length := by
    rw [hlen]
    decide
  have hmessage : metadataMessage (metaPacket index content)
      = .ok (.about index (.metadata content.metadata)) :=
    metadataMessage_eq_ok.mpr ⟨index, content.metadata, requireExact_ok hlen,
      Cursor.u8_ok (by omega), hdecoded, rfl⟩
  show opcodeMessage DEVICE_DIAGNOSTICS_EVT_META (metaPacket index content) = _
  unfold opcodeMessage
  rw [if_neg hmax, if_pos rfl, hmessage]

theorem message_signaturePacket : message (signaturePacket index content)
    = .ok (.about index (.signature content.signatureText)) := by
  have hlen : (signaturePacket index content).length = 10 := by
    simp [signaturePacket]
  have hvalue : Cursor.u64Le (signaturePacket index content) 2 = .ok content.signature.toNat := by
    rw [Cursor.u64Le_ok (by omega)]
    show Except.ok (leNat ((leBytes 8 content.signature.toNat).take 8)) = _
    rw [List.take_of_length_le (length_leBytes 8 _).le,
      leNat_leBytes_of_lt content.signature.toNat_lt]
  have hmax : ¬DIAGNOSTIC_MAX_PACKET_BYTES < (signaturePacket index content).length := by
    rw [hlen]
    decide
  have hmessage : signatureMessage (signaturePacket index content)
      = .ok (.about index (.signature content.signatureText)) :=
    signatureMessage_eq_ok.mpr ⟨index, content.signature.toNat, requireExact_ok hlen,
      Cursor.u8_ok (by omega), hvalue, rfl⟩
  show opcodeMessage DEVICE_DIAGNOSTICS_EVT_SIGNATURE (signaturePacket index content) = _
  unfold opcodeMessage
  rw [if_neg hmax, if_neg (by decide), if_pos rfl, hmessage]

theorem message_chunkPacket (hne : data ≠ []) (hfits : data.length ≤ 14)
    (hend : offset + data.length ≤ DIAGNOSTIC_DETAIL_FIXED_LENGTH) :
    message (chunkPacket index offset data) = .ok (.about index (.detail offset data)) := by
  have htotal : DIAGNOSTIC_DETAIL_FIXED_LENGTH = 176 := rfl
  have hlen : (chunkPacket index offset data).length = 6 + data.length := by
    simp [chunkPacket]
    omega
  have hoffset : Cursor.u16Le (chunkPacket index offset data) 2 = .ok offset := by
    rw [Cursor.u16Le_ok (by omega)]
    show Except.ok (leNat ((leBytes 2 offset ++ _).take 2)) = _
    rw [List.take_left' (length_leBytes 2 _), leNat_leBytes_of_lt (by omega)]
  have htotal' : Cursor.u16Le (chunkPacket index offset data) 4
      = .ok DIAGNOSTIC_DETAIL_FIXED_LENGTH := by
    rw [Cursor.u16Le_ok (by omega)]
    show Except.ok (leNat (((leBytes 2 offset ++
      (leBytes 2 DIAGNOSTIC_DETAIL_FIXED_LENGTH ++ data)).drop 2).take 2)) = _
    rw [List.drop_left' (length_leBytes 2 _), List.take_left' (length_leBytes 2 _),
      leNat_leBytes_of_lt (by decide)]
  have hdata : Cursor.tail (chunkPacket index offset data) 6 = .ok data := by
    rw [Cursor.tail_ok (by omega)]
    show Except.ok ((leBytes 2 offset ++ (leBytes 2 DIAGNOSTIC_DETAIL_FIXED_LENGTH ++ data)).drop 4)
      = _
    rw [← List.append_assoc, List.drop_left' (by simp)]
  have hmax : ¬DIAGNOSTIC_MAX_PACKET_BYTES < (chunkPacket index offset data).length := by
    have : DIAGNOSTIC_MAX_PACKET_BYTES = 20 := rfl
    omega
  have hmessage : detailMessage (chunkPacket index offset data)
      = .ok (.about index (.detail offset data)) :=
    detailMessage_eq_ok.mpr ⟨index, offset, data, Cursor.require_ok (by rw [hlen]; exact Nat.le_add_right 6 _),
      Cursor.u8_ok (by omega), hoffset, htotal', hdata, hne, hend, rfl⟩
  show opcodeMessage DEVICE_DIAGNOSTICS_EVT_DETAIL (chunkPacket index offset data) = _
  unfold opcodeMessage
  rw [if_neg hmax, if_neg (by decide), if_neg (by decide), if_pos rfl, hmessage]

theorem message_endPacket (count : Nat) :
    message (endPacket count) = .ok (.finish (UInt8.ofNat count)) := by
  rfl

end Packets

/-! ## What an event says to its slot -/

/-- The message of a packet, without its index. -/
def bodyOf (packet : List UInt8) : Option Body :=
  (said packet).map Prod.snd

section Says

variable {index : UInt8} {content : EventContent} {before between after pieces : List (List UInt8)}
variable {start : Nat}

/-- The packets say these messages, all about `index`. -/
def Says (index : UInt8) (packets : List (List UInt8)) (bodies : List Body) : Prop :=
  List.Forall₂ (fun packet body => said packet = some (index, body)) packets bodies

theorem Says.append {packets packets' : List (List UInt8)} {bodies bodies' : List Body}
    (h : Says index packets bodies) (h' : Says index packets' bodies') :
    Says index (packets ++ packets') (bodies ++ bodies') :=
  List.rel_append h h'

theorem says_chunkPackets (hne : ∀ piece ∈ pieces, piece ≠ [])
    (hfits : ∀ piece ∈ pieces, piece.length ≤ 14)
    (hend : start + pieces.flatten.length ≤ DIAGNOSTIC_DETAIL_FIXED_LENGTH) :
    Says index (chunkPackets index start pieces) (chunkBodies start pieces) := by
  induction pieces generalizing start with
  | nil => exact .nil
  | cons piece pieces ih =>
    rw [List.flatten_cons, List.length_append] at hend
    obtain ⟨hpiece, hrest⟩ := List.forall_mem_cons.mp hne
    obtain ⟨hlen, hlens⟩ := List.forall_mem_cons.mp hfits
    exact .cons (said_about (message_chunkPacket hpiece hlen (by omega)))
      (ih hrest hlens (by omega))

theorem length_of_validateDetail {bytes : List UInt8} (h : validateDetail bytes = .ok ()) :
    bytes.length = DIAGNOSTIC_DETAIL_FIXED_LENGTH := by
  unfold validateDetail at h
  rw [seq_eq_ok] at h
  exact length_of_requireExact h.1

theorem says_packetsOf (hvalid : content.Valid) (hcut : Cut content.detail before between after) :
    Says index (packetsOf index content before between after)
      (ownOrder content.metadata content.signatureText before between after) := by
  have hlen := length_of_validateDetail hvalid.detail
  rw [← hcut.whole] at hlen
  have hall : ∀ part ∈ [before, between, after], ∀ piece ∈ part,
      piece ∈ before ++ between ++ after := by
    simp only [List.mem_cons, List.not_mem_nil, or_false, List.mem_append]
    rintro part (rfl | rfl | rfl) piece hpiece <;> simp [hpiece]
  have hne : ∀ part ∈ [before, between, after], ∀ piece ∈ part, piece ≠ [] :=
    fun part hpart piece hpiece => hcut.nonempty piece (hall part hpart piece hpiece)
  have hfits : ∀ part ∈ [before, between, after], ∀ piece ∈ part, piece.length ≤ 14 :=
    fun part hpart piece hpiece => hcut.fits piece (hall part hpart piece hpiece)
  have hlens : before.flatten.length + between.flatten.length + after.flatten.length
      = DIAGNOSTIC_DETAIL_FIXED_LENGTH := by
    rw [← hlen]
    simp only [List.flatten_append, List.length_append]
  refine (says_chunkPackets (hne before (by simp)) (hfits before (by simp)) (by omega)).append
    (.cons (said_about (message_metaPacket hvalid)) ?_)
  refine (says_chunkPackets (hne between (by simp)) (hfits between (by simp)) (by omega)).append
    (.cons (said_about message_signaturePacket) ?_)
  refine says_chunkPackets (hne after (by simp)) (hfits after (by simp)) ?_
  simp only [List.flatten_append, List.length_append]
  omega

theorem bodies_of_says {packets : List (List UInt8)} {bodies : List Body}
    (h : Says index packets bodies) : packets.filterMap bodyOf = bodies := by
  induction h with
  | nil => rfl
  | cons hsaid _ ih =>
    rw [List.filterMap_cons]
    unfold bodyOf
    rw [hsaid]
    exact congrArg _ ih

theorem said_of_says {packets : List (List UInt8)} {bodies : List Body}
    (h : Says index packets bodies) : ∀ packet ∈ packets, ∃ body, said packet = some (index, body) := by
  induction h with
  | nil => exact fun packet hpacket => nomatch hpacket
  | cons hsaid _ ih => exact List.forall_mem_cons.mpr ⟨⟨_, hsaid⟩, ih⟩

end Says

/-! ## Interleavings -/

section Interleaving

variable {contents : List EventContent} {tagged : List (UInt8 × List UInt8)} {index : UInt8}

/-- Untagged packets say to each slot what their tags promise. -/
theorem project_said
    (h : ∀ packet ∈ tagged, ∃ body, said packet.2 = some (packet.1, body)) (index : UInt8) :
    Keyed.project index ((tagged.map Prod.snd).filterMap said)
      = (Keyed.project index tagged).filterMap bodyOf := by
  induction tagged with
  | nil => rfl
  | cons packet tagged ih =>
    obtain ⟨⟨body, hbody⟩, hrest⟩ := List.forall_mem_cons.mp h
    rw [List.map_cons, List.filterMap_cons, hbody]
    by_cases hindex : packet.1 = index
    · subst hindex
      have hhead : bodyOf packet.2 = some body := by
        unfold bodyOf
        rw [hbody]
        rfl
      rw [Keyed.project_cons_self, List.filterMap_cons, hhead]
      show Keyed.project packet.1 ((packet.1, body) :: _) = _
      rw [Keyed.project_cons_self (packet.1, body), ih hrest]
    · rw [Keyed.project_cons_ne hindex, ← ih hrest]
      exact Keyed.project_cons_ne hindex

theorem mem_project {packet : UInt8 × List UInt8} (h : packet ∈ tagged) :
    packet.2 ∈ Keyed.project packet.1 tagged :=
  List.mem_filterMap.mpr ⟨packet, h, if_pos rfl⟩

/-- The slots of a read whose packets have all arrived. -/
def slotsOf (contents : List EventContent) (index : UInt8) : Slot :=
  match contents[index.toNat]? with
  | some content => content.slot
  | none => {}

theorem said_of_interleaving (hvalid : ∀ content ∈ contents, content.Valid)
    (h : Interleaving contents tagged) :
    ∀ packet ∈ tagged, ∃ body, said packet.2 = some (packet.1, body) := by
  intro packet hpacket
  have hmem := mem_project hpacket
  have hindex := h packet.1
  split at hindex
  · rename_i content hcontent
    obtain ⟨before, between, after, hcut, hproject⟩ := hindex
    rw [hproject] at hmem
    exact said_of_says (says_packetsOf (hvalid content (List.mem_of_getElem? hcontent)) hcut) _ hmem
  · rw [hindex] at hmem
    exact nomatch hmem

/-- Every interleaving leaves the same slots. -/
theorem run_of_interleaving (hvalid : ∀ content ∈ contents, content.Valid)
    (h : Interleaving contents tagged) :
    Keyed.run Slot.receive (fun _ => {}) ((tagged.map Prod.snd).filterMap said)
      = some (slotsOf contents) := by
  refine Keyed.run_eq_some.mpr fun index => ?_
  rw [project_said (said_of_interleaving hvalid h)]
  have hindex := h index
  unfold slotsOf
  split at hindex
  · rename_i content hcontent
    obtain ⟨before, between, after, hcut, hproject⟩ := hindex
    have hcontent' := hvalid content (List.mem_of_getElem? hcontent)
    have hlen := length_of_validateDetail hcontent'.detail
    rw [hproject, bodies_of_says (says_packetsOf hcontent' hcut)]
    have hrun := runSlot_ownOrder content.metadata content.signatureText hcut.nonempty (by rw [hcut.whole]; exact hlen)
      (by rw [hcut.whole]; exact hcontent'.detail) hcut.known
    rw [hcut.whole] at hrun
    exact hrun
  · rw [hindex]
    rfl

end Interleaving

/-! ## A complete detail can be read -/

section Report

variable {bytes : List UInt8} {indices : List Nat}

theorem decodePcTrace_ok (indices : List Nat) (hlen : bytes.length = DIAGNOSTIC_DETAIL_FIXED_LENGTH)
    (h : ∀ index ∈ indices, index < DIAGNOSTIC_MAX_PC_TRACE) :
    ∃ trace, decodePcTrace bytes indices = .ok trace := by
  induction indices with
  | nil => exact ⟨[], rfl⟩
  | cons index indices ih =>
    obtain ⟨hindex, hrest⟩ := List.forall_mem_cons.mp h
    have hlen' : bytes.length = 176 := hlen
    have hindex' : index < 6 := hindex
    obtain ⟨trace, htrace⟩ := ih hrest
    unfold decodePcTrace
    rw [Cursor.u32Le_ok (by omega), htrace]
    exact ⟨_, rfl⟩

theorem decodeBreadcrumbs_ok (indices : List Nat) (hlen : bytes.length = DIAGNOSTIC_DETAIL_FIXED_LENGTH)
    (h : ∀ index ∈ indices, index < DIAGNOSTIC_MAX_BREADCRUMBS) :
    ∃ breadcrumbs, decodeBreadcrumbs bytes indices = .ok breadcrumbs := by
  induction indices with
  | nil => exact ⟨[], rfl⟩
  | cons index indices ih =>
    obtain ⟨hindex, hrest⟩ := List.forall_mem_cons.mp h
    have hlen' : bytes.length = 176 := hlen
    have hindex' : index < 8 := hindex
    obtain ⟨breadcrumbs, hbreadcrumbs⟩ := ih hrest
    unfold decodeBreadcrumbs
    dsimp only
    rw [Cursor.u32Le_ok (by omega), Cursor.u16Le_ok (by omega), Cursor.u32Le_ok (by omega),
      hbreadcrumbs]
    exact ⟨_, rfl⟩

theorem decodeMasked_ok (hlen : bytes.length = DIAGNOSTIC_DETAIL_FIXED_LENGTH) (mask bit : UInt8)
    (offset : Nat) (hoffset : offset + 4 ≤ 176) :
    ∃ value, decodeMasked bytes mask bit offset = .ok value := by
  have hlen' : bytes.length = 176 := hlen
  unfold decodeMasked
  split
  · rw [Cursor.u32Le_ok (by omega)]
    exact ⟨_, rfl⟩
  · exact ⟨none, rfl⟩

theorem decodeRuntime_ok (hlen : bytes.length = DIAGNOSTIC_DETAIL_FIXED_LENGTH) (mask : UInt8) :
    ∃ runtime, decodeRuntime bytes mask = .ok runtime := by
  obtain ⟨heap, hheap⟩ := decodeMasked_ok hlen mask DIAGNOSTIC_RUNTIME_HEAP_FREE 72 (by decide)
  obtain ⟨stack, hstack⟩ := decodeMasked_ok hlen mask DIAGNOSTIC_RUNTIME_STACK_REMAINING 76
    (by decide)
  unfold decodeRuntime
  rw [hheap, hstack]
  split
  · exact ⟨_, rfl⟩
  · exact ⟨none, rfl⟩

theorem decodeFault_ok (hlen : bytes.length = DIAGNOSTIC_DETAIL_FIXED_LENGTH) :
    ∃ fault, decodeFault bytes = .ok fault := by
  have hlen' : bytes.length = 176 := hlen
  unfold decodeFault
  rw [Cursor.u8_ok (by omega), Cursor.u32Le_ok (by omega), Cursor.u32Le_ok (by omega),
    Cursor.u32Le_ok (by omega), Cursor.u32Le_ok (by omega), Cursor.u32Le_ok (by omega)]
  exact ⟨_, rfl⟩

theorem decodeTask_ok (hlen : bytes.length = DIAGNOSTIC_DETAIL_FIXED_LENGTH) :
    ∃ task, decodeTask bytes = .ok task := by
  have hlen' : bytes.length = 176 := hlen
  unfold decodeTask
  rw [Cursor.slice_ok (by omega)]
  exact ⟨_, rfl⟩

theorem decodeReport_ok (hlen : bytes.length = DIAGNOSTIC_DETAIL_FIXED_LENGTH) :
    ∃ report, decodeReport bytes = .ok report := by
  have hlen' : bytes.length = 176 := hlen
  have hread : ∀ offset < 176, ∃ byte, Cursor.u8 bytes offset = .ok byte :=
    fun offset hlt => ⟨_, Cursor.u8_ok (by omega)⟩
  obtain ⟨pcCount, hpcCount⟩ := hread 17 (by decide)
  obtain ⟨breadcrumbCount, hbreadcrumbCount⟩ := hread 18 (by decide)
  obtain ⟨mask, hmask⟩ := hread 19 (by decide)
  obtain ⟨trace, htrace⟩ := decodePcTrace_ok
    (List.range (min pcCount.toNat DIAGNOSTIC_MAX_PC_TRACE)) hlen
    (fun index hindex => lt_of_lt_of_le (List.mem_range.mp hindex) (min_le_right _ _))
  obtain ⟨breadcrumbs, hbreadcrumbs⟩ := decodeBreadcrumbs_ok
    (List.range (min breadcrumbCount.toNat DIAGNOSTIC_MAX_BREADCRUMBS)) hlen
    (fun index hindex => lt_of_lt_of_le (List.mem_range.mp hindex) (min_le_right _ _))
  obtain ⟨task, htask⟩ := decodeTask_ok hlen
  obtain ⟨fault, hfault⟩ := decodeFault_ok hlen
  obtain ⟨runtime, hruntime⟩ := decodeRuntime_ok hlen mask
  have hpresent : ∃ report, decodePresentReport bytes = .ok report := by
    unfold decodePresentReport
    rw [hpcCount, hbreadcrumbCount, hmask]
    show ∃ report, (decodePcTrace bytes (List.range (min pcCount.toNat _)) >>= _) = .ok report
    rw [htrace]
    show ∃ report, (decodeBreadcrumbs bytes (List.range (min breadcrumbCount.toNat _)) >>= _)
      = .ok report
    rw [hbreadcrumbs, htask, hfault, Cursor.u32Le_ok (by omega), Cursor.u32Le_ok (by omega)]
    show ∃ report, (decodeRuntime bytes mask >>= _) = .ok report
    rw [hruntime]
    exact ⟨_, rfl⟩
  obtain ⟨report, hreport⟩ := hpresent
  obtain ⟨flags, hflags⟩ := hread 1 (by decide)
  unfold decodeReport
  rw [hflags, hreport]
  by_cases hnone : flags &&& DIAGNOSTIC_DETAIL_HAS_REPORT = 0
  · exact ⟨none, if_pos hnone⟩
  · exact ⟨some report, if_neg hnone⟩

theorem event_ok (hlen : bytes.length = DIAGNOSTIC_DETAIL_FIXED_LENGTH) (metadata : Metadata)
    (signature : String) :
    ∃ event, DeviceDiagnosticsDecoder.event metadata signature bytes = .ok event := by
  have hlen' : bytes.length = 176 := hlen
  obtain ⟨report, hreport⟩ := decodeReport_ok hlen
  unfold DeviceDiagnosticsDecoder.event
  rw [Cursor.slice_ok (by omega), Cursor.u8_ok (by omega), Cursor.u8_ok (by omega), hreport]
  exact ⟨_, rfl⟩

end Report

end BotaSdk.Diagnostics
