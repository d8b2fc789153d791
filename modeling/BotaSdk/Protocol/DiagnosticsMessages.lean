import BotaSdk.Lib.Checked
import BotaSdk.Lib.Keyed
import BotaSdk.Protocol.Diagnostics

/-!
# Diagnostics packets as messages to slots

What a packet says can be told from the packet alone, and whether it is accepted from the entry of
its index alone: the decoder is a machine with one slot for each index.
-/

namespace BotaSdk.Diagnostics

open Checked

/-- What a META, SIGNATURE or DETAIL packet says about its index. -/
inductive Body where
  | metadata (metadata : Metadata)
  | signature (signature : String)
  | detail (offset : Nat) (data : List UInt8)
deriving Repr, DecidableEq

inductive Message where
  | reset
  | about (index : UInt8) (body : Body)
  | finish (count : UInt8)
  | ignored
deriving Repr, DecidableEq

def metadataMessage (packet : List UInt8) : Except DeviceSdkError Message := do
  Cursor.requireExact packet DIAGNOSTIC_META_FIXED_LENGTH
  let index ← Cursor.u8 packet 1
  let metadata ← decodeMetadata packet
  .ok (.about index (.metadata metadata))

def signatureMessage (packet : List UInt8) : Except DeviceSdkError Message := do
  Cursor.requireExact packet DIAGNOSTIC_SIGNATURE_FIXED_LENGTH
  let index ← Cursor.u8 packet 1
  let signature ← Cursor.u64Le packet 2
  .ok (.about index (.signature (hex 8 signature)))

/-- A chunk's own checks. -/
def chunkMessage (index : UInt8) (offset total : Nat) (data : List UInt8) :
    Except DeviceSdkError Message :=
  if total ≠ DIAGNOSTIC_DETAIL_FIXED_LENGTH ∨ data = [] ∨ total < offset + data.length then
    .error (invalid "invalid diagnostic detail chunk")
  else .ok (.about index (.detail offset data))

def detailMessage (packet : List UInt8) : Except DeviceSdkError Message := do
  Cursor.require packet DIAGNOSTIC_DETAIL_CHUNK_MINIMUM_LENGTH
  let index ← Cursor.u8 packet 1
  let offset ← Cursor.u16Le packet 2
  let total ← Cursor.u16Le packet 4
  let data ← Cursor.tail packet 6
  chunkMessage index offset total data

def finishMessage (packet : List UInt8) : Except DeviceSdkError Message := do
  Cursor.requireExact packet DIAGNOSTIC_END_FIXED_LENGTH
  let count ← Cursor.u8 packet 1
  .ok (.finish count)

def opcodeMessage (opcode : UInt8) (packet : List UInt8) : Except DeviceSdkError Message :=
  if DIAGNOSTIC_MAX_PACKET_BYTES < packet.length then
    .error (invalid "diagnostic packet exceeds 20 bytes")
  else if opcode = DEVICE_DIAGNOSTICS_EVT_META then metadataMessage packet
  else if opcode = DEVICE_DIAGNOSTICS_EVT_SIGNATURE then signatureMessage packet
  else if opcode = DEVICE_DIAGNOSTICS_EVT_DETAIL then detailMessage packet
  else if opcode = DEVICE_DIAGNOSTICS_EVT_END then finishMessage packet
  else .ok .ignored

/-- What a packet says, whatever is pending; an error when it is malformed. -/
def message : List UInt8 → Except DeviceSdkError Message
  | [] => .ok .reset
  | opcode :: rest => opcodeMessage opcode (opcode :: rest)

/-! ## Slots -/

/-- The entries of one index. -/
structure Slot where
  event : Option Metadata := none
  detail : Option DetailAssembly := none
deriving Repr, DecidableEq

namespace Slot

def sign (signature : String) (event : Option Metadata) : Option Metadata :=
  event.map fun metadata => { metadata with signature := some signature }

def receive (slot : Slot) : Body → Option Slot
  | .metadata metadata =>
    if slot.event.isSome then none else some { slot with event := some metadata }
  | .signature signature => some { slot with event := sign signature slot.event }
  | .detail offset data =>
    match receiveDetail offset DIAGNOSTIC_DETAIL_FIXED_LENGTH data slot.event.isSome slot.detail with
    | .ok detail => some { slot with detail := some detail }
    | .error _ => none

end Slot

def slots (self : DeviceDiagnosticsDecoder) (index : UInt8) : Slot where
  event := self.events.lookup index
  detail := self.details.lookup index

/-- A decoder with nothing pending. -/
theorem slots_empty : slots {} = fun _ => {} := by
  funext index
  unfold slots
  rw [Finmap.lookup_empty, Finmap.lookup_empty]

section Slots

variable {self : DeviceDiagnosticsDecoder} {index : UInt8}

theorem slots_insert_event (metadata : Metadata) :
    slots { self with events := self.events.insert index metadata }
      = Function.update (slots self) index { slots self index with event := some metadata } := by
  funext other
  by_cases h : other = index
  · subst h
    rw [Function.update_self]
    show Slot.mk ((self.events.insert other metadata).lookup other) _ = _
    rw [Finmap.lookup_insert]
    rfl
  · rw [Function.update_of_ne h]
    show Slot.mk ((self.events.insert index metadata).lookup other) _ = _
    rw [Finmap.lookup_insert_of_ne _ h]
    rfl

theorem slots_insert_detail (detail : DetailAssembly) :
    slots { self with details := self.details.insert index detail }
      = Function.update (slots self) index { slots self index with detail := some detail } := by
  funext other
  by_cases h : other = index
  · subst h
    rw [Function.update_self]
    show Slot.mk _ ((self.details.insert other detail).lookup other) = _
    rw [Finmap.lookup_insert]
    rfl
  · rw [Function.update_of_ne h]
    show Slot.mk _ ((self.details.insert index detail).lookup other) = _
    rw [Finmap.lookup_insert_of_ne _ h]
    rfl

end Slots

/-! ## A push, by what the packet says -/

/-- The pending state is discarded and an error answered. -/
def Fails (result : DeviceDiagnosticsDecoder × DeviceDiagnosticsDecoder.Answer) : Prop :=
  ∃ e, result = ({}, .error e)

/-- The packet is accepted and the slots become `slots'`. -/
def Accepts (result : DeviceDiagnosticsDecoder × DeviceDiagnosticsDecoder.Answer)
    (slots' : UInt8 → Slot) : Prop :=
  ∃ self, result = (self, .ok none) ∧ slots self = slots'

/-- What a message to a slot does to the decoder. -/
def Delivered (self : DeviceDiagnosticsDecoder) (index : UInt8) (body : Body)
    (result : DeviceDiagnosticsDecoder × DeviceDiagnosticsDecoder.Answer) : Prop :=
  match (slots self index).receive body with
  | none => Fails result
  | some slot => Accepts result (Function.update (slots self) index slot)

section Push

open DeviceDiagnosticsDecoder

variable {self self' : DeviceDiagnosticsDecoder} {opcode : UInt8} {rest packet : List UInt8}
variable {index : UInt8} {body : Body} {e : DeviceSdkError}

theorem push_of_ok {batch : Option DeviceDiagnosticsBatch}
    (h : self.pushPacket opcode (opcode :: rest) = .ok (self', batch)) :
    self.push (opcode :: rest) = (self', .ok batch) := by
  simp only [push, h]

theorem fails_of_not_ok (h : ∀ result, self.pushPacket opcode (opcode :: rest) ≠ .ok result) :
    Fails (self.push (opcode :: rest)) := by
  cases hresult : self.pushPacket opcode (opcode :: rest) with
  | error e =>
    simp only [push, hresult]
    exact ⟨e, rfl⟩
  | ok result => exact absurd hresult (h result)

theorem metadataMessage_eq_ok {m : Message} : metadataMessage packet = .ok m ↔
    ∃ index metadata, Cursor.requireExact packet DIAGNOSTIC_META_FIXED_LENGTH = .ok () ∧
      Cursor.u8 packet 1 = .ok index ∧ decodeMetadata packet = .ok metadata ∧
      m = .about index (.metadata metadata) := by
  unfold metadataMessage
  rw [seq_eq_ok]
  simp only [bind_eq_ok, Except.ok.injEq]
  constructor
  · rintro ⟨hlen, index, hindex, metadata, hmetadata, rfl⟩
    exact ⟨index, metadata, hlen, hindex, hmetadata, rfl⟩
  · rintro ⟨index, metadata, hlen, hindex, hmetadata, rfl⟩
    exact ⟨hlen, index, hindex, metadata, hmetadata, rfl⟩

theorem receiveMeta_eq_ok {event : Option Metadata} {metadata : Metadata} :
    receiveMeta packet event = .ok metadata ↔ event = none ∧ decodeMetadata packet = .ok metadata := by
  cases event with
  | none => exact ⟨fun h => ⟨rfl, h⟩, And.right⟩
  | some event => exact ⟨fun h => (nomatch h), fun h => (nomatch h.1)⟩

theorem pushMeta_eq_ok : self.pushMeta packet = .ok self' ↔
    ∃ index metadata, metadataMessage packet = .ok (.about index (.metadata metadata)) ∧
      self.events.lookup index = none ∧
      self' = { self with events := self.events.insert index metadata } := by
  unfold pushMeta
  rw [seq_eq_ok]
  simp only [bind_eq_ok, Except.ok.injEq, metadataMessage_eq_ok, receiveMeta_eq_ok]
  constructor
  · rintro ⟨hlen, index, hindex, metadata, ⟨hnew, hmetadata⟩, rfl⟩
    exact ⟨index, metadata, ⟨index, metadata, hlen, hindex, hmetadata, rfl⟩, hnew, rfl⟩
  · rintro ⟨_, _, ⟨index, metadata, hlen, hindex, hmetadata, heq⟩, hnew, rfl⟩
    obtain ⟨rfl, hbody⟩ := Message.about.inj heq
    obtain rfl := Body.metadata.inj hbody
    exact ⟨hlen, _, hindex, _, ⟨hnew, hmetadata⟩, rfl⟩

theorem signatureMessage_eq_ok {m : Message} : signatureMessage packet = .ok m ↔
    ∃ index value, Cursor.requireExact packet DIAGNOSTIC_SIGNATURE_FIXED_LENGTH = .ok () ∧
      Cursor.u8 packet 1 = .ok index ∧ Cursor.u64Le packet 2 = .ok value ∧
      m = .about index (.signature (hex 8 value)) := by
  unfold signatureMessage
  rw [seq_eq_ok]
  simp only [bind_eq_ok, Except.ok.injEq]
  constructor
  · rintro ⟨hlen, index, hindex, value, hvalue, rfl⟩
    exact ⟨index, value, hlen, hindex, hvalue, rfl⟩
  · rintro ⟨index, value, hlen, hindex, hvalue, rfl⟩
    exact ⟨hlen, index, hindex, value, hvalue, rfl⟩

theorem length_of_requireExact {n : Nat} (h : Cursor.requireExact packet n = .ok ()) :
    packet.length = n := by
  unfold Cursor.requireExact at h
  rw [seq_eq_ok] at h
  by_contra hne
  rw [if_pos hne] at h
  exact nomatch h.2

/-- The decoder after a signature for a known or an unknown event. -/
def signed (self : DeviceDiagnosticsDecoder) (index : UInt8) (signature : String) :
    DeviceDiagnosticsDecoder :=
  match self.events.lookup index with
  | some event =>
    { self with events := self.events.insert index { event with signature := some signature } }
  | none => self

theorem pushSignature_eq_ok : self.pushSignature packet = .ok self' ↔
    ∃ index signature, signatureMessage packet = .ok (.about index (.signature signature)) ∧
      self' = signed self index signature := by
  unfold pushSignature
  rw [seq_eq_ok]
  simp only [bind_eq_ok, signatureMessage_eq_ok]
  constructor
  · rintro ⟨hlen, index, hindex, h⟩
    have hroom : 2 + 8 ≤ packet.length := (length_of_requireExact hlen).ge
    refine ⟨index, _, ⟨index, _, hlen, hindex, Cursor.u64Le_ok hroom, rfl⟩, ?_⟩
    unfold signed
    rw [Cursor.u64Le_ok hroom] at h
    cases hevent : self.events.lookup index with
    | some event =>
      rw [hevent] at h
      exact (Except.ok.inj h).symm
    | none =>
      rw [hevent] at h
      exact (Except.ok.inj h).symm
  · rintro ⟨_, _, ⟨index, value, hlen, hindex, hvalue, heq⟩, rfl⟩
    obtain ⟨rfl, hbody⟩ := Message.about.inj heq
    obtain rfl := Body.signature.inj hbody
    refine ⟨hlen, _, hindex, ?_⟩
    unfold signed
    rw [hvalue]
    cases self.events.lookup _ with
    | some event => rfl
    | none => rfl

theorem detailMessage_eq_ok {m : Message} : detailMessage packet = .ok m ↔
    ∃ index offset data,
      Cursor.require packet DIAGNOSTIC_DETAIL_CHUNK_MINIMUM_LENGTH = .ok () ∧
      Cursor.u8 packet 1 = .ok index ∧ Cursor.u16Le packet 2 = .ok offset ∧
      Cursor.u16Le packet 4 = .ok DIAGNOSTIC_DETAIL_FIXED_LENGTH ∧ Cursor.tail packet 6 = .ok data ∧
      data ≠ [] ∧ offset + data.length ≤ DIAGNOSTIC_DETAIL_FIXED_LENGTH ∧
      m = .about index (.detail offset data) := by
  unfold detailMessage chunkMessage
  rw [seq_eq_ok]
  simp only [bind_eq_ok]
  constructor
  · rintro ⟨hlen, index, hindex, offset, hoffset, total, htotal, data, hdata, h⟩
    by_cases hbad : total ≠ DIAGNOSTIC_DETAIL_FIXED_LENGTH ∨ data = [] ∨
        total < offset + data.length
    · rw [if_pos hbad] at h
      exact nomatch h
    · rw [if_neg hbad] at h
      obtain ⟨hexact, hne, hfits⟩ := not_or.mp hbad |>.imp_right not_or.mp
      obtain rfl : total = DIAGNOSTIC_DETAIL_FIXED_LENGTH := not_not.mp hexact
      exact ⟨index, offset, data, hlen, hindex, hoffset, htotal, hdata, hne, Nat.not_lt.mp hfits,
        (Except.ok.inj h).symm⟩
  · rintro ⟨index, offset, data, hlen, hindex, hoffset, htotal, hdata, hne, hfits, rfl⟩
    refine ⟨hlen, index, hindex, offset, hoffset, _, htotal, data, hdata, if_neg ?_⟩
    exact not_or.mpr ⟨not_not.mpr rfl, not_or.mpr ⟨hne, Nat.not_lt.mpr hfits⟩⟩

/-- A chunk's own checks come first. -/
theorem receiveDetail_eq_ok {offset total : Nat} {data : List UInt8} {known : Bool}
    {detail : Option DetailAssembly} {assembled : DetailAssembly}
    (h : receiveDetail offset total data known detail = .ok assembled) :
    total = DIAGNOSTIC_DETAIL_FIXED_LENGTH ∧ data ≠ [] ∧
      offset + data.length ≤ DIAGNOSTIC_DETAIL_FIXED_LENGTH := by
  unfold receiveDetail at h
  by_cases hbad : total ≠ DIAGNOSTIC_DETAIL_FIXED_LENGTH ∨ data = [] ∨ total < offset + data.length
  · rw [if_pos hbad] at h
    exact nomatch h
  · obtain ⟨hexact, hne, hfits⟩ := not_or.mp hbad |>.imp_right not_or.mp
    obtain rfl : total = DIAGNOSTIC_DETAIL_FIXED_LENGTH := not_not.mp hexact
    exact ⟨rfl, hne, Nat.not_lt.mp hfits⟩

theorem pushDetail_eq_ok : self.pushDetail packet = .ok self' ↔
    ∃ index offset data assembled,
      detailMessage packet = .ok (.about index (.detail offset data)) ∧
      receiveDetail offset DIAGNOSTIC_DETAIL_FIXED_LENGTH data (self.events.lookup index).isSome
        (self.details.lookup index) = .ok assembled ∧
      self' = { self with details := self.details.insert index assembled } := by
  unfold pushDetail
  rw [seq_eq_ok]
  simp only [bind_eq_ok, Except.ok.injEq, detailMessage_eq_ok]
  constructor
  · rintro ⟨hlen, index, hindex, offset, hoffset, total, htotal, data, hdata, assembled, hassembled,
      rfl⟩
    obtain ⟨rfl, hne, hfits⟩ := receiveDetail_eq_ok hassembled
    exact ⟨index, offset, data, assembled,
      ⟨index, offset, data, hlen, hindex, hoffset, htotal, hdata, hne, hfits, rfl⟩, hassembled, rfl⟩
  · rintro ⟨_, _, _, assembled, ⟨index, offset, data, hlen, hindex, hoffset, htotal, hdata, -, -, heq⟩,
      hassembled, rfl⟩
    obtain ⟨rfl, hbody⟩ := Message.about.inj heq
    obtain ⟨rfl, rfl⟩ := Body.detail.inj hbody
    exact ⟨hlen, _, hindex, _, hoffset, _, htotal, _, hdata, assembled, hassembled, rfl⟩

/-- What END publishes once its count is read. -/
def published (self : DeviceDiagnosticsDecoder) (count : UInt8) :
    Except DeviceSdkError DeviceDiagnosticsBatch :=
  if self.events.keys.card ≠ count.toNat ∨ self.details.keys.card ≠ count.toNat then
    .error (invalid "diagnostic event count mismatch")
  else do
    let events ← self.publish (List.range count.toNat)
    .ok { schemaVersion := DIAGNOSTIC_DETAIL_VERSION, events }

theorem finishMessage_eq_ok {m : Message} : finishMessage packet = .ok m ↔
    ∃ count, Cursor.requireExact packet DIAGNOSTIC_END_FIXED_LENGTH = .ok () ∧
      Cursor.u8 packet 1 = .ok count ∧ m = .finish count := by
  unfold finishMessage
  rw [seq_eq_ok]
  simp only [bind_eq_ok, Except.ok.injEq]
  constructor
  · rintro ⟨hlen, count, hcount, rfl⟩
    exact ⟨count, hlen, hcount, rfl⟩
  · rintro ⟨count, hlen, hcount, rfl⟩
    exact ⟨hlen, count, hcount, rfl⟩

theorem pushEnd_eq_ok {batch : DeviceDiagnosticsBatch} : self.pushEnd packet = .ok batch ↔
    ∃ count, finishMessage packet = .ok (.finish count) ∧ published self count = .ok batch := by
  unfold pushEnd
  rw [seq_eq_ok, bind_eq_ok]
  simp only [finishMessage_eq_ok]
  constructor
  · rintro ⟨hlen, count, hcount, h⟩
    exact ⟨count, ⟨count, hlen, hcount, rfl⟩, h⟩
  · rintro ⟨_, ⟨count, hlen, hcount, heq⟩, h⟩
    obtain rfl := Message.finish.inj heq
    exact ⟨hlen, _, hcount, h⟩

/-- What END does: it publishes or fails, and nothing stays pending. -/
def Finished (self : DeviceDiagnosticsDecoder) (count : UInt8)
    (result : DeviceDiagnosticsDecoder × Answer) : Prop :=
  match published self count with
  | .error _ => Fails result
  | .ok batch => result = ({}, .ok (some batch))

/-- The result of a push, by what the packet says. -/
def Pushed (self : DeviceDiagnosticsDecoder) (result : DeviceDiagnosticsDecoder × Answer) :
    Except DeviceSdkError Message → Prop
  | .error _ => Fails result
  | .ok .reset => result = ({}, .ok none)
  | .ok (.about index body) => Delivered self index body result
  | .ok (.finish count) => Finished self count result
  | .ok .ignored => result = (self, .ok none)

theorem slots_signed {signature : String} : slots (signed self index signature)
    = Function.update (slots self) index
        { slots self index with event := Slot.sign signature (slots self index).event } := by
  unfold signed
  split
  · rename_i event hevent
    rw [slots_insert_event]
    have hslot : (slots self index).event = some event := hevent
    rw [hslot]
    rfl
  · rename_i hevent
    have hslot : (slots self index).event = none := hevent
    have hsame : { slots self index with event := Slot.sign signature (slots self index).event }
        = slots self index := by
      rw [hslot]
      exact congrArg (fun event => Slot.mk event (slots self index).detail) hslot.symm
    rw [hsame, Function.update_eq_self]

/-- A kind of packet whose handler accepts exactly what its message says. -/
theorem pushed_of_handler (handler : Except DeviceSdkError DeviceDiagnosticsDecoder)
    {said : Except DeviceSdkError Message}
    (hpush : self.pushPacket opcode (opcode :: rest) = handler.bind fun self => .ok (self, none))
    (hok : ∀ self', handler = .ok self' → ∃ index body slot, said = .ok (.about index body) ∧
      (slots self index).receive body = some slot ∧
      slots self' = Function.update (slots self) index slot)
    (habout : ∀ m, said = .ok m → ∃ index body, m = .about index body ∧
      ∀ slot, (slots self index).receive body = some slot → ∃ self', handler = .ok self') :
    Pushed self (self.push (opcode :: rest)) said := by
  cases hhandler : handler with
  | error e =>
    have hfails : Fails (self.push (opcode :: rest)) := by
      refine fails_of_not_ok fun result => ?_
      rw [hpush, hhandler]
      exact fun h => nomatch h
    cases said with
    | error e => exact hfails
    | ok m =>
      obtain ⟨index, body, rfl, hreceive⟩ := habout m rfl
      show Delivered self index body _
      unfold Delivered
      cases hslot : (slots self index).receive body with
      | none => exact hfails
      | some slot =>
        obtain ⟨self', hself'⟩ := hreceive slot hslot
        rw [hself'] at hhandler
        exact nomatch hhandler
  | ok self' =>
    obtain ⟨index, body, slot, rfl, hslot, hslots⟩ := hok self' hhandler
    rw [hhandler] at hpush
    rw [push_of_ok hpush]
    show Delivered self index body _
    unfold Delivered
    rw [hslot]
    exact ⟨self', rfl, hslots⟩

theorem pushed_metadata (hlen : ¬DIAGNOSTIC_MAX_PACKET_BYTES < (opcode :: rest).length)
    (hopcode : opcode = DEVICE_DIAGNOSTICS_EVT_META) :
    Pushed self (self.push (opcode :: rest)) (metadataMessage (opcode :: rest)) := by
  refine pushed_of_handler (self.pushMeta (opcode :: rest)) ?_ ?_ ?_
  · unfold pushPacket
    rw [if_neg hlen, if_pos hopcode]
    rfl
  · intro self' h
    obtain ⟨index, metadata, hsaid, hnew, rfl⟩ := pushMeta_eq_ok.mp h
    have hslot : (slots self index).event = none := hnew
    refine ⟨index, .metadata metadata, _, hsaid, ?_, slots_insert_event metadata⟩
    show (if (slots self index).event.isSome then none else _) = _
    rw [hslot]
    exact if_neg (by decide)
  · intro m hsaid
    obtain ⟨index, metadata, -, -, -, rfl⟩ := metadataMessage_eq_ok.mp hsaid
    refine ⟨index, .metadata metadata, rfl, fun slot hslot => ?_⟩
    have hnew : self.events.lookup index = none := by
      cases hevent : self.events.lookup index with
      | none => rfl
      | some event =>
        have hslot' : (slots self index).receive (.metadata metadata) = none := by
          show (if (self.events.lookup index).isSome then none else _) = _
          rw [hevent]
          exact if_pos rfl
        rw [hslot'] at hslot
        exact nomatch hslot
    exact ⟨_, pushMeta_eq_ok.mpr ⟨index, metadata, hsaid, hnew, rfl⟩⟩

theorem pushed_signature (hlen : ¬DIAGNOSTIC_MAX_PACKET_BYTES < (opcode :: rest).length)
    (hopcode : opcode = DEVICE_DIAGNOSTICS_EVT_SIGNATURE) :
    Pushed self (self.push (opcode :: rest)) (signatureMessage (opcode :: rest)) := by
  subst hopcode
  refine pushed_of_handler
    (self.pushSignature (DEVICE_DIAGNOSTICS_EVT_SIGNATURE :: rest)) ?_ ?_ ?_
  · unfold pushPacket
    rw [if_neg hlen, if_neg (by decide), if_pos rfl]
    rfl
  · intro self' h
    obtain ⟨index, signature, hsaid, rfl⟩ := pushSignature_eq_ok.mp h
    exact ⟨index, .signature signature, _, hsaid, rfl, slots_signed⟩
  · intro m hsaid
    obtain ⟨index, value, -, -, -, rfl⟩ := signatureMessage_eq_ok.mp hsaid
    exact ⟨index, _, rfl, fun _ _ => ⟨_, pushSignature_eq_ok.mpr ⟨index, _, hsaid, rfl⟩⟩⟩

theorem receive_detail_eq_some {slot slot' : Slot} {offset : Nat} {data : List UInt8} :
    slot.receive (.detail offset data) = some slot' ↔
      ∃ assembled, receiveDetail offset DIAGNOSTIC_DETAIL_FIXED_LENGTH data slot.event.isSome
        slot.detail = .ok assembled ∧ slot' = { slot with detail := some assembled } := by
  show (match receiveDetail offset DIAGNOSTIC_DETAIL_FIXED_LENGTH data slot.event.isSome slot.detail
    with | .ok detail => some { slot with detail := some detail } | .error _ => none) = _ ↔ _
  cases receiveDetail offset DIAGNOSTIC_DETAIL_FIXED_LENGTH data slot.event.isSome slot.detail with
  | error e => exact ⟨fun h => (nomatch h), fun ⟨_, h, _⟩ => (nomatch h)⟩
  | ok assembled =>
    constructor
    · intro h
      exact ⟨assembled, rfl, (Option.some.inj h).symm⟩
    · rintro ⟨_, h, rfl⟩
      rw [Except.ok.inj h]

theorem pushed_detail (hlen : ¬DIAGNOSTIC_MAX_PACKET_BYTES < (opcode :: rest).length)
    (hopcode : opcode = DEVICE_DIAGNOSTICS_EVT_DETAIL) :
    Pushed self (self.push (opcode :: rest)) (detailMessage (opcode :: rest)) := by
  subst hopcode
  refine pushed_of_handler
    (self.pushDetail (DEVICE_DIAGNOSTICS_EVT_DETAIL :: rest)) ?_ ?_ ?_
  · unfold pushPacket
    rw [if_neg hlen, if_neg (by decide), if_neg (by decide), if_pos rfl]
    rfl
  · intro self' h
    obtain ⟨index, offset, data, assembled, hsaid, hassembled, rfl⟩ := pushDetail_eq_ok.mp h
    exact ⟨index, .detail offset data, _, hsaid,
      receive_detail_eq_some.mpr ⟨assembled, hassembled, rfl⟩, slots_insert_detail assembled⟩
  · intro m hsaid
    obtain ⟨index, offset, data, -, -, -, -, -, -, -, rfl⟩ := detailMessage_eq_ok.mp hsaid
    refine ⟨index, .detail offset data, rfl, fun slot hslot => ?_⟩
    obtain ⟨assembled, hassembled, -⟩ := receive_detail_eq_some.mp hslot
    exact ⟨_, pushDetail_eq_ok.mpr ⟨index, offset, data, assembled, hsaid, hassembled, rfl⟩⟩

theorem pushed_finish (hlen : ¬DIAGNOSTIC_MAX_PACKET_BYTES < (opcode :: rest).length)
    (hopcode : opcode = DEVICE_DIAGNOSTICS_EVT_END) :
    Pushed self (self.push (opcode :: rest)) (finishMessage (opcode :: rest)) := by
  subst hopcode
  have hpush : self.pushPacket DEVICE_DIAGNOSTICS_EVT_END (DEVICE_DIAGNOSTICS_EVT_END :: rest)
      = (self.pushEnd (DEVICE_DIAGNOSTICS_EVT_END :: rest)).bind
          fun batch => .ok ({}, some batch) := by
    unfold pushPacket
    rw [if_neg hlen, if_neg (by decide), if_neg (by decide), if_neg (by decide), if_pos rfl]
    rfl
  cases hend : self.pushEnd (DEVICE_DIAGNOSTICS_EVT_END :: rest) with
  | error e =>
    have hfails : Fails (self.push (DEVICE_DIAGNOSTICS_EVT_END :: rest)) := by
      refine fails_of_not_ok fun result => ?_
      rw [hpush, hend]
      exact fun h => nomatch h
    cases hsaid : finishMessage (DEVICE_DIAGNOSTICS_EVT_END :: rest) with
    | error e => exact hfails
    | ok m =>
      obtain ⟨count, -, -, rfl⟩ := finishMessage_eq_ok.mp hsaid
      show Finished self count _
      unfold Finished
      cases hpublished : published self count with
      | error e => exact hfails
      | ok batch =>
        rw [pushEnd_eq_ok.mpr ⟨count, hsaid, hpublished⟩] at hend
        exact nomatch hend
  | ok batch =>
    obtain ⟨count, hsaid, hpublished⟩ := pushEnd_eq_ok.mp hend
    rw [hend] at hpush
    rw [hsaid, push_of_ok hpush]
    show Finished self count _
    unfold Finished
    rw [hpublished]

/-- A push does what the packet says to the slot it says it about. -/
theorem push_cases (self : DeviceDiagnosticsDecoder) (packet : List UInt8) :
    Pushed self (self.push packet) (message packet) := by
  match packet with
  | [] => exact rfl
  | opcode :: rest =>
    show Pushed self _ (opcodeMessage opcode (opcode :: rest))
    unfold opcodeMessage
    by_cases hlen : DIAGNOSTIC_MAX_PACKET_BYTES < (opcode :: rest).length
    · rw [if_pos hlen]
      refine fails_of_not_ok fun result => ?_
      unfold pushPacket
      rw [if_pos hlen]
      exact fun h => nomatch h
    rw [if_neg hlen]
    split_ifs with hmeta hsignature hdetail hend
    · exact pushed_metadata hlen hmeta
    · exact pushed_signature hlen hsignature
    · exact pushed_detail hlen hdetail
    · exact pushed_finish hlen hend
    · refine push_of_ok ?_
      unfold pushPacket
      rw [if_neg hlen, if_neg hmeta, if_neg hsignature, if_neg hdetail, if_neg hend]

end Push

end BotaSdk.Diagnostics
