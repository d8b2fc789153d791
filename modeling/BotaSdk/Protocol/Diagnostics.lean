import BotaSdk.Lib.Ascii
import BotaSdk.Protocol.Cursor
import Mathlib.Data.Finmap

/-!
# Device diagnostics (`protocol/diagnostics.rs`)

`DeviceDiagnosticsDecoder` assembles the events of one read: for each index a META, a SIGNATURE
and a detail in DETAIL chunks, in any order of the indices, until END publishes them.
-/

namespace BotaSdk

open Bytes

/-! ## Wire constants -/

def DEVICE_DIAGNOSTICS_EVT_META : UInt8 := 0x90
def DEVICE_DIAGNOSTICS_EVT_SIGNATURE : UInt8 := 0x91
def DEVICE_DIAGNOSTICS_EVT_END : UInt8 := 0x92
def DEVICE_DIAGNOSTICS_EVT_DETAIL : UInt8 := 0x95

def DIAGNOSTIC_MAX_PACKET_BYTES : Nat := 20
def DIAGNOSTIC_META_FIXED_LENGTH : Nat := 17
def DIAGNOSTIC_SIGNATURE_FIXED_LENGTH : Nat := 10
def DIAGNOSTIC_DETAIL_CHUNK_MINIMUM_LENGTH : Nat := 6
def DIAGNOSTIC_END_FIXED_LENGTH : Nat := 2
def DIAGNOSTIC_DETAIL_FIXED_LENGTH : Nat := 176
def DIAGNOSTIC_DETAIL_VERSION : UInt8 := 0x01
def DIAGNOSTIC_DETAIL_HAS_REPORT : UInt8 := 0x01
def DIAGNOSTIC_RUNTIME_HEAP_FREE : UInt8 := 0x01
def DIAGNOSTIC_RUNTIME_STACK_REMAINING : UInt8 := 0x02
def DIAGNOSTIC_MAX_PC_TRACE : Nat := 6
def DIAGNOSTIC_MAX_BREADCRUMBS : Nat := 8

/-! ## What a batch says -/

structure DiagnosticFault where
  cpuId : UInt8
  cpuEmu : String
  coreEmu : String
  hsbEmu : String
  audioEmu : String
  wirelessEmu : String
deriving Repr, DecidableEq

structure DiagnosticExecution where
  task : Option String
  reti : Option String
  rets : Option String
  pcTrace : List String
deriving Repr, DecidableEq

structure DiagnosticRuntime where
  heapFreeBytes : Option Nat
  taskStackRemainingBytes : Option Nat
deriving Repr, DecidableEq

structure DiagnosticBreadcrumb where
  deltaMs : Int
  code : String
  arg0 : Int
deriving Repr, DecidableEq

structure DiagnosticReport where
  fault : DiagnosticFault
  execution : DiagnosticExecution
  runtime : Option DiagnosticRuntime
  breadcrumbs : List DiagnosticBreadcrumb
deriving Repr, DecidableEq

structure DeviceDiagnosticEvent where
  eventId : String
  eventType : String
  reasonCode : String
  uptimeMs : Nat
  signature : String
  firmwareBuildId : String
  subsystem : String
  stateBeforeEvent : String
  report : Option DiagnosticReport
deriving Repr, DecidableEq

structure DeviceDiagnosticsBatch where
  schemaVersion : UInt8
  events : List DeviceDiagnosticEvent
deriving Repr, DecidableEq

namespace Diagnostics

def invalid (detail : String) : DeviceSdkError :=
  (DeviceSdkError.new .invalidInput .decode false).withDetail detail

/-! ## Names -/

def eventType : UInt8 → Except DeviceSdkError String
  | 0x01 => .ok "reset"
  | 0x02 => .ok "watchdog"
  | 0x03 => .ok "hard_fault"
  | 0x04 => .ok "storage"
  | 0x05 => .ok "power"
  | 0x06 => .ok "radio"
  | 0x07 => .ok "security"
  | _ => .error (invalid "unknown diagnostic event type")

def reason : Nat → String
  | 0x0001 => "watchdog_timeout"
  | 0x0002 => "cpu_illegal_instruction"
  | 0x0003 => "cpu_misaligned_access"
  | 0x0004 => "cpu_stack_overflow"
  | 0x0005 => "cpu_usage_fault"
  | 0x0006 => "memory_protection_fault"
  | 0x0007 => "invalid_register_read"
  | 0x0008 => "invalid_register_write"
  | 0x0009 => "audio_subsystem_fault"
  | 0x000A => "wireless_subsystem_fault"
  | 0x000B => "flash_mmu_fault"
  | 0x000C => "low_voltage_reset"
  | _ => "unknown_cpu_exception"

def subsystem : UInt8 → String
  | 0x01 => "audio"
  | 0x02 => "wireless"
  | 0x03 => "storage"
  | 0x04 => "power"
  | 0x05 => "security"
  | _ => "system"

def state : UInt8 → String
  | 0x00 => "boot"
  | 0x01 => "deep_standby"
  | 0x02 => "recording"
  | 0x03 => "upload_preparing"
  | 0x04 => "uploading"
  | 0x05 => "error_recovery"
  | 0x06 => "full_sleep"
  | _ => "unknown"

def breadcrumb : Nat → String
  | 0x0001 => "boot"
  | 0x0002 => "standby_entered"
  | 0x0003 => "recording_started"
  | 0x0004 => "upload_preparing"
  | 0x0005 => "upload_started"
  | 0x0006 => "error_recovery"
  | 0x0007 => "full_sleep"
  | _ => "state_changed"

/-- `{:0…x}` with two digits a byte. -/
def hex (width value : Nat) : String :=
  String.ofList ((beBytes width value).flatMap fun byte =>
    [Nat.digitChar (byte.toNat / 16), Nat.digitChar (byte.toNat % 16)])

def normalizedAddress (value : Nat) : Option String :=
  if value = 0 then none
  else
    let region :=
      if value &&& 0x80000000 ≠ 0 then "sdram"
      else if value &&& 0x40000000 ≠ 0 then "ram"
      else "rom"
    some (region ++ ":" ++ hex 4 (value &&& 0x3fffffff))

def isLowerHex (bytes : List UInt8) : Bool :=
  bytes.all fun byte => (0x30 ≤ byte && byte ≤ 0x39) || (0x61 ≤ byte && byte ≤ 0x66)

/-- `as i32`. -/
def asI32 (value : Nat) : Int :=
  if value < 0x80000000 then value else value - 0x100000000

/-! ## Details -/

def validateDetail (bytes : List UInt8) : Except DeviceSdkError Unit := do
  Cursor.requireExact bytes DIAGNOSTIC_DETAIL_FIXED_LENGTH
  let version ← Cursor.u8 bytes 0
  if version ≠ DIAGNOSTIC_DETAIL_VERSION then
    .error (invalid "unsupported diagnostic detail payload")
  else
    let build ← Cursor.slice bytes 2 12
    if isLowerHex build = false then .error (invalid "invalid diagnostic firmware build id")
    else .ok ()

def decodePcTrace (bytes : List UInt8) : List Nat → Except DeviceSdkError (List String)
  | [] => .ok []
  | index :: indices => do
    let value ← Cursor.u32Le bytes (48 + index * 4)
    let rest ← decodePcTrace bytes indices
    .ok ((normalizedAddress value).toList ++ rest)

def decodeBreadcrumbs (bytes : List UInt8) :
    List Nat → Except DeviceSdkError (List DiagnosticBreadcrumb)
  | [] => .ok []
  | index :: indices => do
    let offset := 96 + index * 10
    let deltaMs ← Cursor.u32Le bytes offset
    let code ← Cursor.u16Le bytes (offset + 4)
    let arg0 ← Cursor.u32Le bytes (offset + 6)
    let rest ← decodeBreadcrumbs bytes indices
    .ok ({ deltaMs := asI32 deltaMs, code := breadcrumb code, arg0 := asI32 arg0 } :: rest)

def decodeFault (bytes : List UInt8) : Except DeviceSdkError DiagnosticFault := do
  let cpuId ← Cursor.u8 bytes 16
  let cpuEmu ← Cursor.u32Le bytes 20
  let coreEmu ← Cursor.u32Le bytes 24
  let hsbEmu ← Cursor.u32Le bytes 28
  let audioEmu ← Cursor.u32Le bytes 32
  let wirelessEmu ← Cursor.u32Le bytes 36
  .ok {
    cpuId
    cpuEmu := hex 4 cpuEmu
    coreEmu := hex 4 coreEmu
    hsbEmu := hex 4 hsbEmu
    audioEmu := hex 4 audioEmu
    wirelessEmu := hex 4 wirelessEmu }

/-- The high bit of every byte is masked before the first NUL ends the name. -/
def decodeTask (bytes : List UInt8) : Except DeviceSdkError (Option String) := do
  let field ← Cursor.slice bytes 80 16
  let task := (field.map (· &&& 0x7f)).takeWhile (· ≠ 0)
  .ok (if task = [] then none else some (Ascii.text task))

/-- `(mask & bit != 0).then(|| cursor.u32_le(offset)).transpose()?`. -/
def decodeMasked (bytes : List UInt8) (mask bit : UInt8) (offset : Nat) :
    Except DeviceSdkError (Option Nat) :=
  if mask &&& bit ≠ 0 then do
    let value ← Cursor.u32Le bytes offset
    .ok (some value)
  else .ok none

def decodeRuntime (bytes : List UInt8) (mask : UInt8) :
    Except DeviceSdkError (Option DiagnosticRuntime) :=
  if mask &&& (DIAGNOSTIC_RUNTIME_HEAP_FREE ||| DIAGNOSTIC_RUNTIME_STACK_REMAINING) ≠ 0 then do
    let heapFreeBytes ← decodeMasked bytes mask DIAGNOSTIC_RUNTIME_HEAP_FREE 72
    let taskStackRemainingBytes ← decodeMasked bytes mask DIAGNOSTIC_RUNTIME_STACK_REMAINING 76
    .ok (some { heapFreeBytes, taskStackRemainingBytes })
  else .ok none

/-- The report of a detail whose flags say that it has one. -/
def decodePresentReport (bytes : List UInt8) : Except DeviceSdkError DiagnosticReport := do
  let pcCount ← Cursor.u8 bytes 17
  let breadcrumbCount ← Cursor.u8 bytes 18
  let mask ← Cursor.u8 bytes 19
  let pcTrace ← decodePcTrace bytes (List.range (min pcCount.toNat DIAGNOSTIC_MAX_PC_TRACE))
  let breadcrumbs ← decodeBreadcrumbs bytes
    (List.range (min breadcrumbCount.toNat DIAGNOSTIC_MAX_BREADCRUMBS))
  let task ← decodeTask bytes
  let fault ← decodeFault bytes
  let reti ← Cursor.u32Le bytes 40
  let rets ← Cursor.u32Le bytes 44
  let runtime ← decodeRuntime bytes mask
  .ok {
    fault
    execution :=
      { task, reti := normalizedAddress reti, rets := normalizedAddress rets, pcTrace }
    runtime
    breadcrumbs }

def decodeReport (bytes : List UInt8) : Except DeviceSdkError (Option DiagnosticReport) := do
  let flags ← Cursor.u8 bytes 1
  if flags &&& DIAGNOSTIC_DETAIL_HAS_REPORT = 0 then .ok none
  else
    let report ← decodePresentReport bytes
    .ok (some report)

/-! ## Assembly -/

structure Metadata where
  eventId : String
  eventType : String
  reasonCode : String
  uptimeMs : Nat
  signature : Option String
deriving Repr, DecidableEq

structure DetailAssembly where
  bytes : List UInt8
  received : Nat
deriving Repr, DecidableEq

def decodeMetadata (packet : List UInt8) : Except DeviceSdkError Metadata := do
  let eventId ← Cursor.u64Le packet 9
  let kind ← Cursor.u8 packet 2
  let eventType ← eventType kind
  let reasonCode ← Cursor.u16Le packet 3
  let uptimeMs ← Cursor.u32Le packet 5
  .ok {
    eventId := hex 8 eventId
    eventType
    reasonCode := reason reasonCode
    uptimeMs
    signature := none }

/-- META for an index whose entry is `event`. -/
def receiveMeta (packet : List UInt8) (event : Option Metadata) : Except DeviceSdkError Metadata :=
  if event.isSome then .error (invalid "duplicate diagnostic metadata; reset before a new read")
  else decodeMetadata packet

/-- `if offset == 0`: a new assembly, unless there is one. -/
def beginDetail (offset : Nat) (detail : Option DetailAssembly) :
    Except DeviceSdkError (Option DetailAssembly) :=
  if offset = 0 then
    if detail.isSome then .error (invalid "duplicate diagnostic detail")
    else .ok (some { bytes := List.replicate DIAGNOSTIC_DETAIL_FIXED_LENGTH 0, received := 0 })
  else .ok detail

/-- `detail.bytes[offset..offset + data.len()].copy_from_slice(data)`. -/
def DetailAssembly.copy (detail : DetailAssembly) (offset : Nat) (data : List UInt8) :
    DetailAssembly where
  bytes := detail.bytes.take offset ++ data ++ detail.bytes.drop (offset + data.length)
  received := detail.received + data.length

/-- The checks of an assembly that is complete. -/
def finishDetail (known : Bool) (detail : DetailAssembly) : Except DeviceSdkError DetailAssembly :=
  if detail.received = DIAGNOSTIC_DETAIL_FIXED_LENGTH then
    if known = false then .error (invalid "diagnostic detail without metadata")
    else do
      validateDetail detail.bytes
      .ok detail
  else .ok detail

/-- DETAIL for an index: `known` when it has metadata, `detail` its assembly. -/
def receiveDetail (offset total : Nat) (data : List UInt8) (known : Bool)
    (detail : Option DetailAssembly) : Except DeviceSdkError DetailAssembly :=
  if total ≠ DIAGNOSTIC_DETAIL_FIXED_LENGTH ∨ data = [] ∨ total < offset + data.length then
    .error (invalid "invalid diagnostic detail chunk")
  else do
    let begun ← beginDetail offset detail
    match begun with
    | none => .error (invalid "out-of-order diagnostic detail")
    | some detail =>
      if detail.received ≠ offset then .error (invalid "out-of-order diagnostic detail")
      else finishDetail known (detail.copy offset data)

end Diagnostics

open Diagnostics

/-- The `BTreeMap`s of the events and the details, by index. -/
structure DeviceDiagnosticsDecoder where
  events : Finmap (fun _ : UInt8 => Metadata) := ∅
  details : Finmap (fun _ : UInt8 => DetailAssembly) := ∅

namespace DeviceDiagnosticsDecoder

abbrev Answer : Type := Except DeviceSdkError (Option DeviceDiagnosticsBatch)

def pushMeta (self : DeviceDiagnosticsDecoder) (packet : List UInt8) :
    Except DeviceSdkError DeviceDiagnosticsDecoder := do
  Cursor.requireExact packet DIAGNOSTIC_META_FIXED_LENGTH
  let index ← Cursor.u8 packet 1
  let metadata ← receiveMeta packet (self.events.lookup index)
  .ok { self with events := self.events.insert index metadata }

def pushSignature (self : DeviceDiagnosticsDecoder) (packet : List UInt8) :
    Except DeviceSdkError DeviceDiagnosticsDecoder := do
  Cursor.requireExact packet DIAGNOSTIC_SIGNATURE_FIXED_LENGTH
  let index ← Cursor.u8 packet 1
  match self.events.lookup index with
  | some event =>
    let signature ← Cursor.u64Le packet 2
    .ok { self with
      events := self.events.insert index { event with signature := some (hex 8 signature) } }
  | none => .ok self

def pushDetail (self : DeviceDiagnosticsDecoder) (packet : List UInt8) :
    Except DeviceSdkError DeviceDiagnosticsDecoder := do
  Cursor.require packet DIAGNOSTIC_DETAIL_CHUNK_MINIMUM_LENGTH
  let index ← Cursor.u8 packet 1
  let offset ← Cursor.u16Le packet 2
  let total ← Cursor.u16Le packet 4
  let data ← Cursor.tail packet 6
  let detail ← receiveDetail offset total data (self.events.lookup index).isSome
    (self.details.lookup index)
  .ok { self with details := self.details.insert index detail }

/-- The event of metadata and a complete detail. -/
def event (metadata : Metadata) (signature : String) (bytes : List UInt8) :
    Except DeviceSdkError DeviceDiagnosticEvent := do
  -- `String::from_utf8(..).expect("validated lowercase hex")`
  let build ← Cursor.slice bytes 2 12
  let subsystem ← Cursor.u8 bytes 14
  let state ← Cursor.u8 bytes 15
  let report ← decodeReport bytes
  .ok {
    eventId := metadata.eventId
    eventType := metadata.eventType
    reasonCode := metadata.reasonCode
    uptimeMs := metadata.uptimeMs
    signature
    firmwareBuildId := Ascii.text build
    subsystem := Diagnostics.subsystem subsystem
    stateBeforeEvent := Diagnostics.state state
    report }

/-- What END publishes at one index.  `remove` at each index once is a lookup. -/
def publishAt (self : DeviceDiagnosticsDecoder) (index : UInt8) :
    Except DeviceSdkError DeviceDiagnosticEvent :=
  match self.events.lookup index with
  | none => .error (invalid "incomplete diagnostic metadata")
  | some metadata =>
    match (self.details.lookup index).filter (·.received = DIAGNOSTIC_DETAIL_FIXED_LENGTH) with
    | none => .error (invalid "incomplete diagnostic detail")
    | some detail =>
      match metadata.signature with
      | none => .error (invalid "incomplete diagnostic signature")
      | some signature => event metadata signature detail.bytes

def publish (self : DeviceDiagnosticsDecoder) :
    List Nat → Except DeviceSdkError (List DeviceDiagnosticEvent)
  | [] => .ok []
  | index :: indices => do
    let event ← self.publishAt (UInt8.ofNat index)
    let events ← self.publish indices
    .ok (event :: events)

/-- END takes everything that is pending. -/
def pushEnd (self : DeviceDiagnosticsDecoder) (packet : List UInt8) :
    Except DeviceSdkError DeviceDiagnosticsBatch := do
  Cursor.requireExact packet DIAGNOSTIC_END_FIXED_LENGTH
  let count ← Cursor.u8 packet 1
  if self.events.keys.card ≠ count.toNat ∨ self.details.keys.card ≠ count.toNat then
    .error (invalid "diagnostic event count mismatch")
  else
    let events ← self.publish (List.range count.toNat)
    .ok { schemaVersion := DIAGNOSTIC_DETAIL_VERSION, events }

def pushPacket (self : DeviceDiagnosticsDecoder) (opcode : UInt8) (packet : List UInt8) :
    Except DeviceSdkError (DeviceDiagnosticsDecoder × Option DeviceDiagnosticsBatch) :=
  if DIAGNOSTIC_MAX_PACKET_BYTES < packet.length then
    .error (invalid "diagnostic packet exceeds 20 bytes")
  else if opcode = DEVICE_DIAGNOSTICS_EVT_META then do
    let self ← self.pushMeta packet
    .ok (self, none)
  else if opcode = DEVICE_DIAGNOSTICS_EVT_SIGNATURE then do
    let self ← self.pushSignature packet
    .ok (self, none)
  else if opcode = DEVICE_DIAGNOSTICS_EVT_DETAIL then do
    let self ← self.pushDetail packet
    .ok (self, none)
  else if opcode = DEVICE_DIAGNOSTICS_EVT_END then do
    let batch ← self.pushEnd packet
    .ok ({}, some batch)
  -- logs, ACK results and capability messages
  else .ok (self, none)

/-- Empty input resets, and so does every failure. -/
def push (self : DeviceDiagnosticsDecoder) : List UInt8 → DeviceDiagnosticsDecoder × Answer
  | [] => ({}, .ok none)
  | opcode :: rest =>
    match self.pushPacket opcode (opcode :: rest) with
    | .error e => ({}, .error e)
    | .ok (self, batch) => (self, .ok batch)

end DeviceDiagnosticsDecoder

end BotaSdk
