import BotaSdk.Lib.Bytes
import BotaSdk.Lib.Checked
import BotaSdk.Lib.Chunks
import BotaSdk.Lib.Layout
import BotaSdk.Protocol.Provisioning

/-!
# Payloads written in chunks

`encode_provisioning_chunks` of `protocol/encode.rs`, `wifi_provisioning_grant_chunks` of
`protocol/wifi_provisioning.rs`, and the documents of `protocol/regulatory.rs`.  SHA-256 is a
parameter.
-/

namespace BotaSdk

open Bytes Chunks Layout

/-! ## Provisioning credentials -/

def encodeProvisioningChunks (payload : List UInt8) (mtu : Nat) :
    Except DeviceSdkError (List (List UInt8)) :=
  if mtu ≤ 7 then
    .error ((DeviceSdkError.new .invalidInput .encode false).withDetail
      "MTU must leave room for BLE and provisioning headers")
  else
    let dataCapacity := mtu - 7
    let totalChunks := divCeil payload.length dataCapacity
    if 255 < totalChunks then
      .error (payloadTooLarge payload.length (dataCapacity * 255))
    else
      .ok (frames (fun index => [UInt8.ofNat index, UInt8.ofNat totalChunks]) dataCapacity payload)

/-! ## WiFi grants -/

namespace Wifi

def WIFI_PROVISIONING_MAGIC : List UInt8 := [0x42, 0x4F, 0x54, 0x41, 0x57, 0x46, 0x50, 0x32]
def WIFI_PROVISIONING_V3_MAGIC : List UInt8 := [0x42, 0x4F, 0x54, 0x41, 0x57, 0x46, 0x50, 0x33]

def invalid : DeviceSdkError :=
  (DeviceSdkError.new .integrityFailed .provision false).withDetail
    "secure WiFi configuration authentication failed"

end Wifi

def wifiProvisioningVersion (grant : List UInt8) : Except DeviceSdkError Nat :=
  if grant.length = 509 ∧ grant.take 8 = Wifi.WIFI_PROVISIONING_MAGIC then .ok 2
  else if grant.length = 541 ∧ grant.take 8 = Wifi.WIFI_PROVISIONING_V3_MAGIC then .ok 3
  else .error Wifi.invalid

def wifiProvisioningGrantChunks (grant : List UInt8) (capacity : Nat) :
    Except DeviceSdkError (List (List UInt8)) :=
  match wifiProvisioningVersion grant with
  | .error _ => .error Wifi.invalid
  | .ok _ =>
    if 20 ≤ capacity ∧ capacity ≤ 512 then
      .ok (frames (fun i => [0xb2, 0] ++ leBytes 2 (i * (capacity - 6)) ++ leBytes 2 grant.length)
        (capacity - 6) grant)
    else .error Wifi.invalid

/-! ## Regulatory documents -/

namespace Regulatory

def REGULATORY_MAX_DOCUMENT : Nat := 578

def invalid : DeviceSdkError :=
  (DeviceSdkError.new .invalidInput .provision false).withDetail "invalid regulatory configuration"

/-- `b"BOTAREG1"`. -/
def MAGIC : List UInt8 := [0x42, 0x4F, 0x54, 0x41, 0x52, 0x45, 0x47, 0x31]

def isAsciiUppercase (byte : UInt8) : Bool :=
  0x41 ≤ byte ∧ byte ≤ 0x5A

def be64 (bytes : List UInt8) (offset : Nat) : Nat :=
  beNat (field bytes offset 8)

/-- `bytes[from..to].try_into()` and `core::str::from_utf8`. -/
def fixed (n : Nat) (bytes : List UInt8) : Except DeviceSdkError (FixedBytes n) :=
  if h : bytes.length = n then .ok ⟨bytes, h⟩ else .error invalid

def utf8 (bytes : List UInt8) : Except DeviceSdkError String :=
  match String.fromUTF8? ⟨bytes.toArray⟩ with
  | some value => .ok value
  | none => .error invalid

/-- The longest text of each field, in order. -/
def fieldMaxima : List Nat := [32, 64, 64, 64, 64, 32, 32]

/-- One text field at `pos`: where the next begins. -/
def parseField (bytes : List UInt8) (serial : String) (stop index max pos : Nat) :
    Except DeviceSdkError Nat := do
  if stop < pos + 2 then throw invalid
  let length := beNat (field bytes pos 2)
  let pos := pos + 2
  if max < length ∨ (length = 0 ∧ index ≠ 4) ∨ stop < pos + length then throw invalid
  let value ← utf8 (field bytes pos length)
  if Char.ofNat 0 ∈ value.toList ∨ (index = 0 ∧ value ≠ serial) then throw invalid
  return pos + length

/-- The text fields from `index` on: where the last one ends. -/
def parseFields (bytes : List UInt8) (serial : String) (stop : Nat) :
    (index : Nat) → List Nat → (pos : Nat) → Except DeviceSdkError Nat
  | _, [], pos => .ok pos
  | index, max :: rest, pos => do
    parseFields bytes serial stop (index + 1) rest (← parseField bytes serial stop index max pos)

end Regulatory

open Regulatory

structure RegulatoryDocument where
  bytes : List UInt8
  country : String
  generation : Nat
  revision : Nat
  configId : FixedBytes 16
  nonce : FixedBytes 16
  hash : FixedBytes 32
  deriving DecidableEq

namespace RegulatoryDocument

/-- The fixed part of a document. -/
def headerIsInvalid (bytes : List UInt8) (nonce : FixedBytes 16) : Bool :=
  bytes.take 8 ≠ MAGIC ∨ bytes.getD 8 0 ≠ 1 ∨ 2 < bytes.getD 9 0 ∨ bytes.getD 10 0 ≠ 1 ∨
  bytes.getD 11 0 ≠ 0 ∨ bytes.getD 99 0 ≠ 0 ∨
  ¬(1 ≤ bytes.getD 98 0 ∧ bytes.getD 98 0 ≤ 3) ∨
  ¬(field bytes 96 2).all isAsciiUppercase ∨ field bytes 80 16 ≠ nonce.1 ∨
  nonce.1.all (· = 0) ∨ be64 bytes 48 = 0 ∨ 9007199254740991 < be64 bytes 48 ∨ be64 bytes 56 = 0

def parse (sha256 : List UInt8 → FixedBytes 32) (bytes : List UInt8) (serial : String)
    (nonce : FixedBytes 16) : Except DeviceSdkError RegulatoryDocument := do
  if ¬(232 ≤ bytes.length ∧ bytes.length ≤ REGULATORY_MAX_DOCUMENT) then throw invalid
  if headerIsInvalid bytes nonce then throw invalid
  let issued := be64 bytes 64
  let expires := be64 bytes 72
  if expires ≤ issued ∨ 120 < expires - issued then throw invalid
  let stop := bytes.length - 64
  let pos ← parseFields bytes serial stop 0 fieldMaxima 148
  if pos ≠ stop then throw invalid
  return {
    bytes
    country := ← utf8 (field bytes 96 2)
    generation := be64 bytes 48
    revision := be64 bytes 56
    configId := ← fixed 16 (field bytes 132 16)
    nonce
    hash := sha256 bytes }

def fragments (document : RegulatoryDocument) (mtu : Nat) :
    Except DeviceSdkError (List (List UInt8)) :=
  if 23 ≤ mtu ∧ mtu ≤ 517 then
    let capacity := min (mtu - 7) 244
    let count := divCeil document.bytes.length capacity
    .ok (frames (fun index => [UInt8.ofNat index, UInt8.ofNat count]) capacity document.bytes)
  else .error invalid

/-- What is parsed is a document's size, and kept as it came. -/
theorem parse_spec {sha256 : List UInt8 → FixedBytes 32} {bytes : List UInt8} {serial : String}
    {nonce : FixedBytes 16} {document : RegulatoryDocument}
    (h : parse sha256 bytes serial nonce = .ok document) :
    document.bytes = bytes ∧ 232 ≤ bytes.length ∧ bytes.length ≤ REGULATORY_MAX_DOCUMENT := by
  rw [parse, Checked.guard_eq_ok, Checked.guard_eq_ok, Checked.guard_eq_ok] at h
  obtain ⟨hlength, -, -, h⟩ := h
  obtain ⟨pos, -, h⟩ := Checked.bind_eq_ok.mp h
  obtain ⟨country, -, h⟩ := Checked.bind_eq_ok.mp (Checked.guard_eq_ok.mp h).2
  obtain ⟨configId, -, h⟩ := Checked.bind_eq_ok.mp h
  obtain rfl := Checked.pure_eq_ok.mp h
  exact ⟨rfl, Decidable.not_not.mp hlength⟩

end RegulatoryDocument

/-! ## What is read out of the frames -/

/-- A header of two bytes: the frame's index and the number of frames. -/
def TellsCount (count index _offset : Nat) (header : List UInt8) : Prop :=
  ∃ number total : UInt8, header = [number, total] ∧ number.toNat = index ∧ total.toNat = count

/-- A header of six bytes: where the body begins and the length of the grant. -/
def TellsOffset (length : Nat) (_count _index offset : Nat) (header : List UInt8) : Prop :=
  ∃ start total : List UInt8, header = [0xb2, 0] ++ start ++ total ∧ start.length = 2 ∧
    total.length = 2 ∧ leNat start = offset ∧ leNat total = length

/-- An encoder that refuses a payload under `Fails` alone, and whose frames else reassemble it. -/
def Reassembles (Fails : Prop) (Tells : (count index offset : Nat) → List UInt8 → Prop)
    (limit : Nat) (payload : List UInt8) : Except DeviceSdkError (List (List UInt8)) → Prop
  | .error _ => Fails
  | .ok frames => ¬Fails ∧ ∃ bodies, Framed (Tells frames.length) limit payload frames bodies

theorem tellsCount_ofNat {count index : Nat} (offset : Nat) (hcount : count ≤ 255)
    (hindex : index < count) :
    TellsCount count index offset [UInt8.ofNat index, UInt8.ofNat count] := by
  refine ⟨_, _, rfl, ?_, ?_⟩
  · rw [UInt8.toNat_ofNat']
    omega
  · rw [UInt8.toNat_ofNat']
    omega

/-- Frames behind headers of index and count, when a byte can hold the count. -/
theorem framed_count {size : Nat} {payload : List UInt8} (hsize : 0 < size)
    (hcount : divCeil payload.length size ≤ 255) :
    let count := divCeil payload.length size
    let numbered := frames (fun index => [UInt8.ofNat index, UInt8.ofNat count]) size payload
    Framed (TellsCount numbered.length) (2 + size) payload numbered (chunks size payload) := by
  intro count numbered
  have hlength : numbered.length = count := length_frames _ _ _
  rw [hlength]
  exact framed_frames hsize fun index hindex => ⟨rfl, tellsCount_ofNat _ hcount hindex⟩

theorem encodeProvisioningChunks_reassembles (payload : List UInt8) (mtu : Nat) :
    Reassembles (mtu ≤ 7 ∨ 255 * (mtu - 7) < payload.length) TellsCount (mtu - 5) payload
      (encodeProvisioningChunks payload mtu) := by
  rw [encodeProvisioningChunks]
  by_cases hmtu : mtu ≤ 7
  · rw [if_pos hmtu]
    exact .inl hmtu
  · have hsize : 0 < mtu - 7 := by omega
    have htotal := divCeil_le (n := payload.length) (i := 255) hsize
    rw [Nat.mul_comm] at htotal
    rw [if_neg hmtu]
    by_cases hlarge : 255 < divCeil payload.length (mtu - 7)
    · simp only [if_pos hlarge]
      exact .inr (by omega)
    · simp only [if_neg hlarge]
      have hlimit : mtu - 5 = 2 + (mtu - 7) := by omega
      rw [hlimit]
      exact ⟨by omega, _, framed_count hsize (by omega)⟩

/-- The grants that have a version. -/
def IsGrant (grant : List UInt8) : Prop :=
  (grant.length = 509 ∧ grant.take 8 = Wifi.WIFI_PROVISIONING_MAGIC) ∨
  (grant.length = 541 ∧ grant.take 8 = Wifi.WIFI_PROVISIONING_V3_MAGIC)

theorem wifiProvisioningVersion_cases (grant : List UInt8) :
    (IsGrant grant ∧ ∃ version, wifiProvisioningVersion grant = .ok version) ∨
    (¬IsGrant grant ∧ wifiProvisioningVersion grant = .error Wifi.invalid) := by
  rw [wifiProvisioningVersion]
  by_cases h2 : grant.length = 509 ∧ grant.take 8 = Wifi.WIFI_PROVISIONING_MAGIC
  · exact .inl ⟨.inl h2, 2, if_pos h2⟩
  · rw [if_neg h2]
    by_cases h3 : grant.length = 541 ∧ grant.take 8 = Wifi.WIFI_PROVISIONING_V3_MAGIC
    · exact .inl ⟨.inr h3, 3, if_pos h3⟩
    · exact .inr ⟨fun hgrant => hgrant.elim h2 h3, if_neg h3⟩

theorem wifiProvisioningGrantChunks_reassembles (grant : List UInt8) (capacity : Nat) :
    Reassembles (¬IsGrant grant ∨ ¬(20 ≤ capacity ∧ capacity ≤ 512)) (TellsOffset grant.length)
      capacity grant (wifiProvisioningGrantChunks grant capacity) := by
  rw [wifiProvisioningGrantChunks]
  rcases wifiProvisioningVersion_cases grant with ⟨hgrant, version, hversion⟩ | ⟨hgrant, hversion⟩
  · simp only [hversion]
    by_cases hcapacity : 20 ≤ capacity ∧ capacity ≤ 512
    · obtain ⟨size, rfl⟩ : ∃ size, capacity = 6 + size := ⟨capacity - 6, by omega⟩
      rw [if_pos hcapacity, Nat.add_sub_cancel_left]
      refine ⟨fun h => h.elim (absurd hgrant) (absurd hcapacity), chunks size grant, ?_⟩
      have hlength : grant.length ≤ 541 := by
        rcases hgrant with ⟨h, -⟩ | ⟨h, -⟩ <;> omega
      refine framed_frames (by omega) fun i hi => ?_
      have hstart := (lt_divCeil (by omega)).mp hi
      refine ⟨by simp, _, _, rfl, length_leBytes _ _, length_leBytes _ _, ?_, ?_⟩
      · rw [leNat_leBytes_of_lt (by rw [Nat.mul_comm]; omega), Nat.mul_comm]
      · exact leNat_leBytes_of_lt (by omega)
    · rw [if_neg hcapacity]
      exact .inr hcapacity
  · simp only [hversion]
    exact .inl hgrant

namespace RegulatoryDocument

theorem fragments_reassembles {sha256 : List UInt8 → FixedBytes 32} {bytes : List UInt8}
    {serial : String} {nonce : FixedBytes 16} {document : RegulatoryDocument}
    (h : parse sha256 bytes serial nonce = .ok document) (mtu : Nat) :
    Reassembles (¬(23 ≤ mtu ∧ mtu ≤ 517)) TellsCount (min (mtu - 5) 246) bytes
      (document.fragments mtu) := by
  obtain ⟨rfl, -, hlong⟩ := parse_spec h
  rw [REGULATORY_MAX_DOCUMENT] at hlong
  rw [fragments]
  by_cases hmtu : 23 ≤ mtu ∧ mtu ≤ 517
  · rw [if_pos hmtu]
    have hsize : 16 ≤ min (mtu - 7) 244 := by omega
    have hlimit : min (mtu - 5) 246 = 2 + min (mtu - 7) 244 := by omega
    have hcount : divCeil document.bytes.length (min (mtu - 7) 244) ≤ 255 := by
      apply (divCeil_le (by omega)).mpr
      have hroom := Nat.mul_le_mul_right 255 hsize
      omega
    rw [hlimit]
    exact ⟨not_not.mpr hmtu, _, framed_count (by omega) hcount⟩
  · rw [if_neg hmtu]
    exact hmtu

end RegulatoryDocument

end BotaSdk
