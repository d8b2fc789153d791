import BotaSdk.Error
import BotaSdk.Lib.Bytes
import BotaSdk.Lib.Checked
import BotaSdk.Lib.Layout

/-!
# The frames of the BYO call (`protocol/byo_ble.rs`)

One frame carries a piece of a request, a piece of a response, or asks for the next piece of a
response.  A fixed header of twelve bytes stands before the payload.
-/

namespace BotaSdk

open Bytes Layout Checked

namespace Protocol

def BYO_BLE_PULL : UInt8 := 0x72
def BYO_BLE_REQUEST : UInt8 := 0x70
def BYO_BLE_RESPONSE : UInt8 := 0x71
def BYO_BLE_VERSION : UInt8 := 0x03

def BYO_BLE_CAPABILITIES : UInt8 := 0x01
def BYO_BLE_LIVE_SUCCESSOR : UInt8 := 0x0D

def BYO_BLE_DOCUMENT_MAX_BYTES : Nat := 8192
def BYO_BLE_FRAME_MAX_BYTES : Nat := 512
def BYO_BLE_HEADER_BYTES : Nat := 12

end Protocol

open Protocol

inductive ByoBleKind where
  | request
  | response
  | pull
  deriving DecidableEq

structure ByoBleFrame where
  kind : ByoBleKind
  operation : UInt8
  status : UInt8
  requestId : UInt32
  offset : UInt16
  total : UInt16
  payload : List UInt8
  deriving DecidableEq

namespace ByoBle

def invalid : DeviceSdkError :=
  (DeviceSdkError.new .invalidInput .encode false).withDetail "invalid independent BYO BLE frame"

end ByoBle

namespace ByoBleFrame

section Validate

variable (self : ByoBleFrame)

/-- The arms of `validate`'s match on the kind. -/
def validateKind : Except DeviceSdkError Unit :=
  match self.kind with
  | .pull =>
    if self.status ≠ 0 ∨ self.total ≠ 0 ∨ self.payload ≠ [] then .error ByoBle.invalid else .ok ()
  | .request => if self.status ≠ 0 then .error ByoBle.invalid else .ok ()
  | .response => if 3 < self.status then .error ByoBle.invalid else .ok ()

def validate : Except DeviceSdkError Unit := do
  if self.requestId = 0 ∨
      ¬(BYO_BLE_CAPABILITIES ≤ self.operation ∧ self.operation ≤ BYO_BLE_LIVE_SUCCESSOR) ∨
      BYO_BLE_DOCUMENT_MAX_BYTES < self.total.toNat ∨
      BYO_BLE_DOCUMENT_MAX_BYTES < self.offset.toNat ∨
      BYO_BLE_FRAME_MAX_BYTES < self.payload.length + BYO_BLE_HEADER_BYTES then
    throw ByoBle.invalid
  self.validateKind
  if self.kind ≠ .pull then
    if self.total.toNat < self.offset.toNat + self.payload.length then throw ByoBle.invalid
    if self.kind = .request ∧ self.total ≠ 0 ∧ self.payload = [] then throw ByoBle.invalid
    if self.kind = .response ∧ self.status ≠ 0 ∧ self.payload ≠ [] then throw ByoBle.invalid

end Validate

/-- What `validate` accepts. -/
structure Valid (frame : ByoBleFrame) : Prop where
  requestId : frame.requestId ≠ 0
  operation : BYO_BLE_CAPABILITIES ≤ frame.operation ∧ frame.operation ≤ BYO_BLE_LIVE_SUCCESSOR
  total : frame.total.toNat ≤ BYO_BLE_DOCUMENT_MAX_BYTES
  offset : frame.offset.toNat ≤ BYO_BLE_DOCUMENT_MAX_BYTES
  payload : frame.payload.length + BYO_BLE_HEADER_BYTES ≤ BYO_BLE_FRAME_MAX_BYTES
  pull : frame.kind = .pull → frame.status = 0 ∧ frame.total = 0 ∧ frame.payload = []
  request : frame.kind = .request →
    frame.status = 0 ∧ (frame.total ≠ 0 → frame.payload ≠ [])
  response : frame.kind = .response →
    frame.status ≤ 3 ∧ (frame.status ≠ 0 → frame.payload = [])
  inside : frame.kind ≠ .pull → frame.offset.toNat + frame.payload.length ≤ frame.total.toNat

variable {self : ByoBleFrame}

theorem validateKind_eq_ok : self.validateKind = .ok () ↔
    (self.kind = .pull → self.status = 0 ∧ self.total = 0 ∧ self.payload = []) ∧
    (self.kind = .request → self.status = 0) ∧ (self.kind = .response → self.status ≤ 3) := by
  unfold validateKind
  cases self.kind with
  | pull => simp
  | request => simp
  | response => simp [UInt8.not_lt]

theorem validate_eq_ok : self.validate = .ok () ↔ self.Valid := by
  unfold validate
  simp only [guard_eq_ok, seq_eq_ok, validateKind_eq_ok, not_or, not_not, Nat.not_lt]
  constructor
  · rintro ⟨⟨hid, hop, htotal, hoffset, hpayload⟩, ⟨hpull, hrequest, hresponse⟩, hrest⟩
    by_cases hkind : self.kind = .pull
    · refine ⟨hid, hop, htotal, hoffset, hpayload, hpull, ?_, ?_, absurd hkind⟩ <;>
        simp [hkind]
    · rw [if_pos hkind] at hrest
      simp only [guard_eq_ok, last_guard_eq_ok, Nat.not_lt, not_and, not_not] at hrest
      exact ⟨hid, hop, htotal, hoffset, hpayload, hpull, fun h => ⟨hrequest h, hrest.2.1 h⟩,
        fun h => ⟨hresponse h, hrest.2.2 h⟩, fun _ => hrest.1⟩
  · intro h
    refine ⟨⟨h.requestId, h.operation, h.total, h.offset, h.payload⟩,
      ⟨h.pull, fun hk => (h.request hk).1, fun hk => (h.response hk).1⟩, ?_⟩
    by_cases hkind : self.kind = .pull
    · rw [if_neg (not_not.mpr hkind)]
      rfl
    · rw [if_pos hkind]
      simp only [guard_eq_ok, last_guard_eq_ok, Nat.not_lt, not_and, not_not]
      exact ⟨h.inside hkind, fun hk => (h.request hk).2, fun hk => (h.response hk).2⟩

/-- The frame on the wire. -/
def bytes (frame : ByoBleFrame) : List UInt8 :=
  [match frame.kind with
    | .request => BYO_BLE_REQUEST
    | .response => BYO_BLE_RESPONSE
    | .pull => BYO_BLE_PULL,
    BYO_BLE_VERSION, frame.operation, frame.status] ++
  leBytes 4 frame.requestId.toNat ++ leBytes 2 frame.offset.toNat ++
  leBytes 2 frame.total.toNat ++ frame.payload

theorem length_bytes (frame : ByoBleFrame) :
    frame.bytes.length = BYO_BLE_HEADER_BYTES + frame.payload.length := by
  simp only [bytes, List.length_append, length_leBytes, List.length_cons, List.length_nil,
    BYO_BLE_HEADER_BYTES]

end ByoBleFrame

def encodeByoBle (frame : ByoBleFrame) (maximumFrameBytes : Nat) :
    Except DeviceSdkError (List UInt8) := do
  frame.validate
  if maximumFrameBytes < BYO_BLE_HEADER_BYTES + frame.payload.length then throw ByoBle.invalid
  return frame.bytes

namespace ByoBle

def decodeKind (byte : UInt8) : Except DeviceSdkError ByoBleKind :=
  if byte = BYO_BLE_REQUEST then .ok .request
  else if byte = BYO_BLE_RESPONSE then .ok .response
  else if byte = BYO_BLE_PULL then .ok .pull
  else .error invalid

end ByoBle

def decodeByoBle (bytes : List UInt8) : Except DeviceSdkError ByoBleFrame := do
  if bytes.length < BYO_BLE_HEADER_BYTES ∨ BYO_BLE_FRAME_MAX_BYTES < bytes.length ∨
      bytes.getD 1 0 ≠ BYO_BLE_VERSION then
    throw ByoBle.invalid
  let kind ← ByoBle.decodeKind (bytes.getD 0 0)
  let frame : ByoBleFrame := {
    kind
    operation := bytes.getD 2 0
    status := bytes.getD 3 0
    requestId := .ofNat (leNat (field bytes 4 4))
    offset := .ofNat (leNat (field bytes 8 2))
    total := .ofNat (leNat (field bytes 10 2))
    payload := bytes.drop 12 }
  frame.validate
  return frame

/-! ## The two are inverse to each other -/

namespace ByoBle

variable {frame : ByoBleFrame} {bytes : List UInt8} {maximum : Nat}

theorem encodeByoBle_eq_ok : encodeByoBle frame maximum = .ok bytes ↔
    frame.Valid ∧ BYO_BLE_HEADER_BYTES + frame.payload.length ≤ maximum ∧
      bytes = frame.bytes := by
  unfold encodeByoBle
  simp only [seq_eq_ok, ByoBleFrame.validate_eq_ok, guard_eq_ok, Nat.not_lt, pure_eq_ok]
  exact and_congr_right' (and_congr_right' eq_comm)

theorem decodeKind_eq_ok {byte : UInt8} {kind : ByoBleKind} : decodeKind byte = .ok kind ↔
    byte = match kind with
      | .request => BYO_BLE_REQUEST
      | .response => BYO_BLE_RESPONSE
      | .pull => BYO_BLE_PULL := by
  constructor
  · intro h
    unfold decodeKind at h
    split_ifs at h with h0 h1 h2 <;> cases h <;> assumption
  · rintro rfl
    cases kind <;> rfl

theorem toNat_ofNat_leNat_four (h : bytes.length = 4) :
    (UInt32.ofNat (leNat bytes)).toNat = leNat bytes := by
  have hlt := leNat_lt bytes
  rw [h] at hlt
  exact UInt32.toNat_ofNat_of_lt' (hlt.trans_eq (by decide))

theorem toNat_ofNat_leNat_two (h : bytes.length = 2) :
    (UInt16.ofNat (leNat bytes)).toNat = leNat bytes := by
  have hlt := leNat_lt bytes
  rw [h] at hlt
  exact UInt16.toNat_ofNat_of_lt' (hlt.trans_eq (by decide))

theorem decodeByoBle_eq_ok :
    decodeByoBle bytes = .ok frame ↔ frame.Valid ∧ bytes = frame.bytes := by
  unfold decodeByoBle
  simp only [guard_eq_ok, bind_eq_ok, decodeKind_eq_ok, pure_eq_ok, not_or, not_not, Nat.not_lt]
  constructor
  · rintro ⟨⟨hlow, -, hversion⟩, kind, hkind, ⟨⟩, hvalid, rfl⟩
    refine ⟨ByoBleFrame.validate_eq_ok.mp hvalid, ?_⟩
    -- the header is there in full
    match bytes, hlow with
    | b0 :: b1 :: b2 :: b3 :: b4 :: b5 :: b6 :: b7 :: b8 :: b9 :: b10 :: b11 :: payload, _ =>
      have hb0 : b0 = _ := hkind
      have hb1 : b1 = BYO_BLE_VERSION := hversion
      show _ = _ ++ leBytes 4 (UInt32.ofNat (leNat [b4, b5, b6, b7])).toNat ++
        leBytes 2 (UInt16.ofNat (leNat [b8, b9])).toNat ++
        leBytes 2 (UInt16.ofNat (leNat [b10, b11])).toNat ++ payload
      rw [toNat_ofNat_leNat_four rfl, toNat_ofNat_leNat_two rfl, toNat_ofNat_leNat_two rfl,
        show leBytes 4 _ = _ from leBytes_leNat [b4, b5, b6, b7],
        show leBytes 2 _ = _ from leBytes_leNat [b8, b9],
        show leBytes 2 _ = _ from leBytes_leNat [b10, b11], hb0, hb1]
      rfl
  · rintro ⟨hvalid, rfl⟩
    have hlength := frame.length_bytes
    have hpayload := hvalid.payload
    have hid : leNat (field frame.bytes 4 4) = frame.requestId.toNat := by
      show leNat (leBytes 4 _) = _
      exact leNat_leBytes_of_lt (frame.requestId.toNat_lt.trans_eq (by decide))
    have hoffset : leNat (field frame.bytes 8 2) = frame.offset.toNat := by
      show leNat (leBytes 2 _) = _
      exact leNat_leBytes_of_lt (frame.offset.toNat_lt.trans_eq (by decide))
    have htotal : leNat (field frame.bytes 10 2) = frame.total.toNat := by
      show leNat (leBytes 2 _) = _
      exact leNat_leBytes_of_lt (frame.total.toNat_lt.trans_eq (by decide))
    refine ⟨⟨by omega, by omega, rfl⟩, frame.kind, rfl, (), ByoBleFrame.validate_eq_ok.mpr ?_, ?_⟩ <;>
      rw [hid, hoffset, htotal, UInt32.ofNat_toNat, UInt16.ofNat_toNat, UInt16.ofNat_toNat]
    · exact hvalid
    · rfl

/-- What one side encodes, the other decodes to the same frame. -/
theorem decode_encode (h : encodeByoBle frame maximum = .ok bytes) :
    decodeByoBle bytes = .ok frame := by
  obtain ⟨hvalid, -, rfl⟩ := encodeByoBle_eq_ok.mp h
  exact decodeByoBle_eq_ok.mpr ⟨hvalid, rfl⟩

/-- A decoded frame is encoded to the bytes it was decoded from, wherever these have room. -/
theorem encode_decode (h : decodeByoBle bytes = .ok frame) (hroom : bytes.length ≤ maximum) :
    encodeByoBle frame maximum = .ok bytes := by
  obtain ⟨hvalid, rfl⟩ := decodeByoBle_eq_ok.mp h
  rw [ByoBleFrame.length_bytes] at hroom
  exact encodeByoBle_eq_ok.mpr ⟨hvalid, hroom, rfl⟩

end ByoBle

end BotaSdk
