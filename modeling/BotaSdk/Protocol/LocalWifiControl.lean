import BotaSdk.Protocol.LocalWifi

/-!
# The sealed local Wi-Fi control channel (`protocol/local_wifi_control.rs`)

Both directions have a key, a nonce prefix and a counter of their own.  The counter is part of the
nonce, and it stands on the wire between the frame's header and the sealed rest of the frame.
-/

namespace BotaSdk

open Bytes

namespace Protocol

def LOCAL_WIFI_LINK_OPEN : UInt8 := 0x10
def LOCAL_WIFI_LINK_QUERY : UInt8 := 0x11
def LOCAL_WIFI_LINK_CLOSE : UInt8 := 0x12
def LOCAL_WIFI_LINK_STATE : UInt8 := 0x90

def LOCAL_WIFI_CONTROL_AAD : List UInt8 := "bota/local-wifi/control/v1".toUTF8.toList
def LOCAL_WIFI_CONTROL_APP_INFO : List UInt8 := "bota/local-wifi/control/v1/app".toUTF8.toList
def LOCAL_WIFI_CONTROL_DEVICE_INFO : List UInt8 :=
  "bota/local-wifi/control/v1/device".toUTF8.toList

end Protocol

open Protocol

/-- `Hkdf::<Sha256>` (salt, key, info) and `ChaCha20Poly1305` (key, nonce, associated data, text). -/
structure ControlCrypto where
  expand : FixedBytes 32 → FixedBytes 32 → List UInt8 → Option (FixedBytes 40)
  encrypt : FixedBytes 32 → FixedBytes 12 → List UInt8 → List UInt8 → Option (List UInt8)
  decrypt : FixedBytes 32 → FixedBytes 12 → List UInt8 → List UInt8 → Option (List UInt8)

structure LocalWifiControl where
  tx : FixedBytes 40
  rx : FixedBytes 40
  session : UInt64
  send : UInt32
  receive : UInt32
  device : Bool
  deriving DecidableEq

namespace LocalWifiControl

def invalid : DeviceSdkError :=
  (DeviceSdkError.new .integrityFailed .decode false).withDetail
    "local control authentication failed"

/-- The first 32 bytes of a direction's material. -/
def cipherKey (material : FixedBytes 40) : FixedBytes 32 :=
  ⟨material.1.take 32, by rw [List.length_take, material.2]; rfl⟩

/-- The other 8 bytes of a direction's material and the counter. -/
def nonce (material : FixedBytes 40) (counter : UInt32) : FixedBytes 12 :=
  ⟨material.1.drop 32 ++ leBytes 4 counter.toNat, by
    rw [List.length_append, List.length_drop, material.2, length_leBytes]⟩

/-- The associated data of a frame with its header and counter. -/
def associated (front : List UInt8) : List UInt8 :=
  LOCAL_WIFI_CONTROL_AAD ++ front

section Calls

variable (crypto : ControlCrypto)

def new (key transcript : FixedBytes 32) (session : UInt64) (device : Bool) :
    Except DeviceSdkError LocalWifiControl :=
  if key = FixedBytes.replicate 32 0 ∨ session = 0 then .error invalid
  else
    match crypto.expand transcript key LOCAL_WIFI_CONTROL_APP_INFO,
      crypto.expand transcript key LOCAL_WIFI_CONTROL_DEVICE_INFO with
    | some app, some peer =>
      if device then .ok { tx := peer, rx := app, session, send := 0, receive := 0, device }
      else .ok { tx := app, rx := peer, session, send := 0, receive := 0, device }
    | _, _ => .error invalid

def header (self : LocalWifiControl) (bytes : List UInt8) (fromDevice : Bool) :
    Except DeviceSdkError Unit :=
  if bytes.length < 12 ∨ bytes.getD 1 0 ≠ 2 ∨ (bytes.drop 2).take 2 ≠ [0, 0] ∨
      (bytes.drop 4).take 8 ≠ leBytes 8 self.session.toNat then
    .error invalid
  else
    let known :=
      if fromDevice then [LOCAL_WIFI_LINK_STATE, LOCAL_WIFI_PREPARED, LOCAL_WIFI_EOF]
      else [LOCAL_WIFI_LINK_OPEN, LOCAL_WIFI_LINK_QUERY, LOCAL_WIFI_LINK_CLOSE, LOCAL_WIFI_PREPARE,
        LOCAL_WIFI_FINISH]
    if bytes.getD 0 0 ∉ known then .error invalid else .ok ()

/-- The frame's header and the counter. -/
def sealedFront (self : LocalWifiControl) (frame : List UInt8) : List UInt8 :=
  frame.take 12 ++ leBytes 4 self.send.toNat

/-- `LocalWifiControl::seal`, with the channel that it leaves. -/
def sealFrame (self : LocalWifiControl) (frame : List UInt8) :
    LocalWifiControl × Except DeviceSdkError (List UInt8) :=
  match self.header frame self.device with
  | .error error => (self, .error error)
  | .ok () =>
    if 159 < frame.length ∨ self.send.toNat = 2 ^ 32 - 1 then (self, .error invalid)
    else
      let front := self.sealedFront frame
      match crypto.encrypt (cipherKey self.tx) (nonce self.tx self.send) (associated front)
        (frame.drop 12) with
      | none => (self, .error invalid)
      | some encrypted => ({ self with send := self.send + 1 }, .ok (front ++ encrypted))

/-- `LocalWifiControl::open`, with the channel that it leaves. -/
def openWire (self : LocalWifiControl) (wire : List UInt8) :
    LocalWifiControl × Except DeviceSdkError (List UInt8) :=
  match self.header wire (!self.device) with
  | .error error => (self, .error error)
  | .ok () =>
    if wire.length < 32 ∨ 179 < wire.length ∨ self.receive.toNat = 2 ^ 32 - 1 ∨
        (wire.drop 12).take 4 ≠ leBytes 4 self.receive.toNat then
      (self, .error invalid)
    else
      -- the counter on the wire is the receive counter here, and so is the nonce's
      match crypto.decrypt (cipherKey self.rx) (nonce self.rx self.receive)
        (associated (wire.take 16)) (wire.drop 16) with
      | none => (self, .error invalid)
      | some plain =>
        ({ self with receive := self.receive + 1 }, .ok (wire.take 12 ++ plain))

end Calls

end LocalWifiControl

end BotaSdk
