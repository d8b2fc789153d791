import BotaSdk.Error

/-!
# Connection settings (`model/settings.rs`)

With the `DeviceModel` of `model/device.rs`.
-/

namespace BotaSdk

inductive DeviceModel where
  | pin
  | pin4g
  | note
  | unknown (value : UInt8)
deriving Repr, DecidableEq

def CONN_ID_WIFI : UInt8 := 0x01
def CONN_ID_BLE : UInt8 := 0x02
def CONN_ID_CELLULAR : UInt8 := 0x03

inductive ConnectionType where
  | wifi
  | ble
  | cellular
  | unknown (value : UInt8)
deriving Repr, DecidableEq

namespace ConnectionType

def fromWire (value : UInt8) : ConnectionType :=
  if value = CONN_ID_WIFI then wifi
  else if value = CONN_ID_BLE then ble
  else if value = CONN_ID_CELLULAR then cellular
  else unknown value

def toWire : ConnectionType → UInt8
  | wifi => CONN_ID_WIFI
  | ble => CONN_ID_BLE
  | cellular => CONN_ID_CELLULAR
  | unknown value => value

@[simp] theorem toWire_fromWire (value : UInt8) : (fromWire value).toWire = value := by
  unfold fromWire
  split_ifs with hwifi hble hcellular
  · exact hwifi.symm
  · exact hble.symm
  · exact hcellular.symm
  · rfl

end ConnectionType

inductive IdleTimeout where
  | immediate
  | seconds (value : Nat)
  | alwaysOn
deriving Repr, DecidableEq

structure EnabledConnections where
  wifi : Bool
  cellular : Bool
deriving Repr, DecidableEq

structure HeartbeatConnections where
  wifi : Bool
  cellular : Bool
  unknownMask : UInt8
deriving Repr, DecidableEq

structure PowerManagement where
  cellular : IdleTimeout
  wifi : IdleTimeout
deriving Repr, DecidableEq

structure DeviceConnectionSettings where
  enabled : EnabledConnections
  heartbeat : HeartbeatConnections
  uploadPriority : List ConnectionType
  power : PowerManagement
  streamingEnabled : Bool
  streamingFlushIntervalSeconds : UInt8
deriving Repr, DecidableEq

namespace DeviceConnectionSettings

/-- Notes have no cellular modem. -/
def normalizedFor (settings : DeviceConnectionSettings) (model : DeviceModel) :
    DeviceConnectionSettings :=
  if model = .note then
    { settings with
      enabled := { settings.enabled with cellular := false }
      heartbeat := { settings.heartbeat with cellular := false }
      uploadPriority := settings.uploadPriority.filter (· ≠ .cellular) }
  else settings

variable (settings : DeviceConnectionSettings) (model : DeviceModel)

@[simp] theorem normalizedFor_power : (settings.normalizedFor model).power = settings.power := by
  unfold normalizedFor
  split <;> rfl

@[simp] theorem normalizedFor_unknownMask :
    (settings.normalizedFor model).heartbeat.unknownMask = settings.heartbeat.unknownMask := by
  unfold normalizedFor
  split <;> rfl

theorem normalizedFor_uploadPriority_sublist :
    (settings.normalizedFor model).uploadPriority.Sublist settings.uploadPriority := by
  unfold normalizedFor
  split
  · exact List.filter_sublist
  · exact List.Sublist.refl _

@[simp] theorem normalizedFor_normalizedFor :
    (settings.normalizedFor model).normalizedFor model = settings.normalizedFor model := by
  unfold normalizedFor
  by_cases hnote : model = .note
  · simp only [if_pos hnote, List.filter_filter, Bool.and_self]
  · simp only [if_neg hnote]

end DeviceConnectionSettings

end BotaSdk
