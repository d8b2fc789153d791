import BotaSdk.Model.Settings
import BotaSdk.Protocol.Cursor
import Mathlib.Data.List.TakeWhile

/-!
# The `DEVICE_SETTINGS` packet (`protocol/settings.rs`)
-/

namespace BotaSdk

def DEVICE_SETTINGS_MINIMUM_LENGTH : Nat := 8
def DEVICE_SETTINGS_FIXED_LENGTH : Nat := 12
def HEARTBEAT_EXPLICIT : UInt8 := 0x80
def HEARTBEAT_WIFI : UInt8 := 0x01
def HEARTBEAT_CELLULAR : UInt8 := 0x02

structure ParsedConnectionSettings where
  settings : DeviceConnectionSettings
  supportedVersion : Bool
deriving Repr, DecidableEq

namespace ConnectionSettings

def decodeTimeout (value : UInt8) : IdleTimeout :=
  if value = 0 then .immediate
  else if value = 255 then .alwaysOn
  else .seconds (value.toNat * 10)

def defaultSettings : DeviceConnectionSettings where
  enabled := { wifi := true, cellular := true }
  heartbeat := { wifi := true, cellular := true, unknownMask := 0 }
  uploadPriority := [.wifi, .ble, .cellular]
  power := { cellular := .seconds 180, wifi := .seconds 180 }
  streamingEnabled := true
  streamingFlushIntervalSeconds := 60

/-- `for offset in 2..=4`: a zero ends the list. -/
def decodePriority (bytes : List UInt8) : List Nat → Except DeviceSdkError (List ConnectionType)
  | [] => .ok []
  | offset :: offsets => do
    let id ← Cursor.u8 bytes offset
    if id = 0 then .ok []
    else
      let rest ← decodePriority bytes offsets
      .ok (ConnectionType.fromWire id :: rest)

def decodeHeartbeat (mask : UInt8) : HeartbeatConnections :=
  if mask &&& HEARTBEAT_EXPLICIT = 0 then { wifi := true, cellular := true, unknownMask := 0 }
  else {
    wifi := mask &&& HEARTBEAT_WIFI ≠ 0
    cellular := mask &&& HEARTBEAT_CELLULAR ≠ 0
    unknownMask := mask &&& ~~~(HEARTBEAT_EXPLICIT ||| HEARTBEAT_WIFI ||| HEARTBEAT_CELLULAR) }

def decodeEnabled (mask : UInt8) : EnabledConnections where
  wifi := mask &&& HEARTBEAT_WIFI ≠ 0
  cellular := mask &&& HEARTBEAT_CELLULAR ≠ 0

/-- `if version == 2 && cursor.len() > offset { cursor.u8(offset)? } else { default }`. -/
def sinceVersion2 (bytes : List UInt8) (version : UInt8) (offset : Nat) (default : UInt8) :
    Except DeviceSdkError UInt8 :=
  if version = 2 ∧ offset + 1 ≤ bytes.length then Cursor.u8 bytes offset else .ok default

def readVersion (bytes : List UInt8) : Except DeviceSdkError UInt8 :=
  if 1 ≤ bytes.length then Cursor.u8 bytes 0 else .ok 0

/-- The settings of a packet whose version is supported. -/
def decodeSettings (bytes : List UInt8) (version : UInt8) :
    Except DeviceSdkError DeviceConnectionSettings := do
  let enabledMask ← Cursor.u8 bytes 1
  let uploadPriority ← decodePriority bytes [2, 3, 4]
  let heartbeatMask ← sinceVersion2 bytes version 9 0
  let cellular ← Cursor.u8 bytes 5
  let wifi ← Cursor.u8 bytes 6
  let streaming ← Cursor.u8 bytes 7
  let flush ← sinceVersion2 bytes version 8 60
  .ok {
    enabled := decodeEnabled enabledMask
    heartbeat := decodeHeartbeat heartbeatMask
    uploadPriority
    power := { cellular := decodeTimeout cellular, wifi := decodeTimeout wifi }
    streamingEnabled := streaming ≠ 0
    streamingFlushIntervalSeconds := flush }

end ConnectionSettings

open ConnectionSettings

def parseConnectionSettings (bytes : List UInt8) :
    Except DeviceSdkError ParsedConnectionSettings := do
  let version ← readVersion bytes
  if bytes.length < DEVICE_SETTINGS_MINIMUM_LENGTH ∨ ¬(version = 1 ∨ version = 2) then
    .ok { settings := defaultSettings, supportedVersion := false }
  else
    let settings ← decodeSettings bytes version
    .ok { settings, supportedVersion := true }

namespace ConnectionSettings

def encodeTimeout : IdleTimeout → Except DeviceSdkError UInt8
  | .immediate => .ok 0
  | .alwaysOn => .ok 255
  | .seconds seconds =>
    if seconds ≤ 2540 then .ok (UInt8.ofNat (max (seconds / 10) 1))
    else .error ((DeviceSdkError.new .invalidInput .encode false).withDetail
      "idle timeout must not exceed 2540 seconds")

/-- `u8::from(bool)`. -/
def bit (value : Bool) : UInt8 :=
  if value then 1 else 0

/-- `bytes[offset + index] = connection.to_wire()`. -/
def putPriority (offset : Nat) : List ConnectionType → List UInt8 → List UInt8
  | [], bytes => bytes
  | connection :: rest, bytes => putPriority (offset + 1) rest (bytes.set offset connection.toWire)

end ConnectionSettings

def encodeConnectionSettings (settings : DeviceConnectionSettings) (model : DeviceModel) :
    Except DeviceSdkError (List UInt8) := do
  let settings := settings.normalizedFor model
  let bytes := List.replicate DEVICE_SETTINGS_FIXED_LENGTH (0 : UInt8)
  let bytes := bytes.set 0 0x02
  let bytes := bytes.set 1 (bit settings.enabled.wifi ||| (bit settings.enabled.cellular <<< 1))
  let bytes := putPriority 2 (settings.uploadPriority.take 3) bytes
  let cellular ← encodeTimeout settings.power.cellular
  let bytes := bytes.set 5 cellular
  let wifi ← encodeTimeout settings.power.wifi
  let bytes := bytes.set 6 wifi
  let bytes := bytes.set 7 (bit settings.streamingEnabled)
  let bytes := bytes.set 8 (min settings.streamingFlushIntervalSeconds 128)
  let bytes := bytes.set 9 (HEARTBEAT_EXPLICIT ||| settings.heartbeat.unknownMask |||
    bit settings.heartbeat.wifi ||| (bit settings.heartbeat.cellular <<< 1))
  .ok bytes

namespace ConnectionSettings

/-! ## Fields -/

theorem encodeTimeout_decodeTimeout (value : UInt8) :
    encodeTimeout (decodeTimeout value) = .ok value := by
  unfold decodeTimeout
  split_ifs with hzero hmax
  · rw [hzero]
    rfl
  · rw [hmax]
    rfl
  · have hpos : value.toNat ≠ 0 := fun h => hzero (UInt8.toNat_inj.mp h)
    have hlt : value.toNat ≠ 255 := fun h => hmax (UInt8.toNat_inj.mp h)
    have hbyte : value.toNat < 256 := value.toNat_lt
    have htens : max (value.toNat * 10 / 10) 1 = value.toNat := by omega
    show (if value.toNat * 10 ≤ 2540 then _ else _) = _
    rw [if_pos (by omega), htens, UInt8.ofNat_toNat]

theorem decodeEnabled_bits (wifi cellular : Bool) :
    decodeEnabled (bit wifi ||| (bit cellular <<< 1)) = { wifi, cellular } := by
  cases wifi <;> cases cellular <;> decide

/-- The bits of the mask that carry no connection. -/
def Unknown (mask : UInt8) : Prop :=
  mask &&& (HEARTBEAT_EXPLICIT ||| HEARTBEAT_WIFI ||| HEARTBEAT_CELLULAR) = 0

instance (mask : UInt8) : Decidable (Unknown mask) :=
  inferInstanceAs (Decidable (_ = _))

theorem forall_byte {p : UInt8 → Prop} (h : ∀ n < 256, p (UInt8.ofNat n)) (byte : UInt8) :
    p byte := by
  rw [← UInt8.ofNat_toNat (x := byte)]
  exact h _ byte.toNat_lt

theorem decodeHeartbeat_bits (wifi cellular : Bool) (mask : UInt8) (h : Unknown mask) :
    decodeHeartbeat (HEARTBEAT_EXPLICIT ||| mask ||| bit wifi ||| (bit cellular <<< 1))
      = { wifi, cellular, unknownMask := mask } := by
  revert mask
  -- the masks are 256 cases for each pair of connections
  cases wifi <;> cases cellular <;> exact forall_byte (by decide +kernel)

theorem unknown_decodeHeartbeat : ∀ mask, Unknown (decodeHeartbeat mask).unknownMask :=
  forall_byte (by decide +kernel)

/-! ## The order of uploads -/

theorem decodePriority_ok (bytes : List UInt8) (offsets : List Nat)
    (h : ∀ offset ∈ offsets, offset < bytes.length) :
    decodePriority bytes offsets = .ok
      (((offsets.map fun offset => (bytes.drop offset).headD 0).takeWhile (· ≠ 0)).map
        ConnectionType.fromWire) := by
  induction offsets with
  | nil => rfl
  | cons offset offsets ih =>
    obtain ⟨hhere, hrest⟩ := List.forall_mem_cons.mp h
    unfold decodePriority
    rw [Cursor.u8_ok hhere, ih hrest]
    by_cases hzero : (bytes.drop offset).headD 0 = 0
    · rw [List.map_cons, List.takeWhile_cons_of_neg (by simpa using hzero)]
      exact if_pos hzero
    · rw [List.map_cons, List.takeWhile_cons_of_pos (by simpa using hzero), List.map_cons]
      exact if_neg hzero

/-- An identifier that the packet can carry and that reads back as itself. -/
def Known (connection : ConnectionType) : Prop :=
  connection.toWire ≠ 0 ∧ ConnectionType.fromWire connection.toWire = connection

theorem known_of_mem_takeWhile {ids : List UInt8} {connection : ConnectionType}
    (h : connection ∈ (ids.takeWhile (· ≠ 0)).map ConnectionType.fromWire) : Known connection := by
  obtain ⟨id, hid, rfl⟩ := List.mem_map.mp h
  have hne : id ≠ 0 := by simpa using List.mem_takeWhile_imp hid
  rw [Known, ConnectionType.toWire_fromWire]
  exact ⟨hne, rfl⟩

/-- At most three known identifiers fill the three bytes so that they read back. -/
theorem putPriority_three {connections : List ConnectionType} (hlen : connections.length ≤ 3)
    (hknown : ∀ connection ∈ connections, Known connection) (version enabled : UInt8)
    (rest : List UInt8) : ∃ first second third,
      putPriority 2 (connections.take 3) (version :: enabled :: 0 :: 0 :: 0 :: rest)
        = version :: enabled :: first :: second :: third :: rest ∧
      ([first, second, third].takeWhile (· ≠ 0)).map ConnectionType.fromWire = connections := by
  match connections with
  | [] => exact ⟨0, 0, 0, rfl, rfl⟩
  | [a] =>
    have ha := hknown a (by simp)
    refine ⟨a.toWire, 0, 0, rfl, ?_⟩
    simp [ha.1, ha.2]
  | [a, b] =>
    have ha := hknown a (by simp)
    have hb := hknown b (by simp)
    refine ⟨a.toWire, b.toWire, 0, rfl, ?_⟩
    simp [ha.1, ha.2, hb.1, hb.2]
  | [a, b, c] =>
    have ha := hknown a (by simp)
    have hb := hknown b (by simp)
    have hc := hknown c (by simp)
    refine ⟨a.toWire, b.toWire, c.toWire, rfl, ?_⟩
    simp [ha.1, ha.2, hb.1, hb.2, hc.1, hc.2]
  | _ :: _ :: _ :: _ :: _ => exact absurd hlen (by simp)

/-! ## Reading back what was written -/

/-- Settings that a packet can say. -/
structure Representable (settings : DeviceConnectionSettings) : Prop where
  priority : settings.uploadPriority.length ≤ 3
  known : ∀ connection ∈ settings.uploadPriority, Known connection
  mask : Unknown settings.heartbeat.unknownMask
  cellular : ∃ byte, settings.power.cellular = decodeTimeout byte
  wifi : ∃ byte, settings.power.wifi = decodeTimeout byte

theorem representable_default : Representable defaultSettings where
  priority := by decide
  known := by
    have hall : ∀ connection ∈ defaultSettings.uploadPriority, connection.toWire ≠ 0 ∧
        ConnectionType.fromWire connection.toWire = connection := by decide
    exact hall
  mask := by decide
  cellular := ⟨18, by decide⟩
  wifi := ⟨18, by decide⟩

theorem Representable.normalizedFor {settings : DeviceConnectionSettings}
    (h : Representable settings) (model : DeviceModel) :
    Representable (settings.normalizedFor model) where
  priority := le_trans (settings.normalizedFor_uploadPriority_sublist model).length_le h.priority
  known := fun connection hmem =>
    h.known connection ((settings.normalizedFor_uploadPriority_sublist model).subset hmem)
  mask := by
    rw [DeviceConnectionSettings.normalizedFor_unknownMask]
    exact h.mask
  cellular := by
    rw [DeviceConnectionSettings.normalizedFor_power]
    exact h.cellular
  wifi := by
    rw [DeviceConnectionSettings.normalizedFor_power]
    exact h.wifi

theorem sinceVersion2_ok (bytes : List UInt8) (version : UInt8) (offset : Nat) (default : UInt8) :
    ∃ byte, sinceVersion2 bytes version offset default = .ok byte := by
  unfold sinceVersion2
  split
  · rename_i h
    exact ⟨_, Cursor.u8_ok h.2⟩
  · exact ⟨default, rfl⟩

theorem readVersion_ok (bytes : List UInt8) : ∃ version, readVersion bytes = .ok version := by
  unfold readVersion
  split
  · rename_i h
    exact ⟨_, Cursor.u8_ok h⟩
  · exact ⟨0, rfl⟩

/-- Every packet of a supported version is read, and says representable settings. -/
theorem decodeSettings_ok {bytes : List UInt8} (h : DEVICE_SETTINGS_MINIMUM_LENGTH ≤ bytes.length)
    (version : UInt8) :
    ∃ settings, decodeSettings bytes version = .ok settings ∧ Representable settings := by
  have hlen : 8 ≤ bytes.length := h
  have hread : ∀ offset < bytes.length, ∃ byte, Cursor.u8 bytes offset = .ok byte :=
    fun offset hlt => ⟨_, Cursor.u8_ok hlt⟩
  obtain ⟨enabled, henabled⟩ := hread 1 (by omega)
  obtain ⟨cellular, hcellular⟩ := hread 5 (by omega)
  obtain ⟨wifi, hwifi⟩ := hread 6 (by omega)
  obtain ⟨streaming, hstreaming⟩ := hread 7 (by omega)
  have hpriority := decodePriority_ok bytes [2, 3, 4] (by
    intro offset hmem
    have hle : ∀ offset ∈ [2, 3, 4], offset ≤ 4 := by decide
    have := hle offset hmem
    omega)
  obtain ⟨mask, hmask⟩ := sinceVersion2_ok bytes version 9 0
  obtain ⟨flush, hflush⟩ := sinceVersion2_ok bytes version 8 60
  unfold decodeSettings
  rw [henabled, hpriority, hmask, hcellular, hwifi, hstreaming, hflush]
  refine ⟨_, rfl, ?_, ?_, unknown_decodeHeartbeat mask, ⟨cellular, rfl⟩, ⟨wifi, rfl⟩⟩
  · rw [List.length_map]
    exact (List.takeWhile_prefix _).length_le
  · intro connection hmem
    exact known_of_mem_takeWhile hmem

theorem parse_ok (bytes : List UInt8) : ∃ parsed, parseConnectionSettings bytes = .ok parsed ∧
    Representable parsed.settings := by
  obtain ⟨version, hversion⟩ := readVersion_ok bytes
  unfold parseConnectionSettings
  rw [hversion]
  by_cases hold : bytes.length < DEVICE_SETTINGS_MINIMUM_LENGTH ∨ ¬(version = 1 ∨ version = 2)
  · exact ⟨_, if_pos hold, representable_default⟩
  · obtain ⟨settings, hsettings, hrep⟩ := decodeSettings_ok (Nat.not_lt.mp (not_or.mp hold).1) version
    refine ⟨{ settings, supportedVersion := true }, (if_neg hold).trans ?_, hrep⟩
    rw [hsettings]
    rfl

/-- A version-2 packet of the fixed length, field by field. -/
theorem parse_packet (enabled first second third cellular wifi streaming flush mask : UInt8) :
    parseConnectionSettings
        [2, enabled, first, second, third, cellular, wifi, streaming, flush, mask, 0, 0]
      = .ok {
          settings := {
            enabled := decodeEnabled enabled
            heartbeat := decodeHeartbeat mask
            uploadPriority :=
              ([first, second, third].takeWhile (· ≠ 0)).map ConnectionType.fromWire
            power := { cellular := decodeTimeout cellular, wifi := decodeTimeout wifi }
            streamingEnabled := streaming ≠ 0
            streamingFlushIntervalSeconds := flush }
          supportedVersion := true } := by
  have hpriority := decodePriority_ok
    [2, enabled, first, second, third, cellular, wifi, streaming, flush, mask, 0, 0] [2, 3, 4] (by
      show ∀ offset ∈ [2, 3, 4], offset < 12
      decide)
  show (decodeSettings _ 2).bind _ = _
  have hsettings : decodeSettings
      [2, enabled, first, second, third, cellular, wifi, streaming, flush, mask, 0, 0] 2
      = (decodePriority [2, enabled, first, second, third, cellular, wifi, streaming, flush, mask,
          0, 0] [2, 3, 4]).bind fun uploadPriority => .ok {
        enabled := decodeEnabled enabled
        heartbeat := decodeHeartbeat mask
        uploadPriority
        power := { cellular := decodeTimeout cellular, wifi := decodeTimeout wifi }
        streamingEnabled := streaming ≠ 0
        streamingFlushIntervalSeconds := flush } := rfl
  rw [hsettings, hpriority]
  rfl

/-- The settings as the encoder can say them: the flush interval is at most 128 seconds. -/
def capped (settings : DeviceConnectionSettings) : DeviceConnectionSettings :=
  { settings with
    streamingFlushIntervalSeconds := min settings.streamingFlushIntervalSeconds 128 }

/-- What a device is told reads back as the settings meant for it, the flush interval capped. -/
theorem parse_encode {settings : DeviceConnectionSettings} (h : Representable settings)
    (model : DeviceModel) : ∃ bytes, encodeConnectionSettings settings model = .ok bytes ∧
      parseConnectionSettings bytes
        = .ok { settings := capped (settings.normalizedFor model), supportedVersion := true } := by
  have hnormal := h.normalizedFor model
  obtain ⟨cellular, hcellular⟩ := hnormal.cellular
  obtain ⟨wifi, hwifi⟩ := hnormal.wifi
  generalize hs : settings.normalizedFor model = normalized at hnormal hcellular hwifi
  have henabled := decodeEnabled_bits normalized.enabled.wifi normalized.enabled.cellular
  have hmask := decodeHeartbeat_bits normalized.heartbeat.wifi normalized.heartbeat.cellular
    normalized.heartbeat.unknownMask hnormal.mask
  obtain ⟨first, second, third, hput, hread⟩ := putPriority_three hnormal.priority hnormal.known 2
    (bit normalized.enabled.wifi ||| (bit normalized.enabled.cellular <<< 1))
    [0, 0, 0, 0, 0, 0, 0]
  unfold encodeConnectionSettings
  dsimp only
  rw [hs, hcellular, hwifi, encodeTimeout_decodeTimeout, encodeTimeout_decodeTimeout]
  refine ⟨_, rfl, ?_⟩
  show parseConnectionSettings (((((putPriority 2 (normalized.uploadPriority.take 3)
    (2 :: _ :: 0 :: 0 :: 0 :: [0, 0, 0, 0, 0, 0, 0])).set 5 _).set 6 _).set 7 _).set 8 _ |>.set 9 _)
      = _
  rw [hput]
  refine (parse_packet _ first second third cellular wifi _ _ _).trans ?_
  rw [henabled, hmask, hread, ← hcellular, ← hwifi]
  have hstreaming : (decide (bit normalized.streamingEnabled ≠ 0)) = normalized.streamingEnabled := by
    cases normalized.streamingEnabled <;> rfl
  rw [hstreaming]
  rfl

theorem capped_normalizedFor (settings : DeviceConnectionSettings) (model : DeviceModel) :
    (capped settings).normalizedFor model = capped (settings.normalizedFor model) := by
  unfold DeviceConnectionSettings.normalizedFor capped
  by_cases hnote : model = .note
  · simp only [if_pos hnote]
  · simp only [if_neg hnote]

/-- The packet depends on the normalised and capped settings alone. -/
theorem encode_capped (settings : DeviceConnectionSettings) (model : DeviceModel) :
    encodeConnectionSettings (capped (settings.normalizedFor model)) model
      = encodeConnectionSettings settings model := by
  have hmin : ∀ seconds : UInt8, min (min seconds 128) 128 = min seconds 128 :=
    forall_byte (by decide +kernel)
  unfold encodeConnectionSettings
  rw [capped_normalizedFor, DeviceConnectionSettings.normalizedFor_normalizedFor]
  simp only [capped, hmin]

end ConnectionSettings

open ConnectionSettings

/-- Reading settings, writing them and reading them again gives the settings read first,
normalised for the model and with the flush interval capped at 128 seconds; writing those gives
the same packet. -/
theorem settings_read_modify_write (bytes : List UInt8) (model : DeviceModel) :
    ∃ parsed packet, parseConnectionSettings bytes = .ok parsed ∧
      encodeConnectionSettings parsed.settings model = .ok packet ∧
      parseConnectionSettings packet
        = .ok { settings := capped (parsed.settings.normalizedFor model), supportedVersion := true } ∧
      encodeConnectionSettings (capped (parsed.settings.normalizedFor model)) model = .ok packet := by
  obtain ⟨parsed, hparsed, hrep⟩ := parse_ok bytes
  obtain ⟨packet, hencode, hread⟩ := parse_encode hrep model
  exact ⟨parsed, packet, hparsed, hencode, hread, (encode_capped _ _).trans hencode⟩

/-- A flush interval of 200 seconds comes back as 128. -/
theorem settings_read_modify_write_counterexample :
    ¬∀ bytes model parsed packet reparsed, parseConnectionSettings bytes = .ok parsed →
      parsed.supportedVersion = true →
      encodeConnectionSettings parsed.settings model = .ok packet →
      parseConnectionSettings packet = .ok reparsed →
      reparsed.settings = parsed.settings.normalizedFor model := by
  intro h
  have hparse := parse_packet 3 1 0 0 18 18 1 200 0x83
  obtain ⟨packet, hencode, hread⟩ := parse_encode (by
      obtain ⟨parsed, hparsed, hrep⟩ := parse_ok [2, 3, 1, 0, 0, 18, 18, 1, 200, 0x83, 0, 0]
      rw [hparse] at hparsed
      exact Except.ok.inj hparsed ▸ hrep) .pin
  have hflush := congrArg DeviceConnectionSettings.streamingFlushIntervalSeconds
    (h _ .pin _ packet _ hparse rfl hencode hread)
  exact absurd hflush (by decide)

end BotaSdk
