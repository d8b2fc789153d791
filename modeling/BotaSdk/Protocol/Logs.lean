import BotaSdk.Lib.Lines
import BotaSdk.Model
import BotaSdk.Protocol.Cursor

/-!
# Device logs (`protocol/logs.rs`)

A log packet is a sequence number, a byte of flags and a piece of the log.  Lines span packets; after a
gap the line that was being read is dropped.
-/

namespace BotaSdk

namespace Protocol

def DEVICE_LOG_FLAG_BACKLOG : UInt8 := 0x01
def DEVICE_LOG_FLAG_DROPPED : UInt8 := 0x02
def DEVICE_LOG_PACKET_MINIMUM_LENGTH : Nat := 3

end Protocol

open Protocol

/-! ## Text -/

namespace Utf8

def REPLACEMENT_CHARACTER : Char := '\uFFFD'

def continuation (byte : UInt8) : Bool := 0x80 ≤ byte && byte ≤ 0xBF

/-- The second byte of a sequence of three or more bytes. -/
def second (lead byte : UInt8) : Bool :=
  if lead = 0xE0 then 0xA0 ≤ byte && byte ≤ 0xBF
  else if lead = 0xED then 0x80 ≤ byte && byte ≤ 0x9F
  else if lead = 0xF0 then 0x90 ≤ byte && byte ≤ 0xBF
  else if lead = 0xF4 then 0x80 ≤ byte && byte ≤ 0x8F
  else continuation byte

def scalar (lead : Nat) (rest : List UInt8) : Char :=
  .ofNat (rest.foldl (fun value byte => value * 64 + byte.toNat % 64) lead)

/-- `String::from_utf8_lossy`: every maximal part of a sequence that is not well formed becomes one
replacement character. -/
def lossyChars : List UInt8 → List Char
  | [] => []
  | b0 :: bytes =>
    if b0 < 0x80 then .ofNat b0.toNat :: lossyChars bytes
    else if 0xC2 ≤ b0 ∧ b0 ≤ 0xDF then
      match bytes with
      | b1 :: rest =>
        if continuation b1 then scalar (b0.toNat % 32) [b1] :: lossyChars rest
        else REPLACEMENT_CHARACTER :: lossyChars (b1 :: rest)
      | [] => [REPLACEMENT_CHARACTER]
    else if 0xE0 ≤ b0 ∧ b0 ≤ 0xEF then
      match bytes with
      | b1 :: b2 :: rest =>
        if second b0 b1 then
          if continuation b2 then scalar (b0.toNat % 16) [b1, b2] :: lossyChars rest
          else REPLACEMENT_CHARACTER :: lossyChars (b2 :: rest)
        else REPLACEMENT_CHARACTER :: lossyChars (b1 :: b2 :: rest)
      | [b1] =>
        if second b0 b1 then [REPLACEMENT_CHARACTER]
        else REPLACEMENT_CHARACTER :: lossyChars [b1]
      | [] => [REPLACEMENT_CHARACTER]
    else if 0xF0 ≤ b0 ∧ b0 ≤ 0xF4 then
      match bytes with
      | b1 :: b2 :: b3 :: rest =>
        if second b0 b1 then
          if continuation b2 then
            if continuation b3 then scalar (b0.toNat % 8) [b1, b2, b3] :: lossyChars rest
            else REPLACEMENT_CHARACTER :: lossyChars (b3 :: rest)
          else REPLACEMENT_CHARACTER :: lossyChars (b2 :: b3 :: rest)
        else REPLACEMENT_CHARACTER :: lossyChars (b1 :: b2 :: b3 :: rest)
      | [b1, b2] =>
        if second b0 b1 then
          if continuation b2 then [REPLACEMENT_CHARACTER]
          else REPLACEMENT_CHARACTER :: lossyChars [b2]
        else REPLACEMENT_CHARACTER :: lossyChars [b1, b2]
      | [b1] =>
        if second b0 b1 then [REPLACEMENT_CHARACTER]
        else REPLACEMENT_CHARACTER :: lossyChars [b1]
      | [] => [REPLACEMENT_CHARACTER]
    else REPLACEMENT_CHARACTER :: lossyChars bytes

example : lossyChars [0x61, 0xE2, 0x82, 0xAC, 0xE2, 0x82, 0xFF, 0x62] =
    ['a', '€', '\uFFFD', '\uFFFD', 'b'] := by decide

end Utf8

/-! ## The decoder -/

structure DeviceLogDecoder where
  lineBuffer : List UInt8
  expectedSequence : Option UInt16
  deriving DecidableEq

/-- A line without its newline and the carriage return before it. -/
def messageOf (line : List UInt8) : String :=
  .ofList (Utf8.lossyChars (if line.getLast? = some 0x0D then line.dropLast else line))

namespace DeviceLogDecoder

def initial : DeviceLogDecoder where
  lineBuffer := []
  expectedSequence := none

def push (self : DeviceLogDecoder) (packet : List UInt8) :
    DeviceLogDecoder × List DeviceLogEvent :=
  if packet.length < DEVICE_LOG_PACKET_MINIMUM_LENGTH then (self, [])
  else
    match Cursor.u16Le packet 0, Cursor.u8 packet 2 with
    | .ok sequence, .ok flags =>
      let sequence := UInt16.ofNat sequence
      let hasSequenceGap := self.expectedSequence.any (sequence ≠ ·)
      let lineBuffer :=
        if hasSequenceGap ∨ flags &&& DEVICE_LOG_FLAG_DROPPED ≠ 0 then [] else self.lineBuffer
      let lineBuffer :=
        match Cursor.tail packet DEVICE_LOG_PACKET_MINIMUM_LENGTH with
        | .ok payload => lineBuffer ++ payload
        | .error _ => lineBuffer
      let isBacklog : Bool := flags &&& DEVICE_LOG_FLAG_BACKLOG ≠ 0
      let drained := Lines.scan 0x0A [] lineBuffer
      ({ lineBuffer := drained.2, expectedSequence := some (sequence + 1) },
        drained.1.map fun line => { message := messageOf line, isBacklog })
    | _, _ => (self, [])

def reset (_ : DeviceLogDecoder) : DeviceLogDecoder where
  lineBuffer := []
  expectedSequence := none

/-- The messages of packets pushed one after the other. -/
def messages : DeviceLogDecoder → List (List UInt8) → List String
  | _, [] => []
  | self, packet :: packets =>
    ((self.push packet).2.map DeviceLogEvent.message) ++ messages (self.push packet).1 packets

/-! ## Packets of a device -/

/-- A packet without its number. -/
structure LogPacket where
  flags : UInt8
  payload : List UInt8
  deriving DecidableEq

/-- The device lost a part of the log in front of the packet. -/
def LogPacket.dropped (packet : LogPacket) : Bool :=
  packet.flags &&& DEVICE_LOG_FLAG_DROPPED ≠ 0

/-- The packet at a position of a log whose first packet has the number `start`. -/
def LogPacket.frame (start : UInt16) (packet : Nat × LogPacket) : List UInt8 :=
  Bytes.leBytes 2 (start + UInt16.ofNat packet.1).toNat ++ [packet.2.flags] ++ packet.2.payload

/-- The log goes on from one packet to the next. -/
def continues (earlier later : Nat × LogPacket) : Bool :=
  later.1 = earlier.1 + 1 ∧ ¬later.2.dropped

/-- The messages of a piece of the log. -/
def messagesOf (log : List UInt8) : List String :=
  ((log.splitOn 0x0A).dropLast).map messageOf

section Decoder

variable {start : UInt16} {decoder : DeviceLogDecoder} {packet : Nat × LogPacket}

def LogPacket.sequence (start : UInt16) (position : Nat) : UInt16 :=
  start + UInt16.ofNat position

/-- The buffer that a packet is appended to. -/
def keptBuffer (start : UInt16) (decoder : DeviceLogDecoder) (packet : Nat × LogPacket) :
    List UInt8 :=
  if decoder.expectedSequence.any (LogPacket.sequence start packet.1 ≠ ·) ∨ packet.2.dropped then []
  else decoder.lineBuffer

theorem push_frame (start : UInt16) (decoder : DeviceLogDecoder) (packet : Nat × LogPacket) :
    decoder.push (LogPacket.frame start packet) =
      ({ lineBuffer := (Lines.scan 0x0A [] (keptBuffer start decoder packet ++ packet.2.payload)).2
         expectedSequence := some (LogPacket.sequence start packet.1 + 1) },
        (Lines.scan 0x0A [] (keptBuffer start decoder packet ++ packet.2.payload)).1.map fun line =>
          { message := messageOf line
            isBacklog := decide (packet.2.flags &&& DEVICE_LOG_FLAG_BACKLOG ≠ 0) }) := by
  have hlength : (LogPacket.frame start packet).length = 3 + packet.2.payload.length := by
    unfold LogPacket.frame
    rw [List.length_append, List.length_append, Bytes.length_leBytes, List.length_singleton]
  have hsequence : Cursor.u16Le (LogPacket.frame start packet) 0 =
      .ok (LogPacket.sequence start packet.1).toNat := by
    have hnumber : (LogPacket.sequence start packet.1).toNat < 256 ^ 2 := UInt16.toNat_lt _
    rw [Cursor.u16Le, Cursor.slice_ok (by omega)]
    show Except.ok (Bytes.leNat (Bytes.leBytes 2 (LogPacket.sequence start packet.1).toNat)) = _
    rw [Bytes.leNat_leBytes_of_lt hnumber]
  have hflags : Cursor.u8 (LogPacket.frame start packet) 2 = .ok packet.2.flags := by
    rw [Cursor.u8, Cursor.slice_ok (by omega)]
    rfl
  have htail : Cursor.tail (LogPacket.frame start packet) DEVICE_LOG_PACKET_MINIMUM_LENGTH =
      .ok packet.2.payload := by
    rw [Cursor.tail_ok (by rw [hlength]; exact Nat.le_add_right 3 _)]
    rfl
  unfold DeviceLogDecoder.push
  rw [if_neg (by rw [hlength, DEVICE_LOG_PACKET_MINIMUM_LENGTH]; omega), hsequence, hflags, htail]
  dsimp only
  rw [UInt16.ofNat_toNat]
  have hkept : (if decoder.expectedSequence.any (LogPacket.sequence start packet.1 ≠ ·) ∨
      packet.2.flags &&& DEVICE_LOG_FLAG_DROPPED ≠ 0 then [] else decoder.lineBuffer) =
        keptBuffer start decoder packet := by
    unfold keptBuffer LogPacket.dropped
    simp only [decide_eq_true_eq]
  rw [hkept]

theorem sequence_succ (start : UInt16) (position : Nat) :
    LogPacket.sequence start (position + 1) = LogPacket.sequence start position + 1 := by
  unfold LogPacket.sequence
  rw [UInt16.add_assoc, UInt16.ofNat_add]
  rfl

/-- Fewer than 65536 lost packets show in the numbers. -/
theorem sequence_ne {earlier later : Nat} (hlater : earlier + 1 < later)
    (hlost : later ≤ earlier + 65536) :
    LogPacket.sequence start later ≠ LogPacket.sequence start earlier + 1 := by
  intro hsame
  rw [← sequence_succ] at hsame
  have hnumbers := congrArg UInt16.toNat hsame
  unfold LogPacket.sequence at hnumbers
  rw [UInt16.toNat_add, UInt16.toNat_add, UInt16.toNat_ofNat', UInt16.toNat_ofNat'] at hnumbers
  omega

/-- The packets are in order, and fewer than 65536 are lost between them. -/
def Follows (earlier later : Nat × LogPacket) : Prop :=
  earlier.1 < later.1 ∧ later.1 ≤ earlier.1 + 65536

instance (earlier later : Nat × LogPacket) : Decidable (Follows earlier later) :=
  inferInstanceAs (Decidable (_ ∧ _))

/-- The decoder after a packet. -/
def after (start : UInt16) (packet : Nat × LogPacket) (rest : List UInt8) : DeviceLogDecoder where
  lineBuffer := rest
  expectedSequence := some (LogPacket.sequence start packet.1 + 1)

theorem keptBuffer_after {rest : List UInt8} {earlier later : Nat × LogPacket}
    (h : Follows earlier later) :
    keptBuffer start (after start earlier rest) later = if continues earlier later then rest else [] := by
  unfold keptBuffer after continues
  rw [Option.any_some]
  by_cases hnext : later.1 = earlier.1 + 1
  · rw [hnext, sequence_succ]
    cases later.2.dropped <;> simp
  · have hgap : LogPacket.sequence start later.1 ≠ LogPacket.sequence start earlier.1 + 1 :=
      sequence_ne (by have := h.1; omega) h.2
    rw [if_pos (.inl (decide_eq_true hgap)), if_neg]
    rw [decide_eq_true_eq]
    exact fun hcontinues => hnext hcontinues.1

/-- The log that packets carry. -/
def logOf (packets : List (Nat × LogPacket)) : List UInt8 :=
  packets.flatMap fun packet => packet.2.payload

theorem messages_cons (decoder : DeviceLogDecoder) (packet : Nat × LogPacket)
    (packets : List (List UInt8)) :
    decoder.messages (LogPacket.frame start packet :: packets) =
      (Lines.scan 0x0A [] (keptBuffer start decoder packet ++ packet.2.payload)).1.map messageOf ++
        (after start packet (Lines.scan 0x0A []
          (keptBuffer start decoder packet ++ packet.2.payload)).2).messages packets := by
  rw [DeviceLogDecoder.messages, push_frame, List.map_map]
  rfl

/-- Packets that go on from an earlier one. -/
theorem messages_joined {rest : List UInt8} (hrest : 0x0A ∉ rest) {earlier : Nat × LogPacket}
    {packets : List (Nat × LogPacket)}
    (h : List.IsChain (fun a b => continues a b = true) (earlier :: packets))
    (more : List (List UInt8)) :
    (after start earlier rest).messages (packets.map (LogPacket.frame start) ++ more) =
      (Lines.scan 0x0A rest (logOf packets)).1.map messageOf ++
        (after start ((earlier :: packets).getLast (List.cons_ne_nil _ _))
          (Lines.scan 0x0A rest (logOf packets)).2).messages more := by
  induction packets generalizing earlier rest with
  | nil => rfl
  | cons packet packets ih =>
    obtain ⟨hnext, hchain⟩ := List.isChain_cons_cons.mp h
    have hposition : packet.1 = earlier.1 + 1 := (of_decide_eq_true hnext).1
    have hfollows : Follows earlier packet := ⟨by omega, by omega⟩
    rw [List.map_cons, List.cons_append, messages_cons, keptBuffer_after hfollows, if_pos hnext,
      Lines.scan_rest hrest, ih (Lines.not_mem_rest hrest _) hchain]
    have hlog : logOf (packet :: packets) = packet.2.payload ++ logOf packets := List.flatMap_cons
    rw [hlog, Lines.scan_append, List.map_append, List.append_assoc,
      List.getLast_cons (List.cons_ne_nil packet packets)]

theorem messagesOf_eq (log : List UInt8) :
    messagesOf log = (Lines.scan 0x0A [] log).1.map messageOf := by
  rw [messagesOf, ← Lines.lines_eq_splitOn, Lines.lines]

/-- Packets that go on from one another, after a gap. -/
theorem messages_stretch {first : Nat × LogPacket} {packets : List (Nat × LogPacket)}
    (hopen : keptBuffer start decoder first = [])
    (h : List.IsChain (fun a b => continues a b = true) (first :: packets))
    (more : List (List UInt8)) :
    ∃ rest, decoder.messages ((first :: packets).map (LogPacket.frame start) ++ more) =
      messagesOf (logOf (first :: packets)) ++
        (after start ((first :: packets).getLast (List.cons_ne_nil _ _)) rest).messages more := by
  have hrest : (0x0A : UInt8) ∉ (Lines.scan 0x0A [] first.2.payload).2 :=
    Lines.not_mem_rest List.not_mem_nil _
  refine ⟨(Lines.scan 0x0A (Lines.scan 0x0A [] first.2.payload).2 (logOf packets)).2, ?_⟩
  have hlog : logOf (first :: packets) = first.2.payload ++ logOf packets := List.flatMap_cons
  rw [List.map_cons, List.cons_append, messages_cons, hopen, List.nil_append,
    messages_joined hrest h, messagesOf_eq, hlog, Lines.scan_append, List.map_append,
    List.append_assoc]

/-- The decoder reads every stretch between two gaps by itself. -/
theorem messages_stretches {stretches : List (List (Nat × LogPacket))} (hne : [] ∉ stretches)
    (hjoined : ∀ stretch ∈ stretches, stretch.IsChain fun a b => continues a b = true)
    (hbroken : stretches.IsChain fun a b => ∃ ha hb, continues (a.getLast ha) (b.head hb) = false)
    (hfollows : stretches.flatten.IsChain Follows)
    (hopen : ∀ first ∈ stretches.flatten.head?, keptBuffer start decoder first = []) :
    decoder.messages (stretches.flatten.map (LogPacket.frame start)) =
      stretches.flatMap fun stretch => messagesOf (logOf stretch) := by
  induction stretches generalizing decoder with
  | nil => rfl
  | cons stretch stretches ih =>
    obtain ⟨hstretch, hrest⟩ := List.ne_and_not_mem_of_not_mem_cons hne
    cases stretch with
    | nil => exact absurd rfl hstretch
    | cons first packets =>
      rw [List.flatten_cons] at hfollows hopen
      have hfirst : keptBuffer start decoder first = [] := hopen first rfl
      obtain ⟨rest, hmessages⟩ := messages_stretch hfirst
        (hjoined _ List.mem_cons_self) (stretches.flatten.map (LogPacket.frame start))
      rw [List.flatten_cons, List.map_append, hmessages, List.flatMap_cons]
      refine congrArg _ (ih hrest (fun stretch hmem => hjoined stretch (List.mem_cons_of_mem _ hmem))
        hbroken.tail (List.isChain_append.mp hfollows).2.1 fun next hnext => ?_)
      have hgap : Follows ((first :: packets).getLast (List.cons_ne_nil _ _)) next :=
        (List.isChain_append.mp hfollows).2.2 _ (List.getLast?_eq_some_getLast _) next hnext
      have hstop : continues ((first :: packets).getLast (List.cons_ne_nil _ _)) next = false := by
        cases stretches with
        | nil => exact nomatch hnext
        | cons other stretches =>
          obtain ⟨⟨_, hother, hbreak⟩, -⟩ := List.isChain_cons_cons.mp hbroken
          rw [List.flatten_cons, List.head?_append_of_ne_nil _ hother,
            List.head?_eq_some_head hother] at hnext
          obtain rfl := Option.some.inj hnext
          exact hbreak
      rw [keptBuffer_after hgap, if_neg (by rw [hstop]; decide)]

end Decoder

theorem messages_received (start : UInt16) {received : List (Nat × LogPacket)}
    (h : received.IsChain Follows) :
    DeviceLogDecoder.initial.messages (received.map (LogPacket.frame start)) =
      (received.splitBy continues).flatMap fun stretch => messagesOf (logOf stretch) := by
  have hflatten : (received.splitBy continues).flatten = received := List.flatten_splitBy _ _
  have hmessages := @messages_stretches start .initial _
    (List.nil_notMem_splitBy continues received) (fun _ => List.isChain_of_mem_splitBy)
    (List.isChain_getLast_head_splitBy continues received) (by rwa [hflatten])
    (fun first _ => ite_self _)
  rwa [hflatten] at hmessages

/-- Packets that are numbered in turn, from a position on. -/
def numbered : Nat → List LogPacket → List (Nat × LogPacket)
  | _, [] => []
  | position, packet :: packets => (position, packet) :: numbered (position + 1) packets

theorem logOf_numbered (position : Nat) (packets : List LogPacket) :
    logOf (numbered position packets) = packets.flatMap LogPacket.payload := by
  induction packets generalizing position with
  | nil => rfl
  | cons packet packets ih =>
    have hlog : logOf ((position, packet) :: numbered (position + 1) packets) =
        packet.payload ++ logOf (numbered (position + 1) packets) := List.flatMap_cons
    rw [numbered, hlog, ih, List.flatMap_cons]

theorem continues_numbered {packets : List LogPacket}
    (hkept : ∀ packet ∈ packets, packet.dropped = false) (position : Nat) :
    (numbered position packets).IsChain fun a b => continues a b = true := by
  induction packets generalizing position with
  | nil => exact List.isChain_nil
  | cons packet packets ih =>
    have hrest := ih (fun later hmem => hkept later (List.mem_cons_of_mem _ hmem)) (position + 1)
    cases packets with
    | nil => exact List.isChain_singleton _
    | cons next packets =>
      refine List.isChain_cons_cons.mpr ⟨decide_eq_true ⟨rfl, ?_⟩, hrest⟩
      rw [hkept next (List.mem_cons_of_mem _ List.mem_cons_self)]
      exact Bool.false_ne_true

/-- Every cut of a log into packets that are numbered in turn gives the lines of the log.  Where packets
were lost, fewer than 65536 in a row, or the device dropped a part, every stretch between two gaps gives
its own lines. -/
theorem decoder_lines (start : UInt16) :
    (∀ log packets, packets.flatMap LogPacket.payload = log →
      (∀ packet ∈ packets, packet.dropped = false) →
      DeviceLogDecoder.initial.messages ((numbered 0 packets).map (LogPacket.frame start)) =
        messagesOf log) ∧
    ∀ received : List (Nat × LogPacket), received.IsChain Follows →
      DeviceLogDecoder.initial.messages (received.map (LogPacket.frame start)) =
        (received.splitBy continues).flatMap fun stretch => messagesOf (logOf stretch) := by
  refine ⟨fun log packets hlog hkept => ?_, fun received => messages_received start⟩
  have hchain := continues_numbered hkept 0
  have hfollows : (numbered 0 packets).IsChain Follows := by
    refine hchain.imp fun earlier later hnext => ?_
    have hposition : later.1 = earlier.1 + 1 := (of_decide_eq_true hnext).1
    exact ⟨by omega, by omega⟩
  rw [messages_received start hfollows]
  by_cases hempty : numbered 0 packets = []
  · have hnone : log = [] := by
      rw [← hlog, ← logOf_numbered 0, hempty]
      rfl
    rw [hempty, hnone]
    rfl
  · rw [List.splitBy_of_isChain hempty hchain, List.flatMap_singleton, logOf_numbered, hlog]

/-- Two numbers lie beyond the last one; the third packet is lost. -/
def sampleLog : List (Nat × LogPacket) :=
  [(0, { flags := 0, payload := [0x61, 0x0D] }), (1, { flags := 1, payload := [0x0A, 0x62] }),
    (3, { flags := 0, payload := [0x63, 0x0A, 0x64, 0x0A] })]

/-- The line that was being read is dropped, and nothing else. -/
theorem decoder_lines_sample :
    DeviceLogDecoder.initial.messages (sampleLog.map (LogPacket.frame 65535)) = ["a", "c", "d"] := by
  rw [(decoder_lines 65535).2 sampleLog (by decide)]
  decide +kernel

end DeviceLogDecoder

end BotaSdk
