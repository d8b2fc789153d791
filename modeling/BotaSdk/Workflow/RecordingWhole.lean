import BotaSdk.Workflow.RecordingInOrder

/-!
# Which recordings a batch transfer acknowledges

The EOF carries the number of packets sent, and the workflow never compares it with what it appended.
A plaintext recording is still held against its checksum; of an encrypted one the tail may be
missing.
-/

namespace BotaSdk

open Protocol RecordingTransfer Delivery Numbered

namespace RecordingTransferWorkflow

/-- The values a device may send of a stream, any number of times and in any order; packets of
neither kind of stream, and garbage, are not restricted. -/
def RecordingStream.Sends (stream : RecordingStream) (checksum : List UInt8 → Nat)
    (value : List UInt8) : Prop :=
  match parseTransferPacket value with
  | .ok (.data sequence data) => stream.header = none ∧ Sent 65536 stream.payloads sequence data
  | .ok (.encryptedData sequence chunk) =>
    stream.header.isSome ∧ Sent 65536 stream.payloads sequence chunk
  | .ok (.e2eStart ephemeralPublicKey salt) => stream.header = some (ephemeralPublicKey, salt)
  | .ok (.eof sequence crc) =>
    stream.header = none ∧ sequence = stream.payloads.length ∧ crc = checksum stream.frames.flatten
  | .ok (.encryptedEof sequence) => stream.header.isSome ∧ sequence = stream.payloads.length
  | _ => True

/-- The checksum that the EOF of the stream carries. -/
def RecordingStream.crc (stream : RecordingStream) (checksum : List UInt8 → Nat) : Option Nat :=
  match stream.header with
  | none => some (checksum stream.frames.flatten)
  | some _ => none

/-- What the sink holds after a fresh start. -/
def contents (trace : List (EngineEntry RecordingTransferWorkflow)) : List UInt8 :=
  (appended trace).flatMap Prod.snd

/-- A device that sends one stream, with any loss, duplication and reordering, to a run without
checkpoint, over a sink that finalizes only what has the expected checksum. -/
structure FromDevice (stream : RecordingStream) (checksum : List UInt8 → Nat)
    (trace : List (EngineEntry RecordingTransferWorkflow))
    (engine : WorkflowEngine RecordingTransferWorkflow) (event : Event) : Prop where
  sends : ∀ w hostEvent value, engine.active = some w → event = .host hostEvent →
    Taken w hostEvent value → stream.Sends checksum value
  fresh : ∀ w hostEvent loaded, engine.active = some w → event = .host hostEvent →
    hostEvent.kind = .checkpointLoaded loaded → loaded.filter w.checkpointMatches = none
  finalizes : ∀ w hostEvent durableUnits, engine.active = some w → event = .host hostEvent →
    hostEvent.kind = .recordingSinkFinalized durableUnits →
    w.sinkRequestId = some hostEvent.requestId →
    ∃ request ∈ emitted trace, request.requestId = hostEvent.requestId ∧
      ∃ sinkId expected, request.effect = .recordingSink (.finalize sinkId expected) ∧
        ∀ crc, expected = some crc → checksum (contents trace) = crc

/-- An acknowledgement is among the effects. -/
def Acks (effects : List Effect) : Prop :=
  ∃ sequence, ackEffect .ack sequence ∈ effects

/-- The header and the numbered frames. -/
def RecordingStream.items (stream : RecordingStream) : List Item :=
  match stream.header with
  | none => numbered 65536 stream.frames
  | some (ephemeralPublicKey, salt) =>
    (0, ephemeralPublicKey ++ salt) :: numbered 65536 stream.frames

/-- Every packet was appended, in order and exactly once. -/
def Whole (stream : RecordingStream) (trace : List (EngineEntry RecordingTransferWorkflow)) : Prop :=
  Batched stream.items (appended trace)

def isEof (value : List UInt8) : Bool :=
  match parseTransferPacket value with
  | .ok (.eof _ _) | .ok (.encryptedEof _) => true
  | _ => false

/-- The values taken before the first EOF. -/
def beforeEof (trace : List (EngineEntry RecordingTransferWorkflow)) : List (List UInt8) :=
  (taken trace).takeWhile fun value => !isEof value

def Carries (value : List UInt8) (number : Nat) : Prop :=
  ∃ payload, parseTransferPacket value = .ok (.data number payload) ∨
    parseTransferPacket value = .ok (.encryptedData number payload)

/-! ## What a reading of the stream holds -/

/-- The reader has accepted the first packets of the stream. -/
inductive Holds (stream : RecordingStream) : Reader → List Item → Prop
  | plaintext {encrypted : Option Bool} {accepted : List Item} :
      stream.header = none → encrypted ≠ some true → Numbered.Accepts 65536 stream.frames accepted →
      Holds stream ⟨lastIndex accepted.length, encrypted, false, false⟩ accepted
  | waiting {start : List UInt8 × List UInt8} :
      stream.header = some start → Holds stream ⟨none, none, false, false⟩ []
  | encrypted {ephemeralPublicKey salt : List UInt8} {accepted : List Item} :
      stream.header = some (ephemeralPublicKey, salt) → Numbered.Accepts 65536 stream.frames accepted →
      Holds stream ⟨lastIndex accepted.length, some true, true, false⟩
        ((0, ephemeralPublicKey ++ salt) :: accepted)

section Holds

variable {stream : RecordingStream} {checksum : List UInt8 → Nat} {r r' : Reader}
  {items more accepted : List Item} {value : List UInt8} {packet : TransferPacket} {number : Nat}

theorem holds_nil : Holds stream (startReader 0 false) [] := by
  cases hheader : stream.header with
  | none =>
    have hkind : (none : Option Bool) ≠ some true := nofun
    exact .plaintext hheader hkind accepts_nil
  | some start => exact .waiting hheader

/-- The next frame of the stream. -/
theorem accepts_next {payload : List UInt8} (h : Numbered.Accepts 65536 stream.frames accepted)
    (hnew : ¬(lastIndex accepted.length).any (number ≤ ·))
    (hnumber : number = (lastIndex accepted.length).elim 0 fun last => (last + 1) % 65536)
    (hsent : Sent 65536 stream.payloads number payload) :
    Numbered.Accepts 65536 stream.frames (accepted ++ [(number, stream.frame payload)]) ∧
      (accepted ++ [(number, stream.frame payload)]).length = number + 1 := by
  obtain ⟨heq, hlt⟩ := expected_eq h.bounded hnumber hnew (by decide)
  have hframe : Sent 65536 stream.frames number (stream.frame payload) := by
    obtain ⟨i, hi, hmod⟩ := hsent
    refine ⟨i, ?_, hmod⟩
    rw [RecordingStream.frames, List.getElem?_map, hi, Option.map_some]
  refine ⟨h.snoc heq (by omega) hframe, ?_⟩
  rw [List.length_append, List.length_singleton, heq]

/-- Reading one more packet of the device. -/
theorem Holds.read (h : Holds stream r items) (hparse : parseTransferPacket value = .ok packet)
    (hsends : stream.Sends checksum value) (hread : r.read packet = some (r', more)) :
    Holds stream r' (items ++ more) := by
  rw [RecordingStream.Sends, hparse] at hsends
  have hsame : some (r, []) = some (r', more) → Holds stream r' (items ++ more) := by
    intro heq
    obtain ⟨rfl, rfl⟩ := Prod.mk.inj (Option.some.inj heq)
    rw [List.append_nil]
    exact h
  -- the frames accepted so far are the first of the stream, and one more packet is its next or none
  cases packet with
  | data number data =>
    rw [Reader.read] at hread
    split at hread
    · exact hsame hread
    · rename_i hnew
      split at hread
      · rename_i htake
        obtain ⟨rfl, rfl⟩ := Prod.mk.inj (Option.some.inj hread)
        cases h with
        | plaintext hheader _ haccepts =>
          obtain ⟨hnext, hlength⟩ := accepts_next haccepts hnew htake.1 hsends.2
          have hframe : stream.frame data = data := by rw [RecordingStream.frame, hheader]
          rw [hframe] at hnext hlength
          have hlast : some number = lastIndex (_ ++ [(number, data)]).length :=
            (lastIndex_eq_some.mpr hlength).symm
          rw [hlast]
          exact .plaintext hheader (by rintro ⟨⟩) hnext
        | waiting hheader => rw [hheader] at hsends; cases hsends.1
        | encrypted hheader => rw [hheader] at hsends; cases hsends.1
      · cases hread
  | e2eStart ephemeralPublicKey salt =>
    rw [Reader.read] at hread
    cases h with
    | plaintext hheader => rw [hheader] at hsends; cases hsends
    | waiting hheader =>
      obtain ⟨rfl, rfl⟩ := Prod.mk.inj (Option.some.inj hread)
      exact .encrypted hsends accepts_nil
    | encrypted hheader haccepts =>
      obtain ⟨rfl, rfl⟩ := Prod.mk.inj (Option.some.inj hread)
      rw [List.append_nil]
      exact .encrypted hheader haccepts
  | encryptedData number chunk =>
    cases h with
    | plaintext hheader => rw [hheader] at hsends; cases hsends.1
    | waiting => cases hread
    | @encrypted key salt accepted hheader haccepts =>
      rw [Reader.read, if_neg (by simp)] at hread
      split at hread
      · exact hsame hread
      · rename_i hnew
        split at hread
        · rename_i htake
          obtain ⟨rfl, rfl⟩ := Prod.mk.inj (Option.some.inj hread)
          obtain ⟨hnext, hlength⟩ := accepts_next haccepts hnew htake.1 hsends.2
          have hframe : stream.frame chunk = framed chunk := by rw [RecordingStream.frame, hheader]
          rw [hframe] at hnext hlength
          have hlast : some number = lastIndex (accepted ++ [(number, framed chunk)]).length :=
            (lastIndex_eq_some.mpr hlength).symm
          rw [hlast, List.cons_append]
          exact .encrypted hheader hnext
        · cases hread
  | sha256 => exact hsame hread
  | eof | encryptedEof | paused | error => cases hread

theorem Reads.holds {values : List (List UInt8)} (h : Reads (startReader 0 false) values r items)
    (hsends : ∀ value ∈ values, stream.Sends checksum value) : Holds stream r items := by
  induction h with
  | nil => exact holds_nil
  | snoc _ hparse hread ih =>
    have hlast := hsends _ (List.mem_append_right _ (List.mem_singleton_self _))
    exact (ih fun value hmem => hsends value (List.mem_append_left _ hmem)).read hparse hlast hread

/-- A packet leaves the last number alone or is the new last one. -/
theorem read_last (hread : r.read packet = some (r', more)) : r'.last = r.last ∨
    ∃ number payload, (packet = .data number payload ∨ packet = .encryptedData number payload) ∧
      r'.last = some number ∧ ¬r.last.any (number ≤ ·) := by
  have hsame : some (r, ([] : List Item)) = some (r', more) → r'.last = r.last := by
    intro heq
    obtain ⟨rfl, -⟩ := Prod.mk.inj (Option.some.inj heq)
    rfl
  cases packet with
  | data number data =>
    rw [Reader.read] at hread
    split at hread
    · exact .inl (hsame hread)
    · rename_i hnew
      split at hread
      · obtain ⟨rfl, -⟩ := Prod.mk.inj (Option.some.inj hread)
        exact .inr ⟨number, data, .inl rfl, rfl, hnew⟩
      · cases hread
  | e2eStart ephemeralPublicKey salt =>
    rw [Reader.read] at hread
    split at hread
    · cases hread
    · split at hread
      · obtain ⟨rfl, -⟩ := Prod.mk.inj (Option.some.inj hread)
        exact .inl rfl
      · obtain ⟨rfl, -⟩ := Prod.mk.inj (Option.some.inj hread)
        exact .inl rfl
  | encryptedData number chunk =>
    rw [Reader.read] at hread
    split at hread
    · cases hread
    · split at hread
      · exact .inl (hsame hread)
      · rename_i hnew
        split at hread
        · obtain ⟨rfl, -⟩ := Prod.mk.inj (Option.some.inj hread)
          exact .inr ⟨number, chunk, .inr rfl, rfl, hnew⟩
        · cases hread
  | sha256 => exact .inl (hsame hread)
  | eof | encryptedEof | paused | error => cases hread

/-- The last number never goes down. -/
theorem read_grows (hread : r.read packet = some (r', more)) (number : Nat)
    (h : r.last.any (number ≤ ·)) : r'.last.any (number ≤ ·) := by
  rcases read_last hread with hsame | ⟨number', payload, -, hnew, hgreater⟩
  · rw [hsame]
    exact h
  · rw [hnew]
    cases hlast : r.last with
    | none =>
      rw [hlast] at h
      exact nomatch h
    | some last =>
      rw [hlast] at h hgreater
      simp only [Option.any_some, decide_eq_true_eq] at h hgreater ⊢
      omega

/-- A number that was read is not above the last one. -/
theorem Reads.reached {r₀ : Reader} {values : List (List UInt8)} (h : Reads r₀ values r items)
    (hmem : value ∈ values) (hcarries : Carries value number) : r.last.any (number ≤ ·) := by
  induction h with
  | nil => exact absurd hmem List.not_mem_nil
  | @snoc values value' packet r₁ r₂ _ more _ hparse hread ih =>
    have hgrows : ∀ n, r₁.last.any (n ≤ ·) → r₂.last.any (n ≤ ·) := read_grows hread
    rcases List.mem_append.mp hmem with hmem | hmem
    · exact hgrows number (ih hmem)
    · obtain rfl := List.mem_singleton.mp hmem
      obtain ⟨payload, hdata | hdata⟩ := hcarries
      · obtain rfl := Except.ok.inj (hparse.symm.trans hdata)
        rw [Reader.read] at hread
        split at hread
        · rename_i hdup
          obtain ⟨rfl, -⟩ := Prod.mk.inj (Option.some.inj hread)
          exact hdup
        · split at hread
          · obtain ⟨rfl, -⟩ := Prod.mk.inj (Option.some.inj hread)
            exact decide_eq_true (Nat.le_refl number)
          · cases hread
      · obtain rfl := Except.ok.inj (hparse.symm.trans hdata)
        rw [Reader.read] at hread
        split at hread
        · cases hread
        · split at hread
          · rename_i hdup
            obtain ⟨rfl, -⟩ := Prod.mk.inj (Option.some.inj hread)
            exact hdup
          · split at hread
            · obtain ⟨rfl, -⟩ := Prod.mk.inj (Option.some.inj hread)
              exact decide_eq_true (Nat.le_refl number)
            · cases hread

/-- The last number came with a packet. -/
theorem Reads.carried {values : List (List UInt8)} (h : Reads (startReader 0 false) values r items)
    (hlast : r.last = some number) : ∃ value ∈ values, Carries value number := by
  induction h with
  | nil => exact nomatch hlast
  | @snoc values value packet r₁ r₂ _ more _ hparse hread ih =>
    rcases read_last hread with hsame | ⟨number', payload, hpacket, hnew, -⟩
    · obtain ⟨other, hmem, hcarries⟩ := ih (hsame ▸ hlast)
      exact ⟨other, List.mem_append_left _ hmem, hcarries⟩
    · obtain rfl : number' = number := Option.some.inj (hnew.symm.trans hlast)
      refine ⟨value, List.mem_append_right _ (List.mem_singleton_self _), payload, ?_⟩
      rcases hpacket with rfl | rfl
      · exact .inl hparse
      · exact .inr hparse

/-! ## What was appended when the EOF came -/

def RecordingStream.headItems (stream : RecordingStream) : List Item :=
  match stream.header with
  | none => []
  | some (ephemeralPublicKey, salt) => [(0, ephemeralPublicKey ++ salt)]

theorem items_eq (stream : RecordingStream) :
    stream.items = stream.headItems ++ numbered 65536 stream.frames := by
  rw [RecordingStream.items, RecordingStream.headItems]
  cases stream.header <;> rfl

theorem numbered_ne_nil {number : Nat} {frame : List UInt8} (henc : stream.header.isSome)
    (h : (number, frame) ∈ numbered 65536 stream.frames) : frame ≠ [] := by
  obtain ⟨i, hi⟩ := List.mem_iff_getElem?.mp h
  rw [numbered, List.getElem?_mapIdx, RecordingStream.frames, List.getElem?_map, Option.map_map] at hi
  obtain ⟨payload, -, heq⟩ := Option.map_eq_some_iff.mp hi
  have hframe : stream.frame payload = frame := congrArg Prod.snd heq
  rw [← hframe, RecordingStream.frame]
  cases hheader : stream.header with
  | none => rw [hheader] at henc; cases henc
  | some start =>
    intro hnil
    have hlength := congrArg List.length hnil
    rw [framed, List.length_append, List.length_reverse, Bytes.length_leBytes] at hlength
    exact absurd hlength (by simp)

/-- What a closed run has appended: the header and the first packets, up to the last number read. -/
structure Appended (stream : RecordingStream) (before : List (List UInt8)) (appends : List Item)
    (accepted : List Item) : Prop where
  accepts : Numbered.Accepts 65536 stream.frames accepted
  batched : Batched (stream.headItems ++ accepted) appends
  reached : ∀ value ∈ before, ∀ number, Carries value number → number < accepted.length
  carried : accepted ≠ [] → ∃ value ∈ before, Carries value (accepted.length - 1)

theorem takeWhile_of_closed {consumed rest : List (List UInt8)} {eof : List UInt8} {r₀ : Reader}
    (hreads : Reads r₀ consumed r items) (hends : Ends r eof) :
    (consumed ++ eof :: rest).takeWhile (fun value => !isEof value) = consumed := by
  have heof : isEof eof = true := by
    cases hends with
    | plaintext hparse => rw [isEof, hparse]
    | encrypted hparse => rw [isEof, hparse]
  have hnot : ∀ value ∈ consumed, (!isEof value) = true := by
    intro value hmem
    obtain ⟨packet, r', next, hparse, hread⟩ := hreads.parsed hmem
    rw [isEof, hparse]
    cases packet with
    | eof | encryptedEof => exact nomatch hread
    | _ => rfl
  rw [List.takeWhile_append_of_pos hnot, List.takeWhile_cons_of_neg (by simp [heof]),
    List.append_nil]

theorem Closed.appended {taken : List (List UInt8)} {appends : List Item}
    (h : Closed (startReader 0 false) taken appends)
    (hsends : ∀ value ∈ taken, stream.Sends checksum value) :
    ∃ accepted, Appended stream (taken.takeWhile fun value => !isEof value) appends accepted := by
  obtain ⟨consumed, eof, rest, r, items, rfl, hends, hreads, hbatched⟩ := h
  rw [takeWhile_of_closed hreads hends]
  have hholds : Holds stream r items :=
    hreads.holds fun value hmem => hsends value (List.mem_append_left _ hmem)
  have heof := hsends eof (List.mem_append_right _ List.mem_cons_self)
  rw [RecordingStream.Sends] at heof
  have hfacts : ∀ accepted : List Item, r.last = lastIndex accepted.length →
      (∀ value ∈ consumed, ∀ number, Carries value number → number < accepted.length) ∧
      (accepted ≠ [] → ∃ value ∈ consumed, Carries value (accepted.length - 1)) := by
    intro accepted hlast
    refine ⟨fun value hmem number hcarries => ?_, fun hne => ?_⟩
    · have hreached := hreads.reached hmem hcarries
      rw [hlast] at hreached
      exact lt_of_lastIndex_any hreached
    · refine hreads.carried (hlast.trans (lastIndex_eq_some.mpr ?_))
      have hpos := List.length_pos_iff.mpr hne
      omega
  cases hholds with
  | plaintext hheader _ haccepts =>
    obtain ⟨hreached, hcarried⟩ := hfacts items rfl
    refine ⟨items, haccepts, ?_, hreached, hcarried⟩
    rw [RecordingStream.headItems, hheader]
    exact hbatched
  | waiting hheader =>
    cases hends with
    | plaintext hparse =>
      rw [hparse] at heof
      rw [hheader] at heof
      exact nomatch heof.1
    | encrypted _ hkind => exact nomatch hkind
  | @encrypted key salt accepted hheader haccepts =>
    obtain ⟨hreached, hcarried⟩ := hfacts accepted rfl
    refine ⟨accepted, haccepts, ?_, hreached, hcarried⟩
    rw [RecordingStream.headItems, hheader]
    exact hbatched

/-- Everything was appended exactly when as many packets were accepted as were sent. -/
theorem Appended.whole_iff {before : List (List UInt8)} {appends : List Item}
    (h : Appended stream before appends accepted) (hshort : stream.payloads.length < 65536) :
    Batched stream.items appends ↔ accepted.length = stream.payloads.length := by
  have hlength : stream.frames.length ≤ 65536 := by
    rw [stream.length_frames]
    omega
  constructor
  · intro hwhole
    rw [items_eq] at hwhole
    obtain ⟨rest, hrest⟩ := h.accepts.isPrefix hlength
    have hrestNil : rest = [] := by
      cases hheader : stream.header with
      | none =>
        have hlast := hwhole.last_eq h.batched
        have hall : Numbered.Accepts 65536 stream.frames (numbered 65536 stream.frames) :=
          accepts_numbered hlength
        rw [RecordingStream.headItems, hheader, List.nil_append, List.nil_append, hall.last,
          h.accepts.last] at hlast
        have hsame := lastIndex_injective hlast
        rw [← hrest, List.length_append] at hsame
        exact List.length_eq_zero_iff.mp (by omega)
      | some start =>
        have hcontents := hwhole.contents.symm.trans h.batched.contents
        rw [List.flatMap_append, List.flatMap_append, List.append_cancel_left_eq, ← hrest,
          List.flatMap_append, List.append_right_eq_self] at hcontents
        rcases rest with - | ⟨⟨number, frame⟩, rest⟩
        · rfl
        · rw [List.flatMap_cons, List.append_eq_nil_iff] at hcontents
          refine absurd hcontents.1 (@numbered_ne_nil stream number frame (by rw [hheader]; rfl) ?_)
          rw [← hrest]
          simp
    rw [hrestNil, List.append_nil] at hrest
    rw [hrest, length_numbered, stream.length_frames]
  · intro hall
    have hcomplete := h.accepts.complete_iff.mpr ⟨hlength, hall.trans stream.length_frames.symm⟩
    rw [items_eq, ← hcomplete]
    exact h.batched

end Holds

/-! ## When an acknowledgement or a finalization is requested -/

section Requests

variable {stream : RecordingStream} {checksum : List UInt8 → Nat}
  {w w' : RecordingTransferWorkflow} {value : List UInt8} {event : HostEvent}
  {effects front back : List Effect} {packet : TransferPacket}

theorem acks_append : Acks (front ++ back) ↔ Acks front ∨ Acks back := by
  constructor
  · rintro ⟨sequence, hmem⟩
    rcases List.mem_append.mp hmem with hmem | hmem
    · exact .inl ⟨sequence, hmem⟩
    · exact .inr ⟨sequence, hmem⟩
  · rintro (⟨sequence, hmem⟩ | ⟨sequence, hmem⟩)
    · exact ⟨sequence, List.mem_append_left _ hmem⟩
    · exact ⟨sequence, List.mem_append_right _ hmem⟩

theorem not_acks_nil : ¬Acks [] := by
  rintro ⟨_, hmem⟩
  exact List.not_mem_nil hmem

theorem ackEffect_ne_ack {ackType : AckType} (htype : ackType ≠ .ack) (sequence sequence' : Nat) :
    ackEffect .ack sequence ≠ ackEffect ackType sequence' := by
  intro heq
  simp only [ackEffect, controlEffect, Effect.ble.injEq, BleEffect.write.injEq] at heq
  have hhead := (List.cons.inj heq.2.2.1).1
  cases ackType with
  | ack => exact htype rfl
  | nack => exact absurd hhead (by decide)
  | abort => exact absurd hhead (by decide)

theorem ackEffect_ne_command (command : TransferCommand) (ackType : AckType) (sequence : Nat) :
    ackEffect ackType sequence ≠ commandEffect command := by
  intro heq
  simp only [ackEffect, commandEffect, controlEffect, Effect.ble.injEq, BleEffect.write.injEq] at heq
  have hhead := congrArg List.head? heq.2.2.1
  cases ackType <;> cases command <;> exact absurd (Option.some.inj hhead) (by decide)

/-- Effects that write nothing to the control characteristic. -/
theorem not_acks_of_forall (h : ∀ effect ∈ effects, ∀ payload, effect ≠ controlEffect payload) :
    ¬Acks effects := by
  rintro ⟨sequence, hmem⟩
  exact h _ hmem _ rfl

theorem not_acks_fail (w : RecordingTransferWorkflow) (error : DeviceSdkError) :
    ¬Acks (failEffects w error) := by
  apply not_acks_of_forall
  cases hsub : w.subscriptionRequestId <;> cases htimer : w.shaGraceTimerScheduled <;>
    simp [failEffects, unsubscribeEffects, graceEffects, hsub, htimer, unsubscribeEffect,
      controlEffect]

theorem FailEffects.not_acks (h : FailEffects w effects) : ¬Acks effects := by
  cases h with
  | kept => exact not_acks_fail w _
  | discarded =>
    rw [acks_append, not_or]
    refine ⟨?_, not_acks_fail w _⟩
    rintro ⟨sequence, hmem⟩
    simp only [discardEffects, List.mem_cons, List.not_mem_nil, or_false] at hmem
    rcases hmem with heq | heq | heq
    · exact ackEffect_ne_ack (by decide) _ _ heq
    · exact nomatch heq
    · exact nomatch heq

/-- Only a digest that ends the wait for it is acknowledged. -/
theorem NotificationStep.not_acks (h : NotificationStep w value w' effects)
    (hphase : w.phase ≠ .waitingForSha) : ¬Acks effects := by
  cases h with
  | packet _ _ hstep =>
    cases hstep with
    | duplicate | repeatedStart | resumedStart | encryptedDuplicate | sha256 => exact not_acks_nil
    | _ => exact not_acks_of_forall (by simp [controlEffect])
  | awaitedSha256 hwaiting => exact absurd hwaiting hphase
  | failed _ heffects => exact heffects.not_acks
  | _ => exact not_acks_nil

theorem NotificationStep.not_waiting (h : NotificationStep w value w' effects)
    (hphase : w.phase ≠ .waitingForSha) : w'.phase ≠ .waitingForSha := by
  cases h with
  | packet _ _ hstep =>
    cases hstep with
    | duplicate | repeatedStart | resumedStart | encryptedDuplicate | sha256 => exact hphase
    | _ => exact nofun
  | awaitedSha256 => exact nofun
  | failed _ _ hfailed => rw [hfailed]; exact nofun
  | _ => exact hphase

theorem Drains.not_acks (h : Drains w effects w') (hphase : w.phase ≠ .waitingForSha) :
    ¬Acks effects := by
  induction h with
  | done => exact not_acks_nil
  | turn _ _ hstep _ ih =>
    rw [acks_append, not_or]
    exact ⟨hstep.not_acks hphase, ih (hstep.not_waiting hphase)⟩

/-- An acknowledgement ends the finalization or the wait for the digest. -/
theorem Transition.acks (h : Transition w event w' effects) (hacks : Acks effects) :
    (∃ durableUnits, event.kind = .recordingSinkFinalized durableUnits ∧
      w.phase = .finalizing ∧ w.sinkRequestId = some event.requestId) ∨ w.phase = .waitingForSha := by
  by_cases hwaiting : w.phase = .waitingForSha
  · exact .inr hwaiting
  cases h with
  | finalizedWithSha hphase hid => exact .inl ⟨_, rfl, hphase, hid⟩
  | graceEnded hphase => exact absurd hphase hwaiting
  | notified _ _ hstep => exact absurd hacks (hstep.not_acks hwaiting)
  | reopened hreopens hturns =>
    rcases acks_append.mp hacks with hfront | hback
    · refine absurd hfront ?_
      cases hreopens with
      | started => exact not_acks_nil
      | appended => exact not_acks_of_forall (by simp [controlEffect])
    · refine absurd hback (hturns.not_acks ?_)
      cases hreopens <;> rintro ⟨⟩
  | subscribed | acknowledged =>
    obtain ⟨sequence, hmem⟩ := hacks
    exact absurd (List.mem_singleton.mp hmem) (ackEffect_ne_command _ _ _)
  | completed =>
    refine absurd hacks (not_acks_of_forall ?_)
    cases hsub : w.subscriptionRequestId <;>
      simp [completeEffects, unsubscribeEffects, hsub, unsubscribeEffect, controlEffect]
  | failed _ _ _ heffects => exact absurd hacks heffects.not_acks
  | checkpointSaved => exact absurd hacks not_acks_nil
  | graceElapsed => exact absurd hacks not_acks_nil
  | finalized => exact absurd hacks not_acks_nil
  | checkpointLoaded => exact absurd hacks (not_acks_of_forall (by simp [controlEffect]))
  | sinkTruncated => exact absurd hacks (not_acks_of_forall (by simp [controlEffect]))

/-- Every finalization asks for the checksum of the stream. -/
def Finalizes (stream : RecordingStream) (checksum : List UInt8 → Nat) (effects : List Effect) :
    Prop :=
  ∀ sinkId expected, .recordingSink (.finalize sinkId expected) ∈ effects →
    expected = stream.crc checksum

theorem finalizes_nil : Finalizes stream checksum [] :=
  fun _ _ hmem => absurd hmem List.not_mem_nil

theorem Finalizes.append (hfront : Finalizes stream checksum front)
    (hback : Finalizes stream checksum back) : Finalizes stream checksum (front ++ back) := by
  intro sinkId expected hmem
  rcases List.mem_append.mp hmem with hmem | hmem
  · exact hfront sinkId expected hmem
  · exact hback sinkId expected hmem

theorem finalizes_of_forall
    (h : ∀ effect ∈ effects, ∀ sinkId expected, effect ≠ .recordingSink (.finalize sinkId expected)) :
    Finalizes stream checksum effects :=
  fun sinkId expected hmem => absurd rfl (h _ hmem sinkId expected)

theorem FailEffects.finalizes (h : FailEffects w effects) : Finalizes stream checksum effects := by
  have hfail : ∀ error, Finalizes stream checksum (failEffects w error) := by
    intro error
    apply finalizes_of_forall
    cases hsub : w.subscriptionRequestId <;> cases htimer : w.shaGraceTimerScheduled <;>
      simp [failEffects, unsubscribeEffects, graceEffects, hsub, htimer, unsubscribeEffect]
  cases h with
  | kept => exact hfail _
  | discarded =>
    refine Finalizes.append (finalizes_of_forall ?_) (hfail _)
    simp [discardEffects, ackEffect, controlEffect]

theorem acknowledge_finalizes (w : RecordingTransferWorkflow) :
    Finalizes stream checksum (acknowledgeEffects w) := by
  apply finalizes_of_forall
  cases htimer : w.shaGraceTimerScheduled <;>
    simp [acknowledgeEffects, graceEffects, htimer, ackEffect, controlEffect]

theorem NotificationStep.finalizes (h : NotificationStep w value w' effects)
    (hsends : stream.Sends checksum value) : Finalizes stream checksum effects := by
  cases h with
  | packet _ hparse hstep =>
    rw [RecordingStream.Sends, hparse] at hsends
    cases hstep with
    | eof =>
      intro sinkId expected hmem
      simp only [List.mem_cons, Effect.recordingSink.injEq, RecordingSinkEffect.finalize.injEq,
        reduceCtorEq, List.not_mem_nil, or_false] at hmem
      rw [hmem.2, RecordingStream.crc, hsends.1, hsends.2.2]
    | encryptedEof =>
      intro sinkId expected hmem
      simp only [List.mem_cons, Effect.recordingSink.injEq, RecordingSinkEffect.finalize.injEq,
        reduceCtorEq, List.not_mem_nil, or_false] at hmem
      obtain ⟨start, hheader⟩ := Option.isSome_iff_exists.mp hsends.1
      rw [hmem.2, RecordingStream.crc, hheader]
    | duplicate | repeatedStart | resumedStart | encryptedDuplicate | sha256 => exact finalizes_nil
    | _ => exact finalizes_of_forall (by simp)
  | awaitedSha256 => exact acknowledge_finalizes w
  | failed _ heffects => exact heffects.finalizes
  | _ => exact finalizes_nil

/-- Taking a value never adds to the queue. -/
theorem NotificationStep.queue_subset (h : NotificationStep w value w' effects)
    (hdrains : w.phase.drains) (hfailed : w'.phase ≠ .failed) :
    w'.pendingPackets ⊆ w.pendingPackets := by
  cases h with
  | queued h' => rcases h' with h' | h' <;> rw [h'] at hdrains <;> exact nomatch hdrains
  | packet _ _ hstep =>
    cases hstep with
    | @data sequence data _ batch _ _ _ hbatch =>
      obtain ⟨front, more, hqueue, -⟩ := @takeBatch_reads ⟨some sequence, some false, false, false⟩
        sequence rfl rfl data w.pendingPackets w.pendingBytes
      rw [← hbatch] at hqueue
      rw [hqueue]
      exact List.subset_append_right _ _
    | _ => exact List.Subset.refl _
  | failed _ _ h' => exact absurd h' hfailed
  | _ => exact List.Subset.refl _

theorem Drains.finalizes (h : Drains w effects w')
    (hsends : ∀ value ∈ w.pendingPackets, stream.Sends checksum value) :
    Finalizes stream checksum effects := by
  induction h with
  | done => exact finalizes_nil
  | @turn w w₁ w' value rest _ effects' hdrains hqueue hstep hturns ih =>
    rw [hqueue] at hsends
    refine (hstep.finalizes (hsends value List.mem_cons_self)).append ?_
    by_cases hfailed : w₁.phase = .failed
    · cases hturns with
      | done => exact finalizes_nil
      | turn hgoes => exact absurd hfailed (drains_ne_failed hgoes)
    · refine ih fun other hother => ?_
      have hrest := hstep.queue_subset hdrains hfailed hother
      rw [pop, hqueue] at hrest
      exact hsends other (List.mem_cons_of_mem _ hrest)

theorem Reopens.open (h : Reopens w event w' effects) : ¬closes w.phase := by
  cases h with
  | started hphase => rw [hphase]; decide
  | appended hphase => rw [hphase]; decide

theorem Transition.finalizes (h : Transition w event w' effects)
    (htaken : ∀ value, Taken w event value → stream.Sends checksum value)
    (hqueue : ¬closes w.phase → ∀ value ∈ w.pendingPackets, stream.Sends checksum value) :
    Finalizes stream checksum effects := by
  cases h with
  | notified hreceives hid hstep => exact hstep.finalizes (htaken _ ⟨rfl, hreceives, hid⟩)
  | reopened hreopens hturns =>
    replace hqueue := hqueue hreopens.open
    cases hreopens with
    | started => exact finalizes_nil.append (hturns.finalizes hqueue)
    | appended => exact (finalizes_of_forall (by simp)).append (hturns.finalizes hqueue)
  | finalizedWithSha => exact acknowledge_finalizes w
  | completed =>
    apply finalizes_of_forall
    cases hsub : w.subscriptionRequestId <;>
      simp [completeEffects, unsubscribeEffects, hsub, unsubscribeEffect]
  | failed _ _ _ heffects => exact heffects.finalizes
  | checkpointSaved => exact finalizes_nil
  | graceElapsed => exact finalizes_nil
  | finalized => exact finalizes_nil
  | subscribed => exact finalizes_of_forall (by simp [commandEffect, controlEffect])
  | acknowledged => exact finalizes_of_forall (by simp [commandEffect, controlEffect])
  | graceEnded => exact finalizes_of_forall (by simp [ackEffect, controlEffect])
  | checkpointLoaded => exact finalizes_of_forall (by simp)
  | sinkTruncated => exact finalizes_of_forall (by simp)

/-- The phases after the sink has finalized. -/
def verified : Phase → Bool
  | .waitingForSha | .acknowledging | .confirming => true
  | _ => false

theorem closes_of_verified {phase : Phase} (h : verified phase) : closes phase := by
  cases phase <;> simp_all [verified, closes]

theorem NotificationStep.not_verified (h : NotificationStep w value w' effects)
    (hphase : ¬verified w.phase) : ¬verified w'.phase := by
  cases h with
  | packet _ _ hstep =>
    cases hstep with
    | duplicate | repeatedStart | resumedStart | encryptedDuplicate | sha256 => exact hphase
    | _ => exact nofun
  | awaitedSha256 hwaiting =>
    rw [hwaiting] at hphase
    exact absurd rfl hphase
  | failed _ _ hfailed => rw [hfailed]; exact nofun
  | _ => exact hphase

theorem Drains.not_verified (h : Drains w effects w') (hphase : ¬verified w.phase) :
    ¬verified w'.phase := by
  induction h with
  | done => exact hphase
  | turn _ _ hstep _ ih => exact ih (hstep.not_verified hphase)

theorem Reopens.not_verified (h : Reopens w event w' effects) : ¬verified w'.phase := by
  cases h <;> exact nofun

/-- The sink answered the finalization. -/
def Finalized (w : RecordingTransferWorkflow) (event : HostEvent) : Prop :=
  ∃ durableUnits, event.kind = .recordingSinkFinalized durableUnits ∧ w.phase = .finalizing ∧
    w.sinkRequestId = some event.requestId

/-- The later phases are entered only when the sink has finalized. -/
theorem Transition.verified (h : Transition w event w' effects)
    (hphase : RecordingTransferWorkflow.verified w'.phase) :
    Finalized w event ∨ RecordingTransferWorkflow.verified w.phase := by
  by_cases hbefore : RecordingTransferWorkflow.verified w.phase
  · exact .inr hbefore
  cases h with
  | finalizedWithSha hfinalizing hid => exact .inl ⟨_, rfl, hfinalizing, hid⟩
  | finalized hfinalizing hid => exact .inl ⟨_, rfl, hfinalizing, hid⟩
  | notified _ _ hstep => exact absurd hphase (hstep.not_verified hbefore)
  | reopened hreopens hturns =>
    exact absurd hphase (hturns.not_verified hreopens.not_verified)
  | graceEnded h' => rw [h'] at hbefore; exact absurd rfl hbefore
  | acknowledged h' => rw [h'] at hbefore; exact absurd rfl hbefore
  | checkpointSaved => exact .inr hphase
  | graceElapsed => exact .inr hphase
  | failed _ h' => rw [h'] at hphase; exact nomatch hphase
  | _ => exact nomatch hphase

theorem cancel_appends (w : RecordingTransferWorkflow) :
    appendsOf (ackEffect .abort w.nextSequence :: (graceEffects w ++ unsubscribeEffects w ++
      [.recordingSink (.discard w.sinkId), .persistence .deleteCheckpoint,
        .notify (.cancelled .transferRecording)])) = [] := by
  cases hsub : w.subscriptionRequestId <;> cases htimer : w.shaGraceTimerScheduled <;>
    simp [graceEffects, unsubscribeEffects, hsub, htimer, appendsOf, append?, ackEffect,
      controlEffect, unsubscribeEffect]

theorem cancel_not_acks (w : RecordingTransferWorkflow) :
    ¬Acks (ackEffect .abort w.nextSequence :: (graceEffects w ++ unsubscribeEffects w ++
      [.recordingSink (.discard w.sinkId), .persistence .deleteCheckpoint,
        .notify (.cancelled .transferRecording)])) := by
  rw [← List.singleton_append, acks_append, not_or]
  constructor
  · rintro ⟨sequence, hmem⟩
    exact ackEffect_ne_ack (by decide) _ _ (List.mem_singleton.mp hmem)
  · apply not_acks_of_forall
    cases hsub : w.subscriptionRequestId <;> cases htimer : w.shaGraceTimerScheduled <;>
      simp [graceEffects, unsubscribeEffects, hsub, htimer, unsubscribeEffect, controlEffect]

/-- The packets a device sends fit their frames. -/
theorem Sends.not_oversized (hsends : stream.Sends checksum value)
    (hparse : parseTransferPacket value = .ok packet) : ¬Oversized packet := by
  rintro ⟨sequence, chunk, rfl, hlong⟩
  rw [RecordingStream.Sends, hparse] at hsends
  obtain ⟨henc, i, hi, -⟩ := hsends
  have hfits := stream.fits henc chunk (List.mem_of_getElem? hi)
  omega

end Requests

/-! ## Runs -/

section Runs

variable {stream : RecordingStream} {checksum : List UInt8 → Nat}
  {engine₀ engine : WorkflowEngine RecordingTransferWorkflow}
  {trace : List (EngineEntry RecordingTransferWorkflow)}
  {entry : EngineEntry RecordingTransferWorkflow} {w w' : RecordingTransferWorkflow}
  {event : HostEvent} {effects : List Effect}

/-- What the sink holds has the checksum of the stream, if the stream has one. -/
def Checked (stream : RecordingStream) (checksum : List UInt8 → Nat)
    (trace : List (EngineEntry RecordingTransferWorkflow)) : Prop :=
  ∀ crc, stream.crc checksum = some crc → checksum (contents trace) = crc

/-- What is known of a run that has acknowledged. -/
structure Acknowledged (stream : RecordingStream) (checksum : List UInt8 → Nat)
    (trace : List (EngineEntry RecordingTransferWorkflow)) : Prop where
  closed : Closed (startReader 0 false) (taken trace) (appended trace)
  sends : ∀ value ∈ taken trace, stream.Sends checksum value
  checked : Checked stream checksum trace

/-- What a run keeps while it is going on. -/
structure Watched (stream : RecordingStream) (checksum : List UInt8 → Nat)
    (trace : List (EngineEntry RecordingTransferWorkflow)) (w : RecordingTransferWorkflow) :
    Prop where
  formed : Formed w
  position : Position (startReader 0 false) (taken trace) (appended trace) w
  sends : ∀ value ∈ taken trace, stream.Sends checksum value
  finalizes : Finalizes stream checksum (requestedIn trace)
  checked : verified w.phase → Checked stream checksum trace
  acked : Acks (requestedIn trace) → closes w.phase ∧ Checked stream checksum trace

theorem Position.is_closed {taken : List (List UInt8)} {appends : List Item} {r₀ : Reader}
    (h : Position r₀ taken appends w) (hphase : closes w.phase) : Closed r₀ taken appends := by
  cases h with
  | blank hblank => rw [hblank.phase] at hphase; exact nomatch hphase
  | receiving hopens =>
    have hboth : ∀ phase, opens phase → ¬closes phase := by
      intro phase
      cases phase <;> decide
    exact absurd hphase (hboth _ hopens)
  | closed _ hclosed => exact hclosed

theorem FromDevice.sent (hok : FromDevice stream checksum trace entry.pre entry.input)
    (h : ∀ value ∈ taken trace, stream.Sends checksum value) (hact : entry.pre.active = some w)
    (hinput : entry.input = .host event) :
    ∀ value ∈ taken (trace ++ [entry]), stream.Sends checksum value := by
  intro value hmem
  rw [taken_concat, takenIn_host hact hinput] at hmem
  rcases List.mem_append.mp hmem with hmem | hmem
  · exact h value hmem
  · have htakes := takenBy_eq_some.mp (Option.mem_toList.mp hmem)
    exact hok.sends w event value hact hinput htakes

/-- The checkpoint of a fresh run restores nothing. -/
theorem FromDevice.loads (hok : FromDevice stream checksum trace entry.pre entry.input)
    (hposition : Position (startReader 0 false) (taken trace) (appended trace) w)
    (hact : entry.pre.active = some w) (hinput : entry.input = .host event) :
    Loads (startReader 0 false) w event := by
  intro loaded hkind hphase _
  have hnone := hok.fresh w event loaded hact hinput hkind
  cases hposition with
  | blank hblank =>
    simp only [restore, hnone, hblank.lastSequence, hblank.completedUnits]
    rfl
  | receiving hopens => rw [hphase] at hopens; cases hopens
  | closed hcloses => rw [hphase] at hcloses; cases hcloses

/-- The sink's answer to the finalization has checked the contents. -/
theorem Watched.finalized (h : Watched stream checksum trace w)
    (hok : FromDevice stream checksum trace entry.pre entry.input)
    (hact : entry.pre.active = some w) (hinput : entry.input = .host event)
    (hfinalized : Finalized w event) : Checked stream checksum trace := by
  obtain ⟨durableUnits, hkind, -, hid⟩ := hfinalized
  obtain ⟨request, hmem, -, sinkId, expected, heffect, hcrc⟩ :=
    hok.finalizes w event durableUnits hact hinput hkind hid
  have hexpected : expected = stream.crc checksum := by
    refine h.finalizes sinkId expected ?_
    rw [← heffect]
    exact List.mem_map_of_mem hmem
  rw [hexpected] at hcrc
  exact hcrc

/-- A step after the EOF leaves the contents alone. -/
theorem contents_of_quiet (hquiet : appendsOf (entry.output.effects.map (·.effect)) = []) :
    appended (trace ++ [entry]) = appended trace ∧ contents (trace ++ [entry]) = contents trace := by
  have hsame : appended (trace ++ [entry]) = appended trace := by
    rw [appended_concat, hquiet, List.append_nil]
  exact ⟨hsame, by rw [contents, hsame, contents]⟩

/-- If the run has acknowledged after a transition, the EOF and the check came before it. -/
theorem Watched.acknowledged (h : Watched stream checksum trace w)
    (hok : FromDevice stream checksum trace entry.pre entry.input)
    (hact : entry.pre.active = some w) (hinput : entry.input = .host event)
    (heffects : entry.output.effects.map (·.effect) = effects)
    (hstep : Transition w event w' effects) (hacks : Acks (requestedIn (trace ++ [entry]))) :
    closes w.phase ∧ Acknowledged stream checksum (trace ++ [entry]) := by
  rw [requestedIn_append, requestedIn_singleton, heffects, acks_append] at hacks
  have hbefore : closes w.phase ∧ Checked stream checksum trace := by
    rcases hacks with hacks | hacks
    · exact h.acked hacks
    · rcases hstep.acks hacks with hfinalized | hwaiting
      · refine ⟨?_, h.finalized hok hact hinput hfinalized⟩
        obtain ⟨_, _, hphase, _⟩ := hfinalized
        rw [hphase]
        rfl
      · exact ⟨by rw [hwaiting]; rfl, h.checked (by rw [hwaiting]; rfl)⟩
  obtain ⟨hcloses, hchecked⟩ := hbefore
  obtain ⟨happended, hcontents⟩ := @contents_of_quiet trace entry
    (heffects ▸ (hstep.closed hcloses).1)
  refine ⟨hcloses, ?_, hok.sent h.sends hact hinput, ?_⟩
  · rw [taken_concat, happended]
    exact (h.position.is_closed hcloses).append _
  · rw [Checked, hcontents]
    exact hchecked

theorem Watched.step (h : Watched stream checksum trace w)
    (hok : FromDevice stream checksum trace entry.pre entry.input)
    (hact : entry.pre.active = some w) (hinput : entry.input = .host event)
    (heffects : entry.output.effects.map (·.effect) = effects)
    (hstep : Transition w event w' effects)
    (hrunning : ¬(w'.phase = .completed ∨ w'.phase = .failed)) :
    Watched stream checksum (trace ++ [entry]) w' := by
  have hposition := h.position.step hstep (hok.loads h.position hact hinput) hrunning
  refine ⟨hstep.formed h.formed hrunning, ?_, hok.sent h.sends hact hinput, ?_, ?_, ?_⟩
  · rw [taken_concat, takenIn_host hact hinput, appended_concat, heffects]
    exact hposition
  · rw [requestedIn_append, requestedIn_singleton, heffects]
    refine h.finalizes.append (hstep.finalizes ?_ ?_)
    · exact fun value htaken => hok.sends w event value hact hinput htaken
    · intro hopen value hmem
      cases h.position with
      | blank hblank =>
        rw [hblank.pendingPackets] at hmem
        exact absurd hmem List.not_mem_nil
      | receiving _ hreceives =>
        obtain ⟨consumed, htaken, -⟩ := hreceives
        refine h.sends value ?_
        rw [htaken]
        exact List.mem_append_right _ hmem
      | closed hcloses => exact absurd hcloses hopen
  · intro hverified
    have hbefore : closes w.phase ∧ Checked stream checksum trace := by
      rcases hstep.verified hverified with hfinalized | hbefore
      · refine ⟨?_, h.finalized hok hact hinput hfinalized⟩
        obtain ⟨_, _, hphase, _⟩ := hfinalized
        rw [hphase]
        rfl
      · exact ⟨closes_of_verified hbefore, h.checked hbefore⟩
    obtain ⟨-, hcontents⟩ := @contents_of_quiet trace entry
      (heffects ▸ (hstep.closed hbefore.1).1)
    rw [Checked, hcontents]
    exact hbefore.2
  · intro hacks
    obtain ⟨hcloses, hacknowledged⟩ := h.acknowledged hok hact hinput heffects hstep hacks
    exact ⟨(hstep.closed hcloses).2.resolve_right hrunning, hacknowledged.checked⟩

/-- An event that requests nothing and leaves the state alone. -/
theorem Watched.quiet (h : Watched stream checksum trace w) (hquiet : entry.output.effects = [])
    (hsends : ∀ value ∈ taken (trace ++ [entry]), stream.Sends checksum value)
    (hposition : Position (startReader 0 false) (taken (trace ++ [entry])) (appended trace) w) :
    Watched stream checksum (trace ++ [entry]) w := by
  have hnone : entry.output.effects.map (·.effect) = [] := by rw [hquiet, List.map_nil]
  obtain ⟨happended, hcontents⟩ := @contents_of_quiet trace entry (by rw [hnone, appendsOf_nil])
  have hrequested : requestedIn (trace ++ [entry]) = requestedIn trace := by
    rw [requestedIn_append, requestedIn_singleton, hnone, List.append_nil]
  refine ⟨h.formed, by rw [happended]; exact hposition, hsends, ?_, fun hverified => ?_, ?_⟩
  · rw [hrequested]
    exact h.finalizes
  · rw [Checked, hcontents]
    exact h.checked hverified
  · rw [hrequested, Checked, hcontents]
    exact h.acked

theorem not_overlong_of_sends (hsends : ∀ value ∈ taken trace, stream.Sends checksum value) :
    ¬Overlong (taken trace) := by
  rintro ⟨value, hmem, packet, hparse, hover⟩
  exact Sends.not_oversized (hsends value hmem) hparse hover

/-- A value that is rejected comes after the EOF. -/
theorem Watched.ignored (h : Watched stream checksum trace w)
    (hok : FromDevice stream checksum trace entry.pre entry.input)
    (hact : entry.pre.active = some w) (hinput : entry.input = .host event)
    (hquiet : entry.output.effects = [])
    (hrejected : ∀ value, Taken w event value → Late w ∨ Crashes w value) :
    Watched stream checksum (trace ++ [entry]) w := by
  refine h.quiet hquiet (hok.sent h.sends hact hinput) ?_
  rw [taken_concat, takenIn_host hact hinput]
  cases htakes : takenBy w event with
  | none =>
    rw [Option.toList_none, List.append_nil]
    exact h.position
  | some value =>
    have htaken := takenBy_eq_some.mp htakes
    have hcloses : closes w.phase := by
      rcases hrejected value htaken with hlate | ⟨-, packet, hparse, hover⟩
      · rcases hlate with hphase | hphase <;> rw [hphase] <;> rfl
      · have hsent := hok.sends w event value hact hinput htaken
        exact absurd hover (Sends.not_oversized hsent hparse)
    exact .closed hcloses ((h.position.is_closed hcloses).append _)

/-- An interrupted drain has read the EOF, and its state is that of a finalization. -/
theorem Watched.interrupted (h : Watched stream checksum trace w)
    (hact : entry.pre.active = some w) (hinput : entry.input = .host event)
    (hquiet : entry.output.effects = []) (hinterrupted : Interrupted w event w') :
    Watched stream checksum (trace ++ [entry]) w' := by
  obtain ⟨hnone, hcloses, hclosed⟩ :=
    hinterrupted.closed h.position (not_overlong_of_sends h.sends)
  have htaken : taken (trace ++ [entry]) = taken trace := by
    rw [taken_concat, takenIn_host hact hinput, hnone, Option.toList_none, List.append_nil]
  have heffects : entry.output.effects.map (·.effect) = [] := by rw [hquiet, List.map_nil]
  have hrequested : requestedIn (trace ++ [entry]) = requestedIn trace := by
    rw [requestedIn_append, requestedIn_singleton, heffects, List.append_nil]
  obtain ⟨happended, -⟩ := @contents_of_quiet trace entry (by rw [heffects, appendsOf_nil])
  have hformed := hinterrupted.formed
  obtain ⟨w₀, effects, effects', w₁, value, hreopens, hturns, hstopped, -⟩ := hinterrupted
  refine ⟨hformed, ?_, by rw [htaken]; exact h.sends, by rw [hrequested]; exact h.finalizes, ?_, ?_⟩
  · rw [htaken, happended]
    exact .closed hcloses hclosed
  · intro hverified
    rw [hstopped.popped] at hverified
    exact absurd hverified (hturns.not_verified hreopens.not_verified)
  · intro hacks
    rw [hrequested] at hacks
    exact absurd (h.acked hacks).1 hreopens.open

/-- A run that has acknowledged has read the EOF, and its contents were checked. -/
theorem acknowledged (hstart : Started engine₀)
    (hrun : EngineRun (FromDevice stream checksum) engine₀ trace engine)
    (hacks : Acks (requestedIn trace)) : Acknowledged stream checksum trace := by
  have hsettled : Settled (Watched stream checksum)
      (fun trace => Acks (requestedIn trace) → Acknowledged stream checksum trace) trace engine := by
    refine run_rule ?_ (fun trace w hinv => hinv.formed) ?_ ?_ ?_ ?_ ?_ ?_ hrun
    -- at the start
    · obtain ⟨w, hact, hformed, hblank⟩ := hstart.blank
      rw [settled_active hact]
      refine ⟨hformed, .blank hblank rfl rfl, nofun, finalizes_nil, fun hverified => ?_, ?_⟩
      · rw [hblank.phase] at hverified
        exact nomatch hverified
      · exact fun hacks => absurd hacks not_acks_nil
    -- an accepted event
    · intro trace w event entry w' effects hinv hact hinput hok heffects hstep
      split
      · intro hacks
        exact (hinv.acknowledged hok hact hinput heffects hstep hacks).2
      · rename_i hrunning
        exact hinv.step hok hact hinput heffects hstep hrunning
    -- an event that is ignored
    · intro trace w event entry hinv hact hinput hok hquiet hrejected
      exact hinv.ignored hok hact hinput hquiet hrejected
    -- an event that interrupts the drain
    · intro trace w event entry w' hinv hact hinput _ hquiet hinterrupted
      exact hinv.interrupted hact hinput hquiet hinterrupted
    -- the workflow is cancelled
    · intro trace w entry hinv hact hinput hok heffects hacks
      rw [requestedIn_append, requestedIn_singleton, heffects, acks_append] at hacks
      obtain ⟨hcloses, hchecked⟩ := hinv.acked (hacks.resolve_right (cancel_not_acks w))
      obtain ⟨happended, hcontents⟩ := @contents_of_quiet trace entry
        (by rw [heffects]; exact cancel_appends w)
      have htaken : taken (trace ++ [entry]) = taken trace := by
        rw [taken_concat, takenIn_cancelled hinput, Option.toList_none, List.append_nil]
      refine ⟨?_, by rw [htaken]; exact hinv.sends, by rw [Checked, hcontents]; exact hchecked⟩
      rw [htaken, happended]
      exact hinv.position.is_closed hcloses
    -- another workflow's cancellation
    · intro trace w entry id hinv hact hinput _ _ hquiet
      have htaken : taken (trace ++ [entry]) = taken trace := by
        rw [taken_concat, takenIn_cancelled hinput, Option.toList_none, List.append_nil]
      refine hinv.quiet hquiet ?_ ?_ <;> rw [htaken]
      · exact hinv.sends
      · exact hinv.position
    -- after the end
    · intro trace entry hend hnone _ hquiet hacks
      have heffects : entry.output.effects.map (·.effect) = [] := by rw [hquiet, List.map_nil]
      rw [requestedIn_append, requestedIn_singleton, heffects, List.append_nil] at hacks
      obtain ⟨hclosed, hsends, hchecked⟩ := hend hacks
      obtain ⟨happended, hcontents⟩ := @contents_of_quiet trace entry
        (by rw [heffects, appendsOf_nil])
      have htaken : taken (trace ++ [entry]) = taken trace := by
        rw [taken_concat, takenIn_idle hnone, Option.toList_none, List.append_nil]
      exact ⟨by rw [htaken, happended]; exact hclosed, by rw [htaken]; exact hsends,
        by rw [Checked, hcontents]; exact hchecked⟩
  cases hact : engine.active with
  | none => exact (settled_ended hact).mp hsettled hacks
  | some w =>
    have hinv := (settled_active hact).mp hsettled
    obtain ⟨hcloses, hchecked⟩ := hinv.acked hacks
    exact ⟨hinv.position.is_closed hcloses, hinv.sends, hchecked⟩

/-- A checksum that tells the frames from all their proper beginnings guards a plaintext stream. -/
theorem Acknowledged.plaintext_whole (h : Acknowledged stream checksum trace)
    (hshort : stream.payloads.length < 65536) (hheader : stream.header = none)
    (htells : ∀ k < stream.frames.length,
      checksum (stream.frames.take k).flatten ≠ checksum stream.frames.flatten) :
    Whole stream trace := by
  obtain ⟨accepted, happended⟩ := h.closed.appended h.sends
  rw [Whole, happended.whole_iff hshort]
  have hlength := happended.accepts.length_le
  rw [stream.length_frames] at hlength htells
  by_contra hne
  have hframes : stream.frames.length ≤ 65536 := by
    rw [stream.length_frames]
    omega
  have hcontents : contents trace = (stream.frames.take accepted.length).flatten := by
    rw [contents, happended.batched.contents, RecordingStream.headItems, hheader, List.nil_append,
      List.flatMap_def, happended.accepts.items hframes]
  refine htells accepted.length (by omega) ?_
  rw [← hcontents]
  exact h.checked _ (by rw [RecordingStream.crc, hheader])

/-- An acknowledged stream is whole exactly when its last packet was read before the EOF. -/
theorem Acknowledged.whole_iff (h : Acknowledged stream checksum trace)
    (hshort : stream.payloads.length < 65536) :
    Whole stream trace ↔ stream.payloads = [] ∨
      ∃ value ∈ beforeEof trace, Carries value (stream.payloads.length - 1) := by
  obtain ⟨accepted, happended⟩ := h.closed.appended h.sends
  have hlength := happended.accepts.length_le
  rw [stream.length_frames] at hlength
  rw [Whole, happended.whole_iff hshort]
  constructor
  · intro hall
    rcases Nat.eq_zero_or_pos stream.payloads.length with hzero | hpos
    · exact .inl (List.length_eq_zero_iff.mp hzero)
    · refine .inr ?_
      rw [← hall]
      exact happended.carried (List.length_pos_iff.mp (by omega))
  · rintro (hnil | ⟨value, hmem, hcarries⟩)
    · rw [hnil] at hlength ⊢
      exact Nat.le_zero.mp hlength
    · have hreached := happended.reached value hmem _ hcarries
      omega

end Runs

/-- An acknowledged recording is whole exactly when its last packet was read before the EOF; a
plaintext one also when its checksum tells it from what would be missing its end. -/
theorem acknowledged_recording_whole_iff (stream : RecordingStream) (checksum : List UInt8 → Nat)
    (hshort : stream.payloads.length < 65536)
    {engine₀ engine : WorkflowEngine RecordingTransferWorkflow}
    {trace : List (EngineEntry RecordingTransferWorkflow)} (hstart : Started engine₀)
    (hrun : EngineRun (FromDevice stream checksum) engine₀ trace engine)
    (hacks : Acks (requestedIn trace)) :
    (Whole stream trace ↔ stream.payloads = [] ∨
      ∃ value ∈ beforeEof trace, Carries value (stream.payloads.length - 1)) ∧
    (stream.header = none →
      (∀ k < stream.frames.length,
        checksum (stream.frames.take k).flatten ≠ checksum stream.frames.flatten) →
      Whole stream trace) := by
  have hacknowledged := acknowledged hstart hrun hacks
  exact ⟨hacknowledged.whole_iff hshort, hacknowledged.plaintext_whole hshort⟩

/-! ## A recording without its last packet -/

section Sample

variable {stream : RecordingStream} {checksum : List UInt8 → Nat}
  {trace : List (EngineEntry RecordingTransferWorkflow)}
  {engine : WorkflowEngine RecordingTransferWorkflow} {event : HostEvent} {value : List UInt8}

theorem fromDevice_notification (hsends : stream.Sends checksum value) :
    FromDevice stream checksum trace engine (.host (notifyEvent value)) where
  sends _ _ _ _ heq htaken := by
    obtain rfl := Event.host.inj heq
    obtain rfl := taken_notifyEvent htaken
    exact hsends
  fresh _ _ _ _ heq hkind := by
    obtain rfl := Event.host.inj heq
    exact nomatch hkind
  finalizes _ _ _ _ heq hkind := by
    obtain rfl := Event.host.inj heq
    exact nomatch hkind

theorem fromDevice_callback
    (hvalue : ∀ value, event.kind ≠ .ble (.notification CHAR_RECORDING_TRANSFER value))
    (hfresh : ∀ checkpoint, event.kind ≠ .checkpointLoaded (some checkpoint))
    (hfinalized : ∀ durableUnits, event.kind ≠ .recordingSinkFinalized durableUnits) :
    FromDevice stream checksum trace engine (.host event) where
  sends _ _ value _ heq htaken := by
    obtain rfl := Event.host.inj heq
    exact absurd htaken.1 (hvalue value)
  fresh w _ loaded _ heq hkind := by
    obtain rfl := Event.host.inj heq
    cases loaded with
    | none => rfl
    | some checkpoint => exact absurd hkind (hfresh checkpoint)
  finalizes _ _ durableUnits _ heq hkind := by
    obtain rfl := Event.host.inj heq
    exact absurd hkind (hfinalized durableUnits)

/-- A finalization without a checksum may always succeed. -/
theorem fromDevice_finalized {id : RequestId} {durableUnits : Nat} {sinkId : RecordingSinkId}
    (hmem : ∃ request ∈ emitted trace, request.requestId = id ∧
      request.effect = .recordingSink (.finalize sinkId none)) :
    FromDevice stream checksum trace engine (.host ⟨id, .recordingSinkFinalized durableUnits⟩) where
  sends _ _ _ _ heq htaken := by
    obtain rfl := Event.host.inj heq
    exact nomatch htaken.1
  fresh _ _ _ _ heq hkind := by
    obtain rfl := Event.host.inj heq
    exact nomatch hkind
  finalizes _ _ _ _ heq _ _ := by
    obtain rfl := Event.host.inj heq
    obtain ⟨request, hrequest, hid, heffect⟩ := hmem
    exact ⟨request, hrequest, hid, sinkId, none, heffect, nofun⟩

/-- An encrypted recording of two empty chunks. -/
def sealedStream : RecordingStream where
  header := some (.replicate 32 1, .replicate 4 2)
  payloads := [.replicate 16 5, .replicate 16 6]
  fits := by decide

def sealedStart : List UInt8 :=
  e2eStartPacket ⟨.replicate 32 1, by decide⟩ ⟨.replicate 4 2, by decide⟩

def sealedChunk : List UInt8 :=
  encryptedDataPacket 0 (.replicate 16 5)

def sealedEof : List UInt8 :=
  encryptedEofPacket 2

theorem sealedStream_sends : sealedStream.Sends checksum sealedStart ∧
    sealedStream.Sends checksum sealedChunk ∧ sealedStream.Sends checksum sealedEof := by
  rw [RecordingStream.Sends, RecordingStream.Sends, RecordingStream.Sends, sealedStart, sealedChunk,
    sealedEof, parse_e2eStartPacket, parse_encryptedDataPacket, parse_encryptedEofPacket]
  exact ⟨rfl, ⟨rfl, 0, rfl, rfl⟩, rfl, rfl⟩

/-- The recording without its second chunk. -/
def truncatedEvents : List Event :=
  [.host ⟨2, .checkpointLoaded none⟩, .host ⟨3, .recordingSinkTruncated⟩,
    .host ⟨4, .ble (.subscribed CHAR_RECORDING_TRANSFER)⟩, .host ⟨5, .ble .writeCompleted⟩,
    .host (notifyEvent sealedStart), .host ⟨6, .recordingSinkAppendCompleted 36⟩,
    .host (notifyEvent sealedChunk), .host ⟨9, .recordingSinkAppendCompleted 54⟩,
    .host (notifyEvent sealedEof)]

/-- The callbacks that let the workflow confirm it. -/
def confirmedEvents : List Event :=
  [.host ⟨12, .recordingSinkFinalized 54⟩, .host ⟨0, .timerFired SHA256_GRACE_TIMER_ID⟩,
    .host ⟨14, .ble .writeCompleted⟩]

def truncatedTrace : List (EngineEntry RecordingTransferWorkflow) :=
  (Machine.exec WorkflowEngine.dispatch [] sampleEngine (truncatedEvents ++ confirmedEvents)).1

theorem fromDevice_truncated {input : Event} (hmem : input ∈ truncatedEvents) :
    FromDevice sealedStream checksum trace engine input := by
  simp only [truncatedEvents, List.mem_cons, List.not_mem_nil, or_false] at hmem
  rcases hmem with rfl | rfl | rfl | rfl | rfl | rfl | rfl | rfl | rfl
  · exact fromDevice_callback (fun _ => nofun) (fun _ => nofun) (fun _ => nofun)
  · exact fromDevice_callback (fun _ => nofun) (fun _ => nofun) (fun _ => nofun)
  · exact fromDevice_callback (fun _ => nofun) (fun _ => nofun) (fun _ => nofun)
  · exact fromDevice_callback (fun _ => nofun) (fun _ => nofun) (fun _ => nofun)
  · exact fromDevice_notification sealedStream_sends.1
  · exact fromDevice_callback (fun _ => nofun) (fun _ => nofun) (fun _ => nofun)
  · exact fromDevice_notification sealedStream_sends.2.1
  · exact fromDevice_callback (fun _ => nofun) (fun _ => nofun) (fun _ => nofun)
  · exact fromDevice_notification sealedStream_sends.2.2

theorem truncated_run : ∃ engine,
    EngineRun (FromDevice sealedStream checksum) sampleEngine truncatedTrace engine := by
  refine ⟨_, Machine.Run.exec (Machine.Allowed.append ?_ ?_)⟩
  · exact Machine.allowed_of_forall (fun _ hmem _ _ => fromDevice_truncated hmem) _ _
  · refine ⟨@fromDevice_finalized _ _ _ _ _ _ ⟨"sink-1"⟩ (by decide), ?_⟩
    exact ⟨fromDevice_callback (fun _ => nofun) (fun _ => nofun) (fun _ => nofun),
      fromDevice_callback (fun _ => nofun) (fun _ => nofun) (fun _ => nofun), trivial⟩

/-- The recording is acknowledged and confirmed, and its second chunk was never appended. -/
theorem truncated_recording_confirmed :
    (∃ engine, EngineRun (FromDevice sealedStream fun _ => 0) sampleEngine truncatedTrace engine) ∧
      Acks (requestedIn truncatedTrace) ∧
      commandEffect (.confirm ⟨.replicate 16 1⟩) ∈ requestedIn truncatedTrace ∧
      ¬Whole sealedStream truncatedTrace := by
  refine ⟨truncated_run, ⟨2, by decide⟩, by decide, fun hwhole => ?_⟩
  have hlength := congrArg List.length hwhole.contents
  exact absurd hlength (by decide)

theorem acknowledged_recording_whole_iff_sample :
    Whole sealedStream truncatedTrace ↔ sealedStream.payloads = [] ∨
      ∃ value ∈ beforeEof truncatedTrace, Carries value (sealedStream.payloads.length - 1) := by
  obtain ⟨engine, hrun⟩ := @truncated_run fun _ => 0
  exact (acknowledged_recording_whole_iff sealedStream (fun _ => 0) (by decide)
    started_sampleEngine hrun ⟨2, by decide⟩).1

end Sample

end RecordingTransferWorkflow

end BotaSdk
