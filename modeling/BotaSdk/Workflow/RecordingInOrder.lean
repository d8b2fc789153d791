import BotaSdk.Workflow.RecordingStream

/-!
# Streams delivered in order

Delivered in order, a stream is appended as long as its numbers do not wrap: after number 65535 the
workflow takes every packet for a duplicate.
-/

namespace BotaSdk

open Protocol RecordingTransfer Delivery Numbered

namespace RecordingTransferWorkflow

namespace RecordingStream

variable (stream : RecordingStream)

def startPackets : List TransferPacket :=
  match stream.header with
  | none => []
  | some (ephemeralPublicKey, salt) => [.e2eStart ephemeralPublicKey salt]

/-- The packets of the stream, numbered consecutively from `first`. -/
def packets (first : Nat) : List TransferPacket :=
  stream.startPackets ++
    stream.payloads.mapIdx fun i payload => stream.numberedPacket ((first + i) % 65536) payload

/-- The header, unless the sink has it from an earlier run. -/
def dueHeader (resumed : Bool) : List UInt8 :=
  if resumed then [] else stream.headerBytes

/-- What the sink is to receive. -/
def due (resumed : Bool) : List UInt8 :=
  stream.dueHeader resumed ++ stream.frames.flatten

end RecordingStream

/-- The values are the stream's packets in order, each once or several times in a row. -/
def Delivers (packets : List TransferPacket) (values : List (List UInt8)) : Prop :=
  ∃ delivered, Stutters packets delivered ∧
    values.map parseTransferPacket = delivered.map Except.ok

/-- So far the values are the stream's first packets. -/
def InOrder (stream : RecordingStream) (first : Nat) (values : List (List UInt8)) : Prop :=
  ∃ sent, sent <+: stream.packets first ∧ Delivers sent values

/-- The reader of a run whose stream starts with number `first`. -/
def startReader (first : Nat) (resumed : Bool) : Reader where
  last := lastIndex first
  encrypted := none
  header := false
  resumed := resumed

/-- The checkpoint makes the run start at number `first`, the stream arrives in order and fits the
queue, every callback succeeds and nobody cancels. -/
structure DeliversInOrder (stream : RecordingStream) (first : Nat) (resumed : Bool)
    (trace : List (EngineEntry RecordingTransferWorkflow))
    (engine : WorkflowEngine RecordingTransferWorkflow) (event : Event) : Prop where
  uncancelled : ∀ w, engine.active = some w → event ≠ .cancelled w.cancellationId
  succeeds : ∀ w hostEvent, engine.active = some w → event = .host hostEvent → ¬Fails w hostEvent
  loads : ∀ w hostEvent, engine.active = some w → event = .host hostEvent →
    Loads (startReader first resumed) w hostEvent
  delivers : ∀ w hostEvent value, engine.active = some w → event = .host hostEvent →
    Taken w hostEvent value → InOrder stream first (taken trace ++ [value])
  room : ∀ w hostEvent value, engine.active = some w → event = .host hostEvent →
    Taken w hostEvent value → w.phase = .starting ∨ w.phase = .appending → Room w value

/-! ## Reading the stream -/

section Reading

variable {stream : RecordingStream} {first : Nat} {resumed : Bool} {r : Reader} {items : List Item}
  {k : Nat} {payload : List UInt8}

/-- What the reader holds once the header and `k` numbered packets were delivered. -/
structure Progress (stream : RecordingStream) (first : Nat) (resumed : Bool) (k : Nat) (r : Reader)
    (items : List Item) : Prop where
  ready : Ready stream r
  last : r.last = lastIndex (min (first + k) 65536)
  contents : items.flatMap Prod.snd =
    stream.dueHeader resumed ++ (stream.frames.take (min k (65536 - first))).flatten

theorem lastIndex_any {n number : Nat} (h : number < n) : (lastIndex n).any (number ≤ ·) := by
  cases n with
  | zero => exact absurd h (Nat.not_lt_zero number)
  | succ n =>
    rw [lastIndex, Option.any_some]
    exact decide_eq_true (Nat.le_of_lt_succ h)

theorem take_frames (h : stream.payloads[k]? = some payload) :
    (stream.frames.take (k + 1)).flatten = (stream.frames.take k).flatten ++ stream.frame payload := by
  have hframe : stream.frames[k]? = some (stream.frame payload) := by
    rw [RecordingStream.frames, List.getElem?_map, h, Option.map_some]
  rw [List.take_add_one, hframe, List.flatten_append, Option.toList_some, List.flatten_singleton]

/-- The next numbered packet is appended, or dropped once the numbers have wrapped. -/
theorem Progress.next (h : Progress stream first resumed k r items) (hfirst : first ≤ 65536)
    (hpayload : stream.payloads[k]? = some payload) :
    ∃ r' more, r.read (stream.numberedPacket ((first + k) % 65536) payload) = some (r', more) ∧
      Progress stream first resumed (k + 1) r' (items ++ more) := by
  rcases Nat.lt_or_ge (first + k) 65536 with hlt | hge
  · have hmin : min (first + k) 65536 = first + k := Nat.min_eq_left (Nat.le_of_lt hlt)
    have hlast : r.last = lastIndex (first + k) := by rw [h.last, hmin]
    have hnew : ¬r.last.any (first + k ≤ ·) := by
      intro hany
      rw [hlast] at hany
      exact absurd (lt_of_lastIndex_any hany) (Nat.lt_irrefl _)
    have hnext : first + k = r.next := by
      rw [Reader.next, hlast]
      cases hposition : first + k with
      | zero => rfl
      | succ n =>
        rw [lastIndex, Option.elim_some, Nat.mod_eq_of_lt (by omega)]
    rw [Nat.mod_eq_of_lt hlt]
    obtain ⟨r', hread, hlast', hready', -⟩ :=
      read_next h.ready (List.mem_of_getElem? hpayload) hnew hnext
    refine ⟨r', _, hread, hready', ?_, ?_⟩
    · rw [hlast', Nat.min_eq_left (show first + (k + 1) ≤ 65536 by omega)]
      rfl
    · rw [List.flatMap_append, h.contents, List.flatMap_singleton,
        Nat.min_eq_left (show k ≤ 65536 - first by omega),
        Nat.min_eq_left (show k + 1 ≤ 65536 - first by omega), take_frames hpayload,
        List.append_assoc]
  · have hlast : r.last = lastIndex 65536 := by rw [h.last, Nat.min_eq_right hge]
    have hdup : r.last.any ((first + k) % 65536 ≤ ·) := by
      rw [hlast]
      exact lastIndex_any (Nat.mod_lt _ (by decide))
    refine ⟨r, [], read_duplicate h.ready hdup, h.ready, ?_, ?_⟩
    · rw [hlast, Nat.min_eq_right (show 65536 ≤ first + (k + 1) by omega)]
    · rw [List.append_nil, h.contents, Nat.min_eq_right (show 65536 - first ≤ k by omega),
        Nat.min_eq_right (show 65536 - first ≤ k + 1 by omega)]

/-- The packet delivered last is a duplicate. -/
theorem Progress.again (h : Progress stream first resumed (k + 1) r items) :
    r.read (stream.numberedPacket ((first + k) % 65536) payload) = some (r, []) := by
  refine read_duplicate h.ready ?_
  rw [h.last]
  refine lastIndex_any ?_
  have hmod := Nat.mod_lt (first + k) (show 65536 > 0 by decide)
  have hle := Nat.mod_le (first + k) 65536
  omega

/-- The reader after the first `i` packets. -/
def ReadTo (stream : RecordingStream) (first : Nat) (resumed : Bool) (i : Nat) (r : Reader)
    (items : List Item) : Prop :=
  (i < stream.startPackets.length ∧ r = startReader first resumed ∧ items = []) ∨
  ∃ k, i = stream.startPackets.length + k ∧ Progress stream first resumed k r items

theorem packets_getElem? {i : Nat} {packet : TransferPacket}
    (h : (stream.packets first)[i]? = some packet) :
    (i = 0 ∧ ∃ ephemeralPublicKey salt, stream.header = some (ephemeralPublicKey, salt) ∧
      packet = .e2eStart ephemeralPublicKey salt) ∨
    ∃ k payload, i = stream.startPackets.length + k ∧ stream.payloads[k]? = some payload ∧
      packet = stream.numberedPacket ((first + k) % 65536) payload := by
  rw [RecordingStream.packets] at h
  rcases Nat.lt_or_ge i stream.startPackets.length with hlt | hge
  · rw [List.getElem?_append_left hlt] at h
    rw [RecordingStream.startPackets] at h hlt
    cases hheader : stream.header with
    | none =>
      rw [hheader] at hlt
      exact absurd hlt (Nat.not_lt_zero i)
    | some start =>
      rw [hheader] at h hlt
      obtain rfl : i = 0 := Nat.lt_one_iff.mp hlt
      exact .inl ⟨rfl, _, _, rfl, (Option.some.inj h).symm⟩
  · rw [List.getElem?_append_right hge, List.getElem?_mapIdx] at h
    obtain ⟨payload, hpayload, rfl⟩ := Option.map_eq_some_iff.mp h
    exact .inr ⟨i - stream.startPackets.length, payload, by omega, hpayload, rfl⟩

theorem startPackets_length {start : List UInt8 × List UInt8} (h : stream.header = some start) :
    stream.startPackets.length = 1 := by
  rw [RecordingStream.startPackets, h]
  rfl

theorem readTo_zero (hfirst : first ≤ 65536) :
    ReadTo stream first resumed 0 (startReader first resumed) [] := by
  cases hheader : stream.header with
  | none =>
    refine .inr ⟨0, ?_, ?_, ?_, ?_⟩
    · rw [RecordingStream.startPackets, hheader]
      rfl
    · rw [Ready, hheader]
      rintro ⟨⟩
    · rw [Nat.add_zero, Nat.min_eq_left hfirst]
      rfl
    · rw [Nat.zero_min, List.take_zero, RecordingStream.dueHeader, RecordingStream.headerBytes,
        hheader]
      cases resumed <;> rfl
  | some start =>
    refine .inl ⟨?_, rfl, rfl⟩
    rw [startPackets_length hheader]
    exact Nat.one_pos

/-- Every packet of the stream is read in its turn. -/
theorem ReadTo.next {i : Nat} {packet : TransferPacket} (h : ReadTo stream first resumed i r items)
    (hfirst : first ≤ 65536) (hpacket : (stream.packets first)[i]? = some packet) :
    ∃ r' more, r.read packet = some (r', more) ∧
      ReadTo stream first resumed (i + 1) r' (items ++ more) := by
  rcases packets_getElem? hpacket with
    ⟨rfl, ephemeralPublicKey, salt, hheader, rfl⟩ | ⟨k, payload, rfl, hpayload, rfl⟩
  · have hlength := startPackets_length hheader
    rcases h with ⟨-, rfl, rfl⟩ | ⟨k, hk, -⟩
    · refine ⟨{ startReader first resumed with encrypted := some true, header := true },
        if resumed then [] else [(0, ephemeralPublicKey ++ salt)], rfl, .inr ⟨0, ?_, ?_, ?_, ?_⟩⟩
      · rw [hlength]
      · rw [Ready, hheader]
        exact ⟨rfl, rfl⟩
      · rw [Nat.add_zero, Nat.min_eq_left hfirst]
        rfl
      · rw [Nat.zero_min, List.take_zero, RecordingStream.dueHeader, RecordingStream.headerBytes,
          hheader]
        cases resumed <;> simp
    · omega
  · rcases h with ⟨hlt, -⟩ | ⟨k', hk, hprogress⟩
    · omega
    · obtain rfl : k' = k := by omega
      obtain ⟨r', more, hread, hnext⟩ := hprogress.next hfirst hpayload
      exact ⟨r', more, hread, .inr ⟨k' + 1, by omega, hnext⟩⟩

theorem ReadTo.again {i : Nat} {packet : TransferPacket}
    (h : ReadTo stream first resumed (i + 1) r items)
    (hpacket : (stream.packets first)[i]? = some packet) : r.read packet = some (r, []) := by
  rcases packets_getElem? hpacket with
    ⟨rfl, ephemeralPublicKey, salt, hheader, rfl⟩ | ⟨k, payload, rfl, hpayload, rfl⟩
  · have hlength := startPackets_length hheader
    rcases h with ⟨hlt, -⟩ | ⟨k, hk, hprogress⟩
    · omega
    · have hready := hprogress.ready
      rw [Ready, hheader] at hready
      have hplain : ¬r.encrypted = some false := by
        rw [hready.1]
        decide
      rw [Reader.read, if_neg hplain, if_pos hready.2, ← hready.1]
  · rcases h with ⟨hlt, -⟩ | ⟨k', hk, hprogress⟩
    · omega
    · obtain rfl : k' = k + 1 := by omega
      exact hprogress.again

theorem concat_prefix_getElem? {sent all : List TransferPacket} {packet : TransferPacket}
    (h : sent ++ [packet] <+: all) : all[sent.length]? = some packet := by
  obtain ⟨rest, rfl⟩ := h
  rw [List.append_assoc, List.getElem?_append_right (Nat.le_refl _), Nat.sub_self]
  rfl

theorem parsed_concat {values : List (List UInt8)} {delivered : List TransferPacket}
    {packet : TransferPacket}
    (h : values.map parseTransferPacket = (delivered ++ [packet]).map Except.ok) :
    ∃ front value, values = front ++ [value] ∧
      front.map parseTransferPacket = delivered.map Except.ok ∧
      parseTransferPacket value = .ok packet := by
  obtain ⟨front, back, rfl, hfront, hback⟩ := List.map_eq_append_iff.mp (h.trans List.map_append)
  obtain ⟨value, rfl, hparse⟩ := List.map_eq_singleton_iff.mp hback
  exact ⟨front, value, rfl, hfront, hparse⟩

/-- The values delivered so far are read, up to the packet sent last. -/
theorem reads_of_delivers (hfirst : first ≤ 65536) {sent : List TransferPacket}
    {values : List (List UInt8)} (hsent : sent <+: stream.packets first) (h : Delivers sent values) :
    ∃ r items, Reads (startReader first resumed) values r items ∧
      ReadTo stream first resumed sent.length r items := by
  obtain ⟨delivered, hstutters, hvalues⟩ := h
  induction hstutters generalizing values with
  | nil =>
    obtain rfl : values = [] := List.map_eq_nil_iff.mp hvalues
    exact ⟨_, _, .nil, readTo_zero hfirst⟩
  | next _ ih =>
    obtain ⟨front, value, rfl, hfront, hparse⟩ := parsed_concat hvalues
    obtain ⟨r, items, hreads, hto⟩ := ih ((List.prefix_append _ _).trans hsent) hfront
    obtain ⟨r', more, hread, hnext⟩ := hto.next hfirst (concat_prefix_getElem? hsent)
    rw [List.length_append, List.length_singleton]
    exact ⟨r', items ++ more, hreads.snoc hparse hread, hnext⟩
  | again _ ih =>
    obtain ⟨front, value, rfl, hfront, hparse⟩ := parsed_concat hvalues
    obtain ⟨r, items, hreads, hto⟩ := ih hsent hfront
    rw [List.length_append, List.length_singleton] at hto ⊢
    have hsnoc := hreads.snoc hparse (hto.again (concat_prefix_getElem? hsent))
    rw [List.append_nil] at hsnoc
    exact ⟨r, items, hsnoc, hto⟩

end Reading

/-! ## A run that reads its stream never fails -/

section Running

variable {stream : RecordingStream} {first : Nat} {resumed : Bool} {r₀ : Reader}
  {w w' : RecordingTransferWorkflow} {value : List UInt8} {event : HostEvent}
  {effects : List Effect} {consumed taken values : List (List UInt8)} {appends : List Item}

theorem InOrder.readable (h : InOrder stream first values) (hfirst : first ≤ 65536) :
    Readable (startReader first resumed) values := by
  obtain ⟨sent, hsent, hdelivers⟩ := h
  obtain ⟨r, items, hreads, -⟩ := reads_of_delivers hfirst hsent hdelivers
  exact ⟨r, items, hreads⟩

/-- A value that can be read does not end the transfer. -/
theorem NotificationStep.running (h : NotificationStep w value w' effects)
    (hphase : w.phase = .transferring) (hreading : Reading r₀ consumed appends w)
    {back : List (List UInt8)} (hreadable : Readable r₀ (consumed ++ value :: back)) :
    w'.phase ≠ .failed := by
  intro hfailed
  obtain ⟨r, items, hreads, -, hmatches⟩ := hreading
  obtain ⟨packet, next, hparse, hread⟩ := hreadable.read hreads
  cases h with
  | packet _ hparse' hstep => exact hstep.running (by rw [hphase]; decide) hfailed
  | failed hfails =>
    cases hfails with
    | overflow hwaits => rcases hwaits with h' | h' <;> rw [hphase] at h' <;> exact nomatch h'
    | undecodable _ herror =>
      rw [hparse] at herror
      exact nomatch herror
    | packet _ hparse' hfails =>
      obtain rfl := Except.ok.inj (hparse.symm.trans hparse')
      rw [hfails.unread hmatches hphase] at hread
      exact nomatch hread
  | queued => rw [hphase] at hfailed; exact nomatch hfailed
  | repeatedEof => rw [hphase] at hfailed; exact nomatch hfailed
  | lateSha256 => rw [hphase] at hfailed; exact nomatch hfailed
  | awaitedSha256 => exact nomatch hfailed

theorem Drains.running (h : Drains w effects w') (hphase : w.phase = .transferring)
    (hreading : Reading r₀ consumed appends w)
    (hreadable : Readable r₀ (consumed ++ w.pendingPackets)) : w'.phase ≠ .failed := by
  induction h generalizing consumed appends with
  | done => rw [hphase]; decide
  | @turn w w₁ w' value rest _ effects' _ hqueue hstep hturns ih =>
    have hpop : Reading r₀ consumed appends (pop w) := by
      obtain ⟨r, items, hreads, hbatched, hmatches⟩ := hreading
      exact ⟨r, items, hreads, hbatched, hmatches.pop⟩
    have hrest : (pop w).pendingPackets = rest := by
      rw [pop, hqueue]
      rfl
    rw [hqueue] at hreadable
    have hnext := hstep.reads hphase hpop
    rw [hrest] at hnext
    rcases hnext with hfailed | ⟨-, hclosed⟩ | ⟨hgoes, consumed', htaken, hreading'⟩
    · exact absurd hfailed (hstep.running hphase hpop hreadable)
    · exact absurd hreadable hclosed.not_readable
    · rcases hgoes with htransferring | happending
      · exact ih htransferring hreading' (htaken ▸ hreadable)
      · cases hturns with
        | done => rw [happending]; decide
        | turn hdrains =>
          rw [happending] at hdrains
          cases hdrains

/-- While its values can be read, a transition before the EOF leaves the transfer running. -/
theorem Transition.running (h : Transition w event w' effects)
    (hposition : Position r₀ taken appends w) (hsucceeds : ¬Fails w event)
    (hroom : ∀ value, Taken w event value → w.phase = .starting ∨ w.phase = .appending →
      Room w value)
    (hreadable : Readable r₀ (taken ++ (takenBy w event).toList)) :
    ¬(w'.phase = .completed ∨ w'.phase = .failed) := by
  cases hposition with
  | closed _ hclosed => exact absurd hreadable.of_append hclosed.not_readable
  | blank hblank =>
    have hphase := hblank.phase
    cases h with
    | failed hfails => exact absurd hfails hsucceeds
    | checkpointSaved => rw [show ({ w with checkpointRequestIds := _ } :
        RecordingTransferWorkflow).phase = .loadingCheckpoint from hphase]; decide
    | checkpointLoaded => exact nofun
    | notified h' => rw [hphase] at h'; exact nomatch h'
    | reopened hreopens =>
      cases hreopens with
      | started h' | appended h' => rw [hphase] at h'; exact nomatch h'
    | completed h' => rcases h' with ⟨h', -⟩ | h' <;> rw [hphase] at h' <;> exact nomatch h'
    | sinkTruncated h' | subscribed h' | finalizedWithSha h' | finalized h' | graceElapsed h'
    | graceEnded h' | acknowledged h' => rw [hphase] at h'; exact nomatch h'
  | receiving hphase hreceives hqueue =>
    have hnot : ∀ phase : Phase, opens phase = false → w.phase ≠ phase := by
      intro phase hcloses hsame
      rw [hsame, hcloses] at hphase
      exact nomatch hphase
    have hrunning : ¬(w.phase = .completed ∨ w.phase = .failed) := by
      rintro (h' | h')
      · exact hnot _ rfl h'
      · exact hnot _ rfl h'
    cases h with
    | failed hfails => exact absurd hfails hsucceeds
    | checkpointSaved => exact hrunning
    | sinkTruncated => exact nofun
    | subscribed => exact nofun
    | @notified id value w' effects hreceive hid hstep =>
      have htaken : Taken w ⟨id, .ble (.notification CHAR_RECORDING_TRANSFER value)⟩ value :=
        ⟨rfl, hreceive, hid⟩
      rw [takenBy_eq_some.mpr htaken, Option.toList_some] at hreadable
      rcases opens_cases hphase hreceive with hwaits | htransferring
      · cases hstep with
        | queued => exact hrunning
        | failed hfails =>
          cases hfails with
          | overflow hwaits hfull => exact absurd (hroom value htaken hwaits) hfull
          | undecodable hdrains =>
            rcases hwaits with h' | h' <;> rw [h'] at hdrains <;> exact nomatch hdrains
          | packet h' => rcases hwaits with hw | hw <;> rw [hw] at h' <;> exact nomatch h'
        | packet h' => rcases hwaits with hw | hw <;> rw [hw] at h' <;> exact nomatch h'
        | lateSha256 => exact hrunning
        | repeatedEof => exact hrunning
        | awaitedSha256 => exact nofun
      · obtain ⟨consumed, rfl, hreading⟩ := hreceives
        have hnext := hstep.reads htransferring hreading
        rw [hqueue htransferring, List.append_nil] at hreadable
        have hfailed := hstep.running htransferring hreading hreadable
        rcases hnext with h' | ⟨h', -⟩ | ⟨h' | h', -⟩
        · exact absurd h' hfailed
        all_goals rw [h']; decide
    | reopened hreopens hturns =>
      obtain ⟨hnone, -, htransferring, consumed, rfl, hreading⟩ := hreopens.reading hreceives
      rw [hnone, Option.toList_none, List.append_nil] at hreadable
      have hfailed := hturns.running htransferring hreading hreadable
      rcases hturns.reads htransferring hreading with h' | ⟨h', -⟩ | ⟨h' | h', -⟩
      · exact absurd h' hfailed
      all_goals rw [h']; decide
    | completed h' => rcases h' with ⟨h', -⟩ | h' <;> exact absurd h' (hnot _ rfl)
    | checkpointLoaded h' | finalizedWithSha h' | finalized h' | graceElapsed h' | graceEnded h'
    | acknowledged h' => exact absurd h' (hnot _ rfl)

/-- The packets of a stream fit their frames. -/
theorem InOrder.not_overlong (h : InOrder stream first values) : ¬Overlong values := by
  rintro ⟨value, hmem, packet, hparse, sequence, chunk, rfl, hlong⟩
  obtain ⟨sent, hsent, delivered, hstutters, hvalues⟩ := h
  have hdelivered : TransferPacket.encryptedData sequence chunk ∈ delivered := by
    have hok : Except.ok (TransferPacket.encryptedData sequence chunk) ∈
        values.map parseTransferPacket := List.mem_map.mpr ⟨value, hmem, hparse⟩
    rw [hvalues] at hok
    obtain ⟨packet, hpacket, heq⟩ := List.mem_map.mp hok
    obtain rfl := Except.ok.inj heq
    exact hpacket
  have hsentMem := hsent.subset (hstutters.mem hdelivered)
  obtain ⟨i, hi⟩ := List.mem_iff_getElem?.mp hsentMem
  rcases packets_getElem? hi with ⟨-, _, _, -, heq⟩ | ⟨k, payload, -, hpayload, heq⟩
  · cases heq
  · rw [RecordingStream.numberedPacket] at heq
    cases hheader : stream.header with
    | none =>
      rw [hheader] at heq
      cases heq
    | some start =>
      rw [hheader] at heq
      obtain ⟨rfl, rfl⟩ := TransferPacket.encryptedData.inj heq
      have hfits := stream.fits (by rw [hheader]; rfl) _ (List.mem_of_getElem? hpayload)
      omega

end Running

/-! ## Runs -/

section Runs

variable {stream : RecordingStream} {first : Nat} {resumed : Bool}
  {engine₀ engine : WorkflowEngine RecordingTransferWorkflow}
  {trace : List (EngineEntry RecordingTransferWorkflow)}
  {entry : EngineEntry RecordingTransferWorkflow} {w w' : RecordingTransferWorkflow}
  {event : HostEvent} {effects : List Effect}

theorem Started.blank (h : Started engine₀) : ∃ w, engine₀.active = some w ∧ Formed w ∧ Blank w := by
  obtain ⟨_, _, _, _, _, _, _, hact⟩ := h.active
  exact ⟨_, hact, .start rfl, rfl, rfl, rfl, rfl, rfl, rfl, rfl⟩

theorem inOrder_nil : InOrder stream first [] :=
  ⟨[], List.nil_prefix, [], .nil, rfl⟩

/-- What a run that delivers its stream in order keeps. -/
structure Receiving (stream : RecordingStream) (first : Nat) (resumed : Bool)
    (trace : List (EngineEntry RecordingTransferWorkflow)) (w : RecordingTransferWorkflow) :
    Prop where
  formed : Formed w
  position : Position (startReader first resumed) (taken trace) (appended trace) w
  inOrder : InOrder stream first (taken trace)

/-- An event that takes no value, appends nothing and leaves the state alone. -/
theorem Receiving.quiet (h : Receiving stream first resumed trace w) (hnone : takenIn entry = none)
    (hquiet : entry.output.effects = []) : Receiving stream first resumed (trace ++ [entry]) w := by
  have htaken : taken (trace ++ [entry]) = taken trace := by
    rw [taken_concat, hnone, Option.toList_none, List.append_nil]
  have happended : appended (trace ++ [entry]) = appended trace := by
    rw [appended_concat, hquiet, List.map_nil, appendsOf_nil, List.append_nil]
  exact ⟨h.formed, by rw [htaken, happended]; exact h.position, by rw [htaken]; exact h.inOrder⟩

/-- The values an event adds keep the delivery in order. -/
theorem DeliversInOrder.inOrder
    (hok : DeliversInOrder stream first resumed trace entry.pre entry.input)
    (h : InOrder stream first (taken trace)) (hact : entry.pre.active = some w)
    (hinput : entry.input = .host event) :
    InOrder stream first (taken trace ++ (takenBy w event).toList) := by
  cases htakes : takenBy w event with
  | none =>
    rw [Option.toList_none, List.append_nil]
    exact h
  | some value => exact hok.delivers w event value hact hinput (takenBy_eq_some.mp htakes)

theorem Receiving.step (h : Receiving stream first resumed trace w) (hfirst : first ≤ 65536)
    (hact : entry.pre.active = some w) (hinput : entry.input = .host event)
    (hok : DeliversInOrder stream first resumed trace entry.pre entry.input)
    (heffects : entry.output.effects.map (·.effect) = effects)
    (hstep : Transition w event w' effects) :
    ¬(w'.phase = .completed ∨ w'.phase = .failed) ∧
      Receiving stream first resumed (trace ++ [entry]) w' := by
  have hinOrder := hok.inOrder h.inOrder hact hinput
  have hrunning := hstep.running h.position (hok.succeeds w event hact hinput)
    (fun value => hok.room w event value hact hinput) (hinOrder.readable hfirst)
  refine ⟨hrunning, hstep.formed h.formed hrunning, ?_, ?_⟩
  · rw [taken_concat, takenIn_host hact hinput, appended_concat, heffects]
    exact h.position.step hstep (hok.loads w event hact hinput) hrunning
  · rw [taken_concat, takenIn_host hact hinput]
    exact hinOrder

/-- A run that delivers its stream in order is never over and keeps what it received. -/
theorem receiving (hfirst : first ≤ 65536) (hstart : Started engine₀)
    (hrun : EngineRun (DeliversInOrder stream first resumed) engine₀ trace engine) :
    ∃ w, engine.active = some w ∧ Receiving stream first resumed trace w := by
  have hsettled : Settled (Receiving stream first resumed) (fun _ => False) trace engine := by
    refine run_rule ?_ (fun trace w hinv => hinv.formed) ?_ ?_ ?_ ?_ ?_ ?_ hrun
    -- at the start
    · obtain ⟨w, hact, hformed, hblank⟩ := hstart.blank
      rw [settled_active hact]
      exact ⟨hformed, .blank hblank rfl rfl, inOrder_nil⟩
    -- an accepted event
    · intro trace w event entry w' effects hinv hact hinput hok heffects hstep
      obtain ⟨hrunning, hnext⟩ := hinv.step hfirst hact hinput hok heffects hstep
      rw [if_neg hrunning]
      exact hnext
    -- an event that is ignored
    · intro trace w event entry hinv hact hinput hok hquiet htaken
      refine hinv.quiet ?_ hquiet
      rw [takenIn_host hact hinput]
      cases htakes : takenBy w event with
      | none => rfl
      | some value =>
        have hinOrder := hok.inOrder hinv.inOrder hact hinput
        rw [htakes, Option.toList_some] at hinOrder
        rcases htaken value (takenBy_eq_some.mp htakes) with hlate | ⟨-, packet, hparse, hover⟩
        · cases hinv.position with
          | blank hblank => rcases hlate with h' | h' <;> rw [hblank.phase] at h' <;> exact nomatch h'
          | receiving hphase =>
            rcases hlate with h' | h' <;> rw [h'] at hphase <;> exact nomatch hphase
          | closed _ hclosed =>
            exact absurd (hinv.inOrder.readable hfirst) hclosed.not_readable
        · exact absurd ⟨value, by simp, packet, hparse, hover⟩ hinOrder.not_overlong
    -- an event that interrupts the drain
    · intro trace w event entry w' hinv hact hinput hok hquiet hinterrupted
      obtain ⟨-, -, hclosed⟩ := hinterrupted.closed hinv.position hinv.inOrder.not_overlong
      exact absurd (hinv.inOrder.readable hfirst) hclosed.not_readable
    -- the workflow is cancelled
    · intro trace w entry hinv hact hinput hok _
      exact absurd hinput (hok.uncancelled w hact)
    -- another workflow's cancellation
    · intro trace w entry id hinv hact hinput _ _ hquiet
      exact hinv.quiet (takenIn_cancelled hinput) hquiet
    -- after the end
    · intro trace entry hend
      exact hend.elim
  cases hact : engine.active with
  | none => exact ((settled_ended hact).mp hsettled).elim
  | some w => exact ⟨w, rfl, (settled_active hact).mp hsettled⟩

theorem length_packets : (stream.packets first).length =
    stream.startPackets.length + stream.frames.length := by
  rw [RecordingStream.packets, List.length_append, List.length_mapIdx, stream.length_frames]

/-- Once the stream was delivered and the queue is empty, the sink has the frames up to the wrap. -/
theorem Receiving.contents (h : Receiving stream first resumed trace w) (hfirst : first ≤ 65536)
    (hdelivers : Delivers (stream.packets first) (taken trace)) (hempty : w.pendingPackets = []) :
    (appended trace).flatMap Prod.snd =
      stream.dueHeader resumed ++ (stream.frames.take (65536 - first)).flatten := by
  obtain ⟨r, items, hreads, hto⟩ : ∃ r items, Reads (startReader first resumed) (taken trace) r items ∧
      ReadTo stream first resumed (stream.packets first).length r items :=
    reads_of_delivers hfirst (List.prefix_refl _) hdelivers
  have hread : Batched items (appended trace) := by
    cases h.position with
    | blank _ hnone happended =>
      rw [hnone] at hreads
      obtain ⟨-, rfl⟩ := hreads.unique .nil
      rw [happended]
      exact .nil
    | receiving _ hreceives =>
      obtain ⟨consumed, htaken, r', items', hreads', hbatched, -⟩ := hreceives
      rw [hempty, List.append_nil] at htaken
      rw [← htaken] at hreads'
      obtain ⟨-, rfl⟩ := hreads.unique hreads'
      exact hbatched
    | closed _ hclosed => exact absurd ⟨r, items, hreads⟩ hclosed.not_readable
  rw [hread.contents]
  rw [length_packets] at hto
  rcases hto with ⟨hlt, -⟩ | ⟨k, hk, hprogress⟩
  · omega
  · obtain rfl : k = stream.frames.length := by omega
    rw [hprogress.contents]
    rcases Nat.le_total stream.frames.length (65536 - first) with hle | hle
    · rw [Nat.min_eq_left hle, List.take_length, List.take_of_length_le hle]
    · rw [Nat.min_eq_right hle]

end Runs

/-! ## Streams of any length are delivered by some run -/

def plaintextStream (payloads : List (List UInt8)) : RecordingStream where
  header := none
  payloads := payloads
  fits := nofun

/-- Nothing is pending: the next packet is taken at once. -/
structure AtRest (w : RecordingTransferWorkflow) : Prop where
  phase : w.phase = .transferring
  subscription : w.subscriptionRequestId = some 4
  queue : w.pendingPackets = []

section Deliverable

variable {payloads : List (List UInt8)} {trace : List (EngineEntry RecordingTransferWorkflow)}
  {engine : WorkflowEngine RecordingTransferWorkflow} {w w' : RecordingTransferWorkflow}
  {event : HostEvent}

/-- A callback that succeeds and loads no checkpoint delivers nothing. -/
theorem deliversInOrder_callback (stream : RecordingStream)
    (hkind : ∀ value, event.kind ≠ .ble (.notification CHAR_RECORDING_TRANSFER value))
    (hload : ∀ loaded, event.kind ≠ .checkpointLoaded loaded)
    (hsucceeds : ∀ w, engine.active = some w → ¬Fails w event) :
    DeliversInOrder stream 0 false trace engine (.host event) where
  uncancelled _ _ := nofun
  succeeds w other hact heq := Event.host.inj heq ▸ hsucceeds w hact
  loads w other _ heq loaded hloaded := by
    obtain rfl := Event.host.inj heq
    exact absurd hloaded (hload loaded)
  delivers w other value _ heq htaken := by
    obtain rfl := Event.host.inj heq
    exact absurd htaken.1 (hkind value)
  room w other value _ heq htaken := by
    obtain rfl := Event.host.inj heq
    exact absurd htaken.1 (hkind value)

/-- A run at rest that has delivered the first `k` packets. -/
structure Rested (stream : RecordingStream) (k : Nat)
    (trace : List (EngineEntry RecordingTransferWorkflow))
    (engine : WorkflowEngine RecordingTransferWorkflow) (w : RecordingTransferWorkflow) : Prop where
  run : EngineRun (DeliversInOrder stream 0 false) sampleEngine trace engine
  active : engine.active = some w
  rest : AtRest w
  delivers : Delivers ((stream.packets 0).take k) (taken trace)

variable {stream : RecordingStream} {k : Nat} {value : List UInt8} {packet : TransferPacket}

def notifyEvent (value : List UInt8) : HostEvent :=
  ⟨4, .ble (.notification CHAR_RECORDING_TRANSFER value)⟩

theorem AtRest.taken (h : AtRest w) (value : List UInt8) : Taken w (notifyEvent value) value := by
  refine ⟨rfl, ?_, h.subscription⟩
  rw [h.phase]
  rfl

theorem taken_notifyEvent {other : List UInt8} (h : Taken w (notifyEvent value) other) :
    other = value := by
  have hkind := h.1
  simp only [notifyEvent, HostEventKind.ble.injEq, BleEvent.notification.injEq, true_and] at hkind
  exact hkind.symm

/-- The next packet may be delivered. -/
theorem Rested.allows (h : Rested stream k trace engine w)
    (hpacket : (stream.packets 0)[k]? = some packet) (hparse : parseTransferPacket value = .ok packet) :
    DeliversInOrder stream 0 false trace engine (.host (notifyEvent value)) ∧
      Delivers ((stream.packets 0).take (k + 1)) (RecordingTransferWorkflow.taken trace ++ [value]) := by
  have htake : (stream.packets 0).take (k + 1) = (stream.packets 0).take k ++ [packet] := by
    rw [List.take_add_one, hpacket, Option.toList_some]
  obtain ⟨delivered, hstutters, hvalues⟩ := h.delivers
  have hdelivers : Delivers ((stream.packets 0).take (k + 1))
      (RecordingTransferWorkflow.taken trace ++ [value]) := by
    refine ⟨delivered ++ [packet], ?_, ?_⟩
    · rw [htake]
      exact .next hstutters
    · rw [List.map_append, List.map_append, hvalues, List.map_singleton, List.map_singleton, hparse]
  refine ⟨⟨fun _ _ => nofun, ?_, ?_, ?_, ?_⟩, hdelivers⟩
  · intro w other _ heq
    obtain rfl := Event.host.inj heq
    exact nofun
  · intro w other _ heq loaded hloaded
    obtain rfl := Event.host.inj heq
    exact nomatch hloaded
  · intro w other value' _ heq htaken
    obtain rfl := Event.host.inj heq
    obtain rfl := taken_notifyEvent htaken
    exact ⟨_, List.take_prefix _ _, hdelivers⟩
  · intro w' other value' hact heq _ hwaits
    rw [h.active] at hact
    obtain rfl := Option.some.inj hact
    rcases hwaits with h' | h' <;> rw [h.rest.phase] at h' <;> exact nomatch h'

/-- Taken at rest, a packet is dropped or appended. -/
theorem AtRest.notified {effects : List Effect} (h : AtRest w)
    (hstep : Transition w (notifyEvent value) w' effects)
    (hrunning : ¬(w'.phase = .completed ∨ w'.phase = .failed)) (hclosed : ¬closes w'.phase) :
    AtRest w' ∨ (w'.phase = .appending ∧ w'.subscriptionRequestId = some 4 ∧
      w'.pendingPackets = [] ∧ ∃ id, w'.sinkRequestId = some id) := by
  generalize hevent : notifyEvent value = event at hstep
  cases hstep with
  | notified _ _ hnotified =>
    cases hnotified with
    | queued h' => rcases h' with h' | h' <;> rw [h.phase] at h' <;> exact nomatch h'
    | packet _ _ hpacket =>
      cases hpacket with
      | duplicate | repeatedStart | resumedStart | encryptedDuplicate | sha256 =>
        exact .inl ⟨h.phase, h.subscription, h.queue⟩
      | data _ _ _ hbatch =>
        refine .inr ⟨rfl, h.subscription, ?_, _, rfl⟩
        rw [hbatch, h.queue]
        rfl
      | e2eStart | encryptedData => exact .inr ⟨rfl, h.subscription, h.queue, _, rfl⟩
      | eof | encryptedEof => exact absurd rfl hclosed
    | lateSha256 h' => rw [h.phase] at h'; exact nomatch h'
    | awaitedSha256 h' => rw [h.phase] at h'; exact nomatch h'
    | repeatedEof h' => rcases h' with h' | h' <;> rw [h.phase] at h' <;> exact nomatch h'
    | failed _ _ hfailed => exact absurd (.inr hfailed) hrunning
  | reopened hreopens =>
    subst hevent
    exact nomatch hreopens
  | failed hfails =>
    subst hevent
    exact nomatch hfails
  | _ => exact nomatch hevent

/-- With an empty queue the callback of an append brings the run back to rest. -/
theorem dispatch_durable {id : RequestId} (hphase : w.phase = .appending)
    (hid : w.sinkRequestId = some id) (hsubscription : w.subscriptionRequestId = some 4)
    (hqueue : w.pendingPackets = []) (context : WorkflowContext) :
    ∃ call : Call, dispatch w ⟨id, .recordingSinkAppendCompleted
      (saturatingAdd w.completedUnits w.pendingPayloadUnits)⟩ context = .ok call ∧
      AtRest call.workflow := by
  have hguard : w.phase = .appending ∧ some id = w.sinkRequestId := ⟨hphase, hid.symm⟩
  have hdispatch : dispatch w ⟨id, .recordingSinkAppendCompleted
      (saturatingAdd w.completedUnits w.pendingPayloadUnits)⟩ context = drainPackets _ :=
    (if_pos hguard).trans (if_neg (Nat.lt_irrefl _))
  rw [hdispatch, drainPackets]
  have hdrained : ∀ call : Call, call.workflow.pendingPackets = [] →
      drain call.workflow.pendingPackets.length call = .ok call := by
    intro call hempty
    rw [hempty]
    rfl
  rw [hdrained _ hqueue]
  exact ⟨_, rfl, rfl, hsubscription, hqueue⟩

theorem rested_of_appending {id : RequestId}
    (hrun : EngineRun (DeliversInOrder stream 0 false) sampleEngine trace engine)
    (hact : engine.active = some w) (hphase : w.phase = .appending)
    (hsubscription : w.subscriptionRequestId = some 4) (hqueue : w.pendingPackets = [])
    (hid : w.sinkRequestId = some id)
    (hdelivers : Delivers ((stream.packets 0).take k) (RecordingTransferWorkflow.taken trace)) :
    ∃ trace' engine' w', Rested stream k trace' engine' w' := by
  obtain ⟨call, hcall, hrest⟩ :=
    dispatch_durable hphase hid hsubscription hqueue (engine.context w)
  have hok : DeliversInOrder stream 0 false trace engine (.host ⟨id, .recordingSinkAppendCompleted
      (saturatingAdd w.completedUnits w.pendingPayloadUnits)⟩) := by
    refine deliversInOrder_callback stream (fun _ => nofun) (fun _ => nofun) (fun other hother => ?_)
    rw [hact] at hother
    obtain rfl := Option.some.inj hother
    intro hfails
    cases hfails with
    | undurable _ _ hshort => exact absurd hshort (Nat.lt_irrefl _)
  have hnext := hrun.snoc _ hok
  have hred : WorkflowReducer.dispatch w ⟨id, .recordingSinkAppendCompleted
      (saturatingAdd w.completedUnits w.pendingPayloadUnits)⟩ (engine.context w) = .ok call := hcall
  have hrunning : ¬(call.workflow.phase = .completed ∨ call.workflow.phase = .failed) := by
    rw [hrest.phase]
    decide
  rw [dispatch_active hact, hred, settle_running rfl (terminalStatus_of_running hrunning)] at hnext
  refine ⟨_, _, call.workflow, hnext, rfl, hrest, ?_⟩
  rw [taken_concat, takenIn_host hact rfl]
  exact (List.append_nil _).symm ▸ hdelivers

/-- From rest, the next packet can be delivered and brings the run back to rest. -/
theorem Rested.next (h : Rested stream k trace engine w)
    (hpacket : (stream.packets 0)[k]? = some packet)
    (hparse : parseTransferPacket value = .ok packet) :
    ∃ trace' engine' w', Rested stream (k + 1) trace' engine' w' := by
  obtain ⟨hok, hdelivers⟩ := h.allows hpacket hparse
  have hinv : Receiving stream 0 false trace w := by
    obtain ⟨other, hact, hinv⟩ := receiving (Nat.zero_le _) started_sampleEngine h.run
    rw [h.active] at hact
    obtain rfl := Option.some.inj hact
    exact hinv
  have htaken := h.rest.taken value
  have hrun := h.run.snoc (.host (notifyEvent value)) hok
  rw [dispatch_active h.active] at hrun
  rcases dispatch_cases w (notifyEvent value) (engine.context w) hinv.formed.subscribed with
    ⟨call, hcall, hstep⟩ | ⟨-, -, hignored⟩ | ⟨-, hinterrupted⟩
  · obtain ⟨hrunning, hnext⟩ := @Receiving.step _ _ _ _ ⟨engine, .host (notifyEvent value),
      .ok call.effects⟩ _ _ _ _ hinv (Nat.zero_le _) h.active rfl hok rfl hstep
    have hred : WorkflowReducer.dispatch w (notifyEvent value) (engine.context w) = .ok call := hcall
    rw [hred, settle_running rfl (terminalStatus_of_running hrunning)] at hrun
    have htakes : RecordingTransferWorkflow.taken (trace ++ [⟨engine, .host (notifyEvent value),
        .ok call.effects⟩]) = RecordingTransferWorkflow.taken trace ++ [value] := by
      rw [taken_concat, takenIn_host h.active rfl, takenBy_eq_some.mpr htaken, Option.toList_some]
    have hopen : ¬closes call.workflow.phase := by
      intro hcloses
      cases hnext.position with
      | blank hblank => rw [hblank.phase] at hcloses; exact nomatch hcloses
      | receiving hopens =>
        have hboth : ∀ phase, opens phase → ¬closes phase := by
          intro phase
          cases phase <;> decide
        exact hboth _ hopens hcloses
      | closed _ hclosed =>
        exact absurd (hnext.inOrder.readable (Nat.zero_le _)) hclosed.not_readable
    rcases h.rest.notified hstep hrunning hopen with hrest | ⟨hphase, hsub, hqueue, id, hid⟩
    · exact ⟨_, _, call.workflow, hrun, rfl, hrest, htakes ▸ hdelivers⟩
    · exact rested_of_appending hrun rfl hphase hsub hqueue hid (htakes ▸ hdelivers)
  · rcases hignored value htaken with hlate | ⟨-, packet', hparse', hover⟩
    · rcases hlate with h' | h' <;> rw [h.rest.phase] at h' <;> exact nomatch h'
    · refine absurd ⟨value, ?_, packet', hparse', hover⟩
        (InOrder.not_overlong ⟨_, List.take_prefix _ _, hdelivers⟩)
      simp
  · obtain ⟨_, _, _, _, _, hreopens, _⟩ := hinterrupted
    exact nomatch hreopens

end Deliverable

/-- The callbacks up to phase `Transferring`. -/
def openingEvents : List Event :=
  [.host ⟨2, .checkpointLoaded none⟩, .host ⟨3, .recordingSinkTruncated⟩,
    .host ⟨4, .ble (.subscribed CHAR_RECORDING_TRANSFER)⟩, .host ⟨5, .ble .writeCompleted⟩]

theorem rested_opening (stream : RecordingStream) :
    ∃ trace engine w, Rested stream 0 trace engine w := by
  have hallowed : Machine.Allowed WorkflowEngine.dispatch (DeliversInOrder stream 0 false) []
      sampleEngine openingEvents := by
    refine ⟨?_, ?_, ?_, ?_, trivial⟩
    · refine ⟨fun _ _ => nofun, ?_, ?_, ?_, ?_⟩
      · intro w other _ heq
        obtain rfl := Event.host.inj heq
        exact nofun
      · intro w other hact heq loaded hloaded _ _
        obtain rfl := Event.host.inj heq
        obtain rfl := HostEventKind.checkpointLoaded.inj hloaded
        obtain rfl := Option.some.inj hact
        rfl
      · intro w other value _ heq htaken
        obtain rfl := Event.host.inj heq
        exact nomatch htaken.1
      · intro w other value _ heq htaken
        obtain rfl := Event.host.inj heq
        exact nomatch htaken.1
    all_goals
      refine deliversInOrder_callback stream (fun _ h => ?_) (fun _ h => ?_) (fun _ _ h => ?_)
      all_goals exact nomatch h
  exact ⟨_, _, _, Machine.Run.exec hallowed, rfl, ⟨rfl, rfl, rfl⟩, [], .nil, rfl⟩

/-- Every plaintext stream, however long, is delivered by some run. -/
theorem plaintext_delivered (payloads : List (List UInt8)) (k : Nat) (hk : k ≤ payloads.length) :
    ∃ trace engine w, Rested (plaintextStream payloads) k trace engine w := by
  induction k with
  | zero => exact rested_opening _
  | succ k ih =>
    obtain ⟨trace, engine, w, hrested⟩ := ih (Nat.le_of_succ_le hk)
    have hpacket : ((plaintextStream payloads).packets 0)[k]? =
        some (.data (k % 65536) payloads[k]) := by
      rw [RecordingStream.packets, RecordingStream.startPackets, plaintextStream, List.nil_append,
        List.getElem?_mapIdx, List.getElem?_eq_getElem hk, Option.map_some, Nat.zero_add]
      rfl
    have hparse : parseTransferPacket (dataPacket (k % 65536) payloads[k]) =
        .ok (.data (k % 65536) payloads[k]) := by
      rw [parse_dataPacket, Nat.mod_mod]
    exact hrested.next hpacket hparse

/-- Delivered in order, whatever the timing of the callbacks, a stream is appended whole exactly when
the frames past number 65535 carry no bytes. -/
theorem appended_whole_iff (stream : RecordingStream) {first : Nat} (hfirst : first ≤ 65536)
    (resumed : Bool) {engine₀ engine : WorkflowEngine RecordingTransferWorkflow}
    {trace : List (EngineEntry RecordingTransferWorkflow)} (hstart : Started engine₀)
    (hrun : EngineRun (DeliversInOrder stream first resumed) engine₀ trace engine) :
    ∃ w, engine.active = some w ∧ (w.phase = .transferring → w.pendingPackets = []) ∧
      (Delivers (stream.packets first) (taken trace) → w.pendingPackets = [] →
        ((appended trace).flatMap Prod.snd = stream.due resumed ↔
          (stream.frames.drop (65536 - first)).flatten = [])) := by
  obtain ⟨w, hact, hinv⟩ := receiving hfirst hstart hrun
  refine ⟨w, hact, fun hphase => ?_, fun hdelivers hempty => ?_⟩
  · cases hinv.position with
    | blank hblank => rw [hblank.phase] at hphase; exact nomatch hphase
    | receiving _ _ hqueue => exact hqueue hphase
    | closed hcloses => rw [hphase] at hcloses; exact nomatch hcloses
  · have hframes : stream.frames.flatten = (stream.frames.take (65536 - first)).flatten ++
        (stream.frames.drop (65536 - first)).flatten := by
      rw [← List.flatten_append, List.take_append_drop]
    rw [hinv.contents hfirst hdelivers hempty, RecordingStream.due, hframes,
      List.append_cancel_left_eq, List.self_eq_append_right]

/-- A stream of one packet more than there are numbers is never appended whole. -/
theorem wrapped_packet_dropped :
    ∃ trace engine w, EngineRun (DeliversInOrder (plaintextStream (.replicate 65537 [7])) 0 false)
      sampleEngine trace engine ∧ engine.active = some w ∧ w.phase = .transferring ∧
      Delivers ((plaintextStream (.replicate 65537 [7])).packets 0) (taken trace) ∧
      (appended trace).flatMap Prod.snd ≠ (plaintextStream (.replicate 65537 [7])).due false := by
  have hlength : (List.replicate 65537 [(7 : UInt8)]).length = 65537 := List.length_replicate
  obtain ⟨trace, engine, w, hrested⟩ :=
    plaintext_delivered (.replicate 65537 [7]) 65537 (Nat.le_of_eq hlength.symm)
  obtain ⟨other, hact, hinv⟩ := receiving (Nat.zero_le _) started_sampleEngine hrested.run
  rw [hrested.active] at hact
  obtain rfl := Option.some.inj hact
  have hframes : (plaintextStream (.replicate 65537 [7])).frames = .replicate 65537 [7] := by
    rw [RecordingStream.frames, plaintextStream, List.map_replicate]
    rfl
  have hdelivers := hrested.delivers
  rw [List.take_of_length_le (by rw [length_packets, hframes, hlength]; exact Nat.le_refl _)]
    at hdelivers
  refine ⟨trace, engine, w, hrested.run, hrested.active, hrested.rest.phase, hdelivers, ?_⟩
  rw [hinv.contents (Nat.zero_le _) hdelivers hrested.rest.queue, RecordingStream.due, hframes]
  intro heq
  have hlengths := congrArg List.length (List.append_cancel_left heq)
  rw [List.take_replicate, List.flatten_replicate_singleton, List.flatten_replicate_singleton,
    List.length_replicate, List.length_replicate] at hlengths
  exact absurd hlengths (by decide)

theorem appended_whole_iff_sample :
    ∃ trace, Delivers ((plaintextStream [[7], [8]]).packets 0) (taken trace) ∧
      ((appended trace).flatMap Prod.snd = (plaintextStream [[7], [8]]).due false ↔
        ((plaintextStream [[7], [8]]).frames.drop (65536 - 0)).flatten = []) := by
  obtain ⟨trace, engine, w, hrested⟩ := plaintext_delivered [[7], [8]] 2 (Nat.le_refl 2)
  obtain ⟨other, hact, -, hiff⟩ :=
    appended_whole_iff (plaintextStream [[7], [8]]) (Nat.zero_le _) false started_sampleEngine
      hrested.run
  rw [hrested.active] at hact
  obtain rfl := Option.some.inj hact
  exact ⟨trace, hrested.delivers, hiff hrested.delivers hrested.rest.queue⟩

end RecordingTransferWorkflow

end BotaSdk
