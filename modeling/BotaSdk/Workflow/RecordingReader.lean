import BotaSdk.Lib.Delivery
import BotaSdk.Workflow.RecordingSteps

/-!
# The reader behind a batch transfer

`Reader` takes packets one at a time, with no queue and no sink.  Whatever the callbacks do, a
transfer has written, in batches, what the reader accepts of the values taken off its queue.
-/

namespace BotaSdk

open Protocol RecordingTransfer Delivery

namespace RecordingTransferWorkflow

/-! ## The reader -/

/-- A piece of the recording with the number of its packet. -/
abbrev Item := Nat × List UInt8

structure Reader where
  last : Option Nat
  encrypted : Option Bool
  header : Bool
  /-- The sink holds units of an earlier run, the header among them. -/
  resumed : Bool
  deriving DecidableEq

namespace Reader

def next (r : Reader) : Nat :=
  r.last.elim 0 fun last => (last + 1) % 65536

/-- What a packet adds, if it does not end the reading. -/
def read (r : Reader) : TransferPacket → Option (Reader × List Item)
  | .data sequence data =>
    if r.last.any (sequence ≤ ·) then some (r, [])
    else if sequence = r.next ∧ r.encrypted ≠ some true then
      some ({ r with last := some sequence, encrypted := some false }, [(sequence, data)])
    else none
  | .e2eStart ephemeralPublicKey salt =>
    if r.encrypted = some false then none
    else if r.header then some ({ r with encrypted := some true }, [])
    else
      some ({ r with encrypted := some true, header := true },
        if r.resumed then [] else [(0, ephemeralPublicKey ++ salt)])
  | .encryptedData sequence chunk =>
    if r.encrypted ≠ some true ∨ ¬r.header then none
    else if r.last.any (sequence ≤ ·) then some (r, [])
    else if sequence = r.next ∧ 16 ≤ chunk.length ∧ chunk.length - 16 ≤ 65535 then
      some ({ r with last := some sequence }, [(sequence, framed chunk)])
    else none
  | .sha256 _ => some (r, [])
  | .eof _ _ | .encryptedEof _ | .paused _ _ | .error _ _ => none

end Reader

/-- Reading values one after the other. -/
inductive Reads (r : Reader) : List (List UInt8) → Reader → List Item → Prop
  | nil : Reads r [] r []
  | snoc {values : List (List UInt8)} {value : List UInt8} {packet : TransferPacket}
      {r₁ r₂ : Reader} {items more : List Item} :
      Reads r values r₁ items → parseTransferPacket value = .ok packet →
      r₁.read packet = some (r₂, more) → Reads r (values ++ [value]) r₂ (items ++ more)

section Reads

variable {r r₁ r₂ : Reader} {front back : List (List UInt8)} {items more : List Item}

theorem Reads.append (h : Reads r front r₁ items) (hback : Reads r₁ back r₂ more) :
    Reads r (front ++ back) r₂ (items ++ more) := by
  induction hback with
  | nil =>
    rw [List.append_nil, List.append_nil]
    exact h
  | snoc _ hparse hread ih =>
    rw [← List.append_assoc, ← List.append_assoc]
    exact .snoc ih hparse hread

theorem Reads.single {value : List UInt8} {packet : TransferPacket}
    (hparse : parseTransferPacket value = .ok packet) (hread : r.read packet = some (r₁, items)) :
    Reads r [value] r₁ items :=
  .snoc .nil hparse hread

theorem Reads.cons {value : List UInt8} {packet : TransferPacket}
    (hparse : parseTransferPacket value = .ok packet) (hread : r.read packet = some (r₁, items))
    (hback : Reads r₁ back r₂ more) : Reads r (value :: back) r₂ (items ++ more) :=
  (Reads.single hparse hread).append hback

/-- Every value of a reading is a packet that the reader accepts. -/
theorem Reads.parsed (h : Reads r front r₁ items) {value : List UInt8} (hmem : value ∈ front) :
    ∃ packet, ∃ r' : Reader, ∃ next, parseTransferPacket value = .ok packet ∧
      r'.read packet = some next := by
  induction h with
  | nil => exact absurd hmem List.not_mem_nil
  | snoc _ hparse hread ih =>
    rcases List.mem_append.mp hmem with hmem | hmem
    · exact ih hmem
    · rw [List.mem_singleton.mp hmem]
      exact ⟨_, _, _, hparse, hread⟩

end Reads

/-- The batch holds what the reader accepts of the values it took off the queue, after `payload`. -/
def BatchReads (r : Reader) (sequence : Nat) (payload : List UInt8) (queue : List (List UInt8))
    (batch : Batch) : Prop :=
  ∃ front more, queue = front ++ batch.queue ∧
    Reads r front { r with last := some batch.sequence } more ∧
    (more.map Prod.fst).getLastD sequence = batch.sequence ∧
    batch.payload = payload ++ more.flatMap Prod.snd

theorem batchReads_stop {r : Reader} {sequence : Nat} (hlast : r.last = some sequence)
    (payload : List UInt8) (queue : List (List UInt8)) (pendingBytes : Nat) :
    BatchReads r sequence payload queue { sequence, payload, queue, pendingBytes } := by
  refine ⟨[], [], rfl, ?_, rfl, (List.append_nil _).symm⟩
  rw [← hlast]
  exact .nil

/-- The batch loop reads the front of the queue by the same rule. -/
theorem takeBatch_reads {r : Reader} {sequence : Nat} (hlast : r.last = some sequence)
    (hplain : r.encrypted = some false) (payload : List UInt8) (queue : List (List UInt8))
    (pendingBytes : Nat) :
    BatchReads r sequence payload queue (takeBatch sequence payload queue pendingBytes) := by
  induction queue generalizing r sequence payload pendingBytes with
  | nil => exact batchReads_stop hlast ..
  | cons value rest ih =>
    rw [takeBatch]
    split
    · rename_i next data hparse
      by_cases hstop : next > sequence ∧ (next ≠ (sequence + 1) % 65536 ∨
          data.length > MAX_APPEND_BATCH_BYTES - payload.length)
      · rw [if_pos hstop]
        exact batchReads_stop hlast ..
      · rw [if_neg hstop]
        by_cases hdup : next ≤ sequence
        · rw [if_pos hdup]
          obtain ⟨front, more, hrest, hreads, hnumber, hpayload⟩ :=
            ih hlast hplain payload (pendingBytes - value.length)
          have hread : r.read (.data next data) = some (r, []) := by
            have hany : r.last.any (next ≤ ·) := by
              rw [hlast]
              exact decide_eq_true hdup
            rw [Reader.read, if_pos hany]
          exact ⟨value :: front, more, by rw [List.cons_append, ← hrest],
            Reads.cons hparse hread hreads, hnumber, hpayload⟩
        · rw [if_neg hdup]
          have hnext : next = (sequence + 1) % 65536 := by
            by_contra hother
            exact hstop ⟨Nat.lt_of_not_le hdup, .inl hother⟩
          have hread : r.read (.data next data) =
              some ({ r with last := some next }, [(next, data)]) := by
            have hany : ¬r.last.any (next ≤ ·) := by
              rw [hlast]
              simpa using Nat.lt_of_not_le hdup
            have htake : next = r.next ∧ r.encrypted ≠ some true := by
              rw [Reader.next, hlast, hplain]
              exact ⟨hnext, by decide⟩
            rw [Reader.read, if_neg hany, if_pos htake, ← hplain]
          obtain ⟨front, more, hrest, hreads, hnumber, hpayload⟩ :=
            @ih { r with last := some next } next rfl hplain (payload ++ data)
              (pendingBytes - value.length)
          refine ⟨value :: front, (next, data) :: more, by rw [List.cons_append, ← hrest],
            Reads.cons hparse hread hreads, ?_, ?_⟩
          · rw [List.map_cons, List.getLastD_cons]
            exact hnumber
          · rw [hpayload, List.append_assoc]
            rfl
    · exact batchReads_stop hlast ..

/-! ## The transfer behind the reader -/

def append? : Effect → Option Item
  | .recordingSink (.append _ sequence payload) => some (sequence, payload)
  | _ => none

def appendsOf (effects : List Effect) : List Item :=
  effects.filterMap append?

/-- The transfer stands where the reader does; a pending append counts as read. -/
structure Matches (r : Reader) (w : RecordingTransferWorkflow) : Prop where
  last : r.last = w.pendingSequence.or w.lastSequence
  encrypted : r.encrypted = w.encrypted
  header : r.header = w.e2eHeaderReceived
  resumed : w.encrypted = none → (r.resumed ↔ 0 < w.completedUnits)
  started : w.encrypted = some true → w.e2eHeaderReceived
  pending : w.phase ≠ .appending → w.pendingSequence = none
  kind : w.phase = .appending → w.encrypted ≠ none

/-- `consumed` was read and its items appended in batches. -/
def Reading (r₀ : Reader) (consumed : List (List UInt8)) (appends : List Item)
    (w : RecordingTransferWorkflow) : Prop :=
  ∃ r items, Reads r₀ consumed r items ∧ Batched items appends ∧ Matches r w

/-- Of the values taken, those that are not read yet are queued. -/
def Receives (r₀ : Reader) (taken : List (List UInt8)) (appends : List Item)
    (w : RecordingTransferWorkflow) : Prop :=
  ∃ consumed, taken = consumed ++ w.pendingPackets ∧ Reading r₀ consumed appends w

/-- The EOF that the reader's kind of stream ends with. -/
inductive Ends (r : Reader) (value : List UInt8) : Prop
  | plaintext {sequence checksum : Nat} :
      parseTransferPacket value = .ok (.eof sequence checksum) → r.encrypted ≠ some true → Ends r value
  | encrypted {sequence : Nat} :
      parseTransferPacket value = .ok (.encryptedEof sequence) → r.encrypted = some true → r.header →
      Ends r value

/-- An EOF was taken: what was read before it is all that is ever appended. -/
def Closed (r₀ : Reader) (taken : List (List UInt8)) (appends : List Item) : Prop :=
  ∃ consumed eof rest r items, taken = consumed ++ eof :: rest ∧ Ends r eof ∧
    Reads r₀ consumed r items ∧ Batched items appends

section Steps

variable {r r₀ : Reader} {w w' : RecordingTransferWorkflow} {value : List UInt8}
  {packet : TransferPacket} {effects : List Effect} {consumed taken : List (List UInt8)}
  {appends : List Item}

@[simp] theorem appendsOf_nil : appendsOf [] = [] := rfl

@[simp] theorem appendsOf_append (front back : List Effect) :
    appendsOf (front ++ back) = appendsOf front ++ appendsOf back :=
  List.filterMap_append

theorem Matches.settled (h : Matches r w) (hphase : w.phase ≠ .appending) :
    r.last = w.lastSequence := by
  rw [h.last, h.pending hphase, Option.none_or]

theorem Matches.next (h : Matches r w) (hphase : w.phase ≠ .appending) :
    r.next = w.nextSequence := by
  rw [Reader.next, h.settled hphase, nextSequence]

/-- Without a header, a stream that is not plaintext has not started. -/
theorem Matches.unstarted (h : Matches r w) (hmix : w.encrypted ≠ some false)
    (hheader : ¬w.e2eHeaderReceived) : w.encrypted = none := by
  cases henc : w.encrypted with
  | none => rfl
  | some encrypted =>
    cases encrypted with
    | false => exact absurd henc hmix
    | true => exact absurd (h.started henc) hheader

theorem Matches.readable (h : Matches r w) (henc : w.encrypted = some true)
    (hheader : w.e2eHeaderReceived) : ¬(r.encrypted ≠ some true ∨ ¬r.header) := by
  rw [h.encrypted, h.header, henc, hheader]
  decide

/-- A packet that leaves the transfer running is read; its append takes what it can of the queue. -/
theorem PacketStep.reads (h : PacketStep w packet w' effects)
    (hparse : parseTransferPacket value = .ok packet) (hphase : w.phase = .transferring)
    (hreading : Reading r₀ consumed appends w) :
    (w'.phase = .finalizing ∧
      Closed r₀ (consumed ++ value :: w.pendingPackets) (appends ++ appendsOf effects)) ∨
    ((w'.phase = .transferring ∨ w'.phase = .appending) ∧
      Receives r₀ (consumed ++ value :: w.pendingPackets) (appends ++ appendsOf effects) w') := by
  obtain ⟨r, items, hreads, hbatched, hmatches⟩ := hreading
  have hidle : w.phase ≠ .appending := by
    rw [hphase]
    decide
  have hlast := hmatches.settled hidle
  have hnext := hmatches.next hidle
  have htaken : consumed ++ value :: w.pendingPackets = consumed ++ [value] ++ w.pendingPackets := by
    rw [List.append_assoc, List.singleton_append]
  -- A packet that appends nothing.
  have hquiet : ∀ {r' : Reader} {w' : RecordingTransferWorkflow}, r.read packet = some (r', []) →
      w'.pendingPackets = w.pendingPackets → Matches r' w' →
      Receives r₀ (consumed ++ value :: w.pendingPackets) (appends ++ appendsOf []) w' := by
    intro r' w' hread hqueue hmatches'
    have hsnoc := hreads.snoc hparse hread
    rw [List.append_nil] at hsnoc
    rw [appendsOf_nil, List.append_nil, htaken, ← hqueue]
    exact ⟨consumed ++ [value], rfl, r', items, hsnoc, hbatched, hmatches'⟩
  -- A packet that is appended alone.
  have halone : ∀ {r' : Reader} {w' : RecordingTransferWorkflow} {item : Item},
      r.read packet = some (r', [item]) → w'.pendingPackets = w.pendingPackets → Matches r' w' →
      Receives r₀ (consumed ++ value :: w.pendingPackets) (appends ++ [item]) w' := by
    intro r' w' item hread hqueue hmatches'
    rw [htaken, ← hqueue]
    exact ⟨consumed ++ [value], rfl, r', items ++ [item], hreads.snoc hparse hread,
      hbatched.single item, hmatches'⟩
  -- The EOF appends nothing.
  have hsame : Batched items (appends ++ []) := by
    rw [List.append_nil]
    exact hbatched
  cases h with
  | @duplicate sequence data hdup =>
    have hread : r.read (.data sequence data) = some (r, []) := by
      rw [Reader.read, hlast, if_pos hdup]
    exact .inr ⟨.inl hphase, hquiet hread rfl hmatches⟩
  | @data sequence data id batch hdup hseq hplain hbatch =>
    have hread : r.read (.data sequence data) = some ({ r with
        last := some sequence, encrypted := some false }, [(sequence, data)]) := by
      rw [Reader.read, hlast, if_neg hdup, if_pos ⟨hseq.trans hnext.symm, hmatches.encrypted ▸ hplain⟩]
    obtain ⟨front, more, hqueue, hfront, hnumber, hpayload⟩ :=
      @takeBatch_reads { r with last := some sequence, encrypted := some false } sequence rfl rfl data
        w.pendingPackets w.pendingBytes
    rw [← hbatch] at hqueue hfront hnumber hpayload
    refine .inr ⟨.inr rfl, consumed ++ value :: front, ?_, _, _,
      hreads.append (.cons hparse hread hfront), ?_, ?_⟩
    · rw [hqueue, List.append_assoc, List.cons_append]
    · rw [List.singleton_append]
      exact hbatched.group hnumber (by rw [hpayload, List.flatMap_cons])
    · exact ⟨rfl, rfl, hmatches.header, nofun, nofun, fun h => absurd rfl h, nofun⟩
  | eof hplain =>
    exact .inl ⟨rfl, consumed, value, w.pendingPackets, r, items, rfl,
      .plaintext hparse (hmatches.encrypted ▸ hplain), hreads, hsame⟩
  | @repeatedStart ephemeralPublicKey salt hmix hheader =>
    have hread : r.read (.e2eStart ephemeralPublicKey salt) =
        some ({ r with encrypted := some true }, []) := by
      rw [Reader.read, if_neg (hmatches.encrypted ▸ hmix), if_pos (hmatches.header ▸ hheader)]
    exact .inr ⟨.inl hphase, hquiet hread rfl ⟨hmatches.last, rfl, hmatches.header, nofun,
      fun _ => hheader, hmatches.pending, nofun⟩⟩
  | @resumedStart ephemeralPublicKey salt hmix hheader hunits =>
    have hnone : w.encrypted = none := hmatches.unstarted hmix hheader
    have hread : r.read (.e2eStart ephemeralPublicKey salt) =
        some ({ r with encrypted := some true, header := true }, []) := by
      rw [Reader.read, if_neg (hmatches.encrypted ▸ hmix), if_neg (hmatches.header ▸ hheader),
        if_pos ((hmatches.resumed hnone).mpr hunits)]
    exact .inr ⟨.inl hphase, hquiet hread rfl ⟨hmatches.last, rfl, rfl, nofun, fun _ => rfl,
      hmatches.pending, nofun⟩⟩
  | @e2eStart ephemeralPublicKey salt id hmix hheader hunits =>
    have hnone : w.encrypted = none := hmatches.unstarted hmix hheader
    have hread : r.read (.e2eStart ephemeralPublicKey salt) =
        some ({ r with encrypted := some true, header := true },
          [(0, ephemeralPublicKey ++ salt)]) := by
      rw [Reader.read, if_neg (hmatches.encrypted ▸ hmix), if_neg (hmatches.header ▸ hheader),
        if_neg (fun h => hunits ((hmatches.resumed hnone).mp h))]
    exact .inr ⟨.inr rfl, halone hread rfl ⟨hlast, rfl, rfl, nofun, fun _ => rfl,
      fun h => absurd rfl h, nofun⟩⟩
  | @encryptedDuplicate sequence chunk henc hheader hdup =>
    have hread : r.read (.encryptedData sequence chunk) = some (r, []) := by
      rw [Reader.read, if_neg (hmatches.readable henc hheader), hlast, if_pos hdup]
    exact .inr ⟨.inl hphase, hquiet hread rfl hmatches⟩
  | @encryptedData sequence chunk id henc hheader hdup hseq hlong hfits =>
    have hread : r.read (.encryptedData sequence chunk) =
        some ({ r with last := some sequence }, [(sequence, framed chunk)]) := by
      rw [Reader.read, if_neg (hmatches.readable henc hheader), hlast, if_neg hdup,
        if_pos ⟨hseq.trans hnext.symm, hlong, hfits⟩]
    exact .inr ⟨.inr rfl, halone hread rfl ⟨rfl, hmatches.encrypted, hmatches.header,
      hmatches.resumed, hmatches.started, fun h => absurd rfl h, fun _ => by rw [henc]; decide⟩⟩
  | encryptedEof henc hheader =>
    exact .inl ⟨rfl, consumed, value, w.pendingPackets, r, items, rfl,
      .encrypted hparse (hmatches.encrypted ▸ henc) (hmatches.header ▸ hheader), hreads,
      hsame⟩
  | @sha256 sha256 =>
    exact .inr ⟨.inl hphase, @hquiet r _ rfl rfl ⟨hmatches.last, hmatches.encrypted,
      hmatches.header, hmatches.resumed, hmatches.started, hmatches.pending, hmatches.kind⟩⟩

theorem FailEffects.appendsOf (h : FailEffects w effects) : appendsOf effects = [] := by
  have hfail : ∀ error, RecordingTransferWorkflow.appendsOf (failEffects w error) = [] := by
    intro error
    cases hsub : w.subscriptionRequestId <;> cases htimer : w.shaGraceTimerScheduled <;>
      simp [failEffects, unsubscribeEffects, graceEffects, hsub, htimer,
        RecordingTransferWorkflow.appendsOf, append?, unsubscribeEffect]
  cases h with
  | kept => exact hfail _
  | discarded =>
    rw [appendsOf_append, hfail, List.append_nil]
    rfl

theorem appendsOf_acknowledge (w : RecordingTransferWorkflow) :
    appendsOf (acknowledgeEffects w) = [] := by
  cases h : w.shaGraceTimerScheduled <;>
    simp [acknowledgeEffects, graceEffects, h, appendsOf, append?, ackEffect, controlEffect]

/-- A value that arrives while a callback is outstanding waits. -/
theorem NotificationStep.queues (h : NotificationStep w value w' effects)
    (hphase : w.phase = .starting ∨ w.phase = .appending) (hreceives : Receives r₀ taken appends w) :
    w'.phase = .failed ∨
    (w'.phase = w.phase ∧ Receives r₀ (taken ++ [value]) (appends ++ appendsOf effects) w') := by
  obtain ⟨consumed, rfl, r, items, hreads, hbatched, hm⟩ := hreceives
  have hnot : ∀ phase : Phase, phase = .transferring ∨ phase = .finalizing ∨
      phase = .waitingForSha → w.phase ≠ phase := by
    rintro phase (rfl | rfl | rfl) <;> rcases hphase with hphase | hphase <;> rw [hphase] <;> decide
  cases h with
  | queued =>
    refine .inr ⟨rfl, consumed, by rw [List.append_assoc], r, items, hreads, ?_, ?_⟩
    · rw [appendsOf_nil, List.append_nil]
      exact hbatched
    · exact ⟨hm.last, hm.encrypted, hm.header, hm.resumed, hm.started, hm.pending, hm.kind⟩
  | packet h' => exact absurd h' (hnot _ (.inl rfl))
  | lateSha256 h' => exact absurd h' (hnot _ (.inr (.inl rfl)))
  | awaitedSha256 h' => exact absurd h' (hnot _ (.inr (.inr rfl)))
  | repeatedEof h' =>
    rcases h' with h' | h'
    · exact absurd h' (hnot _ (.inr (.inl rfl)))
    · exact absurd h' (hnot _ (.inr (.inr rfl)))
  | failed _ _ hfailed => exact .inl hfailed

/-- A value taken in phase `Transferring` is read at once. -/
theorem NotificationStep.reads (h : NotificationStep w value w' effects)
    (hphase : w.phase = .transferring) (hreading : Reading r₀ consumed appends w) :
    w'.phase = .failed ∨
    (w'.phase = .finalizing ∧
      Closed r₀ (consumed ++ value :: w.pendingPackets) (appends ++ appendsOf effects)) ∨
    ((w'.phase = .transferring ∨ w'.phase = .appending) ∧
      Receives r₀ (consumed ++ value :: w.pendingPackets) (appends ++ appendsOf effects) w') := by
  cases h with
  | packet _ hparse hstep => exact .inr (hstep.reads hparse hphase hreading)
  | failed _ _ hfailed => exact .inl hfailed
  | queued h' | repeatedEof h' => rcases h' with h' | h' <;> rw [hphase] at h' <;> exact nomatch h'
  | lateSha256 h' | awaitedSha256 h' =>
    rw [hphase] at h'
    exact nomatch h'

/-- In phase `Transferring` a value that leaves the phase alone leaves the queue empty. -/
theorem NotificationStep.queue_empty (h : NotificationStep w value w' effects)
    (hphase : w.phase = .transferring) (hempty : w.pendingPackets = [])
    (hstill : w'.phase = .transferring) : w'.pendingPackets = [] := by
  have hlength := h.length_le (by rw [hphase]; rfl) (by rw [hstill]; rfl)
  rw [hempty, List.length_nil, Nat.le_zero] at hlength
  exact List.length_eq_zero_iff.mp hlength

/-- After the EOF no value is appended any more. -/
theorem NotificationStep.closed (h : NotificationStep w value w' effects)
    (hphase : w.phase = .finalizing ∨ w.phase = .waitingForSha) :
    appendsOf effects = [] ∧
      (w'.phase = .failed ∨ w'.phase = w.phase ∨ w'.phase = .acknowledging) := by
  cases h with
  | queued h' =>
    rcases h' with h' | h' <;> rcases hphase with hphase | hphase <;> rw [hphase] at h' <;>
      exact nomatch h'
  | packet h' => rcases hphase with hphase | hphase <;> rw [hphase] at h' <;> exact nomatch h'
  | lateSha256 => exact ⟨rfl, .inr (.inl rfl)⟩
  | awaitedSha256 => exact ⟨appendsOf_acknowledge w, .inr (.inr rfl)⟩
  | repeatedEof => exact ⟨rfl, .inr (.inl rfl)⟩
  | failed _ heffects hfailed => exact ⟨heffects.appendsOf, .inl hfailed⟩

theorem Drains.closed (h : Drains w effects w') (hphase : w.phase = .finalizing) :
    appendsOf effects = [] ∧ (w'.phase = .failed ∨ w'.phase = .finalizing) := by
  induction h with
  | done => exact ⟨rfl, .inr hphase⟩
  | @turn w w₁ w' _ _ _ _ _ _ hstep hturns ih =>
    have hpop : (pop w).phase = .finalizing := hphase
    obtain ⟨hfront, hnext⟩ := hstep.closed (.inl hpop)
    rw [appendsOf_append, hfront, List.nil_append]
    rcases hnext with hfailed | hsame | hacknowledging
    · cases hturns with
      | done => exact ⟨rfl, .inl hfailed⟩
      | turn hdrains => exact absurd hfailed (drains_ne_failed hdrains)
    · exact ih (hsame.trans hpop)
    · cases hstep with
      | awaitedSha256 hwaiting =>
        rw [hpop] at hwaiting
        exact nomatch hwaiting
      | lateSha256 => rw [hpop] at hacknowledging; exact nomatch hacknowledging
      | repeatedEof => rw [hpop] at hacknowledging; exact nomatch hacknowledging
      | failed _ _ hfailed => rw [hfailed] at hacknowledging; exact nomatch hacknowledging
      | queued => rw [hpop] at hacknowledging; exact nomatch hacknowledging
      | packet htransferring => rw [hpop] at htransferring; exact nomatch htransferring

theorem Matches.pop (h : Matches r w) : Matches r (pop w) :=
  ⟨h.last, h.encrypted, h.header, h.resumed, h.started, h.pending, h.kind⟩

/-- The turns of the drain read the queue. -/
theorem Drains.reads (h : Drains w effects w') (hphase : w.phase = .transferring)
    (hreading : Reading r₀ consumed appends w) :
    w'.phase = .failed ∨
    (w'.phase = .finalizing ∧
      Closed r₀ (consumed ++ w.pendingPackets) (appends ++ appendsOf effects)) ∨
    ((w'.phase = .transferring ∨ w'.phase = .appending) ∧
      Receives r₀ (consumed ++ w.pendingPackets) (appends ++ appendsOf effects) w') := by
  induction h generalizing consumed appends with
  | done =>
    rw [appendsOf_nil, List.append_nil]
    exact .inr (.inr ⟨.inl hphase, consumed, rfl, hreading⟩)
  | @turn w w₁ w' value rest _ effects' _ hqueue hstep hturns ih =>
    have hpop : Reading r₀ consumed appends (pop w) := by
      obtain ⟨r, items, hreads, hbatched, hmatches⟩ := hreading
      exact ⟨r, items, hreads, hbatched, hmatches.pop⟩
    have hrest : (pop w).pendingPackets = rest := by
      rw [pop, hqueue]
      rfl
    have hnext := hstep.reads hphase hpop
    rw [hrest] at hnext
    rw [hqueue, appendsOf_append, ← List.append_assoc]
    rcases hnext with hfailed | ⟨hfinalizing, hclosed⟩ | ⟨hgoes, consumed', htaken, hreading'⟩
    · cases hturns with
      | done => exact .inl hfailed
      | turn hdrains => exact absurd hfailed (drains_ne_failed hdrains)
    · obtain ⟨hback, hlast⟩ := hturns.closed hfinalizing
      rw [hback, List.append_nil]
      rcases hlast with hlast | hlast
      · exact .inl hlast
      · exact .inr (.inl ⟨hlast, hclosed⟩)
    · rw [htaken]
      rcases hgoes with htransferring | happending
      · exact ih htransferring hreading'
      · cases hturns with
        | done =>
          rw [appendsOf_nil, List.append_nil]
          exact .inr (.inr ⟨.inr happending, consumed', rfl, hreading'⟩)
        | turn hdrains =>
          rw [happending] at hdrains
          cases hdrains

end Steps

/-! ## Runs -/

/-- The value that the event hands to the workflow, if it takes it. -/
def takenBy (w : RecordingTransferWorkflow) (event : HostEvent) : Option (List UInt8) :=
  match event.kind with
  | .ble (.notification characteristicUuid value) =>
    if w.phase.receives ∧ w.subscriptionRequestId = some event.requestId ∧
        characteristicUuid = CHAR_RECORDING_TRANSFER then some value
    else none
  | _ => none

theorem takenBy_eq_some {w : RecordingTransferWorkflow} {event : HostEvent} {value : List UInt8} :
    takenBy w event = some value ↔ Taken w event value := by
  obtain ⟨id, kind⟩ := event
  constructor
  · intro h
    rw [takenBy] at h
    split at h
    · rename_i characteristicUuid other hkind
      split at h
      · rename_i htakes
        obtain rfl := Option.some.inj h
        obtain ⟨hphase, hid, rfl⟩ := htakes
        exact ⟨hkind, hphase, hid⟩
      · exact nomatch h
    · exact nomatch h
  · rintro ⟨hkind, hphase, hid⟩
    obtain rfl : kind = _ := hkind
    exact if_pos ⟨hphase, hid, rfl⟩

/-- The value that an entry of a run hands to the active workflow. -/
def takenIn (entry : EngineEntry RecordingTransferWorkflow) : Option (List UInt8) :=
  match entry.pre.active, entry.input with
  | some w, .host event => takenBy w event
  | _, _ => none

/-- The notifications that a run has taken, oldest first. -/
def taken (trace : List (EngineEntry RecordingTransferWorkflow)) : List (List UInt8) :=
  trace.filterMap takenIn

/-- What a run has appended to the sink, oldest first. -/
def appended (trace : List (EngineEntry RecordingTransferWorkflow)) : List Item :=
  appendsOf (requestedIn trace)

section Traces

variable {trace : List (EngineEntry RecordingTransferWorkflow)}
  {entry : EngineEntry RecordingTransferWorkflow} {w : RecordingTransferWorkflow}

theorem taken_concat : taken (trace ++ [entry]) = taken trace ++ (takenIn entry).toList := by
  rw [taken, List.filterMap_append]
  cases h : takenIn entry <;> simp [taken, h]

theorem takenIn_host {event : HostEvent} (hact : entry.pre.active = some w)
    (hinput : entry.input = .host event) : takenIn entry = takenBy w event := by
  rw [takenIn, hact, hinput]

theorem takenIn_cancelled {id : CancellationId} (hinput : entry.input = .cancelled id) :
    takenIn entry = none := by
  rw [takenIn, hinput]
  split
  · rename_i heq
    exact nomatch heq
  · rfl

theorem takenIn_idle (hact : entry.pre.active = none) : takenIn entry = none := by
  rw [takenIn, hact]

theorem appended_concat :
    appended (trace ++ [entry]) =
      appended trace ++ appendsOf (entry.output.effects.map (·.effect)) := by
  rw [appended, requestedIn_append, requestedIn_singleton, appendsOf_append]
  rfl

end Traces

/-- The phases before the EOF and after it. -/
def opens : Phase → Bool
  | .truncatingSink | .subscribing | .starting | .transferring | .appending => true
  | _ => false

def closes : Phase → Bool
  | .finalizing | .waitingForSha | .acknowledging | .confirming => true
  | _ => false

theorem waits_of_closes {phase : Phase} (hcloses : closes phase) (hreceives : phase.receives) :
    phase = .finalizing ∨ phase = .waitingForSha := by
  cases phase <;> simp_all [closes, Phase.receives, Phase.drains]

theorem opens_cases {phase : Phase} (hopens : opens phase) (hreceives : phase.receives) :
    (phase = .starting ∨ phase = .appending) ∨ phase = .transferring := by
  cases phase <;> simp_all [opens, Phase.receives, Phase.drains]

/-- The state `new` leaves, up to requests. -/
structure Blank (w : RecordingTransferWorkflow) : Prop where
  phase : w.phase = .loadingCheckpoint
  completedUnits : w.completedUnits = 0
  lastSequence : w.lastSequence = none
  pendingSequence : w.pendingSequence = none
  encrypted : w.encrypted = none
  header : w.e2eHeaderReceived = false
  pendingPackets : w.pendingPackets = []

/-- How far a run has come with the reading that starts at `r₀`. -/
inductive Position (r₀ : Reader) (taken : List (List UInt8)) (appends : List Item)
    (w : RecordingTransferWorkflow) : Prop
  | blank : Blank w → taken = [] → appends = [] → Position r₀ taken appends w
  | receiving :
      opens w.phase → Receives r₀ taken appends w →
      (w.phase = .transferring → w.pendingPackets = []) → Position r₀ taken appends w
  | closed : closes w.phase → Closed r₀ taken appends → Position r₀ taken appends w

/-- A checkpoint that the event loads puts the reading at `r₀`. -/
def Loads (r₀ : Reader) (w : RecordingTransferWorkflow) (event : HostEvent) : Prop :=
  ∀ loaded, event.kind = .checkpointLoaded loaded → w.phase = .loadingCheckpoint →
    w.loadRequestId = some event.requestId →
    r₀ = {
      last := (restore loaded w).lastSequence
      encrypted := none
      header := false
      resumed := decide (0 < (restore loaded w).completedUnits) }

section Position

variable {r₀ : Reader} {w w' : RecordingTransferWorkflow} {event : HostEvent}
  {effects : List Effect} {taken : List (List UInt8)} {appends : List Item}

theorem Blank.restored (h : Blank w) (loaded : Option WorkflowCheckpoint) (m : RequestId) :
    Matches { last := (restore loaded w).lastSequence, encrypted := none, header := false
              resumed := decide (0 < (restore loaded w).completedUnits) }
      { restore loaded w with phase := .truncatingSink, sinkRequestId := some m } ∧
    (restore loaded w).pendingPackets = [] := by
  rw [restore]
  split
  · refine ⟨⟨?_, h.encrypted.symm, h.header.symm, fun _ => by simp, ?_, fun _ => h.pendingSequence,
      nofun⟩, h.pendingPackets⟩
    · rw [h.pendingSequence]
      rfl
    · rw [h.encrypted]
      exact nofun
  · refine ⟨⟨?_, h.encrypted.symm, h.header.symm, fun _ => by simp, ?_, fun _ => h.pendingSequence,
      nofun⟩, h.pendingPackets⟩
    · rw [h.pendingSequence]
      rfl
    · rw [h.encrypted]
      exact nofun

/-- After the EOF a transition appends nothing. -/
theorem Transition.closed (h : Transition w event w' effects) (hphase : closes w.phase) :
    appendsOf effects = [] ∧
      (closes w'.phase ∨ w'.phase = .completed ∨ w'.phase = .failed) := by
  cases h with
  | checkpointSaved => exact ⟨rfl, .inl hphase⟩
  | notified hreceives _ hstep =>
    obtain ⟨heffects, hnext⟩ := hstep.closed (waits_of_closes hphase hreceives)
    refine ⟨heffects, ?_⟩
    rcases hnext with hfailed | hsame | hacknowledging
    · exact .inr (.inr hfailed)
    · rw [hsame]
      exact .inl hphase
    · rw [hacknowledging]
      exact .inl rfl
  | checkpointLoaded h' | sinkTruncated h' | subscribed h' =>
    rw [h'] at hphase
    exact nomatch hphase
  | reopened hreopens => cases hreopens with
    | started h' | appended h' =>
      rw [h'] at hphase
      exact nomatch hphase
  | finalizedWithSha => exact ⟨appendsOf_acknowledge w, .inl rfl⟩
  | finalized => exact ⟨rfl, .inl rfl⟩
  | graceElapsed => exact ⟨rfl, .inl hphase⟩
  | graceEnded => exact ⟨rfl, .inl rfl⟩
  | acknowledged => exact ⟨rfl, .inl rfl⟩
  | completed =>
    refine ⟨?_, .inr (.inl rfl)⟩
    cases hsub : w.subscriptionRequestId <;>
      simp [completeEffects, unsubscribeEffects, hsub, appendsOf, append?, unsubscribeEffect]
  | failed _ hfailed _ heffects => exact ⟨heffects.appendsOf, .inr (.inr hfailed)⟩

theorem Closed.append (h : Closed r₀ taken appends) (more : List (List UInt8)) :
    Closed r₀ (taken ++ more) appends := by
  obtain ⟨consumed, eof, rest, r, items, rfl, hrest⟩ := h
  exact ⟨consumed, eof, rest ++ more, r, items, by rw [List.append_assoc, List.cons_append], hrest⟩

/-- A transition that leaves the opening state blank or loads the checkpoint. -/
theorem Transition.from_blank (h : Transition w event w' effects) (hblank : Blank w)
    (hload : Loads r₀ w event) (hrunning : ¬(w'.phase = .completed ∨ w'.phase = .failed)) :
    takenBy w event = none ∧ appendsOf effects = [] ∧ Position r₀ [] [] w' := by
  have hphase := hblank.phase
  cases h with
  | checkpointSaved =>
    exact ⟨rfl, rfl, .blank ⟨hphase, hblank.completedUnits, hblank.lastSequence,
      hblank.pendingSequence, hblank.encrypted, hblank.header, hblank.pendingPackets⟩ rfl rfl⟩
  | @checkpointLoaded id m loaded hloading hid =>
    obtain ⟨hmatches, hqueue⟩ := hblank.restored loaded m
    rw [← hload loaded rfl hloading hid] at hmatches
    refine ⟨rfl, rfl, .receiving rfl ⟨[], ?_, r₀, [], .nil, .nil, hmatches⟩ (fun _ => hqueue)⟩
    rw [List.nil_append]
    exact hqueue.symm
  | notified h' =>
    rw [hphase] at h'
    exact nomatch h'
  | reopened hreopens => cases hreopens with
    | started h' | appended h' =>
      rw [hphase] at h'
      exact nomatch h'
  | completed h' => rcases h' with ⟨h', -⟩ | h' <;> rw [hphase] at h' <;> exact nomatch h'
  | failed _ hfailed => exact absurd (.inr hfailed) hrunning
  | sinkTruncated h' | subscribed h' | finalizedWithSha h' | finalized h' | graceElapsed h'
  | graceEnded h' | acknowledged h' =>
    rw [hphase] at h'
    exact nomatch h'

/-- The drain starts from a reading of the same values. -/
theorem Reopens.reading (h : Reopens w event w' effects) (hreceives : Receives r₀ taken appends w) :
    takenBy w event = none ∧ appendsOf effects = [] ∧ w'.phase = .transferring ∧
      ∃ consumed, taken = consumed ++ w'.pendingPackets ∧ Reading r₀ consumed appends w' := by
  obtain ⟨consumed, htaken, r, items, hreads, hbatched, hm⟩ := hreceives
  cases h with
  | started hstarting =>
    refine ⟨rfl, rfl, rfl, consumed, htaken, r, items, hreads, hbatched, ?_⟩
    exact ⟨hm.last, hm.encrypted, hm.header, hm.resumed, hm.started,
      fun _ => hm.pending (by rw [hstarting]; decide), nofun⟩
  | appended happending =>
    refine ⟨rfl, rfl, rfl, consumed, htaken, r, items, hreads, hbatched, ?_⟩
    exact ⟨hm.last, hm.encrypted, hm.header, fun hnone => absurd hnone (hm.kind happending),
      hm.started, fun _ => rfl, nofun⟩

/-- A transition before the EOF. -/
theorem Transition.from_receiving (h : Transition w event w' effects) (hphase : opens w.phase)
    (hreceives : Receives r₀ taken appends w)
    (hqueue : w.phase = .transferring → w.pendingPackets = [])
    (hrunning : ¬(w'.phase = .completed ∨ w'.phase = .failed)) :
    Position r₀ (taken ++ (takenBy w event).toList) (appends ++ appendsOf effects) w' := by
  have hnot : ∀ phase : Phase, opens phase = false → w.phase ≠ phase := by
    intro phase hcloses hsame
    rw [hsame, hcloses] at hphase
    exact nomatch hphase
  -- only a notification and a reopening read; the other steps leave what was read
  cases h with
  | checkpointSaved =>
    obtain ⟨consumed, htaken, r, items, hreads, hbatched, hm⟩ := hreceives
    rw [appendsOf_nil, List.append_nil]
    refine .receiving hphase ⟨consumed, ?_, r, items, hreads, hbatched, ?_⟩ hqueue
    · exact (List.append_nil _).trans htaken
    · exact ⟨hm.last, hm.encrypted, hm.header, hm.resumed, hm.started, hm.pending, hm.kind⟩
  | @notified id value w' effects hreceive hid hstep =>
    have htakes : takenBy w ⟨id, .ble (.notification CHAR_RECORDING_TRANSFER value)⟩ = some value :=
      takenBy_eq_some.mpr ⟨rfl, hreceive, hid⟩
    rw [htakes, Option.toList_some]
    rcases opens_cases hphase hreceive with hwaits | htransferring
    · rcases hstep.queues hwaits hreceives with hfailed | ⟨hsame, hreceives'⟩
      · exact absurd (.inr hfailed) hrunning
      · refine .receiving (by rw [hsame]; exact hphase) hreceives' (fun htransferring => ?_)
        rw [hsame] at htransferring
        rcases hwaits with hwaits | hwaits <;> rw [htransferring] at hwaits <;> exact nomatch hwaits
    · obtain ⟨consumed, rfl, hreading⟩ := hreceives
      have hnext := hstep.reads htransferring hreading
      rw [hqueue htransferring] at hnext ⊢
      rw [List.append_nil]
      rcases hnext with hfailed | ⟨hfinalizing, hclosed⟩ | ⟨hgoes, hreceives'⟩
      · exact absurd (.inr hfailed) hrunning
      · exact .closed (by rw [hfinalizing]; rfl) hclosed
      · refine .receiving (by rcases hgoes with hgoes | hgoes <;> rw [hgoes] <;> rfl) hreceives' ?_
        intro hstill
        exact hstep.queue_empty htransferring (hqueue htransferring) hstill
  | checkpointLoaded h' => exact absurd h' (hnot _ rfl)
  | @sinkTruncated id m htruncating =>
    obtain ⟨consumed, htaken, r, items, hreads, hbatched, hm⟩ := hreceives
    refine .receiving rfl ⟨consumed, ?_, r, items, hreads, ?_, ?_⟩ nofun
    · exact (List.append_nil _).trans htaken
    · exact (List.append_nil appends).symm ▸ hbatched
    · exact ⟨hm.last, hm.encrypted, hm.header, hm.resumed, hm.started,
        fun _ => hm.pending (by rw [htruncating]; decide), nofun⟩
  | @subscribed id m hsubscribing =>
    obtain ⟨consumed, htaken, r, items, hreads, hbatched, hm⟩ := hreceives
    refine .receiving rfl ⟨consumed, ?_, r, items, hreads, ?_, ?_⟩ nofun
    · exact (List.append_nil _).trans htaken
    · exact (List.append_nil appends).symm ▸ hbatched
    · exact ⟨hm.last, hm.encrypted, hm.header, hm.resumed, hm.started,
        fun _ => hm.pending (by rw [hsubscribing]; decide), nofun⟩
  | reopened hreopens hturns hempty =>
    obtain ⟨hnone, hfront, htransferring, consumed, rfl, hreading⟩ := hreopens.reading hreceives
    rw [hnone, appendsOf_append, hfront, List.nil_append, Option.toList_none, List.append_nil]
    rcases hturns.reads htransferring hreading with
      hfailed | ⟨hfinalizing, hclosed⟩ | ⟨hgoes, hreceives'⟩
    · exact absurd (.inr hfailed) hrunning
    · exact .closed (by rw [hfinalizing]; rfl) hclosed
    · refine .receiving (by rcases hgoes with hgoes | hgoes <;> rw [hgoes] <;> rfl) hreceives' ?_
      intro hstill
      exact hempty (by rw [hstill]; rfl)
  | failed _ hfailed => exact absurd (.inr hfailed) hrunning
  | completed h' =>
    rcases h' with ⟨h', -⟩ | h' <;> exact absurd h' (hnot _ rfl)
  | finalizedWithSha h' | finalized h' | graceElapsed h' | graceEnded h' | acknowledged h' =>
    exact absurd h' (hnot _ rfl)

/-- What every transition does to the position of a run. -/
theorem Position.step (h : Position r₀ taken appends w) (hstep : Transition w event w' effects)
    (hload : Loads r₀ w event) (hrunning : ¬(w'.phase = .completed ∨ w'.phase = .failed)) :
    Position r₀ (taken ++ (takenBy w event).toList) (appends ++ appendsOf effects) w' := by
  cases h with
  | blank hblank htaken happends =>
    obtain ⟨hnone, hquiet, hnext⟩ := hstep.from_blank hblank hload hrunning
    rw [htaken, happends, hnone, hquiet]
    exact hnext
  | receiving hphase hreceives hqueue =>
    exact hstep.from_receiving hphase hreceives hqueue hrunning
  | closed hphase hclosed =>
    obtain ⟨hquiet, hnext⟩ := hstep.closed hphase
    rw [hquiet, List.append_nil]
    exact .closed (hnext.resolve_right hrunning) (hclosed.append _)

/-- A turn that leaves the drain running appends nothing. -/
theorem NotificationStep.no_append {value : List UInt8} (h : NotificationStep w value w' effects)
    (hgoes : w'.phase.drains) : appendsOf effects = [] := by
  cases h with
  | packet _ _ hstep =>
    cases hstep with
    | data | e2eStart | encryptedData => exact nomatch hgoes
    | _ => rfl
  | awaitedSha256 => exact nomatch hgoes
  | failed _ _ hfailed =>
    rw [hfailed] at hgoes
    exact nomatch hgoes
  | _ => rfl

theorem Drains.no_append (h : Drains w effects w') (hgoes : w'.phase.drains) :
    appendsOf effects = [] := by
  induction h with
  | done => rfl
  | @turn w w₁ w' _ _ _ _ _ _ hstep hturns ih =>
    have hstill : w₁.phase.drains := by
      cases hturns with
      | done => exact hgoes
      | turn hdrains => exact hdrains
    rw [appendsOf_append, hstep.no_append hstill, ih hgoes, List.nil_append]

/-- A value too long to frame is among the values. -/
def Overlong (values : List (List UInt8)) : Prop :=
  ∃ value ∈ values, ∃ packet, parseTransferPacket value = .ok packet ∧ Oversized packet

/-- Only a late value interrupts the drain, so the EOF was taken. -/
theorem Interrupted.closed (h : Interrupted w event w') (hposition : Position r₀ taken appends w)
    (hfits : ¬Overlong taken) :
    takenBy w event = none ∧ closes w'.phase ∧ Closed r₀ taken appends := by
  obtain ⟨w₀, effects, effects', w₁, value, hreopens, hturns, hstopped, hlate⟩ := h
  have hreceives : Receives r₀ taken appends w := by
    cases hposition with
    | receiving _ hreceives => exact hreceives
    | blank hblank =>
      have hphase := hblank.phase
      cases hreopens with
      | started h' | appended h' =>
        rw [hphase] at h'
        cases h'
    | closed hphase =>
      cases hreopens with
      | started h' | appended h' =>
        rw [h'] at hphase
        cases hphase
  obtain ⟨hnone, -, htransferring, consumed, rfl, hreading⟩ := hreopens.reading hreceives
  have hreads := hturns.reads htransferring hreading
  rw [hturns.no_append hstopped.drains, List.append_nil] at hreads
  have hpopped : w'.phase = w₁.phase := by rw [hstopped.popped, pop]
  rcases hreads with hfailed | ⟨hfinalizing, hclosed⟩ | ⟨hgoes, consumed', htaken, -⟩
  · exact absurd hfailed (drains_ne_failed hstopped.drains)
  · exact ⟨hnone, by rw [hpopped, hfinalizing]; rfl, hclosed⟩
  · rcases hlate with hlate | ⟨-, packet, hparse, hover⟩
    · rcases hlate with hlate | hlate <;> rcases hgoes with hgoes | hgoes <;>
        rw [hlate] at hgoes <;> cases hgoes
    · obtain ⟨rest, hrest⟩ := hstopped.queued
      refine absurd ⟨value, ?_, packet, hparse, hover⟩ hfits
      rw [htaken, hrest]
      simp

end Position

end RecordingTransferWorkflow

end BotaSdk
