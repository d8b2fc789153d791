import BotaSdk.Lib.Run
import BotaSdk.Protocol.ReceiverSteps

/-!
# The bookkeeping of the batch-v2 receiver

Over every order of calls, with any frames and any answers of the port: no assertion of the receiver
fires, and its buffer is accounted for.
-/

namespace BotaSdk.EncryptedUploadV2Receiver

open Protocol TransferV2

section Steps

variable {sha256 : List UInt8 → FixedBytes 32} {self next : EncryptedUploadV2Receiver}

/-! ## The buffer -/

theorem Buffered.transfer (h : Buffered self) (hpackets : next.packets = self.packets)
    (hbytes : next.bufferedBytes = self.bufferedBytes) : Buffered next := by
  constructor
  · rw [hpackets, hbytes, h.total]
  · rw [hbytes]
    exact h.bound
  · rw [hpackets]
    exact h.disjoint

theorem Buffered.empty (hpackets : next.packets = ∅) (hbytes : next.bufferedBytes = 0) :
    Buffered next := by
  constructor
  · rw [hpackets, hbytes]
    rfl
  · rw [hbytes]
    exact Nat.zero_le _
  · intro sequence sequence' packet packet' hlookup
    rw [hpackets, AList.lookup_empty] at hlookup
    exact nomatch hlookup

theorem lookup_insert_cases {packets : BySequence Packet} {fresh sequence : Nat}
    {added packet : Packet}
    (hlookup : (packets.insert fresh added).lookup sequence = some packet) :
    sequence = fresh ∧ packet = added ∨ sequence ≠ fresh ∧ packets.lookup sequence = some packet := by
  by_cases hsame : sequence = fresh
  · obtain rfl := hsame
    rw [AList.lookup_insert] at hlookup
    exact .inl ⟨rfl, (Option.some.inj hlookup).symm⟩
  · rw [AList.lookup_insert_ne hsame] at hlookup
    exact .inr ⟨hsame, hlookup⟩

/-- A packet that overlaps no other one is added to the account. -/
theorem Buffered.insert (h : Buffered self) {sequence : Nat} {added : Packet}
    (hfresh : self.packets.lookup sequence = none) (hpackets : next.packets =
      self.packets.insert sequence added)
    (hbytes : next.bufferedBytes =
      self.bufferedBytes + (added.bytes.length + PACKET_METADATA_BYTES))
    (hbound : next.bufferedBytes ≤ MAXIMUM_BUFFERED_BYTES)
    (hdisjoint : ∀ sequence' packet, self.packets.lookup sequence' = some packet →
      added.stop ≤ packet.offset ∨ packet.stop ≤ added.offset) : Buffered next := by
  constructor
  · rw [hpackets, hbytes, AList.entries_insert_of_notMem (AList.lookup_eq_none.mp hfresh),
      List.map_cons, List.sum_cons, ← h.total, Nat.add_comm]
  · exact hbound
  · rw [hpackets]
    intro key key' packet packet' hpacket hpacket' hne
    rcases lookup_insert_cases hpacket with ⟨rfl, rfl⟩ | ⟨-, hold⟩
    · rcases lookup_insert_cases hpacket' with ⟨rfl, -⟩ | ⟨-, hold'⟩
      · exact absurd rfl hne
      · exact hdisjoint key' packet' hold'
    · rcases lookup_insert_cases hpacket' with ⟨-, rfl⟩ | ⟨-, hold'⟩
      · exact (hdisjoint key packet hold).symm
      · exact h.disjoint key key' packet packet' hold hold' hne

theorem Buffered.frame {frame : EncryptedUploadV2Transfer} {action : EncryptedUploadV2ReceiverAction}
    (h : Buffered self) (hstep : FrameStep sha256 self frame next action) : Buffered next := by
  cases hstep with
  | acknowledgedData => exact h
  | duplicateData => exact h
  | bufferedData _ sequence offset data hfresh _ _ hbound hdisjoint =>
    exact h.insert hfresh rfl rfl hbound hdisjoint
  | reacknowledged => exact h
  | window value pending written rest next action _ _ _ hadvance =>
    cases hadvance with
    | append _ _ _ => exact h.transfer rfl rfl
    | inspect => exact h.transfer rfl rfl
  | manifest => exact h.transfer rfl rfl
  | markerFragment => exact h.transfer rfl rfl
  | markerDocument => exact h.transfer rfl rfl
  | eof => exact h.transfer rfl rfl

theorem Buffered.event {purpose : IoPurpose} {event : EncryptedUploadV2ReceiverEvent}
    {action : EncryptedUploadV2ReceiverAction} (h : Buffered self)
    (hstep : EventStep sha256 self purpose event next action) : Buffered next := by
  cases hstep with
  | appended _ pending written batch rest _ _ _ _ hadvance =>
    cases hadvance with
    | append _ _ _ => exact h.transfer rfl rfl
    | inspect => exact h.transfer rfl rfl
  | persisted => exact .empty rfl rfl
  | _ => exact h.transfer rfl rfl

/-! ## The invariant -/

theorem Sound.requested {purpose : IoPurpose} (h : Sound self) (hstarted : self.started = true)
    (howned : Owned sha256 (requested self purpose) purpose) :
    Bookkeeping sha256 (requested self purpose) where
  sound := { h with }
  idle := nofun
  owned := fun io hio => by
    obtain rfl := Option.some.inj hio
    exact howned
  issued := fun io hio => by
    obtain rfl := Option.some.inj hio
    exact Nat.lt_succ_self _
  unstarted := fun hunstarted => absurd (hstarted.symm.trans hunstarted) (by decide)

theorem Sound.bookkeeping (h : Sound self) (hio : self.io = none) (hstarted : self.started = true)
    (hidle : Idle self) : Bookkeeping sha256 self where
  sound := h
  idle := fun _ => hidle
  owned := fun io hsome => nomatch hio.symm.trans hsome
  issued := fun io hsome => nomatch hio.symm.trans hsome
  unstarted := fun hunstarted => absurd (hstarted.symm.trans hunstarted) (by decide)

theorem idle_of_none (h : self.pendingWindow = none) : Idle self :=
  fun _ hsome => nomatch h.symm.trans hsome

/-- The next I/O of a window is owned by that window. -/
theorem Sound.advance {pending : PendingWindow} {written rest : List Packet}
    {action : EncryptedUploadV2ReceiverAction} (h : Sound self) (hstarted : self.started = true)
    (hpending : self.pendingWindow = some pending) (hheld : WindowHeld self pending written rest)
    (hadvance : Advance self pending rest next action) : Bookkeeping sha256 next := by
  cases hadvance with
  | append batch rest hbatch =>
    exact h.requested hstarted
      ⟨pending, written, batch, rest, hpending, hheld.transfer rfl rfl rfl rfl rfl, hbatch, rfl⟩
  | inspect =>
    exact h.requested hstarted ⟨pending, written, hpending, hheld.transfer rfl rfl rfl rfl rfl⟩

/-- A packet that the pending window asked for leaves it as it was. -/
theorem WindowHeld.insert {pending : PendingWindow} {written rest : List Packet}
    (h : WindowHeld self pending written rest) {sequence : Nat} {packet : Packet} {bytes : Nat}
    (hfresh : self.packets.lookup sequence = none) (hlast : sequence ≤
      pending.boundary.lastSequence.toNat)
    (hstop : packet.stop ≤ pending.boundary.nextCiphertextOffset.toNat) :
    WindowHeld { self with
      bufferedBytes := bytes
      packets := self.packets.insert sequence packet } pending written rest where
  first := h.first
  last := h.last
  revision := h.revision
  next := h.next
  length := h.length
  chain := h.chain.insert (AList.lookup_eq_none.mp hfresh)
  highest := h.highest
  room := h.room
  contiguous := h.contiguous
  staged := h.staged
  inside := fun key found hlookup => by
    rcases lookup_insert_cases hlookup with ⟨rfl, rfl⟩ | ⟨-, hold⟩
    · exact ⟨hlast, hstop⟩
    · exact h.inside key found hold
  asked := h.asked
  missing := h.missing
  clean := h.clean

theorem unrequested_eq_false {pending : PendingWindow} {sequence stop : Nat}
    (hpending : self.pendingWindow = some pending)
    (h : self.unrequested sequence stop = false) :
    sequence ∈ pending.missing ∧ stop ≤ pending.boundary.nextCiphertextOffset.toNat := by
  rw [unrequested, hpending] at h
  simp only [Bool.or_eq_false_iff, Bool.not_eq_false', decide_eq_false_iff_not, not_lt,
    List.contains_eq_mem, decide_eq_true_eq] at h
  exact ⟨h.1.2, h.2⟩

theorem Bookkeeping.buffer {sequence : Nat} {added : Packet} {bytes : Nat}
    (h : Bookkeeping sha256 self) (hio : self.io = none) (hstarted : self.started = true)
    (hfresh : self.packets.lookup sequence = none)
    (hheld : PacketHeld self.config self.checkpoint self.firstSequence sequence added)
    (hrequested : self.unrequested sequence added.stop = false) :
    Bookkeeping sha256 { self with
      bufferedBytes := bytes
      packets := self.packets.insert sequence added } := by
  have hsound : Sound { self with
      bufferedBytes := bytes
      packets := self.packets.insert sequence added } :=
    { h.sound with
      packet := fun key packet hlookup => by
        rcases lookup_insert_cases hlookup with ⟨rfl, rfl⟩ | ⟨-, hold⟩
        · exact hheld
        · exact h.sound.packet key packet hold }
  refine hsound.bookkeeping hio hstarted fun pending hpending => ?_
  obtain ⟨hmissing, written, hwindow⟩ := h.idle hio pending hpending
  obtain ⟨hasked, hstop⟩ := unrequested_eq_false hpending hrequested
  exact ⟨hmissing, written, hwindow.insert hfresh (hwindow.asked sequence hasked) hstop⟩

theorem pendingWindow_of_markerRejected {value : MarkerChunkV2}
    (h : ¬self.markerRejected sha256 value) : self.pendingWindow = none := by
  simp only [markerRejected, not_or] at h
  exact Option.not_isSome_iff_eq_none.mp h.2.1

theorem Bookkeeping.frame {frame : EncryptedUploadV2Transfer}
    {action : EncryptedUploadV2ReceiverAction} (h : Bookkeeping sha256 self) (hio : self.io = none)
    (hstarted : self.started = true) (hstep : FrameStep sha256 self frame next action) :
    Bookkeeping sha256 next := by
  -- no request is pending, so that a frame may make one
  cases hstep with
  | acknowledgedData => exact h
  | duplicateData => exact h
  | bufferedData _ sequence offset data hfresh hheld hrequested _ _ =>
    exact h.buffer hio hstarted hfresh hheld hrequested
  | reacknowledged => exact h
  | window value pending written rest next action _ _ hheld hadvance =>
    have hsound : Sound { self with pendingWindow := some pending } :=
      { h.sound with staged := nofun }
    exact hsound.advance hstarted rfl (hheld.transfer rfl rfl rfl rfl rfl) hadvance
  | manifest value manifest present hpending _ _ hmanifest hpresent =>
    have hsound : Sound { self with
        manifest
        manifestPresent := present
        manifestSha256 := some value.manifestSha256 } :=
      { h.sound with
        manifest := ⟨hmanifest.trans h.sound.manifest.1, hpresent.trans h.sound.manifest.2⟩ }
    exact hsound.bookkeeping hio hstarted (idle_of_none hpending)
  | markerFragment value slot hvalue _ hslot =>
    have hsound : Sound { self with
        markerCount := some value.documentCount
        markerSlot := some slot } :=
      { h.sound with
        slot := fun slot' hsome => by
          obtain rfl := Option.some.inj hsome
          exact hslot }
    have hpending : self.pendingWindow = none := pendingWindow_of_markerRejected hvalue
    exact hsound.bookkeeping hio hstarted (idle_of_none hpending)
  | markerDocument value slot document contextDigest hvalue _ hslot hdocument _ =>
    have hsound : Sound { self with
        markerCount := some value.documentCount
        markerSlot := some slot
        markerContextDigest := some contextDigest } :=
      { h.sound with
        slot := fun slot' hsome => by
          obtain rfl := Option.some.inj hsome
          exact hslot }
    have hpending : self.pendingWindow = none := pendingWindow_of_markerRejected hvalue
    exact hsound.requested hstarted ⟨hpending, slot, document, rfl, hdocument⟩
  | eof value hvalue =>
    simp only [eofRejected, not_or, not_not, not_and, equalHash_eq_false_iff] at hvalue
    obtain ⟨hpending, -, hmarkers, -, -, hoffset, hlength, hhash, -, -, hmanifest⟩ := hvalue
    refine (Sound.requested h.sound hstarted ?_)
    exact ⟨Option.not_isSome_iff_eq_none.mp hpending, hoffset, hlength, hhash, hmanifest.symm,
      fun hrequired => (hmarkers hrequired).1⟩

theorem Bookkeeping.event {purpose : IoPurpose} {event : EncryptedUploadV2ReceiverEvent}
    {action : EncryptedUploadV2ReceiverAction} (h : Sound self) (hio : self.io = none)
    (hstarted : self.started = true) (howned : Owned sha256 self purpose)
    (hstep : EventStep sha256 self purpose event next action) (hrunning : next.terminal = false) :
    Bookkeeping sha256 next := by
  -- the answer settles the request, and what it was for says what the receiver owns next
  cases hstep with
  | proved _ =>
    have hsound : Sound { self with prepared := true } := { h with }
    exact hsound.bookkeeping hio hstarted (idle_of_none howned.2)
  | untruncated => exact h.requested hstarted howned
  | truncated _ =>
    have hsound : Sound { self with prepared := true } := { h with }
    exact hsound.bookkeeping hio hstarted (idle_of_none howned.2)
  | appended _ pending written batch rest _ _ hpending hheld hadvance =>
    have hsound : Sound { self with
        stagedOffset := self.stagedOffset + (content batch).length } :=
      { h with staged := fun hnone => nomatch hnone.symm.trans hpending }
    exact hsound.advance hstarted hpending hheld.stage hadvance
  | repair _ _ pending written _ hpending hheld hmissing =>
    refine h.bookkeeping hio hstarted fun pending' hpending' => ?_
    obtain rfl : pending = pending' := Option.some.inj (hpending.symm.trans hpending')
    exact ⟨hmissing, written, hheld⟩
  | clean _ pending written hpending hheld hclean =>
    exact h.requested hstarted
      ⟨pending, written, hpending, hheld.transfer rfl rfl rfl rfl rfl, hclean⟩
  | persisted _ pending written _ hpending hheld hclean =>
    have hsound : Sound { self with
        pendingWindow := none
        checkpoint := candidateCheckpoint pending.boundary
        highestSequence := some pending.boundary.lastSequence.toNat
        acknowledgedWindow := some pending.boundary
        acknowledgedPackets := mapValues (fingerprint sha256) self.packets
        packets := ∅
        bufferedBytes := 0 } :=
      { h with
        checkpoint := UInt64.le_iff_toNat_le.mp hheld.length
        packet := fun sequence packet hlookup => by
          rw [AList.lookup_empty] at hlookup
          exact nomatch hlookup
        staged := fun _ => by
          have hcontiguous := hheld.contiguous
          rw [List.append_nil, hheld.clean hclean] at hcontiguous
          exact hheld.staged.trans hcontiguous.symm }
    exact hsound.bookkeeping hio hstarted (idle_of_none rfl)
  | markerPersisted _ slot document hslot _ =>
    have hsound : Sound { self with
        markerSlot := none
        markerDocumentsHash := self.markerDocumentsHash ++ document
        markerDocumentsPersisted := self.markerDocumentsPersisted + 1 } :=
      { h with slot := nofun }
    exact hsound.bookkeeping hio hstarted (idle_of_none howned.1)
  | completed => exact absurd hrunning (Ne.symm Bool.false_ne_true)

theorem FrameStep.cancelled {frame : EncryptedUploadV2Transfer}
    {action : EncryptedUploadV2ReceiverAction} (h : FrameStep sha256 self frame next action) :
    next.cancelled = self.cancelled := by
  cases h with
  | window _ _ _ _ _ _ _ _ _ hadvance => cases hadvance <;> rfl
  | _ => rfl

theorem EventStep.cancelled {purpose : IoPurpose} {event : EncryptedUploadV2ReceiverEvent}
    {action : EncryptedUploadV2ReceiverAction} (h : EventStep sha256 self purpose event next action) :
    next.cancelled = self.cancelled := by
  cases h with
  | appended _ _ _ _ _ _ _ _ _ hadvance => cases hadvance <;> rfl
  | _ => rfl

theorem not_cancelled (h : Kept sha256 self) (hrunning : self.terminal = false) :
    ¬self.cancelled = true :=
  fun hcancelled => Bool.false_ne_true (hrunning.symm.trans (h.cancelled hcancelled))

/-- Every call keeps the invariant. -/
theorem Kept.call (h : Kept sha256 self) (input : Call) :
    Kept sha256 (EncryptedUploadV2Receiver.call sha256 self input).1 := by
  have hstep := call_cases h input
  generalize (EncryptedUploadV2Receiver.call sha256 self input).1 = next at hstep ⊢
  generalize (EncryptedUploadV2Receiver.call sha256 self input).2 = reply at hstep
  cases hstep with
  | refused _ error _ => exact h
  | failed _ _ error _ hterminal _ hpackets hbytes =>
    exact ⟨h.buffered.transfer hpackets hbytes, fun _ => hterminal,
      fun hrunning => absurd (hterminal.symm.trans hrunning) (by decide)⟩
  | cancelled => exact ⟨.empty rfl rfl, fun _ => rfl, nofun⟩
  | started hrunning hstarted =>
    obtain ⟨-, -, hprepared, hpending⟩ := (h.running hrunning).unstarted hstarted
    have hsound : Sound { self with started := true } := { (h.running hrunning).sound with }
    exact ⟨h.buffered.transfer rfl rfl, h.cancelled,
      fun _ => hsound.requested rfl ⟨hprepared, hpending⟩⟩
  | received bytes frame _ action hrunning hio hprepared _ hstep =>
    have hstarted : self.started = true := by
      by_contra hunstarted
      have := ((h.running hrunning).unstarted (by simpa using hunstarted)).2.2.1
      exact Bool.false_ne_true (this.symm.trans hprepared)
    exact ⟨h.buffered.frame hstep,
      fun hcancelled => absurd (hstep.cancelled.symm.trans hcancelled) (not_cancelled h hrunning),
      fun _ => (h.running hrunning).frame hio hstarted hstep⟩
  | answered event purpose _ action hrunning hio hstep =>
    have hstarted : self.started = true := by
      by_contra hunstarted
      have := ((h.running hrunning).unstarted (by simpa using hunstarted)).2.1
      exact nomatch this.symm.trans hio
    have hbuffered : Buffered { self with io := none } := h.buffered.transfer rfl rfl
    have hsound : Sound { self with io := none } := { (h.running hrunning).sound with }
    have hcancelled : ¬self.cancelled = true := not_cancelled h hrunning
    exact ⟨hbuffered.event hstep,
      fun hlater => absurd (hstep.cancelled.symm.trans hlater) hcancelled,
      .event hsound rfl hstarted ((h.running hrunning).owned _ hio).taken hstep⟩

end Steps

/-! ## Runs -/

abbrev Exchange := Machine.Entry EncryptedUploadV2Receiver Call Reply

/-- The runs of a host: any call at any time. -/
abbrev Calls (sha256 : List UInt8 → FixedBytes 32) :=
  Machine.Run (call sha256) (fun _ _ _ => True)

section Runs

variable {sha256 : List UInt8 → FixedBytes 32} {config : EncryptedUploadV2ReceiverConfig}
  {receiver s : EncryptedUploadV2Receiver} {tr : List Exchange}

/-- A receiver as `new` makes it. -/
def fresh (config : EncryptedUploadV2ReceiverConfig) : EncryptedUploadV2Receiver where
  config
  checkpoint := config.checkpoint
  highestSequence := none
  packets := ∅
  bufferedBytes := 0
  stagedOffset := config.checkpoint.nextCiphertextOffset.toNat
  pendingWindow := none
  acknowledgedWindow := none
  acknowledgedPackets := ∅
  manifest := .replicate UPLOAD_MANIFEST_V2_FIXED_LENGTH 0
  manifestPresent := .replicate UPLOAD_MANIFEST_V2_FIXED_LENGTH false
  manifestSha256 := none
  markerCount := none
  markerDocumentsPersisted := 0
  markerSlot := none
  markerDocumentsHash := []
  markerContextDigest := none
  io := none
  nextRequestId := 1
  started := false
  prepared := false
  terminal := false
  cancelled := false

theorem new_eq_ok (hnew : new sha256 config = .ok receiver) :
    AcceptedConfig config ∧ receiver = fresh config := by
  unfold new at hnew
  dsimp only at hnew
  split at hnew
  · exact nomatch hnew
  next haccepted =>
  simp only [not_or, not_lt, MAX_MTU, ENCRYPTED_UPLOAD_V2_DATA_MINIMUM_LENGTH,
    ENCRYPTED_UPLOAD_V2_WINDOW_ACK_MINIMUM_LENGTH] at haccepted
  obtain ⟨hsession, hlength, -, hpayload, -, -, hmissing, hcheckpoint, -⟩ := haccepted
  exact ⟨⟨hsession, hlength, hpayload, hmissing, UInt64.le_iff_toNat_le.mp
    (UInt64.not_lt.mp hcheckpoint)⟩, (Except.ok.inj hnew).symm⟩

theorem kept_of_new (hnew : new sha256 config = .ok receiver) : Kept sha256 receiver := by
  obtain ⟨hconfig, rfl⟩ := new_eq_ok hnew
  have hsound : Sound (fresh config) :=
    { config := hconfig
      checkpoint := hconfig.checkpoint
      packet := fun sequence packet hlookup => by
        rw [fresh, AList.lookup_empty] at hlookup
        exact nomatch hlookup
      staged := fun _ => rfl
      manifest := ⟨List.length_replicate, List.length_replicate⟩
      slot := nofun }
  exact ⟨.empty rfl rfl, nofun, fun _ => ⟨hsound, fun _ => idle_of_none rfl, nofun, nofun,
    fun _ => ⟨rfl, rfl, rfl, rfl⟩⟩⟩

theorem kept_of_calls (hnew : new sha256 config = .ok receiver) (h : Calls sha256 receiver tr s) :
    Kept sha256 s :=
  h.invariant (fun _ s => Kept sha256 s) (kept_of_new hnew) fun _ _ input _ hkept _ =>
    hkept.call input

theorem CallStep.not_panicked {self next : EncryptedUploadV2Receiver} {input : Call} {reply : Reply}
    (h : CallStep sha256 self input next reply) : reply ≠ .panicked := by
  cases h <;> exact nofun

/-- In every state that calls can reach no call panics, the buffer is accounted for and bounded, no two
packets share a byte, and the scan of a window never finds the staged prefix inside a packet or beyond
the contiguous run. -/
theorem assertions_hold (sha256 : List UInt8 → FixedBytes 32)
    (config : EncryptedUploadV2ReceiverConfig) (receiver s : EncryptedUploadV2Receiver)
    (tr : List Exchange) (hnew : new sha256 config = .ok receiver)
    (h : Calls sha256 receiver tr s) :
    (∀ input, (call sha256 s input).2 ≠ .panicked) ∧
      s.bufferedBytes = (s.packets.entries.map fun entry => entry.2.bytes.length + 80).sum ∧
      s.bufferedBytes ≤ 1024 * 1024 ∧
      (∀ sequence sequence' packet packet', s.packets.lookup sequence = some packet →
        s.packets.lookup sequence' = some packet' → sequence ≠ sequence' →
        packet.offset + packet.bytes.length ≤ packet'.offset ∨
          packet'.offset + packet'.bytes.length ≤ packet.offset) ∧
      ∀ value, s.terminal = false → s.io = none → ¬s.malformedBoundary value →
        s.scanBoundary value ≠ .err stagedPrefixSplits ∧
          ∀ contiguousOffset highest, s.scanBoundary value = .ok (contiguousOffset, highest) →
            s.stagedOffset ≤ contiguousOffset := by
  have hkept := kept_of_calls hnew h
  refine ⟨fun input => (call_cases hkept input).not_panicked, hkept.buffered.total,
    hkept.buffered.bound, hkept.buffered.disjoint, fun value hrunning hio hvalue => ?_⟩
  have hbookkeeping := hkept.running hrunning
  rcases scanBoundary_cases hbookkeeping.sound (hbookkeeping.idle hio) hvalue with
    ⟨error, hne, herror⟩ | ⟨result, written, rest, hok, -, hscan⟩
  · rw [herror]
    exact ⟨fun heq => hne (Outcome.err.inj heq), nofun⟩
  · rw [hok]
    refine ⟨nofun, fun contiguousOffset highest heq => ?_⟩
    obtain rfl := Outcome.ok.inj heq
    exact hscan.staged

end Runs

def Sha256.digest (bytes : List UInt8) : FixedBytes 32 :=
  FixedBytes.replicate 32 (bytes.foldl (· + ·) 1)

/-- A recording of six bytes, in packets of at most three. -/
def sampleConfig : EncryptedUploadV2ReceiverConfig where
  transportSessionId := 7
  expectedCiphertextLength := 6
  expectedCiphertextSha256 := Sha256.digest [1, 2, 3, 4, 5, 6]
  maximumDataPayloadBytes := 3
  maximumWindowPackets := 4
  maximumMissingSequences := 4
  checkpoint := .initial Sha256.digest
  markersRequired := false

def sampleData (sequence : UInt32) (offset : UInt64) (data : List UInt8) : Call :=
  .receive (frame (.data { messageType := 0x41, flags := 0, transportSessionId := 7 } sequence offset
    data))

def sampleWindow : WindowEndV2 where
  common := { messageType := 0x42, flags := 0, transportSessionId := 7 }
  windowIndex := 0
  firstSequence := 1
  lastSequence := 2
  nextCiphertextOffset := 6
  prefixSha256 := Sha256.digest [1, 2, 3, 4, 5, 6]
  checkpointRevision := 1

/-- The first packet is lost and sent again after the repair ACK. -/
def sampleCalls : List Call :=
  [.start, .apply (.sinkProof 1 0 (Sha256.digest [])), sampleData 2 3 [4, 5, 6],
    .receive (frame (.windowEnd sampleWindow)), .apply (.sinkProof 2 0 (Sha256.digest [])),
    sampleData 1 0 [1, 2, 3], .receive (frame (.windowEnd sampleWindow))]

/-- The state after `sampleCalls`: the window is being appended. -/
theorem assertions_hold_sample :
    let s := (Machine.exec (call Sha256.digest) [] (fresh sampleConfig) sampleCalls).2
    s.bufferedBytes = 166 ∧ s.io = some { requestId := 3, purpose := .windowAppend 6 } ∧
      s.bufferedBytes ≤ 1024 * 1024 ∧ ∀ input, (call Sha256.digest s input).2 ≠ .panicked := by
  have hrun : Calls Sha256.digest (fresh sampleConfig) _ _ :=
    .exec (Machine.allowed_true _ (fresh sampleConfig) sampleCalls)
  have hnew : new Sha256.digest sampleConfig = .ok (fresh sampleConfig) := rfl
  have h := assertions_hold Sha256.digest sampleConfig (fresh sampleConfig) _ _ hnew hrun
  exact ⟨by decide +kernel, by decide +kernel, h.2.2.1, h.1⟩

end BotaSdk.EncryptedUploadV2Receiver
