import BotaSdk.Bridge.ByoBleReplies

/-!
# A BYO call returns the device's response

Whatever the schedule, the writes of a call are the frames of the positions it has been at, the
device holds what the acknowledgements say, and what the host has of the response is its beginning.
-/

namespace BotaSdk

namespace ByoBleLink

open Protocol ByoBle

def Host.position : Host → Option Position
  | .exchanging position _ _ => some position
  | _ => none

section Positions

variable (call : Call) (device : Device)

/-- The positions a call can stand at. -/
def Stands : Position → Prop
  | .sending offset => call.Within (.sending offset)
  | .pulling output total =>
    total = device.response.length ∧ output <+: device.response ∧ output.length < total ∧
      device.opening ≤ output.length

/-- `Past p q`: a call at `q` has left `p` behind. -/
def Past : Position → Position → Prop
  | .sending offset, .sending offset' => offset < offset' ∧ call.stop offset ≤ offset'
  | .sending _, .pulling _ _ => True
  | .pulling output _, .pulling output' _ => output.length < output'.length
  | .pulling _ _, .sending _ => False

/-- What the device is sure to have of the document when a call stands at a position. -/
def low : Position → Nat
  | .sending offset => offset
  | .pulling _ _ => call.document.length

/-- What it has once the chunk in flight has arrived. -/
def high : Position → Nat
  | .sending offset => call.stop offset
  | .pulling _ _ => call.document.length

end Positions

variable {call : Call} {device : Device} {position p q : Position} {link : Link}

theorem Stands.within (h : Stands call device position) : call.Within position := by
  cases position with
  | sending offset => exact h
  | pulling output total =>
    have hlt : output.length < total := h.2.2.1
    have hle := device.response_le
    show output.length ≤ _
    rw [h.1] at hlt
    omega

/-- The frame of a position tells the position. -/
theorem ask_injective (h : call.Bounded) (hp : Stands call device p) (hq : Stands call device q)
    (heq : (call.ask p).frame.bytes = (call.ask q).frame.bytes) : p = q := by
  have hframe : (call.ask p).frame = (call.ask q).frame := by
    have hdecode := decodeByoBle_eq_ok.mpr ⟨Call.valid_ask h hp.within, rfl⟩
    have hdecode' := decodeByoBle_eq_ok.mpr ⟨Call.valid_ask h hq.within, rfl⟩
    rw [heq, hdecode'] at hdecode
    exact (Except.ok.inj hdecode).symm
  -- its kind tells the loop, and its offset the place in it
  have htells := Call.tells_ask h hp.within
  have htells' := Call.tells_ask h hq.within
  rw [← hframe] at htells'
  cases p with
  | sending offset =>
    obtain ⟨hkind, hoffset, -⟩ := htells.sends offset rfl
    cases q with
    | sending offset' =>
      obtain ⟨-, hoffset', -⟩ := htells'.sends offset' rfl
      rw [← hoffset, ← hoffset']
    | pulling output total =>
      rw [(htells'.pulls output total rfl).1] at hkind
      cases hkind
  | pulling output total =>
    obtain ⟨hkind, hoffset, -⟩ := htells.pulls output total rfl
    cases q with
    | sending offset' =>
      rw [(htells'.sends offset' rfl).1] at hkind
      cases hkind
    | pulling output' total' =>
      obtain ⟨-, hoffset', -⟩ := htells'.pulls output' total' rfl
      have hlength : output.length = output'.length := by omega
      obtain ⟨rfl, hprefix, -⟩ := hp
      obtain ⟨rfl, hprefix', -⟩ := hq
      -- both outputs begin the response
      rw [List.prefix_iff_eq_take.mp hprefix, List.prefix_iff_eq_take.mp hprefix', hlength]

/-! ## What the host makes of one answer -/

/-- Where the awaited answer brings the host. -/
def advance (call : Call) (device : Device) : Position → Host × List (List UInt8)
  | .sending offset =>
    if call.stop offset < call.document.length then call.enter (.sending (call.stop offset))
    else call.pull (device.response.take device.opening) device.response.length
  | .pulling output _ =>
    call.pull
      (output ++ (device.response.drop output.length).take (device.fragment output.length))
      device.response.length

theorem plan_stop (h : call.Bounded) (offset : Nat) :
    (call.plan (.sending offset)).stop = call.stop offset :=
  Call.stop_sending h offset

theorem expectedOffset_sending (h : call.Bounded) (offset : Nat) :
    (call.plan (.sending offset)).expectedOffset =
      if call.stop offset = call.document.length then 0 else call.stop offset := by
  unfold Call.plan
  rw [Call.stop_sending h]
  simp [Call.ask]

theorem expectedOffset_pulling (call : Call) (output : List UInt8) (total : Nat) :
    (call.plan (.pulling output total)).expectedOffset = output.length := by
  simp [Call.plan, Call.ask, Ask.stop]

theorem expectedOffset_lt (h : call.Bounded) (hp : Stands call device position) :
    (call.plan position).expectedOffset < 2 ^ 32 := by
  have hlength := h.document
  have hresponse := device.response_le
  simp only [BYO_BLE_DOCUMENT_MAX_BYTES] at *
  cases position with
  | sending offset =>
    have hstop := Call.stop_le call offset
    rw [expectedOffset_sending h]
    split_ifs <;> omega
  | pulling output total =>
    have hlt : output.length < total := hp.2.2.1
    rw [hp.1] at hlt
    rw [expectedOffset_pulling]
    omega

theorem enter_eq (h : call.Bounded) (hp : Stands call device position) :
    call.enter position =
      (.exchanging position (call.plan position) (.writing 0), [(call.plan position).bytes]) := by
  rw [Call.enter, Call.planBle_ask h hp.within]

/-- The awaited answer is taken for what it is. -/
theorem accept_awaited (h : call.Bounded) (hq : Stands call device q) (attempt skipped : Nat) :
    call.accept q (call.plan q) attempt skipped (device.reply (call.ask q).frame).bytes =
      advance call device q := by
  have htells := Call.tells_ask h hq.within
  have hvalid := Call.valid_ask h hq.within
  have hexpected := expectedOffset_lt h hq
  cases q with
  | sending offset =>
    have hstop := plan_stop h offset
    have hoffset := expectedOffset_sending h offset
    by_cases hmore : call.stop offset < call.document.length
    · obtain ⟨howns, hstatus, hhere, htotal, hpayload⟩ := reply_chunk device h hq htells
        hvalid hmore
      rw [if_neg hmore.ne] at hoffset
      have haccept := acceptBle_acknowledgement (call.plan (.sending offset)) offset
        h howns hexpected (by rwa [hstop]) hstatus (by rw [hhere, hoffset])
        htotal hpayload
      simp only [Call.accept, haccept, Call.proceed, advance, hstop, if_pos hmore]
    · have hlast : call.stop offset = call.document.length :=
        le_antisymm (Call.stop_le call offset) (not_lt.mp hmore)
      obtain ⟨howns, hstatus, hhere, htotal, hpayload⟩ := reply_last device hq htells
        hvalid hlast
      rw [if_pos hlast] at hoffset
      have haccept := acceptBle_response (call.plan (.sending offset))
        (.sending offset) h howns hexpected
        (decide_eq_false (by rwa [hstop])) hstatus (by rw [hhere, hoffset]) (by rintro _ ⟨⟩)
        (fun hn => absurd hoffset hn)
      simp only [Call.accept, haccept, Call.proceed, advance, hstop, if_neg hmore, hpayload, htotal]
  | pulling output total =>
    have hlt : output.length < total := hq.2.2.1
    obtain ⟨howns, hstatus, hhere, htotal, hpayload⟩ := reply_pull device htells hvalid
      hq.2.1.length_le
    have hoffset := expectedOffset_pulling call output total
    have hsome : (device.reply (call.ask (.pulling output total)).frame).payload ≠ [] := by
      have hpos := device.fragment_pos output.length
      rw [hq.1] at hlt
      rw [hpayload, ← List.length_pos_iff, List.length_take, List.length_drop]
      omega
    have haccept := acceptBle_response (call.plan (.pulling output total))
      (.pulling output total) h howns hexpected rfl hstatus (by rw [hhere, hoffset])
      (fun _ hn => by rw [htotal, ← hq.1]; exact (Option.some.inj hn).symm) (fun _ => hsome)
    simp only [Call.accept, haccept, Call.proceed, advance, hpayload]
    rw [hq.1]

/-- An answer to a write that was left behind keeps the host where it stands. -/
theorem accept_left_behind (h : call.Bounded) (hp : Stands call device p)
    (hq : Stands call device q) (hpast : Past call p q) {attempt skipped : Nat}
    (hpatient : skipped + 1 < (call.plan q).maximumSkippedFrames)
    (hinOrder : ∀ output total, q = .pulling output total →
      ¬((device.reply (call.ask p).frame).status = 1 ∧
        (device.reply (call.ask p).frame).offset.toNat = output.length)) :
    ∃ phase, ∃ writes ⊆ [(call.plan q).bytes],
      call.accept q (call.plan q) attempt skipped (device.reply (call.ask p).frame).bytes =
        (.exchanging q (call.plan q) phase, writes) := by
  have htells := Call.tells_ask h hp.within
  have hvalid := Call.valid_ask h hp.within
  have hexpected := expectedOffset_lt h hq
  have skip : call.Owns (device.reply (call.ask p).frame) →
      (device.reply (call.ask p).frame).status < 2 →
      (device.reply (call.ask p).frame).offset.toNat ≠ (call.plan q).expectedOffset →
      ∃ phase, ∃ writes ⊆ [(call.plan q).bytes],
        call.accept q (call.plan q) attempt skipped (device.reply (call.ask p).frame).bytes =
          (.exchanging q (call.plan q) phase, writes) := by
    intro howns hstatus helse
    refine ⟨.reading attempt (skipped + 1), [], List.nil_subset _, ?_⟩
    have haccept := @acceptBle_elsewhere call _ (call.plan q) q h howns hexpected hstatus helse
    simp only [Call.accept, haccept, if_pos hpatient]
  cases p with
  | sending offset =>
    by_cases hmore : call.stop offset < call.document.length
    · obtain ⟨howns, hstatus, hhere, -, -⟩ := reply_chunk device h hp htells hvalid hmore
      refine skip howns (by rw [hstatus]; decide) ?_
      rw [hhere]
      cases q with
      | sending offset' =>
        -- the acknowledgement is of a chunk that ends where the one in flight starts, or before
        have hle : call.stop offset ≤ offset' := hpast.2
        have hoffset : offset < call.document.length := by
          rcases hp with hlt | ⟨-, hempty⟩
          · exact hlt
          · rw [hempty] at hmore
            exact absurd hmore (Nat.not_lt_zero _)
        have hpos := Call.lt_stop h hoffset
        rw [expectedOffset_sending h]
        split_ifs with hlast
        · omega
        · have hnext : offset' < call.stop offset' := by
            rcases hq with hlt | ⟨hzero, -⟩
            · exact Call.lt_stop h hlt
            · omega
          omega
      | pulling output total =>
        intro hsame
        rw [expectedOffset_pulling] at hsame
        exact hinOrder output total rfl ⟨hstatus, by rw [hhere, hsame]⟩
    · have hlast : call.stop offset = call.document.length :=
        le_antisymm (Call.stop_le call offset) (not_lt.mp hmore)
      obtain ⟨howns, hstatus, hhere, htotal, hpayload⟩ := reply_last device hp htells
        hvalid hlast
      cases q with
      | sending offset' =>
        -- nothing is sent behind the last chunk
        have hbehind : offset < offset' ∧ call.stop offset ≤ offset' := hpast
        have hle := Call.within_le hq
        have hin := Call.within_le hp
        rcases hq with hlt | ⟨hzero, -⟩ <;> omega
      | pulling output total =>
        obtain ⟨rfl, -, hlt, hopening⟩ := id hq
        by_cases hnone : output = []
        · -- the frame that opened the response is empty, and pulling starts again at its start
          subst hnone
          have hempty : (device.reply (call.ask (.sending offset)).frame).payload = [] := by
            rw [hpayload, Nat.le_zero.mp hopening, List.take_zero]
          have haccept := acceptBle_response (call.plan (.pulling [] device.response.length))
            (.pulling [] device.response.length) h howns hexpected rfl hstatus
            (by rw [hhere, expectedOffset_pulling]; rfl)
            (fun _ hn => by rw [htotal]; exact (Option.some.inj hn).symm)
            (fun hn => absurd (expectedOffset_pulling _ _ _) hn)
          refine ⟨.writing 0, [(call.plan (.pulling [] device.response.length)).bytes],
            List.Subset.refl _, ?_⟩
          simp only [Call.accept, haccept, Call.proceed, hempty, List.append_nil]
          rw [Call.pull, if_pos hlt, enter_eq h hq]
        · refine skip howns (by rw [hstatus]; decide) ?_
          rw [hhere, expectedOffset_pulling]
          exact fun hn => hnone (List.length_eq_zero_iff.mp hn.symm)
  | pulling output total =>
    cases q with
    | sending offset' => exact hpast.elim
    | pulling output' total' =>
      have hlt : output.length < output'.length := hpast
      obtain ⟨howns, hstatus, hhere, -, -⟩ := reply_pull device htells hvalid
        hp.2.1.length_le
      refine skip howns (by rw [hstatus]; decide) ?_
      rw [hhere, expectedOffset_pulling]
      exact hlt.ne

/-! ## What the device has of the document -/

/-- One more copy adds its chunk where the document ended, and nothing elsewhere. -/
theorem keep_ask (h : call.Bounded) (hp : Stands call device p) {document : List UInt8}
    (hdocument : document <+: call.document) :
    Device.keep document (call.ask p).frame.bytes <+: call.document ∧
      (Device.keep document (call.ask p).frame.bytes).length =
        if p = .sending document.length then call.stop document.length else document.length := by
  have hdecode := decodeByoBle_eq_ok.mpr ⟨Call.valid_ask h hp.within, rfl⟩
  have htells := Call.tells_ask h hp.within
  unfold Device.keep
  rw [hdecode]
  cases p with
  | sending offset =>
    obtain ⟨hkind, hoffset, -, hpayload⟩ := htells.sends offset rfl
    by_cases hhere : offset = document.length
    · subst hhere
      rw [if_pos rfl]
      simp only [hkind, hoffset, hpayload, and_self, if_true]
      have htake : document = call.document.take document.length :=
        List.prefix_iff_eq_take.mp hdocument
      have hnext := Call.take_append_piece (le_stop hp)
      rw [← htake] at hnext
      rw [hnext]
      exact ⟨List.take_prefix _ _, List.length_take_of_le (Call.stop_le call _)⟩
    · rw [if_neg (fun hn => hhere (Position.sending.inj hn))]
      simp only [hoffset, hhere, and_false, if_false]
      exact ⟨hdocument, trivial⟩
  | pulling output total =>
    simp only [(htells.pulls output total rfl).1, reduceCtorEq, false_and, if_false]
    exact ⟨hdocument, trivial⟩

/-! ## The invariant of a call -/

/-- The host stands at a position of the call that is not behind `p`. -/
def Reached (call : Call) (p : Position) : Host → Prop
  | .exchanging q _ _ => p = q ∨ Past call p q
  | .returned _ => True
  | .failed _ => False

/-- The host at a position of the call, or at its end. -/
def Placed (call : Call) (device : Device) (link : Link) : Host → Prop
  | .exchanging q plan _ => plan = call.plan q ∧ Stands call device q ∧
    plan.bytes ∈ link.writes ∧ ((Device.received link.arrived).length = low call q ∨
      (Device.received link.arrived).length = high call q)
  | .returned output => output = device.response ∧
    (Device.received link.arrived).length = call.document.length
  | .failed _ => False

/-- A notification of the call: a late reply to an earlier request, or the answer to a copy of a
write. -/
def Sent (call : Call) (device : Device) (link : Link) (raw : List UInt8) : Prop :=
  call.Late raw ∨ ∃ p, Stands call device p ∧ (call.ask p).frame.bytes ∈ link.arrived ∧
    raw = (device.reply (call.ask p).frame).bytes

structure Sound (call : Call) (device : Device) (link : Link) : Prop where
  writes : ∀ raw ∈ link.writes, ∃ p, Stands call device p ∧ raw = (call.ask p).frame.bytes ∧
    Reached call p link.host
  arrived : ∀ raw ∈ link.arrived, raw ∈ link.writes
  /-- The device has every chunk that reached it. -/
  covers : ∀ offset, Stands call device (.sending offset) →
    (call.ask (.sending offset)).frame.bytes ∈ link.arrived →
      call.stop offset ≤ (Device.received link.arrived).length
  document : Device.received link.arrived <+: call.document
  unread : ∀ raw ∈ link.inbox.queue, Sent call device link raw
  healthy : link.inbox.failed = none
  host : Placed call device link link.host

/-- The exchange of a position, and nothing more than its own write. -/
theorem Sound.stay (hs : Sound call device link) {plan : Plan} {phase : Phase}
    (hhost : link.host = .exchanging q plan phase) (phase' : Phase)
    {writes : List (List UInt8)} (hwrites : writes ⊆ [plan.bytes]) :
    Sound call device (link.goto (.exchanging q plan phase', writes)) := by
  have hplaced := hs.host
  rw [hhost] at hplaced
  obtain ⟨hplan, hq, hin, hreceived⟩ := hplaced
  refine ⟨fun raw hraw => ?_, fun raw hraw => List.mem_append_left _ (hs.arrived raw hraw),
    hs.covers, hs.document, hs.unread, hs.healthy, hplan, hq, List.mem_append_left _ hin,
    hreceived⟩
  have hold : raw ∈ link.writes := by
    rcases List.mem_append.mp hraw with hold | hnew
    · exact hold
    · rw [List.mem_singleton.mp (hwrites hnew)]
      exact hin
  obtain ⟨p, hp, hbytes, hreached⟩ := hs.writes raw hold
  rw [hhost] at hreached
  exact ⟨p, hp, hbytes, hreached⟩

/-- A notification waits in the inbox. -/
theorem Sound.push (hs : Sound call device link) {raw : List UInt8}
    (hsent : Sent call device link raw) (hroom : link.inbox.queue.length < Inbox.room) :
    Sound call device { link with inbox := link.inbox.push raw } := by
  have hpush : link.inbox.push raw =
      { link.inbox with queue := link.inbox.queue ++ [raw] } := if_pos hroom
  rw [hpush]
  refine ⟨hs.writes, hs.arrived, hs.covers, hs.document, fun raw' hraw' => ?_, hs.healthy, hs.host⟩
  rcases List.mem_append.mp hraw' with hold | hnew
  · exact hs.unread raw' hold
  · rw [List.mem_singleton.mp hnew]
    exact hsent

/-- The oldest notification leaves the inbox. -/
theorem Sound.pop (hs : Sound call device link) {raw : List UInt8} {queue : List (List UInt8)}
    (hqueue : link.inbox.queue = raw :: queue) :
    Sound call device { link with inbox := { link.inbox with queue } } := by
  refine ⟨hs.writes, hs.arrived, hs.covers, hs.document, fun raw' hraw' => ?_, hs.healthy, hs.host⟩
  apply hs.unread raw'
  rw [hqueue]
  exact List.mem_cons_of_mem _ hraw'

theorem low_le (hq : Stands call device q) : low call q ≤ high call q := by
  cases q with
  | sending offset => exact le_stop hq
  | pulling output total => exact le_rfl

theorem Past.trans {r : Position} (hpq : p = q ∨ Past call p q) (hqr : Past call q r)
    (hq : Stands call device q) : Past call p r := by
  rcases hpq with rfl | hpq
  · exact hqr
  cases p <;> cases q <;> cases r <;> simp only [Past] at *
  · have := le_stop hq
    omega
  · omega

/-- The host has gone on to another position, whose frame it wrote. -/
theorem Sound.move (h : call.Bounded) (hs : Sound call device link) {plan : Plan} {phase : Phase}
    (hhost : link.host = .exchanging p plan phase) (hq : Stands call device q)
    (hpast : Past call p q) (hlow : (Device.received link.arrived).length = low call q) :
    Sound call device (link.goto (call.enter q)) := by
  have hplaced := hs.host
  rw [hhost] at hplaced
  rw [enter_eq h hq]
  refine ⟨fun raw hraw => ?_, fun raw hraw => List.mem_append_left _ (hs.arrived raw hraw),
    hs.covers, hs.document, hs.unread, hs.healthy, rfl, hq,
    List.mem_append_right _ (List.mem_singleton_self _), .inl hlow⟩
  rcases List.mem_append.mp hraw with hold | hnew
  · obtain ⟨p', hp', hbytes, hreached⟩ := hs.writes raw hold
    rw [hhost] at hreached
    exact ⟨p', hp', hbytes, .inr (Past.trans hreached hpast hplaced.2.1)⟩
  · exact ⟨q, hq, List.mem_singleton.mp hnew, .inl rfl⟩

/-- The loop over the response, from a beginning of it that is longer than the one before. -/
theorem Sound.pull (h : call.Bounded) (hs : Sound call device link) {plan : Plan} {phase : Phase}
    (hhost : link.host = .exchanging p plan phase) {output : List UInt8}
    (hstart : output <+: device.response)
    (hopening : output.length < device.response.length → device.opening ≤ output.length)
    (hpast : Past call p (.pulling output device.response.length))
    (hall : (Device.received link.arrived).length = call.document.length) :
    Sound call device (link.goto (call.pull output device.response.length)) := by
  unfold Call.pull
  split_ifs with hmore
  · exact hs.move h hhost ⟨rfl, hstart, hmore, hopening hmore⟩ hpast hall
  · have hwhole : output = device.response :=
      hstart.eq_of_length (le_antisymm hstart.length_le (not_lt.mp hmore))
    refine ⟨fun raw hraw => ?_, fun raw hraw => List.mem_append_left _ (hs.arrived raw hraw),
      hs.covers, hs.document, hs.unread, hs.healthy, hwhole, hall⟩
    rw [Link.goto, List.append_nil] at hraw
    obtain ⟨p', hp', hbytes, -⟩ := hs.writes raw hraw
    exact ⟨p', hp', hbytes, trivial⟩

theorem Sound.start (h : call.Bounded) {unread : List (List UInt8)}
    (hunread : ∀ raw ∈ unread, call.Late raw) : Sound call device (Link.start call unread) := by
  have hstands : Stands call device (.sending 0) := by
    rcases Nat.eq_zero_or_pos call.document.length with hzero | hpos
    · exact .inr ⟨rfl, List.length_eq_zero_iff.mp hzero⟩
    · exact .inl hpos
  rw [Link.start, Call.start, enter_eq h hstands]
  refine ⟨fun raw hraw => ⟨_, hstands, List.mem_singleton.mp hraw, .inl rfl⟩, nofun, nofun,
    List.nil_prefix, fun raw hraw => .inl (hunread raw hraw), rfl, rfl, hstands,
    List.mem_singleton_self _, .inl rfl⟩

/-- The device has a chunk that was written, or it is the one in flight. -/
theorem Sound.chunk_written (hs : Sound call device link) {offset : Nat}
    (hreached : Reached call (.sending offset) link.host) :
    (∃ plan phase, link.host = .exchanging (.sending offset) plan phase ∧
      (Device.received link.arrived).length = offset) ∨
    call.stop offset ≤ (Device.received link.arrived).length := by
  have hhost := hs.host
  cases hstate : link.host with
  | exchanging q plan phase =>
    rw [hstate] at hhost hreached
    obtain ⟨-, hq, -, hreceived⟩ := hhost
    have hlow := low_le hq
    rcases hreached with rfl | hpast
    · rcases hreceived with hlow' | hhigh
      · exact .inl ⟨plan, phase, rfl, hlow'⟩
      · exact .inr hhigh.ge
    · right
      cases q with
      | sending offset' =>
        have hbehind : offset < offset' ∧ call.stop offset ≤ offset' := hpast
        have : low call (.sending offset') = offset' := rfl
        omega
      | pulling output total =>
        have hall : (Device.received link.arrived).length = call.document.length := by
          rcases hreceived with hall | hall <;> exact hall
        rw [hall]
        exact Call.stop_le call offset
  | returned output =>
    rw [hstate] at hhost
    rw [hhost.2]
    exact .inr (Call.stop_le call offset)
  | failed failure =>
    rw [hstate] at hhost
    exact hhost.elim

/-- What another copy of a write changes: the chunk in flight may be there now. -/
theorem Sound.received_arrive (h : call.Bounded) (hs : Sound call device link)
    (hp : Stands call device p) (hreached : Reached call p link.host) :
    (∃ offset plan phase, p = .sending offset ∧
      link.host = .exchanging (.sending offset) plan phase ∧
      (Device.received link.arrived).length = offset ∧
      (Device.received (link.arrived ++ [(call.ask p).frame.bytes])).length = call.stop offset) ∨
    (Device.received (link.arrived ++ [(call.ask p).frame.bytes])).length =
      (Device.received link.arrived).length ∧
    ∀ offset, p = .sending offset → call.stop offset ≤ (Device.received link.arrived).length := by
  have hkeep := (keep_ask h hp hs.document).2
  have hreceived : Device.received (link.arrived ++ [(call.ask p).frame.bytes]) =
      Device.keep (Device.received link.arrived) (call.ask p).frame.bytes := by
    rw [Device.received, List.foldl_concat, Device.received]
  rw [hreceived, hkeep]
  cases p with
  | sending offset =>
    rcases hs.chunk_written hreached with ⟨plan, phase, hhost, hhere⟩ | hthere
    · left
      refine ⟨offset, plan, phase, rfl, hhost, hhere, ?_⟩
      rw [hhere, if_pos rfl]
    · right
      have hle := le_stop hp
      refine ⟨?_, fun offset' heq => (Position.sending.inj heq) ▸ hthere⟩
      split_ifs with hhere
      · -- a chunk of no bytes
        have hoffset := Position.sending.inj hhere
        rw [← hoffset] at hthere ⊢
        omega
      · rfl
  | pulling output total => exact .inr ⟨if_neg nofun, nofun⟩

/-- A copy of a write reaches the device. -/
theorem Sound.arrive (h : call.Bounded) (hs : Sound call device link) {raw : List UInt8}
    (hraw : raw ∈ link.writes) :
    Sound call device { link with arrived := link.arrived ++ [raw] } := by
  obtain ⟨p, hp, rfl, hreached⟩ := hs.writes raw hraw
  have hchange := hs.received_arrive h hp hreached
  have hgrows : (Device.received link.arrived).length ≤
      (Device.received (link.arrived ++ [(call.ask p).frame.bytes])).length := by
    rcases hchange with ⟨offset, -, -, rfl, -, hhere, hnow⟩ | ⟨hsame, -⟩
    · rw [hnow, hhere]
      exact le_stop hp
    · exact hsame.ge
  have hhost := hs.host
  refine ⟨hs.writes, fun raw' hraw' => ?_, fun offset hoffset harrived => ?_, ?_,
    fun raw' hraw' => ?_, hs.healthy, ?_⟩
  · rcases List.mem_append.mp hraw' with hold | hnew
    · exact hs.arrived raw' hold
    · rwa [List.mem_singleton.mp hnew]
  · rcases List.mem_append.mp harrived with hold | hnew
    · exact (hs.covers offset hoffset hold).trans hgrows
    · -- a chunk that was not there before is the one of this write
      have hsame : .sending offset = p := ask_injective h hoffset hp (List.mem_singleton.mp hnew)
      rcases hchange with ⟨offset', -, -, rfl, -, -, hnow⟩ | ⟨-, hthere⟩
      · rw [hnow, Position.sending.inj hsame]
      · exact (hthere offset hsame.symm).trans hgrows
  · show Device.received (link.arrived ++ [(call.ask p).frame.bytes]) <+: call.document
    rw [Device.received, List.foldl_concat]
    exact (keep_ask h hp hs.document).1
  · rcases hs.unread raw' hraw' with hlate | ⟨p', hp', hthere, hbytes⟩
    · exact .inl hlate
    · exact .inr ⟨p', hp', List.mem_append_left _ hthere, hbytes⟩
  · show Placed call device _ link.host
    rcases hchange with ⟨offset, plan, phase, rfl, hstate, -, hnow⟩ | ⟨hsame, -⟩
    · rw [hstate] at hhost ⊢
      exact ⟨hhost.1, hhost.2.1, hhost.2.2.1, .inr hnow⟩
    · cases hstate : link.host with
      | exchanging q plan phase =>
        rw [hstate] at hhost
        obtain ⟨hplan, hq, hin, hreceived⟩ := hhost
        exact ⟨hplan, hq, hin, by rwa [← hsame] at hreceived⟩
      | returned output =>
        rw [hstate] at hhost
        exact ⟨hhost.1, hsame.trans hhost.2⟩
      | failed failure =>
        rw [hstate] at hhost
        exact hhost

/-- The awaited answer arrived. -/
theorem Sound.advance (h : call.Bounded) (hs : Sound call device link) {plan : Plan} {phase : Phase}
    (hhost : link.host = .exchanging q plan phase)
    (harrived : (call.ask q).frame.bytes ∈ link.arrived) :
    Sound call device (link.goto (advance call device q)) := by
  have hplaced := hs.host
  rw [hhost] at hplaced
  obtain ⟨hplan, hq, -, hreceived⟩ := hplaced
  cases q with
  | sending offset =>
    have hcovers := hs.covers offset hq harrived
    -- what is answered has arrived, so the device has the chunk and no more
    have hhere : (Device.received link.arrived).length = call.stop offset := by
      have hle : offset ≤ call.stop offset := le_stop hq
      rcases hreceived with hlow | hhigh
      · have : low call (.sending offset) = offset := rfl
        omega
      · exact hhigh
    simp only [ByoBleLink.advance]
    split_ifs with hmore
    · have hlt : offset < call.stop offset := by
        rcases hq with hlt | ⟨-, hempty⟩
        · exact Call.lt_stop h hlt
        · rw [hempty] at hmore
          exact absurd hmore (Nat.not_lt_zero _)
      exact hs.move h hhost (.inl hmore) ⟨hlt, le_rfl⟩ hhere
    · refine hs.pull h hhost (List.take_prefix _ _) (fun hlt => ?_) trivial
        (hhere.trans (le_antisymm (Call.stop_le call offset) (not_lt.mp hmore)))
      rw [List.length_take] at hlt ⊢
      omega
  | pulling output total =>
    obtain ⟨htotal, hstart, hlt, hopening⟩ := id hq
    have hpos := device.fragment_pos output.length
    have hlonger : output.length < (output ++ (device.response.drop output.length).take
        (device.fragment output.length)).length := by
      rw [List.length_append, List.length_take, List.length_drop]
      omega
    have hnext : output ++ (device.response.drop output.length).take
        (device.fragment output.length) <+: device.response := by
      have hsplit : output ++ device.response.drop output.length = device.response :=
        List.prefix_iff_eq_append.mp hstart
      conv_rhs => rw [← hsplit]
      exact List.prefix_append_right_inj _ |>.mpr (List.take_prefix _ _)
    refine hs.pull h hhost hnext (fun _ => hopening.trans hlonger.le) hlonger ?_
    rcases hreceived with hall | hall <;> exact hall

/-! ## What is left of a call -/

section Left

variable (call : Call) (device : Device)

/-- The bytes that are still to go over the link from a position, and the turn of the call. -/
def leftAt : Position → Nat
  | .sending offset => call.document.length - offset + 1 + device.response.length
  | .pulling output _ => device.response.length - output.length

def left : Host → Nat
  | .exchanging position _ _ => leftAt call device position
  | _ => 0

end Left

theorem left_enter_le (call : Call) (device : Device) (p : Position) :
    left call device (call.enter p).1 ≤ leftAt call device p := by
  unfold Call.enter
  split
  · exact Nat.zero_le _
  · exact le_rfl

theorem left_pull_le (call : Call) (device : Device) (output : List UInt8) :
    left call device (call.pull output device.response.length).1 ≤
      device.response.length - output.length := by
  unfold Call.pull
  split_ifs
  · exact left_enter_le call device (.pulling output device.response.length)
  · exact Nat.zero_le _

/-- The awaited answer brings the call nearer to its end. -/
theorem left_advance_lt (h : call.Bounded) (hq : Stands call device q) :
    left call device (advance call device q).1 < leftAt call device q := by
  cases q with
  | sending offset =>
    have hin := Call.within_le hq
    simp only [advance]
    split_ifs with hmore
    · have hlt : offset < call.stop offset := by
        rcases hq with hlt | ⟨-, hempty⟩
        · exact Call.lt_stop h hlt
        · rw [hempty] at hmore
          exact absurd hmore (Nat.not_lt_zero _)
      have hle := left_enter_le call device (.sending (call.stop offset))
      simp only [leftAt] at *
      omega
    · have hle := left_pull_le call device
        (device.response.take device.opening)
      simp only [leftAt]
      omega
  | pulling output total =>
    have hlt : output.length < total := hq.2.2.1
    rw [hq.1] at hlt
    have hpos := device.fragment_pos output.length
    have hle := left_pull_le call device
      (output ++ (device.response.drop output.length).take (device.fragment output.length))
    rw [List.length_append, List.length_take, List.length_drop] at hle
    simp only [leftAt, advance]
    omega

/-! ## Every step of a schedule -/

/-- What a step of a schedule does: it keeps the call sound, a stale reply leaves the host where it
stands, nothing adds to what is left, and the awaited answer takes from it. -/
structure Moves (call : Call) (device : Device) (link : Link) (event : Event) (next : Link) :
    Prop where
  sound : Sound call device next
  stale : link.Stale device event → next.host.position = link.host.position
  left_le : left call device next.host ≤ left call device link.host
  left_lt : link.Awaited device event → left call device next.host < left call device link.host

/-! ### What the host reads -/

theorem owns_reply (h : call.Bounded) (hp : Stands call device p) :
    call.Owns (device.reply (call.ask p).frame) := by
  have htells := Call.tells_ask h hp.within
  have hvalid := Call.valid_ask h hp.within
  cases p with
  | sending offset =>
    rcases (Call.stop_le call offset).lt_or_eq with hmore | hlast
    · exact (reply_chunk device h hp htells hvalid hmore).1
    · exact (reply_last device hp htells hvalid hlast).1
  | pulling output total => exact (reply_pull device htells hvalid hp.2.1.length_le).1

theorem decode_reply (h : call.Bounded) (hp : Stands call device p) :
    decodeByoBle (device.reply (call.ask p).frame).bytes =
      .ok (device.reply (call.ask p).frame) :=
  decodeByoBle_eq_ok.mpr ⟨(owns_reply h hp).valid, rfl⟩

theorem answer_ask (device : Device) (h : call.Bounded) (hp : Stands call device p) :
    device.answer (call.ask p).frame.bytes = some (device.reply (call.ask p).frame).bytes := by
  have hdecode := decodeByoBle_eq_ok.mpr ⟨Call.valid_ask h hp.within, rfl⟩
  rw [Device.answer, hdecode]

/-- Pulls are answered with the status of a response. -/
theorem status_reply_pulling (h : call.Bounded) {output : List UInt8} {total : Nat}
    (hp : Stands call device (.pulling output total)) :
    (device.reply (call.ask (.pulling output total)).frame).status = 0 :=
  (reply_pull device (Call.tells_ask h hp.within) (Call.valid_ask h hp.within)
    hp.2.1.length_le).2.1

/-- The answer to a write that was left behind is not the one that is awaited. -/
theorem reply_ne (h : call.Bounded) (hp : Stands call device p) (hq : Stands call device q)
    (hpast : Past call p q) :
    (device.reply (call.ask p).frame).bytes ≠ (device.reply (call.ask q).frame).bytes := by
  intro hsame
  have hreply : device.reply (call.ask p).frame = device.reply (call.ask q).frame := by
    have hdecode : decodeByoBle (device.reply (call.ask p).frame).bytes = _ := decode_reply h hp
    rw [hsame, decode_reply h hq] at hdecode
    exact (Except.ok.inj hdecode).symm
  have hpatient : 0 + 1 < (call.plan q).maximumSkippedFrames :=
    show 0 + 1 < 8 from by decide
  have hinOrder : ∀ output total, q = .pulling output total →
      ¬((device.reply (call.ask p).frame).status = 1 ∧
        (device.reply (call.ask p).frame).offset.toNat = output.length) := by
    intro output total heq
    subst heq
    rw [hreply, status_reply_pulling h hq]
    exact fun hn => absurd hn.1 (by decide)
  -- the host would both stay where it is and advance
  obtain ⟨phase, writes, -, hstay⟩ := accept_left_behind h hp hq hpast hpatient hinOrder
  have hadvance := accept_awaited h hq 0 0
  rw [← hsame, hstay] at hadvance
  have hlt := left_advance_lt h hq
  rw [← hadvance] at hlt
  exact lt_irrefl _ hlt

/-- A frame that the host reads is the awaited answer, or it leaves the host where it stands. -/
theorem Sound.accept (h : call.Bounded) (hs : Sound call device link) {phase : Phase}
    (hhost : link.host = .exchanging q (call.plan q) phase) {raw : List UInt8}
    (hsent : Sent call device link raw) (attempt skipped : Nat)
    (hpatient : link.due device ≠ some raw → skipped + 1 < (call.plan q).maximumSkippedFrames)
    (hinOrder : ∀ output total frame, q = .pulling output total → decodeByoBle raw = .ok frame →
      ¬(frame.requestId.toNat = call.requestId ∧ frame.status = 1 ∧
        frame.offset.toNat = output.length)) :
    (link.due device = some raw ∧ (call.ask q).frame.bytes ∈ link.arrived ∧
      call.accept q (call.plan q) attempt skipped raw = ByoBleLink.advance call device q) ∨
    (link.due device ≠ some raw ∧ ∃ phase', ∃ writes ⊆ [(call.plan q).bytes],
      call.accept q (call.plan q) attempt skipped raw =
        (.exchanging q (call.plan q) phase', writes)) := by
  have hplaced := hs.host
  rw [hhost] at hplaced
  obtain ⟨-, hq, -⟩ := hplaced
  have hdue : link.due device = some (device.reply (call.ask q).frame).bytes := by
    rw [Link.due, hhost]
    exact answer_ask device h hq
  rcases hsent with hlate | ⟨p, hp, hthere, rfl⟩
  · -- a reply to an earlier request, which is not to this one
    simp only [Call.Late] at hlate
    cases hdecode : decodeByoBle raw with
    | ok frame =>
      rw [hdecode] at hlate
      have hother : link.due device ≠ some raw := by
        rw [hdue]
        intro hsame
        rw [← Option.some.inj hsame, decode_reply h hq] at hdecode
        have howns : call.Owns (device.reply (call.ask q).frame) := owns_reply h hq
        have hid := howns.requestId
        rw [Except.ok.inj hdecode] at hid
        exact absurd hid hlate.2.ne
      have haccept := acceptBle_earlier (call.plan q) q h hdecode hlate.1 hlate.2
        (expectedOffset_lt h hq)
      refine .inr ⟨hother, .reading attempt (skipped + 1), [], List.nil_subset _, ?_⟩
      simp only [Call.accept, haccept, if_pos (hpatient hother)]
    | error e =>
      rw [hdecode] at hlate
      exact hlate.elim
  · -- the answer to a write of this call: the one in flight, or one that was left behind
    obtain ⟨p', hp', hbytes, hreached⟩ := hs.writes _ (hs.arrived _ hthere)
    rw [← ask_injective h hp hp' hbytes, hhost] at hreached
    rcases hreached with rfl | hpast
    · exact .inl ⟨hdue, hthere, accept_awaited h hq attempt skipped⟩
    · have hother : link.due device ≠ some (device.reply (call.ask p).frame).bytes := by
        rw [hdue]
        exact fun hsame => reply_ne h hp hq hpast (Option.some.inj hsame).symm
      refine .inr ⟨hother, accept_left_behind h hp hq hpast (hpatient hother)
        fun output total heq hover => ?_⟩
      exact hinOrder output total _ heq (decode_reply h hp)
        ⟨(owns_reply h hp).requestId, hover.1, hover.2⟩

/-! ### The steps -/

theorem moves_refl (hs : Sound call device link) {event : Event}
    (htaken : link.taken device event = none) : Moves call device link event link :=
  ⟨hs, fun _ => rfl, le_rfl, fun hn => absurd htaken hn.1⟩

/-- A step that reads nothing and keeps the host at its position. -/
theorem moves_stay (hs : Sound call device link) {plan : Plan} {phase : Phase}
    (hhost : link.host = .exchanging q plan phase) {event : Event}
    (htaken : link.taken device event = none) (phase' : Phase) {writes : List (List UInt8)}
    (hwrites : writes ⊆ [plan.bytes]) :
    Moves call device link event (link.goto (.exchanging q plan phase', writes)) := by
  refine ⟨hs.stay hhost phase' hwrites, fun hn => absurd htaken hn.1, ?_,
    fun hn => absurd htaken hn.1⟩
  rw [hhost]
  exact le_rfl

/-- The host reads a frame, out of the inbox or as it is notified. -/
theorem moves_take (h : call.Bounded) (hs : Sound call device link) {inbox : Inbox}
    (hs' : Sound call device { link with inbox }) {plan : Plan} {phase : Phase}
    (hhost : link.host = .exchanging q plan phase) {attempt skipped : Nat}
    (hphase : phase = .reading attempt skipped ∨ phase = .waiting attempt skipped)
    {event : Event} {raw : List UInt8} (htaken : link.taken device event = some raw)
    (hsent : Sent call device link raw) (hd : link.Deliverable call device event) :
    Moves call device link event
      (Link.goto { link with inbox } (call.accept q plan attempt skipped raw)) := by
  obtain ⟨-, -, hpatient, hinOrder⟩ := hd
  have hplaced := hs.host
  rw [hhost] at hplaced
  obtain ⟨rfl, hq, -⟩ := hplaced
  have hsome : link.taken device event ≠ none := by
    rw [htaken]
    exact Option.some_ne_none raw
  have hcases := hs.accept h hhost hsent attempt skipped (fun hother => ?_)
    (fun output total frame heq hdecode => ?_)
  · rcases hcases with ⟨hdue, hthere, hnext⟩ | ⟨hother, phase', writes, hwrites, hnext⟩
    · -- the answer that is awaited brings the call nearer to its end
      have hlt := left_advance_lt h hq
      rw [hnext]
      refine ⟨hs'.advance h hhost hthere, fun hstale => ?_, ?_, fun _ => ?_⟩
      · exact absurd (htaken.trans hdue.symm) hstale.2
      · rw [hhost]
        exact hlt.le
      · rw [hhost]
        exact hlt
    · -- any other frame is skipped, or an empty opening that has the same pull written again
      rw [hnext]
      refine ⟨hs'.stay hhost phase' hwrites, fun _ => ?_, ?_, fun hawaited => ?_⟩
      · rw [hhost]
        rfl
      · rw [hhost]
        exact le_rfl
      · exact absurd (hawaited.2.symm.trans htaken) hother
  · -- a frame that is not awaited is stale, and the schedule has patience for it
    have hstale : link.Stale device event := ⟨hsome, fun heq => hother (heq.symm.trans htaken)⟩
    have hroom := hpatient hstale
    rcases hphase with rfl | rfl <;> simpa only [Link.Patient, hhost] using hroom
  · subst heq
    simpa only [Link.Overtaken, hhost, htaken, Option.map_some, hdecode] using hinOrder

/-- A notification finds the waiter, or waits in the inbox. -/
theorem moves_notify (h : call.Bounded) (hs : Sound call device link) {event : Event}
    {raw : List UInt8} (hsent : Sent call device link raw)
    (hd : link.Deliverable call device event)
    (htaken : link.host.Waits → link.taken device event = some raw)
    (hnone : ¬link.host.Waits → link.taken device event = none)
    (hroom : link.host.Waits ∨ link.inbox.queue.length < Inbox.room) :
    Moves call device link event (link.notify call raw).1 := by
  have hpush : ¬link.host.Waits →
      Moves call device link event { link with inbox := link.inbox.push raw } := by
    intro hbusy
    exact ⟨hs.push hsent (hroom.resolve_left hbusy), fun _ => rfl, le_rfl,
      fun hn => absurd (hnone hbusy) hn.1⟩
  unfold Link.notify
  -- only a registered waiter reads it at once
  cases hstate : link.host with
  | exchanging q plan phase =>
    rw [hstate] at htaken hpush
    cases phase with
    | waiting attempt skipped =>
      exact moves_take h hs hs hstate (.inr rfl) (htaken trivial) hsent hd
    | writing attempt => exact hpush id
    | reading attempt skipped => exact hpush id
  | returned output =>
    rw [hstate] at hpush
    exact hpush id
  | failed failure =>
    have hplaced := hs.host
    rw [hstate] at hplaced
    exact hplaced.elim

theorem answerTo_eq (device : Device) (h : call.Bounded) (hp : Stands call device p) {n : Nat}
    (hget : link.arrived[n]? = some (call.ask p).frame.bytes) :
    link.answerTo device n = some (device.reply (call.ask p).frame).bytes := by
  rw [Link.answerTo, hget]
  exact answer_ask device h hp

/-- What a notification brings the waiter, and leaves to the inbox otherwise. -/
theorem taken_answer (device : Device) (link : Link) (n : Nat) :
    link.taken device (.answer n) = if link.host.Waits then link.answerTo device n else none := by
  unfold Link.taken
  rcases link.host with ⟨_, _, _ | _ | _⟩ | _ | _ <;> rfl

theorem taken_earlier (device : Device) (link : Link) (raw : List UInt8) :
    link.taken device (.earlier raw) = if link.host.Waits then some raw else none := by
  unfold Link.taken
  rcases link.host with ⟨_, _, _ | _ | _⟩ | _ | _ <;> rfl

/-- Nothing is read as a copy arrives, a write completes or a read times out. -/
theorem taken_eq_none (device : Device) (link : Link) {event : Event}
    (hevent : event = .written ∨ event = .timeout ∨ ∃ n, event = .arrives n) :
    link.taken device event = none := by
  unfold Link.taken
  rcases hevent with rfl | rfl | ⟨n, rfl⟩ <;>
    rcases link.host with ⟨_, _, _ | _ | _⟩ | _ | _ <;> rfl

theorem taken_turn (device : Device) (hhealthy : link.inbox.failed = none) {plan : Plan}
    {attempt skipped : Nat} (hhost : link.host = .exchanging q plan (.reading attempt skipped)) :
    link.taken device .turn = link.inbox.queue.head? := by
  unfold Link.taken
  rw [hhost, hhealthy]
  rfl

theorem moves_answer (h : call.Bounded) (hs : Sound call device link) {n : Nat}
    (hd : link.Deliverable call device (.answer n)) :
    Moves call device link (.answer n) (link.step call device (.answer n)).1 := by
  have hn : n < link.arrived.length := hd.1
  have hget : link.arrived[n]? = some link.arrived[n] := List.getElem?_eq_getElem hn
  have hmem := List.getElem_mem hn
  obtain ⟨p, hp, hbytes, -⟩ := hs.writes _ (hs.arrived _ hmem)
  rw [hbytes] at hget hmem
  have hanswer := answerTo_eq device h hp hget
  have hstep : (link.step call device (.answer n)).1 =
      (link.notify call (device.reply (call.ask p).frame).bytes).1 := by
    rw [Link.step, hanswer]
  have htaken := taken_answer device link n
  rw [hstep]
  apply moves_notify h hs (.inr ⟨p, hp, hmem, rfl⟩) hd
  · intro hwaits
    rw [htaken, if_pos hwaits, hanswer]
  · intro hbusy
    rw [htaken, if_neg hbusy]
  · exact hd.2.1

theorem moves_earlier (h : call.Bounded) (hs : Sound call device link) {raw : List UInt8}
    (hd : link.Deliverable call device (.earlier raw)) :
    Moves call device link (.earlier raw) (link.step call device (.earlier raw)).1 := by
  have htaken := taken_earlier device link raw
  show Moves call device link _ (link.notify call raw).1
  apply moves_notify h hs (.inl hd.1) hd
  · intro hwaits
    rw [htaken, if_pos hwaits]
  · intro hbusy
    rw [htaken, if_neg hbusy]
  · exact hd.2.1

theorem moves_written (hs : Sound call device link) :
    Moves call device link .written (link.step call device .written).1 := by
  have htaken := taken_eq_none device link (.inl rfl)
  unfold Link.step
  cases hstate : link.host with
  | exchanging q plan phase =>
    cases phase with
    | writing attempt => exact moves_stay hs hstate htaken _ (List.nil_subset _)
    | reading attempt skipped => exact moves_refl hs htaken
    | waiting attempt skipped => exact moves_refl hs htaken
  | returned output => exact moves_refl hs htaken
  | failed failure => exact moves_refl hs htaken

/-- `next` with an empty inbox registers its waiter. -/
theorem read_nil (call : Call) (position : Position) (plan : Plan) (attempt skipped : Nat)
    (hhealthy : link.inbox.failed = none) (hqueue : link.inbox.queue = []) :
    link.read call position plan attempt skipped =
      (link.goto (.exchanging position plan (.waiting attempt skipped), []), []) := by
  unfold Link.read
  rw [hhealthy, hqueue]

/-- `next` takes the oldest notification. -/
theorem read_cons (call : Call) (position : Position) (plan : Plan) (attempt skipped : Nat)
    {raw : List UInt8} {queue : List (List UInt8)} (hhealthy : link.inbox.failed = none)
    (hqueue : link.inbox.queue = raw :: queue) :
    (link.read call position plan attempt skipped).1 =
      Link.goto { link with inbox := { link.inbox with queue } }
        (call.accept position plan attempt skipped raw) := by
  obtain ⟨host, ⟨unread, failed⟩, writes, arrived⟩ := link
  obtain rfl : failed = none := hhealthy
  obtain rfl : unread = raw :: queue := hqueue
  rfl

theorem moves_turn (h : call.Bounded) (hs : Sound call device link)
    (hd : link.Deliverable call device .turn) :
    Moves call device link .turn (link.step call device .turn).1 := by
  have hidle : (∀ q plan attempt skipped,
      link.host ≠ .exchanging q plan (.reading attempt skipped)) →
        link.taken device .turn = none := by
    intro hother
    unfold Link.taken
    rcases hstate : link.host with ⟨q, plan, _ | ⟨attempt, skipped⟩ | _⟩ | _ | _
    case exchanging.reading => exact absurd hstate (hother q plan attempt skipped)
    all_goals rfl
  unfold Link.step
  cases hstate : link.host with
  | exchanging q plan phase =>
    cases phase with
    | reading attempt skipped =>
      have hhead := taken_turn device hs.healthy hstate
      show Moves call device link _ (link.read call q plan attempt skipped).1
      cases hqueue : link.inbox.queue with
      | nil =>
        rw [hqueue] at hhead
        rw [read_nil call q plan attempt skipped hs.healthy hqueue]
        exact moves_stay hs hstate hhead _ (List.nil_subset _)
      | cons raw queue =>
        rw [hqueue] at hhead
        have hmem : raw ∈ link.inbox.queue := by
          rw [hqueue]
          exact List.mem_cons_self
        rw [read_cons call q plan attempt skipped hs.healthy hqueue]
        exact moves_take h hs (hs.pop hqueue) hstate (.inl rfl) hhead (hs.unread raw hmem) hd
    | writing attempt => exact moves_refl hs (hidle (by simp [hstate]))
    | waiting attempt skipped => exact moves_refl hs (hidle (by simp [hstate]))
  | returned output => exact moves_refl hs (hidle (by simp [hstate]))
  | failed failure => exact moves_refl hs (hidle (by simp [hstate]))

theorem moves_timeout (hs : Sound call device link)
    (hd : link.Deliverable call device .timeout) :
    Moves call device link .timeout (link.step call device .timeout).1 := by
  have htaken := taken_eq_none device link (.inr (.inl rfl))
  have hscheduled := hd.1
  unfold Link.step
  cases hstate : link.host with
  | exchanging q plan phase =>
    cases phase with
    | waiting attempt skipped =>
      simp only [Link.Scheduled, hstate] at hscheduled
      -- the last attempt does not time out, so the write is repeated
      simp only [expire, if_neg hscheduled.ne]
      exact moves_stay hs hstate htaken _ (List.Subset.refl _)
    | writing attempt => exact moves_refl hs htaken
    | reading attempt skipped => exact moves_refl hs htaken
  | returned output => exact moves_refl hs htaken
  | failed failure => exact moves_refl hs htaken

theorem moves_step (h : call.Bounded) (hs : Sound call device link) {event : Event}
    (hd : link.Deliverable call device event) :
    Moves call device link event (link.step call device event).1 := by
  cases event with
  | arrives n =>
    have hn : n < link.writes.length := hd.1
    have hget : link.writes[n]? = some link.writes[n] := List.getElem?_eq_getElem hn
    have hstep : (link.step call device (.arrives n)).1 =
        { link with arrived := link.arrived ++ [link.writes[n]] } := by
      rw [Link.step, hget]
    rw [hstep]
    exact ⟨hs.arrive h (List.getElem_mem hn), fun _ => rfl, le_rfl,
      fun hn => absurd (taken_eq_none device link (.inr (.inr ⟨n, rfl⟩))) hn.1⟩
  | answer n => exact moves_answer h hs hd
  | earlier raw => exact moves_earlier h hs hd
  | written => exact moves_written hs
  | turn => exact moves_turn h hs hd
  | timeout => exact moves_timeout hs hd

/-! ## Whole schedules -/

section Schedules

/-- A run of a call over a schedule, from what its predecessors left unread. -/
abbrev CallRun (call : Call) (device : Device) (unread : List (List UInt8)) :
    List (Machine.Entry Link Event (List (List UInt8))) → Link → Prop :=
  Machine.Run (Link.step call device) (fun _ link event => link.Deliverable call device event)
    (Link.start call unread)

variable {tr : List (Machine.Entry Link Event (List (List UInt8)))} {unread : List (List UInt8)}

theorem CallRun.sound (h : call.Bounded) (hunread : ∀ raw ∈ unread, call.Late raw)
    (hrun : CallRun call device unread tr link) : Sound call device link := by
  refine hrun.invariant (fun _ link => Sound call device link) (Sound.start h hunread) ?_
  exact fun _ _ _ _ hs hd => (moves_step h hs hd).sound

/-- How many awaited answers a schedule delivered. -/
def awaited (device : Device) (tr : List (Machine.Entry Link Event (List (List UInt8)))) : Nat :=
  tr.countP fun e => e.pre.Awaited device e.input

/-- Every awaited answer takes from what is left. -/
theorem CallRun.awaited_add_left_le (h : call.Bounded) (hunread : ∀ raw ∈ unread, call.Late raw)
    (hrun : CallRun call device unread tr link) :
    awaited device tr + left call device link.host ≤
      call.document.length + 1 + device.response.length := by
  -- the sum starts at the bytes to carry, and no step raises it
  refine hrun.invariant (fun tr link => awaited device tr + left call device link.host ≤
    call.document.length + 1 + device.response.length) ?_ fun tr link event hr hle hd => ?_
  · have hstart := left_enter_le call device (.sending 0)
    show 0 + left call device (call.enter (.sending 0)).1 ≤ _
    simp only [leftAt] at hstart
    omega
  · have hmoves := moves_step h (CallRun.sound h hunread hr) hd
    rw [awaited, List.countP_append, List.countP_singleton, ← awaited]
    by_cases hnext : link.Awaited device event
    · have hlt := hmoves.left_lt hnext
      rw [if_pos (decide_eq_true hnext)]
      omega
    · have hle' := hmoves.left_le
      rw [if_neg (by simpa using hnext)]
      omega

theorem Sound.left_pos (hs : Sound call device link) {plan : Plan} {phase : Phase}
    (hhost : link.host = .exchanging q plan phase) : 0 < left call device link.host := by
  have hplaced := hs.host
  rw [hhost] at hplaced ⊢
  cases q with
  | sending offset =>
    simp only [left, leftAt]
    omega
  | pulling output total =>
    obtain ⟨rfl, -, hlt, -⟩ := hplaced.2.1
    exact Nat.sub_pos_of_lt hlt

/-! ### The call can always return -/

/-- A step that reads nothing is free of the conditions on what is read. -/
theorem deliverable_of_taken_eq_none {event : Event} (hscheduled : link.Scheduled call event)
    (hroomy : link.Roomy event) (htaken : link.taken device event = none) :
    link.Deliverable call device event := by
  refine ⟨hscheduled, hroomy, fun hstale => absurd htaken hstale.1, fun hovertaken => ?_⟩
  unfold Link.Overtaken at hovertaken
  rw [htaken] at hovertaken
  rcases hstate : link.host with ⟨_ | _, _, _⟩ | _ | _ <;> rw [hstate] at hovertaken <;>
    exact hovertaken

/-- The answer to the awaited write may be read as soon as a copy of the write has arrived. -/
theorem deliverable_awaited (h : call.Bounded) {attempt skipped n : Nat}
    (hstate : link.host = .exchanging q (call.plan q) (.waiting attempt skipped))
    (hq : Stands call device q) (hthere : link.arrived[n]? = some (call.ask q).frame.bytes) :
    link.Deliverable call device (.answer n) ∧ link.Awaited device (.answer n) := by
  have hwaits : link.host.Waits := by
    rw [hstate]
    trivial
  have htaken : link.taken device (.answer n) =
      some (device.reply (call.ask q).frame).bytes := by
    rw [taken_answer, if_pos hwaits, answerTo_eq device h hq hthere]
  have hdue : link.due device = some (device.reply (call.ask q).frame).bytes := by
    rw [Link.due, hstate]
    exact answer_ask device h hq
  refine ⟨⟨(List.getElem?_eq_some_iff.mp hthere).1, .inl hwaits, fun hstale => ?_,
    fun hovertaken => ?_⟩, ?_, ?_⟩
  · exact absurd (htaken.trans hdue.symm) hstale.2
  · simp only [Link.Overtaken, hstate, htaken, Option.map_some, decode_reply h hq] at hovertaken
    cases q with
    | sending offset => exact hovertaken
    | pulling output total =>
      have hstatus := (status_reply_pulling h hq).symm.trans (And.left (And.right hovertaken))
      exact absurd hstatus (by decide)
  · rw [htaken]
    exact Option.some_ne_none _
  · exact htaken.trans hdue.symm

/-- Some schedule leads the call to its return. -/
def CanReturn (call : Call) (device : Device)
    (tr : List (Machine.Entry Link Event (List (List UInt8)))) (link : Link) : Prop :=
  ∃ events, Machine.Allowed (Link.step call device)
      (fun _ link event => link.Deliverable call device event) tr link events ∧
    (Machine.exec (Link.step call device) tr link events).2.host = .returned device.response

theorem CanReturn.step {event : Event} (hd : link.Deliverable call device event)
    (hnext : CanReturn call device (tr ++ [⟨link, event, (link.step call device event).2⟩])
      (link.step call device event).1) : CanReturn call device tr link := by
  obtain ⟨events, hallowed, hreturned⟩ := hnext
  exact ⟨event :: events, ⟨hd, hallowed⟩, hreturned⟩

/-- A waiter may be given its answer: the write arrives, and the answer is notified. -/
theorem CanReturn.waiting (h : call.Bounded) (hs : Sound call device link)
    (hempty : link.inbox.queue = []) {plan : Plan} {attempt skipped : Nat}
    (hstate : link.host = .exchanging q plan (.waiting attempt skipped))
    (ih : ∀ {next : Link} tr', Sound call device next → next.inbox.queue = [] →
      left call device next.host < left call device link.host → CanReturn call device tr' next)
    (tr : List (Machine.Entry Link Event (List (List UInt8)))) : CanReturn call device tr link := by
  have hplaced := hs.host
  rw [hstate] at hplaced
  obtain ⟨rfl, hq, hin, -⟩ := hplaced
  obtain ⟨i, hi, hget⟩ := List.getElem_of_mem hin
  have hget' : link.writes[i]? = some (call.ask q).frame.bytes := by
    rw [List.getElem?_eq_getElem hi, hget]
    rfl
  have harrives : link.Deliverable call device (.arrives i) :=
    deliverable_of_taken_eq_none (show link.Scheduled call (.arrives i) from hi) trivial
      (taken_eq_none device link (.inr (.inr ⟨i, rfl⟩)))
  have hs' := (moves_step h hs harrives).sound
  refine CanReturn.step harrives ?_
  have hnext : (link.step call device (.arrives i)).1 =
      { link with arrived := link.arrived ++ [(call.ask q).frame.bytes] } := by
    rw [Link.step, hget']
  rw [hnext] at hs' ⊢
  have hthere : (link.arrived ++ [(call.ask q).frame.bytes])[link.arrived.length]? =
      some (call.ask q).frame.bytes := List.getElem?_concat_length ..
  obtain ⟨hd, hawaited⟩ : _ ∧ Link.Awaited device
      { link with arrived := link.arrived ++ [(call.ask q).frame.bytes] }
      (.answer link.arrived.length) := deliverable_awaited h hstate hq hthere
  have hmoves := moves_step h hs' hd
  refine CanReturn.step hd (ih _ hmoves.sound ?_ (hmoves.left_lt hawaited))
  -- the waiter takes the answer, and the inbox stays as it is
  have hanswer : Link.answerTo device
      { link with arrived := link.arrived ++ [(call.ask q).frame.bytes] } link.arrived.length = _ :=
    answerTo_eq device h hq hthere
  rw [Link.step, hanswer]
  simp only [Link.notify, hstate]
  exact hempty

/-- Out of every state whose inbox is empty, the awaited write may be answered until the call
returns. -/
theorem Sound.can_return (h : call.Bounded) (hs : Sound call device link)
    (hempty : link.inbox.queue = [])
    (tr : List (Machine.Entry Link Event (List (List UInt8)))) : CanReturn call device tr link := by
  -- on what is left: every phase leads to a waiter, and its answer takes from it
  induction hleft : left call device link.host using Nat.strong_induction_on
    generalizing link tr with
  | h n ih =>
    have ih' : ∀ {next : Link} tr', Sound call device next → next.inbox.queue = [] →
        left call device next.host < n → CanReturn call device tr' next :=
      fun tr' hs hempty hlt => ih _ hlt hs hempty tr' rfl
    have hhost := hs.host
    -- a read with nothing to take registers its waiter
    have reading : ∀ {link : Link} {q plan attempt skipped}, Sound call device link →
        link.inbox.queue = [] → left call device link.host = n →
        link.host = .exchanging q plan (.reading attempt skipped) → ∀ tr,
          CanReturn call device tr link := by
      intro link q plan attempt skipped hs hempty hleft hstate tr
      have htaken : link.taken device .turn = none := by
        rw [taken_turn device hs.healthy hstate, hempty]
        rfl
      have hturn : link.Deliverable call device .turn :=
        deliverable_of_taken_eq_none (show link.Scheduled call .turn from trivial) trivial htaken
      have hmoves := (moves_step h hs hturn).sound
      refine CanReturn.step hturn ?_
      have hnext : (link.step call device .turn).1 =
          link.goto (.exchanging q plan (.waiting attempt skipped), []) := by
        rw [Link.step, hstate]
        show (link.read call q plan attempt skipped).1 = _
        rw [read_nil call q plan attempt skipped hs.healthy hempty]
      rw [hnext] at hmoves ⊢
      rw [hstate] at hleft
      refine CanReturn.waiting h hmoves hempty rfl (fun tr' hs hempty hlt => ?_) _
      exact ih' tr' hs hempty (hlt.trans_eq hleft)
    cases hstate : link.host with
    | exchanging q plan phase =>
      cases phase with
      | writing attempt =>
        have hwritten : link.Deliverable call device .written :=
          deliverable_of_taken_eq_none (show link.Scheduled call .written from trivial) trivial
            (taken_eq_none device link (.inl rfl))
        have hmoves := (moves_step h hs hwritten).sound
        refine CanReturn.step hwritten ?_
        have hnext : (link.step call device .written).1 =
            link.goto (.exchanging q plan (.reading attempt 0), []) := by
          rw [Link.step, hstate]
        rw [hnext] at hmoves ⊢
        rw [hstate] at hleft
        exact reading hmoves hempty hleft rfl _
      | reading attempt skipped => exact reading hs hempty hleft hstate tr
      | waiting attempt skipped =>
        exact CanReturn.waiting h hs hempty hstate
          (fun tr' hs hempty hlt => ih' tr' hs hempty (hlt.trans_eq hleft)) tr
    | returned output =>
      rw [hstate] at hhost
      exact ⟨[], trivial, by rw [Machine.exec, hstate, hhost.1]⟩
    | failed failure =>
      rw [hstate] at hhost
      exact hhost.elim

/-- The host returns exactly the device's response, and the device has received exactly the
document: in every schedule whose attempts are not all lost, whose notifications find a waiter or
room in the inbox, whose frames to skip are fewer than the host has patience for, and in which no
acknowledgement overtakes the response to name the offset that is being pulled.  The schedule need
only bring as many awaited answers as there are bytes to carry, and can bring them whenever the
inbox is empty.  A stale reply leaves the host where it stands.  The codec's two directions are
inverse to each other on what they accept. -/
theorem request_response (call : Call) (device : Device) (h : call.Bounded)
    {unread : List (List UInt8)} (hunread : ∀ raw ∈ unread, call.Late raw)
    {tr : List (Machine.Entry Link Event (List (List UInt8)))} {link : Link}
    (hrun : CallRun call device unread tr link) :
    (∀ failure, link.host ≠ .failed failure) ∧
    (∀ output, link.host = .returned output →
      output = device.response ∧ Device.received link.arrived = call.document) ∧
    Device.received link.arrived <+: call.document ∧
    (call.document.length + 1 + device.response.length ≤ awaited device tr →
      link.host = .returned device.response) ∧
    (link.inbox.queue = [] → CanReturn call device tr link) ∧
    (∀ e ∈ tr, e.pre.Stale device e.input →
      (e.pre.step call device e.input).1.host.position = e.pre.host.position) ∧
    (∀ frame maximum bytes, encodeByoBle frame maximum = .ok bytes →
      decodeByoBle bytes = .ok frame) ∧
    ∀ frame maximum bytes, decodeByoBle bytes = .ok frame → bytes.length ≤ maximum →
      encodeByoBle frame maximum = .ok bytes := by
  have hs := CallRun.sound h hunread hrun
  have hhost := hs.host
  refine ⟨fun failure hfailed => ?_, fun output hreturned => ?_, hs.document, fun hmany => ?_,
    fun hempty => hs.can_return h hempty tr, fun e he hstale => ?_, fun _ _ _ => decode_encode,
    fun _ _ _ => encode_decode⟩
  · rw [hfailed] at hhost
    exact hhost
  · rw [hreturned] at hhost
    exact ⟨hhost.1, hs.document.eq_of_length hhost.2⟩
  · have hle := CallRun.awaited_add_left_le h hunread hrun
    cases hstate : link.host with
    | exchanging q plan phase =>
      have hpos := hs.left_pos hstate
      omega
    | returned output =>
      rw [hstate] at hhost
      rw [hhost.1]
    | failed failure =>
      rw [hstate] at hhost
      exact hhost.elim
  · obtain ⟨before, after, -, hbefore, hd, -⟩ := hrun.mem he
    exact (moves_step h (CallRun.sound h hunread hbefore) hd).stale hstale

end Schedules

/-! ## Two calls in chunks of one byte -/

section Samples

def sampleCall : Call where
  operation := 4
  requestId := 7
  capacity := 13
  document := [1, 2]

def sampleDevice : Device where
  response := [5, 6]
  opening := 1
  fragment := fun _ => 1
  response_le := by decide
  opening_le := by decide
  fragment_le := fun _ => by decide
  fragment_pos := fun _ => Nat.one_pos

theorem sampleCall_bounded : sampleCall.Bounded :=
  ⟨by decide, by decide, by decide, by decide⟩

/-- A late response to request 6. -/
def lateReply : List UInt8 :=
  [0x71, 3, 4, 0, 6, 0, 0, 0, 0, 0, 0, 0]

/-- The state that a schedule of the call ends in. -/
def sampleEnd (unread : List (List UInt8)) (events : List Event) : Link :=
  (Machine.exec (Link.step sampleCall sampleDevice) [] (Link.start sampleCall unread) events).2

/-- The first chunk is answered twice while its write is pending, behind a late reply; the second is
written twice, and the answer to its second copy comes while its response is pulled. -/
def retransmitted : List Event :=
  [.arrives 0, .answer 0, .answer 0, .written, .turn, .turn,
    .written, .turn, .turn, .timeout, .arrives 1, .arrives 2, .answer 1, .earlier lateReply,
    .written, .turn, .written, .turn, .turn, .arrives 3, .answer 2, .turn, .answer 3]

theorem request_response_sample :
    (sampleEnd [lateReply] retransmitted).host = .returned [5, 6] ∧
    Device.received (sampleEnd [lateReply] retransmitted).arrived = [1, 2] := by
  have hunread : ∀ raw ∈ [lateReply], sampleCall.Late raw := by decide +kernel
  have hallowed : Machine.Allowed (Link.step sampleCall sampleDevice)
      (fun _ link event => link.Deliverable sampleCall sampleDevice event) []
      (Link.start sampleCall [lateReply]) retransmitted := by decide +kernel
  have hrun : CallRun sampleCall sampleDevice [lateReply] _ _ := Machine.Run.exec hallowed
  have hhost : (sampleEnd [lateReply] retransmitted).host = .returned [5, 6] := by decide +kernel
  have hspec := request_response sampleCall sampleDevice sampleCall_bounded hunread hrun
  exact ⟨hhost, (hspec.2.1 _ hhost).2⟩

/-- Eight late replies to request 6 use up the host's patience. -/
def crowded : List Event :=
  .written :: (List.replicate 8 [.turn, .earlier lateReply]).flatten

/-- The second answer to the first chunk is read while the byte at its offset is pulled. -/
def overtaken : List Event :=
  [.written, .turn, .timeout, .written, .turn, .arrives 0, .arrives 1, .answer 0,
    .written, .turn, .arrives 2, .answer 2, .written, .turn, .answer 1]

/-- Seven late replies and two answers to the first chunk come while its write is pending. -/
def overflowing : List Event :=
  .arrives 0 :: List.replicate 7 (.earlier lateReply) ++ [.answer 0, .answer 0, .written, .turn]

theorem request_response_counterexample :
    (Machine.Allowed (Link.step sampleCall sampleDevice)
        (fun _ link event => link.Scheduled sampleCall event ∧ link.Roomy event ∧
          ¬link.Overtaken sampleCall sampleDevice event) []
        (Link.start sampleCall []) crowded ∧
      (sampleEnd [] crowded).host = .failed (.code "invalid_document")) ∧
    (Machine.Allowed (Link.step sampleCall sampleDevice)
        (fun _ link event => link.Scheduled sampleCall event ∧ link.Roomy event ∧
          (link.Stale sampleDevice event → link.Patient)) []
        (Link.start sampleCall []) overtaken ∧
      (sampleEnd [] overtaken).host = .failed (.code "device_rejected")) ∧
    Machine.Allowed (Link.step sampleCall sampleDevice)
        (fun _ link event => link.Scheduled sampleCall event ∧
          (link.Stale sampleDevice event → link.Patient) ∧
          ¬link.Overtaken sampleCall sampleDevice event) []
        (Link.start sampleCall []) overflowing ∧
      (sampleEnd [] overflowing).host = .failed (.code "invalid_document") := by
  decide +kernel

end Samples

end ByoBleLink

end BotaSdk
