import BotaSdk.Bridge.ByoBleExchange

/-!
# What a reply is taken for

The plan of every exchange of a call within its bounds, the answer the device gives to it, and what
`acceptByoBleReply` makes of that answer.
-/

namespace BotaSdk

namespace ByoBleLink

open Protocol ByoBle Checked

/-- The bounds of a call. -/
structure Call.Bounded (call : Call) : Prop where
  operation : BYO_BLE_CAPABILITIES.toNat ≤ call.operation ∧
    call.operation ≤ BYO_BLE_LIVE_SUCCESSOR.toNat
  requestId : 0 < call.requestId ∧ call.requestId < 2 ^ 32
  capacity : BYO_BLE_HEADER_BYTES < call.capacity ∧ call.capacity < 2 ^ 32
  document : call.document.length ≤ BYO_BLE_DOCUMENT_MAX_BYTES

theorem number_eq {value : Nat} (h : value < 2 ^ 32) : number value = .ok value :=
  if_pos h

/-! ## Plans -/

namespace Call

variable {call : Call}

/-- The positions whose frame the codec has a place for. -/
def Within (call : Call) : Position → Prop
  | .sending offset => offset < call.document.length ∨ (offset = 0 ∧ call.document = [])
  | .pulling output _ => output.length ≤ BYO_BLE_DOCUMENT_MAX_BYTES

/-- How much of the document a write brings. -/
def chunk (call : Call) : Nat :=
  min call.capacity 512 - BYO_BLE_HEADER_BYTES

/-- Where a chunk ends. -/
def stop (call : Call) (offset : Nat) : Nat :=
  min call.document.length (offset + call.chunk)

def plan (call : Call) (position : Position) : Plan where
  bytes := (call.ask position).frame.bytes
  stop := (call.ask position).stop
  expectedOffset :=
    if ¬(call.ask position).pull ∧ (call.ask position).stop = (call.ask position).bytes.length then
      0
    else (call.ask position).stop

theorem chunk_pos (h : call.Bounded) : 0 < call.chunk := by
  have := h.capacity.1
  simp only [chunk, BYO_BLE_HEADER_BYTES] at *
  omega

theorem chunk_le (call : Call) : call.chunk + BYO_BLE_HEADER_BYTES ≤ BYO_BLE_FRAME_MAX_BYTES ∨
    call.chunk = 0 := by
  simp only [chunk, BYO_BLE_HEADER_BYTES, BYO_BLE_FRAME_MAX_BYTES]
  omega

theorem stop_sending (h : call.Bounded) (offset : Nat) :
    (call.ask (.sending offset)).stop = call.stop offset := by
  have := h.capacity.1
  simp only [Ask.stop, ask, Ask.room, stop, chunk, BYO_BLE_HEADER_BYTES, Bool.false_eq_true,
    if_false] at *
  omega

theorem stop_le (call : Call) (offset : Nat) : call.stop offset ≤ call.document.length :=
  Nat.min_le_left _ _

theorem lt_stop (h : call.Bounded) {offset : Nat} (hlt : offset < call.document.length) :
    offset < call.stop offset := by
  have := chunk_pos h
  unfold stop
  omega

/-- The bytes of a chunk. -/
def piece (call : Call) (offset : Nat) : List UInt8 :=
  (call.document.take (call.stop offset)).drop offset

theorem length_piece (call : Call) (offset : Nat) :
    (call.piece offset).length = call.stop offset - offset := by
  rw [piece, List.length_drop, List.length_take, Nat.min_eq_left (stop_le call offset)]

/-- The chunks before `offset` and the one that starts there. -/
theorem take_append_piece {offset : Nat} (h : offset ≤ call.stop offset) :
    call.document.take offset ++ call.piece offset = call.document.take (call.stop offset) := by
  have hsplit := List.take_append_drop offset (call.document.take (call.stop offset))
  rwa [List.take_take, Nat.min_eq_left h] at hsplit

theorem within_le {offset : Nat} (h : call.Within (.sending offset)) :
    offset ≤ call.document.length := by
  rcases h with h | ⟨h, -⟩
  · exact h.le
  · omega

/-- The fields of the frame of a position, as numbers. -/
structure Tells (call : Call) (frame : ByoBleFrame) (position : Position) : Prop where
  operation : frame.operation.toNat = call.operation
  requestId : frame.requestId.toNat = call.requestId
  status : frame.status = 0
  sends : ∀ offset, position = .sending offset → frame.kind = .request ∧
    frame.offset.toNat = offset ∧ frame.total.toNat = call.document.length ∧
    frame.payload = call.piece offset
  pulls : ∀ output total, position = .pulling output total → frame.kind = .pull ∧
    frame.offset.toNat = output.length ∧ frame.total = 0 ∧ frame.payload = []

theorem tells_ask (h : call.Bounded) {position : Position} (hw : call.Within position) :
    call.Tells (call.ask position).frame position := by
  have hoperation : (UInt8.ofNat call.operation).toNat = call.operation :=
    UInt8.toNat_ofNat_of_lt' (lt_of_le_of_lt h.operation.2 (by decide))
  have hid : (UInt32.ofNat call.requestId).toNat = call.requestId :=
    UInt32.toNat_ofNat_of_lt' h.requestId.2
  have small : ∀ {n : Nat}, n ≤ BYO_BLE_DOCUMENT_MAX_BYTES → (UInt16.ofNat n).toNat = n :=
    fun hn => UInt16.toNat_ofNat_of_lt' (lt_of_le_of_lt hn (by decide))
  cases position with
  | sending offset =>
    refine ⟨hoperation, hid, rfl, ?_, nofun⟩
    rintro _ ⟨⟩
    refine ⟨rfl, small ((within_le hw).trans h.document), small h.document, ?_⟩
    show (call.document.take (call.ask (.sending offset)).stop).drop offset = _
    rw [stop_sending h, piece]
  | pulling output total =>
    refine ⟨hoperation, hid, rfl, nofun, ?_⟩
    rintro _ _ ⟨⟩
    exact ⟨rfl, small hw, rfl, rfl⟩

/-- Every frame of a call within its bounds is one the codec accepts. -/
theorem valid_ask (h : call.Bounded) {position : Position} (hw : call.Within position) :
    (call.ask position).frame.Valid := by
  obtain ⟨hoperation, hid, hstatus, hsends, hpulls⟩ := tells_ask h hw
  have hop : BYO_BLE_CAPABILITIES ≤ (call.ask position).frame.operation ∧
      (call.ask position).frame.operation ≤ BYO_BLE_LIVE_SUCCESSOR := by
    rw [UInt8.le_iff_toNat_le, UInt8.le_iff_toNat_le, hoperation]
    exact h.operation
  have hne : (call.ask position).frame.requestId ≠ 0 := by
    intro hzero
    rw [hzero] at hid
    exact absurd hid (Nat.ne_of_lt h.requestId.1)
  cases position with
  | sending offset =>
    obtain ⟨hkind, hoffset, htotal, hpayload⟩ := hsends offset rfl
    have hle := within_le hw
    have hlength := length_piece call offset
    have hstop := stop_le call offset
    have hdocument := h.document
    have hchunk : call.stop offset ≤ offset + call.chunk := Nat.min_le_right _ _
    have hroom := chunk_le call
    have hpos := chunk_pos h
    refine ⟨hne, hop, ?_, ?_, ?_, ?_, ?_, ?_, ?_⟩
    · omega
    · omega
    · rw [hpayload]
      omega
    · rw [hkind]
      nofun
    · refine fun _ => ⟨hstatus, fun hsome hnone => ?_⟩
      -- a document that is not empty is sent in chunks that are not
      rw [hpayload, ← List.length_eq_zero_iff, hlength] at hnone
      rcases hw with hlt | ⟨-, hempty⟩
      · have := lt_stop h hlt
        omega
      · rw [hempty, List.length_nil] at htotal
        exact hsome (UInt16.toNat_inj.mp htotal)
    · rw [hkind]
      nofun
    · intro _
      rw [hoffset, htotal, hpayload]
      omega
  | pulling output total =>
    obtain ⟨hkind, hoffset, htotal, hpayload⟩ := hpulls output total rfl
    have hsmall : output.length ≤ BYO_BLE_DOCUMENT_MAX_BYTES := hw
    refine ⟨hne, hop, ?_, ?_, ?_, fun _ => ⟨hstatus, htotal, hpayload⟩, ?_, ?_, absurd hkind⟩
    · rw [htotal]
      exact Nat.zero_le _
    · omega
    · rw [hpayload]
      decide
    · rw [hkind]
      nofun
    · rw [hkind]
      nofun

/-- Every exchange of a call within its bounds has its plan. -/
theorem planBle_ask (h : call.Bounded) {position : Position} (hw : call.Within position) :
    planBle (call.ask position) = .ok (call.plan position) := by
  have hoperation : call.operation < 256 := lt_of_le_of_lt h.operation.2 (by decide)
  have hcapacity := h.capacity.1
  have hdocument := h.document
  have hvalid := valid_ask h hw
  have hroom : (call.ask position).frame.payload.length + BYO_BLE_HEADER_BYTES ≤
      (call.ask position).room := by
    cases position with
    | sending offset =>
      rw [((tells_ask h hw).sends offset rfl).2.2.2, length_piece]
      simp only [ask, Ask.room, stop, chunk, BYO_BLE_HEADER_BYTES] at *
      omega
    | pulling output total =>
      simp only [ask, Ask.room, Ask.frame, BYO_BLE_HEADER_BYTES] at *
      simp only [if_true, List.length_nil]
      omega
  have hencode : encodeByoBle (call.ask position).frame (call.ask position).room =
      .ok (call.ask position).frame.bytes :=
    encodeByoBle_eq_ok.mpr ⟨hvalid, by omega, rfl⟩
  have hask : (call.ask position).operation = call.operation ∧
      (call.ask position).requestId = call.requestId ∧
      (call.ask position).capacity = call.capacity := by
    cases position <;> exact ⟨rfl, rfl, rfl⟩
  have hbytes : (call.ask position).bytes.length ≤ 8192 := by
    cases position with
    | sending offset => exact h.document
    | pulling output total => exact Nat.zero_le _
  have hoffset : (call.ask position).offset ≤ 8192 ∧
      ((call.ask position).offset ≤ (call.ask position).bytes.length ∨
        (call.ask position).pull = true) := by
    cases position with
    | sending offset => exact ⟨(within_le hw).trans h.document, .inl (within_le hw)⟩
    | pulling output total => exact ⟨hw, .inr rfl⟩
  have hlarge : 12 < (call.ask position).room := by
    rw [Ask.room, hask.2.2]
    simp only [BYO_BLE_HEADER_BYTES] at hcapacity
    omega
  simp only [planBle, bind_eq_ok, guard_eq_ok, pure_eq_ok, hask.1, hask.2.1, hask.2.2]
  refine ⟨_, number_eq (by omega), by omega, _, number_eq h.requestId.2, _, number_eq h.capacity.2,
    by omega, by omega, _, number_eq (by omega), ?_, _, hencode, rfl⟩
  rintro (hfar | ⟨hpast, hpush⟩)
  · omega
  · rcases hoffset.2 with hle | hpull
    · omega
    · exact hpush hpull

end Call

/-! ## Replies -/

/-- A valid response of the call. -/
structure Call.Owns (call : Call) (frame : ByoBleFrame) : Prop where
  valid : frame.Valid
  kind : frame.kind = .response
  operation : frame.operation.toNat = call.operation
  requestId : frame.requestId.toNat = call.requestId

section Accept

variable {call : Call} {frame : ByoBleFrame} {plan : Plan} {position : Position}

/-- What `acceptByoBleReply` compares once the owner of the reply is settled. -/
theorem acceptBle_owned (h : call.Bounded) (howns : call.Owns frame)
    (hoffset : plan.expectedOffset < 2 ^ 32) :
    acceptBle frame.bytes (call.expected plan position) =
      if frame.status < 2 ∧ frame.offset.toNat ≠ plan.expectedOffset then .ok none
      else if frame.status = 3 then .ok (some (.error "context_expired"))
      else if frame.status = 2 ∨
          (¬(call.expected plan position).moreRequest ∧ frame.status ≠ 0) then
        .ok (some (.error "device_rejected"))
      else if (call.expected plan position).moreRequest ∧
          (frame.status ≠ 1 ∨
            frame.total.toNat ≠ (call.expected plan position).requestBytes.length ∨
            frame.payload ≠ []) then
        .error (fail "BYO request chunk acknowledgement mismatch")
      else if (call.expected plan position).expectedTotal.any (· ≠ frame.total.toNat) ∨
          (¬(call.expected plan position).moreRequest ∧ plan.expectedOffset ≠ 0 ∧
            frame.payload = []) then
        .error (fail "BYO reply chunk length mismatch")
      else .ok (some (.fragment frame.payload frame.offset.toNat frame.total.toNat)) := by
  have hdecode : decodeByoBle frame.bytes = .ok frame := decodeByoBle_eq_ok.mpr ⟨howns.valid, rfl⟩
  have hexpected : (call.expected plan position).operation = call.operation ∧
      (call.expected plan position).requestId = call.requestId ∧
      (call.expected plan position).expectedOffset = plan.expectedOffset := by
    cases position <;> exact ⟨rfl, rfl, rfl⟩
  have hop : call.operation < 2 ^ 32 := lt_of_le_of_lt h.operation.2 (by decide)
  unfold acceptBle
  rw [hdecode, hexpected.1, hexpected.2.1, hexpected.2.2, number_eq h.requestId.2, number_eq hop,
    number_eq hoffset]
  simp only [bind, Except.bind, howns.kind, howns.operation, howns.requestId, ne_eq, not_true_eq_false,
    if_false, lt_irrefl, or_self]
  rfl

/-- A reply at another offset is skipped. -/
theorem acceptBle_elsewhere (h : call.Bounded) (howns : call.Owns frame)
    (hoffset : plan.expectedOffset < 2 ^ 32) (hstatus : frame.status < 2)
    (helse : frame.offset.toNat ≠ plan.expectedOffset) :
    acceptBle frame.bytes (call.expected plan position) = .ok none := by
  rw [acceptBle_owned h howns hoffset, if_pos ⟨hstatus, helse⟩]

/-- A reply to an earlier request is skipped. -/
theorem acceptBle_earlier (plan : Plan) (position : Position) (h : call.Bounded) {raw : List UInt8}
    (hdecode : decodeByoBle raw = .ok frame) (hkind : frame.kind = .response)
    (hlt : frame.requestId.toNat < call.requestId) (hoffset : plan.expectedOffset < 2 ^ 32) :
    acceptBle raw (call.expected plan position) = .ok none := by
  have hexpected : (call.expected plan position).operation = call.operation ∧
      (call.expected plan position).requestId = call.requestId ∧
      (call.expected plan position).expectedOffset = plan.expectedOffset := by
    cases position <;> exact ⟨rfl, rfl, rfl⟩
  have hop : call.operation < 2 ^ 32 := lt_of_le_of_lt h.operation.2 (by decide)
  unfold acceptBle
  rw [hdecode, hexpected.1, hexpected.2.1, hexpected.2.2, number_eq h.requestId.2, number_eq hop,
    number_eq hoffset]
  simp only [bind, Except.bind, hkind, ne_eq, not_true_eq_false, if_false, if_pos hlt]
  rfl

/-- The acknowledgement of the chunk that was sent last. -/
theorem acceptBle_acknowledgement (plan : Plan) (offset : Nat) (h : call.Bounded)
    (howns : call.Owns frame) (hoffset : plan.expectedOffset < 2 ^ 32)
    (hmore : plan.stop < call.document.length)
    (hstatus : frame.status = 1) (hhere : frame.offset.toNat = plan.expectedOffset)
    (htotal : frame.total.toNat = call.document.length) (hpayload : frame.payload = []) :
    acceptBle frame.bytes (call.expected plan (.sending offset)) =
      .ok (some (.fragment [] plan.expectedOffset call.document.length)) := by
  have hrequest : (call.expected plan (.sending offset)).moreRequest = true := decide_eq_true hmore
  rw [acceptBle_owned h howns hoffset, hrequest, if_neg fun hn => hn.2 hhere,
    if_neg (by rw [hstatus]; decide), if_neg (by rw [hstatus]; decide),
    if_neg fun hn => by simp [hstatus, htotal, hpayload, Call.expected] at hn,
    if_neg fun hn => by simp [Call.expected] at hn, hhere, hpayload, htotal]

/-- A piece of the response at the offset that is awaited. -/
theorem acceptBle_response (plan : Plan) (position : Position) (h : call.Bounded)
    (howns : call.Owns frame) (hoffset : plan.expectedOffset < 2 ^ 32)
    (hmore : (call.expected plan position).moreRequest = false)
    (hstatus : frame.status = 0) (hhere : frame.offset.toNat = plan.expectedOffset)
    (htotal : ∀ total, (call.expected plan position).expectedTotal = some total →
      total = frame.total.toNat)
    (hpayload : plan.expectedOffset ≠ 0 → frame.payload ≠ []) :
    acceptBle frame.bytes (call.expected plan position) =
      .ok (some (.fragment frame.payload frame.offset.toNat frame.total.toNat)) := by
  have hnone : (call.expected plan position).expectedTotal.any (· ≠ frame.total.toNat) = false := by
    cases hsome : (call.expected plan position).expectedTotal with
    | none => rfl
    | some total => simp [htotal total hsome]
  rw [acceptBle_owned h howns hoffset, hmore, if_neg fun hn => hn.2 hhere,
    if_neg (by rw [hstatus]; decide), if_neg (by rw [hstatus]; decide), if_neg (by simp), hnone]
  rw [if_neg]
  rintro (hfalse | ⟨-, hzero, hempty⟩)
  · cases hfalse
  · exact hpayload hzero hempty

end Accept

/-! ## The device's answers -/

section Reply

variable {call : Call} {device : Device} {frame : ByoBleFrame} {offset total : Nat}
  {output : List UInt8}

theorem le_stop (h : call.Within (.sending offset)) : offset ≤ call.stop offset := by
  have := Call.within_le h
  unfold Call.stop
  omega

theorem ofNat_stop (h : call.Bounded) :
    (UInt16.ofNat (call.stop offset)).toNat = call.stop offset :=
  UInt16.toNat_ofNat_of_lt'
    (lt_of_le_of_lt ((Call.stop_le call offset).trans h.document) (by decide))

theorem ofNat_response : (UInt16.ofNat device.response.length).toNat = device.response.length :=
  UInt16.toNat_ofNat_of_lt' (lt_of_le_of_lt device.response_le (by decide))

/-- A response in the name of a frame of the call. -/
theorem owns_response {position : Position} {status : UInt8} {start total : UInt16}
    {payload : List UInt8} (htells : call.Tells frame position) (hvalid : frame.Valid)
    (hstatus : status ≤ 3) (hsilent : status ≠ 0 → payload = [])
    (htotal : total.toNat ≤ BYO_BLE_DOCUMENT_MAX_BYTES)
    (hpayload : payload.length + BYO_BLE_HEADER_BYTES ≤ BYO_BLE_FRAME_MAX_BYTES)
    (hinside : start.toNat + payload.length ≤ total.toNat) :
    call.Owns {
      kind := .response, operation := frame.operation, status, requestId := frame.requestId,
      offset := start, total, payload } := by
  have hstart : start.toNat ≤ BYO_BLE_DOCUMENT_MAX_BYTES := by omega
  exact ⟨⟨hvalid.requestId, hvalid.operation, htotal, hstart, hpayload, nofun, nofun,
    fun _ => ⟨hstatus, hsilent⟩, fun _ => hinside⟩, rfl, htells.operation, htells.requestId⟩

/-- A chunk that is not the last is acknowledged. -/
theorem reply_chunk (device : Device) (h : call.Bounded) (hw : call.Within (.sending offset))
    (htells : call.Tells frame (.sending offset)) (hvalid : frame.Valid)
    (hmore : call.stop offset < call.document.length) :
    call.Owns (device.reply frame) ∧ (device.reply frame).status = 1 ∧
      (device.reply frame).offset.toNat = call.stop offset ∧
      (device.reply frame).total.toNat = call.document.length ∧
      (device.reply frame).payload = [] := by
  obtain ⟨hkind, hoffset, htotal, hpayload⟩ := htells.sends offset rfl
  have hstop : frame.offset.toNat + frame.payload.length = call.stop offset := by
    rw [hoffset, hpayload, Call.length_piece]
    exact Nat.add_sub_of_le (le_stop hw)
  have hreply : device.reply frame = {
      kind := .response, operation := frame.operation, status := 1,
      requestId := frame.requestId, offset := .ofNat (call.stop offset), total := frame.total,
      payload := [] } := by
    simp only [Device.reply, hkind, hstop, htotal, if_pos hmore]
  rw [hreply]
  refine ⟨owns_response htells hvalid (by decide) (fun _ => rfl) hvalid.total ?_ ?_, rfl,
    ofNat_stop h, htotal, rfl⟩
  · rw [List.length_nil]
    decide
  · rw [ofNat_stop h, htotal, List.length_nil]
    exact hmore.le

/-- The last chunk is answered with the start of the response. -/
theorem reply_last (device : Device) (hw : call.Within (.sending offset))
    (htells : call.Tells frame (.sending offset)) (hvalid : frame.Valid)
    (hlast : call.stop offset = call.document.length) :
    call.Owns (device.reply frame) ∧ (device.reply frame).status = 0 ∧
      (device.reply frame).offset.toNat = 0 ∧
      (device.reply frame).total.toNat = device.response.length ∧
      (device.reply frame).payload = device.response.take device.opening := by
  obtain ⟨hkind, hoffset, htotal, hpayload⟩ := htells.sends offset rfl
  have hstop : ¬frame.offset.toNat + frame.payload.length < frame.total.toNat := by
    rw [hoffset, hpayload, Call.length_piece, htotal, Nat.add_sub_of_le (le_stop hw), hlast]
    exact lt_irrefl _
  have hreply : device.reply frame = {
      kind := .response, operation := frame.operation, status := 0,
      requestId := frame.requestId, offset := 0, total := .ofNat device.response.length,
      payload := device.response.take device.opening } := by
    simp only [Device.reply, hkind, if_neg hstop]
  rw [hreply]
  refine ⟨owns_response htells hvalid (by decide) (fun hn => absurd rfl hn) ?_ ?_ ?_, rfl, rfl,
    ofNat_response, rfl⟩
  · rw [ofNat_response]
    exact device.response_le
  · have htake : (device.response.take device.opening).length ≤ device.opening :=
      List.length_take_le _ _
    have hopening := device.opening_le
    omega
  · rw [ofNat_response, List.length_take]
    exact (Nat.zero_add _).trans_le (Nat.min_le_right _ _)

/-- A pull is answered with what the response has at its offset. -/
theorem reply_pull (device : Device) (htells : call.Tells frame (.pulling output total))
    (hvalid : frame.Valid) (hinside : output.length ≤ device.response.length) :
    call.Owns (device.reply frame) ∧ (device.reply frame).status = 0 ∧
      (device.reply frame).offset.toNat = output.length ∧
      (device.reply frame).total.toNat = device.response.length ∧
      (device.reply frame).payload =
        (device.response.drop output.length).take (device.fragment output.length) := by
  obtain ⟨hkind, hoffset, -, -⟩ := htells.pulls output total rfl
  have hreply : device.reply frame = {
      kind := .response, operation := frame.operation, status := 0,
      requestId := frame.requestId, offset := frame.offset,
      total := .ofNat device.response.length,
      payload := (device.response.drop output.length).take (device.fragment output.length) } := by
    simp only [Device.reply, hkind, hoffset]
  have hfragment := device.fragment_le output.length
  have htake : ((device.response.drop output.length).take (device.fragment output.length)).length =
      min (device.fragment output.length) (device.response.length - output.length) := by
    rw [List.length_take, List.length_drop]
  rw [hreply]
  refine ⟨owns_response htells hvalid (by decide) (fun hn => absurd rfl hn) ?_ ?_ ?_, rfl, hoffset,
    ofNat_response, rfl⟩
  · rw [ofNat_response]
    exact device.response_le
  · omega
  · rw [ofNat_response, hoffset]
    omega

end Reply

end ByoBleLink

end BotaSdk
