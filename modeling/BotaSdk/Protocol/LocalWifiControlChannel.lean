import BotaSdk.Lib.Run
import BotaSdk.Protocol.LocalWifiControl

/-!
# The control channel between two parties

The adversary chooses every wire that is opened and when it is; the cipher is ideal, that is, only
what was sealed can be opened.
-/

namespace BotaSdk

open Protocol Bytes

namespace LocalWifiControl

/-! ## One call -/

/-- Decryption inverts encryption, which adds a tag of 16 bytes and fails on huge texts only. -/
structure Sound (crypto : ControlCrypto) : Prop where
  decrypt : ∀ {key nonce aad text encrypted}, crypto.encrypt key nonce aad text = some encrypted →
    crypto.decrypt key nonce aad encrypted = some text
  length : ∀ {key nonce aad text encrypted}, crypto.encrypt key nonce aad text = some encrypted →
    encrypted.length = text.length + 16
  short : ∀ key nonce aad text, text.length < 2 ^ 32 →
    ∃ encrypted, crypto.encrypt key nonce aad text = some encrypted

theorem pair_inj {m m' : FixedBytes 40} {c c' : UInt32} (hkey : cipherKey m = cipherKey m')
    (hnonce : nonce m c = nonce m' c') : m = m' ∧ c = c' := by
  have hfront : m.1.take 32 = m'.1.take 32 := congrArg Subtype.val hkey
  have hjoined : m.1.drop 32 ++ leBytes 4 c.toNat = m'.1.drop 32 ++ leBytes 4 c'.toNat :=
    congrArg Subtype.val hnonce
  have hlength : (m.1.drop 32).length = (m'.1.drop 32).length := by
    rw [List.length_drop, List.length_drop, m.2, m'.2]
  obtain ⟨hback, hcounter⟩ := List.append_inj hjoined hlength
  constructor
  · apply Subtype.ext
    rw [← List.take_append_drop 32 m.1, hfront, hback, List.take_append_drop]
  · have hnat := congrArg leNat hcounter
    rw [leNat_leBytes_of_lt c.toNat_lt, leNat_leBytes_of_lt c'.toNat_lt] at hnat
    exact UInt32.toNat_inj.mp hnat

/-- The header is read from the first 12 bytes. -/
theorem header_congr (self : LocalWifiControl) {a b : List UInt8} (fromDevice : Bool)
    (h : a.take 12 = b.take 12) : self.header a fromDevice = self.header b fromDevice := by
  have hlength : a.length < 12 ↔ b.length < 12 := by
    have := congrArg List.length h
    rw [List.length_take, List.length_take] at this
    omega
  have hget (i : Nat) (hi : i < 12) : a.getD i 0 = b.getD i 0 := by
    have := congrArg (·[i]?) h
    simp only [List.getElem?_take, if_pos hi] at this
    rw [List.getD_eq_getElem?_getD, List.getD_eq_getElem?_getD, this]
  have hpart (i n : Nat) (hi : i + n ≤ 12) : (a.drop i).take n = (b.drop i).take n := by
    have := congrArg (fun l => (l.drop i).take n) h
    simp only [List.drop_take, List.take_take] at this
    rwa [Nat.min_eq_left (by omega)] at this
  rw [header, header, hget 1 (by omega), hget 0 (by omega), hpart 2 2 (by omega),
    hpart 4 8 (by omega)]
  simp only [hlength]

theorem length_of_header {self : LocalWifiControl} {bytes : List UInt8} {fromDevice : Bool}
    (h : self.header bytes fromDevice = .ok ()) : 12 ≤ bytes.length := by
  rw [header] at h
  split at h
  · exact nomatch h
  · rename_i hchecks
    exact Nat.le_of_not_lt fun hlt => hchecks (.inl hlt)

/-- The checks of `seal`. -/
def Sealable (self : LocalWifiControl) (frame : List UInt8) : Prop :=
  self.header frame self.device = .ok () ∧ frame.length ≤ 159 ∧ self.send.toNat < 2 ^ 32 - 1

section Calls

variable {crypto : ControlCrypto} {self : LocalWifiControl} {frame wire encrypted : List UInt8}

theorem sealFrame_refused (h : ¬self.Sealable frame) :
    ∃ error, self.sealFrame crypto frame = (self, .error error) := by
  rw [sealFrame]
  split
  · rename_i error _
    exact ⟨error, rfl⟩
  · rename_i hheader
    have hlimit := self.send.toNat_lt
    rw [if_pos]
    · exact ⟨_, rfl⟩
    · by_contra hnot
      rw [not_or] at hnot
      exact h ⟨hheader, by omega, by omega⟩

theorem sealFrame_sealed (hcrypto : Sound crypto) (h : self.Sealable frame) :
    ∃ encrypted, crypto.encrypt (cipherKey self.tx) (nonce self.tx self.send)
        (associated (self.sealedFront frame)) (frame.drop 12) = some encrypted ∧
      self.sealFrame crypto frame =
        ({ self with send := self.send + 1 }, .ok (self.sealedFront frame ++ encrypted)) := by
  obtain ⟨hheader, hlength, hsend⟩ := h
  obtain ⟨encrypted, hencrypted⟩ := hcrypto.short (cipherKey self.tx) (nonce self.tx self.send)
    (associated (self.sealedFront frame)) (frame.drop 12) (by rw [List.length_drop]; omega)
  refine ⟨encrypted, hencrypted, ?_⟩
  rw [sealFrame, hheader]
  dsimp only
  rw [if_neg (by omega), hencrypted]

/-- The checks of `open` before it decrypts. -/
def Openable (self : LocalWifiControl) (wire : List UInt8) : Prop :=
  self.header wire (!self.device) = .ok () ∧ 32 ≤ wire.length ∧ wire.length ≤ 179 ∧
    self.receive.toNat < 2 ^ 32 - 1 ∧ (wire.drop 12).take 4 = leBytes 4 self.receive.toNat

/-- What `open` hands to the cipher comes back as `plain`. -/
def Decrypts (crypto : ControlCrypto) (self : LocalWifiControl) (wire plain : List UInt8) : Prop :=
  crypto.decrypt (cipherKey self.rx) (nonce self.rx self.receive) (associated (wire.take 16))
    (wire.drop 16) = some plain

theorem openWire_opened {plain : List UInt8} (h : self.Openable wire)
    (hplain : Decrypts crypto self wire plain) :
    self.openWire crypto wire =
      ({ self with receive := self.receive + 1 }, .ok (wire.take 12 ++ plain)) := by
  obtain ⟨hheader, hlow, hhigh, hreceive, hcounter⟩ := h
  rw [Decrypts] at hplain
  rw [openWire, hheader]
  dsimp only
  rw [if_neg, hplain]
  rintro (h | h | h | h)
  · omega
  · omega
  · omega
  · exact h hcounter

/-- A refused wire changes nothing. -/
theorem openWire_cases (crypto : ControlCrypto) (self : LocalWifiControl) (wire : List UInt8) :
    (∃ error, self.openWire crypto wire = (self, .error error)) ∨
      ∃ plain, self.Openable wire ∧ Decrypts crypto self wire plain := by
  have hlimit := self.receive.toNat_lt
  rw [openWire]
  split
  · rename_i error _
    exact .inl ⟨error, rfl⟩
  · rename_i hheader
    split
    · exact .inl ⟨_, rfl⟩
    · rename_i hchecks
      rw [not_or, not_or, not_or, not_not] at hchecks
      split
      · exact .inl ⟨_, rfl⟩
      · rename_i plain hplain
        exact .inr ⟨plain, ⟨hheader, by omega, by omega, by omega, hchecks.2.2.2⟩, hplain⟩

theorem length_sealedFront (h : 12 ≤ frame.length) : (self.sealedFront frame).length = 16 := by
  rw [sealedFront, List.length_append, List.length_take, length_leBytes]
  omega

theorem length_wire (hcrypto : Sound crypto) (hseal : self.Sealable frame)
    (hencrypted : crypto.encrypt (cipherKey self.tx) (nonce self.tx self.send)
      (associated (self.sealedFront frame)) (frame.drop 12) = some encrypted) :
    (self.sealedFront frame ++ encrypted).length = frame.length + 20 := by
  have hlength := length_of_header hseal.1
  rw [List.length_append, length_sealedFront hlength, hcrypto.length hencrypted, List.length_drop]
  omega

/-- The peer whose counter has reached a sealed wire opens it. -/
theorem openWire_sealed (hcrypto : Sound crypto) {peer : LocalWifiControl}
    (hseal : self.Sealable frame)
    (hencrypted : crypto.encrypt (cipherKey self.tx) (nonce self.tx self.send)
      (associated (self.sealedFront frame)) (frame.drop 12) = some encrypted)
    (hkey : peer.rx = self.tx) (hsession : peer.session = self.session)
    (hdevice : peer.device = !self.device) (hcounter : peer.receive = self.send) :
    (peer.openWire crypto (self.sealedFront frame ++ encrypted)).2 = .ok frame := by
  have hlength := length_of_header hseal.1
  have hfront : (self.sealedFront frame).length = 16 := length_sealedFront hlength
  have htake16 : (self.sealedFront frame ++ encrypted).take 16 = self.sealedFront frame := by
    rw [← hfront, List.take_left]
  have hdrop16 : (self.sealedFront frame ++ encrypted).drop 16 = encrypted := by
    rw [← hfront, List.drop_left]
  have hheader12 : (frame.take 12).length = 12 := by
    rw [List.length_take]
    omega
  have htake12 : (self.sealedFront frame ++ encrypted).take 12 = frame.take 12 := by
    rw [sealedFront, List.append_assoc, List.take_left' hheader12]
  have hdrop12 : ((self.sealedFront frame ++ encrypted).drop 12).take 4 =
      leBytes 4 self.send.toNat := by
    rw [sealedFront, List.append_assoc, List.drop_left' hheader12,
      List.take_left' (length_leBytes 4 _)]
  have hopenable : peer.Openable (self.sealedFront frame ++ encrypted) := by
    have hwire := length_wire hcrypto hseal hencrypted
    obtain ⟨hheader, hlimit, hsend⟩ := hseal
    refine ⟨?_, by omega, by omega, by rw [hcounter]; exact hsend, by rw [hcounter]; exact hdrop12⟩
    rw [hdevice, Bool.not_not, header_congr _ _ htake12]
    rw [header] at hheader ⊢
    rwa [hsession]
  have hdecrypts : Decrypts crypto peer (self.sealedFront frame ++ encrypted) (frame.drop 12) := by
    rw [Decrypts, htake16, hdrop16, hkey, hcounter]
    exact hcrypto.decrypt hencrypted
  rw [openWire_opened hopenable hdecrypts, htake12, List.take_append_drop]

end Calls

/-- The sender's next state. -/
def sent (self : LocalWifiControl) : LocalWifiControl :=
  { self with send := self.send + 1 }

/-- The receiver's next state. -/
def received (self : LocalWifiControl) : LocalWifiControl :=
  { self with receive := self.receive + 1 }

theorem toNat_add_one {counter : UInt32} (h : counter.toNat < 2 ^ 32 - 1) :
    (counter + 1).toNat = counter.toNat + 1 := by
  rw [UInt32.toNat_add, Nat.mod_eq_of_lt]
  · rfl
  · show counter.toNat + 1 < 2 ^ 32
    omega

/-! ## Two parties and the adversary -/

/-- The app (`false`) and the device (`true`). -/
abbrev Link := Bool → LocalWifiControl

/-- A party seals a frame, or opens a wire that the adversary hands to it. -/
inductive LinkCall where
  | sealFrame (device : Bool) (frame : List UInt8)
  | openWire (device : Bool) (wire : List UInt8)

def linkStep (crypto : ControlCrypto) (link : Link) :
    LinkCall → Link × Except DeviceSdkError (List UInt8)
  | .sealFrame device frame =>
    (Function.update link device ((link device).sealFrame crypto frame).1,
      ((link device).sealFrame crypto frame).2)
  | .openWire device wire =>
    (Function.update link device ((link device).openWire crypto wire).1,
      ((link device).openWire crypto wire).2)

abbrev LinkEntry := Machine.Entry Link LinkCall (Except DeviceSdkError (List UInt8))

/-- The frame that the call sealed. -/
def sealedFrame (device : Bool) (e : LinkEntry) : Option (List UInt8) :=
  match e.input, e.output with
  | .sealFrame party frame, .ok _ => if party = device then some frame else none
  | _, _ => none

/-- The frame that the call opened. -/
def openedFrame (device : Bool) (e : LinkEntry) : Option (List UInt8) :=
  match e.input, e.output with
  | .openWire party _, .ok frame => if party = device then some frame else none
  | _, _ => none

def sealed (device : Bool) (history : List LinkEntry) : List (List UInt8) :=
  history.filterMap (sealedFrame device)

def opened (device : Bool) (history : List LinkEntry) : List (List UInt8) :=
  history.filterMap (openedFrame device)

open Classical in
/-- The key and the nonce that the call hands to the cipher for sealing. -/
noncomputable def sealingPair (e : LinkEntry) : Option (FixedBytes 32 × FixedBytes 12) :=
  match e.input with
  | .sealFrame device frame =>
    if (e.pre device).Sealable frame then
      some (cipherKey (e.pre device).tx, nonce (e.pre device).tx (e.pre device).send)
    else none
  | .openWire _ _ => none

/-- The ideal cipher: what decrypts was encrypted before, under the same key and nonce and with the
same associated data. -/
def Unforged (crypto : ControlCrypto) (history : List LinkEntry) (link : Link) : LinkCall → Prop
  | .sealFrame _ _ => True
  | .openWire device wire =>
    (∃ plain, Decrypts crypto (link device) wire plain) →
      ∃ e ∈ history, ∃ party frame, e.input = .sealFrame party frame ∧ (e.pre party).Sealable frame ∧
        cipherKey (e.pre party).tx = cipherKey (link device).rx ∧
        nonce (e.pre party).tx (e.pre party).send = nonce (link device).rx (link device).receive ∧
        associated ((e.pre party).sealedFront frame) = associated (wire.take 16) ∧
        crypto.encrypt (cipherKey (e.pre party).tx) (nonce (e.pre party).tx (e.pre party).send)
          (associated ((e.pre party).sealedFront frame)) (frame.drop 12) = some (wire.drop 16)

abbrev LinkRun (crypto : ControlCrypto) :=
  Machine.Run (linkStep crypto) (Unforged crypto)

section Runs

variable {crypto : ControlCrypto} {keys : Bool → FixedBytes 40} {session : UInt64}
  {history before after : List LinkEntry} {link link₀ : Link} {e : LinkEntry} {device : Bool}
  {frame wire : List UInt8}

/-- What the parties' states say about the calls so far. -/
structure Story (keys : Bool → FixedBytes 40) (session : UInt64) (history : List LinkEntry)
    (link : Link) : Prop where
  tx : ∀ d, (link d).tx = keys d
  rx : ∀ d, (link d).rx = keys !d
  session : ∀ d, (link d).session = session
  device : ∀ d, (link d).device = d
  sends : ∀ d, (link d).send.toNat = (sealed d history).length
  receives : ∀ d, (link d).receive.toNat ≤ (sealed (!d) history).length ∧
    opened d history = (sealed (!d) history).take (link d).receive.toNat
  numbered : ∀ e ∈ history, ∀ d frame, e.input = .sealFrame d frame → (e.pre d).Sealable frame →
    (e.pre d).tx = keys d ∧ (sealed d history)[(e.pre d).send.toNat]? = some frame

theorem sealed_snoc (d : Bool) (history : List LinkEntry) (e : LinkEntry) :
    sealed d (history ++ [e]) = sealed d history ++ (sealedFrame d e).toList := by
  rw [sealed, List.filterMap_append, ← sealed, List.filterMap_cons, List.filterMap_nil]
  cases sealedFrame d e <;> rfl

theorem opened_snoc (d : Bool) (history : List LinkEntry) (e : LinkEntry) :
    opened d (history ++ [e]) = opened d history ++ (openedFrame d e).toList := by
  rw [opened, List.filterMap_append, ← opened, List.filterMap_cons, List.filterMap_nil]
  cases openedFrame d e <;> rfl

/-- What a call does not change of a party. -/
theorem update_field {β : Type} (f : LocalWifiControl → β) (link : Link) (device : Bool)
    (changed : LocalWifiControl) (h : f changed = f (link device)) (d : Bool) :
    f (Function.update link device changed d) = f (link d) := by
  by_cases hd : d = device
  · rw [hd, Function.update_self, h]
  · rw [Function.update_of_ne hd]

/-- The numbers of the sealed frames stay as the history grows. -/
theorem Story.numbered_snoc (h : Story keys session history link) {last : LinkEntry}
    (hlast : ∀ d frame, last.input = .sealFrame d frame → (last.pre d).Sealable frame →
      (last.pre d).tx = keys d ∧
        (sealed d (history ++ [last]))[(last.pre d).send.toNat]? = some frame) :
    ∀ e ∈ history ++ [last], ∀ d frame, e.input = .sealFrame d frame → (e.pre d).Sealable frame →
      (e.pre d).tx = keys d ∧
        (sealed d (history ++ [last]))[(e.pre d).send.toNat]? = some frame := by
  intro e he d frame hinput hsealable
  rcases List.mem_append.mp he with he | he
  · obtain ⟨htx, hnumber⟩ := h.numbered e he d frame hinput hsealable
    refine ⟨htx, ?_⟩
    obtain ⟨hlt, -⟩ := List.getElem?_eq_some_iff.mp hnumber
    rw [sealed_snoc, List.getElem?_append_left hlt]
    exact hnumber
  · obtain rfl := List.mem_singleton.mp he
    exact hlast d frame hinput hsealable

/-- A refused call. -/
theorem Story.refused (h : Story keys session history link) {call : LinkCall}
    {error : DeviceSdkError} (hcall : ∀ d frame, call = .sealFrame d frame → ¬(link d).Sealable frame) :
    Story keys session (history ++ [⟨link, call, .error error⟩]) link := by
  have hsealed (d : Bool) : sealed d (history ++ [⟨link, call, .error error⟩]) = sealed d history := by
    rw [sealed_snoc]
    cases call <;> exact List.append_nil _
  have hopened (d : Bool) : opened d (history ++ [⟨link, call, .error error⟩]) = opened d history := by
    rw [opened_snoc]
    cases call <;> exact List.append_nil _
  refine ⟨h.tx, h.rx, h.session, h.device, ?_, ?_, ?_⟩
  · intro d
    rw [hsealed, h.sends]
  · intro d
    rw [hsealed, hopened]
    exact h.receives d
  · exact h.numbered_snoc fun d frame hinput hsealable => absurd hsealable (hcall d frame hinput)

theorem Story.seal (h : Story keys session history link) (hsealable : (link device).Sealable frame) :
    Story keys session (history ++ [⟨link, .sealFrame device frame, .ok wire⟩])
      (Function.update link device (link device).sent) := by
  have hself : sealed device (history ++ [⟨link, .sealFrame device frame, .ok wire⟩]) =
      sealed device history ++ [frame] := by
    rw [sealed_snoc]
    simp [sealedFrame]
  have hother (d : Bool) (hd : d ≠ device) :
      sealed d (history ++ [⟨link, .sealFrame device frame, .ok wire⟩]) = sealed d history := by
    rw [sealed_snoc]
    simp [sealedFrame, hd.symm]
  have hopened (d : Bool) :
      opened d (history ++ [⟨link, .sealFrame device frame, .ok wire⟩]) = opened d history := by
    rw [opened_snoc]
    exact List.append_nil _
  refine ⟨?_, ?_, ?_, ?_, ?_, ?_, ?_⟩
  · exact fun d => (update_field LocalWifiControl.tx link device (link device).sent rfl d).trans (h.tx d)
  · exact fun d => (update_field LocalWifiControl.rx link device (link device).sent rfl d).trans (h.rx d)
  · exact fun d => (update_field LocalWifiControl.session link device (link device).sent rfl d).trans (h.session d)
  · exact fun d => (update_field LocalWifiControl.device link device (link device).sent rfl d).trans (h.device d)
  · intro d
    by_cases hd : d = device
    · rw [hd, Function.update_self, hself, List.length_append, ← h.sends]
      exact toNat_add_one hsealable.2.2
    · rw [Function.update_of_ne hd, hother d hd, h.sends]
  · intro d
    rw [hopened, update_field LocalWifiControl.receive link device (link device).sent rfl d]
    obtain ⟨hle, heq⟩ := h.receives d
    rw [sealed_snoc]
    refine ⟨by rw [List.length_append]; omega, ?_⟩
    rw [List.take_append_of_le_length hle, heq]
  · refine h.numbered_snoc fun d frame' hinput _ => ?_
    obtain ⟨rfl, rfl⟩ := LinkCall.sealFrame.inj hinput
    refine ⟨h.tx _, ?_⟩
    rw [hself, h.sends, List.getElem?_concat_length]

theorem Story.deliver (h : Story keys session history link) (hkeys : keys false ≠ keys true)
    (hcrypto : Sound crypto) (hunforged : Unforged crypto history link (.openWire device wire))
    (hopenable : (link device).Openable wire) {plain : List UInt8}
    (hplain : Decrypts crypto (link device) wire plain) :
    Story keys session
      (history ++ [⟨link, .openWire device wire, .ok (wire.take 12 ++ plain)⟩])
      (Function.update link device (link device).received) := by
  obtain ⟨e, he, party, frame, hinput, hsealable, hkey, hnonce, haad, hencrypted⟩ :=
    hunforged ⟨plain, hplain⟩
  obtain ⟨htx, hnumber⟩ := h.numbered e he party frame hinput hsealable
  obtain ⟨hmaterial, hcounter⟩ := pair_inj hkey hnonce
  -- the frame was sealed by the other party, and it is the one whose turn it is
  obtain rfl : party = !device := by
    rw [htx, h.rx] at hmaterial
    cases party <;> cases device
    · exact absurd hmaterial hkeys
    · rfl
    · rfl
    · exact absurd hmaterial.symm hkeys
  rw [hcounter] at hnumber
  have hframe : wire.take 12 ++ plain = frame := by
    have hback : plain = frame.drop 12 := by
      have hopen := hcrypto.decrypt hencrypted
      rw [haad, hkey, hnonce] at hopen
      rw [Decrypts] at hplain
      exact Option.some.inj (hplain.symm.trans hopen)
    have hfront : wire.take 12 = frame.take 12 := by
      have hlength := length_of_header hsealable.1
      have hsame : (e.pre !device).sealedFront frame = wire.take 16 :=
        List.append_cancel_left haad
      have htake := congrArg (List.take 12) hsame
      rw [List.take_take, sealedFront, List.take_left' (by rw [List.length_take]; omega)] at htake
      exact htake.symm
    rw [hfront, hback, List.take_append_drop]
  have hself : opened device (history ++ [⟨link, .openWire device wire, .ok (wire.take 12 ++ plain)⟩]) =
      opened device history ++ [frame] := by
    rw [opened_snoc, ← hframe]
    simp [openedFrame]
  have hother (d : Bool) (hd : d ≠ device) :
      opened d (history ++ [⟨link, .openWire device wire, .ok (wire.take 12 ++ plain)⟩]) =
        opened d history := by
    rw [opened_snoc]
    simp [openedFrame, hd.symm]
  have hsealed (d : Bool) :
      sealed d (history ++ [⟨link, .openWire device wire, .ok (wire.take 12 ++ plain)⟩]) =
        sealed d history := by
    rw [sealed_snoc]
    exact List.append_nil _
  refine ⟨?_, ?_, ?_, ?_, ?_, ?_, ?_⟩
  · exact fun d => (update_field LocalWifiControl.tx link device (link device).received rfl d).trans (h.tx d)
  · exact fun d => (update_field LocalWifiControl.rx link device (link device).received rfl d).trans (h.rx d)
  · exact fun d => (update_field LocalWifiControl.session link device (link device).received rfl d).trans (h.session d)
  · exact fun d => (update_field LocalWifiControl.device link device (link device).received rfl d).trans (h.device d)
  · intro d
    rw [update_field LocalWifiControl.send link device (link device).received rfl d, hsealed, h.sends]
  · intro d
    rw [hsealed]
    obtain ⟨hle, heq⟩ := h.receives d
    by_cases hd : d = device
    · subst hd
      obtain ⟨hlt, hget⟩ := List.getElem?_eq_some_iff.mp hnumber
      have hnext : (link d).received.receive.toNat = (link d).receive.toNat + 1 :=
        toNat_add_one hopenable.2.2.2.1
      rw [Function.update_self, hself, hnext]
      refine ⟨hlt, ?_⟩
      rw [List.take_succ_eq_append_getElem hlt, hget, heq]
    · rw [Function.update_of_ne hd, hother d hd]
      exact ⟨hle, heq⟩
  · exact h.numbered_snoc fun d frame' hinput => (nomatch hinput)

theorem run_story (hcrypto : Sound crypto) (hkeys : keys false ≠ keys true)
    (hstart : Story keys session [] link₀) (hrun : LinkRun crypto link₀ history link) :
    Story keys session history link := by
  induction hrun with
  | nil => exact hstart
  | @snoc history link call hrun hunforged ih =>
    cases call with
    | sealFrame device frame =>
      by_cases hsealable : (link device).Sealable frame
      · obtain ⟨encrypted, -, heq⟩ := sealFrame_sealed hcrypto hsealable
        rw [linkStep, heq]
        exact ih.seal hsealable
      · obtain ⟨error, heq⟩ := @sealFrame_refused crypto (link device) frame hsealable
        rw [linkStep, heq, Function.update_eq_self]
        refine ih.refused fun d frame' hcall => ?_
        obtain ⟨rfl, rfl⟩ := LinkCall.sealFrame.inj hcall
        exact hsealable
    | openWire device wire =>
      rcases openWire_cases crypto (link device) wire with ⟨error, heq⟩ | ⟨plain, hopenable, hplain⟩
      · rw [linkStep, heq, Function.update_eq_self]
        exact ih.refused fun d frame' hcall => (nomatch hcall)
      · rw [linkStep, openWire_opened hopenable hplain]
        exact ih.deliver hkeys hcrypto hunforged hopenable hplain

theorem sealingPair_eq {pair : FixedBytes 32 × FixedBytes 12} (h : sealingPair e = some pair) :
    ∃ d frame, e.input = .sealFrame d frame ∧ (e.pre d).Sealable frame ∧
      pair = (cipherKey (e.pre d).tx, nonce (e.pre d).tx (e.pre d).send) := by
  rw [sealingPair] at h
  split at h
  · rename_i d frame hinput
    split at h
    · rename_i hsealable
      exact ⟨d, frame, hinput, hsealable, (Option.some.inj h).symm⟩
    · exact nomatch h
  · exact nomatch h

theorem run_pairs (hcrypto : Sound crypto) (hkeys : keys false ≠ keys true)
    (hstart : Story keys session [] link₀) (hrun : LinkRun crypto link₀ history link) :
    (history.filterMap sealingPair).Nodup := by
  induction hrun with
  | nil => exact List.nodup_nil
  | @snoc history link call hrun hunforged ih =>
    have hstory := run_story hcrypto hkeys hstart hrun
    rw [List.filterMap_append, List.nodup_append]
    refine ⟨ih, ?_, ?_⟩
    · rw [List.filterMap_cons, List.filterMap_nil]
      split
      · exact List.nodup_nil
      · exact List.nodup_cons.mpr ⟨List.not_mem_nil, List.nodup_nil⟩
    · intro pair hpair pair' hpair' heq
      subst heq
      obtain ⟨e, he, hused⟩ := List.mem_filterMap.mp hpair
      obtain ⟨last, hlast, hused'⟩ := List.mem_filterMap.mp hpair'
      obtain rfl := List.mem_singleton.mp hlast
      obtain ⟨d, frame, hinput, hsealable, rfl⟩ := sealingPair_eq hused
      obtain ⟨d', frame', hinput', -, hsame⟩ := sealingPair_eq hused'
      obtain ⟨hkey, hnonce⟩ := Prod.mk.inj hsame
      obtain ⟨hmaterial, hcounter⟩ := pair_inj hkey hnonce
      obtain ⟨htx, hnumber⟩ := hstory.numbered e he d frame hinput hsealable
      -- one party used the pair twice, but its counter has moved on
      obtain rfl : d = d' := by
        rw [htx, hstory.tx] at hmaterial
        cases d <;> cases d'
        · rfl
        · exact absurd hmaterial hkeys
        · exact absurd hmaterial.symm hkeys
        · rfl
      rw [hcounter, hstory.sends, List.getElem?_eq_none le_rfl] at hnumber
      exact nomatch hnumber

end Runs

/-! ## The channel -/

section Channel

variable {crypto : ControlCrypto} {key transcript : FixedBytes 32} {session : UInt64}
  {app device : LocalWifiControl} {history : List LinkEntry} {link : Link}

def parties (app device : LocalWifiControl) : Link :=
  fun party => if party then device else app

theorem new_story (happ : new crypto key transcript session false = .ok app)
    (hdevice : new crypto key transcript session true = .ok device)
    (hexpand : crypto.expand transcript key LOCAL_WIFI_CONTROL_APP_INFO ≠
      crypto.expand transcript key LOCAL_WIFI_CONTROL_DEVICE_INFO) :
    ∃ keys : Bool → FixedBytes 40, keys false ≠ keys true ∧
      Story keys session [] (parties app device) := by
  rw [new] at happ hdevice
  split at happ
  · exact nomatch happ
  · rename_i hchecks
    rw [if_neg hchecks] at hdevice
    split at happ
    · rename_i own peer hown hpeer
      rw [hown, hpeer] at hdevice hexpand
      simp only [Bool.false_eq_true, if_false, if_true, Except.ok.injEq] at happ hdevice
      subst happ hdevice
      refine ⟨fun party => if party then peer else own, fun h => hexpand (congrArg some h), ?_⟩
      refine ⟨?_, ?_, ?_, ?_, ?_, ?_, fun _ he => (nomatch he)⟩
      · rintro (_ | _) <;> rfl
      · rintro (_ | _) <;> rfl
      · rintro (_ | _) <;> rfl
      · rintro (_ | _) <;> rfl
      · rintro (_ | _) <;> rfl
      · rintro (_ | _) <;> exact ⟨Nat.zero_le _, rfl⟩
    · exact nomatch happ

/-- With an ideal cipher, whatever the adversary delivers: each party opens the frames that the other
one sealed, in order and from the first one on; no key is used twice with one nonce; a refused wire
changes nothing; every sealed wire is one that the other party opens when its turn comes. -/
theorem channel_in_order (hcrypto : Sound crypto)
    (hexpand : crypto.expand transcript key LOCAL_WIFI_CONTROL_APP_INFO ≠
      crypto.expand transcript key LOCAL_WIFI_CONTROL_DEVICE_INFO)
    (happ : new crypto key transcript session false = .ok app)
    (hdevice : new crypto key transcript session true = .ok device)
    (hrun : LinkRun crypto (parties app device) history link) :
    (∀ party, opened party history <+: sealed (!party) history) ∧
    (history.filterMap sealingPair).Nodup ∧
    (∀ e ∈ history, ∀ party wire error, e.input = .openWire party wire → e.output = .error error →
      (linkStep crypto e.pre e.input).1 = e.pre) ∧
    (∀ e ∈ history, ∀ party frame wire, e.input = .sealFrame party frame → e.output = .ok wire →
      32 ≤ wire.length ∧ wire.length ≤ 179 ∧
        ((link !party).receive = (e.pre party).send →
          ((link !party).openWire crypto wire).2 = .ok frame)) := by
  obtain ⟨keys, hkeys, hstart⟩ := new_story happ hdevice hexpand
  have hstory := run_story hcrypto hkeys hstart hrun
  refine ⟨?_, run_pairs hcrypto hkeys hstart hrun, ?_, ?_⟩
  · intro party
    rw [(hstory.receives party).2]
    exact List.take_prefix _ _
  · intro e he party wire error hinput houtput
    obtain ⟨-, -, -, -, -, hentry⟩ := hrun.mem he
    rw [hinput, linkStep] at hentry ⊢
    rcases openWire_cases crypto (e.pre party) wire with ⟨_, heq⟩ | ⟨plain, hopenable, hplain⟩
    · rw [heq, Function.update_eq_self]
    · rw [openWire_opened hopenable hplain, houtput] at hentry
      exact nomatch hentry
  · intro e he party frame wire hinput houtput
    obtain ⟨before, -, -, hbefore, -, hentry⟩ := hrun.mem he
    have hpre := run_story hcrypto hkeys hstart hbefore
    rw [hinput, linkStep, houtput] at hentry
    -- what was sealed opens with the keys, the session and the counter of the other party
    by_cases hsealable : (e.pre party).Sealable frame
    · obtain ⟨encrypted, hencrypted, heq⟩ := sealFrame_sealed hcrypto hsealable
      rw [heq] at hentry
      obtain rfl := Except.ok.inj hentry
      have hlength := length_wire hcrypto hsealable hencrypted
      have hfloor := length_of_header hsealable.1
      have hceiling := hsealable.2.1
      refine ⟨by omega, by omega, fun hcounter => ?_⟩
      refine openWire_sealed hcrypto hsealable hencrypted ?_ ?_ ?_ hcounter
      · rw [hstory.rx, hpre.tx, Bool.not_not]
      · rw [hstory.session, hpre.session]
      · rw [hstory.device, hpre.device]
    · obtain ⟨error, heq⟩ := @sealFrame_refused crypto _ _ hsealable
      rw [heq] at hentry
      exact nomatch hentry

end Channel

/-! ## A sample run -/

def sampleKey : FixedBytes 32 := FixedBytes.replicate 32 7

def sampleTranscript : FixedBytes 32 := FixedBytes.replicate 32 8

/-- `LOCAL_WIFI_LINK_QUERY` in session 41. -/
def sampleQuery : List UInt8 :=
  [0x11, 2, 0, 0, 41, 0, 0, 0, 0, 0, 0, 0]

/-- The material of the app's direction for the sample key and transcript. -/
def sampleApp : FixedBytes 40 :=
  ⟨[134, 240, 102, 183, 109, 96, 60, 13, 170, 184, 54, 209, 104, 42, 59, 135, 102, 240, 221, 125, 110,
    166, 197, 121, 153, 33, 94, 48, 151, 199, 216, 201, 26, 113, 40, 64, 106, 227, 147, 64], rfl⟩

def sampleDevice : FixedBytes 40 :=
  ⟨[50, 98, 55, 124, 190, 235, 11, 202, 184, 139, 212, 64, 81, 15, 191, 152, 104, 29, 88, 175, 130, 253,
    170, 191, 22, 147, 176, 43, 212, 186, 113, 146, 223, 247, 151, 180, 54, 9, 238, 200], rfl⟩

/-- The tag of the sealed query, and zeros for anything else. -/
def sampleTag (key : FixedBytes 32) (iv : FixedBytes 12) (aad text : List UInt8) : FixedBytes 16 :=
  if key = cipherKey sampleApp ∧ iv = nonce sampleApp 0 ∧
      aad = associated (sampleQuery ++ [0, 0, 0, 0]) ∧ text = [] then
    ⟨[105, 142, 99, 167, 92, 6, 153, 176, 73, 122, 190, 23, 235, 46, 219, 41], rfl⟩
  else FixedBytes.replicate 16 0

def sampleCrypto : ControlCrypto where
  expand _ _ info :=
    if info = LOCAL_WIFI_CONTROL_APP_INFO then some sampleApp
    else if info = LOCAL_WIFI_CONTROL_DEVICE_INFO then some sampleDevice
    else none
  encrypt key iv aad text := some (text ++ (sampleTag key iv aad text).1)
  decrypt key iv aad encrypted :=
    let text := encrypted.take (encrypted.length - 16)
    if encrypted = text ++ (sampleTag key iv aad text).1 then some text else none

theorem sound_sampleCrypto : Sound sampleCrypto := by
  refine ⟨?_, ?_, fun _ _ _ _ _ => ⟨_, rfl⟩⟩
  · intro key iv aad text encrypted h
    obtain rfl := Option.some.inj h
    have hlength : (text ++ (sampleTag key iv aad text).1).length - 16 = text.length := by
      rw [List.length_append, (sampleTag key iv aad text).2, Nat.add_sub_cancel]
    show (if _ = _ then _ else _) = _
    rw [hlength, List.take_left, if_pos rfl]
  · intro key iv aad text encrypted h
    obtain rfl := Option.some.inj h
    rw [List.length_append, (sampleTag key iv aad text).2]

def sampleParty (party : Bool) : LocalWifiControl :=
  if party then ⟨sampleDevice, sampleApp, 41, 0, 0, true⟩ else ⟨sampleApp, sampleDevice, 41, 0, 0, false⟩

/-- A wire with its last bit changed, the wire itself and the wire again. -/
def sampleCalls : List LinkCall :=
  let front := sampleQuery ++ [0, 0, 0, 0]
  let tag := [105, 142, 99, 167, 92, 6, 153, 176, 73, 122, 190, 23, 235, 46, 219]
  [.sealFrame false sampleQuery, .openWire true (front ++ tag ++ [40]),
    .openWire true (front ++ tag ++ [41]), .openWire true (front ++ tag ++ [41])]

def sampleRun : List LinkEntry × Link :=
  Machine.exec (linkStep sampleCrypto) [] (parties (sampleParty false) (sampleParty true)) sampleCalls

theorem channel_in_order_sample :
    opened true sampleRun.1 = [sampleQuery] ∧ opened true sampleRun.1 <+: sealed false sampleRun.1 := by
  have hfalse : new sampleCrypto sampleKey sampleTranscript 41 false = .ok (sampleParty false) := by
    decide +kernel
  have htrue : new sampleCrypto sampleKey sampleTranscript 41 true = .ok (sampleParty true) := by
    decide +kernel
  have hexpand : sampleCrypto.expand sampleTranscript sampleKey LOCAL_WIFI_CONTROL_APP_INFO ≠
      sampleCrypto.expand sampleTranscript sampleKey LOCAL_WIFI_CONTROL_DEVICE_INFO := by
    decide +kernel
  have hforged {history : List LinkEntry} {link : Link} {wire : List UInt8}
      (h : sampleCrypto.decrypt (cipherKey (link true).rx) (nonce (link true).rx (link true).receive)
        (associated (wire.take 16)) (wire.drop 16) = none) :
      Unforged sampleCrypto history link (.openWire true wire) := by
    rintro ⟨plain, hplain⟩
    rw [Decrypts, h] at hplain
    exact nomatch hplain
  have hrun : LinkRun sampleCrypto (parties (sampleParty false) (sampleParty true)) sampleRun.1
      sampleRun.2 := by
    refine Machine.Run.exec ⟨trivial, hforged (by decide +kernel), ?_, hforged (by decide +kernel),
      trivial⟩
    -- the second wire is the one that was sealed first
    refine fun _ => ⟨_, List.mem_cons_self, false, sampleQuery, rfl, ?_, ?_, ?_, ?_, ?_⟩
    · exact ⟨by decide +kernel, by decide +kernel, by decide +kernel⟩
    all_goals decide +kernel
  obtain ⟨hopens, -⟩ := channel_in_order sound_sampleCrypto hexpand hfalse htrue hrun
  exact ⟨by decide +kernel, hopens true⟩

end LocalWifiControl

end BotaSdk
