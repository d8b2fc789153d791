import BotaSdk.Lib.Numbered
import BotaSdk.Workflow.RecordingReader

/-!
# The stream of a recording

A device sends a recording as numbered DATA packets, or as E2E_START and numbered ENCRYPTED_DATA
packets; the numbers are counted modulo `2 ^ 16`.
-/

namespace BotaSdk

open Protocol RecordingTransfer Delivery Numbered

namespace RecordingTransferWorkflow

/-- What a device sends of one recording. -/
structure RecordingStream where
  /-- The ephemeral public key and the salt of an encrypted recording. -/
  header : Option (List UInt8 × List UInt8)
  payloads : List (List UInt8)
  /-- A chunk ends with its tag of 16 bytes, and its plaintext length fits the frame header. -/
  fits : header.isSome → ∀ chunk ∈ payloads, 16 ≤ chunk.length ∧ chunk.length - 16 ≤ 65535

namespace RecordingStream

variable (stream : RecordingStream)

def numberedPacket (number : Nat) (payload : List UInt8) : TransferPacket :=
  match stream.header with
  | none => .data number payload
  | some _ => .encryptedData number payload

/-- The bytes that a payload adds to the recording. -/
def frame (payload : List UInt8) : List UInt8 :=
  match stream.header with
  | none => payload
  | some _ => framed payload

def frames : List (List UInt8) :=
  stream.payloads.map stream.frame

/-- The bytes that the header adds. -/
def headerBytes : List UInt8 :=
  match stream.header with
  | none => []
  | some (ephemeralPublicKey, salt) => ephemeralPublicKey ++ salt

@[simp] theorem length_frames : stream.frames.length = stream.payloads.length :=
  List.length_map ..

end RecordingStream

/-- The reader may take the numbered packets of the stream. -/
def Ready (stream : RecordingStream) (r : Reader) : Prop :=
  match stream.header with
  | none => r.encrypted ≠ some true
  | some _ => r.encrypted = some true ∧ r.header

section Read

variable {stream : RecordingStream} {r r' r₀ : Reader} {number : Nat} {payload : List UInt8}
  {w w' : RecordingTransferWorkflow} {packet : TransferPacket}

/-- A number at or below the last one is taken for a duplicate. -/
theorem read_duplicate (hready : Ready stream r) (hdup : r.last.any (number ≤ ·)) :
    r.read (stream.numberedPacket number payload) = some (r, []) := by
  rw [RecordingStream.numberedPacket]
  cases hheader : stream.header with
  | none => rw [Reader.read, if_pos hdup]
  | some start =>
    rw [Ready, hheader] at hready
    have hreadable : ¬(r.encrypted ≠ some true ∨ ¬r.header) := by
      rw [hready.1, hready.2]
      decide
    rw [Reader.read, if_neg hreadable, if_pos hdup]

/-- The next number adds the frame of its payload. -/
theorem read_next (hready : Ready stream r) (hmem : payload ∈ stream.payloads)
    (hnew : ¬r.last.any (number ≤ ·)) (hnumber : number = r.next) :
    ∃ r', r.read (stream.numberedPacket number payload) =
      some (r', [(number, stream.frame payload)]) ∧ r'.last = some number ∧ Ready stream r' ∧
      r'.resumed = r.resumed := by
  rw [RecordingStream.numberedPacket, RecordingStream.frame]
  have hfits := stream.fits
  cases hheader : stream.header with
  | none =>
    rw [Ready, hheader] at hready
    refine ⟨{ r with last := some number, encrypted := some false }, ?_, rfl, ?_, rfl⟩
    · rw [Reader.read, if_neg hnew, if_pos ⟨hnumber, hready⟩]
    · rw [Ready, hheader]
      rintro ⟨⟩
  | some start =>
    rw [Ready, hheader] at hready
    rw [hheader] at hfits
    have hreadable : ¬(r.encrypted ≠ some true ∨ ¬r.header) := by
      rw [hready.1, hready.2]
      decide
    refine ⟨{ r with last := some number }, ?_, rfl, ?_, rfl⟩
    · rw [Reader.read, if_neg hreadable, if_neg hnew, if_pos ⟨hnumber, hfits rfl payload hmem⟩]
    · rw [Ready, hheader]
      exact hready

/-- What ends the transfer, the reader does not read. -/
theorem PacketFails.unread (h : PacketFails w packet) (hmatches : Matches r w)
    (hphase : w.phase = .transferring) : r.read packet = none := by
  have hidle : w.phase ≠ .appending := by
    rw [hphase]
    decide
  have hlast := hmatches.settled hidle
  have hnext := hmatches.next hidle
  cases h with
  | @gap sequence data hnew hseq =>
    rw [Reader.read, hlast, if_neg hnew, if_neg (fun h => hseq (h.1.trans hnext))]
  | @mixedData sequence data hnew hmix =>
    rw [Reader.read, hlast, if_neg hnew, if_neg (fun h => h.2 (hmatches.encrypted.trans hmix))]
  | mixedEof => rfl
  | mixedStart hmix => rw [Reader.read, if_pos (hmatches.encrypted.trans hmix)]
  | headerMissing hheader => rw [Reader.read, hmatches.encrypted, hmatches.header, if_pos hheader]
  | @encryptedGap sequence chunk hnew hgap =>
    rw [Reader.read, hlast, if_neg hnew]
    split
    · rfl
    · rw [if_neg]
      rintro ⟨hseq, hlong, -⟩
      rcases hgap with hgap | hgap
      · exact hgap (hseq.trans hnext)
      · omega
  | eofHeaderMissing => rfl
  | rejected => rfl
  | unsupported => rfl

/-- The reading of all the values succeeds. -/
def Readable (r₀ : Reader) (values : List (List UInt8)) : Prop :=
  ∃ r items, Reads r₀ values r items

variable {values front back : List (List UInt8)} {value : List UInt8} {items items' : List Item}

theorem Reads.of_concat (h : Reads r₀ (values ++ [value]) r items) :
    ∃ r₁ items₁ packet more, Reads r₀ values r₁ items₁ ∧ parseTransferPacket value = .ok packet ∧
      r₁.read packet = some (r, more) ∧ items = items₁ ++ more := by
  generalize hvalues : values ++ [value] = all at h
  cases h with
  | nil => exact absurd hvalues (by simp)
  | @snoc values' value' packet r₁ _ items₁ more hreads hparse hread =>
    obtain ⟨rfl, heq⟩ := List.append_inj' hvalues rfl
    obtain rfl := List.singleton_injective heq
    exact ⟨r₁, items₁, packet, more, hreads, hparse, hread, rfl⟩

/-- A reading is determined by its values. -/
theorem Reads.unique (h : Reads r₀ values r items) (h' : Reads r₀ values r' items') :
    r = r' ∧ items = items' := by
  induction h generalizing r' items' with
  | nil =>
    generalize hvalues : ([] : List (List UInt8)) = all at h'
    cases h' with
    | nil => exact ⟨rfl, rfl⟩
    | snoc => exact absurd hvalues (by simp)
  | snoc _ hparse hread ih =>
    obtain ⟨r₁, items₁, packet, more, hreads', hparse', hread', rfl⟩ := h'.of_concat
    obtain ⟨rfl, rfl⟩ := ih hreads'
    obtain rfl := Except.ok.inj (hparse.symm.trans hparse')
    obtain ⟨rfl, rfl⟩ := Prod.mk.inj (Option.some.inj (hread.symm.trans hread'))
    exact ⟨rfl, rfl⟩

theorem Readable.of_append (h : Readable r₀ (front ++ back)) : Readable r₀ front := by
  induction back using List.reverseRecOn with
  | nil =>
    rw [List.append_nil] at h
    exact h
  | append_singleton back value ih =>
    obtain ⟨r, items, hreads⟩ := h
    rw [← List.append_assoc] at hreads
    obtain ⟨r₁, items₁, _, _, hfront, -⟩ := hreads.of_concat
    exact ih ⟨r₁, items₁, hfront⟩

/-- In a readable list every value is read where it stands. -/
theorem Readable.read (h : Readable r₀ (front ++ value :: back)) (hreads : Reads r₀ front r items) :
    ∃ packet next, parseTransferPacket value = .ok packet ∧ r.read packet = some next := by
  have hsplit : front ++ value :: back = (front ++ [value]) ++ back := by
    rw [List.append_assoc, List.singleton_append]
  rw [hsplit] at h
  obtain ⟨r', items', hfront⟩ := h.of_append
  obtain ⟨r₁, items₁, packet, more, hreads₁, hparse, hread, -⟩ := hfront.of_concat
  obtain ⟨rfl, -⟩ := hreads.unique hreads₁
  exact ⟨packet, _, hparse, hread⟩

/-- No EOF is read. -/
theorem Closed.not_readable {appends : List Item} (h : Closed r₀ values appends) :
    ¬Readable r₀ values := by
  obtain ⟨consumed, eof, rest, r, items, rfl, hends, hreads, -⟩ := h
  intro hreadable
  obtain ⟨packet, next, hparse, hread⟩ := hreadable.read hreads
  cases hends with
  | plaintext hparse' =>
    obtain rfl := Except.ok.inj (hparse.symm.trans hparse')
    exact nomatch hread
  | encrypted hparse' =>
    obtain rfl := Except.ok.inj (hparse.symm.trans hparse')
    exact nomatch hread

end Read

end RecordingTransferWorkflow

end BotaSdk
