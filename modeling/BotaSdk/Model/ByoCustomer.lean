import BotaSdk.Lib.Json
import BotaSdk.Model.ByoUpload

/-!
# Packages for a customer's own storage (`model/byo_customer.rs`)

A package is the source followed by a trailer that binds it to its context, authorization and
manifest.  A transfer acknowledgement only releases the bounded relay queue.
-/

namespace BotaSdk

/-- The crates that the BYO code calls: `sha2`, the text of `serde_json`, and `base64`. -/
structure Crates where
  sha256 : List UInt8 → List UInt8
  toVec : Json → List UInt8
  fromSlice : List UInt8 → Option Json
  standardEncode : List UInt8 → String
  standardDecode : String → Option (List UInt8)
  urlSafeEncode : List UInt8 → String
  urlSafeDecode : String → Option (List UInt8)

namespace ByoCustomer

open Byo

def CUSTOMER_HOOKS : String := "customer-hooks-v2"

def PACKAGE_PROFILE : String := "bota-byo-package-v1"

def MAX_PACKAGE_BYTES : Nat := 134217728

def MAX_METADATA_BYTES : Nat := 16384

def CONTEXT : List String :=
  ["contract_version", "environment", "organization_id", "project_id", "configuration_id",
    "configuration_revision", "destination_ref", "recording_id", "recording_uuid",
    "recording_generation", "device_id", "binding_generation", "device_assignment_generation",
    "upload_session_id", "owner_revision", "policy_revision", "channel", "file_profile",
    "ciphertext_length", "ciphertext_sha256"]

def AUTH : List String :=
  ["contract_version", "context_sha256", "configuration_sha256", "kind", "key_id", "issued_at",
    "expires_at", "nonce", "recipient_id", "recipient_public_key", "signature",
    "device_identity_sha256"]

def MANIFEST : List String :=
  ["contract_version", "context_sha256", "configuration_sha256", "kind", "authorization_sha256",
    "recipient_id", "file", "hpke_enc", "hpke_ciphertext", "tag"]

def FILE : List String :=
  ["plaintext_length", "plaintext_sha256", "header_sha256", "trailer_sha256", "block_size",
    "block_count"]

/-- The fields of an authorization that are signed, after the name of the contract. -/
def SIGNED : List String :=
  ["context_sha256", "configuration_sha256", "key_id", "issued_at", "expires_at", "nonce",
    "recipient_id", "recipient_public_key"]

/-- `{b:02x}` for every byte. -/
def hex (bytes : List UInt8) : String :=
  String.ofList (bytes.flatMap fun b =>
    [Nat.digitChar (b.toNat / 16), Nat.digitChar (b.toNat % 16)])

def beWord (n : Nat) : List UInt8 :=
  [.ofNat (n / 2 ^ 24), .ofNat (n / 2 ^ 16), .ofNat (n / 2 ^ 8), .ofNat n]

section Package

variable (crates : Crates)

def sha (bytes : List UInt8) : String :=
  hex (crates.sha256 bytes)

/-- The bytes of a text field of `n` bytes, which must be the canonical encoding. -/
def encoded (v : Json) (n : Nat) : Option (List UInt8) := do
  let s ← v.asStr
  let b ← crates.urlSafeDecode s
  if b.length ≠ n ∨ crates.urlSafeEncode b ≠ s then none else some b

/-- A scalar as it stands in a document. -/
def scalar (value : Json) : Option (List UInt8) :=
  if value.asStr.isSome ∨ value.asU64.any (· ≤ Json.MAX_SAFE_INTEGER) then
    some (crates.toVec value)
  else none

/-- The members of a document in the order of `fields`; `write` writes the value of each. -/
def pairs (write : String → Json → Option (List UInt8)) (skipped : Option String) (v : Json) :
    List String → Option (List (List UInt8))
  | [] => some []
  | key :: keys =>
    match v.get key with
    | none => if some key = skipped then pairs write skipped v keys else none
    | some value => do
      let wire ← write key value
      let rest ← pairs write skipped v keys
      some ((asBytes ("\"" ++ key ++ "\":") ++ wire) :: rest)

/-- A document with its members in the order of `fields`, of which only `skipped` may be absent. -/
def orderedBy (write : String → Json → Option (List UInt8)) (v : Json) (fields : List String)
    (skipped : Option String) : Option (List UInt8) :=
  match v with
  | .obj members =>
    if members.any (!fields.contains ·.1) then none
    else (pairs write skipped v fields).map fun parts =>
      asBytes "\x7b" ++ (parts.intersperse (asBytes ",")).flatten ++ asBytes "\x7d"
  | _ => none

/-- `ordered`: the `file` of a manifest is a document of its own. -/
def ordered (v : Json) (fields : List String) (skipped : Option String) : Option (List UInt8) :=
  orderedBy (fun key value =>
    if key = "file" then orderedBy (fun _ => scalar crates) value FILE none
    else scalar crates value) v fields skipped

def packageTrailer (c a m : Json) : Option (List UInt8) := do
  let cw ← ordered crates c CONTEXT none
  let aw ← ordered crates a AUTH (some "device_identity_sha256")
  let mw ← ordered crates m MANIFEST none
  if c.index "contract_version" ≠ .str "bota-byo-batch-control-v1" ∨
      c.index "file_profile" ≠ .str "botaenc2-batch" ∨
      a.index "contract_version" ≠ .str "bota-byo-device-batch-v1" ∨
      m.index "contract_version" ≠ a.index "contract_version" ∨
      a.index "kind" ≠ .str "authorization" ∨ m.index "kind" ≠ .str "manifest" then none
  let length ← (c.index "ciphertext_length").asU64
  if ¬(293 ≤ length ∧ length ≤ MAX_PACKAGE_BYTES) then none
  if a.index "context_sha256" ≠ .str (sha crates (crates.toVec (.arr (CONTEXT.map c.index)))) ∨
      m.index "context_sha256" ≠ a.index "context_sha256" ∨
      m.index "configuration_sha256" ≠ a.index "configuration_sha256" ∨
      m.index "recipient_id" ≠ a.index "recipient_id" then none
  let signing := .str "bota-byo-device-batch-v1/authorization" :: SIGNED.map a.index ++
    (a.get "device_identity_sha256").toList
  let signature ← encoded crates (a.index "signature") 64
  let signed := crates.toVec (.arr signing) ++ signature
  if m.index "authorization_sha256" ≠ .str (sha crates signed) then none
  let _ ← encoded crates (a.index "nonce") 16
  let _ ← encoded crates (a.index "recipient_public_key") 32
  let _ ← encoded crates (m.index "hpke_enc") 32
  let _ ← encoded crates (m.index "hpke_ciphertext") 112
  let _ ← encoded crates (m.index "tag") 32
  let bytes := asBytes ("\x7b\"version\":\"" ++ PACKAGE_PROFILE ++ "\",\"context\":") ++ cw ++
    asBytes ",\"authorization\":" ++ aw ++ asBytes ",\"manifest\":" ++ mw ++ asBytes "\x7d"
  if MAX_METADATA_BYTES < bytes.length ∨ MAX_PACKAGE_BYTES < length + bytes.length + 12 then none
  some (bytes ++ beWord bytes.length ++ asBytes "BOTABYO1")

end Package

/-- The retained source and the receipt's owner are untouched by an acknowledgement, also after a
restart. -/
def transferAck (proof segment : Json) (customer : Bool) : Bool :=
  let p := proof.index "result"
  decide (p.index "segment" = segment) &&
    if customer then
      decide (proof.index "contract_version" = .str CUSTOMER_HOOKS) &&
        decide (p.index "state" = .str "transferred") &&
        decide (p.index "cleanup_allowed" = .bool false)
    else
      decide (proof.index "contract_version" ≠ .str CUSTOMER_HOOKS) &&
        decide (p.index "state" = .str "confirmed")

end ByoCustomer

end BotaSdk
