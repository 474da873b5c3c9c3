import Pubky2Pubky.Foundation.Checks
import Pubky2Pubky.Foundation.Json

/-!
# Primitives, errors and canonical encodings

The protocol crate calls third-party packages for keys, signatures, hashing,
base64 and JSON. They are the fields of `Primitives`, and what the crate relies
on is listed in `Primitives.Lawful`. Everything else in this module is the
crate's own code: the errors, the signing envelope, canonical base64, canonical
keys and domain-separated digests.
-/

namespace Pubky2Pubky
namespace Protocol

open Foundation

inductive ProtocolError where
  | json
  | invalidEncoding (label : String)
  | badSignature
  | unsupportedVersion (version : UInt16)
  | notYetValid
  | expired
  | missingCapability (capability : String)
  | identityMismatch
  | deviceMismatch
  | invalidTimeWindow
  deriving DecidableEq, Repr

abbrev Result (α : Type) := Except ProtocolError α

structure V1GrantHeader where
  alg : String
  typ : String

/-- The typed claims of a Pubky Grant. -/
structure GrantClaims (PublicKey Capability : Type) where
  iss : PublicKey
  clientId : String
  caps : List Capability
  cnf : PublicKey
  jti : String
  iat : UInt64
  exp : UInt64

/-- A parsed URL; two URLs are equal when their serializations are. -/
structure Url where
  asStr : String
  deriving DecidableEq

/-!
# Third-party operations
-/

structure Primitives where
  PublicKey : Type
  Keypair : Type
  Signature : Type
  Capability : Type
  StoragePath : Type
  decidableEqPublicKey : DecidableEq PublicKey
  z32 : PublicKey -> String
  tryFromZ32 : String -> Option PublicKey
  publicKey : Keypair -> PublicKey
  fromSecret : Bytes -> Keypair
  secret : Keypair -> Bytes
  sign : Keypair -> Bytes -> Signature
  verify : PublicKey -> Bytes -> Signature -> Bool
  signatureToBytes : Signature -> Bytes
  signatureFromSlice : Bytes -> Option Signature
  sha256 : Bytes -> Bytes
  base64Encode : Bytes -> String
  base64Decode : String -> Option Bytes
  jsonToVec : Json -> Bytes
  jcsToVec : Json -> Bytes
  grantHeaderFromSlice : Bytes -> Option V1GrantHeader
  grantClaimsFromSlice : Bytes -> Option (GrantClaims PublicKey Capability)
  grantClaimsToVec : GrantClaims PublicKey Capability -> Bytes
  storagePathNew : String -> Option StoragePath
  scopeCoversPath : Capability -> StoragePath -> Bool
  allowsWrite : Capability -> Bool
  capabilityToString : Capability -> String
  urlScheme : Url -> String
  urlHostStr : Url -> Option String
  urlUsername : Url -> String
  urlPassword : Url -> Option String
  urlPath : Url -> String
  urlQuery : Url -> Option String
  urlFragment : Url -> Option String

instance (P : Primitives) : DecidableEq P.PublicKey :=
  P.decidableEqPublicKey

/--
Documented behaviour of the third-party packages: z-base-32 and URL-safe base64
are inverse to their decoders and have the lengths of their formats, Ed25519
accepts the signatures it makes, SHA-256 returns 32 bytes, and the JSON writer
emits the compact text.
-/
class Primitives.Lawful (P : Primitives) : Prop where
  tryFromZ32_z32 (key : P.PublicKey) : P.tryFromZ32 (P.z32 key) = some key
  z32_length (key : P.PublicKey) : (P.z32 key).toList.length = 52
  z32_plain (key : P.PublicKey) : (P.z32 key).toList.all Json.plainChar = true
  fromSecret_secret (kp : P.Keypair) : P.fromSecret (P.secret kp) = kp
  secret_length (kp : P.Keypair) : (P.secret kp).length = 32
  verify_sign (kp : P.Keypair) (message : Bytes) :
    P.verify (P.publicKey kp) message (P.sign kp message) = true
  signatureFromSlice_toBytes (s : P.Signature) :
    P.signatureFromSlice (P.signatureToBytes s) = some s
  signatureToBytes_length (s : P.Signature) : (P.signatureToBytes s).length = 64
  sha256_length (message : Bytes) : (P.sha256 message).length = 32
  base64Decode_encode (bytes : Bytes) :
    P.base64Decode (P.base64Encode bytes) = some bytes
  base64Encode_length (bytes : Bytes) :
    (P.base64Encode bytes).toList.length = (8 * bytes.length + 5) / 6
  base64Encode_plain (bytes : Bytes) :
    (P.base64Encode bytes).toList.all Json.plainChar = true
  jsonToVec_length (value : Json) : (P.jsonToVec value).length = value.size

def z32Alphabet : String := "ybndrfg8ejkmcpqxot1uwisza345h769"

/-- The texts of keys are written in the z-base-32 alphabet. -/
class Primitives.ZBase32 (P : Primitives) : Prop where
  z32_chars (key : P.PublicKey) (c : Char) :
    c ∈ (P.z32 key).toList -> c ∈ z32Alphabet.toList

def base64UrlAlphabet : String :=
  "ABCDEFGHIJKLMNOPQRSTUVWXYZabcdefghijklmnopqrstuvwxyz0123456789-_"

/-- Base64 texts are written in the URL-safe alphabet, without padding. -/
class Primitives.UrlSafe (P : Primitives) : Prop where
  base64Encode_chars (bytes : Bytes) (c : Char) :
    c ∈ (P.base64Encode bytes).toList -> c ∈ base64UrlAlphabet.toList

variable (P : Primitives)

/-!
# Signing and digests
-/

/-- Bytes a key signs: the canonical JSON of the domain and the payload. -/
def canonicalForSigning (domain : String) (payload : Json) : Bytes :=
  P.jcsToVec (Json.object
    [("domain", Json.string domain), ("payload", payload)])

def encodeSignature (signature : P.Signature) : String :=
  P.base64Encode (P.signatureToBytes signature)

def parsePublicKey (encoded : String) : Result P.PublicKey := do
  let key <- okOr (P.tryFromZ32 encoded)
    (ProtocolError.invalidEncoding "public key")
  rejectIf (P.z32 key ≠ encoded)
    (ProtocolError.invalidEncoding "canonical public key")
  pure key

def decodeCanonicalBase64 (value label : String) : Result Bytes := do
  let bytes <- okOr (P.base64Decode value)
    (ProtocolError.invalidEncoding label)
  rejectIf (P.base64Encode bytes ≠ value)
    (ProtocolError.invalidEncoding label)
  pure bytes

def decodeV1Signature (encoded : String) : Result P.Signature := do
  let bytes <- decodeCanonicalBase64 P encoded "canonical v1 signature"
  okOr (P.signatureFromSlice bytes)
    (ProtocolError.invalidEncoding "v1 signature")

def verifySignature (key : P.PublicKey) (domain : String) (claims : Json)
    (value : String) : Result Unit := do
  let signature <- decodeV1Signature P value
  rejectIf (P.verify key (canonicalForSigning P domain claims) signature = false)
    ProtocolError.badSignature

def ensureSerializedBound (value : Json) (maximum : Nat) (label : String) :
    Result Unit :=
  rejectIf ((P.jsonToVec value).length > maximum)
    (ProtocolError.invalidEncoding label)

def canonicalDigest (domain : String) (value : Json) : String :=
  P.base64Encode (P.sha256 (canonicalForSigning P domain value))

def validateDigest (value label : String) : Result Unit := do
  let bytes <- decodeCanonicalBase64 P value label
  rejectIf (bytes.length ≠ 32) (ProtocolError.invalidEncoding label)

def minChallengeBytes : Nat := 16

def maxChallengeBytes : Nat := 32

def validateChallenge (value label : String) : Result Unit := do
  let bytes <- decodeCanonicalBase64 P value label
  rejectIf (¬ (minChallengeBytes ≤ bytes.length ∧ bytes.length ≤ maxChallengeBytes))
    (ProtocolError.invalidEncoding label)

/-- The challenge derived from the secret of a random keypair. -/
def v1RandomChallenge (random : P.Keypair) : String :=
  P.base64Encode (P.secret random)

/-!
# What the checks establish
-/

variable {P}

theorem parsePublicKey_eq_ok {encoded : String} {key : P.PublicKey} :
    parsePublicKey P encoded = Except.ok key <->
      P.tryFromZ32 encoded = some key ∧ P.z32 key = encoded := by
  unfold parsePublicKey
  simp only [bind_eq_ok, okOr_eq_ok, rejectIf_eq_ok, exists_unit, pure_eq_ok,
    not_not]
  constructor
  · intro h
    rcases h with ⟨k, hk, hz, rfl⟩
    exact ⟨hk, hz⟩
  · intro h
    exact ⟨key, h.left, h.right, rfl⟩

theorem decodeCanonicalBase64_eq_ok {value label : String} {bytes : Bytes} :
    decodeCanonicalBase64 P value label = Except.ok bytes <->
      P.base64Decode value = some bytes ∧ P.base64Encode bytes = value := by
  unfold decodeCanonicalBase64
  simp only [bind_eq_ok, okOr_eq_ok, rejectIf_eq_ok, exists_unit, pure_eq_ok,
    not_not]
  constructor
  · intro h
    rcases h with ⟨b, hb, hv, rfl⟩
    exact ⟨hb, hv⟩
  · intro h
    exact ⟨bytes, h.left, h.right, rfl⟩

theorem ensureSerializedBound_eq_ok [P.Lawful] {value : Json} {maximum : Nat}
    {label : String} :
    ensureSerializedBound P value maximum label = Except.ok () <->
      value.size ≤ maximum := by
  unfold ensureSerializedBound
  rw [rejectIf_eq_ok, Primitives.Lawful.jsonToVec_length]
  omega

theorem z32_injective [P.Lawful] {a b : P.PublicKey} (h : P.z32 a = P.z32 b) :
    a = b := by
  have ha := Primitives.Lawful.tryFromZ32_z32 a
  rw [h, Primitives.Lawful.tryFromZ32_z32] at ha
  injection ha with heq
  exact heq.symm

theorem base64Encode_injective [P.Lawful] {a b : Bytes}
    (h : P.base64Encode a = P.base64Encode b) : a = b := by
  have ha := Primitives.Lawful.base64Decode_encode (P := P) a
  rw [h, Primitives.Lawful.base64Decode_encode] at ha
  injection ha with heq
  exact heq.symm

theorem z32_utf8ByteSize [P.Lawful] [P.ZBase32] (key : P.PublicKey) :
    (P.z32 key).utf8ByteSize = 52 := by
  have hascii : forall c, c ∈ (P.z32 key).toList -> c.toNat < 128 := by
    have hall : z32Alphabet.toList.all (fun c => decide (c.toNat < 128)) =
        true := by
      decide
    intro c hc
    exact of_decide_eq_true (List.all_eq_true.mp hall c
      (Primitives.ZBase32.z32_chars key c hc))
  rw [← utf8_toList_length, Json.utf8_length_ascii hascii,
    Primitives.Lawful.z32_length]

theorem parsePublicKey_z32 [P.Lawful] (key : P.PublicKey) :
    parsePublicKey P (P.z32 key) = Except.ok key :=
  parsePublicKey_eq_ok.mpr ⟨Primitives.Lawful.tryFromZ32_z32 key, rfl⟩

theorem decodeCanonicalBase64_encode [P.Lawful] (bytes : Bytes)
    (label : String) :
    decodeCanonicalBase64 P (P.base64Encode bytes) label = Except.ok bytes :=
  decodeCanonicalBase64_eq_ok.mpr
    ⟨Primitives.Lawful.base64Decode_encode bytes, rfl⟩

theorem decodeV1Signature_encode [P.Lawful] (signature : P.Signature) :
    decodeV1Signature P (encodeSignature P signature) =
      Except.ok signature := by
  unfold decodeV1Signature encodeSignature
  rw [decodeCanonicalBase64_encode, ok_bind,
    Primitives.Lawful.signatureFromSlice_toBytes]
  rfl

/-- A signature made by a key verifies under its public half. -/
theorem verifySignature_sign [P.Lawful] (kp : P.Keypair) (domain : String)
    (claims : Json) :
    verifySignature P (P.publicKey kp) domain claims
        (encodeSignature P
          (P.sign kp (canonicalForSigning P domain claims))) =
      Except.ok () := by
  unfold verifySignature
  rw [decodeV1Signature_encode, ok_bind, rejectIf_eq_ok,
    Primitives.Lawful.verify_sign]
  decide

theorem validateDigest_canonicalDigest [P.Lawful] (domain label : String)
    (value : Json) :
    validateDigest P (canonicalDigest P domain value) label =
      Except.ok () := by
  unfold validateDigest canonicalDigest
  rw [decodeCanonicalBase64_encode, ok_bind, rejectIf_eq_ok,
    Primitives.Lawful.sha256_length]
  decide

theorem validateChallenge_v1RandomChallenge [P.Lawful] (random : P.Keypair)
    (label : String) :
    validateChallenge P (v1RandomChallenge P random) label =
      Except.ok () := by
  unfold validateChallenge v1RandomChallenge
  rw [decodeCanonicalBase64_encode, ok_bind, rejectIf_eq_ok,
    Primitives.Lawful.secret_length]
  decide

end Protocol
end Pubky2Pubky
