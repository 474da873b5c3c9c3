import Pubky2Pubky.Protocol.Window

/-!
# Grant authorizations

The root-signed Pubky Grant is a compact JWS. Verification decodes the exact
canonical text, checks the root signature, and then checks identity, lifetime,
client id and capabilities.
-/

namespace Pubky2Pubky
namespace Protocol

open Foundation

def v1RequiredStorageScope : String := "/pub/pubky2pubky/"

def v1MaxGrantJwsBytes : Nat := 16 * 1024

def v1MaxGrantCapabilities : Nat := 32

def v1GrantHeaderJson : Bytes :=
  utf8 "\x7b\"alg\":\"EdDSA\",\"typ\":\"pubky-grant\"\x7d".toList

def v1GrantDigestDomain : String := "pubky2pubky/grant-digest/v1"

/-!
# Text bounds
-/

/-- Unicode general category `Cc`. -/
def isControl (c : Char) : Bool :=
  decide (c.toNat < 32) || (decide (127 ≤ c.toNat) && decide (c.toNat < 160))

/-- Unicode property `White_Space`. -/
def isWhitespace (c : Char) : Bool :=
  let n := c.toNat
  (decide (9 ≤ n) && decide (n ≤ 13)) || n == 32 || n == 133 || n == 160 ||
    n == 5760 || (decide (8192 ≤ n) && decide (n ≤ 8202)) || n == 8232 ||
    n == 8233 || n == 8239 || n == 8287 || n == 12288

/-- A text that is empty, too long, has a control character or is all blank. -/
def unusableText (text : String) (maximum : Nat) : Prop :=
  text = "" ∨ text.utf8ByteSize > maximum ∨
    text.toList.any isControl = true ∨ text.toList.all isWhitespace = true

instance (text : String) (maximum : Nat) :
    Decidable (unusableText text maximum) := by
  unfold unusableText
  infer_instance

/-!
# Verification
-/

structure V1GrantAuthorization where
  grantJws : String
  deriving DecidableEq

namespace V1GrantAuthorization

variable (P : Primitives)

abbrev Claims := GrantClaims P.PublicKey P.Capability

def toJson (self : V1GrantAuthorization) : Json :=
  Json.object [("grant_jws", Json.string self.grantJws)]

/-- The three nonempty segments of a compact JWS. -/
def segments (self : V1GrantAuthorization) :
    Result (List Char × List Char × List Char) :=
  match self.grantJws.toList.splitOn '.' with
  | [header, payload, signature] => do
      rejectIf (header = [] ∨ payload = [] ∨ signature = [])
        (ProtocolError.invalidEncoding "v1 Grant JWS")
      pure (header, payload, signature)
  | _ => Except.error (ProtocolError.invalidEncoding "v1 Grant JWS")

/-- Decode the exact canonical JWS and check the root signature over it. -/
def decodeSigned (self : V1GrantAuthorization) : Result (Claims P) := do
  rejectIf (self.grantJws = "" ∨ self.grantJws.utf8ByteSize > v1MaxGrantJwsBytes)
    (ProtocolError.invalidEncoding "v1 Grant JWS size")
  let (headerSegment, payloadSegment, signatureSegment) <- self.segments
  let headerBytes <- decodeCanonicalBase64 P (String.ofList headerSegment)
    "v1 Grant header"
  let header <- okOr (P.grantHeaderFromSlice headerBytes) ProtocolError.json
  rejectIf (header.alg ≠ "EdDSA" ∨ header.typ ≠ "pubky-grant" ∨
      headerBytes ≠ v1GrantHeaderJson)
    (ProtocolError.invalidEncoding "canonical v1 Grant header")
  let payloadBytes <- decodeCanonicalBase64 P (String.ofList payloadSegment)
    "v1 Grant payload"
  let claims <- okOr (P.grantClaimsFromSlice payloadBytes) ProtocolError.json
  rejectIf (P.grantClaimsToVec claims ≠ payloadBytes)
    (ProtocolError.invalidEncoding "canonical v1 Grant payload")
  let signatureBytes <- decodeCanonicalBase64 P
    (String.ofList signatureSegment) "v1 Grant signature"
  let signature <- okOr (P.signatureFromSlice signatureBytes)
    (ProtocolError.invalidEncoding "v1 Grant signature")
  let signingInput := utf8 (headerSegment ++ '.' :: payloadSegment)
  rejectIf (P.verify claims.iss signingInput signature = false)
    ProtocolError.badSignature
  pure claims

def grantCoversStorage (claims : Claims P) : Bool :=
  match P.storagePathNew v1RequiredStorageScope with
  | none => false
  | some required =>
      claims.caps.any fun capability =>
        P.scopeCoversPath capability required && P.allowsWrite capability

def verify (self : V1GrantAuthorization) (expectedIdentity : String)
    (now : UInt64) : Result (Claims P) := do
  let claims <- self.decodeSigned P
  let expected <- parsePublicKey P expectedIdentity
  rejectIf (claims.iss ≠ expected) ProtocolError.identityMismatch
  rejectIf (claims.cnf = claims.iss)
    (ProtocolError.invalidEncoding "independent v1 Grant cnf")
  validateBoundedWindow claims.iat claims.exp now v1MaxGrantLifetimeSeconds
    "v1 Grant lifetime"
  rejectIf (unusableText claims.clientId 253)
    (ProtocolError.invalidEncoding "v1 Grant client id")
  rejectIf (claims.caps = [] ∨ claims.caps.length > v1MaxGrantCapabilities)
    (ProtocolError.invalidEncoding "v1 Grant capabilities")
  rejectIf (¬ (claims.caps.map P.capabilityToString).Nodup)
    (ProtocolError.invalidEncoding "duplicate v1 Grant capability")
  rejectIf (grantCoversStorage P claims = false)
    (ProtocolError.missingCapability (v1RequiredStorageScope ++ ":w"))
  pure claims

def digest (self : V1GrantAuthorization) : String :=
  canonicalDigest P v1GrantDigestDomain self.toJson

/-!
# Accepted authorizations

Only the lifetime check of an authorization depends on the time.
-/

structure Authentic (authorization : V1GrantAuthorization)
    (expectedIdentity : String) (claims : Claims P) : Prop where
  decoded : authorization.decodeSigned P = Except.ok claims
  identity : parsePublicKey P expectedIdentity = Except.ok claims.iss
  independent : claims.cnf ≠ claims.iss
  clientId : ¬ unusableText claims.clientId 253
  someCaps : claims.caps ≠ []
  boundedCaps : claims.caps.length ≤ v1MaxGrantCapabilities
  distinctCaps : (claims.caps.map P.capabilityToString).Nodup
  covers : grantCoversStorage P claims = true

variable {P}

theorem decodeSigned_eq_ok {self : V1GrantAuthorization} {claims : Claims P} :
    self.decodeSigned P = Except.ok claims <->
      exists headerSegment payloadSegment signatureSegment : List Char,
      exists header : V1GrantHeader, exists payloadBytes signatureBytes : Bytes,
      exists signature : P.Signature,
        self.grantJws ≠ "" ∧
        self.grantJws.utf8ByteSize ≤ v1MaxGrantJwsBytes ∧
        self.segments =
          Except.ok (headerSegment, payloadSegment, signatureSegment) ∧
        decodeCanonicalBase64 P (String.ofList headerSegment)
          "v1 Grant header" = Except.ok v1GrantHeaderJson ∧
        P.grantHeaderFromSlice v1GrantHeaderJson = some header ∧
        header.alg = "EdDSA" ∧ header.typ = "pubky-grant" ∧
        decodeCanonicalBase64 P (String.ofList payloadSegment)
          "v1 Grant payload" = Except.ok payloadBytes ∧
        P.grantClaimsFromSlice payloadBytes = some claims ∧
        P.grantClaimsToVec claims = payloadBytes ∧
        decodeCanonicalBase64 P (String.ofList signatureSegment)
          "v1 Grant signature" = Except.ok signatureBytes ∧
        P.signatureFromSlice signatureBytes = some signature ∧
        P.verify claims.iss (utf8 (headerSegment ++ '.' :: payloadSegment))
          signature = true := by
  unfold decodeSigned
  simp only [bind_eq_ok, rejectIf_eq_ok, okOr_eq_ok, exists_unit, pure_eq_ok,
    not_or, not_not, Bool.not_eq_false, gt_iff_lt, Nat.not_lt]
  constructor
  · intro h
    rcases h with ⟨hsize, ⟨headerSegment, payloadSegment, signatureSegment⟩,
      hsegments, headerBytes, hheader, header, hparsed, hcanonical,
      payloadBytes, hpayload, found, hfound, hexact, signatureBytes,
      hsignature, signature, hslice, hverified, rfl⟩
    rcases hcanonical with ⟨halg, htyp, rfl⟩
    exact ⟨headerSegment, payloadSegment, signatureSegment, header,
      payloadBytes, signatureBytes, signature, hsize.left, hsize.right,
      hsegments, hheader, hparsed, halg, htyp, hpayload, hfound, hexact,
      hsignature, hslice, hverified⟩
  · intro h
    rcases h with ⟨headerSegment, payloadSegment, signatureSegment, header,
      payloadBytes, signatureBytes, signature, hne, hsize, hsegments, hheader,
      hparsed, halg, htyp, hpayload, hfound, hexact, hsignature, hslice,
      hverified⟩
    exact ⟨⟨hne, hsize⟩, (headerSegment, payloadSegment, signatureSegment),
      hsegments, v1GrantHeaderJson, hheader, header, hparsed,
      ⟨halg, htyp, rfl⟩, payloadBytes, hpayload, claims, hfound, hexact,
      signatureBytes, hsignature, signature, hslice, hverified, rfl⟩

theorem verify_eq_ok {self : V1GrantAuthorization} {expectedIdentity : String}
    {now : UInt64} {claims : Claims P} :
    self.verify P expectedIdentity now = Except.ok claims <->
      Authentic P self expectedIdentity claims ∧
        WindowOpen claims.iat claims.exp v1MaxGrantLifetimeSeconds now := by
  unfold verify
  simp only [bind_eq_ok, rejectIf_eq_ok, exists_unit, pure_eq_ok,
    validateBoundedWindow_eq_ok, not_or, not_not, Bool.not_eq_false,
    gt_iff_lt, Nat.not_lt]
  constructor
  · intro h
    rcases h with ⟨found, hdecoded, expected, hidentity, hiss, hcnf, hwindow,
      hclient, hcaps, hnodup, hcovers, rfl⟩
    subst hiss
    exact ⟨⟨hdecoded, hidentity, hcnf, hclient, hcaps.left, hcaps.right,
      hnodup, hcovers⟩, hwindow⟩
  · intro h
    rcases h with ⟨hauth, hwindow⟩
    exact ⟨claims, hauth.decoded, claims.iss, hauth.identity, rfl,
      hauth.independent, hwindow, hauth.clientId,
      ⟨hauth.someCaps, hauth.boundedCaps⟩, hauth.distinctCaps, hauth.covers,
      rfl⟩

/-- The claims of an authorization do not depend on when it is verified. -/
theorem Authentic.claims_unique {self : V1GrantAuthorization}
    {expectedIdentity : String} {first second : Claims P}
    (hfirst : Authentic P self expectedIdentity first)
    (hsecond : Authentic P self expectedIdentity second) : first = second := by
  have hdecoded := hfirst.decoded
  rw [hsecond.decoded] at hdecoded
  injection hdecoded with heq
  exact heq.symm

theorem Authentic.z32_iss {self : V1GrantAuthorization}
    {expectedIdentity : String} {claims : Claims P}
    (h : Authentic P self expectedIdentity claims) :
    P.z32 claims.iss = expectedIdentity :=
  (parsePublicKey_eq_ok.mp h.identity).right

end V1GrantAuthorization

end Protocol
end Pubky2Pubky
