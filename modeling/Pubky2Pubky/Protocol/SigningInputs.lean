import Pubky2Pubky.Protocol.CanonicalForms

/-!
# One purpose for each signature

A key signs several kinds of objects. What it signs is the canonical text of the
claims in an envelope that names their domain, or the two segments of a compact
JWS. These inputs are disjoint between the kinds and determine the claims, and so
do the inputs of the digests.
-/

namespace Pubky2Pubky
namespace Protocol

open Foundation

/-!
# Domains
-/

inductive Domain where
  | grantDigest
  | certificate
  | certificateDigest
  | deviceRecordDigest
  | devicePath
  | locator
  | locatorDigest
  | hello
  | helloDigest
  | ack
  | currentness
  | currentnessPath
  deriving DecidableEq

namespace Domain

def text : Domain -> String
  | grantDigest => v1GrantDigestDomain
  | certificate => v1CertificateDomain
  | certificateDigest => v1CertificateDigestDomain
  | deviceRecordDigest => v1DeviceRecordDigestDomain
  | devicePath => v1DevicePathDomain
  | locator => v1LocatorDomain
  | locatorDigest => v1LocatorDigestDomain
  | hello => v1HelloDomain
  | helloDigest => v1HelloDigestDomain
  | ack => v1AckDomain
  | currentness => v1CurrentnessDomain
  | currentnessPath => v1CurrentnessPathDomain

/-- The domains of signatures; the others are those of digests. -/
def signs : Domain -> Bool
  | certificate => true
  | locator => true
  | hello => true
  | ack => true
  | currentness => true
  | _ => false

def all : List Domain :=
  [grantDigest, certificate, certificateDigest, deviceRecordDigest, devicePath,
    locator, locatorDigest, hello, helloDigest, ack, currentness, currentnessPath]

theorem mem_all (domain : Domain) : domain ∈ all := by
  cases domain with
  | _ => decide

theorem text_injective : Function.Injective text := by
  have hnodup : (all.map text).Nodup := by decide
  intro a b h
  exact List.inj_on_of_nodup_map hnodup (mem_all a) (mem_all b) h

end Domain

def envelope (domain : Domain) (payload : Json) : Json :=
  Json.object
    [("domain", Json.string domain.text), ("payload", payload)]

theorem envelope_canonical {domain other : Domain} {payload found : Json}
    (h : Reference.canonical (envelope domain payload) =
      Reference.canonical (envelope other found)) :
    domain = other ∧ Reference.canonical payload = Reference.canonical found := by
  have hvalues := canonical_object_values h rfl (by
    dsimp only [List.map]
    decide)
  simp only [List.map_cons, List.map_nil, List.cons.injEq, and_true] at hvalues
  refine ⟨Domain.text_injective ?_, hvalues.right⟩
  have hdomain := hvalues.left
  unfold Reference.canonical at hdomain
  injection hdomain

/-!
# Signed claims
-/

inductive SignedClaims where
  | certificate (claims : V1DeviceCertificateClaims)
  | locator (claims : V1LocatorClaims)
  | hello (claims : V1HelloClaims)
  | ack (claims : V1AckClaims)
  | currentness (claims : V1CurrentnessClaims)

namespace SignedClaims

def domain : SignedClaims -> Domain
  | certificate _ => Domain.certificate
  | locator _ => Domain.locator
  | hello _ => Domain.hello
  | ack _ => Domain.ack
  | currentness _ => Domain.currentness

def payload : SignedClaims -> Json
  | certificate claims => claims.toJson
  | locator claims => claims.toJson
  | hello claims => claims.toJson
  | ack claims => claims.toJson
  | currentness claims => claims.toJson

def envelope (self : SignedClaims) : Json :=
  Protocol.envelope self.domain self.payload

theorem domain_signs (self : SignedClaims) : self.domain.signs = true := by
  cases self with
  | _ => rfl

/-- An envelope determines the kind of the claims in it, and the claims. -/
theorem eq_of_canonical {self other : SignedClaims}
    (h : Reference.canonical self.envelope = Reference.canonical other.envelope) :
    self = other := by
  rcases envelope_canonical h with ⟨hdomain, hpayload⟩
  cases self with
  | certificate claims =>
      cases other with
      | certificate others =>
          exact congrArg _ (V1DeviceCertificateClaims.canonical_injective hpayload)
      | _ => cases hdomain
  | locator claims =>
      cases other with
      | locator others =>
          exact congrArg _ (V1LocatorClaims.canonical_injective hpayload)
      | _ => cases hdomain
  | hello claims =>
      cases other with
      | hello others =>
          exact congrArg _ (V1HelloClaims.canonical_injective hpayload)
      | _ => cases hdomain
  | ack claims =>
      cases other with
      | ack others => exact congrArg _ (V1AckClaims.canonical_injective hpayload)
      | _ => cases hdomain
  | currentness claims =>
      cases other with
      | currentness others =>
          exact congrArg _ (V1CurrentnessClaims.canonical_injective hpayload)
      | _ => cases hdomain

end SignedClaims

/-!
# Inputs of digests
-/

inductive DigestInput where
  | grant (authorization : V1GrantAuthorization)
  | certificate (value : V1DeviceCertificate)
  | deviceRecord (record : V1DeviceRecord)
  | devicePath (grantCnfKey controlSigningKey : String)
  | locator (value : V1SignedLocator)
  | hello (value : V1SignedHello)
  | currentnessPath (role : V1CurrentnessRole)
      (challenge helloDigest deviceRecordDigest grantDigest locatorDigest : String)

namespace DigestInput

def domain : DigestInput -> Domain
  | grant _ => Domain.grantDigest
  | certificate _ => Domain.certificateDigest
  | deviceRecord _ => Domain.deviceRecordDigest
  | devicePath _ _ => Domain.devicePath
  | locator _ => Domain.locatorDigest
  | hello _ => Domain.helloDigest
  | currentnessPath _ _ _ _ _ _ => Domain.currentnessPath

def payload : DigestInput -> Json
  | grant authorization => authorization.toJson
  | certificate found => found.toJson
  | deviceRecord record => record.toJson
  | devicePath grantCnfKey controlSigningKey =>
      Json.object
        [("grant_cnf_key", Json.string grantCnfKey),
         ("control_signing_key", Json.string controlSigningKey)]
  | locator found => found.toJson
  | hello found => found.toJson
  | currentnessPath role challenge helloDigest deviceRecordDigest grantDigest
      locatorDigest =>
      Json.object
        [("role", role.toJson),
         ("challenge", Json.string challenge),
         ("hello_digest", Json.string helloDigest),
         ("device_record_digest", Json.string deviceRecordDigest),
         ("grant_digest", Json.string grantDigest),
         ("locator_digest", Json.string locatorDigest)]

def envelope (self : DigestInput) : Json :=
  Protocol.envelope self.domain self.payload

def digest (P : Primitives) : DigestInput -> String
  | grant authorization => authorization.digest P
  | certificate found => found.digest P
  | deviceRecord record => record.digest P
  | devicePath grantCnfKey controlSigningKey =>
      canonicalDigest P v1DevicePathDomain
        (devicePath grantCnfKey controlSigningKey).payload
  | locator found => found.digest P
  | hello found => found.digest P
  | currentnessPath role challenge helloDigest deviceRecordDigest grantDigest
      locatorDigest =>
      canonicalDigest P v1CurrentnessPathDomain
        (currentnessPath role challenge helloDigest deviceRecordDigest grantDigest
          locatorDigest).payload

theorem digest_eq (P : Primitives) (self : DigestInput) :
    self.digest P = canonicalDigest P self.domain.text self.payload := by
  cases self with
  | _ => rfl

theorem domain_signs (self : DigestInput) : self.domain.signs = false := by
  cases self with
  | _ => rfl

theorem devicePath_of_canonical {cnf control otherCnf otherControl : String}
    (h : Reference.canonical (devicePath cnf control).payload =
      Reference.canonical (devicePath otherCnf otherControl).payload) :
    cnf = otherCnf ∧ control = otherControl := by
  have hvalues := canonical_object_values h rfl (by
    dsimp only [List.map]
    decide)
  simp only [List.map_cons, List.map_nil, Reference.canonical, List.cons.injEq,
    Json.string.injEq, and_true] at hvalues
  exact hvalues

theorem currentnessPath_of_canonical {role otherRole : V1CurrentnessRole}
    {challenge hello record grant locator : String}
    {otherChallenge otherHello otherRecord otherGrant otherLocator : String}
    (h : Reference.canonical
        (currentnessPath role challenge hello record grant locator).payload =
      Reference.canonical (currentnessPath otherRole otherChallenge otherHello
        otherRecord otherGrant otherLocator).payload) :
    role = otherRole ∧ challenge = otherChallenge ∧ hello = otherHello ∧
      record = otherRecord ∧ grant = otherGrant ∧ locator = otherLocator := by
  have hvalues := canonical_object_values h rfl (by
    dsimp only [List.map]
    decide)
  simp only [List.map_cons, List.map_nil, List.cons.injEq, and_true] at hvalues
  rcases hvalues with ⟨hrole, htexts⟩
  simp only [Reference.canonical, Json.string.injEq] at htexts
  exact ⟨V1CurrentnessRole.canonical_injective hrole, htexts⟩

theorem eq_of_canonical {self other : DigestInput}
    (h : Reference.canonical self.envelope = Reference.canonical other.envelope) :
    self = other := by
  rcases envelope_canonical h with ⟨hdomain, hpayload⟩
  cases self with
  | grant authorization =>
      cases other with
      | grant found =>
          exact congrArg _ (V1GrantAuthorization.canonical_injective hpayload)
      | _ => cases hdomain
  | certificate value =>
      cases other with
      | certificate found =>
          exact congrArg _ (V1DeviceCertificate.canonical_injective hpayload)
      | _ => cases hdomain
  | deviceRecord record =>
      cases other with
      | deviceRecord found =>
          exact congrArg _ (V1DeviceRecord.canonical_injective hpayload)
      | _ => cases hdomain
  | devicePath cnf control =>
      cases other with
      | devicePath otherCnf otherControl =>
          rcases devicePath_of_canonical hpayload with ⟨rfl, rfl⟩
          rfl
      | _ => cases hdomain
  | locator value =>
      cases other with
      | locator found =>
          exact congrArg _ (V1SignedLocator.canonical_injective hpayload)
      | _ => cases hdomain
  | hello value =>
      cases other with
      | hello found =>
          exact congrArg _ (V1SignedHello.canonical_injective hpayload)
      | _ => cases hdomain
  | currentnessPath role challenge hello record grant locator =>
      cases other with
      | currentnessPath otherRole otherChallenge otherHello otherRecord otherGrant
          otherLocator =>
          rcases currentnessPath_of_canonical hpayload with
            ⟨rfl, rfl, rfl, rfl, rfl, rfl⟩
          rfl
      | _ => cases hdomain

end DigestInput

/-!
# Bytes that are signed or hashed
-/

/-- The values that the canonical writer is given. -/
inductive Enveloped : Json -> Prop where
  | signed (claims : SignedClaims) : Enveloped claims.envelope
  | digested (input : DigestInput) : Enveloped input.envelope

theorem Enveloped.eq_of_canonical {value other : Json} (h : Enveloped value)
    (hother : Enveloped other)
    (hcanonical : Reference.canonical value = Reference.canonical other) :
    value = other := by
  cases h with
  | signed claims =>
      cases hother with
      | signed others =>
          exact congrArg SignedClaims.envelope (SignedClaims.eq_of_canonical hcanonical)
      | digested input =>
          have hsigns := claims.domain_signs
          rw [(envelope_canonical hcanonical).left, input.domain_signs] at hsigns
          cases hsigns
  | digested input =>
      cases hother with
      | signed others =>
          have hsigns := others.domain_signs
          rw [← (envelope_canonical hcanonical).left, input.domain_signs] at hsigns
          cases hsigns
      | digested found =>
          exact congrArg DigestInput.envelope (DigestInput.eq_of_canonical hcanonical)

/--
The canonical writer is injective on the values it is given, and the text of an
object begins with its brace.
-/
class Primitives.CanonicalJson (P : Primitives) : Prop where
  jcsToVec_injective (value other : Json) : Enveloped value -> Enveloped other ->
    P.jcsToVec value = P.jcsToVec other -> value = other
  jcsToVec_object (fields : List (String × Json)) :
    exists text, P.jcsToVec (Json.object fields) = utf8 ('{' :: text)

instance (known : List (GrantClaims Reference.Key Reference.Capability)) :
    (Reference.operations known).CanonicalJson where
  jcsToVec_injective _ _ hvalue hother h :=
    hvalue.eq_of_canonical hother (Json.render_injective (utf8_injective h))
  jcsToVec_object _ := ⟨_, rfl⟩

/-- A segment of a compact JWS. -/
structure Segment where
  text : List Char
  urlSafe : forall c, c ∈ text -> c ∈ base64UrlAlphabet.toList

theorem Segment.no_dot (self : Segment) : '.' ∉ self.text := by
  intro h
  exact absurd (self.urlSafe '.' h) (by decide)

/-- Everything that a key of a device chain signs. -/
inductive SigningInput where
  | claims (signed : SignedClaims)
  | jws (header payload : Segment)

section Inputs

variable (P : Primitives)

def SigningInput.bytes : SigningInput -> Bytes
  | claims signed => canonicalForSigning P signed.domain.text signed.payload
  | jws header payload => utf8 (header.text ++ '.' :: payload.text)

def DigestInput.bytes (self : DigestInput) : Bytes :=
  canonicalForSigning P self.domain.text self.payload

/-- Two messages with one hash. -/
def Collides (message other : Bytes) : Prop :=
  message ≠ other ∧ P.sha256 message = P.sha256 other

/-- A signature that verifies under another key or for another message. -/
def Forged (key : P.Keypair) (message : Bytes) (verifier : P.PublicKey)
    (other : Bytes) : Prop :=
  P.verify verifier other (P.sign key message) = true ∧
    ¬ (verifier = P.publicKey key ∧ other = message)

end Inputs

section Separation

variable {P : Primitives} [P.CanonicalJson]

theorem canonicalForSigning_ne_jws (domain : String) (payload : Json)
    (header rest : Segment) :
    canonicalForSigning P domain payload ≠ utf8 (header.text ++ '.' :: rest.text) := by
  intro h
  rcases Primitives.CanonicalJson.jcsToVec_object (P := P)
    [("domain", Json.string domain), ("payload", payload)] with ⟨text, htext⟩
  unfold canonicalForSigning at h
  rw [htext] at h
  have hchars := utf8_injective h
  cases hheader : header.text with
  | nil =>
      rw [hheader, List.nil_append, List.cons.injEq] at hchars
      exact absurd hchars.left (by decide)
  | cons c more =>
      rw [hheader, List.cons_append, List.cons.injEq] at hchars
      have hmem := header.urlSafe c (hheader ▸ List.mem_cons_self)
      rw [← hchars.left] at hmem
      exact absurd hmem (by decide)

theorem segments_of_joined {header other payload found : Segment}
    (h : header.text ++ '.' :: payload.text = other.text ++ '.' :: found.text) :
    header = other ∧ payload = found := by
  have hsplit := congrArg (List.splitOn '.') h
  rw [List.splitOn_append_cons_self_of_not_mem header.no_dot,
    List.splitOn_append_cons_self_of_not_mem other.no_dot,
    List.splitOn_eq_singleton payload.no_dot,
    List.splitOn_eq_singleton found.no_dot, List.cons.injEq, List.cons.injEq]
    at hsplit
  rcases hsplit with ⟨hheader, hpayload, _⟩
  cases header
  cases other
  cases payload
  cases found
  cases hheader
  cases hpayload
  exact ⟨rfl, rfl⟩

/-- The signed bytes determine the kind of the object and its claims. -/
theorem SigningInput.bytes_injective {input other : SigningInput}
    (h : input.bytes P = other.bytes P) : input = other := by
  cases input with
  | claims claims =>
      cases other with
      | claims others =>
          have henvelope := Primitives.CanonicalJson.jcsToVec_injective _ _
            (Enveloped.signed claims) (Enveloped.signed others) h
          exact congrArg _
            (SignedClaims.eq_of_canonical (congrArg Reference.canonical henvelope))
      | jws header payload => exact absurd h (canonicalForSigning_ne_jws _ _ _ _)
  | jws header payload =>
      cases other with
      | claims others => exact absurd h.symm (canonicalForSigning_ne_jws _ _ _ _)
      | jws otherHeader otherPayload =>
          rcases segments_of_joined (utf8_injective h) with ⟨rfl, rfl⟩
          rfl

theorem DigestInput.bytes_injective {input other : DigestInput}
    (h : input.bytes P = other.bytes P) : input = other := by
  have henvelope := Primitives.CanonicalJson.jcsToVec_injective _ _
    (Enveloped.digested input) (Enveloped.digested other) h
  exact DigestInput.eq_of_canonical (congrArg Reference.canonical henvelope)

/-- Different inputs have one digest only where the hash collides. -/
theorem DigestInput.eq_or_collides [P.Lawful] {input other : DigestInput}
    (h : input.digest P = other.digest P) :
    input = other ∨ Collides P (input.bytes P) (other.bytes P) := by
  rw [digest_eq, digest_eq] at h
  by_cases hbytes : input.bytes P = other.bytes P
  · exact Or.inl (bytes_injective hbytes)
  · exact Or.inr ⟨hbytes, base64Encode_injective h⟩

end Separation

/-!
# Signing and verifying

The operations that sign and those that verify, each with the input it is about.
The Grant is signed outside of this program, as any compact JWS is.
-/

section Purpose

variable (P : Primitives)

inductive SignedAs : P.Keypair -> String -> SigningInput -> Prop where
  | certificate {draft : V1DeviceCredentialDraft} {key : P.Keypair}
      {credential : V1DeviceCredential} :
      V1DeviceCredential.finalize P draft (P.signatureToBytes (P.sign key
        (V1DeviceCredential.certificateSigningBytes P draft))) =
          Except.ok credential ->
      SignedAs key credential.certificate.signature
        (SigningInput.claims (SignedClaims.certificate credential.certificate.claims))
  | locator {credential : V1DeviceCredential} {key : P.Keypair}
      {relayUrls : List Url} {instanceNonce : String} {sequence : UInt64}
      {validity : UInt64 × UInt64} {allowLoopbackDev : Bool}
      {locator : V1SignedLocator} :
      credential.controlKey P = Except.ok key ->
      V1SignedLocator.signWithPolicy P credential relayUrls instanceNonce sequence
        validity allowLoopbackDev = Except.ok locator ->
      SignedAs key locator.signature
        (SigningInput.claims (SignedClaims.locator locator.claims))
  | hello {credential : V1DeviceCredential} {key : P.Keypair}
      {senderRecord targetRecord : V1DeviceRecord}
      {application sessionNonce : String} {validity : UInt64 × UInt64}
      {allowLoopbackDev : Bool} {hello : V1SignedHello} :
      credential.controlKey P = Except.ok key ->
      V1SignedHello.signWithPolicy P credential senderRecord targetRecord application
        sessionNonce validity allowLoopbackDev = Except.ok hello ->
      SignedAs key hello.signature
        (SigningInput.claims (SignedClaims.hello hello.claims))
  | ack {credential : V1DeviceCredential} {key : P.Keypair} {hello : V1SignedHello}
      {initiatorRecord responderRecord : V1DeviceRecord} {responderNonce : String}
      {validity : UInt64 × UInt64} {allowLoopbackDev : Bool} {ack : V1SignedAck} :
      credential.controlKey P = Except.ok key ->
      V1SignedAck.signWithPolicy P credential hello initiatorRecord responderRecord
        responderNonce validity allowLoopbackDev = Except.ok ack ->
      SignedAs key ack.signature (SigningInput.claims (SignedClaims.ack ack.claims))
  | currentness {credential : V1DeviceCredential} {key : P.Keypair}
      {ownRecord peerRecord : V1DeviceRecord} {hello : V1SignedHello}
      {role : V1CurrentnessRole} {challenge : String}
      {issuedAt expiresAt : UInt64} {allowLoopbackDev : Bool}
      {proof : V1SignedCurrentnessProof} :
      credential.controlKey P = Except.ok key ->
      V1SignedCurrentnessProof.sign P credential ownRecord peerRecord hello role
        challenge issuedAt expiresAt allowLoopbackDev = Except.ok proof ->
      SignedAs key proof.signature
        (SigningInput.claims (SignedClaims.currentness proof.claims))
  | jws (key : P.Keypair) (header payload : Segment) :
      SignedAs key (encodeSignature P (P.sign key
        (SigningInput.bytes P (SigningInput.jws header payload))))
        (SigningInput.jws header payload)

inductive VerifiesAs : P.PublicKey -> String -> SigningInput -> Prop where
  | certificate {certificate : V1DeviceCertificate}
      {authorization : V1GrantAuthorization} {expectedIdentity : String}
      {now : UInt64} {key : P.PublicKey} :
      certificate.verify P authorization expectedIdentity now = Except.ok () ->
      parsePublicKey P certificate.claims.grantCnfKey = Except.ok key ->
      VerifiesAs key certificate.signature
        (SigningInput.claims (SignedClaims.certificate certificate.claims))
  | locator {locator : V1SignedLocator} {authorization : V1GrantAuthorization}
      {certificate : V1DeviceCertificate} {expectedIdentity : String}
      {now : UInt64} {allowLoopbackDev : Bool} {minimumSequence : Option UInt64}
      {key : P.PublicKey} :
      locator.verify P authorization certificate expectedIdentity now
        allowLoopbackDev minimumSequence = Except.ok () ->
      certificate.controlPublicKey P = Except.ok key ->
      VerifiesAs key locator.signature
        (SigningInput.claims (SignedClaims.locator locator.claims))
  | hello {hello : V1SignedHello} {senderRecord targetRecord : V1DeviceRecord}
      {expectedApplication : String} {now : UInt64} {allowLoopbackDev : Bool}
      {key : P.PublicKey} :
      hello.verify P senderRecord targetRecord expectedApplication now
        allowLoopbackDev = Except.ok () ->
      senderRecord.certificate.controlPublicKey P = Except.ok key ->
      VerifiesAs key hello.signature
        (SigningInput.claims (SignedClaims.hello hello.claims))
  | ack {ack : V1SignedAck} {responderRecord initiatorRecord : V1DeviceRecord}
      {hello : V1SignedHello} {expectedApplication : String} {now : UInt64}
      {allowLoopbackDev : Bool} {key : P.PublicKey} :
      ack.verify P responderRecord initiatorRecord hello expectedApplication now
        allowLoopbackDev = Except.ok () ->
      responderRecord.certificate.controlPublicKey P = Except.ok key ->
      VerifiesAs key ack.signature
        (SigningInput.claims (SignedClaims.ack ack.claims))
  | currentness {proof : V1SignedCurrentnessProof}
      {ownRecord peerRecord : V1DeviceRecord} {hello : V1SignedHello}
      {role : V1CurrentnessRole} {challenge : String} {now : UInt64}
      {allowLoopbackDev : Bool} {key : P.PublicKey} :
      proof.verify P ownRecord peerRecord hello role challenge now
        allowLoopbackDev = Except.ok () ->
      ownRecord.certificate.controlPublicKey P = Except.ok key ->
      VerifiesAs key proof.signature
        (SigningInput.claims (SignedClaims.currentness proof.claims))
  | grant {authorization : V1GrantAuthorization}
      {grant : V1GrantAuthorization.Claims P} {header payload : Segment}
      {signature : List Char} :
      authorization.decodeSigned P = Except.ok grant ->
      authorization.segments = Except.ok (header.text, payload.text, signature) ->
      VerifiesAs grant.iss (String.ofList signature)
        (SigningInput.jws header payload)

variable {P}

theorem SignedAs.signature_eq [P.Lawful] {key : P.Keypair} {signature : String}
    {input : SigningInput} (h : SignedAs P key signature input) :
    signature = encodeSignature P (P.sign key (input.bytes P)) := by
  cases h with
  | certificate h =>
      unfold V1DeviceCredential.finalize at h
      simp only [bind_eq_ok, okOr_eq_ok, exists_unit, pure_eq_ok] at h
      rcases h with ⟨decoded, hdecoded, _, rfl⟩
      rw [Primitives.Lawful.signatureFromSlice_toBytes, Option.some.injEq] at hdecoded
      rw [← hdecoded]
      rfl
  | locator hkey h =>
      unfold V1SignedLocator.signWithPolicy at h
      simp only [bind_eq_ok, exists_unit, pure_eq_ok, hkey, Except.ok.injEq] at h
      rcases h with ⟨_, _, key, rfl, rfl⟩
      rfl
  | hello hkey h =>
      unfold V1SignedHello.signWithPolicy at h
      simp only [bind_eq_ok, rejectIf_eq_ok, exists_unit, pure_eq_ok, hkey,
        Except.ok.injEq] at h
      rcases h with ⟨_, _, _, _, key, rfl, _, rfl⟩
      rfl
  | ack hkey h =>
      unfold V1SignedAck.signWithPolicy at h
      simp only [bind_eq_ok, rejectIf_eq_ok, exists_unit, pure_eq_ok, hkey,
        Except.ok.injEq] at h
      rcases h with ⟨_, _, _, key, rfl, _, rfl⟩
      rfl
  | currentness hkey h =>
      unfold V1SignedCurrentnessProof.sign at h
      simp only [bind_eq_ok, rejectIf_eq_ok, exists_unit, pure_eq_ok, hkey,
        Except.ok.injEq] at h
      rcases h with ⟨_, _, _, key, rfl, _, rfl⟩
      rfl
  | jws header payload => rfl

theorem verifySignature_eq_ok {key : P.PublicKey} {domain signature : String}
    {claims : Json} :
    verifySignature P key domain claims signature = Except.ok () <->
      exists decoded, decodeV1Signature P signature = Except.ok decoded ∧
        P.verify key (canonicalForSigning P domain claims) decoded = true := by
  unfold verifySignature
  simp only [bind_eq_ok, rejectIf_eq_ok, Bool.not_eq_false]

theorem ControlSigned.verifies {certificate : V1DeviceCertificate}
    {domain signature : String} {claims : Json} {key : P.PublicKey}
    (h : certificate.ControlSigned P domain claims signature)
    (hkey : certificate.controlPublicKey P = Except.ok key) :
    exists decoded, decodeV1Signature P signature = Except.ok decoded ∧
      P.verify key (canonicalForSigning P domain claims) decoded = true := by
  rcases h with ⟨found, hfound, hsigned⟩
  rw [hkey, Except.ok.injEq] at hfound
  subst hfound
  exact verifySignature_eq_ok.mp hsigned

theorem VerifiesAs.verifies {key : P.PublicKey} {signature : String}
    {input : SigningInput} (h : VerifiesAs P key signature input) :
    exists decoded, decodeV1Signature P signature = Except.ok decoded ∧
      P.verify key (input.bytes P) decoded = true := by
  cases h with
  | certificate h hkey =>
      rcases V1DeviceCertificate.verify_eq_ok.mp h with ⟨grant, hauth, _⟩
      rw [hauth.cnfForm, Except.ok.injEq] at hkey
      subst hkey
      exact verifySignature_eq_ok.mp hauth.signed
  | locator h hkey =>
      rcases V1SignedLocator.verify_eq_ok.mp h with ⟨grant, hauth, _⟩
      exact ControlSigned.verifies hauth.signed hkey
  | hello h hkey =>
      rcases V1SignedHello.verify_eq_ok.mp h with ⟨_, _, hauth, _⟩
      exact ControlSigned.verifies hauth.signed hkey
  | ack h hkey =>
      rcases V1SignedAck.verify_eq_ok.mp h with ⟨_, _, _, hsigned, _⟩
      exact ControlSigned.verifies hsigned hkey
  | currentness h hkey =>
      rcases V1SignedCurrentnessProof.verify_eq_ok.mp h with ⟨_, _, _, hsigned, _⟩
      exact ControlSigned.verifies hsigned hkey
  | grant h hsegments =>
      rcases V1GrantAuthorization.decodeSigned_eq_ok.mp h with ⟨_, _, _, _, _,
        signatureBytes, decoded, _, _, hfound, _, _, _, _, _, _, _, hbytes, hslice,
        hverified⟩
      rw [hsegments, Except.ok.injEq, Prod.mk.injEq, Prod.mk.injEq] at hfound
      rcases hfound with ⟨hheader, hpayload, hsignature⟩
      refine ⟨decoded, ?_, ?_⟩
      · have hdecoded := decodeCanonicalBase64_eq_ok.mp hbytes
        unfold decodeV1Signature
        rw [hsignature, decodeCanonicalBase64_eq_ok.mpr hdecoded, ok_bind, hslice]
        rfl
      · rw [← hheader, ← hpayload] at hverified
        exact hverified

theorem exists_segment [P.UrlSafe] {text : List Char} {label : String}
    {bytes : Bytes}
    (h : decodeCanonicalBase64 P (String.ofList text) label = Except.ok bytes) :
    exists segment : Segment, segment.text = text := by
  have hencoded := congrArg String.toList (decodeCanonicalBase64_eq_ok.mp h).right
  rw [String.toList_ofList] at hencoded
  refine ⟨{ text := text, urlSafe := ?_ }, rfl⟩
  intro c hc
  exact Primitives.UrlSafe.base64Encode_chars bytes c (hencoded ▸ hc)

/-- A Grant is signed as the compact JWS of two segments. -/
theorem exists_segments_of_decodeSigned [P.UrlSafe]
    {authorization : V1GrantAuthorization} {claims : V1GrantAuthorization.Claims P}
    (h : authorization.decodeSigned P = Except.ok claims) :
    exists (header payload : Segment) (signature : List Char),
      authorization.segments = Except.ok (header.text, payload.text, signature) := by
  rcases V1GrantAuthorization.decodeSigned_eq_ok.mp h with ⟨_, _, signature, _, _, _,
    _, _, _, hsegments, hheader, _, _, _, hpayload, _⟩
  rcases exists_segment hheader with ⟨header, rfl⟩
  rcases exists_segment hpayload with ⟨payload, rfl⟩
  exact ⟨header, payload, signature, hsegments⟩

theorem claims_of_segments {authorization other : V1GrantAuthorization}
    {claims others : V1GrantAuthorization.Claims P}
    {header payload signature otherSignature : List Char}
    (h : authorization.decodeSigned P = Except.ok claims)
    (hsegments : authorization.segments = Except.ok (header, payload, signature))
    (hother : other.decodeSigned P = Except.ok others)
    (hsame : other.segments = Except.ok (header, payload, otherSignature)) :
    claims = others := by
  rcases V1GrantAuthorization.decodeSigned_eq_ok.mp h with ⟨_, _, _, _, _, _, _, _, _,
    hfound, _, _, _, _, hpayload, hclaims, _⟩
  rcases V1GrantAuthorization.decodeSigned_eq_ok.mp hother with ⟨_, _, _, _, _, _, _,
    _, _, hotherFound, _, _, _, _, hotherPayload, hothers, _⟩
  rw [hsegments, Except.ok.injEq, Prod.mk.injEq, Prod.mk.injEq] at hfound
  rw [hsame, Except.ok.injEq, Prod.mk.injEq, Prod.mk.injEq] at hotherFound
  rw [← hfound.right.left] at hpayload
  rw [← hotherFound.right.left, hpayload, Except.ok.injEq] at hotherPayload
  rw [← hotherPayload, hclaims, Option.some.injEq] at hothers
  exact hothers

/--
The bytes that keys sign are disjoint between the kinds of objects and determine
their claims, and so does the JWS of a Grant. A signature is accepted for nothing
but what it was made for, unless it was forged, and digests coincide for different
inputs only where the hash collides.
-/
theorem signatures_single_purpose (P : Primitives) [P.Lawful] [P.UrlSafe]
    [P.CanonicalJson] :
    (forall input other : SigningInput,
      input.bytes P = other.bytes P -> input = other) ∧
    (forall (authorization : V1GrantAuthorization)
        (claims : V1GrantAuthorization.Claims P),
      authorization.decodeSigned P = Except.ok claims ->
      exists (header payload : Segment) (signature : List Char),
        authorization.segments =
          Except.ok (header.text, payload.text, signature) ∧
        forall (other : V1GrantAuthorization)
            (others : V1GrantAuthorization.Claims P) (otherSignature : List Char),
          other.decodeSigned P = Except.ok others ->
          other.segments =
            Except.ok (header.text, payload.text, otherSignature) ->
          claims = others) ∧
    (forall (key : P.Keypair) (signature : String) (input : SigningInput)
        (verifier : P.PublicKey) (other : SigningInput),
      SignedAs P key signature input -> VerifiesAs P verifier signature other ->
      (verifier = P.publicKey key ∧ other = input) ∨
        Forged P key (input.bytes P) verifier (other.bytes P)) ∧
    (forall input other : DigestInput, input.digest P = other.digest P ->
      input = other ∨ Collides P (input.bytes P) (other.bytes P)) := by
  refine ⟨?_, ?_, ?_, ?_⟩
  · intro input other h
    exact SigningInput.bytes_injective h
  · intro authorization claims h
    rcases exists_segments_of_decodeSigned h with
      ⟨header, payload, signature, hsegments⟩
    refine ⟨header, payload, signature, hsegments, ?_⟩
    intro other others otherSignature hother hsame
    exact claims_of_segments h hsegments hother hsame
  · intro key signature input verifier other hsigned hverifies
    rcases hverifies.verifies with ⟨decoded, hdecoded, hverified⟩
    rw [hsigned.signature_eq, decodeV1Signature_encode, Except.ok.injEq] at hdecoded
    subst hdecoded
    by_cases hpurpose : verifier = P.publicKey key ∧
        other.bytes P = input.bytes P
    · exact Or.inl
        ⟨hpurpose.left, SigningInput.bytes_injective hpurpose.right⟩
    · exact Or.inr ⟨hverified, hpurpose⟩
  · intro input other h
    exact DigestInput.eq_or_collides h

/-- One sample device signs an Ack and a proof with one key, over different bytes. -/
theorem signatures_single_purpose_sample :
    exists (ack : V1SignedAck) (proof : V1SignedCurrentnessProof),
      SignedAs Reference.sample Reference.phone.control ack.signature
        (SigningInput.claims (SignedClaims.ack ack.claims)) ∧
      SignedAs Reference.sample Reference.phone.control proof.signature
        (SigningInput.claims (SignedClaims.currentness proof.claims)) ∧
      (SigningInput.claims (SignedClaims.ack ack.claims)).bytes Reference.sample ≠
        (SigningInput.claims (SignedClaims.currentness proof.claims)).bytes
          Reference.sample := by
  rcases Reference.laptop_caller.ack_sign with ⟨ack, hack⟩
  rcases Reference.laptop_caller.proof_sign with ⟨proof, hproof⟩
  have hseparate := (signatures_single_purpose Reference.sample).left
  refine ⟨ack, proof, SignedAs.ack Reference.phone.credential_controlKey hack,
    SignedAs.currentness Reference.phone.credential_controlKey hproof, ?_⟩
  intro hbytes
  have hinput := hseparate _ _ hbytes
  injection hinput with hclaims
  cases hclaims

end Purpose

end Protocol
end Pubky2Pubky
