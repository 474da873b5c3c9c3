import Pubky2Pubky.Foundation.Refusals
import Pubky2Pubky.Protocol.Issuance

/-!
# Sizes are never what fails

Each handshake object has a size check when it is signed and another one when it
is verified. For objects made from accepted parts no check ends in its error.
-/

namespace Pubky2Pubky
namespace Protocol

open Foundation

/-- The labels of the size checks of the handshake objects. -/
def sizeLabels : List String :=
  ["v1 Hello size", "v1 Ack size", "v1 currentness proof size"]

def SizeError (error : ProtocolError) : Prop :=
  exists label, label ∈ sizeLabels ∧ error = ProtocolError.invalidEncoding label

@[simp] theorem sizeError_invalidEncoding (label : String) :
    SizeError (ProtocolError.invalidEncoding label) <-> label ∈ sizeLabels := by
  simp [SizeError]

theorem not_sizeError {error : ProtocolError}
    (h : forall label, error ≠ ProtocolError.invalidEncoding label) :
    ¬ SizeError error := by
  intro hsize
  rcases hsize with ⟨label, _hlabel, herror⟩
  exact h label herror

variable {P : Primitives}

/-!
# The other checks
-/

theorem parsePublicKey_avoids (encoded : String) :
    Avoids SizeError (parsePublicKey P encoded) := by
  unfold parsePublicKey
  simp [avoids_bind, sizeLabels]

theorem decodeCanonicalBase64_avoids {label : String}
    (h : label ∉ sizeLabels) (value : String) :
    Avoids SizeError (decodeCanonicalBase64 P value label) := by
  unfold decodeCanonicalBase64
  simp [avoids_bind, h]

theorem validateDigest_avoids {label : String} (h : label ∉ sizeLabels)
    (value : String) : Avoids SizeError (validateDigest P value label) := by
  unfold validateDigest
  simp [avoids_bind, decodeCanonicalBase64_avoids, h]

theorem validateChallenge_avoids {label : String} (h : label ∉ sizeLabels)
    (value : String) : Avoids SizeError (validateChallenge P value label) := by
  unfold validateChallenge
  simp [avoids_bind, decodeCanonicalBase64_avoids, h]

theorem verifySignature_avoids (key : P.PublicKey) (domain : String)
    (claims : Json) (value : String) :
    Avoids SizeError (verifySignature P key domain claims value) := by
  unfold verifySignature decodeV1Signature
  simp [avoids_bind, decodeCanonicalBase64_avoids, sizeLabels, not_sizeError]

theorem validateBoundedWindow_avoids {label : String} (h : label ∉ sizeLabels)
    (issuedAt expiresAt now maximum : UInt64) :
    Avoids SizeError
      (validateBoundedWindow issuedAt expiresAt now maximum label) := by
  unfold validateBoundedWindow
  simp [avoids_bind, h, not_sizeError]

theorem validateCurrentnessWindow_avoids (issuedAt expiresAt now : UInt64) :
    Avoids SizeError (validateCurrentnessWindow issuedAt expiresAt now) := by
  unfold validateCurrentnessWindow
  simp [avoids_bind, validateBoundedWindow_avoids, sizeLabels, not_sizeError]

theorem validateApplication_avoids (application : String) :
    Avoids SizeError (validateApplication application) := by
  unfold validateApplication
  simp [sizeLabels]

theorem V1GrantAuthorization.decodeSigned_avoids (self : V1GrantAuthorization) :
    Avoids SizeError (self.decodeSigned P) := by
  have hsegments : Avoids SizeError self.segments := by
    unfold segments
    split
    · simp [sizeLabels]
    · simp [sizeLabels]
  unfold decodeSigned
  simp [avoids_bind, hsegments, decodeCanonicalBase64_avoids, sizeLabels,
    not_sizeError]

theorem V1GrantAuthorization.verify_avoids (self : V1GrantAuthorization)
    (expectedIdentity : String) (now : UInt64) :
    Avoids SizeError (self.verify P expectedIdentity now) := by
  unfold verify
  simp [avoids_bind, decodeSigned_avoids, parsePublicKey_avoids,
    validateBoundedWindow_avoids, sizeLabels, not_sizeError]

theorem V1DeviceCertificate.verify_avoids (self : V1DeviceCertificate)
    (authorization : V1GrantAuthorization) (expectedIdentity : String)
    (now : UInt64) :
    Avoids SizeError (self.verify P authorization expectedIdentity now) := by
  unfold verify validateDeviceId
  simp [avoids_bind, V1GrantAuthorization.verify_avoids,
    validateDigest_avoids, validateBoundedWindow_avoids, parsePublicKey_avoids,
    verifySignature_avoids, sizeLabels, not_sizeError]

theorem V1DeviceCredential.controlKey_avoids (self : V1DeviceCredential) :
    Avoids SizeError (self.controlKey P) := by
  unfold controlKey decodeSecret
  simp [avoids_bind, decodeCanonicalBase64_avoids, sizeLabels]

theorem validateRelaysLoop_avoids (allowLoopbackDev : Bool)
    (unique : List String) (relays : List Url) :
    Avoids SizeError (validateRelaysLoop P allowLoopbackDev unique relays) := by
  induction relays generalizing unique with
  | nil => exact avoids_ok
  | cons relay rest ih =>
      unfold validateRelaysLoop validateRelayUrl
      simp [avoids_bind, ih, sizeLabels]

theorem V1SignedLocator.verify_avoids (self : V1SignedLocator)
    (authorization : V1GrantAuthorization) (certificate : V1DeviceCertificate)
    (expectedIdentity : String) (now : UInt64) (allowLoopbackDev : Bool)
    (minimumSequence : Option UInt64) :
    Avoids SizeError (self.verify P authorization certificate expectedIdentity
      now allowLoopbackDev minimumSequence) := by
  unfold verify validateClaims validateRelays
    V1DeviceCertificate.controlPublicKey
  simp [avoids_bind, V1DeviceCertificate.verify_avoids, validateDigest_avoids,
    validateChallenge_avoids, validateRelaysLoop_avoids,
    validateBoundedWindow_avoids, parsePublicKey_avoids,
    verifySignature_avoids, sizeLabels, not_sizeError]

theorem V1DeviceRecord.verify_avoids (self : V1DeviceRecord)
    (expectedIdentity : String) (now : UInt64) (allowLoopbackDev : Bool)
    (minimumSequence : Option UInt64) :
    Avoids SizeError (self.verify P expectedIdentity now allowLoopbackDev
      minimumSequence) := by
  unfold verify ensureSerializedBound
  simp [avoids_bind, V1DeviceCertificate.verify_avoids,
    V1SignedLocator.verify_avoids, sizeLabels]

/-!
# Hellos
-/

section Lawful

variable [P.Lawful]

theorem ensureSerializedBound_avoids {value : Json} {maximum : Nat}
    (label : String) (h : value.size ≤ maximum) :
    Avoids SizeError (ensureSerializedBound P value maximum label) :=
  Avoids.of_eq_ok (ensureSerializedBound_eq_ok.mpr h)

theorem V1SignedHello.validateCore_avoids {claims : V1HelloClaims}
    (hfits : claims.toJson.size ≤ v1MaxHelloBytes)
    (senderRecord targetRecord : V1DeviceRecord) (expectedApplication : String)
    (now : UInt64) (allowLoopbackDev : Bool) :
    Avoids SizeError (validateCore P claims senderRecord targetRecord
      expectedApplication now allowLoopbackDev) := by
  unfold validateCore
  simp [avoids_bind, ensureSerializedBound_avoids, hfits,
    V1DeviceRecord.verify_avoids, validateApplication_avoids,
    validateChallenge_avoids, validateDigest_avoids,
    validateBoundedWindow_avoids, sizeLabels, not_sizeError]

/-- A Hello whose claims and whose whole text are within the limit. -/
structure V1SignedHello.Fits (hello : V1SignedHello) : Prop where
  claims : hello.claims.toJson.size ≤ v1MaxHelloBytes
  text : hello.toJson.size ≤ v1MaxHelloBytes

theorem V1SignedHello.Fits.verify_avoids {hello : V1SignedHello}
    (h : hello.Fits) (senderRecord targetRecord : V1DeviceRecord)
    (expectedApplication : String) (now : UInt64) (allowLoopbackDev : Bool) :
    Avoids SizeError (hello.verify P senderRecord targetRecord
      expectedApplication now allowLoopbackDev) := by
  unfold verify verifyCore V1DeviceCertificate.controlPublicKey
  simp [avoids_bind, ensureSerializedBound_avoids, h.text,
    validateCore_avoids h.claims, parsePublicKey_avoids,
    verifySignature_avoids]

theorem V1SignedHello.Fits.of_verify {hello : V1SignedHello}
    {senderRecord targetRecord : V1DeviceRecord} {expectedApplication : String}
    {now : UInt64} {allowLoopbackDev : Bool}
    (h : hello.verify P senderRecord targetRecord expectedApplication now
      allowLoopbackDev = Except.ok ()) : hello.Fits := by
  rcases verify_eq_ok.mp h with ⟨_, _, hauth, _⟩
  constructor
  · exact ensureSerializedBound_eq_ok.mp hauth.bound.bounded
  · exact ensureSerializedBound_eq_ok.mp hauth.bounded

/-- Hello claims between two accepted records leave room for the signature. -/
theorem V1SignedHello.greeting_fits {senderRecord targetRecord : V1DeviceRecord}
    (hfrom : PartySizes senderRecord.certificate.claims)
    (hto : PartySizes targetRecord.certificate.claims)
    (hrecord : senderRecord.toJson.size ≤ v1MaxDeviceRecordBytes)
    {application sessionNonce label : String}
    (happlication : validateApplication application = Except.ok ())
    (hnonce : validateChallenge P sessionNonce label = Except.ok ())
    (issuedAt expiresAt : UInt64) :
    Json.size (greeting P senderRecord targetRecord application sessionNonce
      issuedAt expiresAt).toJson + 113 ≤ v1MaxHelloBytes := by
  have hsize := greeting_size_le hfrom hto hrecord happlication hnonce issuedAt
    expiresAt
  have hmax : v1MaxDeviceRecordBytes + 2000 + 113 ≤ v1MaxHelloBytes := by
    unfold v1MaxDeviceRecordBytes v1MaxHelloBytes
    decide
  exact Nat.le_trans (Nat.add_le_add_right hsize 113) hmax

theorem V1SignedHello.signWithPolicy_avoids
    {application sessionNonce : String}
    (happlication : validateApplication application = Except.ok ())
    (hnonce : validateChallenge P sessionNonce "v1 session nonce" =
      Except.ok ())
    (credential : V1DeviceCredential) (senderRecord targetRecord : V1DeviceRecord)
    (validity : UInt64 × UInt64) (allowLoopbackDev : Bool) :
    Avoids SizeError (signWithPolicy P credential senderRecord targetRecord
      application sessionNonce validity allowLoopbackDev) := by
  unfold signWithPolicy
  dsimp only
  rw [avoids_bind, avoids_rejectIf]
  refine ⟨fun _ => not_sizeError nofun, ?_⟩
  intro _ howned
  simp only [rejectIf_eq_ok, not_or, not_not] at howned
  rw [← howned.right, avoids_bind]
  refine ⟨V1DeviceRecord.verify_avoids _ _ _ _ _, ?_⟩
  intro _ hsender
  rw [avoids_bind]
  refine ⟨V1DeviceRecord.verify_avoids _ _ _ _ _, ?_⟩
  intro _ htarget
  rcases V1DeviceRecord.verify_eq_ok.mp hsender with ⟨_, hsenderAuth, _⟩
  rcases V1DeviceRecord.verify_eq_ok.mp htarget with ⟨_, htargetAuth, _⟩
  -- The record in the claims is the one whose own size has just been checked.
  have hfits := greeting_fits hsenderAuth.certificateAuthentic.partySizes
    htargetAuth.certificateAuthentic.partySizes
    (ensureSerializedBound_eq_ok.mp hsenderAuth.bounded) happlication hnonce
    validity.1 validity.2
  change Avoids SizeError (validateCore P (greeting P senderRecord targetRecord
    application sessionNonce validity.1 validity.2) _ _ _ _ _ >>= _)
  rw [avoids_bind]
  refine ⟨validateCore_avoids (Nat.le_trans (Nat.le_add_right _ 113) hfits)
    _ _ _ _ _, ?_⟩
  intro _ _
  rw [avoids_bind]
  refine ⟨credential.controlKey_avoids, ?_⟩
  intro key _
  rw [avoids_bind]
  exact ⟨ensureSerializedBound_avoids _ (Nat.le_trans (signed_size_le _ _) hfits),
    fun _ _ => avoids_pure⟩

/-!
# Acknowledgements and proofs
-/

theorem V1SignedAck.validateClaims_avoids {hello : V1SignedHello}
    (hhello : hello.Fits) (claims : V1AckClaims)
    (responderCertificate : V1DeviceCertificate)
    (initiatorRecord responderRecord : V1DeviceRecord)
    (expectedApplication : String) (now : UInt64) (allowLoopbackDev : Bool) :
    Avoids SizeError (validateClaims P claims responderCertificate
      initiatorRecord responderRecord hello expectedApplication now
      allowLoopbackDev) := by
  have hverify := hhello.verify_avoids (P := P) initiatorRecord responderRecord
    expectedApplication now allowLoopbackDev
  unfold V1SignedHello.verify at hverify
  unfold validateClaims
  simp [avoids_bind, hverify, validateApplication_avoids,
    validateChallenge_avoids, validateDigest_avoids,
    validateBoundedWindow_avoids, sizeLabels, not_sizeError]

theorem V1SignedAck.verify_avoids {ack : V1SignedAck} {hello : V1SignedHello}
    (hack : ack.toJson.size ≤ v1MaxAckBytes) (hhello : hello.Fits)
    (responderRecord initiatorRecord : V1DeviceRecord)
    (expectedApplication : String) (now : UInt64) (allowLoopbackDev : Bool) :
    Avoids SizeError (ack.verify P responderRecord initiatorRecord hello
      expectedApplication now allowLoopbackDev) := by
  unfold verify V1DeviceCertificate.controlPublicKey
  simp [avoids_bind, ensureSerializedBound_avoids, hack,
    validateClaims_avoids hhello, parsePublicKey_avoids, verifySignature_avoids]

theorem V1SignedAck.answer_fits {hello : V1SignedHello}
    {initiatorRecord responderRecord : V1DeviceRecord}
    (hinitiator : PartySizes initiatorRecord.certificate.claims)
    (hresponder : PartySizes responderRecord.certificate.claims)
    {sessionLabel responderNonce label : String}
    (happlication : validateApplication hello.claims.application = Except.ok ())
    (hsession : validateChallenge P hello.claims.sessionNonce sessionLabel =
      Except.ok ())
    (hnonce : validateChallenge P responderNonce label = Except.ok ())
    (issuedAt expiresAt : UInt64) :
    Json.size (answer P hello initiatorRecord responderRecord responderNonce
      issuedAt expiresAt).toJson + 113 ≤ v1MaxAckBytes := by
  have hsize := answer_size_le hinitiator hresponder happlication hsession
    hnonce issuedAt expiresAt
  have hmax : 2000 + 113 ≤ v1MaxAckBytes := by decide
  exact Nat.le_trans (Nat.add_le_add_right hsize 113) hmax

theorem V1SignedAck.signWithPolicy_avoids {hello : V1SignedHello}
    (hhello : hello.Fits) (credential : V1DeviceCredential)
    (initiatorRecord responderRecord : V1DeviceRecord) (responderNonce : String)
    (validity : UInt64 × UInt64) (allowLoopbackDev : Bool) :
    Avoids SizeError (signWithPolicy P credential hello initiatorRecord
      responderRecord responderNonce validity allowLoopbackDev) := by
  unfold signWithPolicy
  dsimp only
  rw [avoids_bind, avoids_rejectIf]
  refine ⟨fun _ => not_sizeError nofun, ?_⟩
  intro _ _
  rw [avoids_bind]
  refine ⟨hhello.verify_avoids _ _ _ _ _, ?_⟩
  intro _ hverified
  rw [avoids_bind]
  refine ⟨validateClaims_avoids hhello _ _ _ _ _ _ _, ?_⟩
  intro _ hclaims
  rw [avoids_bind]
  refine ⟨credential.controlKey_avoids, ?_⟩
  intro key _
  rw [avoids_bind]
  refine ⟨?_, fun _ _ => avoids_pure⟩
  rcases V1SignedHello.verify_eq_ok.mp hverified with ⟨_, _, hauth, _⟩
  rcases validateClaims_eq_ok.mp hclaims with ⟨_, _, hbound, _⟩
  apply ensureSerializedBound_avoids
  apply Nat.le_trans (signed_size_le _ _)
  exact answer_fits hauth.bound.senderAuthentic.certificateAuthentic.partySizes
    hauth.bound.targetAuthentic.certificateAuthentic.partySizes
    hauth.bound.applicationForm hauth.bound.sessionNonce hbound.responderNonce
    validity.1 validity.2

theorem V1SignedCurrentnessProof.validateClaims_avoids {hello : V1SignedHello}
    (hhello : hello.Fits) (claims : V1CurrentnessClaims)
    (ownRecord peerRecord : V1DeviceRecord) (expectedRole : V1CurrentnessRole)
    (expectedChallenge : String) (now : UInt64) (allowLoopbackDev : Bool) :
    Avoids SizeError (validateClaims P claims ownRecord peerRecord hello
      expectedRole expectedChallenge now allowLoopbackDev) := by
  unfold validateClaims
  simp [avoids_bind, hhello.verify_avoids, validateChallenge_avoids,
    validateDigest_avoids, validateCurrentnessWindow_avoids, sizeLabels,
    not_sizeError]

theorem V1SignedCurrentnessProof.verify_avoids {proof : V1SignedCurrentnessProof}
    {hello : V1SignedHello}
    (hproof : proof.toJson.size ≤ v1MaxCurrentnessProofBytes)
    (hhello : hello.Fits) (ownRecord peerRecord : V1DeviceRecord)
    (expectedRole : V1CurrentnessRole) (expectedChallenge : String)
    (now : UInt64) (allowLoopbackDev : Bool) :
    Avoids SizeError (proof.verify P ownRecord peerRecord hello expectedRole
      expectedChallenge now allowLoopbackDev) := by
  unfold verify V1DeviceCertificate.controlPublicKey
  simp [avoids_bind, ensureSerializedBound_avoids, hproof,
    validateClaims_avoids hhello, parsePublicKey_avoids, verifySignature_avoids]

theorem V1SignedCurrentnessProof.statement_fits (ownRecord : V1DeviceRecord)
    (hello : V1SignedHello) (role : V1CurrentnessRole) {challenge label : String}
    (hchallenge : validateChallenge P challenge label = Except.ok ())
    (issuedAt expiresAt : UInt64) :
    Json.size (statement P ownRecord hello role challenge issuedAt
      expiresAt).toJson + 113 ≤ v1MaxCurrentnessProofBytes := by
  have hsize := statement_size_le ownRecord hello role hchallenge issuedAt
    expiresAt
  have hmax : 2000 + 113 ≤ v1MaxCurrentnessProofBytes := by decide
  exact Nat.le_trans (Nat.add_le_add_right hsize 113) hmax

theorem V1SignedCurrentnessProof.sign_avoids {hello : V1SignedHello}
    (hhello : hello.Fits) (credential : V1DeviceCredential)
    (ownRecord peerRecord : V1DeviceRecord) (role : V1CurrentnessRole)
    (challenge : String) (issuedAt expiresAt : UInt64)
    (allowLoopbackDev : Bool) :
    Avoids SizeError (sign P credential ownRecord peerRecord hello role challenge
      issuedAt expiresAt allowLoopbackDev) := by
  unfold sign
  dsimp only
  rw [avoids_bind, avoids_rejectIf]
  refine ⟨fun _ => not_sizeError nofun, ?_⟩
  intro _ _
  rw [avoids_bind]
  refine ⟨hhello.verify_avoids _ _ _ _ _, ?_⟩
  intro _ _
  rw [avoids_bind]
  refine ⟨validateClaims_avoids hhello _ _ _ _ _ _ _, ?_⟩
  intro _ hclaims
  rw [avoids_bind]
  refine ⟨credential.controlKey_avoids, ?_⟩
  intro key _
  rw [avoids_bind]
  refine ⟨?_, fun _ _ => avoids_pure⟩
  rcases validateClaims_eq_ok.mp hclaims with ⟨_, hbound, _⟩
  apply ensureSerializedBound_avoids
  apply Nat.le_trans (signed_size_le _ _)
  exact statement_fits ownRecord hello role hbound.challengeForm issuedAt
    expiresAt

end Lawful

end Protocol
end Pubky2Pubky
