import Pubky2Pubky.Protocol.Reference

/-!
# What acceptance determines

Each kind of signed object is the image of the objects around it and of a few
free fields. Acceptance means that the claims are exactly that image, so no
field of one session can be replaced by a field of another.
-/

namespace Pubky2Pubky
namespace Protocol

open Foundation

/-!
# One object at a time
-/

variable {P : Primitives}

theorem V1DeviceCertificate.Authentic.determined
    {certificate : V1DeviceCertificate} {authorization : V1GrantAuthorization}
    {expectedIdentity : String} {grant : V1GrantAuthorization.Claims P}
    (h : Authentic P certificate authorization expectedIdentity grant) :
    certificate.claims = delegation P authorization grant
      certificate.claims.deviceId certificate.claims.controlSigningKey
      certificate.claims.irohEndpointId certificate.claims.issuedAt
      certificate.claims.expiresAt := by
  have hidentity : certificate.claims.identity = P.z32 grant.iss := by
    rw [h.identity, h.grantAuthentic.z32_iss]
  exact V1DeviceCertificateClaims.ext h.version hidentity h.grantDigest
    h.grantJti h.clientId h.grantCnfKey rfl rfl rfl rfl rfl

/-- The root, the Grant's `cnf` key and both device keys are four different keys. -/
theorem V1DeviceCertificate.Authentic.keys_pairwise
    {certificate : V1DeviceCertificate} {authorization : V1GrantAuthorization}
    {expectedIdentity : String} {grant : V1GrantAuthorization.Claims P}
    (h : Authentic P certificate authorization expectedIdentity grant) :
    exists control iroh : P.PublicKey,
      P.z32 control = certificate.claims.controlSigningKey ∧
      P.z32 iroh = certificate.claims.irohEndpointId ∧
      [grant.iss, grant.cnf, control, iroh].Nodup := by
  rcases h.keys with
    ⟨control, iroh, hcontrol, hiroh, hci, hcr, hcc, hir, hic⟩
  refine ⟨control, iroh, (parsePublicKey_eq_ok.mp hcontrol).right,
    (parsePublicKey_eq_ok.mp hiroh).right, ?_⟩
  have hcnf : grant.iss ≠ grant.cnf := fun heq =>
    h.grantAuthentic.independent heq.symm
  simp only [List.nodup_cons, List.mem_cons, List.not_mem_nil, or_false,
    not_or, not_false_eq_true, List.nodup_nil, and_true]
  exact ⟨⟨hcnf, Ne.symm hcr, Ne.symm hir⟩, ⟨Ne.symm hcc, Ne.symm hic⟩, hci⟩

theorem V1SignedLocator.Bound.determined {claims : V1LocatorClaims}
    {authorization : V1GrantAuthorization} {certificate : V1DeviceCertificate}
    {expectedIdentity : String} {allowLoopbackDev : Bool}
    {minimumSequence : Option UInt64} {grant : V1GrantAuthorization.Claims P}
    (h : Bound P claims authorization certificate expectedIdentity
      allowLoopbackDev minimumSequence grant) :
    claims = announcement P authorization certificate claims.relayUrls
      claims.instanceNonce claims.sequence claims.issuedAt claims.expiresAt := by
  have hidentity : claims.identity = certificate.claims.identity := by
    rw [h.identity, h.certificateAuthentic.identity]
  exact V1LocatorClaims.ext h.version hidentity h.grantDigest
    h.certificateDigest h.controlSigningKey h.irohEndpointId rfl h.alpn rfl rfl
    rfl rfl

theorem V1SignedHello.Bound.determined {claims : V1HelloClaims}
    {senderRecord targetRecord : V1DeviceRecord} {expectedApplication : String}
    {allowLoopbackDev : Bool}
    {senderGrant targetGrant : V1GrantAuthorization.Claims P}
    (h : Bound P claims senderRecord targetRecord expectedApplication
      allowLoopbackDev senderGrant targetGrant) :
    claims = greeting P senderRecord targetRecord expectedApplication
      claims.sessionNonce claims.issuedAt claims.expiresAt :=
  V1HelloClaims.ext h.version h.fromDeviceRecord
    h.senderAuthentic.identity.symm h.fromDeviceId h.fromControlSigningKey
    h.fromIrohEndpointId h.targetAuthentic.identity.symm h.toDeviceId
    h.toControlSigningKey h.toIrohEndpointId h.application h.alpn rfl
    h.targetDigest rfl rfl

/-!
# All five objects
-/

/-- Acceptance determines every claim that is not explicitly free. -/
theorem accepted_claims_determined (P : Primitives) :
    (forall (certificate : V1DeviceCertificate)
        (authorization : V1GrantAuthorization) (expectedIdentity : String)
        (now : UInt64),
      certificate.verify P authorization expectedIdentity now = Except.ok () ->
      exists grant,
        authorization.verify P expectedIdentity now = Except.ok grant ∧
        certificate.claims.identity = expectedIdentity ∧
        certificate.claims = V1DeviceCertificate.delegation P authorization
          grant certificate.claims.deviceId
          certificate.claims.controlSigningKey certificate.claims.irohEndpointId
          certificate.claims.issuedAt certificate.claims.expiresAt ∧
        grant.iat ≤ certificate.claims.issuedAt ∧
        certificate.claims.expiresAt ≤ grant.exp ∧
        exists control iroh : P.PublicKey,
          P.z32 control = certificate.claims.controlSigningKey ∧
          P.z32 iroh = certificate.claims.irohEndpointId ∧
          [grant.iss, grant.cnf, control, iroh].Nodup) ∧
    (forall (locator : V1SignedLocator) (authorization : V1GrantAuthorization)
        (certificate : V1DeviceCertificate) (expectedIdentity : String)
        (now : UInt64) (allowLoopbackDev : Bool)
        (minimumSequence : Option UInt64),
      locator.verify P authorization certificate expectedIdentity now
        allowLoopbackDev minimumSequence = Except.ok () ->
      locator.claims.identity = expectedIdentity ∧
      locator.claims = V1SignedLocator.announcement P authorization certificate
        locator.claims.relayUrls locator.claims.instanceNonce
        locator.claims.sequence locator.claims.issuedAt
        locator.claims.expiresAt) ∧
    (forall (hello : V1SignedHello) (senderRecord targetRecord : V1DeviceRecord)
        (expectedApplication : String) (now : UInt64) (allowLoopbackDev : Bool),
      hello.verify P senderRecord targetRecord expectedApplication now
        allowLoopbackDev = Except.ok () ->
      hello.claims = V1SignedHello.greeting P senderRecord targetRecord
        expectedApplication hello.claims.sessionNonce hello.claims.issuedAt
        hello.claims.expiresAt ∧
      hello.claims.fromControlSigningKey ≠ hello.claims.toControlSigningKey ∧
      hello.claims.fromIrohEndpointId ≠ hello.claims.toIrohEndpointId) ∧
    (forall (ack : V1SignedAck) (responderRecord initiatorRecord : V1DeviceRecord)
        (hello : V1SignedHello) (expectedApplication : String) (now : UInt64)
        (allowLoopbackDev : Bool),
      ack.verify P responderRecord initiatorRecord hello expectedApplication now
        allowLoopbackDev = Except.ok () ->
      ack.claims = V1SignedAck.answer P hello initiatorRecord responderRecord
        ack.claims.responderNonce ack.claims.issuedAt ack.claims.expiresAt ∧
      ack.claims.application = expectedApplication ∧
      ack.claims.responderNonce ≠ hello.claims.sessionNonce) ∧
    (forall (proof : V1SignedCurrentnessProof)
        (ownRecord peerRecord : V1DeviceRecord) (hello : V1SignedHello)
        (expectedRole : V1CurrentnessRole) (expectedChallenge : String)
        (now : UInt64) (allowLoopbackDev : Bool),
      proof.verify P ownRecord peerRecord hello expectedRole expectedChallenge
        now allowLoopbackDev = Except.ok () ->
      proof.claims = V1SignedCurrentnessProof.statement P ownRecord hello
        expectedRole expectedChallenge proof.claims.issuedAt
        proof.claims.expiresAt ∧
      proof.claims.challenge ≠ hello.claims.sessionNonce) := by
  refine ⟨?_, ?_, ?_, ?_, ?_⟩
  · intro certificate authorization expectedIdentity now h
    rcases V1DeviceCertificate.verify_eq_ok.mp h with ⟨grant, hauth, hcurrent⟩
    have hgrant : authorization.verify P expectedIdentity now =
        Except.ok grant :=
      V1GrantAuthorization.verify_eq_ok.mpr
        ⟨hauth.grantAuthentic, hcurrent.grantOpen⟩
    exact ⟨grant, hgrant, hauth.identity, hauth.determined, hauth.notBefore,
      hauth.notAfter, hauth.keys_pairwise⟩
  · intro locator authorization certificate expectedIdentity now
      allowLoopbackDev minimumSequence h
    rcases V1SignedLocator.verify_eq_ok.mp h with ⟨grant, hauth, _⟩
    exact ⟨hauth.bound.identity, hauth.bound.determined⟩
  · intro hello senderRecord targetRecord expectedApplication now
      allowLoopbackDev h
    rcases V1SignedHello.verify_eq_ok.mp h with
      ⟨senderGrant, targetGrant, hauth, _⟩
    exact ⟨hauth.bound.determined, hauth.bound.distinctControl,
      hauth.bound.distinctIroh⟩
  · intro ack responderRecord initiatorRecord hello expectedApplication now
      allowLoopbackDev h
    rcases V1SignedAck.verify_eq_ok.mp h with ⟨_, hhello, hbound, _, _⟩
    have happlication : ack.claims.application = expectedApplication := by
      rw [hbound.determined]
      exact V1SignedHello.verify_application hhello
    exact ⟨hbound.determined, happlication, hbound.freshNonce⟩
  · intro proof ownRecord peerRecord hello expectedRole expectedChallenge now
      allowLoopbackDev h
    rcases V1SignedCurrentnessProof.verify_eq_ok.mp h with
      ⟨_, _, hbound, _, _⟩
    have hfresh : proof.claims.challenge ≠ hello.claims.sessionNonce := by
      rw [hbound.determined]
      exact hbound.freshChallenge
    exact ⟨hbound.determined, hfresh⟩

/-- The five kinds of objects that two sample devices exchange. -/
theorem accepted_claims_determined_sample :
    Reference.laptop.credential.certificate.claims.grantDigest =
        Reference.authorization.digest Reference.sample ∧
      Reference.laptop.locator.claims.controlSigningKey =
        Reference.laptop.credential.certificate.claims.controlSigningKey ∧
      Reference.hello.claims.toDeviceId =
        Reference.phone.record.certificate.claims.deviceId ∧
      exists ack proof,
        V1SignedAck.verify Reference.sample ack Reference.phone.record
          Reference.laptop.record Reference.hello "chat" 1060 false =
            Except.ok () ∧
        ack.claims.helloDigest = Reference.hello.digest Reference.sample ∧
        V1SignedCurrentnessProof.verify Reference.sample proof
          Reference.phone.record Reference.laptop.record Reference.hello
          V1CurrentnessRole.responder Reference.challenge 1060 false =
            Except.ok () ∧
        proof.claims.challenge = Reference.challenge := by
  have hdetermined := accepted_claims_determined Reference.sample
  rcases hdetermined with ⟨hcertificate, hlocator, hhello, hack, hproof⟩
  have hchain := (V1DeviceCredential.verify_eq_ok.mp
    Reference.laptop.credential_verify).left
  have hannounced := V1SignedLocator.signWithPolicy_verify
    Reference.laptop.locator_sign
  rcases Reference.laptop_caller.ack_sign with ⟨ack, hackSign⟩
  rcases Reference.laptop_caller.proof_sign with ⟨proof, hproofSign⟩
  rcases V1SignedAck.signWithPolicy_verify hackSign with
    ⟨_, _, _, hackVerify⟩
  rcases V1SignedCurrentnessProof.sign_verify hproofSign with
    ⟨_, _, hproofVerify⟩
  rcases hcertificate _ _ _ _ hchain with ⟨grant, _, _, hdelegation, _⟩
  have hgreeting := (hhello _ _ _ _ _ _
    (Reference.hello_verify (UInt64.le_refl 1000) (by decide))).left
  have hdigest : ack.claims.helloDigest =
      Reference.hello.digest Reference.sample := by
    rw [(hack _ _ _ _ _ _ _ hackVerify).left]
    rfl
  have hchallenge : proof.claims.challenge = Reference.challenge := by
    rw [(hproof _ _ _ _ _ _ _ _ hproofVerify).left]
    rfl
  refine ⟨?_, ?_, ?_, ack, proof, hackVerify, hdigest, hproofVerify, hchallenge⟩
  · rw [hdelegation]
    rfl
  · rw [(hlocator _ _ _ _ _ _ _ hannounced.right.right).right]
    rfl
  · rw [hgreeting]
    rfl

end Protocol
end Pubky2Pubky
