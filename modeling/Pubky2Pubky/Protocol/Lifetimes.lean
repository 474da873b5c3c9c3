import Pubky2Pubky.Protocol.Reference

/-!
# Lifetimes

Every validity window lies inside the windows of the objects it rests on.
Hence a freshly signed object is accepted exactly until its own expiry, and the
instants at which any object is accepted form an interval.
-/

namespace Pubky2Pubky
namespace Protocol

open Foundation

/-- A check that succeeds from the start and fails from the end on. -/
structure LivesExactly (check : UInt64 -> Result Unit)
    (start stop : UInt64) : Prop where
  accepted : forall now, start ≤ now -> now < stop -> check now = Except.ok ()
  rejected : forall now, stop ≤ now ->
    exists error, check now = Except.error error

def acceptedInstants (check : UInt64 -> Result Unit) : Set Nat :=
  instants fun now => check now = Except.ok ()

theorem LivesExactly.of_verify {check : UInt64 -> Result Unit}
    {start stop : UInt64} (hstart : check start = Except.ok ())
    (hlater : forall t now, check t = Except.ok () -> t ≤ now -> now < stop ->
      check now = Except.ok ())
    (hunexpired : forall now, check now = Except.ok () -> now < stop) :
    LivesExactly check start stop := by
  constructor
  · intro now hle hlt
    exact hlater start now hstart hle hlt
  · intro now hle
    cases hcheck : check now with
    | error e =>
        exact ⟨e, rfl⟩
    | ok u =>
        have hlt : now < stop := hunexpired now hcheck
        exact absurd hle (UInt64.not_le.mpr hlt)

/-!
# Signed objects live until their own expiry
-/

section Signed

variable {P : Primitives}

theorem V1DeviceCredential.finalize_livesExactly
    {authorization : V1GrantAuthorization} {expectedIdentity deviceId : String}
    {t e : UInt64} {control iroh : P.Keypair}
    {draft : V1DeviceCredentialDraft} {signature : Bytes}
    {credential : V1DeviceCredential}
    (hprepare : prepare P authorization expectedIdentity deviceId t e control
      iroh = Except.ok draft)
    (hfinalize : finalize P draft signature = Except.ok credential) :
    LivesExactly
      (fun now => credential.certificate.verify P authorization expectedIdentity
        now) t e := by
  rcases prepare_eq_ok hprepare with ⟨hauthorization, hidentity, ht, he⟩
  rcases finalize_verify hfinalize with ⟨hsame, hclaims, hverify⟩
  have hstart : credential.certificate.verify P authorization expectedIdentity
      t = Except.ok () := by
    have hchain := (verify_eq_ok.mp hverify).left
    unfold identity at hchain
    rwa [hsame, hclaims, hauthorization, hidentity, ht] at hchain
  have hstop : credential.certificate.claims.expiresAt = e := by
    rw [hclaims, he]
  apply LivesExactly.of_verify hstart
  · intro s now h hle hlt
    exact V1DeviceCertificate.verify_later h hle (by rwa [hstop])
  · intro now h
    rw [← hstop]
    exact V1DeviceCertificate.verify_unexpired h

theorem V1DeviceRecord.livesExactly {credential : V1DeviceCredential}
    {locator : V1SignedLocator} {t : UInt64} {allowLoopbackDev : Bool}
    {record : V1DeviceRecord}
    (h : new P credential locator t allowLoopbackDev = Except.ok record) :
    LivesExactly
      (fun now => record.verify P credential.identity now allowLoopbackDev none)
      t locator.claims.expiresAt := by
  rcases new_eq_ok h with ⟨_, _, hlocator, hstart⟩
  rw [← hlocator]
  exact LivesExactly.of_verify hstart
    (fun s now hs hle hlt => verify_later hs hle hlt)
    (fun now hnow => verify_unexpired hnow)

variable [P.Lawful]

theorem V1SignedLocator.livesExactly {credential : V1DeviceCredential}
    {relayUrls : List Url} {instanceNonce : String} {sequence t e : UInt64}
    {allowLoopbackDev : Bool} {locator : V1SignedLocator}
    (h : signWithPolicy P credential relayUrls instanceNonce sequence (t, e)
      allowLoopbackDev = Except.ok locator) :
    LivesExactly
      (fun now => locator.verify P credential.authorization
        credential.certificate credential.identity now allowLoopbackDev none)
      t e := by
  rcases signWithPolicy_verify h with ⟨_, he, hstart⟩
  subst he
  exact LivesExactly.of_verify hstart
    (fun s now hs hle hlt => verify_later hs hle hlt)
    (fun now hnow => verify_unexpired hnow)

theorem V1SignedHello.livesExactly {credential : V1DeviceCredential}
    {senderRecord targetRecord : V1DeviceRecord}
    {application sessionNonce : String} {t e : UInt64} {allowLoopbackDev : Bool}
    {hello : V1SignedHello}
    (h : signWithPolicy P credential senderRecord targetRecord application
      sessionNonce (t, e) allowLoopbackDev = Except.ok hello) :
    LivesExactly
      (fun now => hello.verify P senderRecord targetRecord application now
        allowLoopbackDev) t e := by
  rcases signWithPolicy_verify h with ⟨_, he, hstart⟩
  subst he
  exact LivesExactly.of_verify hstart
    (fun s now hs hle hlt => verify_later hs hle hlt)
    (fun now hnow => verify_unexpired hnow)

theorem V1SignedAck.livesExactly {credential : V1DeviceCredential}
    {hello : V1SignedHello} {initiatorRecord responderRecord : V1DeviceRecord}
    {responderNonce : String} {t e : UInt64} {allowLoopbackDev : Bool}
    {ack : V1SignedAck}
    (h : signWithPolicy P credential hello initiatorRecord responderRecord
      responderNonce (t, e) allowLoopbackDev = Except.ok ack) :
    LivesExactly
      (fun now => ack.verify P responderRecord initiatorRecord hello
        hello.claims.application now allowLoopbackDev) t e := by
  rcases signWithPolicy_verify h with ⟨_, he, _, hstart⟩
  subst he
  exact LivesExactly.of_verify hstart
    (fun s now hs hle hlt => verify_later hs hle hlt)
    (fun now hnow => verify_unexpired hnow)

theorem V1SignedCurrentnessProof.livesExactly {credential : V1DeviceCredential}
    {ownRecord peerRecord : V1DeviceRecord} {hello : V1SignedHello}
    {role : V1CurrentnessRole} {challenge : String} {t e : UInt64}
    {allowLoopbackDev : Bool} {proof : V1SignedCurrentnessProof}
    (h : sign P credential ownRecord peerRecord hello role challenge t e
      allowLoopbackDev = Except.ok proof) :
    LivesExactly
      (fun now => proof.verify P ownRecord peerRecord hello role challenge now
        allowLoopbackDev) t e := by
  rcases sign_verify h with ⟨_, he, hstart⟩
  subst he
  exact LivesExactly.of_verify hstart
    (fun s now hs hle hlt => verify_later hs hle hlt)
    (fun now hnow =>
      UInt64.lt_iff_toNat_lt.mpr (verify_live hnow).unexpired)

end Signed

/-- The acceptance instants of a proof lie in its window, which has at most thirty. -/
theorem V1SignedCurrentnessProof.acceptedInstants_subset {P : Primitives}
    (proof : V1SignedCurrentnessProof) (ownRecord peerRecord : V1DeviceRecord)
    (hello : V1SignedHello) (role : V1CurrentnessRole) (challenge : String)
    (allowLoopbackDev : Bool) :
    acceptedInstants (fun now => proof.verify P ownRecord peerRecord hello role
        challenge now allowLoopbackDev) ⊆
      Set.Ico proof.claims.issuedAt.toNat proof.claims.expiresAt.toNat := by
  apply instants_subset_Ico
  intro now h
  have hlive := verify_live h
  exact ⟨UInt64.le_iff_toNat_le.mpr hlive.issued,
    UInt64.lt_iff_toNat_lt.mpr hlive.unexpired⟩

theorem V1SignedCurrentnessProof.acceptedInstants_ncard {P : Primitives}
    (proof : V1SignedCurrentnessProof) (ownRecord peerRecord : V1DeviceRecord)
    (hello : V1SignedHello) (role : V1CurrentnessRole) (challenge : String)
    (allowLoopbackDev : Bool) :
    (acceptedInstants (fun now => proof.verify P ownRecord peerRecord hello role
        challenge now allowLoopbackDev)).ncard ≤ 30 := by
  have hsubset := acceptedInstants_subset (P := P) proof ownRecord peerRecord
    hello role challenge allowLoopbackDev
  rcases Set.eq_empty_or_nonempty (acceptedInstants (fun now =>
      proof.verify P ownRecord peerRecord hello role challenge now
        allowLoopbackDev)) with hempty | hsome
  · rw [hempty, Set.ncard_empty]
    exact Nat.zero_le 30
  · rcases hsome with ⟨n, now, _, hnow⟩
    exact Nat.le_trans (Set.ncard_le_ncard hsubset (Set.finite_Ico _ _))
      (verify_live hnow).ncard_Ico_le

/-!
# Validity windows nest
-/

theorem lifetimes_nest (P : Primitives) [P.Lawful] :
    (forall (authorization : V1GrantAuthorization)
        (expectedIdentity deviceId : String) (t e : UInt64)
        (control iroh : P.Keypair) (draft : V1DeviceCredentialDraft)
        (signature : Bytes) (credential : V1DeviceCredential),
      V1DeviceCredential.prepare P authorization expectedIdentity deviceId t e
        control iroh = Except.ok draft ->
      V1DeviceCredential.finalize P draft signature = Except.ok credential ->
      LivesExactly (fun now => credential.certificate.verify P authorization
        expectedIdentity now) t e) ∧
    (forall (authorization : V1GrantAuthorization)
        (expectedIdentity deviceId : String) (t e : UInt64)
        (grantCnf control iroh : P.Keypair) (credential : V1DeviceCredential),
      V1DeviceCredential.issue P authorization expectedIdentity grantCnf
        deviceId t e control iroh = Except.ok credential ->
      LivesExactly (fun now => credential.certificate.verify P authorization
        expectedIdentity now) t e) ∧
    (forall (credential : V1DeviceCredential) (relayUrls : List Url)
        (instanceNonce : String) (sequence t e : UInt64)
        (allowLoopbackDev : Bool) (locator : V1SignedLocator),
      V1SignedLocator.signWithPolicy P credential relayUrls instanceNonce
        sequence (t, e) allowLoopbackDev = Except.ok locator ->
      LivesExactly (fun now => locator.verify P credential.authorization
        credential.certificate credential.identity now allowLoopbackDev none)
        t e) ∧
    (forall (credential : V1DeviceCredential) (locator : V1SignedLocator)
        (t : UInt64) (allowLoopbackDev : Bool) (record : V1DeviceRecord),
      V1DeviceRecord.new P credential locator t allowLoopbackDev =
        Except.ok record ->
      LivesExactly (fun now => record.verify P credential.identity now
        allowLoopbackDev none) t locator.claims.expiresAt) ∧
    (forall (credential : V1DeviceCredential)
        (senderRecord targetRecord : V1DeviceRecord)
        (application sessionNonce : String) (t e : UInt64)
        (allowLoopbackDev : Bool) (hello : V1SignedHello),
      V1SignedHello.signWithPolicy P credential senderRecord targetRecord
        application sessionNonce (t, e) allowLoopbackDev = Except.ok hello ->
      LivesExactly (fun now => hello.verify P senderRecord targetRecord
        application now allowLoopbackDev) t e) ∧
    (forall (credential : V1DeviceCredential) (hello : V1SignedHello)
        (initiatorRecord responderRecord : V1DeviceRecord)
        (responderNonce : String) (t e : UInt64) (allowLoopbackDev : Bool)
        (ack : V1SignedAck),
      V1SignedAck.signWithPolicy P credential hello initiatorRecord
        responderRecord responderNonce (t, e) allowLoopbackDev =
          Except.ok ack ->
      LivesExactly (fun now => ack.verify P responderRecord initiatorRecord
        hello hello.claims.application now allowLoopbackDev) t e) ∧
    (forall (credential : V1DeviceCredential)
        (ownRecord peerRecord : V1DeviceRecord) (hello : V1SignedHello)
        (role : V1CurrentnessRole) (challenge : String) (t e : UInt64)
        (allowLoopbackDev : Bool) (proof : V1SignedCurrentnessProof),
      V1SignedCurrentnessProof.sign P credential ownRecord peerRecord hello role
        challenge t e allowLoopbackDev = Except.ok proof ->
      LivesExactly (fun now => proof.verify P ownRecord peerRecord hello role
        challenge now allowLoopbackDev) t e) ∧
    (forall (certificate : V1DeviceCertificate)
        (authorization : V1GrantAuthorization) (expectedIdentity : String),
      (acceptedInstants fun now =>
        certificate.verify P authorization expectedIdentity now).OrdConnected) ∧
    (forall (locator : V1SignedLocator) (authorization : V1GrantAuthorization)
        (certificate : V1DeviceCertificate) (expectedIdentity : String)
        (allowLoopbackDev : Bool) (minimumSequence : Option UInt64),
      (acceptedInstants fun now =>
        locator.verify P authorization certificate expectedIdentity now
          allowLoopbackDev minimumSequence).OrdConnected) ∧
    (forall (record : V1DeviceRecord) (expectedIdentity : String)
        (allowLoopbackDev : Bool) (minimumSequence : Option UInt64),
      (acceptedInstants fun now =>
        record.verify P expectedIdentity now allowLoopbackDev
          minimumSequence).OrdConnected) ∧
    (forall (hello : V1SignedHello) (senderRecord targetRecord : V1DeviceRecord)
        (application : String) (allowLoopbackDev : Bool),
      (acceptedInstants fun now =>
        hello.verify P senderRecord targetRecord application now
          allowLoopbackDev).OrdConnected) ∧
    (forall (ack : V1SignedAck)
        (responderRecord initiatorRecord : V1DeviceRecord)
        (hello : V1SignedHello) (application : String)
        (allowLoopbackDev : Bool),
      (acceptedInstants fun now =>
        ack.verify P responderRecord initiatorRecord hello application now
          allowLoopbackDev).OrdConnected) ∧
    (forall (proof : V1SignedCurrentnessProof)
        (ownRecord peerRecord : V1DeviceRecord) (hello : V1SignedHello)
        (role : V1CurrentnessRole) (challenge : String)
        (allowLoopbackDev : Bool),
      let accepted := acceptedInstants fun now =>
        proof.verify P ownRecord peerRecord hello role challenge now
          allowLoopbackDev
      accepted.OrdConnected ∧ accepted.ncard ≤ 30 ∧
        accepted ⊆
          Set.Ico proof.claims.issuedAt.toNat proof.claims.expiresAt.toNat) := by
  refine ⟨?_, ?_, ?_, ?_, ?_, ?_, ?_, ?_, ?_, ?_, ?_, ?_, ?_⟩
  · intro authorization expectedIdentity deviceId t e control iroh draft
      signature credential hprepare hfinalize
    exact V1DeviceCredential.finalize_livesExactly hprepare hfinalize
  · intro authorization expectedIdentity deviceId t e grantCnf control iroh
      credential h
    rcases V1DeviceCredential.issue_eq_ok h with
      ⟨draft, signature, hprepare, hfinalize⟩
    exact V1DeviceCredential.finalize_livesExactly hprepare hfinalize
  · intro credential relayUrls instanceNonce sequence t e allowLoopbackDev
      locator h
    exact V1SignedLocator.livesExactly h
  · intro credential locator t allowLoopbackDev record h
    exact V1DeviceRecord.livesExactly h
  · intro credential senderRecord targetRecord application sessionNonce t e
      allowLoopbackDev hello h
    exact V1SignedHello.livesExactly h
  · intro credential hello initiatorRecord responderRecord responderNonce t e
      allowLoopbackDev ack h
    exact V1SignedAck.livesExactly h
  · intro credential ownRecord peerRecord hello role challenge t e
      allowLoopbackDev proof h
    exact V1SignedCurrentnessProof.livesExactly h
  · intro certificate authorization expectedIdentity
    exact instants_ordConnected fun a b c hab hbc ha hc =>
      V1DeviceCertificate.verify_between ha hc hab hbc
  · intro locator authorization certificate expectedIdentity allowLoopbackDev
      minimumSequence
    exact instants_ordConnected fun a b c hab hbc ha hc =>
      V1SignedLocator.verify_between ha hc hab hbc
  · intro record expectedIdentity allowLoopbackDev minimumSequence
    exact instants_ordConnected fun a b c hab hbc ha hc =>
      V1DeviceRecord.verify_between ha hc hab hbc
  · intro hello senderRecord targetRecord application allowLoopbackDev
    exact instants_ordConnected fun a b c hab hbc ha hc =>
      V1SignedHello.verify_between ha hc hab hbc
  · intro ack responderRecord initiatorRecord hello application
      allowLoopbackDev
    exact instants_ordConnected fun a b c hab hbc ha hc =>
      V1SignedAck.verify_between ha hc hab hbc
  · intro proof ownRecord peerRecord hello role challenge allowLoopbackDev
    refine ⟨?_, V1SignedCurrentnessProof.acceptedInstants_ncard proof ownRecord
      peerRecord hello role challenge allowLoopbackDev,
      V1SignedCurrentnessProof.acceptedInstants_subset proof ownRecord
        peerRecord hello role challenge allowLoopbackDev⟩
    exact instants_ordConnected fun a b c hab hbc ha hc =>
      V1SignedCurrentnessProof.verify_between ha hc hab hbc

/-- The lifetimes of what two sample devices sign. -/
theorem lifetimes_nest_sample :
    LivesExactly (fun now =>
        Reference.laptop.credential.certificate.verify Reference.sample
          Reference.authorization Reference.identity now) 1000 500000 ∧
      LivesExactly (fun now =>
        Reference.laptop.record.verify Reference.sample
          Reference.laptop.credential.identity now false none)
        1000 Reference.laptop.locator.claims.expiresAt ∧
      LivesExactly (fun now =>
        Reference.hello.verify Reference.sample Reference.laptop.record
          Reference.phone.record "chat" now false) 1060 1090 ∧
      (exists ack, LivesExactly (fun now =>
        V1SignedAck.verify Reference.sample ack Reference.phone.record
          Reference.laptop.record Reference.hello "chat" now false)
        1060 1090) ∧
      exists proof, LivesExactly (fun now =>
        V1SignedCurrentnessProof.verify Reference.sample proof
          Reference.phone.record Reference.laptop.record Reference.hello
          V1CurrentnessRole.responder Reference.challenge now false)
        1060 1090 := by
  rcases lifetimes_nest Reference.sample with
    ⟨_, hissue, _, hrecord, hhello, hack, hproof, _⟩
  rcases Reference.laptop_caller.ack_sign with ⟨ack, hackSign⟩
  rcases Reference.laptop_caller.proof_sign with ⟨proof, hproofSign⟩
  have hackLives := hack _ _ _ _ _ _ _ _ _ hackSign
  have hproofLives := hproof _ _ _ _ _ _ _ _ _ _ hproofSign
  exact ⟨hissue _ _ _ _ _ _ _ _ _ Reference.laptop.issue_eq,
    hrecord _ _ _ _ _ Reference.laptop.record_new,
    hhello _ _ _ _ _ _ _ _ _ Reference.hello_sign, ⟨ack, hackLives⟩,
    ⟨proof, hproofLives⟩⟩

end Protocol
end Pubky2Pubky
