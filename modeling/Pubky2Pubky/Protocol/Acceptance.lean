import Pubky2Pubky.Protocol.Reference

/-!
# Answering an admitted Hello

A responder queues a Hello when it verifies and answers it at some later time.
The answer is built at the responder's time and read at the initiator's time, so
the four window checks of the exchange meet two different clocks.
-/

namespace Pubky2Pubky
namespace Protocol

open Foundation

variable {P : Primitives}

/-- The end that `accept_pending` gives to the Ack and to its proof. -/
def acceptExpiry (hello : V1SignedHello) (now : UInt64) : UInt64 :=
  min hello.claims.expiresAt
    (saturatingAdd now v1MaxCurrentnessLifetimeSeconds)

theorem acceptExpiry_window {hello : V1SignedHello} {now : UInt64}
    (hlt : now < hello.claims.expiresAt) :
    now.toNat < (acceptExpiry hello now).toNat ∧
      (acceptExpiry hello now).toNat ≤ now.toNat + 30 ∧
      acceptExpiry hello now ≤ hello.claims.expiresAt := by
  rw [UInt64.lt_iff_toNat_lt] at hlt
  have hmax : v1MaxCurrentnessLifetimeSeconds.toNat = 30 := by decide
  have hbound := UInt64.toNat_lt hello.claims.expiresAt
  rw [UInt64.le_iff_toNat_le]
  unfold acceptExpiry
  rw [toNat_min, toNat_saturatingAdd, hmax]
  omega

/-!
# Hellos that start in the responder's future

Both answers carry the responder's time, which no answer may put before the
start of the Hello.
-/

section Ahead

variable [P.Lawful]

theorem V1SignedAck.signWithPolicy_ahead {credential : V1DeviceCredential}
    {hello : V1SignedHello} {initiatorRecord responderRecord : V1DeviceRecord}
    {responderNonce : String} {issuedAt expiresAt : UInt64}
    {allowLoopbackDev : Bool} (hahead : issuedAt < hello.claims.issuedAt) :
    exists error, signWithPolicy P credential hello initiatorRecord
      responderRecord responderNonce (issuedAt, expiresAt) allowLoopbackDev =
        Except.error error := by
  cases hresult : signWithPolicy P credential hello initiatorRecord
      responderRecord responderNonce (issuedAt, expiresAt) allowLoopbackDev with
  | error error =>
      exact ⟨error, rfl⟩
  | ok ack =>
      rcases signWithPolicy_verify hresult with ⟨hstart, _, _, hverify⟩
      rcases verify_eq_ok.mp hverify with ⟨_, _, hbound, _, _⟩
      have hissued := hbound.afterHello
      rw [hstart] at hissued
      exact absurd hissued (UInt64.not_le.mpr hahead)

theorem V1SignedCurrentnessProof.sign_ahead {credential : V1DeviceCredential}
    {ownRecord peerRecord : V1DeviceRecord} {hello : V1SignedHello}
    {role : V1CurrentnessRole} {challenge : String}
    {issuedAt expiresAt : UInt64} {allowLoopbackDev : Bool}
    (hahead : issuedAt < hello.claims.issuedAt) :
    exists error, sign P credential ownRecord peerRecord hello role challenge
      issuedAt expiresAt allowLoopbackDev = Except.error error := by
  cases hresult : sign P credential ownRecord peerRecord hello role challenge
      issuedAt expiresAt allowLoopbackDev with
  | error error =>
      exact ⟨error, rfl⟩
  | ok proof =>
      rcases sign_verify hresult with ⟨hstart, _, hverify⟩
      rcases verify_eq_ok.mp hverify with ⟨_, _, hbound, _, _⟩
      have hissued := hbound.afterHello
      rw [hstart] at hissued
      exact absurd hissued (UInt64.not_le.mpr hahead)

end Ahead

/-!
# The whole exchange
-/

/-- A Hello can be answered exactly when its start is not ahead of the responder. -/
theorem admitted_hello_answerable (P : Primitives) [P.Lawful]
    (hello : V1SignedHello) (senderRecord targetRecord : V1DeviceRecord)
    (application : String) (allowLoopbackDev : Bool)
    (initiator responder : V1DeviceCredential) (random : P.Keypair)
    (r r' : UInt64)
    (hadmitted : hello.verify P senderRecord targetRecord application r
      allowLoopbackDev = Except.ok ())
    (hle : r ≤ r') (hlt : r' < hello.claims.expiresAt)
    (hresponder : responder.Holds P targetRecord)
    (hinitiator : initiator.Holds P senderRecord)
    (hfresh : v1RandomChallenge P random ≠ hello.claims.sessionNonce) :
    let challenge := v1RandomChallenge P random
    let e := acceptExpiry hello r'
    let signedAck := V1SignedAck.signWithPolicy P responder hello senderRecord
      targetRecord challenge (r', e) allowLoopbackDev
    let signedProof := V1SignedCurrentnessProof.sign P responder targetRecord
      senderRecord hello V1CurrentnessRole.responder challenge r' e
      allowLoopbackDev
    (hello.claims.issuedAt ≤ r' ->
      exists ack proof ownProof,
        signedAck = Except.ok ack ∧ signedProof = Except.ok proof ∧
        V1SignedCurrentnessProof.sign P initiator senderRecord targetRecord
          hello V1CurrentnessRole.initiator challenge ack.claims.issuedAt
          ack.claims.expiresAt allowLoopbackDev = Except.ok ownProof ∧
        ownProof.verify P senderRecord targetRecord hello
          V1CurrentnessRole.initiator challenge r' allowLoopbackDev =
            Except.ok () ∧
        forall i, i < e ->
          ack.verify P targetRecord senderRecord hello application i
            allowLoopbackDev = Except.ok () ->
          (proof.verify P targetRecord senderRecord hello
            V1CurrentnessRole.responder challenge i allowLoopbackDev =
              Except.ok () <-> r' ≤ i)) ∧
    (r' < hello.claims.issuedAt ->
      (exists error, signedAck = Except.error error) ∧
      exists error, signedProof = Except.error error) := by
  intro challenge e signedAck signedProof
  have happlication : hello.claims.application = application :=
    V1SignedHello.verify_application hadmitted
  have hhello : hello.verify P senderRecord targetRecord
      hello.claims.application r' allowLoopbackDev = Except.ok () := by
    rw [happlication]
    exact V1SignedHello.verify_later hadmitted hle hlt
  rcases V1SignedHello.verify_eq_ok.mp hadmitted with ⟨_, _, hauth, _⟩
  have hnonce : forall label, validateChallenge P challenge label =
      Except.ok () := validateChallenge_v1RandomChallenge random
  rcases acceptExpiry_window hlt with ⟨hstart, hlength, hend⟩
  constructor
  · intro hissued
    have hopen : WindowOpen r' (acceptExpiry hello r')
        v1MaxHandshakeLifetimeSeconds r' := by
      have hmax : v1MaxHandshakeLifetimeSeconds.toNat = 120 := by decide
      exact ⟨hstart, by omega, hstart, by omega⟩
    have hlive : LiveWindow r' (acceptExpiry hello r') r' :=
      ⟨Nat.le_refl _, hstart, hlength⟩
    have hanswering : V1SignedCurrentnessProof.HelloAccepted P hello
        V1CurrentnessRole.responder targetRecord senderRecord allowLoopbackDev
        r' := hhello
    have hasking : V1SignedCurrentnessProof.HelloAccepted P hello
        V1CurrentnessRole.initiator senderRecord targetRecord allowLoopbackDev
        r' := hhello
    have hackBound := V1SignedAck.answer_bound hadmitted
      (hnonce "v1 responder nonce") hfresh hissued hend
    have hproofBound := V1SignedCurrentnessProof.statement_bound
      V1CurrentnessRole.responder hauth.bound.beforeTargetLocator
      (hnonce "v1 currentness challenge") hfresh hissued hend
    have hownBound := V1SignedCurrentnessProof.statement_bound
      V1CurrentnessRole.initiator hauth.bound.beforeSenderLocator
      (hnonce "v1 currentness challenge") hfresh hissued hend
    rcases V1SignedAck.signWithPolicy_succeeds hresponder hhello
      hackBound hopen with ⟨ack, hack⟩
    rcases V1SignedCurrentnessProof.sign_succeeds hresponder hanswering
      hproofBound hlive with ⟨proof, hproof⟩
    rcases V1SignedCurrentnessProof.sign_succeeds hinitiator hasking hownBound
      hlive with ⟨ownProof, hown⟩
    rcases V1SignedAck.signWithPolicy_verify hack with ⟨hackStart, hackEnd, _⟩
    rcases V1SignedCurrentnessProof.sign_verify hown with ⟨_, _, hownVerify⟩
    refine ⟨ack, proof, ownProof, hack, hproof, ?_, hownVerify, ?_⟩
    · rw [hackStart, hackEnd]
      exact hown
    · intro i hi hackVerify
      rcases V1SignedCurrentnessProof.sign_verify hproof with
        ⟨hproofStart, hproofEnd, hproofVerify⟩
      constructor
      · intro hverify
        have hwindow := V1SignedCurrentnessProof.verify_live hverify
        rw [UInt64.le_iff_toNat_le, ← hproofStart]
        exact hwindow.issued
      · intro hri
        apply V1SignedCurrentnessProof.verify_later hproofVerify hri
        rw [hproofEnd]
        exact hi
  · intro hahead
    exact ⟨V1SignedAck.signWithPolicy_ahead hahead,
      V1SignedCurrentnessProof.sign_ahead hahead⟩

/-- The Hello of the two sample devices, answered at its own start. -/
theorem admitted_hello_answerable_sample :
    exists ack proof,
      V1SignedAck.signWithPolicy Reference.sample Reference.phone.credential
        Reference.hello Reference.laptop.record Reference.phone.record
        Reference.challenge (1060, acceptExpiry Reference.hello 1060) false =
          Except.ok ack ∧
      V1SignedCurrentnessProof.sign Reference.sample Reference.phone.credential
        Reference.phone.record Reference.laptop.record Reference.hello
        V1CurrentnessRole.responder Reference.challenge 1060
        (acceptExpiry Reference.hello 1060) false = Except.ok proof := by
  have hexchange := admitted_hello_answerable Reference.sample Reference.hello
    Reference.laptop.record Reference.phone.record "chat" false
    Reference.laptop.credential Reference.phone.credential (Reference.keyOf 8)
    1000 1060 (Reference.hello_verify (by decide) (by decide)) (by decide)
    (show (1060 : UInt64) < 1090 by decide) Reference.phone.holds
    Reference.laptop.holds Reference.challenge_fresh
  rcases hexchange.left (UInt64.le_refl 1060) with
    ⟨ack, proof, ownProof, hack, hproof, _⟩
  exact ⟨ack, proof, hack, hproof⟩

/-- A Hello that starts a minute ahead is admitted, but it cannot be answered yet. -/
theorem admitted_hello_refused :
    Reference.hello.verify Reference.sample Reference.laptop.record
        Reference.phone.record "chat" 1000 false = Except.ok () ∧
      1000 < Reference.hello.claims.expiresAt ∧
      Reference.phone.credential.Holds Reference.sample
        Reference.phone.record ∧
      v1RandomChallenge Reference.sample (Reference.keyOf 8) ≠
        Reference.hello.claims.sessionNonce ∧
      ¬ exists ack, V1SignedAck.signWithPolicy Reference.sample
        Reference.phone.credential Reference.hello Reference.laptop.record
        Reference.phone.record
        (v1RandomChallenge Reference.sample (Reference.keyOf 8))
        (1000, acceptExpiry Reference.hello 1000) false = Except.ok ack := by
  refine ⟨Reference.hello_verify (by decide) (by decide),
    show (1000 : UInt64) < 1090 by decide, Reference.phone.holds,
    Reference.challenge_fresh, ?_⟩
  intro haccepted
  rcases haccepted with ⟨ack, hack⟩
  have hahead : (1000 : UInt64) < Reference.hello.claims.issuedAt :=
    show (1000 : UInt64) < 1060 by decide
  rcases V1SignedAck.signWithPolicy_ahead (P := Reference.sample) hahead with
    ⟨error, herror⟩
  rw [hack] at herror
  cases herror

end Protocol
end Pubky2Pubky
