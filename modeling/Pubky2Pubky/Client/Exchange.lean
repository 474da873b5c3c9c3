import Pubky2Pubky.Client.Awaits

/-!
# What honest ends compute for each other

Both sides derive the same proof paths before they have seen each other's
proofs, and a record that verifies can be observed.
-/

namespace Pubky2Pubky
namespace Client

open Foundation Protocol

variable {P : Primitives}

/-!
# Proof paths
-/

/-- The path of a challenge that is well formed can always be computed. -/
theorem currentnessPath_exists [P.Lawful] {challenge : String}
    (h : validateChallenge P challenge "v1 currentness challenge" =
      Except.ok ()) (role : V1CurrentnessRole) (hello : V1SignedHello)
    (record : V1DeviceRecord) :
    exists path, currentnessPath P role challenge hello record =
      Except.ok path := by
  have hhello := validateDigest_canonicalDigest (P := P) v1HelloDigestDomain
    "v1 Hello digest" hello.toJson
  have hrecord := validateDigest_canonicalDigest (P := P)
    v1DeviceRecordDigestDomain "v1 device record digest" record.toJson
  have hlocator := validateDigest_canonicalDigest (P := P)
    v1LocatorDigestDomain "v1 locator digest" record.locator.toJson
  have hgrant : validateDigest P (record.authorization.digest P)
      "v1 Grant digest" = Except.ok () :=
    validateDigest_canonicalDigest _ _ _
  unfold currentnessPath v1CurrentnessPath
  rw [h, ok_bind]
  unfold V1SignedHello.digest V1DeviceRecord.digest V1SignedLocator.digest
  rw [hhello, ok_bind, hrecord, ok_bind, hgrant, ok_bind, hlocator, ok_bind]
  exact ⟨_, rfl⟩

theorem sign_path {credential : V1DeviceCredential}
    {ownRecord peerRecord : V1DeviceRecord} {hello : V1SignedHello}
    {role : V1CurrentnessRole} {challenge : String}
    {issuedAt expiresAt : UInt64} {allowLoopbackDev : Bool}
    {proof : V1SignedCurrentnessProof}
    (h : V1SignedCurrentnessProof.sign P credential ownRecord peerRecord hello
      role challenge issuedAt expiresAt allowLoopbackDev = Except.ok proof) :
    fromProtocol (proof.path P) =
      currentnessPath P role challenge hello ownRecord := by
  unfold V1SignedCurrentnessProof.sign at h
  simp only [bind_eq_ok, rejectIf_eq_ok, exists_unit, pure_eq_ok] at h
  rcases h with ⟨_, _, _, key, _, _, rfl⟩
  rfl

theorem signReply_eq_ok {client : V1Client} {target : ResolvedV1Device}
    {application : String} {greeting : Greeting} {ack : V1SignedAck}
    {now : UInt64} {reply : Reply}
    (h : signReply P client target application greeting ack now =
      Except.ok reply) :
    reply.ack = ack ∧
      ack.verify P target.record greeting.senderRecord greeting.hello
        application now client.allowInsecureLoopbackRelay = Except.ok () ∧
      V1SignedCurrentnessProof.sign P client.credential greeting.senderRecord
        target.record greeting.hello V1CurrentnessRole.initiator
        ack.claims.responderNonce ack.claims.issuedAt ack.claims.expiresAt
        client.allowInsecureLoopbackRelay = Except.ok reply.proof := by
  unfold signReply at h
  simp only [bind_eq_ok, exists_unit, pure_eq_ok, fromProtocol_eq_ok] at h
  rcases h with ⟨hverify, proof, hsign, rfl⟩
  exact ⟨rfl, hverify, hsign⟩

theorem signReply_of_ok {client : V1Client} {target : ResolvedV1Device}
    {application : String} {greeting : Greeting} {ack : V1SignedAck}
    {now : UInt64} {proof : V1SignedCurrentnessProof}
    (hverify : ack.verify P target.record greeting.senderRecord greeting.hello
      application now client.allowInsecureLoopbackRelay = Except.ok ())
    (hsign : V1SignedCurrentnessProof.sign P client.credential
      greeting.senderRecord target.record greeting.hello
      V1CurrentnessRole.initiator ack.claims.responderNonce ack.claims.issuedAt
      ack.claims.expiresAt client.allowInsecureLoopbackRelay =
        Except.ok proof) :
    signReply P client target application greeting ack now =
      Except.ok { ack := ack, proof := proof } := by
  unfold signReply
  simp only [bind_eq_ok, exists_unit, pure_eq_ok, fromProtocol_eq_ok]
  exact ⟨hverify, proof, hsign, rfl⟩

theorem signReply_ack {client : V1Client} {target : ResolvedV1Device}
    {application : String} {greeting : Greeting} {ack : V1SignedAck}
    {now : UInt64} {reply : Reply}
    (h : signReply P client target application greeting ack now =
      Except.ok reply) : reply.ack = ack :=
  (signReply_eq_ok h).left

theorem readiness_exists [P.Lawful] {client : V1Client}
    {target : ResolvedV1Device} {application : String} {greeting : Greeting}
    {ack : V1SignedAck} {now : UInt64} {reply : Reply}
    (hreply : signReply P client target application greeting ack now =
      Except.ok reply)
    (hchallenge : validateChallenge P ack.claims.responderNonce
      "v1 currentness challenge" = Except.ok ()) :
    exists ready, readiness P target greeting reply = Except.ok ready := by
  rcases signReply_eq_ok hreply with ⟨hack, _, hsign⟩
  rcases currentnessPath_exists hchallenge V1CurrentnessRole.initiator
    greeting.hello greeting.senderRecord with ⟨initiatorPath, hinitiator⟩
  rcases currentnessPath_exists hchallenge V1CurrentnessRole.responder
    greeting.hello target.record with ⟨responderPath, hresponder⟩
  unfold readiness
  rw [sign_path hsign, hinitiator, ok_bind, hack, hresponder, ok_bind]
  exact ⟨_, rfl⟩

/-- The responder of the same Hello accepts the paths of the initiator. -/
theorem readiness_valid {client : V1Client} {target : ResolvedV1Device}
    {application : String} {greeting : Greeting} {ack : V1SignedAck}
    {now : UInt64} {reply : Reply} {ready : ProofControl}
    (hreply : signReply P client target application greeting ack now =
      Except.ok reply)
    (hready : readiness P target greeting reply = Except.ok ready) :
    validateProofControl P ready ack.claims.responderNonce greeting.hello
      greeting.senderRecord target.record = Except.ok () := by
  rcases signReply_eq_ok hreply with ⟨hack, _, hsign⟩
  unfold readiness at hready
  rw [sign_path hsign, hack] at hready
  simp only [bind_eq_ok, pure_eq_ok] at hready
  rcases hready with ⟨initiatorPath, hinitiator, responderPath, hresponder, rfl⟩
  unfold validateProofControl
  rw [rejectIf_of_not (by simp), ok_bind, hinitiator, ok_bind,
    rejectIf_of_not (by simp), ok_bind, hresponder, ok_bind]
  exact rejectIf_of_not (by simp)

/-- The confirmation of an honest responder is the frame it answers. -/
theorem confirmation_eq {client : V1Client} {target : ResolvedV1Device}
    {application : String} {greeting : Greeting} {ack : V1SignedAck}
    {now : UInt64} {reply : Reply} {ready : ProofControl} {answer : Answer}
    (hreply : signReply P client target application greeting ack now =
      Except.ok reply)
    (hready : readiness P target greeting reply = Except.ok ready)
    (hanswer : answer.challenge = ack.claims.responderNonce) :
    confirmation answer ready = ready := by
  rcases signReply_eq_ok hreply with ⟨hack, _, hsign⟩
  unfold readiness at hready
  simp only [bind_eq_ok, pure_eq_ok] at hready
  rcases hready with ⟨initiatorPath, _, responderPath, _, rfl⟩
  unfold confirmation
  rw [hanswer, hack]

/-!
# Observations
-/

/-- The scope of a canonical control key is a valid, unreserved scope. -/
structure LocatorScope (scope : String) : Prop where
  nonempty : scope ≠ ""
  bounded : scope.utf8ByteSize ≤ 128
  chars : scope.toList.all scopeChar = true
  unreserved : reservedScope scope = false

theorem locatorScope_z32 [P.Lawful] [P.ZBase32] (control : P.PublicKey) :
    LocatorScope ("v1:locator:" ++ P.z32 control) := by
  have hlist : ("v1:locator:" ++ P.z32 control).toList =
      "v1:locator:".toList ++ (P.z32 control).toList := String.toList_append
  have hmark : "v1:locator:".toList.all scopeChar = true := by decide
  have hchars : ("v1:locator:" ++ P.z32 control).toList.all scopeChar =
      true := by
    rw [hlist, List.all_append, hmark, Bool.true_and, List.all_eq_true]
    intro c hc
    exact scopeChar_of_z32 c (Primitives.ZBase32.z32_chars control c hc)
  constructor
  · intro hempty
    have hnil := congrArg String.toList hempty
    rw [hlist] at hnil
    cases hnil
  · have hmarkSize : "v1:locator:".utf8ByteSize = 11 := by decide
    rw [String.utf8ByteSize_append, z32_utf8ByteSize, hmarkSize]
    decide
  · exact hchars
  · unfold reservedScope
    rw [hlist]
    rfl

theorem recordObservation_exists [P.Lawful] [P.ZBase32]
    {record : V1DeviceRecord} {root control : P.PublicKey}
    (hidentity : record.certificate.claims.identity = P.z32 root)
    (hcontrol : record.certificate.claims.controlSigningKey = P.z32 control)
    (hsequence : record.locator.claims.sequence ≠ 0) :
    exists observation, recordObservation P record =
      Except.ok observation := by
  have hscope := locatorScope_z32 (P := P) control
  have hkey : stateKey P record.certificate.claims.identity
      ("v1:locator:" ++ record.certificate.claims.controlSigningKey) =
        Except.ok (record.certificate.claims.identity ++ ":" ++
          ("v1:locator:" ++ record.certificate.claims.controlSigningKey)) := by
    rw [hidentity, hcontrol]
    exact stateKey_eq_ok.mpr ⟨root, Primitives.Lawful.tryFromZ32_z32 root, rfl,
      hscope.nonempty, hscope.bounded, hscope.chars, rfl⟩
  have hunreserved : ¬ reservedScope
      ("v1:locator:" ++ record.certificate.claims.controlSigningKey) = true := by
    rw [hcontrol, hscope.unreserved]
    decide
  unfold recordObservation V1DeviceRecord.digest canonicalDigest
  dsimp only
  rw [Primitives.Lawful.base64Decode_encode]
  change exists observation, (Except.ok _ >>= _) = Except.ok observation
  rw [ok_bind, rejectIf_of_not (not_not.mpr rfl), ok_bind,
    dif_pos (Primitives.Lawful.sha256_length _)]
  unfold AuthenticatedSequenceObservation.new
  split
  · rename_i error herror
    rw [hkey] at herror
    cases herror
  · rw [dif_neg hunreserved, dif_neg hsequence]
    exact ⟨_, rfl⟩

end Client
end Pubky2Pubky
