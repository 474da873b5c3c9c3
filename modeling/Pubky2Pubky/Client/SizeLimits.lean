import Pubky2Pubky.Protocol.SizeErrors
import Pubky2Pubky.Client.Framing
import Pubky2Pubky.Client.StoragePaths

/-!
# Size limits of a handshake

A record of 32 KiB travels inside a Hello of 48 KiB, and the answers only carry
its keys and digests. Every object of a handshake between accepted records is
within its own limit, so the limits never stop a handshake.
-/

namespace Pubky2Pubky
namespace Client

open Foundation Protocol

/-- The refusals of a handshake that are about a size. -/
def SizeRefusal (error : ClientError) : Prop :=
  (exists refused, SizeError refused ∧ error = ClientError.protocol refused) ∨
    error = ClientError.iroh "v1 QUIC control message exceeds byte limit"

theorem fromProtocol_avoids {α : Type} {result : Result α}
    (h : Avoids SizeError result) : Avoids SizeRefusal (fromProtocol result) := by
  cases result with
  | ok a => exact avoids_ok
  | error refused =>
      show Avoids SizeRefusal (Except.error (ClientError.protocol refused))
      rw [avoids_error]
      intro hrefusal
      rcases hrefusal with ⟨other, hsize, hother⟩ | hother
      · cases hother
        exact h refused rfl hsize
      · cases hother

/-- A text within its limit, which `write_json` therefore writes. -/
structure WithinLimit (P : Primitives) (value : Json) (max : Nat) : Prop where
  bytes : (P.jsonToVec value).length ≤ max
  written (stream : Bytes) :
    exists sent, writeJson P stream value max = Except.ok sent

section Lawful

variable {P : Primitives} [P.Lawful]

theorem jsonToVec_length_le {value : Json} {max : Nat} (h : value.size ≤ max) :
    (P.jsonToVec value).length ≤ max := by
  rw [Primitives.Lawful.jsonToVec_length]
  exact h

theorem WithinLimit.of_size {value : Json} {max : Nat} (h : value.size ≤ max)
    (hmax : max < 2 ^ 32) : WithinLimit P value max := by
  have hbytes := jsonToVec_length_le (P := P) h
  refine ⟨hbytes, ?_⟩
  intro stream
  have hfits : ¬ (P.jsonToVec value).length > max := Nat.not_lt.mpr hbytes
  have hframe : ¬ 2 ^ 32 ≤ (P.jsonToVec value).length :=
    Nat.not_le.mpr (Nat.lt_of_le_of_lt hbytes hmax)
  unfold writeJson Control.writeBytes writeFrame
  rw [rejectIf_of_not hfits, ok_bind, rejectIf_of_not hframe, ok_bind]
  exact ⟨_, rfl⟩

/-!
# Proof controls
-/

theorem currentnessPath_quotedSize {role : V1CurrentnessRole}
    {challenge path : String} {hello : V1SignedHello} {record : V1DeviceRecord}
    (h : currentnessPath P role challenge hello record = Except.ok path) :
    validateChallenge P challenge "v1 currentness challenge" = Except.ok () ∧
      Json.quotedSize path ≤ 100 := by
  unfold currentnessPath at h
  rw [fromProtocol_eq_ok] at h
  have hpath := v1CurrentnessPath_eq_ok h
  unfold v1CurrentnessPath at h
  simp only [bind_eq_ok, exists_unit] at h
  refine ⟨h.left, ?_⟩
  rcases digest_bytes (P := P) (DigestInput.currentnessPath role challenge
    (hello.digest P) (record.digest P) (record.authorization.digest P)
    (record.locator.digest P)) with ⟨bytes, hlength, hdigest⟩
  have hleading : v1CurrentnessPathPrefix.toList.all Json.plainChar = true := by
    decide
  have hextension : ".json".toList.all Json.plainChar = true := by decide
  have hchars : path.toList = v1CurrentnessPathPrefix.toList ++
      (P.base64Encode bytes).toList ++ ".json".toList := by
    rw [hpath, hdigest, String.toList_append, String.toList_append]
  have hplain : path.toList.all Json.plainChar = true := by
    rw [hchars, List.all_append, List.all_append, hleading, hextension,
      Primitives.Lawful.base64Encode_plain bytes]
    rfl
  have hprefix : v1CurrentnessPathPrefix.toList.length = 32 := by decide
  have hsuffix : ".json".toList.length = 5 := by decide
  rw [Json.quotedSize_plain hplain, hchars, List.length_append,
    List.length_append, Primitives.Lawful.base64Encode_length, hlength, hprefix,
    hsuffix]
  decide

/-- A control frame whose paths belong to its challenge is short. -/
theorem ProofControl.size_le {control : ProofControl} {challenge : String}
    {hello : V1SignedHello} {initiatorRecord responderRecord : V1DeviceRecord}
    (h : validateProofControl P control challenge hello initiatorRecord
      responderRecord = Except.ok ()) :
    control.toJson.size ≤ maxProofControlBytes := by
  unfold validateProofControl at h
  simp only [bind_eq_ok, rejectIf_eq_ok, exists_unit, not_or, not_not] at h
  rcases h with ⟨⟨hversion, hchallenge⟩, initiatorPath, hinitiator, hfirst,
    responderPath, hresponder, hsecond⟩
  rcases currentnessPath_quotedSize hinitiator with ⟨hvalid, hinitiatorSize⟩
  have hresponderSize := (currentnessPath_quotedSize hresponder).right
  have hchallengeSize := validateChallenge_quotedSize hvalid
  have hkeys : Json.keysSize
      ["version", "challenge", "initiator_proof_path",
        "responder_proof_path"] ≤ 100 := by
    decide
  have hnumber : Json.size (Json.number v1ProtocolVersion.toNat) = 1 := by
    decide
  have hmax : maxProofControlBytes = 4096 := rfl
  refine Nat.le_trans (Json.size_object_le _) ?_
  simp only [List.map_cons, List.map_nil, Json.valuesSize_cons,
    Json.valuesSize_nil, Json.size_string, hversion, hnumber, hchallenge,
    hfirst, hsecond]
  omega

/-- The control frames that the two sides write are within their limit. -/
structure ControlsFit (P : Primitives) : Prop where
  ready {client : V1Client} {device : ResolvedV1Device} {application : String}
    {greeting : Greeting} {ack : V1SignedAck} {now : UInt64} {reply : Reply}
    {control : ProofControl} :
    signReply P client device application greeting ack now = Except.ok reply ->
    readiness P device greeting reply = Except.ok control ->
    WithinLimit P control.toJson maxProofControlBytes
  confirmed {answer : Answer} {ready : ProofControl} {hello : V1SignedHello}
    {initiatorRecord responderRecord : V1DeviceRecord} :
    validateProofControl P ready answer.challenge hello initiatorRecord
      responderRecord = Except.ok () ->
    WithinLimit P (confirmation answer ready).toJson maxProofControlBytes

theorem controlsFit : ControlsFit P := by
  constructor
  · intro client device application greeting ack now reply control hreply hready
    exact WithinLimit.of_size
      (ProofControl.size_le (readiness_valid hreply hready)) (by decide)
  · intro answer ready hello initiatorRecord responderRecord hvalid
    have hsame : confirmation answer ready = ready := by
      unfold validateProofControl at hvalid
      simp only [bind_eq_ok, rejectIf_eq_ok, exists_unit, not_or, not_not]
        at hvalid
      rcases hvalid with ⟨⟨hversion, hchallenge⟩, _⟩
      cases ready
      cases hversion
      cases hchallenge
      rfl
    rw [hsame]
    exact WithinLimit.of_size (ProofControl.size_le hvalid) (by decide)

/-!
# Answers to one Hello
-/

/-- The limits of everything that answers a Hello between two records. -/
structure AnswersFit (P : Primitives) (senderRecord targetRecord : V1DeviceRecord)
    (hello : V1SignedHello) : Prop where
  ackClaims {responderNonce : String} (issuedAt expiresAt : UInt64) :
    validateChallenge P responderNonce "v1 responder nonce" = Except.ok () ->
    (P.jsonToVec (V1SignedAck.answer P hello senderRecord targetRecord
      responderNonce issuedAt expiresAt).toJson).length ≤ v1MaxAckBytes
  ackText {responderNonce : String} (issuedAt expiresAt : UInt64)
    (signature : P.Signature) :
    validateChallenge P responderNonce "v1 responder nonce" = Except.ok () ->
    WithinLimit P (V1SignedAck.toJson
      { claims := V1SignedAck.answer P hello senderRecord targetRecord
          responderNonce issuedAt expiresAt
        signature := encodeSignature P signature }) v1MaxAckBytes
  signAck (credential : V1DeviceCredential) (responderNonce : String)
    (validity : UInt64 × UInt64) (allowLoopbackDev : Bool) :
    Avoids SizeError (V1SignedAck.signWithPolicy P credential hello senderRecord
      targetRecord responderNonce validity allowLoopbackDev)
  ack {credential : V1DeviceCredential} {responderNonce : String}
    {validity : UInt64 × UInt64} {allowLoopbackDev : Bool} {ack : V1SignedAck} :
    V1SignedAck.signWithPolicy P credential hello senderRecord targetRecord
      responderNonce validity allowLoopbackDev = Except.ok ack ->
    WithinLimit P ack.toJson v1MaxAckBytes ∧
      forall (responderRecord initiatorRecord : V1DeviceRecord)
        (expectedApplication : String) (now : UInt64) (allowLoopbackDev : Bool),
        Avoids SizeError (ack.verify P responderRecord initiatorRecord hello
          expectedApplication now allowLoopbackDev)
  proofClaims {challenge : String} (ownRecord : V1DeviceRecord)
    (role : V1CurrentnessRole) (issuedAt expiresAt : UInt64) :
    validateChallenge P challenge "v1 currentness challenge" = Except.ok () ->
    (P.jsonToVec (V1SignedCurrentnessProof.statement P ownRecord hello role
      challenge issuedAt expiresAt).toJson).length ≤ v1MaxCurrentnessProofBytes
  proofText {challenge : String} (ownRecord : V1DeviceRecord)
    (role : V1CurrentnessRole) (issuedAt expiresAt : UInt64)
    (signature : P.Signature) :
    validateChallenge P challenge "v1 currentness challenge" = Except.ok () ->
    WithinLimit P (V1SignedCurrentnessProof.toJson
      { claims := V1SignedCurrentnessProof.statement P ownRecord hello role
          challenge issuedAt expiresAt
        signature := encodeSignature P signature }) v1MaxCurrentnessProofBytes
  signProof (credential : V1DeviceCredential)
    (ownRecord peerRecord : V1DeviceRecord) (role : V1CurrentnessRole)
    (challenge : String) (issuedAt expiresAt : UInt64)
    (allowLoopbackDev : Bool) :
    Avoids SizeError (V1SignedCurrentnessProof.sign P credential ownRecord
      peerRecord hello role challenge issuedAt expiresAt allowLoopbackDev)
  proof {credential : V1DeviceCredential} {ownRecord peerRecord : V1DeviceRecord}
    {role : V1CurrentnessRole} {challenge : String} {issuedAt expiresAt : UInt64}
    {allowLoopbackDev : Bool} {proof : V1SignedCurrentnessProof} :
    V1SignedCurrentnessProof.sign P credential ownRecord peerRecord hello role
      challenge issuedAt expiresAt allowLoopbackDev = Except.ok proof ->
    (P.jsonToVec proof.toJson).length ≤ v1MaxCurrentnessProofBytes ∧
      forall (ownRecord peerRecord : V1DeviceRecord)
        (expectedRole : V1CurrentnessRole) (expectedChallenge : String)
        (now : UInt64) (allowLoopbackDev : Bool),
        Avoids SizeError (proof.verify P ownRecord peerRecord hello expectedRole
          expectedChallenge now allowLoopbackDev)

theorem answersFit {senderRecord targetRecord : V1DeviceRecord}
    {hello : V1SignedHello} (hhello : hello.Fits)
    (hfrom : PartySizes senderRecord.certificate.claims)
    (hto : PartySizes targetRecord.certificate.claims)
    (happlication : Protocol.validateApplication hello.claims.application = Except.ok ())
    (hnonce : validateChallenge P hello.claims.sessionNonce "v1 session nonce" =
      Except.ok ()) :
    AnswersFit P senderRecord targetRecord hello := by
  constructor
  · intro responderNonce issuedAt expiresAt hresponder
    exact jsonToVec_length_le (Nat.le_trans (Nat.le_add_right _ 113)
      (V1SignedAck.answer_fits hfrom hto happlication hnonce hresponder issuedAt
        expiresAt))
  · intro responderNonce issuedAt expiresAt signature hresponder
    exact WithinLimit.of_size (Nat.le_trans (signed_size_le _ _)
      (V1SignedAck.answer_fits hfrom hto happlication hnonce hresponder issuedAt
        expiresAt)) (by decide)
  · intro credential responderNonce validity allowLoopbackDev
    exact V1SignedAck.signWithPolicy_avoids hhello credential senderRecord
      targetRecord responderNonce validity allowLoopbackDev
  · intro credential responderNonce validity allowLoopbackDev ack hsigned
    rcases V1SignedAck.signWithPolicy_verify hsigned with ⟨_, _, _, hverified⟩
    have hsize : ack.toJson.size ≤ v1MaxAckBytes := by
      unfold V1SignedAck.verify at hverified
      simp only [bind_eq_ok, exists_unit] at hverified
      exact ensureSerializedBound_eq_ok.mp hverified.left
    exact ⟨WithinLimit.of_size hsize (by decide),
      V1SignedAck.verify_avoids hsize hhello⟩
  · intro challenge ownRecord role issuedAt expiresAt hchallenge
    exact jsonToVec_length_le (Nat.le_trans (Nat.le_add_right _ 113)
      (V1SignedCurrentnessProof.statement_fits ownRecord hello role hchallenge
        issuedAt expiresAt))
  · intro challenge ownRecord role issuedAt expiresAt signature hchallenge
    exact WithinLimit.of_size (Nat.le_trans (signed_size_le _ _)
      (V1SignedCurrentnessProof.statement_fits ownRecord hello role hchallenge
        issuedAt expiresAt)) (by decide)
  · exact V1SignedCurrentnessProof.sign_avoids hhello
  · intro credential ownRecord peerRecord role challenge issuedAt expiresAt
      allowLoopbackDev proof hsigned
    rcases V1SignedCurrentnessProof.sign_verify hsigned with ⟨_, _, hverified⟩
    have hsize : proof.toJson.size ≤ v1MaxCurrentnessProofBytes := by
      unfold V1SignedCurrentnessProof.verify at hverified
      simp only [bind_eq_ok, exists_unit] at hverified
      exact ensureSerializedBound_eq_ok.mp hverified.left
    exact ⟨jsonToVec_length_le hsize,
      V1SignedCurrentnessProof.verify_avoids hsize hhello⟩

/-!
# A whole handshake
-/

/-- The limits of a handshake from one record to another. -/
structure HandshakeFits (P : Primitives)
    (senderRecord targetRecord : V1DeviceRecord)
    (application sessionNonce : String) : Prop where
  helloClaims (issuedAt expiresAt : UInt64) :
    (P.jsonToVec (V1SignedHello.greeting P senderRecord targetRecord application
      sessionNonce issuedAt expiresAt).toJson).length ≤ v1MaxHelloBytes
  helloText (issuedAt expiresAt : UInt64) (signature : P.Signature) :
    WithinLimit P (V1SignedHello.toJson
      { claims := V1SignedHello.greeting P senderRecord targetRecord application
          sessionNonce issuedAt expiresAt
        signature := encodeSignature P signature }) v1MaxHelloBytes
  signHello (credential : V1DeviceCredential) (validity : UInt64 × UInt64)
    (allowLoopbackDev : Bool) :
    Avoids SizeError (V1SignedHello.signWithPolicy P credential senderRecord
      targetRecord application sessionNonce validity allowLoopbackDev)
  hello {credential : V1DeviceCredential} {validity : UInt64 × UInt64}
    {allowLoopbackDev : Bool} {hello : V1SignedHello} :
    V1SignedHello.signWithPolicy P credential senderRecord targetRecord
      application sessionNonce validity allowLoopbackDev = Except.ok hello ->
    WithinLimit P hello.toJson v1MaxHelloBytes ∧
      (forall (senderRecord targetRecord : V1DeviceRecord)
        (expectedApplication : String) (now : UInt64) (allowLoopbackDev : Bool),
        Avoids SizeError (hello.verify P senderRecord targetRecord
          expectedApplication now allowLoopbackDev)) ∧
      AnswersFit P senderRecord targetRecord hello
  controls : ControlsFit P
  dial (client : V1Client) (active : ActiveRecords) (device : ResolvedV1Device)
    (now : UInt64) (random : P.Keypair) :
    Avoids SizeRefusal (signGreeting P client active device application now
      random)

theorem signGreeting_avoids {application : String}
    (happlication : Protocol.validateApplication application = Except.ok ())
    (client : V1Client) (active : ActiveRecords) (device : ResolvedV1Device)
    (now : UInt64) (random : P.Keypair) :
    Avoids SizeRefusal (signGreeting P client active device application now
      random) := by
  have hnonce : validateChallenge P (v1RandomChallenge P random)
      "v1 session nonce" = Except.ok () :=
    validateChallenge_v1RandomChallenge random _
  have hother {error : ClientError}
      (hprotocol : forall refused, error ≠ ClientError.protocol refused)
      (hlimit : error ≠ ClientError.iroh
        "v1 QUIC control message exceeds byte limit") :
      ¬ SizeRefusal error := by
    intro hrefusal
    rcases hrefusal with ⟨refused, _, hrefused⟩ | hrefused
    · exact hprotocol refused hrefused
    · exact hlimit hrefused
  unfold signGreeting
  dsimp only
  rw [avoids_bind, avoids_okOr]
  refine ⟨fun _ => hother nofun nofun, ?_⟩
  intro senderRecord _
  rw [avoids_bind, avoids_rejectIf]
  refine ⟨fun _ => hother nofun nofun, ?_⟩
  intro _ _
  rw [avoids_bind]
  refine ⟨?_, fun _ _ => avoids_pure⟩
  apply fromProtocol_avoids
  split
  · exact V1SignedHello.signWithPolicy_avoids happlication hnonce _ _ _ _ true
  · exact V1SignedHello.signWithPolicy_avoids happlication hnonce _ _ _ _ false

/-- No handshake between accepted records meets the limit of any of its objects. -/
theorem size_limits_compose {senderRecord targetRecord : V1DeviceRecord}
    {senderIdentity targetIdentity : String} {senderTime targetTime : UInt64}
    {senderLoopback targetLoopback : Bool}
    {senderFloor targetFloor : Option UInt64}
    (hsender : senderRecord.verify P senderIdentity senderTime senderLoopback
      senderFloor = Except.ok ())
    (htarget : targetRecord.verify P targetIdentity targetTime targetLoopback
      targetFloor = Except.ok ())
    {application sessionNonce : String}
    (happlication : Protocol.validateApplication application = Except.ok ())
    (hnonce : validateChallenge P sessionNonce "v1 session nonce" =
      Except.ok ()) :
    HandshakeFits P senderRecord targetRecord application sessionNonce := by
  rcases V1DeviceRecord.verify_eq_ok.mp hsender with ⟨_, hsenderAuth, _⟩
  rcases V1DeviceRecord.verify_eq_ok.mp htarget with ⟨_, htargetAuth, _⟩
  have hfrom := hsenderAuth.certificateAuthentic.partySizes
  have hto := htargetAuth.certificateAuthentic.partySizes
  have hrecord : senderRecord.toJson.size ≤ v1MaxDeviceRecordBytes :=
    ensureSerializedBound_eq_ok.mp hsenderAuth.bounded
  constructor
  · intro issuedAt expiresAt
    exact jsonToVec_length_le (Nat.le_trans (Nat.le_add_right _ 113)
      (V1SignedHello.greeting_fits hfrom hto hrecord happlication hnonce issuedAt
        expiresAt))
  · intro issuedAt expiresAt signature
    exact WithinLimit.of_size (Nat.le_trans (signed_size_le _ _)
      (V1SignedHello.greeting_fits hfrom hto hrecord happlication hnonce issuedAt
        expiresAt)) (by decide)
  · intro credential validity allowLoopbackDev
    exact V1SignedHello.signWithPolicy_avoids happlication hnonce credential
      senderRecord targetRecord validity allowLoopbackDev
  · intro credential validity allowLoopbackDev hello hsigned
    rcases V1SignedHello.signWithPolicy_verify hsigned with ⟨_, _, hverified⟩
    rcases V1SignedHello.verify_eq_ok.mp hverified with ⟨_, _, hauth, _⟩
    have hfits := V1SignedHello.Fits.of_verify hverified
    exact ⟨WithinLimit.of_size hfits.text (by decide), hfits.verify_avoids,
      answersFit hfits hfrom hto hauth.bound.applicationForm
        hauth.bound.sessionNonce⟩
  · exact controlsFit
  · exact signGreeting_avoids happlication

end Lawful

/-- The laptop's Hello to the phone is written whole. -/
theorem size_limits_compose_sample :
    WithinLimit Reference.sample Reference.hello.toJson v1MaxHelloBytes := by
  have hlaptop : Reference.laptop.record.verify Reference.sample
      Reference.identity 1000 false none = Except.ok () :=
    Reference.laptop.record_verify (by decide) (by decide)
  have hphone : Reference.phone.record.verify Reference.sample
      Reference.identity 1500 false none = Except.ok () :=
    Reference.phone.record_verify (by decide) (by decide)
  exact ((size_limits_compose hlaptop hphone (rejectIf_of_not (by decide))
    (validateChallenge_v1RandomChallenge _ _)).hello Reference.hello_sign).left

end Client
end Pubky2Pubky
