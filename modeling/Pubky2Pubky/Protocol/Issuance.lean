import Pubky2Pubky.Protocol.Sizes

/-!
# Honest signers are not refused

Each signing function checks its own result before it returns it. With usable
inputs that check passes, and the result has the claims its inputs determine.
-/

namespace Pubky2Pubky
namespace Protocol

open Foundation

variable {P : Primitives}

/-!
# Credentials
-/

/-- The credential that two fresh keypairs and the `cnf` key make. -/
def V1DeviceCredential.issued (P : Primitives)
    (authorization : V1GrantAuthorization)
    (grant : V1GrantAuthorization.Claims P) (grantCnf : P.Keypair)
    (deviceId : String) (issuedAt expiresAt : UInt64)
    (control iroh : P.Keypair) : V1DeviceCredential :=
  let claims := V1DeviceCertificate.delegation P authorization grant deviceId
    (P.z32 (P.publicKey control)) (P.z32 (P.publicKey iroh)) issuedAt expiresAt
  { authorization := authorization
    certificate :=
      { claims := claims
        signature := encodeSignature P (P.sign grantCnf
          (canonicalForSigning P v1CertificateDomain claims.toJson)) }
    controlSigningSecret := P.base64Encode (P.secret control)
    irohSecret := P.base64Encode (P.secret iroh) }

section Signing

variable [P.Lawful]

theorem V1DeviceCredential.issued_controlKey
    (authorization : V1GrantAuthorization)
    (grant : V1GrantAuthorization.Claims P) (grantCnf : P.Keypair)
    (deviceId : String) (issuedAt expiresAt : UInt64)
    (control iroh : P.Keypair) :
    (issued P authorization grant grantCnf deviceId issuedAt expiresAt control
      iroh).controlKey P = Except.ok control :=
  decodeSecret_secret control _

theorem V1DeviceCredential.issued_verify {authorization : V1GrantAuthorization}
    {expectedIdentity deviceId : String}
    {grant : V1GrantAuthorization.Claims P} {grantCnf control iroh : P.Keypair}
    {issuedAt expiresAt : UInt64}
    (hgrant : authorization.verify P expectedIdentity issuedAt =
      Except.ok grant)
    (hcnf : P.publicKey grantCnf = grant.cnf)
    (hdevice : ¬ unusableText deviceId maxDeviceIdBytes)
    (hwindow : WindowOpen issuedAt expiresAt
      v1MaxDeviceCertificateLifetimeSeconds issuedAt)
    (hafter : grant.iat ≤ issuedAt) (hbefore : expiresAt ≤ grant.exp)
    (hkeys : [grant.iss, grant.cnf, P.publicKey control,
      P.publicKey iroh].Nodup) :
    (issued P authorization grant grantCnf deviceId issuedAt expiresAt control
      iroh).verify P issuedAt = Except.ok () := by
  rcases V1GrantAuthorization.verify_eq_ok.mp hgrant with ⟨hauth, hopen⟩
  simp only [List.nodup_cons, List.mem_cons, List.not_mem_nil, or_false, not_or,
    not_false_eq_true, List.nodup_nil, and_true] at hkeys
  rcases hkeys with ⟨⟨_, hrc, hri⟩, ⟨hcc, hci⟩, hcontrolIroh⟩
  have hidentity : P.z32 grant.iss = expectedIdentity := hauth.z32_iss
  have hsecret : (issued P authorization grant grantCnf deviceId issuedAt
      expiresAt control iroh).irohSecretKeyBytes P =
        Except.ok (P.secret iroh) := by
    have hdecode : decodeSecret P (P.base64Encode (P.secret iroh))
        (P.z32 (P.publicKey iroh)) "v1 iroh secret" = Except.ok iroh :=
      decodeSecret_secret iroh _
    change (decodeSecret P (P.base64Encode (P.secret iroh))
      (P.z32 (P.publicKey iroh)) "v1 iroh secret" >>= _) = _
    rw [hdecode]
    rfl
  rw [verify_eq_ok]
  refine ⟨?_, ⟨control, issued_controlKey _ _ _ _ _ _ _ _⟩, _, hsecret⟩
  rw [V1DeviceCertificate.verify_eq_ok]
  refine ⟨grant, ?_, hopen, hwindow⟩
  constructor
  · change V1GrantAuthorization.Authentic P authorization (P.z32 grant.iss) grant
    rw [hidentity]
    exact hauth
  · rfl
  · rfl
  · exact hdevice
  · exact validateDigest_canonicalDigest _ _ _
  · rfl
  · rfl
  · rfl
  · rfl
  · exact hafter
  · exact hbefore
  · exact ⟨P.publicKey control, P.publicKey iroh, parsePublicKey_z32 _,
      parsePublicKey_z32 _, hcontrolIroh, Ne.symm hrc, Ne.symm hcc,
      Ne.symm hri, Ne.symm hci⟩
  · exact parsePublicKey_z32 grant.cnf
  · rw [← hcnf]
    exact verifySignature_sign grantCnf _ _

/-- Issuing under an accepted Grant succeeds for four different keys. -/
theorem V1DeviceCredential.issue_succeeds {authorization : V1GrantAuthorization}
    {expectedIdentity deviceId : String}
    {grant : V1GrantAuthorization.Claims P} {grantCnf control iroh : P.Keypair}
    {issuedAt expiresAt : UInt64}
    (hgrant : authorization.verify P expectedIdentity issuedAt =
      Except.ok grant)
    (hcnf : P.publicKey grantCnf = grant.cnf)
    (hdevice : ¬ unusableText deviceId maxDeviceIdBytes)
    (hwindow : WindowOpen issuedAt expiresAt
      v1MaxDeviceCertificateLifetimeSeconds issuedAt)
    (hafter : grant.iat ≤ issuedAt) (hbefore : expiresAt ≤ grant.exp)
    (hkeys : [grant.iss, grant.cnf, P.publicKey control,
      P.publicKey iroh].Nodup) :
    issue P authorization expectedIdentity grantCnf deviceId issuedAt expiresAt
        control iroh =
      Except.ok (issued P authorization grant grantCnf deviceId issuedAt
        expiresAt control iroh) := by
  have hverify := issued_verify hgrant hcnf hdevice hwindow hafter hbefore hkeys
  unfold issue prepare finalize validateDeviceId
  simp only [bind_eq_ok, rejectIf_eq_ok, okOr_eq_ok, exists_unit, pure_eq_ok,
    validateBoundedWindow_eq_ok, not_or, UInt64.not_lt, gt_iff_lt, not_not]
  refine ⟨_, ⟨grant, hgrant, hdevice, hwindow, ⟨hafter, hbefore⟩, rfl⟩, ?_,
    _, Primitives.Lawful.signatureFromSlice_toBytes _, hverify, rfl⟩
  rw [hcnf]

/-!
# Locators and records
-/

/-- Locator claims with the signature of a control key. -/
def V1SignedLocator.sealed (P : Primitives) (key : P.Keypair)
    (claims : V1LocatorClaims) : V1SignedLocator :=
  { claims := claims
    signature := encodeSignature P
      (P.sign key (canonicalForSigning P v1LocatorDomain claims.toJson)) }

theorem v1DeviceRecordPath_z32 (cnf control : P.PublicKey) :
    v1DeviceRecordPath P (P.z32 cnf) (P.z32 control) =
      Except.ok (v1DeviceRecordPathPrefix ++
        canonicalDigest P v1DevicePathDomain (Json.object
          [("grant_cnf_key", Json.string (P.z32 cnf)),
           ("control_signing_key", Json.string (P.z32 control))]) ++ ".json") := by
  unfold v1DeviceRecordPath
  rw [parsePublicKey_z32, ok_bind, parsePublicKey_z32, ok_bind]
  rfl

/-- A signed record is little more than its Grant and the signed claims. -/
theorem V1DeviceRecord.sealed_size_le {record : V1DeviceRecord}
    {signature : P.Signature} {key : P.Keypair} {claims : V1LocatorClaims}
    (hcertificate : record.certificate.signature = encodeSignature P signature)
    (hlocator : record.locator = V1SignedLocator.sealed P key claims) :
    record.toJson.size ≤ 326 + Json.quotedSize record.authorization.grantJws +
      record.certificate.claims.toJson.size + claims.toJson.size := by
  have hrecord := record.size_le
  have hcertificateSize : record.certificate.toJson.size ≤
      record.certificate.claims.toJson.size + 113 := by
    unfold V1DeviceCertificate.toJson
    rw [hcertificate]
    exact signed_size_le _ _
  have hlocatorSize : record.locator.toJson.size ≤ claims.toJson.size + 113 := by
    rw [hlocator]
    exact signed_size_le _ _
  omega

theorem V1SignedLocator.signWithPolicy_succeeds {credential : V1DeviceCredential}
    {key : P.Keypair} {relayUrls : List Url} {instanceNonce : String}
    {sequence issuedAt expiresAt : UInt64} {allowLoopbackDev : Bool}
    (hcredential : credential.verify P issuedAt = Except.ok ())
    (hkey : credential.controlKey P = Except.ok key)
    (hnonce : validateChallenge P instanceNonce "v1 instance nonce" =
      Except.ok ())
    (hsequence : sequence ≠ 0)
    (hrelays : validateRelays P relayUrls allowLoopbackDev = Except.ok ())
    (hwindow : WindowOpen issuedAt expiresAt v1MaxLocatorLifetimeSeconds
      issuedAt)
    (hafter : credential.certificate.claims.issuedAt ≤ issuedAt)
    (hbefore : expiresAt ≤ credential.certificate.claims.expiresAt) :
    signWithPolicy P credential relayUrls instanceNonce sequence
        (issuedAt, expiresAt) allowLoopbackDev =
      Except.ok (V1SignedLocator.sealed P key (announcement P
        credential.authorization credential.certificate relayUrls instanceNonce
        sequence issuedAt expiresAt)) := by
  rcases V1DeviceCredential.verify_eq_ok.mp hcredential with ⟨hchain, _, _⟩
  rcases V1DeviceCertificate.verify_eq_ok.mp hchain with
    ⟨grant, hauth, hcurrent⟩
  let claims := announcement P credential.authorization credential.certificate
    relayUrls instanceNonce sequence issuedAt expiresAt
  have hbound : Bound P claims credential.authorization credential.certificate
      credential.identity allowLoopbackDev none grant :=
    { certificateAuthentic := hauth
      version := rfl
      identity := rfl
      grantDigestForm := validateDigest_canonicalDigest _ _ _
      certificateDigestForm := validateDigest_canonicalDigest _ _ _
      grantDigest := rfl
      certificateDigest := rfl
      controlSigningKey := rfl
      irohEndpointId := rfl
      alpn := rfl
      sequencePositive := hsequence
      sequenceFloor := rfl
      instanceNonce := hnonce
      relays := hrelays
      notBefore := hafter
      notAfter := hbefore }
  unfold signWithPolicy
  simp only [bind_eq_ok, exists_unit, pure_eq_ok]
  exact ⟨hcredential,
    validateClaims_eq_ok.mpr ⟨grant, hbound, hcurrent, hwindow⟩, key, hkey, rfl⟩

theorem V1DeviceRecord.announced_size_le {record : V1DeviceRecord}
    {expectedIdentity instanceNonce label : String}
    {grant : V1GrantAuthorization.Claims P} {signature : P.Signature}
    {key : P.Keypair} {relayUrls : List Url} {sequence issuedAt expiresAt : UInt64}
    (hauth : V1DeviceCertificate.Authentic P record.certificate
      record.authorization expectedIdentity grant)
    (hcertificate : record.certificate.signature = encodeSignature P signature)
    (hlocator : record.locator = V1SignedLocator.sealed P key
      (V1SignedLocator.announcement P record.authorization record.certificate
        relayUrls instanceNonce sequence issuedAt expiresAt))
    (hnonce : validateChallenge P instanceNonce label = Except.ok ()) :
    record.toJson.size ≤ 2226 + Json.quotedSize record.authorization.grantJws +
      Json.quotedSize grant.jti +
      Json.size (Json.array (relayUrls.map fun url => Json.string url.asStr)) := by
  have hrecord := sealed_size_le hcertificate hlocator
  have hclaims := hauth.claims_size_le
  have hannounced := V1SignedLocator.announcement_size_le record.authorization
    hauth.partySizes relayUrls hnonce sequence issuedAt expiresAt
  omega

/-- A locator that the credential has signed makes a record that fits. -/
theorem V1DeviceRecord.new_of_sign {credential : V1DeviceCredential}
    {locator : V1SignedLocator} {relayUrls : List Url} {instanceNonce : String}
    {sequence issuedAt expiresAt : UInt64} {allowLoopbackDev : Bool}
    (hcredential : credential.verify P issuedAt = Except.ok ())
    (hlocator : V1SignedLocator.signWithPolicy P credential relayUrls
      instanceNonce sequence (issuedAt, expiresAt) allowLoopbackDev =
        Except.ok locator)
    (hsize : (V1DeviceRecord.mk credential.authorization credential.certificate
      locator).toJson.size ≤ v1MaxDeviceRecordBytes) :
    V1DeviceRecord.new P credential locator issuedAt allowLoopbackDev =
      Except.ok { authorization := credential.authorization
                  certificate := credential.certificate
                  locator := locator } := by
  have hchain := (V1DeviceCredential.verify_eq_ok.mp hcredential).left
  have hverify := (V1SignedLocator.signWithPolicy_verify hlocator).right.right
  unfold V1DeviceRecord.new V1DeviceRecord.verify
  simp only [bind_eq_ok, exists_unit, pure_eq_ok]
  exact ⟨⟨ensureSerializedBound_eq_ok.mpr hsize, hchain, hverify⟩, trivial⟩

/-!
# Hellos
-/

theorem V1SignedHello.greeting_size_le {senderRecord targetRecord : V1DeviceRecord}
    (hfrom : PartySizes senderRecord.certificate.claims)
    (hto : PartySizes targetRecord.certificate.claims)
    (hrecord : senderRecord.toJson.size ≤ v1MaxDeviceRecordBytes)
    {application sessionNonce label : String}
    (happlication : validateApplication application = Except.ok ())
    (hnonce : validateChallenge P sessionNonce label = Except.ok ())
    (issuedAt expiresAt : UInt64) :
    Json.size (greeting P senderRecord targetRecord application sessionNonce
      issuedAt expiresAt).toJson ≤ v1MaxDeviceRecordBytes + 2000 := by
  have hfromId := hfrom.deviceId
  have htoId := hto.deviceId
  have happlicationSize := validateApplication_quotedSize happlication
  have hnonceSize := validateChallenge_quotedSize hnonce
  have hstart := instant_size issuedAt
  have hstop := instant_size expiresAt
  have hversion : Json.size (Json.number v1ProtocolVersion.toNat) = 1 := by
    decide
  have halpn : Json.quotedSize v1IrohAlpnText = 21 := by
    decide
  have hkeys : Json.keysSize
      ["version", "from_device_record", "from_identity", "from_device_id",
        "from_control_signing_key", "from_iroh_endpoint_id", "to_identity",
        "to_device_id", "to_control_signing_key", "to_iroh_endpoint_id",
        "application", "alpn", "session_nonce", "target_device_record_digest",
        "issued_at", "expires_at"] ≤ 320 := by
    decide
  have hmax : maxApplicationBytes = 128 := rfl
  refine Nat.le_trans (Json.size_object_le _) ?_
  simp only [greeting, V1DeviceRecord.digest, List.map_cons, List.map_nil,
    Json.valuesSize_cons, Json.valuesSize_nil, Json.size_string,
    canonicalDigest_quotedSize, hfrom.identity, hfrom.control, hfrom.iroh,
    hto.identity, hto.control, hto.iroh, halpn, hversion]
  omega

/-- Hello claims with the signature of a control key. -/
def V1SignedHello.sealed (P : Primitives) (key : P.Keypair)
    (claims : V1HelloClaims) : V1SignedHello :=
  { claims := claims
    signature := encodeSignature P
      (P.sign key (canonicalForSigning P v1HelloDomain claims.toJson)) }

theorem V1SignedHello.signWithPolicy_succeeds {credential : V1DeviceCredential}
    {key : P.Keypair} {senderRecord targetRecord : V1DeviceRecord}
    {application sessionNonce : String} {issuedAt expiresAt : UInt64}
    {allowLoopbackDev : Bool} (hholds : credential.Holds P senderRecord)
    (hkey : credential.controlKey P = Except.ok key)
    (hsender : senderRecord.verify P credential.identity issuedAt
      allowLoopbackDev none = Except.ok ())
    (htarget : targetRecord.verify P targetRecord.certificate.claims.identity
      issuedAt allowLoopbackDev none = Except.ok ())
    (hcontrol : senderRecord.certificate.claims.controlSigningKey ≠
      targetRecord.certificate.claims.controlSigningKey)
    (hiroh : senderRecord.certificate.claims.irohEndpointId ≠
      targetRecord.certificate.claims.irohEndpointId)
    (happlication : validateApplication application = Except.ok ())
    (hnonce : validateChallenge P sessionNonce "v1 session nonce" =
      Except.ok ())
    (hwindow : WindowOpen issuedAt expiresAt v1MaxHandshakeLifetimeSeconds
      issuedAt)
    (hafterSender : senderRecord.certificate.claims.issuedAt ≤ issuedAt)
    (hafterTarget : targetRecord.certificate.claims.issuedAt ≤ issuedAt)
    (hbeforeSender : expiresAt ≤ senderRecord.locator.claims.expiresAt)
    (hbeforeTarget : expiresAt ≤ targetRecord.locator.claims.expiresAt) :
    signWithPolicy P credential senderRecord targetRecord application
        sessionNonce (issuedAt, expiresAt) allowLoopbackDev =
      Except.ok (V1SignedHello.sealed P key (greeting P senderRecord
        targetRecord application sessionNonce issuedAt expiresAt)) := by
  rcases V1DeviceRecord.verify_eq_ok.mp hsender with
    ⟨senderGrant, hsenderAuth, hsenderCurrent⟩
  rcases V1DeviceRecord.verify_eq_ok.mp htarget with
    ⟨targetGrant, htargetAuth, htargetCurrent⟩
  have hidentity : senderRecord.certificate.claims.identity =
      credential.identity := by
    rw [hholds.certificate]
    rfl
  let claims := greeting P senderRecord targetRecord application sessionNonce
    issuedAt expiresAt
  let signature := P.sign key (canonicalForSigning P v1HelloDomain claims.toJson)
  have hsize : claims.toJson.size ≤ v1MaxDeviceRecordBytes + 2000 :=
    greeting_size_le hsenderAuth.certificateAuthentic.partySizes
      htargetAuth.certificateAuthentic.partySizes
      (ensureSerializedBound_eq_ok.mp hsenderAuth.bounded) happlication hnonce
      issuedAt expiresAt
  have hmax : v1MaxDeviceRecordBytes + 2113 ≤ v1MaxHelloBytes := by
    unfold v1MaxDeviceRecordBytes v1MaxHelloBytes
    omega
  have hfits : claims.toJson.size ≤ v1MaxHelloBytes :=
    Nat.le_trans hsize (Nat.le_trans (Nat.add_le_add_left (by decide) _) hmax)
  have hbound : Bound P claims senderRecord targetRecord application
      allowLoopbackDev senderGrant targetGrant :=
    { version := rfl
      bounded := ensureSerializedBound_eq_ok.mpr hfits
      fromDeviceRecord := rfl
      senderAuthentic := by
        change V1DeviceRecord.Authentic P senderRecord
          senderRecord.certificate.claims.identity allowLoopbackDev none
          senderGrant
        rw [hidentity]
        exact hsenderAuth
      targetAuthentic := htargetAuth
      fromDeviceId := rfl
      fromControlSigningKey := rfl
      fromIrohEndpointId := rfl
      toDeviceId := rfl
      toControlSigningKey := rfl
      toIrohEndpointId := rfl
      distinctControl := hcontrol
      distinctIroh := hiroh
      applicationForm := happlication
      application := rfl
      alpn := rfl
      sessionNonce := hnonce
      targetDigestForm := validateDigest_canonicalDigest _ _ _
      targetDigest := rfl
      afterSender := hafterSender
      afterTarget := hafterTarget
      beforeSender := UInt64.le_trans hbeforeSender
        hsenderAuth.locatorAuthentic.bound.notAfter
      beforeTarget := UInt64.le_trans hbeforeTarget
        htargetAuth.locatorAuthentic.bound.notAfter
      beforeSenderLocator := hbeforeSender
      beforeTargetLocator := hbeforeTarget }
  have hcore : validateCore P claims senderRecord targetRecord
      claims.application issuedAt allowLoopbackDev = Except.ok () :=
    validateCore_eq_ok.mpr ⟨senderGrant, targetGrant, hbound,
      hsenderCurrent, htargetCurrent, hwindow⟩
  unfold signWithPolicy
  simp only [bind_eq_ok, rejectIf_eq_ok, exists_unit, pure_eq_ok, not_or,
    not_not]
  rw [← hholds.certificate]
  refine ⟨⟨hholds.authorization, rfl⟩, hsender, htarget, hcore, key, hkey,
    ?_, rfl⟩
  rw [ensureSerializedBound_eq_ok]
  have hsigned := signed_size_le claims.toJson signature
  exact Nat.le_trans hsigned (by omega)

/-!
# Acknowledgements and proofs

The claims of an answer are bound when it starts no earlier and ends no later
than the Hello.
-/

theorem V1SignedAck.answer_bound {hello : V1SignedHello}
    {initiatorRecord responderRecord : V1DeviceRecord} {application : String}
    {allowLoopbackDev : Bool} {r issuedAt expiresAt : UInt64}
    {challenge : String}
    (hhello : hello.verify P initiatorRecord responderRecord application r
      allowLoopbackDev = Except.ok ())
    (hchallenge : validateChallenge P challenge "v1 responder nonce" =
      Except.ok ())
    (hfresh : challenge ≠ hello.claims.sessionNonce)
    (hissued : hello.claims.issuedAt ≤ issuedAt)
    (hend : expiresAt ≤ hello.claims.expiresAt) :
    Bound P (answer P hello initiatorRecord responderRecord challenge issuedAt
      expiresAt) hello initiatorRecord responderRecord := by
  rcases V1SignedHello.verify_eq_ok.mp hhello with ⟨_, _, hauth, _⟩
  have hb := hauth.bound
  exact
    { determined := rfl
      responderNonce := hchallenge
      freshNonce := hfresh
      helloDigestForm := validateDigest_canonicalDigest _ _ _
      recordDigestForm := validateDigest_canonicalDigest _ _ _
      afterHello := hissued
      beforeHello := hend
      afterResponder := UInt64.le_trans hb.afterTarget hissued
      afterInitiator := UInt64.le_trans hb.afterSender hissued
      beforeResponder := UInt64.le_trans hend hb.beforeTarget
      beforeInitiator := UInt64.le_trans hend hb.beforeSender }

theorem V1SignedCurrentnessProof.statement_bound {hello : V1SignedHello}
    {ownRecord : V1DeviceRecord} (role : V1CurrentnessRole)
    {issuedAt expiresAt : UInt64} {challenge : String}
    (hlocator : hello.claims.expiresAt ≤ ownRecord.locator.claims.expiresAt)
    (hchallenge : validateChallenge P challenge "v1 currentness challenge" =
      Except.ok ())
    (hfresh : challenge ≠ hello.claims.sessionNonce)
    (hissued : hello.claims.issuedAt ≤ issuedAt)
    (hend : expiresAt ≤ hello.claims.expiresAt) :
    Bound P (statement P ownRecord hello role challenge issuedAt expiresAt)
      ownRecord hello role challenge :=
  { determined := rfl
    challengeForm := hchallenge
    freshChallenge := hfresh
    helloDigestForm := validateDigest_canonicalDigest _ _ _
    recordDigestForm := validateDigest_canonicalDigest _ _ _
    grantDigestForm := validateDigest_canonicalDigest _ _ _
    locatorDigestForm := validateDigest_canonicalDigest _ _ _
    afterHello := hissued
    beforeHello := hend
    beforeLocator := UInt64.le_trans hend hlocator }

theorem V1SignedAck.signWithPolicy_succeeds {credential : V1DeviceCredential}
    {hello : V1SignedHello} {initiatorRecord responderRecord : V1DeviceRecord}
    {responderNonce : String} {issuedAt expiresAt : UInt64}
    {allowLoopbackDev : Bool} (hholds : credential.Holds P responderRecord)
    (hhello : hello.verify P initiatorRecord responderRecord
      hello.claims.application issuedAt allowLoopbackDev = Except.ok ())
    (hbound : Bound P (answer P hello initiatorRecord responderRecord
      responderNonce issuedAt expiresAt) hello initiatorRecord responderRecord)
    (hopen : WindowOpen issuedAt expiresAt v1MaxHandshakeLifetimeSeconds
      issuedAt) :
    exists ack, signWithPolicy P credential hello initiatorRecord responderRecord
      responderNonce (issuedAt, expiresAt) allowLoopbackDev = Except.ok ack := by
  rcases hholds.key with ⟨key, hkey⟩
  rcases V1SignedHello.verify_eq_ok.mp hhello with ⟨_, _, hauth, _⟩
  let claims := answer P hello initiatorRecord responderRecord responderNonce
    issuedAt expiresAt
  have hsize : claims.toJson.size ≤ 2000 :=
    answer_size_le hauth.bound.senderAuthentic.certificateAuthentic.partySizes
      hauth.bound.targetAuthentic.certificateAuthentic.partySizes
      hauth.bound.applicationForm hauth.bound.sessionNonce hbound.responderNonce
      issuedAt expiresAt
  let signature := P.sign key (canonicalForSigning P v1AckDomain claims.toJson)
  exists { claims := claims, signature := encodeSignature P signature }
  unfold signWithPolicy
  simp only [bind_eq_ok, rejectIf_eq_ok, exists_unit, pure_eq_ok, not_or,
    not_not]
  refine ⟨⟨hholds.authorization, hholds.certificate⟩, hhello, ?_, key, hkey,
    ?_, rfl⟩
  · exact validateClaims_eq_ok.mpr
      ⟨hhello, hholds.certificate.symm, hbound, hopen⟩
  · rw [ensureSerializedBound_eq_ok]
    have hmax : v1MaxAckBytes = 8192 := rfl
    have hsigned := signed_size_le claims.toJson signature
    exact Nat.le_trans hsigned (by omega)

theorem V1SignedCurrentnessProof.sign_succeeds {credential : V1DeviceCredential}
    {ownRecord peerRecord : V1DeviceRecord} {hello : V1SignedHello}
    {role : V1CurrentnessRole} {challenge : String}
    {issuedAt expiresAt : UInt64} {allowLoopbackDev : Bool}
    (hholds : credential.Holds P ownRecord)
    (hhello : HelloAccepted P hello role ownRecord peerRecord allowLoopbackDev
      issuedAt)
    (hbound : Bound P (statement P ownRecord hello role challenge issuedAt
      expiresAt) ownRecord hello role challenge)
    (hlive : LiveWindow issuedAt expiresAt issuedAt) :
    exists proof, sign P credential ownRecord peerRecord hello role challenge
      issuedAt expiresAt allowLoopbackDev = Except.ok proof := by
  rcases hholds.key with ⟨key, hkey⟩
  let claims := statement P ownRecord hello role challenge issuedAt expiresAt
  have hsize : claims.toJson.size ≤ 2000 :=
    statement_size_le ownRecord hello role hbound.challengeForm issuedAt
      expiresAt
  let signature :=
    P.sign key (canonicalForSigning P v1CurrentnessDomain claims.toJson)
  exists { claims := claims, signature := encodeSignature P signature }
  unfold sign
  simp only [bind_eq_ok, rejectIf_eq_ok, exists_unit, pure_eq_ok, not_or,
    not_not]
  refine ⟨⟨hholds.authorization, hholds.certificate⟩, hhello, ?_, key, hkey,
    ?_, rfl⟩
  · exact validateClaims_eq_ok.mpr ⟨hhello, hbound, hlive⟩
  · rw [ensureSerializedBound_eq_ok]
    have hmax : v1MaxCurrentnessProofBytes = 4096 := rfl
    have hsigned := signed_size_le claims.toJson signature
    exact Nat.le_trans hsigned (by omega)

end Signing

end Protocol
end Pubky2Pubky
