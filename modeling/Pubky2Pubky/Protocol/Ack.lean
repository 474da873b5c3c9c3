import Pubky2Pubky.Protocol.Hello

/-!
# Acknowledgements

The responder answers one exact Hello. An Ack copies the application and the
initiator's nonce, adds its own nonce, and binds the Hello and its own record by
digest.
-/

namespace Pubky2Pubky
namespace Protocol

open Foundation

def v1MaxAckBytes : Nat := 8 * 1024

def v1AckDomain : String := "pubky2pubky/ack/v1"

@[ext]
structure V1AckClaims where
  version : UInt16
  fromIdentity : String
  fromDeviceId : String
  fromControlSigningKey : String
  fromIrohEndpointId : String
  toIdentity : String
  toDeviceId : String
  toControlSigningKey : String
  toIrohEndpointId : String
  application : String
  alpn : String
  sessionNonce : String
  responderNonce : String
  helloDigest : String
  responderDeviceRecordDigest : String
  issuedAt : UInt64
  expiresAt : UInt64
  deriving DecidableEq

def V1AckClaims.toJson (self : V1AckClaims) : Json :=
  Json.object
    [("version", Json.number self.version.toNat),
     ("from_identity", Json.string self.fromIdentity),
     ("from_device_id", Json.string self.fromDeviceId),
     ("from_control_signing_key", Json.string self.fromControlSigningKey),
     ("from_iroh_endpoint_id", Json.string self.fromIrohEndpointId),
     ("to_identity", Json.string self.toIdentity),
     ("to_device_id", Json.string self.toDeviceId),
     ("to_control_signing_key", Json.string self.toControlSigningKey),
     ("to_iroh_endpoint_id", Json.string self.toIrohEndpointId),
     ("application", Json.string self.application),
     ("alpn", Json.string self.alpn),
     ("session_nonce", Json.string self.sessionNonce),
     ("responder_nonce", Json.string self.responderNonce),
     ("hello_digest", Json.string self.helloDigest),
     ("responder_device_record_digest",
       Json.string self.responderDeviceRecordDigest),
     ("issued_at", Json.number self.issuedAt.toNat),
     ("expires_at", Json.number self.expiresAt.toNat)]

structure V1SignedAck where
  claims : V1AckClaims
  signature : String
  deriving DecidableEq

namespace V1SignedAck

variable (P : Primitives)

def toJson (self : V1SignedAck) : Json :=
  Json.object
    [("claims", self.claims.toJson), ("signature", Json.string self.signature)]

def validateClaims (claims : V1AckClaims)
    (responderCertificate : V1DeviceCertificate)
    (initiatorRecord responderRecord : V1DeviceRecord) (hello : V1SignedHello)
    (expectedApplication : String) (now : UInt64) (allowLoopbackDev : Bool) :
    Result Unit := do
  rejectIf (claims.version ≠ v1ProtocolVersion)
    (ProtocolError.unsupportedVersion claims.version)
  hello.verifyCore P initiatorRecord responderRecord expectedApplication now
    allowLoopbackDev
  rejectIf (responderCertificate ≠ responderRecord.certificate)
    ProtocolError.deviceMismatch
  let responder := responderRecord.certificate.claims
  let initiator := initiatorRecord.certificate.claims
  rejectIf (claims.fromIdentity ≠ responder.identity ∨
      claims.toIdentity ≠ initiator.identity)
    ProtocolError.identityMismatch
  rejectIf (claims.fromDeviceId ≠ responder.deviceId ∨
      claims.fromControlSigningKey ≠ responder.controlSigningKey ∨
      claims.fromIrohEndpointId ≠ responder.irohEndpointId ∨
      claims.toDeviceId ≠ initiator.deviceId ∨
      claims.toControlSigningKey ≠ initiator.controlSigningKey ∨
      claims.toIrohEndpointId ≠ initiator.irohEndpointId)
    ProtocolError.deviceMismatch
  validateApplication claims.application
  rejectIf (claims.application ≠ expectedApplication ∨
      claims.application ≠ hello.claims.application)
    (ProtocolError.invalidEncoding "v1 application binding")
  rejectIf (claims.alpn ≠ v1IrohAlpnText ∨ claims.alpn ≠ hello.claims.alpn)
    (ProtocolError.invalidEncoding "v1 ALPN")
  validateChallenge P claims.sessionNonce "v1 session nonce"
  validateChallenge P claims.responderNonce "v1 responder nonce"
  rejectIf (claims.sessionNonce ≠ hello.claims.sessionNonce ∨
      claims.responderNonce = claims.sessionNonce)
    (ProtocolError.invalidEncoding "v1 nonce binding")
  validateDigest P claims.helloDigest "v1 Hello digest"
  validateDigest P claims.responderDeviceRecordDigest
    "v1 responder device digest"
  rejectIf (claims.helloDigest ≠ hello.digest P ∨
      claims.responderDeviceRecordDigest ≠ responderRecord.digest P)
    ProtocolError.deviceMismatch
  validateBoundedWindow claims.issuedAt claims.expiresAt now
    v1MaxHandshakeLifetimeSeconds "v1 Ack lifetime"
  rejectIf (claims.issuedAt < hello.claims.issuedAt ∨
      claims.expiresAt > hello.claims.expiresAt ∨
      claims.issuedAt < responder.issuedAt ∨
      claims.issuedAt < initiator.issuedAt ∨
      claims.expiresAt > responder.expiresAt ∨
      claims.expiresAt > initiator.expiresAt)
    ProtocolError.invalidTimeWindow

/-- The claims a responder builds for one Hello. -/
def answer (hello : V1SignedHello)
    (initiatorRecord responderRecord : V1DeviceRecord) (responderNonce : String)
    (issuedAt expiresAt : UInt64) : V1AckClaims :=
  let responder := responderRecord.certificate.claims
  let initiator := initiatorRecord.certificate.claims
  { version := v1ProtocolVersion
    fromIdentity := responder.identity
    fromDeviceId := responder.deviceId
    fromControlSigningKey := responder.controlSigningKey
    fromIrohEndpointId := responder.irohEndpointId
    toIdentity := initiator.identity
    toDeviceId := initiator.deviceId
    toControlSigningKey := initiator.controlSigningKey
    toIrohEndpointId := initiator.irohEndpointId
    application := hello.claims.application
    alpn := v1IrohAlpnText
    sessionNonce := hello.claims.sessionNonce
    responderNonce := responderNonce
    helloDigest := hello.digest P
    responderDeviceRecordDigest := responderRecord.digest P
    issuedAt := issuedAt
    expiresAt := expiresAt }

def signWithPolicy (credential : V1DeviceCredential) (hello : V1SignedHello)
    (initiatorRecord responderRecord : V1DeviceRecord) (responderNonce : String)
    (validity : UInt64 × UInt64) (allowLoopbackDev : Bool) :
    Result V1SignedAck := do
  let (issuedAt, expiresAt) := validity
  rejectIf (responderRecord.authorization ≠ credential.authorization ∨
      responderRecord.certificate ≠ credential.certificate)
    ProtocolError.deviceMismatch
  hello.verify P initiatorRecord responderRecord hello.claims.application
    issuedAt allowLoopbackDev
  let claims := answer P hello initiatorRecord responderRecord responderNonce
    issuedAt expiresAt
  validateClaims P claims credential.certificate initiatorRecord responderRecord
    hello claims.application issuedAt allowLoopbackDev
  let key <- credential.controlKey P
  let signature :=
    P.sign key (canonicalForSigning P v1AckDomain claims.toJson)
  let ack : V1SignedAck :=
    { claims := claims, signature := encodeSignature P signature }
  ensureSerializedBound P ack.toJson v1MaxAckBytes "v1 Ack size"
  pure ack

def sign (credential : V1DeviceCredential) (hello : V1SignedHello)
    (initiatorRecord responderRecord : V1DeviceRecord) (responderNonce : String)
    (issuedAt expiresAt : UInt64) : Result V1SignedAck :=
  signWithPolicy P credential hello initiatorRecord responderRecord
    responderNonce (issuedAt, expiresAt) false

def signForLocalDevelopment (credential : V1DeviceCredential)
    (hello : V1SignedHello) (initiatorRecord responderRecord : V1DeviceRecord)
    (responderNonce : String) (issuedAt expiresAt : UInt64) :
    Result V1SignedAck :=
  signWithPolicy P credential hello initiatorRecord responderRecord
    responderNonce (issuedAt, expiresAt) true

def verify (self : V1SignedAck)
    (responderRecord initiatorRecord : V1DeviceRecord) (hello : V1SignedHello)
    (expectedApplication : String) (now : UInt64) (allowLoopbackDev : Bool) :
    Result Unit := do
  ensureSerializedBound P self.toJson v1MaxAckBytes "v1 Ack size"
  validateClaims P self.claims responderRecord.certificate initiatorRecord
    responderRecord hello expectedApplication now allowLoopbackDev
  let key <- responderRecord.certificate.controlPublicKey P
  verifySignature P key v1AckDomain self.claims.toJson self.signature

/-!
# Accepted acknowledgements

Besides the Hello it answers, an Ack is determined by its nonce and its window.
-/

/-- The bindings of Ack claims to the Hello and to both records. -/
structure Bound (claims : V1AckClaims) (hello : V1SignedHello)
    (initiatorRecord responderRecord : V1DeviceRecord) : Prop where
  determined : claims = answer P hello initiatorRecord responderRecord
    claims.responderNonce claims.issuedAt claims.expiresAt
  responderNonce : validateChallenge P claims.responderNonce
    "v1 responder nonce" = Except.ok ()
  freshNonce : claims.responderNonce ≠ hello.claims.sessionNonce
  helloDigestForm : validateDigest P (hello.digest P) "v1 Hello digest" =
    Except.ok ()
  recordDigestForm : validateDigest P (responderRecord.digest P)
    "v1 responder device digest" = Except.ok ()
  afterHello : hello.claims.issuedAt ≤ claims.issuedAt
  beforeHello : claims.expiresAt ≤ hello.claims.expiresAt
  afterResponder :
    responderRecord.certificate.claims.issuedAt ≤ claims.issuedAt
  afterInitiator :
    initiatorRecord.certificate.claims.issuedAt ≤ claims.issuedAt
  beforeResponder :
    claims.expiresAt ≤ responderRecord.certificate.claims.expiresAt
  beforeInitiator :
    claims.expiresAt ≤ initiatorRecord.certificate.claims.expiresAt

abbrev Open (claims : V1AckClaims) (now : UInt64) : Prop :=
  WindowOpen claims.issuedAt claims.expiresAt v1MaxHandshakeLifetimeSeconds now

variable {P}

theorem validateClaims_eq_ok {claims : V1AckClaims}
    {responderCertificate : V1DeviceCertificate}
    {initiatorRecord responderRecord : V1DeviceRecord} {hello : V1SignedHello}
    {expectedApplication : String} {now : UInt64} {allowLoopbackDev : Bool} :
    validateClaims P claims responderCertificate initiatorRecord responderRecord
        hello expectedApplication now allowLoopbackDev = Except.ok () <->
      hello.verify P initiatorRecord responderRecord expectedApplication now
          allowLoopbackDev = Except.ok () ∧
        responderCertificate = responderRecord.certificate ∧
        Bound P claims hello initiatorRecord responderRecord ∧
        Open claims now := by
  unfold validateClaims
  simp only [bind_eq_ok, rejectIf_eq_ok, exists_unit,
    validateBoundedWindow_eq_ok, not_or, not_not, gt_iff_lt, UInt64.not_lt]
  change _ ∧ hello.verify P initiatorRecord responderRecord expectedApplication
    now allowLoopbackDev = Except.ok () ∧ _ <-> _
  constructor
  · intro h
    rcases h with ⟨hversion, hhello, hcertificate, hidentity, hkeys, _,
      happlication, halpn, _, hnonce, hnonces, hhelloForm, hrecordForm,
      hdigests, hwindow, hinside⟩
    rcases hidentity with ⟨hfrom, hto⟩
    rcases hkeys with ⟨hfromId, hfromControl, hfromIroh, htoId, htoControl,
      htoIroh⟩
    rcases hinside with ⟨hafter, hbefore, hafterR, hafterI, hbeforeR, hbeforeI⟩
    rw [hdigests.left] at hhelloForm
    rw [hdigests.right] at hrecordForm
    refine ⟨hhello, hcertificate, ⟨?_, hnonce, ?_, hhelloForm, hrecordForm,
      hafter, hbefore, hafterR, hafterI, hbeforeR, hbeforeI⟩, hwindow⟩
    · exact V1AckClaims.ext hversion hfrom hfromId hfromControl hfromIroh hto
        htoId htoControl htoIroh happlication.right halpn.left hnonces.left rfl
        hdigests.left hdigests.right rfl rfl
    · rw [← hnonces.left]
      exact hnonces.right
  · intro h
    rcases h with ⟨hhello, hcertificate, hbound, hwindow⟩
    rcases V1SignedHello.verify_eq_ok.mp hhello with
      ⟨senderGrant, targetGrant, hauth, _⟩
    have happlication : claims.application = hello.claims.application := by
      rw [hbound.determined]
      rfl
    have hsession : claims.sessionNonce = hello.claims.sessionNonce := by
      rw [hbound.determined]
      rfl
    have halpn : claims.alpn = v1IrohAlpnText := by
      rw [hbound.determined]
      rfl
    have hhelloDigest : claims.helloDigest = hello.digest P := by
      rw [hbound.determined]
      rfl
    have hrecordDigest : claims.responderDeviceRecordDigest =
        responderRecord.digest P := by
      rw [hbound.determined]
      rfl
    refine ⟨?_, hhello, hcertificate, ⟨?_, ?_⟩, ⟨?_, ?_, ?_, ?_, ?_, ?_⟩, ?_,
      ⟨?_, happlication⟩, ⟨halpn, ?_⟩, ?_, hbound.responderNonce,
      ⟨hsession, ?_⟩, ?_, ?_, ⟨hhelloDigest, hrecordDigest⟩, hwindow,
      hbound.afterHello, hbound.beforeHello, hbound.afterResponder,
      hbound.afterInitiator, hbound.beforeResponder, hbound.beforeInitiator⟩
    -- The copied fields.
    any_goals
      rw [hbound.determined]
      rfl
    · rw [happlication]
      exact hauth.bound.applicationForm
    · rw [happlication]
      exact hauth.bound.application
    · rw [halpn, hauth.bound.alpn]
    · rw [hsession]
      exact hauth.bound.sessionNonce
    · rw [hsession]
      exact hbound.freshNonce
    · rw [hhelloDigest]
      exact hbound.helloDigestForm
    · rw [hrecordDigest]
      exact hbound.recordDigestForm

theorem verify_eq_ok {self : V1SignedAck}
    {responderRecord initiatorRecord : V1DeviceRecord} {hello : V1SignedHello}
    {expectedApplication : String} {now : UInt64} {allowLoopbackDev : Bool} :
    self.verify P responderRecord initiatorRecord hello expectedApplication now
        allowLoopbackDev = Except.ok () <->
      ensureSerializedBound P self.toJson v1MaxAckBytes "v1 Ack size" =
          Except.ok () ∧
        hello.verify P initiatorRecord responderRecord expectedApplication now
          allowLoopbackDev = Except.ok () ∧
        Bound P self.claims hello initiatorRecord responderRecord ∧
        responderRecord.certificate.ControlSigned P v1AckDomain
          self.claims.toJson self.signature ∧
        Open self.claims now := by
  unfold verify
  simp only [bind_eq_ok, exists_unit, validateClaims_eq_ok]
  constructor
  · intro h
    rcases h with ⟨hbounded, ⟨hhello, _, hbound, hwindow⟩, hsigned⟩
    exact ⟨hbounded, hhello, hbound, hsigned, hwindow⟩
  · intro h
    rcases h with ⟨hbounded, hhello, hbound, hsigned, hwindow⟩
    exact ⟨hbounded, ⟨hhello, trivial, hbound, hwindow⟩, hsigned⟩

/-- An accepted Ack stays accepted until its own expiry, which the Hello outlives. -/
theorem verify_later {self : V1SignedAck}
    {responderRecord initiatorRecord : V1DeviceRecord} {hello : V1SignedHello}
    {expectedApplication : String} {allowLoopbackDev : Bool} {t now : UInt64}
    (h : self.verify P responderRecord initiatorRecord hello expectedApplication
      t allowLoopbackDev = Except.ok ())
    (hle : t ≤ now) (hlt : now < self.claims.expiresAt) :
    self.verify P responderRecord initiatorRecord hello expectedApplication now
      allowLoopbackDev = Except.ok () := by
  rcases verify_eq_ok.mp h with ⟨hbounded, hhello, hbound, hsigned, hwindow⟩
  have hhelloLt : now < hello.claims.expiresAt :=
    UInt64.lt_of_lt_of_le hlt hbound.beforeHello
  exact verify_eq_ok.mpr ⟨hbounded,
    V1SignedHello.verify_later hhello hle hhelloLt, hbound, hsigned,
    hwindow.later hle hlt⟩

theorem verify_between {self : V1SignedAck}
    {responderRecord initiatorRecord : V1DeviceRecord} {hello : V1SignedHello}
    {expectedApplication : String} {allowLoopbackDev : Bool} {a b c : UInt64}
    (ha : self.verify P responderRecord initiatorRecord hello
      expectedApplication a allowLoopbackDev = Except.ok ())
    (hc : self.verify P responderRecord initiatorRecord hello
      expectedApplication c allowLoopbackDev = Except.ok ())
    (hab : a ≤ b) (hbc : b ≤ c) :
    self.verify P responderRecord initiatorRecord hello expectedApplication b
      allowLoopbackDev = Except.ok () := by
  rcases verify_eq_ok.mp ha with ⟨hbounded, hfirst, hbound, hsigned, hopen⟩
  rcases verify_eq_ok.mp hc with ⟨_, hlast, _, _, hclosing⟩
  exact verify_eq_ok.mpr ⟨hbounded,
    V1SignedHello.verify_between hfirst hlast hab hbc, hbound, hsigned,
    hopen.between hclosing hab hbc⟩

theorem verify_unexpired {self : V1SignedAck}
    {responderRecord initiatorRecord : V1DeviceRecord} {hello : V1SignedHello}
    {expectedApplication : String} {allowLoopbackDev : Bool} {now : UInt64}
    (h : self.verify P responderRecord initiatorRecord hello expectedApplication
      now allowLoopbackDev = Except.ok ()) :
    now < self.claims.expiresAt := by
  rcases verify_eq_ok.mp h with ⟨_, _, _, _, hwindow⟩
  exact UInt64.lt_iff_toNat_lt.mpr hwindow.unexpired

theorem signWithPolicy_verify [P.Lawful] {credential : V1DeviceCredential}
    {hello : V1SignedHello} {initiatorRecord responderRecord : V1DeviceRecord}
    {responderNonce : String} {issuedAt expiresAt : UInt64}
    {allowLoopbackDev : Bool} {ack : V1SignedAck}
    (h : signWithPolicy P credential hello initiatorRecord responderRecord
      responderNonce (issuedAt, expiresAt) allowLoopbackDev = Except.ok ack) :
    ack.claims.issuedAt = issuedAt ∧ ack.claims.expiresAt = expiresAt ∧
      ack.claims.responderNonce = responderNonce ∧
      ack.verify P responderRecord initiatorRecord hello
        hello.claims.application issuedAt allowLoopbackDev = Except.ok () := by
  unfold signWithPolicy at h
  simp only [bind_eq_ok, rejectIf_eq_ok, exists_unit, pure_eq_ok, not_or,
    not_not] at h
  rcases h with ⟨hsame, _, hclaims, key, hkey, hbounded, rfl⟩
  refine ⟨rfl, rfl, rfl, ?_⟩
  rw [← hsame.right] at hclaims
  unfold verify
  simp only [bind_eq_ok, exists_unit]
  refine ⟨hbounded, hclaims, ?_⟩
  rw [hsame.right]
  exact V1DeviceCredential.controlSigned_controlKey hkey _ _

end V1SignedAck

end Protocol
end Pubky2Pubky
