import Pubky2Pubky.Protocol.Locator

/-!
# Hello

The initiator signs a Hello that carries its own device record and names the
exact target record, the application, a fresh nonce and a short window.
-/

namespace Pubky2Pubky
namespace Protocol

open Foundation

def v1MaxHelloBytes : Nat := 48 * 1024

def v1HelloDomain : String := "pubky2pubky/hello/v1"

def v1HelloDigestDomain : String := "pubky2pubky/hello-digest/v1"

def maxApplicationBytes : Nat := 128

def applicationChar (c : Char) : Bool :=
  let n := c.toNat
  (decide (48 ≤ n) && decide (n ≤ 57)) || (decide (65 ≤ n) && decide (n ≤ 90)) ||
    (decide (97 ≤ n) && decide (n ≤ 122)) || c == '-' || c == '_' || c == '.' ||
    c == '/'

def validateApplication (application : String) : Result Unit :=
  rejectIf (application = "" ∨
      application.utf8ByteSize > maxApplicationBytes ∨
      application.toList.all applicationChar = false)
    (ProtocolError.invalidEncoding "v1 application")

@[ext]
structure V1HelloClaims where
  version : UInt16
  fromDeviceRecord : V1DeviceRecord
  fromIdentity : String
  fromDeviceId : String
  fromControlSigningKey : String
  fromIrohEndpointId : String
  toIdentity : String
  toDeviceId : String
  toControlSigningKey : String
  toIrohEndpointId : String
  application : String
  alpn : String
  sessionNonce : String
  targetDeviceRecordDigest : String
  issuedAt : UInt64
  expiresAt : UInt64
  deriving DecidableEq

def V1HelloClaims.toJson (self : V1HelloClaims) : Json :=
  Json.object
    [("version", Json.number self.version.toNat),
     ("from_device_record", self.fromDeviceRecord.toJson),
     ("from_identity", Json.string self.fromIdentity),
     ("from_device_id", Json.string self.fromDeviceId),
     ("from_control_signing_key", Json.string self.fromControlSigningKey),
     ("from_iroh_endpoint_id", Json.string self.fromIrohEndpointId),
     ("to_identity", Json.string self.toIdentity),
     ("to_device_id", Json.string self.toDeviceId),
     ("to_control_signing_key", Json.string self.toControlSigningKey),
     ("to_iroh_endpoint_id", Json.string self.toIrohEndpointId),
     ("application", Json.string self.application),
     ("alpn", Json.string self.alpn),
     ("session_nonce", Json.string self.sessionNonce),
     ("target_device_record_digest", Json.string self.targetDeviceRecordDigest),
     ("issued_at", Json.number self.issuedAt.toNat),
     ("expires_at", Json.number self.expiresAt.toNat)]

structure V1SignedHello where
  claims : V1HelloClaims
  signature : String
  deriving DecidableEq

namespace V1SignedHello

variable (P : Primitives)

def toJson (self : V1SignedHello) : Json :=
  Json.object
    [("claims", self.claims.toJson), ("signature", Json.string self.signature)]

def validateCore (claims : V1HelloClaims)
    (senderRecord targetRecord : V1DeviceRecord) (expectedApplication : String)
    (now : UInt64) (allowLoopbackDev : Bool) : Result Unit := do
  rejectIf (claims.version ≠ v1ProtocolVersion)
    (ProtocolError.unsupportedVersion claims.version)
  ensureSerializedBound P claims.toJson v1MaxHelloBytes "v1 Hello size"
  rejectIf (claims.fromDeviceRecord ≠ senderRecord) ProtocolError.deviceMismatch
  senderRecord.verify P claims.fromIdentity now allowLoopbackDev none
  targetRecord.verify P claims.toIdentity now allowLoopbackDev none
  let sender := senderRecord.certificate.claims
  let target := targetRecord.certificate.claims
  rejectIf (claims.fromIdentity ≠ sender.identity ∨
      claims.toIdentity ≠ target.identity)
    ProtocolError.identityMismatch
  rejectIf (claims.fromDeviceId ≠ sender.deviceId ∨
      claims.fromControlSigningKey ≠ sender.controlSigningKey ∨
      claims.fromIrohEndpointId ≠ sender.irohEndpointId ∨
      claims.toDeviceId ≠ target.deviceId ∨
      claims.toControlSigningKey ≠ target.controlSigningKey ∨
      claims.toIrohEndpointId ≠ target.irohEndpointId ∨
      claims.fromControlSigningKey = claims.toControlSigningKey ∨
      claims.fromIrohEndpointId = claims.toIrohEndpointId)
    ProtocolError.deviceMismatch
  validateApplication claims.application
  rejectIf (claims.application ≠ expectedApplication)
    (ProtocolError.invalidEncoding "v1 application binding")
  rejectIf (claims.alpn ≠ v1IrohAlpnText)
    (ProtocolError.invalidEncoding "v1 ALPN")
  validateChallenge P claims.sessionNonce "v1 session nonce"
  validateDigest P claims.targetDeviceRecordDigest "v1 target device digest"
  rejectIf (claims.targetDeviceRecordDigest ≠ targetRecord.digest P)
    ProtocolError.deviceMismatch
  validateBoundedWindow claims.issuedAt claims.expiresAt now
    v1MaxHandshakeLifetimeSeconds "v1 Hello lifetime"
  -- The start is held against the certificates only, the end also against the locators.
  rejectIf (claims.issuedAt < sender.issuedAt ∨
      claims.issuedAt < target.issuedAt ∨
      claims.expiresAt > sender.expiresAt ∨
      claims.expiresAt > target.expiresAt ∨
      claims.expiresAt > senderRecord.locator.claims.expiresAt ∨
      claims.expiresAt > targetRecord.locator.claims.expiresAt)
    ProtocolError.invalidTimeWindow

def signWithPolicy (credential : V1DeviceCredential)
    (senderRecord targetRecord : V1DeviceRecord)
    (application sessionNonce : String) (validity : UInt64 × UInt64)
    (allowLoopbackDev : Bool) : Result V1SignedHello := do
  let (issuedAt, expiresAt) := validity
  rejectIf (senderRecord.authorization ≠ credential.authorization ∨
      senderRecord.certificate ≠ credential.certificate)
    ProtocolError.deviceMismatch
  senderRecord.verify P credential.identity issuedAt allowLoopbackDev none
  targetRecord.verify P targetRecord.certificate.claims.identity issuedAt
    allowLoopbackDev none
  let sender := credential.certificate.claims
  let target := targetRecord.certificate.claims
  let claims : V1HelloClaims :=
    { version := v1ProtocolVersion
      fromDeviceRecord := senderRecord
      fromIdentity := sender.identity
      fromDeviceId := sender.deviceId
      fromControlSigningKey := sender.controlSigningKey
      fromIrohEndpointId := sender.irohEndpointId
      toIdentity := target.identity
      toDeviceId := target.deviceId
      toControlSigningKey := target.controlSigningKey
      toIrohEndpointId := target.irohEndpointId
      application := application
      alpn := v1IrohAlpnText
      sessionNonce := sessionNonce
      targetDeviceRecordDigest := targetRecord.digest P
      issuedAt := issuedAt
      expiresAt := expiresAt }
  validateCore P claims senderRecord targetRecord claims.application issuedAt
    allowLoopbackDev
  let key <- credential.controlKey P
  let signature :=
    P.sign key (canonicalForSigning P v1HelloDomain claims.toJson)
  let hello : V1SignedHello :=
    { claims := claims, signature := encodeSignature P signature }
  ensureSerializedBound P hello.toJson v1MaxHelloBytes "v1 Hello size"
  pure hello

def sign (credential : V1DeviceCredential)
    (senderRecord targetRecord : V1DeviceRecord)
    (application sessionNonce : String) (validity : UInt64 × UInt64) :
    Result V1SignedHello :=
  signWithPolicy P credential senderRecord targetRecord application sessionNonce
    validity false

def signForLocalDevelopment (credential : V1DeviceCredential)
    (senderRecord targetRecord : V1DeviceRecord)
    (application sessionNonce : String) (validity : UInt64 × UInt64) :
    Result V1SignedHello :=
  signWithPolicy P credential senderRecord targetRecord application sessionNonce
    validity true

def verifyCore (self : V1SignedHello)
    (senderRecord targetRecord : V1DeviceRecord) (expectedApplication : String)
    (now : UInt64) (allowLoopbackDev : Bool) : Result Unit := do
  ensureSerializedBound P self.toJson v1MaxHelloBytes "v1 Hello size"
  validateCore P self.claims senderRecord targetRecord expectedApplication now
    allowLoopbackDev
  let key <- senderRecord.certificate.controlPublicKey P
  verifySignature P key v1HelloDomain self.claims.toJson self.signature

def verify (self : V1SignedHello) (senderRecord targetRecord : V1DeviceRecord)
    (expectedApplication : String) (now : UInt64) (allowLoopbackDev : Bool) :
    Result Unit :=
  self.verifyCore P senderRecord targetRecord expectedApplication now
    allowLoopbackDev

def digest (self : V1SignedHello) : String :=
  canonicalDigest P v1HelloDigestDomain self.toJson

/-- The Hello claims from one record to another for one application. -/
def greeting (senderRecord targetRecord : V1DeviceRecord)
    (application sessionNonce : String) (issuedAt expiresAt : UInt64) :
    V1HelloClaims :=
  let sender := senderRecord.certificate.claims
  let target := targetRecord.certificate.claims
  { version := v1ProtocolVersion
    fromDeviceRecord := senderRecord
    fromIdentity := sender.identity
    fromDeviceId := sender.deviceId
    fromControlSigningKey := sender.controlSigningKey
    fromIrohEndpointId := sender.irohEndpointId
    toIdentity := target.identity
    toDeviceId := target.deviceId
    toControlSigningKey := target.controlSigningKey
    toIrohEndpointId := target.irohEndpointId
    application := application
    alpn := v1IrohAlpnText
    sessionNonce := sessionNonce
    targetDeviceRecordDigest := targetRecord.digest P
    issuedAt := issuedAt
    expiresAt := expiresAt }

/-!
# Accepted Hellos
-/

/-- The bindings of Hello claims to the two records and the application. -/
structure Bound (claims : V1HelloClaims)
    (senderRecord targetRecord : V1DeviceRecord) (expectedApplication : String)
    (allowLoopbackDev : Bool)
    (senderGrant targetGrant : V1GrantAuthorization.Claims P) : Prop where
  version : claims.version = v1ProtocolVersion
  bounded : ensureSerializedBound P claims.toJson v1MaxHelloBytes
    "v1 Hello size" = Except.ok ()
  fromDeviceRecord : claims.fromDeviceRecord = senderRecord
  senderAuthentic : V1DeviceRecord.Authentic P senderRecord claims.fromIdentity
    allowLoopbackDev none senderGrant
  targetAuthentic : V1DeviceRecord.Authentic P targetRecord claims.toIdentity
    allowLoopbackDev none targetGrant
  fromDeviceId :
    claims.fromDeviceId = senderRecord.certificate.claims.deviceId
  fromControlSigningKey : claims.fromControlSigningKey =
    senderRecord.certificate.claims.controlSigningKey
  fromIrohEndpointId : claims.fromIrohEndpointId =
    senderRecord.certificate.claims.irohEndpointId
  toDeviceId : claims.toDeviceId = targetRecord.certificate.claims.deviceId
  toControlSigningKey : claims.toControlSigningKey =
    targetRecord.certificate.claims.controlSigningKey
  toIrohEndpointId : claims.toIrohEndpointId =
    targetRecord.certificate.claims.irohEndpointId
  distinctControl : claims.fromControlSigningKey ≠ claims.toControlSigningKey
  distinctIroh : claims.fromIrohEndpointId ≠ claims.toIrohEndpointId
  applicationForm : validateApplication claims.application = Except.ok ()
  application : claims.application = expectedApplication
  alpn : claims.alpn = v1IrohAlpnText
  sessionNonce : validateChallenge P claims.sessionNonce "v1 session nonce" =
    Except.ok ()
  targetDigestForm : validateDigest P claims.targetDeviceRecordDigest
    "v1 target device digest" = Except.ok ()
  targetDigest : claims.targetDeviceRecordDigest = targetRecord.digest P
  afterSender : senderRecord.certificate.claims.issuedAt ≤ claims.issuedAt
  afterTarget : targetRecord.certificate.claims.issuedAt ≤ claims.issuedAt
  beforeSender : claims.expiresAt ≤ senderRecord.certificate.claims.expiresAt
  beforeTarget : claims.expiresAt ≤ targetRecord.certificate.claims.expiresAt
  beforeSenderLocator :
    claims.expiresAt ≤ senderRecord.locator.claims.expiresAt
  beforeTargetLocator :
    claims.expiresAt ≤ targetRecord.locator.claims.expiresAt

structure Current (claims : V1HelloClaims)
    (senderRecord targetRecord : V1DeviceRecord)
    (senderGrant targetGrant : V1GrantAuthorization.Claims P)
    (now : UInt64) : Prop where
  senderCurrent : V1DeviceRecord.Current P senderRecord senderGrant now
  targetCurrent : V1DeviceRecord.Current P targetRecord targetGrant now
  helloOpen : WindowOpen claims.issuedAt claims.expiresAt
    v1MaxHandshakeLifetimeSeconds now

/-- Everything a successful verification establishes besides the windows. -/
structure Authentic (hello : V1SignedHello)
    (senderRecord targetRecord : V1DeviceRecord) (expectedApplication : String)
    (allowLoopbackDev : Bool)
    (senderGrant targetGrant : V1GrantAuthorization.Claims P) : Prop where
  bounded : ensureSerializedBound P hello.toJson v1MaxHelloBytes
    "v1 Hello size" = Except.ok ()
  bound : Bound P hello.claims senderRecord targetRecord expectedApplication
    allowLoopbackDev senderGrant targetGrant
  signed : senderRecord.certificate.ControlSigned P v1HelloDomain
    hello.claims.toJson hello.signature

variable {P}

theorem validateApplication_ascii {application : String}
    (h : validateApplication application = Except.ok ()) :
    application.toList.all applicationChar = true ∧
      application.utf8ByteSize ≤ maxApplicationBytes := by
  unfold validateApplication at h
  rw [rejectIf_eq_ok] at h
  simp only [not_or, Bool.not_eq_false, gt_iff_lt, Nat.not_lt] at h
  exact ⟨h.right.right, h.right.left⟩

theorem validateCore_eq_ok {claims : V1HelloClaims}
    {senderRecord targetRecord : V1DeviceRecord} {expectedApplication : String}
    {now : UInt64} {allowLoopbackDev : Bool} :
    validateCore P claims senderRecord targetRecord expectedApplication now
        allowLoopbackDev = Except.ok () <->
      exists senderGrant targetGrant,
        Bound P claims senderRecord targetRecord expectedApplication
          allowLoopbackDev senderGrant targetGrant ∧
        Current P claims senderRecord targetRecord senderGrant targetGrant
          now := by
  unfold validateCore
  simp only [bind_eq_ok, rejectIf_eq_ok, exists_unit,
    V1DeviceRecord.verify_eq_ok, validateBoundedWindow_eq_ok, not_or,
    not_not, gt_iff_lt, UInt64.not_lt]
  constructor
  · intro h
    rcases h with ⟨hversion, hbounded, hrecord,
      ⟨senderGrant, hsender, hsenderCurrent⟩,
      ⟨targetGrant, htarget, htargetCurrent⟩, _, hkeys, hform, happlication,
      halpn, hnonce, hdigestForm, hdigest, hwindow, hinside⟩
    rcases hkeys with ⟨hfromId, hfromControl, hfromIroh, htoId, htoControl,
      htoIroh, hcontrol, hiroh⟩
    rcases hinside with ⟨hafterS, hafterT, hbeforeS, hbeforeT, hlocatorS,
      hlocatorT⟩
    exact ⟨senderGrant, targetGrant,
      ⟨hversion, hbounded, hrecord, hsender, htarget, hfromId, hfromControl,
        hfromIroh, htoId, htoControl, htoIroh, hcontrol, hiroh, hform,
        happlication, halpn, hnonce, hdigestForm, hdigest, hafterS, hafterT,
        hbeforeS, hbeforeT, hlocatorS, hlocatorT⟩,
      ⟨hsenderCurrent, htargetCurrent, hwindow⟩⟩
  · intro h
    rcases h with ⟨senderGrant, targetGrant, hb, hcurrent⟩
    exact ⟨hb.version, hb.bounded, hb.fromDeviceRecord,
      ⟨senderGrant, hb.senderAuthentic, hcurrent.senderCurrent⟩,
      ⟨targetGrant, hb.targetAuthentic, hcurrent.targetCurrent⟩,
      ⟨hb.senderAuthentic.identity.symm, hb.targetAuthentic.identity.symm⟩,
      ⟨hb.fromDeviceId, hb.fromControlSigningKey, hb.fromIrohEndpointId,
        hb.toDeviceId, hb.toControlSigningKey, hb.toIrohEndpointId,
        hb.distinctControl, hb.distinctIroh⟩,
      hb.applicationForm, hb.application, hb.alpn, hb.sessionNonce,
      hb.targetDigestForm, hb.targetDigest, hcurrent.helloOpen,
      ⟨hb.afterSender, hb.afterTarget, hb.beforeSender, hb.beforeTarget,
        hb.beforeSenderLocator, hb.beforeTargetLocator⟩⟩

theorem verify_eq_ok {self : V1SignedHello}
    {senderRecord targetRecord : V1DeviceRecord} {expectedApplication : String}
    {now : UInt64} {allowLoopbackDev : Bool} :
    self.verify P senderRecord targetRecord expectedApplication now
        allowLoopbackDev = Except.ok () <->
      exists senderGrant targetGrant,
        Authentic P self senderRecord targetRecord expectedApplication
          allowLoopbackDev senderGrant targetGrant ∧
        Current P self.claims senderRecord targetRecord senderGrant targetGrant
          now := by
  unfold verify verifyCore
  simp only [bind_eq_ok, exists_unit, validateCore_eq_ok]
  constructor
  · intro h
    rcases h with ⟨hbounded, ⟨senderGrant, targetGrant, hbound, hcurrent⟩,
      hsigned⟩
    exact ⟨senderGrant, targetGrant, ⟨hbounded, hbound, hsigned⟩, hcurrent⟩
  · intro h
    rcases h with ⟨senderGrant, targetGrant, hauth, hcurrent⟩
    exact ⟨hauth.bounded, ⟨senderGrant, targetGrant, hauth.bound, hcurrent⟩,
      hauth.signed⟩

theorem Authentic.grants_unique {hello : V1SignedHello}
    {senderRecord targetRecord : V1DeviceRecord} {expectedApplication : String}
    {allowLoopbackDev : Bool}
    {senderFirst senderSecond targetFirst targetSecond :
      V1GrantAuthorization.Claims P}
    (hfirst : Authentic P hello senderRecord targetRecord expectedApplication
      allowLoopbackDev senderFirst targetFirst)
    (hsecond : Authentic P hello senderRecord targetRecord expectedApplication
      allowLoopbackDev senderSecond targetSecond) :
    senderFirst = senderSecond ∧ targetFirst = targetSecond :=
  ⟨hfirst.bound.senderAuthentic.grant_unique hsecond.bound.senderAuthentic,
    hfirst.bound.targetAuthentic.grant_unique hsecond.bound.targetAuthentic⟩

/-- Both records outlive the Hello, so only its own expiry matters. -/
theorem Current.later {claims : V1HelloClaims}
    {senderRecord targetRecord : V1DeviceRecord} {expectedApplication : String}
    {allowLoopbackDev : Bool}
    {senderGrant targetGrant : V1GrantAuthorization.Claims P} {t now : UInt64}
    (h : Current P claims senderRecord targetRecord senderGrant targetGrant t)
    (hbound : Bound P claims senderRecord targetRecord expectedApplication
      allowLoopbackDev senderGrant targetGrant)
    (hle : t ≤ now) (hlt : now < claims.expiresAt) :
    Current P claims senderRecord targetRecord senderGrant targetGrant now := by
  have hsender : now < senderRecord.locator.claims.expiresAt :=
    UInt64.lt_of_lt_of_le hlt hbound.beforeSenderLocator
  have htarget : now < targetRecord.locator.claims.expiresAt :=
    UInt64.lt_of_lt_of_le hlt hbound.beforeTargetLocator
  exact ⟨V1DeviceRecord.Current.later h.senderCurrent hbound.senderAuthentic
      hle hsender,
    V1DeviceRecord.Current.later h.targetCurrent hbound.targetAuthentic
      hle htarget,
    h.helloOpen.later hle hlt⟩

theorem Current.between {claims : V1HelloClaims}
    {senderRecord targetRecord : V1DeviceRecord}
    {senderGrant targetGrant : V1GrantAuthorization.Claims P}
    {a b c : UInt64}
    (ha : Current P claims senderRecord targetRecord senderGrant targetGrant a)
    (hc : Current P claims senderRecord targetRecord senderGrant targetGrant c)
    (hab : a ≤ b) (hbc : b ≤ c) :
    Current P claims senderRecord targetRecord senderGrant targetGrant b :=
  ⟨ha.senderCurrent.between hc.senderCurrent hab hbc,
    ha.targetCurrent.between hc.targetCurrent hab hbc,
    ha.helloOpen.between hc.helloOpen hab hbc⟩

theorem verify_later {self : V1SignedHello}
    {senderRecord targetRecord : V1DeviceRecord} {expectedApplication : String}
    {allowLoopbackDev : Bool} {t now : UInt64}
    (h : self.verify P senderRecord targetRecord expectedApplication t
      allowLoopbackDev = Except.ok ())
    (hle : t ≤ now) (hlt : now < self.claims.expiresAt) :
    self.verify P senderRecord targetRecord expectedApplication now
      allowLoopbackDev = Except.ok () := by
  rcases verify_eq_ok.mp h with ⟨senderGrant, targetGrant, hauth, hcurrent⟩
  exact verify_eq_ok.mpr ⟨senderGrant, targetGrant, hauth,
    hcurrent.later hauth.bound hle hlt⟩

theorem verify_between {self : V1SignedHello}
    {senderRecord targetRecord : V1DeviceRecord} {expectedApplication : String}
    {allowLoopbackDev : Bool} {a b c : UInt64}
    (ha : self.verify P senderRecord targetRecord expectedApplication a
      allowLoopbackDev = Except.ok ())
    (hc : self.verify P senderRecord targetRecord expectedApplication c
      allowLoopbackDev = Except.ok ())
    (hab : a ≤ b) (hbc : b ≤ c) :
    self.verify P senderRecord targetRecord expectedApplication b
      allowLoopbackDev = Except.ok () := by
  rcases verify_eq_ok.mp ha with ⟨senderGrant, targetGrant, hauth, hfirst⟩
  rcases verify_eq_ok.mp hc with ⟨senderOther, targetOther, hother, hlast⟩
  rcases hauth.grants_unique hother with ⟨rfl, rfl⟩
  exact verify_eq_ok.mpr ⟨senderGrant, targetGrant, hauth,
    hfirst.between hlast hab hbc⟩

theorem verify_unexpired {self : V1SignedHello}
    {senderRecord targetRecord : V1DeviceRecord} {expectedApplication : String}
    {allowLoopbackDev : Bool} {now : UInt64}
    (h : self.verify P senderRecord targetRecord expectedApplication now
      allowLoopbackDev = Except.ok ()) :
    now < self.claims.expiresAt := by
  rcases verify_eq_ok.mp h with ⟨senderGrant, targetGrant, _, hcurrent⟩
  exact UInt64.lt_iff_toNat_lt.mpr hcurrent.helloOpen.unexpired

/-- A Hello is only ever accepted for the application it names. -/
theorem verify_application {self : V1SignedHello}
    {senderRecord targetRecord : V1DeviceRecord} {expectedApplication : String}
    {allowLoopbackDev : Bool} {now : UInt64}
    (h : self.verify P senderRecord targetRecord expectedApplication now
      allowLoopbackDev = Except.ok ()) :
    self.claims.application = expectedApplication := by
  rcases verify_eq_ok.mp h with ⟨senderGrant, targetGrant, hauth, _⟩
  exact hauth.bound.application

theorem signWithPolicy_verify [P.Lawful] {credential : V1DeviceCredential}
    {senderRecord targetRecord : V1DeviceRecord}
    {application sessionNonce : String} {issuedAt expiresAt : UInt64}
    {allowLoopbackDev : Bool} {hello : V1SignedHello}
    (h : signWithPolicy P credential senderRecord targetRecord application
      sessionNonce (issuedAt, expiresAt) allowLoopbackDev =
        Except.ok hello) :
    hello.claims.issuedAt = issuedAt ∧ hello.claims.expiresAt = expiresAt ∧
      hello.verify P senderRecord targetRecord application issuedAt
        allowLoopbackDev = Except.ok () := by
  unfold signWithPolicy at h
  simp only [bind_eq_ok, rejectIf_eq_ok, exists_unit, pure_eq_ok, not_or,
    not_not] at h
  rcases h with ⟨hsame, _, _, hcore, key, hkey, hbounded, rfl⟩
  refine ⟨rfl, rfl, ?_⟩
  unfold verify verifyCore
  simp only [bind_eq_ok, exists_unit]
  refine ⟨hbounded, hcore, ?_⟩
  rw [hsame.right]
  exact V1DeviceCredential.controlSigned_controlKey hkey _ _

end V1SignedHello

end Protocol
end Pubky2Pubky
