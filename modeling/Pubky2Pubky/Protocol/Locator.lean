import Pubky2Pubky.Protocol.Certificate
import Pubky2Pubky.Protocol.Relay

/-!
# Locators and device records

The control key of a certified device signs a short-lived, relay-only locator.
A device record carries the Grant, the certificate and the locator together.
-/

namespace Pubky2Pubky
namespace Protocol

open Foundation

def v1IrohAlpnText : String := "pubky2pubky/iroh/v1"

def v1DeviceRecordPathPrefix : String := "/pub/pubky2pubky/v1/devices/"

def v1MaxDeviceRecordBytes : Nat := 32 * 1024

def v1LocatorDomain : String := "pubky2pubky/iroh-locator/v1"

def v1LocatorDigestDomain : String := "pubky2pubky/iroh-locator-digest/v1"

def v1DeviceRecordDigestDomain : String :=
  "pubky2pubky/device-record-digest/v1"

def v1DevicePathDomain : String := "pubky2pubky/device-path/v1"

@[ext]
structure V1LocatorClaims where
  version : UInt16
  identity : String
  grantDigest : String
  deviceCertificateDigest : String
  controlSigningKey : String
  irohEndpointId : String
  relayUrls : List Url
  alpn : String
  instanceNonce : String
  sequence : UInt64
  issuedAt : UInt64
  expiresAt : UInt64
  deriving DecidableEq

def V1LocatorClaims.toJson (self : V1LocatorClaims) : Json :=
  Json.object
    [("version", Json.number self.version.toNat),
     ("identity", Json.string self.identity),
     ("grant_digest", Json.string self.grantDigest),
     ("device_certificate_digest", Json.string self.deviceCertificateDigest),
     ("control_signing_key", Json.string self.controlSigningKey),
     ("iroh_endpoint_id", Json.string self.irohEndpointId),
     ("relay_urls",
       Json.array (self.relayUrls.map fun url => Json.string url.asStr)),
     ("alpn", Json.string self.alpn),
     ("instance_nonce", Json.string self.instanceNonce),
     ("sequence", Json.number self.sequence.toNat),
     ("issued_at", Json.number self.issuedAt.toNat),
     ("expires_at", Json.number self.expiresAt.toNat)]

structure V1SignedLocator where
  claims : V1LocatorClaims
  signature : String
  deriving DecidableEq

namespace V1SignedLocator

variable (P : Primitives)

def toJson (self : V1SignedLocator) : Json :=
  Json.object
    [("claims", self.claims.toJson), ("signature", Json.string self.signature)]

def validateClaims (claims : V1LocatorClaims)
    (authorization : V1GrantAuthorization) (certificate : V1DeviceCertificate)
    (expectedIdentity : String) (now : UInt64) (allowLoopbackDev : Bool)
    (minimumSequence : Option UInt64) : Result Unit := do
  rejectIf (claims.version ≠ v1ProtocolVersion)
    (ProtocolError.unsupportedVersion claims.version)
  certificate.verify P authorization expectedIdentity now
  rejectIf (claims.identity ≠ expectedIdentity ∨
      claims.identity ≠ certificate.claims.identity)
    ProtocolError.identityMismatch
  validateDigest P claims.grantDigest "v1 Grant digest"
  validateDigest P claims.deviceCertificateDigest "v1 certificate digest"
  rejectIf (claims.grantDigest ≠ authorization.digest P ∨
      claims.deviceCertificateDigest ≠ certificate.digest P ∨
      claims.controlSigningKey ≠ certificate.claims.controlSigningKey ∨
      claims.irohEndpointId ≠ certificate.claims.irohEndpointId)
    ProtocolError.deviceMismatch
  rejectIf (claims.alpn ≠ v1IrohAlpnText)
    (ProtocolError.invalidEncoding "v1 ALPN")
  rejectIf (claims.sequence = 0 ∨
      minimumSequence.any (fun minimum => claims.sequence < minimum) = true)
    (ProtocolError.invalidEncoding "v1 locator sequence")
  validateChallenge P claims.instanceNonce "v1 instance nonce"
  validateRelays P claims.relayUrls allowLoopbackDev
  validateBoundedWindow claims.issuedAt claims.expiresAt now
    v1MaxLocatorLifetimeSeconds "v1 locator lifetime"
  rejectIf (claims.issuedAt < certificate.claims.issuedAt ∨
      claims.expiresAt > certificate.claims.expiresAt)
    ProtocolError.invalidTimeWindow

def signWithPolicy (credential : V1DeviceCredential) (relayUrls : List Url)
    (instanceNonce : String) (sequence : UInt64) (validity : UInt64 × UInt64)
    (allowLoopbackDev : Bool) : Result V1SignedLocator := do
  let (issuedAt, expiresAt) := validity
  credential.verify P issuedAt
  let claims : V1LocatorClaims :=
    { version := v1ProtocolVersion
      identity := credential.identity
      grantDigest := credential.authorization.digest P
      deviceCertificateDigest := credential.certificate.digest P
      controlSigningKey := credential.controlSigningKey
      irohEndpointId := credential.irohEndpointId
      relayUrls := relayUrls
      alpn := v1IrohAlpnText
      instanceNonce := instanceNonce
      sequence := sequence
      issuedAt := issuedAt
      expiresAt := expiresAt }
  validateClaims P claims credential.authorization credential.certificate
    credential.identity issuedAt allowLoopbackDev none
  let key <- credential.controlKey P
  let signature :=
    P.sign key (canonicalForSigning P v1LocatorDomain claims.toJson)
  pure { claims := claims, signature := encodeSignature P signature }

def sign (credential : V1DeviceCredential) (relayUrls : List Url)
    (instanceNonce : String) (sequence issuedAt expiresAt : UInt64) :
    Result V1SignedLocator :=
  signWithPolicy P credential relayUrls instanceNonce sequence
    (issuedAt, expiresAt) false

def signForLocalDevelopment (credential : V1DeviceCredential)
    (relayUrls : List Url) (instanceNonce : String)
    (sequence issuedAt expiresAt : UInt64) : Result V1SignedLocator :=
  signWithPolicy P credential relayUrls instanceNonce sequence
    (issuedAt, expiresAt) true

def verify (self : V1SignedLocator) (authorization : V1GrantAuthorization)
    (certificate : V1DeviceCertificate) (expectedIdentity : String)
    (now : UInt64) (allowLoopbackDev : Bool) (minimumSequence : Option UInt64) :
    Result Unit := do
  validateClaims P self.claims authorization certificate expectedIdentity now
    allowLoopbackDev minimumSequence
  let key <- certificate.controlPublicKey P
  verifySignature P key v1LocatorDomain self.claims.toJson self.signature

def digest (self : V1SignedLocator) : String :=
  canonicalDigest P v1LocatorDigestDomain self.toJson

/-- The locator claims of a certified device. -/
def announcement (authorization : V1GrantAuthorization)
    (certificate : V1DeviceCertificate) (relayUrls : List Url)
    (instanceNonce : String) (sequence issuedAt expiresAt : UInt64) :
    V1LocatorClaims :=
  { version := v1ProtocolVersion
    identity := certificate.claims.identity
    grantDigest := authorization.digest P
    deviceCertificateDigest := certificate.digest P
    controlSigningKey := certificate.claims.controlSigningKey
    irohEndpointId := certificate.claims.irohEndpointId
    relayUrls := relayUrls
    alpn := v1IrohAlpnText
    instanceNonce := instanceNonce
    sequence := sequence
    issuedAt := issuedAt
    expiresAt := expiresAt }

/-!
# Accepted locators
-/

/-- The bindings of locator claims to the certificate they are signed under. -/
structure Bound (claims : V1LocatorClaims)
    (authorization : V1GrantAuthorization) (certificate : V1DeviceCertificate)
    (expectedIdentity : String) (allowLoopbackDev : Bool)
    (minimumSequence : Option UInt64)
    (grant : V1GrantAuthorization.Claims P) : Prop where
  certificateAuthentic : V1DeviceCertificate.Authentic P certificate
    authorization expectedIdentity grant
  version : claims.version = v1ProtocolVersion
  identity : claims.identity = expectedIdentity
  grantDigestForm : validateDigest P claims.grantDigest "v1 Grant digest" =
    Except.ok ()
  certificateDigestForm : validateDigest P claims.deviceCertificateDigest
    "v1 certificate digest" = Except.ok ()
  grantDigest : claims.grantDigest = authorization.digest P
  certificateDigest : claims.deviceCertificateDigest = certificate.digest P
  controlSigningKey :
    claims.controlSigningKey = certificate.claims.controlSigningKey
  irohEndpointId : claims.irohEndpointId = certificate.claims.irohEndpointId
  alpn : claims.alpn = v1IrohAlpnText
  sequencePositive : claims.sequence ≠ 0
  sequenceFloor :
    minimumSequence.any (fun minimum => claims.sequence < minimum) = false
  instanceNonce : validateChallenge P claims.instanceNonce "v1 instance nonce" =
    Except.ok ()
  relays : validateRelays P claims.relayUrls allowLoopbackDev = Except.ok ()
  notBefore : certificate.claims.issuedAt ≤ claims.issuedAt
  notAfter : claims.expiresAt ≤ certificate.claims.expiresAt

structure Current (claims : V1LocatorClaims) (certificate : V1DeviceCertificate)
    (grant : V1GrantAuthorization.Claims P) (now : UInt64) : Prop where
  certificateCurrent : V1DeviceCertificate.Current P certificate grant now
  locatorOpen : WindowOpen claims.issuedAt claims.expiresAt
    v1MaxLocatorLifetimeSeconds now

/-- Everything a successful verification establishes besides the windows. -/
structure Authentic (locator : V1SignedLocator)
    (authorization : V1GrantAuthorization) (certificate : V1DeviceCertificate)
    (expectedIdentity : String) (allowLoopbackDev : Bool)
    (minimumSequence : Option UInt64)
    (grant : V1GrantAuthorization.Claims P) : Prop where
  bound : Bound P locator.claims authorization certificate expectedIdentity
    allowLoopbackDev minimumSequence grant
  signed : certificate.ControlSigned P v1LocatorDomain locator.claims.toJson
    locator.signature

variable {P}

theorem validateClaims_eq_ok {claims : V1LocatorClaims}
    {authorization : V1GrantAuthorization} {certificate : V1DeviceCertificate}
    {expectedIdentity : String} {now : UInt64} {allowLoopbackDev : Bool}
    {minimumSequence : Option UInt64} :
    validateClaims P claims authorization certificate expectedIdentity now
        allowLoopbackDev minimumSequence = Except.ok () <->
      exists grant,
        Bound P claims authorization certificate expectedIdentity
          allowLoopbackDev minimumSequence grant ∧
        Current P claims certificate grant now := by
  unfold validateClaims
  simp only [bind_eq_ok, rejectIf_eq_ok, exists_unit,
    V1DeviceCertificate.verify_eq_ok, validateBoundedWindow_eq_ok, not_or,
    not_not, gt_iff_lt, UInt64.not_lt, Bool.not_eq_true]
  constructor
  · intro h
    rcases h with ⟨hversion, ⟨grant, hcertificate, hcurrent⟩, hidentity,
      hgrantForm, hcertificateForm, hbound, halpn, hsequence, hnonce, hrelays,
      hwindow, hinside⟩
    rcases hbound with ⟨hgrant, hdigest, hcontrol, hiroh⟩
    exact ⟨grant,
      ⟨hcertificate, hversion, hidentity.left, hgrantForm, hcertificateForm,
        hgrant, hdigest, hcontrol, hiroh, halpn, hsequence.left,
        hsequence.right, hnonce, hrelays, hinside.left, hinside.right⟩,
      ⟨hcurrent, hwindow⟩⟩
  · intro h
    rcases h with ⟨grant, hbound, hcurrent⟩
    have hidentity : claims.identity = certificate.claims.identity := by
      rw [hbound.identity, hbound.certificateAuthentic.identity]
    exact ⟨hbound.version,
      ⟨grant, hbound.certificateAuthentic, hcurrent.certificateCurrent⟩,
      ⟨hbound.identity, hidentity⟩, hbound.grantDigestForm,
      hbound.certificateDigestForm,
      ⟨hbound.grantDigest, hbound.certificateDigest, hbound.controlSigningKey,
        hbound.irohEndpointId⟩,
      hbound.alpn, ⟨hbound.sequencePositive, hbound.sequenceFloor⟩,
      hbound.instanceNonce, hbound.relays, hcurrent.locatorOpen,
      hbound.notBefore, hbound.notAfter⟩

theorem verify_eq_ok {self : V1SignedLocator}
    {authorization : V1GrantAuthorization} {certificate : V1DeviceCertificate}
    {expectedIdentity : String} {now : UInt64} {allowLoopbackDev : Bool}
    {minimumSequence : Option UInt64} :
    self.verify P authorization certificate expectedIdentity now
        allowLoopbackDev minimumSequence = Except.ok () <->
      exists grant,
        Authentic P self authorization certificate expectedIdentity
          allowLoopbackDev minimumSequence grant ∧
        Current P self.claims certificate grant now := by
  unfold verify
  simp only [bind_eq_ok, exists_unit, validateClaims_eq_ok]
  constructor
  · intro h
    rcases h with ⟨⟨grant, hbound, hcurrent⟩, hsigned⟩
    exact ⟨grant, ⟨hbound, hsigned⟩, hcurrent⟩
  · intro h
    rcases h with ⟨grant, hauth, hcurrent⟩
    exact ⟨⟨grant, hauth.bound, hcurrent⟩, hauth.signed⟩

theorem Current.later {claims : V1LocatorClaims}
    {authorization : V1GrantAuthorization} {certificate : V1DeviceCertificate}
    {expectedIdentity : String} {allowLoopbackDev : Bool}
    {minimumSequence : Option UInt64} {grant : V1GrantAuthorization.Claims P}
    {t now : UInt64} (h : Current P claims certificate grant t)
    (hbound : Bound P claims authorization certificate expectedIdentity
      allowLoopbackDev minimumSequence grant)
    (hle : t ≤ now) (hlt : now < claims.expiresAt) :
    Current P claims certificate grant now := by
  have hcertificate : now < certificate.claims.expiresAt :=
    UInt64.lt_of_lt_of_le hlt hbound.notAfter
  exact ⟨h.certificateCurrent.later hbound.certificateAuthentic hle hcertificate,
    h.locatorOpen.later hle hlt⟩

theorem Current.between {claims : V1LocatorClaims}
    {certificate : V1DeviceCertificate}
    {grant : V1GrantAuthorization.Claims P} {a b c : UInt64}
    (ha : Current P claims certificate grant a)
    (hc : Current P claims certificate grant c)
    (hab : a ≤ b) (hbc : b ≤ c) : Current P claims certificate grant b :=
  ⟨ha.certificateCurrent.between hc.certificateCurrent hab hbc,
    ha.locatorOpen.between hc.locatorOpen hab hbc⟩

theorem verify_later {self : V1SignedLocator}
    {authorization : V1GrantAuthorization} {certificate : V1DeviceCertificate}
    {expectedIdentity : String} {allowLoopbackDev : Bool}
    {minimumSequence : Option UInt64} {t now : UInt64}
    (h : self.verify P authorization certificate expectedIdentity t
      allowLoopbackDev minimumSequence = Except.ok ())
    (hle : t ≤ now) (hlt : now < self.claims.expiresAt) :
    self.verify P authorization certificate expectedIdentity now
      allowLoopbackDev minimumSequence = Except.ok () := by
  rcases verify_eq_ok.mp h with ⟨grant, hauth, hcurrent⟩
  exact verify_eq_ok.mpr ⟨grant, hauth, hcurrent.later hauth.bound hle hlt⟩

theorem verify_between {self : V1SignedLocator}
    {authorization : V1GrantAuthorization} {certificate : V1DeviceCertificate}
    {expectedIdentity : String} {allowLoopbackDev : Bool}
    {minimumSequence : Option UInt64} {a b c : UInt64}
    (ha : self.verify P authorization certificate expectedIdentity a
      allowLoopbackDev minimumSequence = Except.ok ())
    (hc : self.verify P authorization certificate expectedIdentity c
      allowLoopbackDev minimumSequence = Except.ok ())
    (hab : a ≤ b) (hbc : b ≤ c) :
    self.verify P authorization certificate expectedIdentity b
      allowLoopbackDev minimumSequence = Except.ok () := by
  rcases verify_eq_ok.mp ha with ⟨grant, hauth, hfirst⟩
  rcases verify_eq_ok.mp hc with ⟨other, hother, hlast⟩
  cases hauth.bound.certificateAuthentic.grant_unique
    hother.bound.certificateAuthentic
  exact verify_eq_ok.mpr ⟨grant, hauth, hfirst.between hlast hab hbc⟩

theorem verify_unexpired {self : V1SignedLocator}
    {authorization : V1GrantAuthorization} {certificate : V1DeviceCertificate}
    {expectedIdentity : String} {allowLoopbackDev : Bool}
    {minimumSequence : Option UInt64} {now : UInt64}
    (h : self.verify P authorization certificate expectedIdentity now
      allowLoopbackDev minimumSequence = Except.ok ()) :
    now < self.claims.expiresAt := by
  rcases verify_eq_ok.mp h with ⟨grant, _, hcurrent⟩
  exact UInt64.lt_iff_toNat_lt.mpr hcurrent.locatorOpen.unexpired

/-- A signed locator passes its own check at the start of its window. -/
theorem signWithPolicy_verify [P.Lawful] {credential : V1DeviceCredential}
    {relayUrls : List Url} {instanceNonce : String} {sequence : UInt64}
    {issuedAt expiresAt : UInt64} {allowLoopbackDev : Bool}
    {locator : V1SignedLocator}
    (h : signWithPolicy P credential relayUrls instanceNonce sequence
      (issuedAt, expiresAt) allowLoopbackDev = Except.ok locator) :
    locator.claims.issuedAt = issuedAt ∧
      locator.claims.expiresAt = expiresAt ∧
      locator.verify P credential.authorization credential.certificate
        credential.identity issuedAt allowLoopbackDev none = Except.ok () := by
  unfold signWithPolicy at h
  simp only [bind_eq_ok, exists_unit, pure_eq_ok] at h
  rcases h with ⟨_, hclaims, key, hkey, rfl⟩
  refine ⟨rfl, rfl, ?_⟩
  unfold verify
  simp only [bind_eq_ok, exists_unit]
  exact ⟨hclaims, V1DeviceCredential.controlSigned_controlKey hkey _ _⟩

end V1SignedLocator

/-!
# Device records
-/

def v1DeviceRecordPath (P : Primitives) (grantCnfKey controlSigningKey : String) :
    Result String := do
  let _ <- parsePublicKey P grantCnfKey
  let _ <- parsePublicKey P controlSigningKey
  let digest := canonicalDigest P v1DevicePathDomain (Json.object
    [("grant_cnf_key", Json.string grantCnfKey),
     ("control_signing_key", Json.string controlSigningKey)])
  pure (v1DeviceRecordPathPrefix ++ digest ++ ".json")

structure V1DeviceRecord where
  authorization : V1GrantAuthorization
  certificate : V1DeviceCertificate
  locator : V1SignedLocator
  deriving DecidableEq

namespace V1DeviceRecord

variable (P : Primitives)

def toJson (self : V1DeviceRecord) : Json :=
  Json.object
    [("authorization", self.authorization.toJson),
     ("certificate", self.certificate.toJson),
     ("locator", self.locator.toJson)]

def verify (self : V1DeviceRecord) (expectedIdentity : String) (now : UInt64)
    (allowLoopbackDev : Bool) (minimumSequence : Option UInt64) :
    Result Unit := do
  ensureSerializedBound P self.toJson v1MaxDeviceRecordBytes
    "v1 device record size"
  self.certificate.verify P self.authorization expectedIdentity now
  self.locator.verify P self.authorization self.certificate expectedIdentity now
    allowLoopbackDev minimumSequence

def new (credential : V1DeviceCredential) (locator : V1SignedLocator)
    (now : UInt64) (allowLoopbackDev : Bool) : Result V1DeviceRecord := do
  let record : V1DeviceRecord :=
    { authorization := credential.authorization
      certificate := credential.certificate
      locator := locator }
  record.verify P credential.identity now allowLoopbackDev none
  pure record

def digest (self : V1DeviceRecord) : String :=
  canonicalDigest P v1DeviceRecordDigestDomain self.toJson

def path (self : V1DeviceRecord) : Result String :=
  v1DeviceRecordPath P self.certificate.claims.grantCnfKey
    self.certificate.claims.controlSigningKey

/-!
# Accepted records
-/

structure Authentic (record : V1DeviceRecord) (expectedIdentity : String)
    (allowLoopbackDev : Bool) (minimumSequence : Option UInt64)
    (grant : V1GrantAuthorization.Claims P) : Prop where
  bounded : ensureSerializedBound P record.toJson v1MaxDeviceRecordBytes
    "v1 device record size" = Except.ok ()
  locatorAuthentic : V1SignedLocator.Authentic P record.locator
    record.authorization record.certificate expectedIdentity allowLoopbackDev
    minimumSequence grant

abbrev Current (record : V1DeviceRecord)
    (grant : V1GrantAuthorization.Claims P) (now : UInt64) : Prop :=
  V1SignedLocator.Current P record.locator.claims record.certificate grant now

variable {P}

theorem Authentic.certificateAuthentic {record : V1DeviceRecord}
    {expectedIdentity : String} {allowLoopbackDev : Bool}
    {minimumSequence : Option UInt64} {grant : V1GrantAuthorization.Claims P}
    (h : Authentic P record expectedIdentity allowLoopbackDev minimumSequence
      grant) :
    V1DeviceCertificate.Authentic P record.certificate record.authorization
      expectedIdentity grant :=
  h.locatorAuthentic.bound.certificateAuthentic

theorem Authentic.identity {record : V1DeviceRecord}
    {expectedIdentity : String} {allowLoopbackDev : Bool}
    {minimumSequence : Option UInt64} {grant : V1GrantAuthorization.Claims P}
    (h : Authentic P record expectedIdentity allowLoopbackDev minimumSequence
      grant) :
    record.certificate.claims.identity = expectedIdentity :=
  h.certificateAuthentic.identity

theorem verify_eq_ok {self : V1DeviceRecord} {expectedIdentity : String}
    {now : UInt64} {allowLoopbackDev : Bool}
    {minimumSequence : Option UInt64} :
    self.verify P expectedIdentity now allowLoopbackDev minimumSequence =
        Except.ok () <->
      exists grant,
        Authentic P self expectedIdentity allowLoopbackDev minimumSequence
          grant ∧
        Current P self grant now := by
  unfold verify
  simp only [bind_eq_ok, exists_unit, V1SignedLocator.verify_eq_ok,
    V1DeviceCertificate.verify_eq_ok]
  constructor
  · intro h
    rcases h with ⟨hbounded, _, grant, hlocator, hcurrent⟩
    exact ⟨grant, ⟨hbounded, hlocator⟩, hcurrent⟩
  · intro h
    rcases h with ⟨grant, hauth, hcurrent⟩
    exact ⟨hauth.bounded,
      ⟨grant, hauth.certificateAuthentic, hcurrent.certificateCurrent⟩, grant,
      hauth.locatorAuthentic, hcurrent⟩

theorem Authentic.grant_unique {record : V1DeviceRecord}
    {expectedIdentity : String} {allowLoopbackDev : Bool}
    {minimumSequence : Option UInt64}
    {first second : V1GrantAuthorization.Claims P}
    (hfirst : Authentic P record expectedIdentity allowLoopbackDev
      minimumSequence first)
    (hsecond : Authentic P record expectedIdentity allowLoopbackDev
      minimumSequence second) : first = second :=
  hfirst.certificateAuthentic.grant_unique hsecond.certificateAuthentic

/-- A current record stays current until its locator expires. -/
theorem Current.later {record : V1DeviceRecord} {expectedIdentity : String}
    {allowLoopbackDev : Bool} {minimumSequence : Option UInt64}
    {grant : V1GrantAuthorization.Claims P} {t now : UInt64}
    (h : Current P record grant t)
    (hauth : Authentic P record expectedIdentity allowLoopbackDev
      minimumSequence grant)
    (hle : t ≤ now) (hlt : now < record.locator.claims.expiresAt) :
    Current P record grant now :=
  V1SignedLocator.Current.later h hauth.locatorAuthentic.bound hle hlt

theorem verify_later {self : V1DeviceRecord} {expectedIdentity : String}
    {allowLoopbackDev : Bool} {minimumSequence : Option UInt64}
    {t now : UInt64}
    (h : self.verify P expectedIdentity t allowLoopbackDev minimumSequence =
      Except.ok ())
    (hle : t ≤ now) (hlt : now < self.locator.claims.expiresAt) :
    self.verify P expectedIdentity now allowLoopbackDev minimumSequence =
      Except.ok () := by
  rcases verify_eq_ok.mp h with ⟨grant, hauth, hcurrent⟩
  exact verify_eq_ok.mpr ⟨grant, hauth, Current.later hcurrent hauth hle hlt⟩

theorem verify_between {self : V1DeviceRecord} {expectedIdentity : String}
    {allowLoopbackDev : Bool} {minimumSequence : Option UInt64}
    {a b c : UInt64}
    (ha : self.verify P expectedIdentity a allowLoopbackDev minimumSequence =
      Except.ok ())
    (hc : self.verify P expectedIdentity c allowLoopbackDev minimumSequence =
      Except.ok ())
    (hab : a ≤ b) (hbc : b ≤ c) :
    self.verify P expectedIdentity b allowLoopbackDev minimumSequence =
      Except.ok () := by
  rcases verify_eq_ok.mp ha with ⟨grant, hauth, hfirst⟩
  rcases verify_eq_ok.mp hc with ⟨other, hother, hlast⟩
  cases hauth.grant_unique hother
  exact verify_eq_ok.mpr ⟨grant, hauth, hfirst.between hlast hab hbc⟩

theorem verify_unexpired {self : V1DeviceRecord} {expectedIdentity : String}
    {allowLoopbackDev : Bool} {minimumSequence : Option UInt64}
    {now : UInt64}
    (h : self.verify P expectedIdentity now allowLoopbackDev minimumSequence =
      Except.ok ()) :
    now < self.locator.claims.expiresAt := by
  rcases verify_eq_ok.mp h with ⟨grant, _, hcurrent⟩
  exact UInt64.lt_iff_toNat_lt.mpr hcurrent.locatorOpen.unexpired

theorem new_eq_ok {credential : V1DeviceCredential} {locator : V1SignedLocator}
    {now : UInt64} {allowLoopbackDev : Bool} {record : V1DeviceRecord}
    (h : new P credential locator now allowLoopbackDev = Except.ok record) :
    record.authorization = credential.authorization ∧
      record.certificate = credential.certificate ∧
      record.locator = locator ∧
      record.verify P credential.identity now allowLoopbackDev none =
        Except.ok () := by
  unfold new at h
  simp only [bind_eq_ok, exists_unit, pure_eq_ok] at h
  rcases h with ⟨hverify, rfl⟩
  exact ⟨rfl, rfl, rfl, hverify⟩

end V1DeviceRecord

/-- The record is the publication of this credential, whose control key it holds. -/
structure V1DeviceCredential.Holds (P : Primitives)
    (credential : V1DeviceCredential) (record : V1DeviceRecord) : Prop where
  authorization : record.authorization = credential.authorization
  certificate : record.certificate = credential.certificate
  key : exists key, credential.controlKey P = Except.ok key

end Protocol
end Pubky2Pubky
