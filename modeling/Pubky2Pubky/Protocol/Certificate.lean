import Pubky2Pubky.Protocol.Grant

/-!
# Device certificates and credentials

The Grant's `cnf` key signs a certificate that delegates two fresh device keys.
A credential keeps the authorization, the certificate and both device secrets.
-/

namespace Pubky2Pubky
namespace Protocol

open Foundation

def v1ProtocolVersion : UInt16 := 1

def v1CertificateDomain : String := "pubky2pubky/device-certificate/v1"

def v1CertificateDigestDomain : String :=
  "pubky2pubky/device-certificate-digest/v1"

def maxDeviceIdBytes : Nat := 64

def validateDeviceId (deviceId : String) : Result Unit :=
  rejectIf (unusableText deviceId maxDeviceIdBytes)
    (ProtocolError.invalidEncoding "v1 device id")

@[ext]
structure V1DeviceCertificateClaims where
  version : UInt16
  identity : String
  grantDigest : String
  grantJti : String
  clientId : String
  grantCnfKey : String
  deviceId : String
  controlSigningKey : String
  irohEndpointId : String
  issuedAt : UInt64
  expiresAt : UInt64
  deriving DecidableEq

def V1DeviceCertificateClaims.toJson (self : V1DeviceCertificateClaims) : Json :=
  Json.object
    [("version", Json.number self.version.toNat),
     ("identity", Json.string self.identity),
     ("grant_digest", Json.string self.grantDigest),
     ("grant_jti", Json.string self.grantJti),
     ("client_id", Json.string self.clientId),
     ("grant_cnf_key", Json.string self.grantCnfKey),
     ("device_id", Json.string self.deviceId),
     ("control_signing_key", Json.string self.controlSigningKey),
     ("iroh_endpoint_id", Json.string self.irohEndpointId),
     ("issued_at", Json.number self.issuedAt.toNat),
     ("expires_at", Json.number self.expiresAt.toNat)]

structure V1DeviceCertificate where
  claims : V1DeviceCertificateClaims
  signature : String
  deriving DecidableEq

namespace V1DeviceCertificate

variable (P : Primitives)

def toJson (self : V1DeviceCertificate) : Json :=
  Json.object
    [("claims", self.claims.toJson), ("signature", Json.string self.signature)]

def controlPublicKey (self : V1DeviceCertificate) : Result P.PublicKey :=
  parsePublicKey P self.claims.controlSigningKey

/-- The control key of the certificate signed the claims. -/
def ControlSigned (certificate : V1DeviceCertificate) (domain : String)
    (claims : Json) (signature : String) : Prop :=
  exists key, certificate.controlPublicKey P = Except.ok key ∧
    verifySignature P key domain claims signature = Except.ok ()

def verify (self : V1DeviceCertificate) (authorization : V1GrantAuthorization)
    (expectedIdentity : String) (now : UInt64) : Result Unit := do
  let grant <- authorization.verify P expectedIdentity now
  rejectIf (self.claims.version ≠ v1ProtocolVersion)
    (ProtocolError.unsupportedVersion self.claims.version)
  rejectIf (self.claims.identity ≠ expectedIdentity ∨
      self.claims.identity ≠ P.z32 grant.iss)
    ProtocolError.identityMismatch
  validateDeviceId self.claims.deviceId
  validateDigest P self.claims.grantDigest "v1 Grant digest"
  rejectIf (self.claims.grantDigest ≠ authorization.digest P ∨
      self.claims.grantJti ≠ grant.jti ∨
      self.claims.clientId ≠ grant.clientId ∨
      self.claims.grantCnfKey ≠ P.z32 grant.cnf)
    ProtocolError.deviceMismatch
  validateBoundedWindow self.claims.issuedAt self.claims.expiresAt now
    v1MaxDeviceCertificateLifetimeSeconds "v1 certificate lifetime"
  rejectIf (self.claims.issuedAt < grant.iat ∨ self.claims.expiresAt > grant.exp)
    ProtocolError.invalidTimeWindow
  let root <- parsePublicKey P self.claims.identity
  let cnf <- parsePublicKey P self.claims.grantCnfKey
  let control <- parsePublicKey P self.claims.controlSigningKey
  let iroh <- parsePublicKey P self.claims.irohEndpointId
  rejectIf (control = iroh ∨ control = root ∨ control = cnf ∨ iroh = root ∨
      iroh = cnf ∨ cnf ≠ grant.cnf)
    (ProtocolError.invalidEncoding "independent v1 device keys")
  verifySignature P cnf v1CertificateDomain self.claims.toJson self.signature

def digest (self : V1DeviceCertificate) : String :=
  canonicalDigest P v1CertificateDigestDomain self.toJson

/-- The certificate claims that delegate two keys under an authorization. -/
def delegation (authorization : V1GrantAuthorization)
    (grant : V1GrantAuthorization.Claims P)
    (deviceId controlSigningKey irohEndpointId : String)
    (issuedAt expiresAt : UInt64) : V1DeviceCertificateClaims :=
  { version := v1ProtocolVersion
    identity := P.z32 grant.iss
    grantDigest := authorization.digest P
    grantJti := grant.jti
    clientId := grant.clientId
    grantCnfKey := P.z32 grant.cnf
    deviceId := deviceId
    controlSigningKey := controlSigningKey
    irohEndpointId := irohEndpointId
    issuedAt := issuedAt
    expiresAt := expiresAt }

/-!
# Accepted certificates
-/

/-- Everything a successful verification establishes besides the two windows. -/
structure Authentic (certificate : V1DeviceCertificate)
    (authorization : V1GrantAuthorization) (expectedIdentity : String)
    (grant : V1GrantAuthorization.Claims P) : Prop where
  grantAuthentic : V1GrantAuthorization.Authentic P authorization
    expectedIdentity grant
  version : certificate.claims.version = v1ProtocolVersion
  identity : certificate.claims.identity = expectedIdentity
  deviceId : ¬ unusableText certificate.claims.deviceId maxDeviceIdBytes
  digestForm : validateDigest P certificate.claims.grantDigest "v1 Grant digest" =
    Except.ok ()
  grantDigest : certificate.claims.grantDigest = authorization.digest P
  grantJti : certificate.claims.grantJti = grant.jti
  clientId : certificate.claims.clientId = grant.clientId
  grantCnfKey : certificate.claims.grantCnfKey = P.z32 grant.cnf
  notBefore : grant.iat ≤ certificate.claims.issuedAt
  notAfter : certificate.claims.expiresAt ≤ grant.exp
  keys : exists control iroh : P.PublicKey,
    parsePublicKey P certificate.claims.controlSigningKey = Except.ok control ∧
    parsePublicKey P certificate.claims.irohEndpointId = Except.ok iroh ∧
    control ≠ iroh ∧ control ≠ grant.iss ∧ control ≠ grant.cnf ∧
    iroh ≠ grant.iss ∧ iroh ≠ grant.cnf
  cnfForm : parsePublicKey P certificate.claims.grantCnfKey = Except.ok grant.cnf
  signed : verifySignature P grant.cnf v1CertificateDomain certificate.claims.toJson
    certificate.signature = Except.ok ()

/-- The time-dependent content of a successful verification. -/
structure Current (certificate : V1DeviceCertificate)
    (grant : V1GrantAuthorization.Claims P) (now : UInt64) : Prop where
  grantOpen : WindowOpen grant.iat grant.exp v1MaxGrantLifetimeSeconds now
  certificateOpen : WindowOpen certificate.claims.issuedAt
    certificate.claims.expiresAt v1MaxDeviceCertificateLifetimeSeconds now

variable {P}

theorem verify_eq_ok {self : V1DeviceCertificate}
    {authorization : V1GrantAuthorization} {expectedIdentity : String}
    {now : UInt64} :
    self.verify P authorization expectedIdentity now = Except.ok () <->
      exists grant, Authentic P self authorization expectedIdentity grant ∧
        Current P self grant now := by
  unfold verify validateDeviceId
  simp only [bind_eq_ok, rejectIf_eq_ok, exists_unit,
    validateBoundedWindow_eq_ok, V1GrantAuthorization.verify_eq_ok, not_or,
    not_not, gt_iff_lt, UInt64.not_lt]
  constructor
  · intro h
    rcases h with ⟨grant, ⟨hgrant, hgrantWindow⟩, hversion, hidentity, hdevice,
      hform, hbound, hwindow, hinside, root, hroot, cnf, hcnf, control,
      hcontrol, iroh, hiroh, hkeys, hsigned⟩
    rcases hbound with ⟨hdigest, hjti, hclient, hcnfKey⟩
    rcases hkeys with ⟨hci, hcr, hcc, hir, hic, rfl⟩
    have hrootEq : root = grant.iss := by
      have hid : self.claims.identity = expectedIdentity := hidentity.left
      rw [hid, hgrant.identity] at hroot
      injection hroot with heq
      exact heq.symm
    subst hrootEq
    exact ⟨grant,
      ⟨hgrant, hversion, hidentity.left, hdevice, hform, hdigest, hjti,
        hclient, hcnfKey, hinside.left, hinside.right,
        ⟨control, iroh, hcontrol, hiroh, hci, hcr, hcc, hir, hic⟩, hcnf,
        hsigned⟩,
      ⟨hgrantWindow, hwindow⟩⟩
  · intro h
    rcases h with ⟨grant, hauth, hcurrent⟩
    rcases hauth.keys with
      ⟨control, iroh, hcontrol, hiroh, hci, hcr, hcc, hir, hic⟩
    have hroot : parsePublicKey P self.claims.identity =
        Except.ok grant.iss := by
      rw [hauth.identity]
      exact hauth.grantAuthentic.identity
    have hz32 : self.claims.identity = P.z32 grant.iss := by
      rw [hauth.identity, hauth.grantAuthentic.z32_iss]
    exact ⟨grant, ⟨hauth.grantAuthentic, hcurrent.grantOpen⟩, hauth.version,
      ⟨hauth.identity, hz32⟩, hauth.deviceId, hauth.digestForm,
      ⟨hauth.grantDigest, hauth.grantJti, hauth.clientId, hauth.grantCnfKey⟩,
      hcurrent.certificateOpen, ⟨hauth.notBefore, hauth.notAfter⟩, grant.iss,
      hroot, grant.cnf, hauth.cnfForm, control, hcontrol, iroh, hiroh,
      ⟨hci, hcr, hcc, hir, hic, rfl⟩, hauth.signed⟩

/-- The issuer's window lies inside the Grant's, so only its own expiry matters. -/
theorem Current.later {self : V1DeviceCertificate}
    {authorization : V1GrantAuthorization} {expectedIdentity : String}
    {grant : V1GrantAuthorization.Claims P} {t now : UInt64}
    (hauth : Authentic P self authorization expectedIdentity grant)
    (h : Current P self grant t) (hle : t ≤ now)
    (hlt : now < self.claims.expiresAt) : Current P self grant now := by
  have hgrant : now < grant.exp :=
    UInt64.lt_of_lt_of_le hlt hauth.notAfter
  exact ⟨h.grantOpen.later hle hgrant, h.certificateOpen.later hle hlt⟩

theorem Current.between {self : V1DeviceCertificate}
    {grant : V1GrantAuthorization.Claims P} {a b c : UInt64}
    (ha : Current P self grant a) (hc : Current P self grant c)
    (hab : a ≤ b) (hbc : b ≤ c) : Current P self grant b :=
  ⟨ha.grantOpen.between hc.grantOpen hab hbc,
    ha.certificateOpen.between hc.certificateOpen hab hbc⟩

theorem Authentic.grant_unique {self : V1DeviceCertificate}
    {authorization : V1GrantAuthorization} {expectedIdentity : String}
    {first second : V1GrantAuthorization.Claims P}
    (hfirst : Authentic P self authorization expectedIdentity first)
    (hsecond : Authentic P self authorization expectedIdentity second) :
    first = second :=
  hfirst.grantAuthentic.claims_unique hsecond.grantAuthentic

theorem verify_later {self : V1DeviceCertificate}
    {authorization : V1GrantAuthorization} {expectedIdentity : String}
    {t now : UInt64}
    (h : self.verify P authorization expectedIdentity t = Except.ok ())
    (hle : t ≤ now) (hlt : now < self.claims.expiresAt) :
    self.verify P authorization expectedIdentity now = Except.ok () := by
  rcases verify_eq_ok.mp h with ⟨grant, hauth, hcurrent⟩
  exact verify_eq_ok.mpr ⟨grant, hauth, hcurrent.later hauth hle hlt⟩

theorem verify_between {self : V1DeviceCertificate}
    {authorization : V1GrantAuthorization} {expectedIdentity : String}
    {a b c : UInt64}
    (ha : self.verify P authorization expectedIdentity a = Except.ok ())
    (hc : self.verify P authorization expectedIdentity c = Except.ok ())
    (hab : a ≤ b) (hbc : b ≤ c) :
    self.verify P authorization expectedIdentity b = Except.ok () := by
  rcases verify_eq_ok.mp ha with ⟨grant, hauth, hcurrent⟩
  rcases verify_eq_ok.mp hc with ⟨other, hother, hlast⟩
  cases hauth.grant_unique hother
  exact verify_eq_ok.mpr ⟨grant, hauth, hcurrent.between hlast hab hbc⟩

theorem verify_unexpired {self : V1DeviceCertificate}
    {authorization : V1GrantAuthorization} {expectedIdentity : String}
    {now : UInt64}
    (h : self.verify P authorization expectedIdentity now = Except.ok ()) :
    now < self.claims.expiresAt := by
  rcases verify_eq_ok.mp h with ⟨grant, _, hcurrent⟩
  exact UInt64.lt_iff_toNat_lt.mpr hcurrent.certificateOpen.unexpired

end V1DeviceCertificate

/-!
# Device credentials
-/

structure V1DeviceCredential where
  authorization : V1GrantAuthorization
  certificate : V1DeviceCertificate
  controlSigningSecret : String
  irohSecret : String

structure V1DeviceCredentialDraft where
  authorization : V1GrantAuthorization
  certificateClaims : V1DeviceCertificateClaims
  controlSigningSecret : String
  irohSecret : String

namespace V1DeviceCredential

variable (P : Primitives)

def identity (self : V1DeviceCredential) : String :=
  self.certificate.claims.identity

def controlSigningKey (self : V1DeviceCredential) : String :=
  self.certificate.claims.controlSigningKey

def irohEndpointId (self : V1DeviceCredential) : String :=
  self.certificate.claims.irohEndpointId

def decodeSecret (encoded expectedPublic label : String) : Result P.Keypair := do
  let bytes <- decodeCanonicalBase64 P encoded label
  rejectIf (bytes.length ≠ 32) (ProtocolError.invalidEncoding label)
  rejectIf (P.z32 (P.publicKey (P.fromSecret bytes)) ≠ expectedPublic)
    (ProtocolError.invalidEncoding label)
  pure (P.fromSecret bytes)

def controlKey (self : V1DeviceCredential) : Result P.Keypair :=
  decodeSecret P self.controlSigningSecret self.controlSigningKey
    "v1 control-signing secret"

def irohSecretKeyBytes (self : V1DeviceCredential) : Result Bytes := do
  let key <- decodeSecret P self.irohSecret self.irohEndpointId "v1 iroh secret"
  pure (P.secret key)

def verify (self : V1DeviceCredential) (now : UInt64) : Result Unit := do
  self.certificate.verify P self.authorization self.identity now
  let _ <- self.controlKey P
  let _ <- self.irohSecretKeyBytes P
  pure ()

/-- The two random keypairs are drawn by the caller. -/
def prepare (authorization : V1GrantAuthorization) (expectedIdentity : String)
    (deviceId : String) (issuedAt expiresAt : UInt64)
    (control iroh : P.Keypair) : Result V1DeviceCredentialDraft := do
  let grant <- authorization.verify P expectedIdentity issuedAt
  validateDeviceId deviceId
  validateBoundedWindow issuedAt expiresAt issuedAt
    v1MaxDeviceCertificateLifetimeSeconds "v1 certificate lifetime"
  rejectIf (issuedAt < grant.iat ∨ expiresAt > grant.exp)
    ProtocolError.invalidTimeWindow
  pure
    { certificateClaims :=
        { version := v1ProtocolVersion
          identity := P.z32 grant.iss
          grantDigest := authorization.digest P
          grantJti := grant.jti
          clientId := grant.clientId
          grantCnfKey := P.z32 grant.cnf
          deviceId := deviceId
          controlSigningKey := P.z32 (P.publicKey control)
          irohEndpointId := P.z32 (P.publicKey iroh)
          issuedAt := issuedAt
          expiresAt := expiresAt }
      authorization := authorization
      controlSigningSecret := P.base64Encode (P.secret control)
      irohSecret := P.base64Encode (P.secret iroh) }

def finalize (draft : V1DeviceCredentialDraft) (signature : Bytes) :
    Result V1DeviceCredential := do
  let decoded <- okOr (P.signatureFromSlice signature)
    (ProtocolError.invalidEncoding "v1 certificate signature")
  let credential : V1DeviceCredential :=
    { authorization := draft.authorization
      certificate :=
        { claims := draft.certificateClaims
          signature := encodeSignature P decoded }
      controlSigningSecret := draft.controlSigningSecret
      irohSecret := draft.irohSecret }
  credential.verify P draft.certificateClaims.issuedAt
  pure credential

def certificateSigningBytes (draft : V1DeviceCredentialDraft) : Bytes :=
  canonicalForSigning P v1CertificateDomain draft.certificateClaims.toJson

def issue (authorization : V1GrantAuthorization) (expectedIdentity : String)
    (grantCnf : P.Keypair) (deviceId : String) (issuedAt expiresAt : UInt64)
    (control iroh : P.Keypair) : Result V1DeviceCredential := do
  let draft <- prepare P authorization expectedIdentity deviceId issuedAt
    expiresAt control iroh
  rejectIf (draft.certificateClaims.grantCnfKey ≠ P.z32 (P.publicKey grantCnf))
    ProtocolError.deviceMismatch
  let signature := P.sign grantCnf (certificateSigningBytes P draft)
  finalize P draft (P.signatureToBytes signature)

variable {P}

theorem decodeSecret_public {encoded expectedPublic label : String} {key : P.Keypair}
    (h : decodeSecret P encoded expectedPublic label = Except.ok key) :
    P.z32 (P.publicKey key) = expectedPublic := by
  unfold decodeSecret at h
  simp only [bind_eq_ok, rejectIf_eq_ok, exists_unit, pure_eq_ok, not_not] at h
  rcases h with ⟨bytes, _, _, hpublic, rfl⟩
  exact hpublic

theorem decodeSecret_secret [P.Lawful] (key : P.Keypair) (label : String) :
    decodeSecret P (P.base64Encode (P.secret key)) (P.z32 (P.publicKey key))
        label = Except.ok key := by
  unfold decodeSecret
  rw [decodeCanonicalBase64_encode, ok_bind,
    rejectIf_of_not (not_not.mpr (Primitives.Lawful.secret_length key)),
    ok_bind, Primitives.Lawful.fromSecret_secret,
    rejectIf_of_not (not_not.mpr rfl)]
  rfl

/-- What a credential signs with its control key verifies under its certificate. -/
theorem controlSigned_controlKey [P.Lawful] {credential : V1DeviceCredential}
    {key : P.Keypair} (h : credential.controlKey P = Except.ok key)
    (domain : String) (claims : Json) :
    credential.certificate.ControlSigned P domain claims
      (encodeSignature P
        (P.sign key (canonicalForSigning P domain claims))) := by
  have hpublic : P.z32 (P.publicKey key) =
      credential.certificate.claims.controlSigningKey :=
    decodeSecret_public h
  unfold V1DeviceCertificate.ControlSigned V1DeviceCertificate.controlPublicKey
  rw [← hpublic, parsePublicKey_z32]
  exact ⟨P.publicKey key, rfl, verifySignature_sign key domain claims⟩

theorem verify_eq_ok {self : V1DeviceCredential} {now : UInt64} :
    self.verify P now = Except.ok () <->
      self.certificate.verify P self.authorization self.identity now =
          Except.ok () ∧
        (exists key, self.controlKey P = Except.ok key) ∧
        exists bytes, self.irohSecretKeyBytes P = Except.ok bytes := by
  unfold verify
  simp only [bind_eq_ok, exists_unit, pure_eq_ok, and_true]
  constructor
  · intro h
    rcases h with ⟨hcertificate, key, hkey, bytes, hbytes⟩
    exact ⟨hcertificate, ⟨key, hkey⟩, bytes, hbytes⟩
  · intro h
    rcases h with ⟨hcertificate, ⟨key, hkey⟩, bytes, hbytes⟩
    exact ⟨hcertificate, key, hkey, bytes, hbytes⟩

theorem finalize_verify {draft : V1DeviceCredentialDraft} {signature : Bytes}
    {credential : V1DeviceCredential}
    (h : finalize P draft signature = Except.ok credential) :
    credential.authorization = draft.authorization ∧
      credential.certificate.claims = draft.certificateClaims ∧
      credential.verify P draft.certificateClaims.issuedAt = Except.ok () := by
  unfold finalize at h
  simp only [bind_eq_ok, okOr_eq_ok, exists_unit, pure_eq_ok] at h
  rcases h with ⟨decoded, _, hverify, rfl⟩
  exact ⟨rfl, rfl, hverify⟩

theorem prepare_eq_ok {authorization : V1GrantAuthorization}
    {expectedIdentity deviceId : String} {issuedAt expiresAt : UInt64}
    {control iroh : P.Keypair} {draft : V1DeviceCredentialDraft}
    (h : prepare P authorization expectedIdentity deviceId issuedAt expiresAt
      control iroh = Except.ok draft) :
    draft.authorization = authorization ∧
      draft.certificateClaims.identity = expectedIdentity ∧
      draft.certificateClaims.issuedAt = issuedAt ∧
      draft.certificateClaims.expiresAt = expiresAt := by
  unfold prepare at h
  simp only [bind_eq_ok, rejectIf_eq_ok, exists_unit, pure_eq_ok] at h
  rcases h with ⟨grant, hgrant, _, _, _, rfl⟩
  have hidentity : P.z32 grant.iss = expectedIdentity :=
    (V1GrantAuthorization.verify_eq_ok.mp hgrant).left.z32_iss
  exact ⟨rfl, hidentity, rfl, rfl⟩

/-- Issuing is preparing a draft and finalizing it with the `cnf` signature. -/
theorem issue_eq_ok {authorization : V1GrantAuthorization}
    {expectedIdentity deviceId : String} {grantCnf control iroh : P.Keypair}
    {issuedAt expiresAt : UInt64} {credential : V1DeviceCredential}
    (h : issue P authorization expectedIdentity grantCnf deviceId issuedAt
      expiresAt control iroh = Except.ok credential) :
    exists draft signature,
      prepare P authorization expectedIdentity deviceId issuedAt expiresAt
        control iroh = Except.ok draft ∧
      finalize P draft signature = Except.ok credential := by
  unfold issue at h
  simp only [bind_eq_ok, rejectIf_eq_ok, exists_unit] at h
  rcases h with ⟨draft, hprepare, _, hfinalize⟩
  exact ⟨draft, _, hprepare, hfinalize⟩

end V1DeviceCredential

end Protocol
end Pubky2Pubky
