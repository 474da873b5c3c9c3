import Pubky2Pubky.Protocol.Ack

/-!
# Currentness proofs

Each side publishes a short-lived proof that its record is still current. Both
proofs carry the same challenge, the responder's nonce, and opposite roles.
-/

namespace Pubky2Pubky
namespace Protocol

open Foundation

def v1MaxCurrentnessProofBytes : Nat := 4 * 1024

def v1CurrentnessPathPrefix : String := "/pub/pubky2pubky/v1/currentness/"

def v1CurrentnessDomain : String := "pubky2pubky/currentness/v1"

def v1CurrentnessPathDomain : String := "pubky2pubky/currentness-path/v1"

inductive V1CurrentnessRole where
  | initiator
  | responder
  deriving DecidableEq, Repr

def V1CurrentnessRole.toJson : V1CurrentnessRole -> Json
  | initiator => Json.string "initiator"
  | responder => Json.string "responder"

@[ext]
structure V1CurrentnessClaims where
  version : UInt16
  role : V1CurrentnessRole
  challenge : String
  helloDigest : String
  deviceRecordDigest : String
  grantDigest : String
  locatorDigest : String
  issuedAt : UInt64
  expiresAt : UInt64
  deriving DecidableEq

def V1CurrentnessClaims.toJson (self : V1CurrentnessClaims) : Json :=
  Json.object
    [("version", Json.number self.version.toNat),
     ("role", self.role.toJson),
     ("challenge", Json.string self.challenge),
     ("hello_digest", Json.string self.helloDigest),
     ("device_record_digest", Json.string self.deviceRecordDigest),
     ("grant_digest", Json.string self.grantDigest),
     ("locator_digest", Json.string self.locatorDigest),
     ("issued_at", Json.number self.issuedAt.toNat),
     ("expires_at", Json.number self.expiresAt.toNat)]

structure V1SignedCurrentnessProof where
  claims : V1CurrentnessClaims
  signature : String
  deriving DecidableEq

def v1CurrentnessPath (P : Primitives) (role : V1CurrentnessRole)
    (challenge helloDigest deviceRecordDigest grantDigest locatorDigest : String) :
    Result String := do
  validateChallenge P challenge "v1 currentness challenge"
  validateDigest P helloDigest "v1 Hello digest"
  validateDigest P deviceRecordDigest "v1 device record digest"
  validateDigest P grantDigest "v1 Grant digest"
  validateDigest P locatorDigest "v1 locator digest"
  let digest := canonicalDigest P v1CurrentnessPathDomain (Json.object
    [("role", role.toJson),
     ("challenge", Json.string challenge),
     ("hello_digest", Json.string helloDigest),
     ("device_record_digest", Json.string deviceRecordDigest),
     ("grant_digest", Json.string grantDigest),
     ("locator_digest", Json.string locatorDigest)])
  pure (v1CurrentnessPathPrefix ++ digest ++ ".json")

/-- Order the two records as initiator and responder. -/
def recordsForRole (role : V1CurrentnessRole)
    (ownRecord peerRecord : V1DeviceRecord) : V1DeviceRecord × V1DeviceRecord :=
  match role with
  | V1CurrentnessRole.initiator => (ownRecord, peerRecord)
  | V1CurrentnessRole.responder => (peerRecord, ownRecord)

namespace V1SignedCurrentnessProof

variable (P : Primitives)

def toJson (self : V1SignedCurrentnessProof) : Json :=
  Json.object
    [("claims", self.claims.toJson), ("signature", Json.string self.signature)]

def validateClaims (claims : V1CurrentnessClaims)
    (ownRecord peerRecord : V1DeviceRecord) (hello : V1SignedHello)
    (expectedRole : V1CurrentnessRole) (expectedChallenge : String)
    (now : UInt64) (allowLoopbackDev : Bool) : Result Unit := do
  rejectIf (claims.version ≠ v1ProtocolVersion)
    (ProtocolError.unsupportedVersion claims.version)
  rejectIf (claims.role ≠ expectedRole) ProtocolError.deviceMismatch
  validateChallenge P claims.challenge "v1 currentness challenge"
  rejectIf (claims.challenge ≠ expectedChallenge ∨
      claims.challenge = hello.claims.sessionNonce)
    (ProtocolError.invalidEncoding "v1 currentness challenge binding")
  let (initiatorRecord, responderRecord) :=
    recordsForRole expectedRole ownRecord peerRecord
  hello.verify P initiatorRecord responderRecord hello.claims.application now
    allowLoopbackDev
  validateDigest P claims.helloDigest "v1 Hello digest"
  validateDigest P claims.deviceRecordDigest "v1 device record digest"
  validateDigest P claims.grantDigest "v1 Grant digest"
  validateDigest P claims.locatorDigest "v1 locator digest"
  rejectIf (claims.helloDigest ≠ hello.digest P ∨
      claims.deviceRecordDigest ≠ ownRecord.digest P ∨
      claims.grantDigest ≠ ownRecord.authorization.digest P ∨
      claims.locatorDigest ≠ ownRecord.locator.digest P)
    ProtocolError.deviceMismatch
  validateCurrentnessWindow claims.issuedAt claims.expiresAt now
  rejectIf (claims.issuedAt < hello.claims.issuedAt ∨
      claims.expiresAt > hello.claims.expiresAt ∨
      claims.expiresAt > ownRecord.locator.claims.expiresAt)
    ProtocolError.invalidTimeWindow

/-- The claims a signer in the given role builds. -/
def statement (ownRecord : V1DeviceRecord) (hello : V1SignedHello)
    (role : V1CurrentnessRole) (challenge : String)
    (issuedAt expiresAt : UInt64) : V1CurrentnessClaims :=
  { version := v1ProtocolVersion
    role := role
    challenge := challenge
    helloDigest := hello.digest P
    deviceRecordDigest := ownRecord.digest P
    grantDigest := ownRecord.authorization.digest P
    locatorDigest := ownRecord.locator.digest P
    issuedAt := issuedAt
    expiresAt := expiresAt }

def sign (credential : V1DeviceCredential)
    (ownRecord peerRecord : V1DeviceRecord) (hello : V1SignedHello)
    (role : V1CurrentnessRole) (challenge : String)
    (issuedAt expiresAt : UInt64) (allowLoopbackDev : Bool) :
    Result V1SignedCurrentnessProof := do
  rejectIf (ownRecord.authorization ≠ credential.authorization ∨
      ownRecord.certificate ≠ credential.certificate)
    ProtocolError.deviceMismatch
  let (initiatorRecord, responderRecord) :=
    recordsForRole role ownRecord peerRecord
  hello.verify P initiatorRecord responderRecord hello.claims.application
    issuedAt allowLoopbackDev
  let claims :=
    statement P ownRecord hello role challenge issuedAt expiresAt
  validateClaims P claims ownRecord peerRecord hello role claims.challenge
    issuedAt allowLoopbackDev
  let key <- credential.controlKey P
  let signature :=
    P.sign key (canonicalForSigning P v1CurrentnessDomain claims.toJson)
  let proof : V1SignedCurrentnessProof :=
    { claims := claims, signature := encodeSignature P signature }
  ensureSerializedBound P proof.toJson v1MaxCurrentnessProofBytes
    "v1 currentness proof size"
  pure proof

def verify (self : V1SignedCurrentnessProof)
    (ownRecord peerRecord : V1DeviceRecord) (hello : V1SignedHello)
    (expectedRole : V1CurrentnessRole) (expectedChallenge : String)
    (now : UInt64) (allowLoopbackDev : Bool) : Result Unit := do
  ensureSerializedBound P self.toJson v1MaxCurrentnessProofBytes
    "v1 currentness proof size"
  validateClaims P self.claims ownRecord peerRecord hello expectedRole
    expectedChallenge now allowLoopbackDev
  let key <- ownRecord.certificate.controlPublicKey P
  verifySignature P key v1CurrentnessDomain self.claims.toJson self.signature

def path (self : V1SignedCurrentnessProof) : Result String :=
  v1CurrentnessPath P self.claims.role self.claims.challenge
    self.claims.helloDigest self.claims.deviceRecordDigest
    self.claims.grantDigest self.claims.locatorDigest

/-!
# Accepted proofs

Only the window of an accepted proof is left open by the Hello, the signer's
record, the role and the challenge.
-/

/-- The Hello is accepted for the records ordered by role. -/
def HelloAccepted (hello : V1SignedHello) (role : V1CurrentnessRole)
    (ownRecord peerRecord : V1DeviceRecord) (allowLoopbackDev : Bool)
    (now : UInt64) : Prop :=
  hello.verify P (recordsForRole role ownRecord peerRecord).1
    (recordsForRole role ownRecord peerRecord).2 hello.claims.application now
    allowLoopbackDev = Except.ok ()

/-- The bindings of proof claims to the Hello and to the signer's record. -/
structure Bound (claims : V1CurrentnessClaims) (ownRecord : V1DeviceRecord)
    (hello : V1SignedHello) (role : V1CurrentnessRole) (challenge : String) :
    Prop where
  determined : claims = statement P ownRecord hello role challenge
    claims.issuedAt claims.expiresAt
  challengeForm : validateChallenge P challenge "v1 currentness challenge" =
    Except.ok ()
  freshChallenge : challenge ≠ hello.claims.sessionNonce
  helloDigestForm : validateDigest P (hello.digest P) "v1 Hello digest" =
    Except.ok ()
  recordDigestForm : validateDigest P (ownRecord.digest P)
    "v1 device record digest" = Except.ok ()
  grantDigestForm : validateDigest P (ownRecord.authorization.digest P)
    "v1 Grant digest" = Except.ok ()
  locatorDigestForm : validateDigest P (ownRecord.locator.digest P)
    "v1 locator digest" = Except.ok ()
  afterHello : hello.claims.issuedAt ≤ claims.issuedAt
  beforeHello : claims.expiresAt ≤ hello.claims.expiresAt
  beforeLocator : claims.expiresAt ≤ ownRecord.locator.claims.expiresAt

variable {P}

theorem validateClaims_eq_ok {claims : V1CurrentnessClaims}
    {ownRecord peerRecord : V1DeviceRecord} {hello : V1SignedHello}
    {expectedRole : V1CurrentnessRole} {expectedChallenge : String}
    {now : UInt64} {allowLoopbackDev : Bool} :
    validateClaims P claims ownRecord peerRecord hello expectedRole
        expectedChallenge now allowLoopbackDev = Except.ok () <->
      HelloAccepted P hello expectedRole ownRecord peerRecord allowLoopbackDev
          now ∧
        Bound P claims ownRecord hello expectedRole expectedChallenge ∧
        LiveWindow claims.issuedAt claims.expiresAt now := by
  unfold validateClaims HelloAccepted
  simp only [bind_eq_ok, rejectIf_eq_ok, exists_unit,
    validateCurrentnessWindow_eq_ok, not_or, not_not, gt_iff_lt, UInt64.not_lt]
  constructor
  · intro h
    rcases h with ⟨hversion, hrole, hform, hchallenge, hhello, hhelloForm,
      hrecordForm, hgrantForm, hlocatorForm, hdigests, hwindow, hinside⟩
    rcases hdigests with ⟨hhelloDigest, hrecord, hgrant, hlocator⟩
    rcases hchallenge with ⟨hbinding, hfresh⟩
    rw [hhelloDigest] at hhelloForm
    rw [hrecord] at hrecordForm
    rw [hgrant] at hgrantForm
    rw [hlocator] at hlocatorForm
    rw [hbinding] at hform hfresh
    exact ⟨hhello,
      ⟨V1CurrentnessClaims.ext hversion hrole hbinding hhelloDigest hrecord
          hgrant hlocator rfl rfl,
        hform, hfresh, hhelloForm, hrecordForm, hgrantForm, hlocatorForm,
        hinside.left, hinside.right.left, hinside.right.right⟩,
      hwindow⟩
  · intro h
    rcases h with ⟨hhello, hbound, hwindow⟩
    have hchallenge : claims.challenge = expectedChallenge := by
      rw [hbound.determined]
      rfl
    have hhelloDigest : claims.helloDigest = hello.digest P := by
      rw [hbound.determined]
      rfl
    have hrecord : claims.deviceRecordDigest = ownRecord.digest P := by
      rw [hbound.determined]
      rfl
    have hgrant : claims.grantDigest = ownRecord.authorization.digest P := by
      rw [hbound.determined]
      rfl
    have hlocator : claims.locatorDigest = ownRecord.locator.digest P := by
      rw [hbound.determined]
      rfl
    rw [hchallenge, hhelloDigest, hrecord, hgrant, hlocator]
    refine ⟨?_, ?_, hbound.challengeForm, ⟨rfl, hbound.freshChallenge⟩, hhello,
      hbound.helloDigestForm, hbound.recordDigestForm, hbound.grantDigestForm,
      hbound.locatorDigestForm, ⟨rfl, rfl, rfl, rfl⟩, hwindow,
      hbound.afterHello, hbound.beforeHello, hbound.beforeLocator⟩
    · rw [hbound.determined]
      rfl
    · rw [hbound.determined]
      rfl

theorem verify_eq_ok {self : V1SignedCurrentnessProof}
    {ownRecord peerRecord : V1DeviceRecord} {hello : V1SignedHello}
    {expectedRole : V1CurrentnessRole} {expectedChallenge : String}
    {now : UInt64} {allowLoopbackDev : Bool} :
    self.verify P ownRecord peerRecord hello expectedRole expectedChallenge now
        allowLoopbackDev = Except.ok () <->
      ensureSerializedBound P self.toJson v1MaxCurrentnessProofBytes
          "v1 currentness proof size" = Except.ok () ∧
        HelloAccepted P hello expectedRole ownRecord peerRecord
          allowLoopbackDev now ∧
        Bound P self.claims ownRecord hello expectedRole expectedChallenge ∧
        ownRecord.certificate.ControlSigned P v1CurrentnessDomain
          self.claims.toJson self.signature ∧
        LiveWindow self.claims.issuedAt self.claims.expiresAt now := by
  unfold verify
  simp only [bind_eq_ok, exists_unit, validateClaims_eq_ok]
  constructor
  · intro h
    rcases h with ⟨hbounded, ⟨hhello, hbound, hwindow⟩, hsigned⟩
    exact ⟨hbounded, hhello, hbound, hsigned, hwindow⟩
  · intro h
    rcases h with ⟨hbounded, hhello, hbound, hsigned, hwindow⟩
    exact ⟨hbounded, ⟨hhello, hbound, hwindow⟩, hsigned⟩

/-- An accepted proof stays accepted until its own expiry. -/
theorem verify_later {self : V1SignedCurrentnessProof}
    {ownRecord peerRecord : V1DeviceRecord} {hello : V1SignedHello}
    {role : V1CurrentnessRole} {challenge : String} {allowLoopbackDev : Bool}
    {t now : UInt64}
    (h : self.verify P ownRecord peerRecord hello role challenge t
      allowLoopbackDev = Except.ok ())
    (hle : t ≤ now) (hlt : now < self.claims.expiresAt) :
    self.verify P ownRecord peerRecord hello role challenge now
      allowLoopbackDev = Except.ok () := by
  rcases verify_eq_ok.mp h with ⟨hbounded, hhello, hbound, hsigned, hwindow⟩
  have hhelloLt : now < hello.claims.expiresAt :=
    UInt64.lt_of_lt_of_le hlt hbound.beforeHello
  exact verify_eq_ok.mpr ⟨hbounded,
    V1SignedHello.verify_later hhello hle hhelloLt, hbound, hsigned,
    hwindow.later hle hlt⟩

theorem verify_between {self : V1SignedCurrentnessProof}
    {ownRecord peerRecord : V1DeviceRecord} {hello : V1SignedHello}
    {role : V1CurrentnessRole} {challenge : String} {allowLoopbackDev : Bool}
    {a b c : UInt64}
    (ha : self.verify P ownRecord peerRecord hello role challenge a
      allowLoopbackDev = Except.ok ())
    (hc : self.verify P ownRecord peerRecord hello role challenge c
      allowLoopbackDev = Except.ok ())
    (hab : a ≤ b) (hbc : b ≤ c) :
    self.verify P ownRecord peerRecord hello role challenge b
      allowLoopbackDev = Except.ok () := by
  rcases verify_eq_ok.mp ha with ⟨hbounded, hfirst, hbound, hsigned, hopen⟩
  rcases verify_eq_ok.mp hc with ⟨_, hlast, _, _, hclosing⟩
  exact verify_eq_ok.mpr ⟨hbounded,
    V1SignedHello.verify_between hfirst hlast hab hbc, hbound, hsigned,
    hopen.between hclosing hab hbc⟩

/-- The window of an accepted proof is open, and it has at most thirty instants. -/
theorem verify_live {self : V1SignedCurrentnessProof}
    {ownRecord peerRecord : V1DeviceRecord} {hello : V1SignedHello}
    {role : V1CurrentnessRole} {challenge : String} {allowLoopbackDev : Bool}
    {now : UInt64}
    (h : self.verify P ownRecord peerRecord hello role challenge now
      allowLoopbackDev = Except.ok ()) :
    LiveWindow self.claims.issuedAt self.claims.expiresAt now := by
  rcases verify_eq_ok.mp h with ⟨_, _, _, _, hwindow⟩
  exact hwindow

theorem sign_verify [P.Lawful] {credential : V1DeviceCredential}
    {ownRecord peerRecord : V1DeviceRecord} {hello : V1SignedHello}
    {role : V1CurrentnessRole} {challenge : String}
    {issuedAt expiresAt : UInt64} {allowLoopbackDev : Bool}
    {proof : V1SignedCurrentnessProof}
    (h : sign P credential ownRecord peerRecord hello role challenge issuedAt
      expiresAt allowLoopbackDev = Except.ok proof) :
    proof.claims.issuedAt = issuedAt ∧ proof.claims.expiresAt = expiresAt ∧
      proof.verify P ownRecord peerRecord hello role challenge issuedAt
        allowLoopbackDev = Except.ok () := by
  unfold sign at h
  simp only [bind_eq_ok, rejectIf_eq_ok, exists_unit, pure_eq_ok, not_or,
    not_not] at h
  rcases h with ⟨hsame, _, hclaims, key, hkey, hbounded, rfl⟩
  refine ⟨rfl, rfl, ?_⟩
  unfold verify
  simp only [bind_eq_ok, exists_unit]
  refine ⟨hbounded, hclaims, ?_⟩
  rw [hsame.right]
  exact V1DeviceCredential.controlSigned_controlKey hkey _ _

end V1SignedCurrentnessProof

end Protocol
end Pubky2Pubky
