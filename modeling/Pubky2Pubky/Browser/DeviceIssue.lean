import Pubky2Pubky.Protocol.Reference
import Pubky2Pubky.Browser.SequenceStore

/-!
# Issuing a browser device

A signed-in session holds a Grant and the handle of its `cnf` key. The browser
issues a device under them for six hours at most, starting now.
-/

namespace Pubky2Pubky
namespace Browser

open Foundation Protocol

def deviceLifetimeSeconds : UInt64 := 6 * 60 * 60

def orFailure {α : Type} (result : Result α) (code : Failure) : StoreResult α :=
  match result with
  | Except.ok a => Except.ok a
  | Except.error _ => Except.error code

@[simp] theorem orFailure_eq_ok {α : Type} {result : Result α} {code : Failure}
    {a : α} : orFailure result code = Except.ok a <-> result = Except.ok a := by
  cases result with
  | ok b => simp [orFailure]
  | error e => simp [orFailure]

def deviceExpiry (now exp : UInt64) : Option UInt64 :=
  ((checkedAdd now deviceLifetimeSeconds).map fun expiry => min expiry exp).filter
    fun expiry => now < expiry

theorem deviceExpiry_eq_some {now exp expiresAt : UInt64} :
    deviceExpiry now exp = some expiresAt <->
      now.toNat + deviceLifetimeSeconds.toNat < 2 ^ 64 ∧
        expiresAt.toNat =
          min (now.toNat + deviceLifetimeSeconds.toNat) exp.toNat ∧
        now < expiresAt := by
  unfold deviceExpiry
  simp only [Option.filter_eq_some_iff, Option.map_eq_some_iff,
    checkedAdd_eq_some, decide_eq_true_eq]
  constructor
  · intro h
    rcases h with ⟨⟨sum, hsum, rfl⟩, hlt⟩
    have hbound := UInt64.toNat_lt sum
    exact ⟨by omega, by rw [toNat_min, hsum], hlt⟩
  · intro h
    rcases h with ⟨hfits, hmin, hlt⟩
    let sum := UInt64.ofNat (now.toNat + deviceLifetimeSeconds.toNat)
    have hsum : sum.toNat = now.toNat + deviceLifetimeSeconds.toNat :=
      UInt64.toNat_ofNat_of_lt' hfits
    refine ⟨⟨sum, hsum, ?_⟩, hlt⟩
    rw [← UInt64.toNat_inj, toNat_min, hsum, hmin]

section Issuing

variable (P : Primitives)

structure DelegatedRestoreState where
  keyId : String
  grantJws : String
  clientPk : P.PublicKey

/--
`issue_device` without its awaits: the restore state of the session, the public
key and the signature of the stored `cnf` key are answers of the environment,
and the two device keypairs are drawn by the caller.
-/
def issueDevice (restore : Option (DelegatedRestoreState P))
    (loadGrantPublicKey : String -> StoreResult P.PublicKey)
    (signCertificate : String -> Bytes -> StoreResult Bytes)
    (keyId identity deviceId : String) (now : UInt64)
    (control iroh : P.Keypair) : StoreResult V1DeviceCredential := do
  let restore <- okOr restore "identity-verification-failed"
  rejectIf (restore.keyId ≠ keyId) "identity-verification-failed"
  let clientPk <- loadGrantPublicKey keyId
  rejectIf (clientPk ≠ restore.clientPk) "identity-verification-failed"
  let authorization : V1GrantAuthorization := { grantJws := restore.grantJws }
  let claims <- orFailure (authorization.verify P identity now)
    "identity-verification-failed"
  let expiresAt <- okOr (deviceExpiry now claims.exp)
    "identity-verification-failed"
  let draft <- orFailure (V1DeviceCredential.prepare P authorization identity
    deviceId now expiresAt control iroh) "device-state-invalid"
  let signature <- signCertificate keyId
    (V1DeviceCredential.certificateSigningBytes P draft)
  orFailure (V1DeviceCredential.finalize P draft signature)
    "identity-verification-failed"

/-- Issuing for a session that holds the `cnf` key of its Grant. -/
def issueForSession (authorization : V1GrantAuthorization)
    (grantCnf : P.Keypair) (keyId identity deviceId : String) (now : UInt64)
    (control iroh : P.Keypair) : StoreResult V1DeviceCredential :=
  issueDevice P
    (some
      { keyId := keyId
        grantJws := authorization.grantJws
        clientPk := P.publicKey grantCnf })
    (fun _ => Except.ok (P.publicKey grantCnf))
    (fun _ bytes => Except.ok (P.signatureToBytes (P.sign grantCnf bytes)))
    keyId identity deviceId now control iroh

variable {P}

theorem issueForSession_eq_ok {authorization : V1GrantAuthorization}
    {grantCnf : P.Keypair} {keyId identity deviceId : String} {now : UInt64}
    {control iroh : P.Keypair} {credential : V1DeviceCredential} :
    issueForSession P authorization grantCnf keyId identity deviceId now control
        iroh = Except.ok credential <->
      exists claims expiresAt draft,
        authorization.verify P identity now = Except.ok claims ∧
        deviceExpiry now claims.exp = some expiresAt ∧
        V1DeviceCredential.prepare P authorization identity deviceId now
          expiresAt control iroh = Except.ok draft ∧
        V1DeviceCredential.finalize P draft (P.signatureToBytes
          (P.sign grantCnf (V1DeviceCredential.certificateSigningBytes P draft))) =
            Except.ok credential := by
  unfold issueForSession issueDevice
  simp only [bind_eq_ok, okOr_eq_ok, rejectIf_eq_ok, exists_unit,
    orFailure_eq_ok, Except.ok.injEq, Option.some.injEq]
  constructor
  · intro h
    rcases h with ⟨restore, rfl, _, clientPk, rfl, _, claims, hverify, expiresAt,
      hexpiry, draft, hprepare, signature, rfl, hfinalize⟩
    exact ⟨claims, expiresAt, draft, hverify, hexpiry, hprepare, hfinalize⟩
  · intro h
    rcases h with ⟨claims, expiresAt, draft, hverify, hexpiry, hprepare,
      hfinalize⟩
    exact ⟨_, rfl, not_not.mpr rfl, _, rfl, not_not.mpr rfl, claims, hverify,
      expiresAt, hexpiry, draft, hprepare, _, rfl, hfinalize⟩

end Issuing

/-!
# Using a Grant at once
-/

section FirstIssue

variable {P : Primitives} {authorization : V1GrantAuthorization}
variable {claims : V1GrantAuthorization.Claims P}
variable {identity deviceId : String} {now expiresAt : UInt64}
variable {grantCnf control iroh : P.Keypair}

/-- A locator that starts now and ends inside the certificate. -/
def Publishes (P : Primitives) (credential : V1DeviceCredential)
    (now expiresAt : UInt64) : Prop :=
  forall (relayUrls : List Url) (instanceNonce : String)
    (sequence locatorExpiry : UInt64) (allowLoopbackDev : Bool),
    validateRelays P relayUrls allowLoopbackDev = Except.ok () ->
    validateChallenge P instanceNonce "v1 instance nonce" = Except.ok () ->
    sequence ≠ 0 -> now < locatorExpiry -> locatorExpiry ≤ expiresAt ->
    locatorExpiry.toNat ≤ now.toNat + v1MaxLocatorLifetimeSeconds.toNat ->
    exists locator,
      V1SignedLocator.signWithPolicy P credential relayUrls instanceNonce
        sequence (now, locatorExpiry) allowLoopbackDev = Except.ok locator ∧
      locator.verify P credential.authorization credential.certificate
        credential.identity now allowLoopbackDev none = Except.ok ()

/-- The first device can be issued, and its first locator published, now. -/
def UsableAtOnce (P : Primitives) (authorization : V1GrantAuthorization)
    (identity deviceId : String) (now expiresAt : UInt64)
    (grantCnf control iroh : P.Keypair) : Prop :=
  exists draft credential,
    V1DeviceCredential.prepare P authorization identity deviceId now expiresAt
      control iroh = Except.ok draft ∧
    V1DeviceCredential.finalize P draft (P.signatureToBytes
      (P.sign grantCnf (V1DeviceCredential.certificateSigningBytes P draft))) =
        Except.ok credential ∧
    credential.verify P now = Except.ok () ∧
    Publishes P credential now expiresAt ∧
    forall keyId, issueForSession P authorization grantCnf keyId identity
      deviceId now control iroh = Except.ok credential

theorem deviceExpiry_window
    (hexpiry : deviceExpiry now claims.exp = some expiresAt) :
    WindowOpen now expiresAt v1MaxDeviceCertificateLifetimeSeconds now ∧
      expiresAt ≤ claims.exp := by
  rcases deviceExpiry_eq_some.mp hexpiry with ⟨_, hmin, hlt⟩
  rw [UInt64.lt_iff_toNat_lt] at hlt
  have hlifetime : deviceLifetimeSeconds.toNat = 21600 := by decide
  have hmax : v1MaxDeviceCertificateLifetimeSeconds.toNat = 7776000 := by decide
  refine ⟨⟨hlt, Nat.le_add_right _ _, hlt, by omega⟩, ?_⟩
  rw [UInt64.le_iff_toNat_le]
  omega

variable [P.Lawful]

theorem issued_publishes {credential : V1DeviceCredential}
    (hcredential : credential.verify P now = Except.ok ())
    (hkey : credential.controlKey P = Except.ok control)
    (hstart : credential.certificate.claims.issuedAt = now)
    (hstop : credential.certificate.claims.expiresAt = expiresAt) :
    Publishes P credential now expiresAt := by
  intro relayUrls instanceNonce sequence locatorExpiry allowLoopbackDev hrelays
    hnonce hsequence hlt hle hlifetime
  rw [UInt64.lt_iff_toNat_lt] at hlt
  have hwindow : WindowOpen now locatorExpiry v1MaxLocatorLifetimeSeconds now :=
    ⟨hlt, Nat.le_add_right _ _, hlt, hlifetime⟩
  have hafter : credential.certificate.claims.issuedAt ≤ now := by
    rw [hstart]
    exact UInt64.le_refl now
  have hbefore : locatorExpiry ≤ credential.certificate.claims.expiresAt := by
    rw [hstop]
    exact hle
  have hsign := V1SignedLocator.signWithPolicy_succeeds hcredential hkey hnonce
    hsequence hrelays hwindow hafter hbefore
  exact ⟨_, hsign, (V1SignedLocator.signWithPolicy_verify hsign).right.right⟩

theorem usableAtOnce_of_issued
    (hverify : authorization.verify P identity now = Except.ok claims)
    (hdevice : validateDeviceId deviceId = Except.ok ())
    (hexpiry : deviceExpiry now claims.exp = some expiresAt)
    (hcnf : P.publicKey grantCnf = claims.cnf)
    (hfresh : [claims.iss, claims.cnf, P.publicKey control,
      P.publicKey iroh].Nodup) (hissued : claims.iat ≤ now) :
    UsableAtOnce P authorization identity deviceId now expiresAt grantCnf control
      iroh := by
  have husable : ¬ unusableText deviceId maxDeviceIdBytes :=
    rejectIf_eq_ok.mp hdevice
  rcases deviceExpiry_window hexpiry with ⟨hwindow, hbefore⟩
  have hchain := V1DeviceCredential.issued_verify hverify hcnf husable hwindow
    hissued hbefore hfresh
  have hissue := V1DeviceCredential.issue_succeeds hverify hcnf husable hwindow
    hissued hbefore hfresh
  unfold V1DeviceCredential.issue at hissue
  simp only [bind_eq_ok, rejectIf_eq_ok, exists_unit] at hissue
  rcases hissue with ⟨draft, hprepare, _, hfinalize⟩
  refine ⟨draft, _, hprepare, hfinalize, hchain, ?_, ?_⟩
  · exact issued_publishes hchain
      (V1DeviceCredential.issued_controlKey _ _ _ _ _ _ _ _) rfl rfl
  · intro keyId
    exact issueForSession_eq_ok.mpr
      ⟨claims, expiresAt, draft, hverify, hexpiry, hprepare, hfinalize⟩

omit [P.Lawful] in
/-- A certificate never starts before its Grant. -/
theorem issued_of_usableAtOnce
    (hverify : authorization.verify P identity now = Except.ok claims)
    (h : UsableAtOnce P authorization identity deviceId now expiresAt grantCnf
      control iroh) : claims.iat ≤ now := by
  rcases h with ⟨draft, credential, hprepare, _⟩
  unfold V1DeviceCredential.prepare at hprepare
  simp only [bind_eq_ok, rejectIf_eq_ok, exists_unit, not_or,
    UInt64.not_lt] at hprepare
  rcases hprepare with ⟨grant, hgrant, _, _, hinside, _⟩
  rw [hverify] at hgrant
  injection hgrant with hgrant
  rw [hgrant]
  exact hinside.left

/--
An accepted Grant can be used at once exactly when its own start has come; the
tolerance of its acceptance does not extend to the first device.
-/
theorem accepted_grant_usable
    (hverify : authorization.verify P identity now = Except.ok claims)
    (hdevice : validateDeviceId deviceId = Except.ok ())
    (hexpiry : deviceExpiry now claims.exp = some expiresAt)
    (hcnf : P.publicKey grantCnf = claims.cnf)
    (hfresh : [claims.iss, claims.cnf, P.publicKey control,
      P.publicKey iroh].Nodup) :
    UsableAtOnce P authorization identity deviceId now expiresAt grantCnf control
      iroh <-> claims.iat ≤ now :=
  ⟨issued_of_usableAtOnce hverify,
    usableAtOnce_of_issued hverify hdevice hexpiry hcnf hfresh⟩

end FirstIssue

theorem accepted_grant_usable_sample :
    UsableAtOnce Reference.sample Reference.authorization Reference.identity
      Reference.laptop.deviceId 1000 22600 (Reference.keyOf 2)
      Reference.laptop.control Reference.laptop.iroh :=
  (accepted_grant_usable (P := Reference.sample)
    (Reference.authorization_verify (by decide) (by decide))
    (rejectIf_of_not Reference.laptop.usable)
    (deviceExpiry_eq_some.mpr (by decide)) rfl
    Reference.laptop.distinct).mpr (by decide)

/-- The sample Grant one minute before its start is accepted and unusable. -/
theorem early_grant_unusable :
    Reference.authorization.verify Reference.sample Reference.identity 940 =
        Except.ok Reference.grantClaims ∧
      validateDeviceId Reference.laptop.deviceId = Except.ok () ∧
      deviceExpiry 940 Reference.grantClaims.exp = some 22540 ∧
      Reference.sample.publicKey (Reference.keyOf 2) =
        Reference.grantClaims.cnf ∧
      [Reference.grantClaims.iss, Reference.grantClaims.cnf,
        Reference.laptop.control, Reference.laptop.iroh].Nodup ∧
      ¬ UsableAtOnce Reference.sample Reference.authorization Reference.identity
        Reference.laptop.deviceId 940 22540 (Reference.keyOf 2)
        Reference.laptop.control Reference.laptop.iroh := by
  have hverify : Reference.authorization.verify Reference.sample
      Reference.identity 940 = Except.ok Reference.grantClaims :=
    V1GrantAuthorization.verify_eq_ok.mpr
      ⟨Reference.authorization_authentic, by decide, by decide, by decide,
        by decide⟩
  refine ⟨hverify, rejectIf_of_not Reference.laptop.usable,
    deviceExpiry_eq_some.mpr (by decide), rfl, Reference.laptop.distinct, ?_⟩
  intro husable
  exact absurd (issued_of_usableAtOnce hverify husable) (by decide)

end Browser
end Pubky2Pubky
