import Pubky2Pubky.Foundation.Saturating
import Pubky2Pubky.Protocol.Primitives

/-!
# Validity windows

Every signed object carries a window from `issuedAt` to `expiresAt`. The general
check tolerates an issuer whose clock is ahead; the currentness check does not.
-/

namespace Pubky2Pubky
namespace Protocol

open Foundation

def maxClockSkewSeconds : UInt64 := 120

def v1MaxGrantLifetimeSeconds : UInt64 := 2 * 365 * 24 * 60 * 60

def v1MaxDeviceCertificateLifetimeSeconds : UInt64 := 90 * 24 * 60 * 60

def v1MaxLocatorLifetimeSeconds : UInt64 := 15 * 60

def v1MaxHandshakeLifetimeSeconds : UInt64 := 2 * 60

def v1MaxCurrentnessLifetimeSeconds : UInt64 := 30

def validateBoundedWindow (issuedAt expiresAt now maximum : UInt64)
    (label : String) : Result Unit := do
  rejectIf (expiresAt ≤ issuedAt) ProtocolError.invalidTimeWindow
  rejectIf (issuedAt > saturatingAdd now maxClockSkewSeconds)
    ProtocolError.notYetValid
  -- Expiry is strict: the skew allowance applies to the start only.
  rejectIf (expiresAt ≤ now) ProtocolError.expired
  rejectIf (expiresAt - issuedAt > maximum)
    (ProtocolError.invalidEncoding label)

def validateCurrentnessWindow (issuedAt expiresAt now : UInt64) :
    Result Unit := do
  validateBoundedWindow issuedAt expiresAt now v1MaxCurrentnessLifetimeSeconds
    "v1 currentness lifetime"
  rejectIf (issuedAt > now) ProtocolError.notYetValid
  rejectIf (expiresAt > saturatingAdd now v1MaxCurrentnessLifetimeSeconds)
    ProtocolError.invalidTimeWindow

/-!
# Open windows

`WindowOpen` is the arithmetic content of the general check and `LiveWindow`
that of the currentness check.
-/

structure WindowOpen (issuedAt expiresAt maximum now : UInt64) : Prop where
  nonempty : issuedAt.toNat < expiresAt.toNat
  started : issuedAt.toNat ≤ now.toNat + maxClockSkewSeconds.toNat
  unexpired : now.toNat < expiresAt.toNat
  bounded : expiresAt.toNat ≤ issuedAt.toNat + maximum.toNat

theorem validateBoundedWindow_eq_ok
    {issuedAt expiresAt now maximum : UInt64} {label : String} :
    validateBoundedWindow issuedAt expiresAt now maximum label =
        Except.ok () <->
      WindowOpen issuedAt expiresAt maximum now := by
  unfold validateBoundedWindow
  simp only [bind_eq_ok, rejectIf_eq_ok, exists_unit, gt_iff_lt,
    UInt64.not_lt, UInt64.not_le, le_saturatingAdd]
  constructor
  · intro h
    rcases h with ⟨hnonempty, hstarted, hunexpired, hbounded⟩
    rw [UInt64.lt_iff_toNat_lt] at hnonempty hunexpired
    rw [UInt64.le_iff_toNat_le, UInt64.toNat_sub_of_le] at hbounded
    · exact ⟨hnonempty, hstarted, hunexpired, by omega⟩
    · rw [UInt64.le_iff_toNat_le]
      omega
  · intro h
    have hle : issuedAt ≤ expiresAt := by
      rw [UInt64.le_iff_toNat_le]
      exact Nat.le_of_lt h.nonempty
    refine ⟨UInt64.lt_iff_toNat_lt.mpr h.nonempty, h.started,
      UInt64.lt_iff_toNat_lt.mpr h.unexpired, ?_⟩
    rw [UInt64.le_iff_toNat_le, UInt64.toNat_sub_of_le _ _ hle]
    have hbounded := h.bounded
    omega

/-- An open window stays open until its own expiry. -/
theorem WindowOpen.later {issuedAt expiresAt maximum t now : UInt64}
    (h : WindowOpen issuedAt expiresAt maximum t) (hle : t ≤ now)
    (hlt : now < expiresAt) :
    WindowOpen issuedAt expiresAt maximum now := by
  rw [UInt64.le_iff_toNat_le] at hle
  rw [UInt64.lt_iff_toNat_lt] at hlt
  exact ⟨h.nonempty, Nat.le_trans h.started (by omega), hlt, h.bounded⟩

/-- A window open at two instants is open between them. -/
theorem WindowOpen.between {issuedAt expiresAt maximum a b c : UInt64}
    (ha : WindowOpen issuedAt expiresAt maximum a)
    (hc : WindowOpen issuedAt expiresAt maximum c)
    (hab : a ≤ b) (hbc : b ≤ c) :
    WindowOpen issuedAt expiresAt maximum b := by
  have hlt : b < expiresAt := by
    rw [UInt64.le_iff_toNat_le] at hbc
    rw [UInt64.lt_iff_toNat_lt]
    exact Nat.lt_of_le_of_lt hbc hc.unexpired
  exact ha.later hab hlt

structure LiveWindow (issuedAt expiresAt now : UInt64) : Prop where
  issued : issuedAt.toNat ≤ now.toNat
  unexpired : now.toNat < expiresAt.toNat
  bounded : expiresAt.toNat ≤
    issuedAt.toNat + v1MaxCurrentnessLifetimeSeconds.toNat

theorem validateCurrentnessWindow_eq_ok {issuedAt expiresAt now : UInt64} :
    validateCurrentnessWindow issuedAt expiresAt now = Except.ok () <->
      LiveWindow issuedAt expiresAt now := by
  unfold validateCurrentnessWindow
  simp only [bind_eq_ok, rejectIf_eq_ok, exists_unit, gt_iff_lt,
    UInt64.not_lt, le_saturatingAdd, validateBoundedWindow_eq_ok]
  constructor
  · intro h
    rcases h with ⟨hopen, hissued, _⟩
    exact ⟨UInt64.le_iff_toNat_le.mp hissued, hopen.unexpired, hopen.bounded⟩
  · intro h
    have hissued := h.issued
    have hunexpired := h.unexpired
    have hbounded := h.bounded
    refine ⟨⟨by omega, by omega, hunexpired, hbounded⟩,
      UInt64.le_iff_toNat_le.mpr hissued, by omega⟩

theorem LiveWindow.later {issuedAt expiresAt t now : UInt64}
    (h : LiveWindow issuedAt expiresAt t) (hle : t ≤ now)
    (hlt : now < expiresAt) : LiveWindow issuedAt expiresAt now := by
  rw [UInt64.le_iff_toNat_le] at hle
  rw [UInt64.lt_iff_toNat_lt] at hlt
  exact ⟨Nat.le_trans h.issued hle, hlt, h.bounded⟩

theorem LiveWindow.between {issuedAt expiresAt a b c : UInt64}
    (ha : LiveWindow issuedAt expiresAt a)
    (hc : LiveWindow issuedAt expiresAt c)
    (hab : a ≤ b) (hbc : b ≤ c) : LiveWindow issuedAt expiresAt b := by
  have hlt : b < expiresAt := by
    rw [UInt64.le_iff_toNat_le] at hbc
    rw [UInt64.lt_iff_toNat_lt]
    exact Nat.lt_of_le_of_lt hbc hc.unexpired
  exact ha.later hab hlt

/-- At most thirty instants lie in the window of an accepted currentness proof. -/
theorem LiveWindow.ncard_Ico_le {issuedAt expiresAt now : UInt64}
    (h : LiveWindow issuedAt expiresAt now) :
    (Set.Ico issuedAt.toNat expiresAt.toNat).ncard ≤ 30 := by
  have hbounded := h.bounded
  have hmax : v1MaxCurrentnessLifetimeSeconds.toNat = 30 := by decide
  rw [Set.ncard_Ico_nat]
  omega

end Protocol
end Pubky2Pubky
