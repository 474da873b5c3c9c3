import Mathlib.Order.Interval.Set.OrdConnected
import Mathlib.Order.Interval.Set.Nat

/-!
# Saturating 64-bit arithmetic and sets of instants

Instants are unsigned 64-bit counts of seconds. Comparisons are reasoned about
through `UInt64.toNat`, and a predicate on instants is turned into the set of
natural numbers at which it holds.
-/

namespace Pubky2Pubky
namespace Foundation

def saturatingAdd (a b : UInt64) : UInt64 :=
  if a.toNat + b.toNat < 2 ^ 64 then a + b else UInt64.ofNat (2 ^ 64 - 1)

def saturatingSub (a b : UInt64) : UInt64 :=
  if b ≤ a then a - b else 0

def checkedAdd (a b : UInt64) : Option UInt64 :=
  if a.toNat + b.toNat < 2 ^ 64 then some (a + b) else none

theorem checkedAdd_eq_some {a b c : UInt64} :
    checkedAdd a b = some c <-> c.toNat = a.toNat + b.toNat := by
  unfold checkedAdd
  split
  · next h =>
      rw [Option.some.injEq, ← UInt64.toNat_inj, UInt64.toNat_add,
        Nat.mod_eq_of_lt h]
      exact eq_comm
  · next h =>
      have hbound := UInt64.toNat_lt c
      constructor
      · intro hsome
        cases hsome
      · intro heq
        omega

theorem toNat_saturatingAdd (a b : UInt64) :
    (saturatingAdd a b).toNat = min (a.toNat + b.toNat) (2 ^ 64 - 1) := by
  unfold saturatingAdd
  split
  · next h =>
      rw [UInt64.toNat_add, Nat.mod_eq_of_lt h]
      omega
  · next h =>
      rw [UInt64.toNat_ofNat_of_lt' (by decide)]
      omega

theorem toNat_saturatingSub (a b : UInt64) :
    (saturatingSub a b).toNat = a.toNat - b.toNat := by
  unfold saturatingSub
  split
  · next h =>
      exact UInt64.toNat_sub_of_le _ _ h
  · next h =>
      rw [UInt64.le_iff_toNat_le] at h
      simp only [UInt64.toNat_zero]
      omega

/-- A value is at most a saturating sum exactly when it is at most the sum. -/
theorem le_saturatingAdd {a b c : UInt64} :
    a ≤ saturatingAdd b c <-> a.toNat ≤ b.toNat + c.toNat := by
  rw [UInt64.le_iff_toNat_le, toNat_saturatingAdd]
  have hbound := UInt64.toNat_lt a
  omega

theorem toNat_min (a b : UInt64) :
    (min a b).toNat = min a.toNat b.toNat := by
  change (if a ≤ b then a else b).toNat = _
  split
  · next h =>
      rw [UInt64.le_iff_toNat_le] at h
      omega
  · next h =>
      rw [UInt64.le_iff_toNat_le] at h
      omega

/-!
# Sets of instants
-/

/-- The instants at which a predicate holds, as natural numbers. -/
def instants (p : UInt64 -> Prop) : Set Nat :=
  { n | exists t : UInt64, t.toNat = n ∧ p t }

/-- A predicate that holds between any two of its instants holds on an interval. -/
theorem instants_ordConnected {p : UInt64 -> Prop}
    (hbetween : forall a b c : UInt64, a ≤ b -> b ≤ c -> p a -> p c -> p b) :
    (instants p).OrdConnected := by
  constructor
  intro x hx y hy n hn
  rcases hx with ⟨a, rfl, ha⟩
  rcases hy with ⟨c, rfl, hc⟩
  have hlt : n < 2 ^ 64 := Nat.lt_of_le_of_lt hn.right (UInt64.toNat_lt c)
  have hnat : (UInt64.ofNat n).toNat = n := UInt64.toNat_ofNat_of_lt' hlt
  refine ⟨UInt64.ofNat n, hnat, hbetween a (UInt64.ofNat n) c ?_ ?_ ha hc⟩
  · rw [UInt64.le_iff_toNat_le, hnat]
    exact hn.left
  · rw [UInt64.le_iff_toNat_le, hnat]
    exact hn.right

theorem instants_subset_Ico {p : UInt64 -> Prop} {start stop : UInt64}
    (h : forall t, p t -> start ≤ t ∧ t < stop) :
    instants p ⊆ Set.Ico start.toNat stop.toNat := by
  intro n hn
  rcases hn with ⟨t, rfl, ht⟩
  rcases h t ht with ⟨hstart, hstop⟩
  exact ⟨UInt64.le_iff_toNat_le.mp hstart, UInt64.lt_iff_toNat_lt.mp hstop⟩

end Foundation
end Pubky2Pubky
