import Mathlib.Data.List.Basic

/-!
# Banks whose newest item lasts longest

A bank drops items as they expire and takes new ones. When the item of the
highest rank is also the last to expire, dropping expired items removes it only
together with all others.
-/

namespace Pubky2Pubky
namespace Foundation

universe u

variable {α : Type u} {rank expiry : α -> Nat} {items : List α} {leader : α}

/-- The leader has the highest rank, and no item outlasts it. -/
structure Led (rank expiry : α -> Nat) (items : List α) (leader : α) : Prop where
  mem : leader ∈ items
  rank (item : α) : item ∈ items -> item = leader ∨ rank item < rank leader
  expiry (item : α) : item ∈ items -> expiry item ≤ expiry leader

theorem Led.perm {others : List α} (h : Led rank expiry items leader)
    (hperm : others.Perm items) : Led rank expiry others leader := by
  constructor
  · exact hperm.mem_iff.mpr h.mem
  · intro item hitem
    exact h.rank item (hperm.mem_iff.mp hitem)
  · intro item hitem
    exact h.expiry item (hperm.mem_iff.mp hitem)

/-- Dropping expired items keeps the leader, or leaves nothing. -/
theorem Led.unexpired {keep : α -> Bool} (h : Led rank expiry items leader)
    (hkeep : forall item, keep item = true -> expiry item ≤ expiry leader ->
      keep leader = true) :
    items.filter keep = [] ∨ Led rank expiry (items.filter keep) leader := by
  cases hleader : keep leader with
  | false =>
      apply Or.inl
      rw [List.filter_eq_nil_iff]
      intro item hitem hkept
      rw [hkeep item hkept (h.expiry item hitem)] at hleader
      cases hleader
  | true =>
      apply Or.inr
      constructor
      · exact List.mem_filter.mpr ⟨h.mem, hleader⟩
      · intro item hitem
        exact h.rank item (List.mem_filter.mp hitem).left
      · intro item hitem
        exact h.expiry item (List.mem_filter.mp hitem).left

theorem led_append {newcomer : α}
    (hrank : forall item, item ∈ items -> rank item < rank newcomer)
    (hexpiry : forall item, item ∈ items -> expiry item ≤ expiry newcomer) :
    Led rank expiry (items ++ [newcomer]) newcomer := by
  constructor
  · exact List.mem_append_right _ (List.mem_singleton.mpr rfl)
  · intro item hitem
    rcases List.mem_append.mp hitem with hold | hnew
    · exact Or.inr (hrank item hold)
    · exact Or.inl (List.mem_singleton.mp hnew)
  · intro item hitem
    rcases List.mem_append.mp hitem with hold | hnew
    · exact hexpiry item hold
    · exact Nat.le_of_eq (congrArg expiry (List.mem_singleton.mp hnew))

/-- Any choice that prefers the higher rank finds the leader. -/
theorem Led.foldl_eq {choose : α -> α -> α} {best : α}
    (hchoice : forall a b, choose a b = a ∨ choose a b = b)
    (hlower : forall a b, rank b < rank a -> choose a b = a)
    (hhigher : forall a b, rank a < rank b -> choose a b = b)
    (h : Led rank expiry (best :: items) leader) :
    items.foldl choose best = leader := by
  induction items generalizing best with
  | nil => exact (List.mem_singleton.mp h.mem).symm
  | cons item rest ih =>
      have hbest := h.rank best List.mem_cons_self
      have hitem := h.rank item (List.mem_cons_of_mem _ List.mem_cons_self)
      have hchosen : choose best item ∈ best :: item :: rest := by
        rcases hchoice best item with heq | heq
        · rw [heq]
          exact List.mem_cons_self
        · rw [heq]
          exact List.mem_cons_of_mem _ List.mem_cons_self
      have hsub : forall other, other ∈ choose best item :: rest ->
          other ∈ best :: item :: rest := by
        intro other hother
        rcases List.mem_cons.mp hother with rfl | hother
        · exact hchosen
        · exact List.mem_cons_of_mem _ (List.mem_cons_of_mem _ hother)
      have hmem : leader ∈ choose best item :: rest := by
        rcases List.mem_cons.mp h.mem with rfl | hleader
        · rcases hitem with rfl | hitem
          · rcases hchoice item item with heq | heq
            · exact List.mem_cons.mpr (Or.inl heq.symm)
            · exact List.mem_cons.mpr (Or.inl heq.symm)
          · exact List.mem_cons.mpr (Or.inl (hlower _ _ hitem).symm)
        · rcases List.mem_cons.mp hleader with rfl | hleader
          · rcases hbest with rfl | hbest
            · rcases hchoice best best with heq | heq
              · exact List.mem_cons.mpr (Or.inl heq.symm)
              · exact List.mem_cons.mpr (Or.inl heq.symm)
            · exact List.mem_cons.mpr (Or.inl (hhigher _ _ hbest).symm)
          · exact List.mem_cons_of_mem _ hleader
      exact ih
        { mem := hmem
          rank := fun other hother => h.rank other (hsub other hother)
          expiry := fun other hother => h.expiry other (hsub other hother) }

end Foundation
end Pubky2Pubky
