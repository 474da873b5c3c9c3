import Mathlib.Data.List.Basic

/-!
# Leases

A run takes at most one resource and has to give it back before it ends. What it
has taken and what it has given back are logged, so that a run which ends with its
resource still taken can be told from one that never took it.
-/

namespace Pubky2Pubky
namespace Foundation
namespace Lease

universe u

variable {Resource : Type u}

inductive Phase (Resource : Type u) where
  | free
  | held (resource : Resource)
  | spent

/-- A step between phases, with what it takes and what it gives back. -/
inductive Step : Phase Resource -> List Resource -> List Resource ->
    Phase Resource -> Prop where
  | wait (phase : Phase Resource) : Step phase [] [] phase
  | giveUp : Step Phase.free [] [] Phase.spent
  | take (resource : Resource) :
      Step Phase.free [resource] [] (Phase.held resource)
  | bounce (resource : Resource) :
      Step Phase.free [resource] [resource] Phase.spent
  | giveBack (resource : Resource) :
      Step (Phase.held resource) [] [resource] Phase.spent

def Settled (taken returned : List Resource) : Prop :=
  forall resource, resource ∈ taken -> resource ∈ returned

/-- A run that has not ended has taken what it holds and given nothing back. -/
def Current : Phase Resource -> List Resource -> List Resource -> Prop
  | Phase.free, taken, returned => taken = [] ∧ returned = []
  | Phase.held resource, taken, returned => taken = [resource] ∧ returned = []
  | Phase.spent, _, _ => True

def Balanced (phase : Phase Resource) (taken returned : List Resource) : Prop :=
  Current phase taken returned ∧ (phase = Phase.spent -> Settled taken returned)

section Steps

variable {phase after : Phase Resource}
  {taken returned taking returning : List Resource}

theorem balanced_free : Balanced (Phase.free : Phase Resource) [] [] :=
  ⟨⟨rfl, rfl⟩, fun h => nomatch h⟩

theorem Current.step (h : Current phase taken returned)
    (hstep : Step phase taking returning after) :
    Current after (taken ++ taking) (returned ++ returning) := by
  cases hstep with
  | wait phase =>
      rw [List.append_nil, List.append_nil]
      exact h
  | giveUp => trivial
  | take resource =>
      rcases h with ⟨rfl, rfl⟩
      exact ⟨rfl, rfl⟩
  | bounce resource => trivial
  | giveBack resource => trivial

theorem Balanced.step (h : Balanced phase taken returned)
    (hstep : Step phase taking returning after) :
    Balanced after (taken ++ taking) (returned ++ returning) := by
  refine ⟨h.left.step hstep, ?_⟩
  intro hspent
  cases hstep with
  | wait phase =>
      rw [List.append_nil, List.append_nil]
      exact h.right hspent
  | giveUp =>
      rcases h.left with ⟨rfl, rfl⟩
      exact fun _ hmem => hmem
  | take resource => cases hspent
  | bounce resource =>
      rcases h.left with ⟨rfl, rfl⟩
      exact fun _ hmem => hmem
  | giveBack resource =>
      rcases h.left with ⟨rfl, rfl⟩
      exact fun _ hmem => hmem

theorem Current.not_settled {resource : Resource}
    (h : Current (Phase.held resource) taken returned) :
    ¬ Settled taken returned := by
  rcases h with ⟨rfl, rfl⟩
  exact fun hsettled => List.not_mem_nil (hsettled resource List.mem_cons_self)

end Steps

end Lease
end Foundation
end Pubky2Pubky
