import Pubky2Pubky.Foundation.Checks

/-!
# Errors a sequence of checks cannot end in

A sequence of early returns avoids a set of errors when none of its checks ends
in one of them. A check whose condition is known to fail avoids every error.
-/

namespace Pubky2Pubky
namespace Foundation

universe u

variable {ε : Type u} {α β : Type}

/-- The computation does not end in one of the given errors. -/
def Avoids (bad : ε -> Prop) (x : Except ε α) : Prop :=
  forall error : ε, x = Except.error error -> ¬ bad error

variable {bad : ε -> Prop}

@[simp] theorem avoids_ok {a : α} : Avoids bad (Except.ok a : Except ε α) := by
  intro error h
  cases h

@[simp] theorem avoids_pure {a : α} : Avoids bad (pure a : Except ε α) :=
  avoids_ok

@[simp] theorem avoids_error {e : ε} :
    Avoids bad (Except.error e : Except ε α) <-> ¬ bad e := by
  constructor
  · intro h
    exact h e rfl
  · intro h error herror
    cases herror
    exact h

theorem Avoids.of_eq_ok {x : Except ε α} {a : α} (h : x = Except.ok a) :
    Avoids bad x := by
  rw [h]
  exact avoids_ok

/-- The later part runs with what the earlier part has returned. -/
theorem avoids_bind {x : Except ε α} {f : α -> Except ε β} :
    Avoids bad (x >>= f) <->
      Avoids bad x ∧ forall a : α, x = Except.ok a -> Avoids bad (f a) := by
  cases x with
  | error e =>
      rw [error_bind]
      simp
  | ok a =>
      rw [ok_bind]
      simp

@[simp] theorem avoids_map {f : α -> β} {x : Except ε α} :
    Avoids bad (f <$> x) <-> Avoids bad x := by
  cases x with
  | error e =>
      show Avoids bad (Except.error e) <-> _
      simp
  | ok a =>
      show Avoids bad (Except.ok (f a)) <-> _
      simp

@[simp] theorem avoids_rejectIf {condition : Prop} [Decidable condition]
    {e : ε} : Avoids bad (rejectIf condition e) <-> (condition -> ¬ bad e) := by
  unfold rejectIf
  split
  · rename_i h
    simp [h]
  · rename_i h
    simp [h]

@[simp] theorem avoids_okOr {value : Option α} {e : ε} :
    Avoids bad (okOr value e) <-> (value = none -> ¬ bad e) := by
  cases value with
  | none => simp [okOr]
  | some a => simp [okOr]

end Foundation
end Pubky2Pubky
