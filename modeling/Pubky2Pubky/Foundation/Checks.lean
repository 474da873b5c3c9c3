import Mathlib.Logic.Basic
import Mathlib.Logic.Unique

/-!
# Early-return checks

A validator of the source is a sequence of guarded early returns. It is written
here as a sequence of `rejectIf` checks in `Except`, and the lemmas of
this module read a successful run back as the conjunction of its checks.
-/

namespace Pubky2Pubky
namespace Foundation

universe u

variable {ε : Type u} {α β : Type}

/-- The early return of a validator: fail with the error when the condition holds. -/
def rejectIf (condition : Prop) [Decidable condition] (error : ε) :
    Except ε Unit :=
  if condition then Except.error error else Except.ok ()

/-- Turn a missing value into an error. -/
def okOr (value : Option α) (error : ε) : Except ε α :=
  match value with
  | some a => Except.ok a
  | none => Except.error error

@[simp] theorem rejectIf_eq_ok {condition : Prop} [Decidable condition]
    {error : ε} {r : Unit} :
    rejectIf condition error = Except.ok r <-> ¬ condition := by
  unfold rejectIf
  split
  · simp_all
  · simp_all

theorem rejectIf_of_not {condition : Prop} [Decidable condition] {error : ε}
    (h : ¬ condition) :
    rejectIf condition error = Except.ok () :=
  rejectIf_eq_ok.mpr h

theorem rejectIf_of {condition : Prop} [Decidable condition] {error : ε}
    (h : condition) :
    rejectIf condition error = Except.error error :=
  if_pos h

@[simp] theorem okOr_eq_ok {value : Option α} {error : ε} {a : α} :
    okOr value error = Except.ok a <-> value = some a := by
  cases value with
  | none => simp [okOr]
  | some b => simp [okOr]

/-!
# Sequencing
-/

theorem bind_eq_ok {x : Except ε α} {f : α -> Except ε β} {b : β} :
    (x >>= f) = Except.ok b <->
      exists a, x = Except.ok a ∧ f a = Except.ok b := by
  cases x with
  | error e =>
      simp [bind, Except.bind]
  | ok a =>
      simp [bind, Except.bind]

theorem ok_bind (a : α) (f : α -> Except ε β) :
    (Except.ok a >>= f) = f a := rfl

theorem error_bind (e : ε) (f : α -> Except ε β) :
    ((Except.error e : Except ε α) >>= f) = Except.error e := rfl

theorem pure_eq_ok {a b : α} :
    (pure a : Except ε α) = Except.ok b <-> a = b := by
  constructor
  · intro h
    injection h
  · intro h
    rw [h]
    rfl

theorem exists_unit {p : Unit -> Prop} : (exists u, p u) <-> p () := by
  constructor
  · intro h
    rcases h with ⟨_, h⟩
    exact h
  · intro h
    exact ⟨(), h⟩

end Foundation
end Pubky2Pubky
