import Mathlib.Order.WithBot
import Mathlib.Logic.Function.Basic

/-!
# Monotone registers

A bank of registers remembers, for each key, the last value admitted there, and
admits only values above it. The values are any partial order, so a value that
is incomparable with the floor is refused like a smaller one.
-/

namespace Pubky2Pubky
namespace Foundation

universe u v

/-- The last admitted value of each key, or bottom. -/
abbrev Floors (K : Type u) (V : Type v) := K -> WithBot V

namespace Floors

variable {K : Type u} {V : Type v}

def raise [DecidableEq K] (floors : Floors K V) (entry : K × V) :
    Floors K V :=
  Function.update floors entry.1 entry.2

theorem raise_self [DecidableEq K] (floors : Floors K V) (entry : K × V) :
    floors.raise entry entry.1 = (entry.2 : WithBot V) :=
  Function.update_self _ _ _

theorem raise_of_ne [DecidableEq K] (floors : Floors K V) {entry : K × V}
    {key : K} (h : key ≠ entry.1) : floors.raise entry key = floors key :=
  Function.update_of_ne h _ _

theorem raise_of_eq [DecidableEq K] {floors : Floors K V} {entry : K × V}
    (h : floors entry.1 = (entry.2 : WithBot V)) :
    floors.raise entry = floors := by
  unfold raise
  rw [← h]
  exact Function.update_eq_self _ _

variable [PartialOrder V]

def Admits (floors : Floors K V) (entry : K × V) : Prop :=
  floors entry.1 ≤ (entry.2 : WithBot V)

theorem le_raise [DecidableEq K] {floors : Floors K V} {entry : K × V}
    (h : floors.Admits entry) (key : K) :
    floors key ≤ floors.raise entry key := by
  by_cases hkey : key = entry.1
  · rw [hkey, raise_self]
    exact h
  · rw [raise_of_ne floors hkey]

/-!
# Histories of a bank
-/

/-- Entries of one key are ordered as they were admitted. -/
def Chain (log : List (K × V)) : Prop :=
  log.Pairwise fun earlier later =>
    earlier.1 = later.1 -> earlier.2 ≤ later.2

/-- No floor is below an entry of the log. -/
def Covers (floors : Floors K V) (log : List (K × V)) : Prop :=
  forall entry, entry ∈ log -> (entry.2 : WithBot V) ≤ floors entry.1

theorem chain_nil : Chain ([] : List (K × V)) :=
  List.Pairwise.nil

theorem covers_nil (floors : Floors K V) : floors.Covers [] := by
  intro entry hentry
  cases hentry

theorem Covers.mono {floors later : Floors K V} {log : List (K × V)}
    (h : floors.Covers log) (hle : forall key, floors key ≤ later key) :
    later.Covers log := by
  intro entry hentry
  exact le_trans (h entry hentry) (hle entry.1)

theorem Covers.append {floors : Floors K V} {log batch : List (K × V)}
    (hlog : floors.Covers log) (hbatch : floors.Covers batch) :
    floors.Covers (log ++ batch) := by
  intro entry hentry
  rcases List.mem_append.mp hentry with hold | hnew
  · exact hlog entry hold
  · exact hbatch entry hnew

theorem Covers.raise [DecidableEq K] {floors : Floors K V}
    {log : List (K × V)} {entry : K × V} (h : floors.Covers log)
    (hadmits : floors.Admits entry) :
    (floors.raise entry).Covers (log ++ [entry]) := by
  apply Covers.append (h.mono (le_raise hadmits))
  intro found hfound
  rw [List.mem_singleton.mp hfound, raise_self]

theorem Chain.snoc {floors : Floors K V} {log : List (K × V)} {entry : K × V}
    (hchain : Chain log) (hcovers : floors.Covers log)
    (hadmits : floors.Admits entry) : Chain (log ++ [entry]) := by
  apply List.pairwise_append.mpr
  refine ⟨hchain, List.pairwise_singleton _ _, ?_⟩
  intro earlier hearlier later hlater hkey
  rw [List.mem_singleton.mp hlater] at hkey ⊢
  have hbelow := hcovers earlier hearlier
  rw [hkey] at hbelow
  exact WithBot.coe_le_coe.mp (le_trans hbelow hadmits)

end Floors

/-!
# Digest-bound counters

A counter bound to a digest is below another one when the counter is smaller, or
when both are the same. Two digests at one counter are incomparable.
-/

structure BoundCounter (D : Type u) where
  counter : Nat
  digest : D
  deriving DecidableEq

namespace BoundCounter

variable {D : Type u}

instance : PartialOrder (BoundCounter D) where
  le a b := a.counter < b.counter ∨ a = b
  le_refl a := Or.inr rfl
  le_trans a b c hab hbc := by
    rcases hab with hab | rfl
    · rcases hbc with hbc | rfl
      · exact Or.inl (Nat.lt_trans hab hbc)
      · exact Or.inl hab
    · exact hbc
  le_antisymm a b hab hba := by
    rcases hab with hab | hab
    · rcases hba with hba | hba
      · exact absurd hba (Nat.lt_asymm hab)
      · exact hba.symm
    · exact hab

theorem counter_le {a b : BoundCounter D} (h : a ≤ b) :
    a.counter ≤ b.counter := by
  rcases h with hlt | rfl
  · exact Nat.le_of_lt hlt
  · exact Nat.le_refl _

theorem digest_eq {a b : BoundCounter D} (h : a ≤ b)
    (hcounter : a.counter = b.counter) : a.digest = b.digest := by
  rcases h with hlt | rfl
  · exact absurd hcounter (Nat.ne_of_lt hlt)
  · rfl

end BoundCounter

end Foundation
end Pubky2Pubky
