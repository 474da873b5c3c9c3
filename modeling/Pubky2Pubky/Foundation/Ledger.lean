import Mathlib.Order.Basic
import Mathlib.Logic.Function.Basic

/-!
# Ledgers

A ledger keeps one slot for a key: a counter that its owner allocates numbers
from, or the last value admitted from others. A batch of values is admitted as a
whole or not at all.
-/

namespace Pubky2Pubky
namespace Foundation

universe u v

inductive Slot (V : Type v) where
  | counter (last : Nat)
  | floor (value : V)

abbrev Ledger (K : Type u) (V : Type v) := K -> Option (Slot V)

/-- No two entries of a batch ask for different values at one key. -/
def Agreeing {K : Type u} {V : Type v} (batch : List (K × V)) : Prop :=
  forall a, a ∈ batch -> forall b, b ∈ batch -> a.1 = b.1 -> a.2 = b.2

theorem Agreeing.tail {K : Type u} {V : Type v} {first : K × V}
    {rest : List (K × V)}
    (h : Agreeing (first :: rest)) : Agreeing rest := by
  intro a ha b hb
  exact h a (List.mem_cons_of_mem first ha) b (List.mem_cons_of_mem first hb)

theorem Agreeing.congr {K : Type u} {V : Type v} {batch other : List (K × V)}
    (hagree : Agreeing batch) (h : forall entry, entry ∈ batch <-> entry ∈ other) :
    Agreeing other := by
  intro a ha b hb
  exact hagree a ((h a).mpr ha) b ((h b).mpr hb)

namespace Ledger

variable {K : Type u} {V : Type v} {ledger : Ledger K V} {batch : List (K × V)}

/-- Every key of the batch gets the value asked for there. -/
def setAll [DecidableEq K] (ledger : Ledger K V) :
    List (K × V) -> Ledger K V
  | [] => ledger
  | entry :: rest =>
      setAll (Function.update ledger entry.1 (some (Slot.floor entry.2))) rest

/-- The slot of a key may be raised to a value. -/
def Admits [LE V] (ledger : Ledger K V) (entry : K × V) : Prop :=
  match ledger entry.1 with
  | none => True
  | some (Slot.counter _) => False
  | some (Slot.floor value) => value ≤ entry.2

structure Accepts [LE V] (ledger : Ledger K V) (batch : List (K × V)) :
    Prop where
  agreeing : Agreeing batch
  admits : forall entry, entry ∈ batch -> ledger.Admits entry

theorem admits_of_none [LE V] {entry : K × V} (h : ledger entry.1 = none) :
    ledger.Admits entry := by
  unfold Admits
  rw [h]
  trivial

theorem not_admits_of_counter [LE V] {entry : K × V} {last : Nat}
    (h : ledger entry.1 = some (Slot.counter last)) :
    ¬ ledger.Admits entry := by
  unfold Admits
  rw [h]
  exact id

theorem admits_of_floor [LE V] {entry : K × V} {value : V}
    (h : ledger entry.1 = some (Slot.floor value)) :
    ledger.Admits entry <-> value ≤ entry.2 := by
  unfold Admits
  rw [h]

/-!
# The slots of a batch
-/

theorem setAll_of_not_mem [DecidableEq K] {key : K}
    (h : forall entry, entry ∈ batch -> entry.1 ≠ key) :
    ledger.setAll batch key = ledger key := by
  induction batch generalizing ledger with
  | nil => rfl
  | cons first rest ih =>
      unfold setAll
      rw [ih fun entry hentry => h entry (List.mem_cons_of_mem first hentry)]
      exact Function.update_of_ne (h first List.mem_cons_self).symm _ _

theorem setAll_of_mem [DecidableEq K] {entry : K × V} (hagree : Agreeing batch)
    (h : entry ∈ batch) :
    ledger.setAll batch entry.1 = some (Slot.floor entry.2) := by
  induction batch generalizing ledger with
  | nil => cases h
  | cons first rest ih =>
      by_cases hrest : exists later, later ∈ rest ∧ later.1 = entry.1
      · rcases hrest with ⟨later, hlater, hkey⟩
        have hvalue : later.2 = entry.2 :=
          hagree later (List.mem_cons_of_mem first hlater) entry h hkey
        have hmem : entry ∈ rest := by
          rw [← Prod.ext hkey hvalue]
          exact hlater
        exact ih hagree.tail hmem
      · have hfirst : entry = first := by
          rcases List.mem_cons.mp h with heq | hmem
          · exact heq
          · exact absurd ⟨entry, hmem, rfl⟩ hrest
        unfold setAll
        rw [setAll_of_not_mem
          (fun later hlater hkey => hrest ⟨later, hlater, hkey⟩), hfirst]
        exact Function.update_self _ _ _

/-- What a batch leaves depends on its entries only, not on their order. -/
theorem setAll_congr [DecidableEq K] {other : List (K × V)}
    (hagree : Agreeing batch) (h : forall entry, entry ∈ batch <-> entry ∈ other) :
    ledger.setAll batch = ledger.setAll other := by
  have hother := hagree.congr h
  funext key
  by_cases hkey : exists entry, entry ∈ batch ∧ entry.1 = key
  · rcases hkey with ⟨entry, hentry, rfl⟩
    rw [setAll_of_mem hagree hentry, setAll_of_mem hother ((h entry).mp hentry)]
  · rw [setAll_of_not_mem (fun entry hentry heq => hkey ⟨entry, hentry, heq⟩),
      setAll_of_not_mem
        (fun entry hentry heq => hkey ⟨entry, (h entry).mpr hentry, heq⟩)]

/-- Setting a batch again changes nothing. -/
theorem setAll_setAll [DecidableEq K] (h : Agreeing batch) :
    (ledger.setAll batch).setAll batch = ledger.setAll batch := by
  funext key
  by_cases hkey : exists entry, entry ∈ batch ∧ entry.1 = key
  · rcases hkey with ⟨entry, hentry, rfl⟩
    rw [setAll_of_mem h hentry, setAll_of_mem h hentry]
  · exact setAll_of_not_mem fun entry hentry heq => hkey ⟨entry, hentry, heq⟩

/-!
# Accepted batches
-/

theorem Accepts.congr [LE V] {other : List (K × V)} (haccepts : ledger.Accepts batch)
    (h : forall entry, entry ∈ batch <-> entry ∈ other) :
    ledger.Accepts other := by
  constructor
  · exact haccepts.agreeing.congr h
  · intro entry hentry
    exact haccepts.admits entry ((h entry).mpr hentry)

variable [DecidableEq K] [PartialOrder V]

/-- An accepted batch is accepted again. -/
theorem Accepts.again (h : ledger.Accepts batch) :
    (ledger.setAll batch).Accepts batch := by
  constructor
  · exact h.agreeing
  · intro entry hentry
    unfold Admits
    rw [setAll_of_mem h.agreeing hentry]

theorem Accepts.le_of_mem {other : List (K × V)} (h : Agreeing batch)
    (haccepts : (ledger.setAll batch).Accepts other) {a b : K × V}
    (ha : a ∈ batch) (hb : b ∈ other) (hkey : a.1 = b.1) : a.2 ≤ b.2 := by
  have hadmits := haccepts.admits b hb
  unfold Admits at hadmits
  rw [← hkey, setAll_of_mem h ha] at hadmits
  exact hadmits

/-- Two batches accepted in both orders ask for the same values. -/
theorem setAll_comm {other : List (K × V)} (hfirst : ledger.Accepts batch)
    (hfirst' : (ledger.setAll batch).Accepts other)
    (hother : ledger.Accepts other)
    (hother' : (ledger.setAll other).Accepts batch) :
    (ledger.setAll batch).setAll other = (ledger.setAll other).setAll batch := by
  funext key
  by_cases hbatch : exists a, a ∈ batch ∧ a.1 = key
  · rcases hbatch with ⟨a, ha, rfl⟩
    rw [setAll_of_mem hfirst.agreeing ha]
    by_cases hboth : exists b, b ∈ other ∧ b.1 = a.1
    · rcases hboth with ⟨b, hb, hkey⟩
      have hab := hfirst'.le_of_mem hfirst.agreeing ha hb hkey.symm
      have hba := hother'.le_of_mem hother.agreeing hb ha hkey
      rw [← hkey, setAll_of_mem hother.agreeing hb, le_antisymm hab hba]
    · rw [setAll_of_not_mem fun b hb hkey => hboth ⟨b, hb, hkey⟩,
        setAll_of_mem hfirst.agreeing ha]
  · have hnot : forall a, a ∈ batch -> a.1 ≠ key := by
      intro a ha hkey
      exact hbatch ⟨a, ha, hkey⟩
    rw [setAll_of_not_mem hnot]
    by_cases hother : exists b, b ∈ other ∧ b.1 = key
    · rcases hother with ⟨b, hb, rfl⟩
      rw [setAll_of_mem hfirst'.agreeing hb, setAll_of_mem hfirst'.agreeing hb]
    · have hneither : forall b, b ∈ other -> b.1 ≠ key := by
        intro b hb hkey
        exact hother ⟨b, hb, hkey⟩
      rw [setAll_of_not_mem hneither, setAll_of_not_mem hneither,
        setAll_of_not_mem hnot]

/-!
# One entry after the other

Admission can be decided entry by entry, since the entries of one key agree.
-/

theorem Accepts.rest {entry : K × V} {rest : List (K × V)}
    (h : ledger.Accepts (entry :: rest)) :
    Accepts (Function.update ledger entry.1 (some (Slot.floor entry.2)))
      rest := by
  constructor
  · exact h.agreeing.tail
  · intro later hlater
    unfold Admits
    by_cases hkey : later.1 = entry.1
    · have hvalue : later.2 = entry.2 :=
        h.agreeing later (List.mem_cons_of_mem entry hlater) entry
          List.mem_cons_self hkey
      rw [hkey, Function.update_self, hvalue]
    · rw [Function.update_of_ne hkey]
      exact h.admits later (List.mem_cons_of_mem entry hlater)

theorem Accepts.cons {entry : K × V} {rest : List (K × V)}
    (hagree : Agreeing (entry :: rest)) (hadmits : ledger.Admits entry)
    (h : Accepts (Function.update ledger entry.1 (some (Slot.floor entry.2)))
      rest) : ledger.Accepts (entry :: rest) := by
  constructor
  · exact hagree
  · intro later hlater
    rcases List.mem_cons.mp hlater with heq | hrest
    · rw [heq]
      exact hadmits
    · by_cases hkey : later.1 = entry.1
      · have hvalue : later.2 = entry.2 :=
          hagree later hlater entry List.mem_cons_self hkey
        rw [Prod.ext hkey hvalue]
        exact hadmits
      · have hlast := h.admits later hrest
        unfold Admits at hlast
        rw [Function.update_of_ne hkey] at hlast
        exact hlast

end Ledger

/-!
# Growing ledgers

No slot of a ledger is ever lost, lowered or turned into one of the other kind.
-/

/-- A later slot of the same kind that is not lower. -/
def Slot.Follows {V : Type v} [LE V] : Slot V -> Slot V -> Prop
  | Slot.counter last, Slot.counter next => last ≤ next
  | Slot.floor value, Slot.floor next => value ≤ next
  | _, _ => False

def Ledger.Grows {K : Type u} {V : Type v} [LE V] (ledger later : Ledger K V) :
    Prop :=
  forall key slot, ledger key = some slot ->
    exists next, later key = some next ∧ slot.Follows next

section Grows

variable {K : Type u} {V : Type v} {ledger : Ledger K V}

theorem Slot.follows_refl [Preorder V] (slot : Slot V) : slot.Follows slot := by
  cases slot with
  | counter last => exact Nat.le_refl last
  | floor value => exact le_refl value

theorem Slot.Follows.trans [Preorder V] {slot next last : Slot V}
    (h : slot.Follows next) (hnext : next.Follows last) : slot.Follows last := by
  cases slot with
  | counter a =>
      cases next with
      | counter b =>
          cases last with
          | counter c => exact Nat.le_trans h hnext
          | floor c => cases hnext
      | floor b => cases h
  | floor a =>
      cases next with
      | counter b => cases h
      | floor b =>
          cases last with
          | counter c => cases hnext
          | floor c => exact le_trans h hnext

theorem Ledger.grows_refl [Preorder V] (ledger : Ledger K V) :
    ledger.Grows ledger :=
  fun _ slot h => ⟨slot, h, slot.follows_refl⟩

theorem Ledger.Grows.trans [Preorder V] {later last : Ledger K V}
    (h : ledger.Grows later) (hlater : later.Grows last) :
    ledger.Grows last := by
  intro key slot hslot
  rcases h key slot hslot with ⟨next, hnext, hfollows⟩
  rcases hlater key next hnext with ⟨final, hfinal, hfollows'⟩
  exact ⟨final, hfinal, hfollows.trans hfollows'⟩

theorem Ledger.grows_update [DecidableEq K] [Preorder V] {key : K}
    {next : Slot V}
    (h : forall slot, ledger key = some slot -> slot.Follows next) :
    Ledger.Grows ledger (Function.update ledger key (some next)) := by
  intro other slot hslot
  by_cases hkey : other = key
  · subst hkey
    exact ⟨next, Function.update_self _ _ _, h slot hslot⟩
  · refine ⟨slot, ?_, slot.follows_refl⟩
    rw [Function.update_of_ne hkey]
    exact hslot

/-- An accepted batch only raises floors. -/
theorem Ledger.Accepts.grows [DecidableEq K] [Preorder V]
    {batch : List (K × V)} (h : ledger.Accepts batch) :
    ledger.Grows (ledger.setAll batch) := by
  intro key slot hslot
  by_cases hkey : exists entry, entry ∈ batch ∧ entry.1 = key
  · rcases hkey with ⟨entry, hentry, rfl⟩
    refine ⟨_, Ledger.setAll_of_mem h.agreeing hentry, ?_⟩
    cases slot with
    | counter last =>
        exact absurd (h.admits entry hentry) (Ledger.not_admits_of_counter hslot)
    | floor value =>
        exact (Ledger.admits_of_floor hslot).mp (h.admits entry hentry)
  · refine ⟨slot, ?_, slot.follows_refl⟩
    rw [Ledger.setAll_of_not_mem
      fun entry hentry heq => hkey ⟨entry, hentry, heq⟩]
    exact hslot

end Grows

/-!
# Two ledgers of one history

A translation names the keys of two ledgers by common sites and turns the values
of the first into values of the second. Ledgers that mirror one another admit
the same batches, and mirror one another afterwards.
-/

def Slot.map {V : Type u} {W : Type v} (f : V -> W) : Slot V -> Slot W
  | Slot.counter last => Slot.counter last
  | Slot.floor value => Slot.floor (f value)

structure Translation (J K L V W : Type) [LE V] [LE W] where
  left : J -> K
  right : J -> L
  value : V -> W
  left_injective : Function.Injective left
  right_injective : Function.Injective right
  value_injective : Function.Injective value
  value_le (a b : V) : value a ≤ value b <-> a ≤ b

namespace Translation

variable {J K L V W : Type} [LE V] [LE W] (T : Translation J K L V W)

def leftBatch (batch : List (J × V)) : List (K × V) :=
  batch.map fun entry => (T.left entry.1, entry.2)

def rightBatch (batch : List (J × V)) : List (L × W) :=
  batch.map fun entry => (T.right entry.1, T.value entry.2)

def Mirrors (ledger : Ledger K V) (other : Ledger L W) : Prop :=
  forall j, (ledger (T.left j)).map (Slot.map T.value) = other (T.right j)

variable {T} {ledger : Ledger K V} {other : Ledger L W} {batch : List (J × V)}

theorem agreeing_iff :
    Agreeing (T.leftBatch batch) <-> Agreeing (T.rightBatch batch) := by
  unfold leftBatch rightBatch Agreeing
  simp only [List.forall_mem_map]
  constructor
  · intro h a ha b hb hkey
    exact congrArg T.value (h a ha b hb (congrArg T.left (T.right_injective hkey)))
  · intro h a ha b hb hkey
    exact T.value_injective
      (h a ha b hb (congrArg T.right (T.left_injective hkey)))

theorem Mirrors.admits_iff (h : T.Mirrors ledger other) (j : J) (value : V) :
    ledger.Admits (T.left j, value) <->
      other.Admits (T.right j, T.value value) := by
  unfold Ledger.Admits
  dsimp only
  rw [← h j]
  cases ledger (T.left j) with
  | none => exact Iff.rfl
  | some slot =>
      cases slot with
      | counter last => exact Iff.rfl
      | floor found => exact (T.value_le found value).symm

theorem Mirrors.accepts_iff (h : T.Mirrors ledger other) :
    ledger.Accepts (T.leftBatch batch) <->
      other.Accepts (T.rightBatch batch) := by
  constructor
  · intro haccepts
    refine ⟨agreeing_iff.mp haccepts.agreeing, ?_⟩
    intro entry hentry
    rcases List.mem_map.mp hentry with ⟨⟨j, value⟩, hmem, rfl⟩
    exact (h.admits_iff j value).mp
      (haccepts.admits _ (List.mem_map_of_mem hmem))
  · intro haccepts
    refine ⟨agreeing_iff.mpr haccepts.agreeing, ?_⟩
    intro entry hentry
    rcases List.mem_map.mp hentry with ⟨⟨j, value⟩, hmem, rfl⟩
    exact (h.admits_iff j value).mpr
      (haccepts.admits _ (List.mem_map_of_mem hmem))

variable [DecidableEq K] [DecidableEq L]

theorem Mirrors.update (h : T.Mirrors ledger other) (j : J) (slot : Slot V) :
    T.Mirrors (Function.update ledger (T.left j) (some slot))
      (Function.update other (T.right j) (some (slot.map T.value))) := by
  intro i
  by_cases hsite : i = j
  · rw [hsite, Function.update_self, Function.update_self]
    rfl
  · rw [Function.update_of_ne fun hkey => hsite (T.left_injective hkey),
      Function.update_of_ne fun hkey => hsite (T.right_injective hkey)]
    exact h i

theorem Mirrors.setAll (h : T.Mirrors ledger other) :
    T.Mirrors (ledger.setAll (T.leftBatch batch))
      (other.setAll (T.rightBatch batch)) := by
  induction batch generalizing ledger other with
  | nil => exact h
  | cons entry rest ih => exact ih (h.update entry.1 (Slot.floor entry.2))

end Translation

end Foundation
end Pubky2Pubky
