import Mathlib.Data.List.Basic

/-!
# Wake-ups

A notifier hands out futures. A single notification wakes a future that waits,
and is kept as a permit when there is none; a broadcast completes every future
that has been handed out. A future waits only from its first poll on, so a
notification between its creation and that poll does not see it.
-/

namespace Pubky2Pubky
namespace Foundation

inductive Notified where
  | created (calls : Nat)
  | waiting
  | woken
  deriving DecidableEq

structure Notify where
  permit : Bool
  calls : Nat

namespace Notify

def new : Notify :=
  { permit := false, calls := 0 }

/-- Poll a future; without a future in the result it is ready. -/
def poll (self : Notify) : Notified -> Notify × Option Notified
  | Notified.created calls =>
      if self.permit = true then ({ self with permit := false }, none)
      else if calls = self.calls then (self, some Notified.waiting)
      else (self, none)
  | Notified.waiting => (self, some Notified.waiting)
  | Notified.woken => (self, none)

def storePermit (self : Notify) : Notify :=
  { self with permit := true }

def notifyWaiters (self : Notify) : Notify :=
  { self with calls := self.calls + 1 }

def completed (self : Notify) (calls : Nat) : Bool :=
  decide (calls ≠ self.calls)

variable {notify : Notify} {calls : Nat}

theorem poll_of_permit (h : notify.permit = true) :
    notify.poll (Notified.created calls) =
      ({ notify with permit := false }, none) := by
  unfold poll
  dsimp only
  rw [if_pos h]

theorem poll_of_completed (h : notify.permit = false)
    (hcompleted : notify.completed calls = true) :
    notify.poll (Notified.created calls) = (notify, none) := by
  have hcalls : ¬ calls = notify.calls := of_decide_eq_true hcompleted
  unfold poll
  dsimp only
  rw [h, if_neg Bool.false_ne_true, if_neg hcalls]

theorem poll_of_fresh (h : notify.permit = false)
    (hcompleted : notify.completed calls = false) :
    notify.poll (Notified.created calls) = (notify, some Notified.waiting) := by
  have hcalls : calls = notify.calls :=
    Decidable.not_not.mp (of_decide_eq_false hcompleted)
  unfold poll
  dsimp only
  rw [h, if_neg Bool.false_ne_true, if_pos hcalls]

end Notify

def Notified.wake : Notified -> Notified
  | Notified.waiting => Notified.woken
  | other => other

/-!
# A census of the consumers

Consumers look at the items and then poll a future. The census counts who will
look at the items again whatever happens, who has looked and not polled, and who
waits. A completed future that has not been polled takes the permit with it, so
the permit serves nobody else as long as there is one.
-/

structure Census where
  items : Nat
  lookers : Nat
  completed : Nat
  window : Nat
  parked : Nat
  singles : Nat
  broadcasts : Nat
  permit : Bool
  closed : Bool

namespace Census

/-- The permit, if it is sure to wake a consumer that would wait otherwise. -/
def usable (census : Census) : Nat :=
  if census.permit = true ∧ census.completed = 0 then 1 else 0

/--
Every item has a consumer that will look at it, or nobody is left to wait; a
permit is kept only when nobody waits, and nobody waits for what is closed.
-/
structure Covered (census : Census) : Prop where
  reached : census.items ≤ census.lookers + census.usable + census.singles ∨
    census.window + census.parked ≤ census.usable ∨ 0 < census.broadcasts
  alone : census.permit = true -> census.parked = 0
  shut : census.closed = true ->
    0 < census.broadcasts ∨ census.window + census.parked = 0

/-- All consumers wait, and nothing is on its way to wake one. -/
structure Asleep (census : Census) : Prop where
  lookers : census.lookers = 0
  completed : census.completed = 0
  window : census.window = 0
  parked : 0 < census.parked
  singles : census.singles = 0
  broadcasts : census.broadcasts = 0
  permit : census.permit = false

theorem usable_le (census : Census) : census.usable ≤ 1 := by
  unfold usable
  split
  · exact Nat.le_refl 1
  · exact Nat.zero_le 1

theorem usable_of_no_permit {census : Census} (h : census.permit = false) :
    census.usable = 0 := by
  unfold usable
  rw [if_neg]
  rintro ⟨hpermit, _⟩
  rw [h] at hpermit
  cases hpermit

theorem usable_of_completed {census : Census} (h : 0 < census.completed) :
    census.usable = 0 := by
  unfold usable
  rw [if_neg]
  rintro ⟨_, hnone⟩
  omega

/-- Nobody sleeps while there is an item, or after the end. -/
theorem Covered.awake {census : Census} (h : census.Covered) (hasleep : census.Asleep) :
    census.items = 0 ∧ census.closed = false := by
  have husable := usable_of_no_permit hasleep.permit
  have hparked := hasleep.parked
  constructor
  · rcases h.reached with hitems | hwaiting | hbroadcasts
    · rw [hasleep.lookers, husable, hasleep.singles] at hitems
      exact Nat.le_zero.mp hitems
    · omega
    · rw [hasleep.broadcasts] at hbroadcasts
      exact absurd hbroadcasts (Nat.lt_irrefl 0)
  · rw [Bool.eq_false_iff]
    intro hclosed
    rcases h.shut hclosed with hbroadcasts | hwaiting
    · rw [hasleep.broadcasts] at hbroadcasts
      exact Nat.lt_irrefl 0 hbroadcasts
    · omega

section Steps

variable {before after : Census}

/-- Items go, consumers come, and wake-ups are owed: all of it is harmless. -/
theorem Covered.grow (h : before.Covered)
    (hitems : after.items + before.singles ≤ before.items + after.singles)
    (hlookers : before.lookers ≤ after.lookers)
    (hcompleted : after.completed = before.completed)
    (hwindow : after.window = before.window)
    (hparked : after.parked = before.parked)
    (hbroadcasts : before.broadcasts ≤ after.broadcasts)
    (hpermit : after.permit = before.permit)
    (hclosed : after.closed = true ->
      before.closed = true ∨ 0 < after.broadcasts) : after.Covered := by
  have husable : after.usable = before.usable := by
    unfold usable
    rw [hpermit, hcompleted]
  constructor
  case reached =>
    rcases h.reached with hreached | hwaiting | howed
    · left
      omega
    · right
      left
      omega
    · right
      right
      omega
  case alone =>
    rw [hpermit, hparked]
    exact h.alone
  case shut =>
    intro hafter
    rcases hclosed hafter with hbefore | howed
    · rcases h.shut hbefore with howed | hnone
      · left
        omega
      · right
        omega
    · exact Or.inl howed

/-- A consumer takes an item, or finds that there is none. -/
theorem Covered.look (h : before.Covered)
    (hitems : after.items = 0 ∨ after.items + 1 ≤ before.items ∧
      before.lookers ≤ after.lookers + 1 ∧
      after.completed = before.completed ∧ after.window = before.window)
    (hparked : after.parked = before.parked)
    (hsingles : after.singles = before.singles)
    (hbroadcasts : after.broadcasts = before.broadcasts)
    (hpermit : after.permit = before.permit)
    (hclosed : after.closed = true ->
      before.closed = true ∧ after.window = before.window) :
    after.Covered := by
  constructor
  case reached =>
    rcases hitems with hnone | ⟨hfewer, hlookers, hcompleted, hwindow⟩
    · left
      omega
    · have husable : after.usable = before.usable := by
        unfold usable
        rw [hpermit, hcompleted]
      rcases h.reached with hreached | hwaiting | howed
      · left
        omega
      · right
        left
        omega
      · right
        right
        omega
  case alone =>
    rw [hpermit, hparked]
    exact h.alone
  case shut =>
    intro hafter
    rcases hclosed hafter with ⟨hbefore, hwindow⟩
    rw [hbroadcasts, hwindow, hparked]
    exact h.shut hbefore

theorem Covered.takePermit (h : before.Covered)
    (hitems : after.items = before.items)
    (hlookers : after.lookers = before.lookers + 1)
    (hwindow : after.window + 1 = before.window)
    (hparked : after.parked = before.parked)
    (hsingles : after.singles = before.singles)
    (hbroadcasts : after.broadcasts = before.broadcasts)
    (hafter : after.permit = false)
    (hclosed : after.closed = before.closed) : after.Covered := by
  have hnone := usable_of_no_permit hafter
  have hone := before.usable_le
  constructor
  case reached =>
    rcases h.reached with hreached | hwaiting | howed
    · left
      omega
    · right
      left
      omega
    · right
      right
      omega
  case alone =>
    rw [hafter]
    intro htrue
    cases htrue
  case shut =>
    rw [hclosed]
    intro hshut
    rcases h.shut hshut with howed | hnobody
    · left
      omega
    · right
      omega

theorem Covered.park (h : before.Covered)
    (hitems : after.items = before.items)
    (hlookers : after.lookers = before.lookers)
    (hwindow : after.window + 1 = before.window)
    (hparked : after.parked = before.parked + 1)
    (hsingles : after.singles = before.singles)
    (hbroadcasts : after.broadcasts = before.broadcasts)
    (hbefore : before.permit = false) (hafter : after.permit = false)
    (hclosed : after.closed = before.closed) : after.Covered := by
  have hnone := usable_of_no_permit hafter
  have hearlier := usable_of_no_permit hbefore
  constructor
  case reached =>
    rcases h.reached with hreached | hwaiting | howed
    · left
      omega
    · right
      left
      omega
    · right
      right
      omega
  case alone =>
    rw [hafter]
    intro htrue
    cases htrue
  case shut =>
    rw [hclosed]
    intro hshut
    rcases h.shut hshut with howed | hnobody
    · left
      omega
    · right
      omega

theorem Covered.pass (h : before.Covered)
    (hitems : after.items = before.items)
    (hlookers : after.lookers = before.lookers)
    (hcompleted : after.completed + 1 = before.completed)
    (hwindow : after.window = before.window)
    (hparked : after.parked = before.parked)
    (hsingles : after.singles = before.singles)
    (hbroadcasts : after.broadcasts = before.broadcasts)
    (hafter : after.permit = false)
    (hclosed : after.closed = before.closed) : after.Covered := by
  have hnone := usable_of_no_permit hafter
  have hearlier : before.usable = 0 := by
    apply usable_of_completed
    omega
  constructor
  case reached =>
    rcases h.reached with hreached | hwaiting | howed
    · left
      omega
    · right
      left
      omega
    · right
      right
      omega
  case alone =>
    rw [hafter]
    intro htrue
    cases htrue
  case shut =>
    rw [hclosed, hbroadcasts, hwindow, hparked]
    exact h.shut

/-- A single notification wakes a consumer that waits. -/
theorem Covered.wake (h : before.Covered)
    (hitems : after.items = before.items)
    (hlookers : after.lookers = before.lookers + 1)
    (hcompleted : after.completed = before.completed)
    (hwindow : after.window = before.window)
    (hparked : after.parked + 1 = before.parked)
    (hsingles : after.singles + 1 = before.singles)
    (hbroadcasts : after.broadcasts = before.broadcasts)
    (hpermit : after.permit = before.permit)
    (hclosed : after.closed = before.closed) : after.Covered := by
  have husable : after.usable = before.usable := by
    unfold usable
    rw [hpermit, hcompleted]
  constructor
  case reached =>
    rcases h.reached with hreached | hwaiting | howed
    · left
      omega
    · right
      left
      omega
    · right
      right
      omega
  case alone =>
    rw [hpermit]
    intro hheld
    have := h.alone hheld
    omega
  case shut =>
    rw [hclosed]
    intro hshut
    rcases h.shut hshut with howed | hnobody
    · left
      omega
    · right
      omega

/-- What a permit stored now can still do. -/
def served (census : Census) : Nat :=
  if census.completed = 0 then 1 else 0

/--
A single notification that finds nobody waiting leaves its permit to someone it
can wake, or its item to someone who will look.
-/
def Heard (census : Census) : Prop :=
  census.items < census.lookers + census.singles + census.served ∨
    census.window ≤ census.served ∨ 0 < census.broadcasts

theorem Covered.store (h : before.Covered) (hheard : before.Heard)
    (hitems : after.items = before.items)
    (hlookers : after.lookers = before.lookers)
    (hcompleted : after.completed = before.completed)
    (hwindow : after.window = before.window)
    (hbefore : before.parked = 0) (hparked : after.parked = 0)
    (hsingles : after.singles + 1 = before.singles)
    (hbroadcasts : after.broadcasts = before.broadcasts)
    (hpermit : after.permit = true)
    (hclosed : after.closed = before.closed) : after.Covered := by
  have husable : after.usable = before.served := by
    unfold usable served
    rw [hcompleted]
    split
    · rename_i hkept
      rw [if_pos hkept.2]
    · rename_i hlost
      rw [if_neg fun hnone => hlost ⟨hpermit, hnone⟩]
  constructor
  case reached =>
    rcases hheard with hreached | hwaiting | howed
    · left
      omega
    · right
      left
      omega
    · right
      right
      omega
  case alone =>
    intro _
    exact hparked
  case shut =>
    rw [hclosed]
    intro hshut
    rcases h.shut hshut with howed | hnobody
    · left
      omega
    · right
      omega

theorem Covered.broadcast (hwindow : after.window = 0)
    (hparked : after.parked = 0) : after.Covered := by
  constructor
  case reached =>
    right
    left
    omega
  case alone =>
    intro _
    exact hparked
  case shut =>
    intro _
    right
    omega

end Steps

end Census

end Foundation
end Pubky2Pubky
