import Mathlib.Data.Set.Basic

/-!
# Labelled machines and their runs

A machine is a set of initial states together with a partial step function. All
nondeterminism of a system (the scheduler, the clock, the network) is in the
labels, so a concrete run can be evaluated, and an assumption about the
environment is a predicate on the state and the label of a step.
-/

namespace Pubky2Pubky
namespace Foundation

universe u v

structure Machine (State : Type u) (Label : Type v) where
  initial : State -> Prop
  next : State -> Label -> Option State

namespace Machine

variable {State : Type u} {Label : Type v}

def run (M : Machine State Label) : State -> List Label -> Option State
  | s, [] => some s
  | s, a :: rest =>
      match M.next s a with
      | none => none
      | some s' => run M s' rest

theorem run_cons {M : Machine State Label} {s s' : State} {a : Label}
    {rest : List Label} (h : M.next s a = some s') :
    M.run s (a :: rest) = M.run s' rest := by
  rw [Machine.run, h]

/-- States reached by steps that all meet the given assumption. -/
inductive ReachableWhen (M : Machine State Label)
    (allowed : State -> Label -> Prop) : State -> Prop where
  | start {s : State} : M.initial s -> ReachableWhen M allowed s
  | step {s s' : State} {a : Label} :
      ReachableWhen M allowed s -> allowed s a -> M.next s a = some s' ->
      ReachableWhen M allowed s'

def Reachable (M : Machine State Label) (s : State) : Prop :=
  M.ReachableWhen (fun _ _ => True) s

/-!
# Invariants

A property that holds initially and is kept by every allowed step holds in every
state reached.
-/

theorem ReachableWhen.invariant {M : Machine State Label}
    {allowed : State -> Label -> Prop} {I : State -> Prop}
    (hstart : forall s, M.initial s -> I s)
    (hstep : forall s a s', I s -> allowed s a -> M.next s a = some s' -> I s')
    {s : State} (h : M.ReachableWhen allowed s) : I s := by
  induction h with
  | start hinit =>
      exact hstart _ hinit
  | step _ hallowed hnext ih =>
      exact hstep _ _ _ ih hallowed hnext

theorem ReachableWhen.mono {M : Machine State Label}
    {allowed weaker : State -> Label -> Prop}
    (hweaker : forall s a, allowed s a -> weaker s a)
    {s : State} (h : M.ReachableWhen allowed s) :
    M.ReachableWhen weaker s := by
  induction h with
  | start hinit =>
      exact ReachableWhen.start hinit
  | step _ hallowed hnext ih =>
      exact ReachableWhen.step ih (hweaker _ _ hallowed) hnext

/-- A run from a reachable state, each of whose labels is always allowed. -/
theorem ReachableWhen.run {M : Machine State Label}
    {allowed : State -> Label -> Prop} {labels : List Label}
    {s t : State} (h : M.ReachableWhen allowed s)
    (hallowed : forall s' a, a ∈ labels -> allowed s' a)
    (hrun : M.run s labels = some t) :
    M.ReachableWhen allowed t := by
  induction labels generalizing s with
  | nil =>
      cases hrun
      exact h
  | cons a rest ih =>
      unfold Machine.run at hrun
      cases hnext : M.next s a with
      | none =>
          rw [hnext] at hrun
          cases hrun
      | some s' =>
          rw [hnext] at hrun
          have hs' : M.ReachableWhen allowed s' :=
            ReachableWhen.step h (hallowed s a List.mem_cons_self) hnext
          exact ih hs'
            (fun r b hb => hallowed r b (List.mem_cons_of_mem a hb)) hrun

theorem Reachable.run {M : Machine State Label} {labels : List Label}
    {s t : State} (h : M.Reachable s) (hrun : M.run s labels = some t) :
    M.Reachable t :=
  ReachableWhen.run h (fun _ _ _ => trivial) hrun

/-- Execute a list of labels from a state, as long as each passes a check. -/
def runChecked (M : Machine State Label) (check : State -> Label -> Bool) :
    State -> List Label -> Option State
  | s, [] => some s
  | s, a :: rest =>
      if check s a = true then
        match M.next s a with
        | none => none
        | some s' => runChecked M check s' rest
      else none

theorem ReachableWhen.runChecked {M : Machine State Label}
    {allowed : State -> Label -> Prop} {check : State -> Label -> Bool}
    (hcheck : forall s a, check s a = true -> allowed s a)
    {labels : List Label} {s t : State} (h : M.ReachableWhen allowed s)
    (hrun : M.runChecked check s labels = some t) : M.ReachableWhen allowed t := by
  induction labels generalizing s with
  | nil =>
      cases hrun
      exact h
  | cons a rest ih =>
      unfold Machine.runChecked at hrun
      split at hrun
      · next hpassed =>
          cases hnext : M.next s a with
          | none =>
              rw [hnext] at hrun
              cases hrun
          | some s' =>
              rw [hnext] at hrun
              exact ih (ReachableWhen.step h (hcheck s a hpassed) hnext) hrun
      · cases hrun

end Machine

end Foundation
end Pubky2Pubky
