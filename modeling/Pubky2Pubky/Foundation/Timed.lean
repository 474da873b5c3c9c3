import Mathlib.Data.List.Basic
import Pubky2Pubky.Foundation.Checks

/-!
# Computations on a clock

A timed computation starts at an instant. It ends at a later one with a result,
and leaves a mark for each thing it starts on the way. A timeout cuts a
computation once its duration has elapsed: what would start later never does.
-/

namespace Pubky2Pubky
namespace Foundation

universe u

structure TimedRun (ε Mark : Type u) (α : Type u) where
  clock : Nat
  marks : List (Nat × Mark)
  result : Except ε α

def Timed (ε Mark : Type) (α : Type) : Type :=
  Nat -> TimedRun ε Mark α

namespace Timed

variable {ε Mark α β : Type}

def instantly (result : Except ε α) : Timed ε Mark α :=
  fun clock => { clock := clock, marks := [], result := result }

/-- The second computation starts when the first one has succeeded. -/
def andThen (first : Timed ε Mark α) (next : α -> Timed ε Mark β) :
    Timed ε Mark β :=
  fun clock =>
    let run := first clock
    match run.result with
    | Except.error error =>
        { clock := run.clock, marks := run.marks, result := Except.error error }
    | Except.ok a =>
        let rest := next a run.clock
        { clock := rest.clock
          marks := run.marks ++ rest.marks
          result := rest.result }

instance : Monad (Timed ε Mark) where
  pure a := instantly (Except.ok a)
  bind := andThen

def now : Timed ε Mark Nat :=
  fun clock => instantly (Except.ok clock) clock

def lasting (duration : Nat) (result : Except ε α) : Timed ε Mark α :=
  fun clock => { clock := clock + duration, marks := [], result := result }

def start (mark : Mark) : Timed ε Mark Unit :=
  fun clock => { clock := clock, marks := [(clock, mark)], result := Except.ok () }

/-- The result of the computation, or an error once the duration has elapsed. -/
def timeout (duration : Nat) (elapsed : ε) (run : Timed ε Mark α) :
    Timed ε Mark (Except ε α) :=
  fun clock =>
    let inner := run clock
    if inner.clock < clock + duration then
      { clock := inner.clock
        marks := inner.marks
        result := Except.ok inner.result }
    else
      { clock := clock + duration
        marks := inner.marks.filter fun mark => decide (mark.1 < clock + duration)
        result := Except.error elapsed }

/-!
# Sequences
-/

section Sequences

variable {first : Timed ε Mark α} {next : α -> Timed ε Mark β} {clock : Nat}

theorem bind_of_ok {a : α} (h : (first clock).result = Except.ok a) :
    (first >>= next) clock =
      { clock := (next a (first clock).clock).clock
        marks := (first clock).marks ++ (next a (first clock).clock).marks
        result := (next a (first clock).clock).result } := by
  change andThen first next clock = _
  unfold andThen
  dsimp only
  rw [h]

theorem bind_of_error {error : ε}
    (h : (first clock).result = Except.error error) :
    (first >>= next) clock =
      { clock := (first clock).clock
        marks := (first clock).marks
        result := Except.error error } := by
  change andThen first next clock = _
  unfold andThen
  dsimp only
  rw [h]

theorem bind_clock {a : α} (h : (first clock).result = Except.ok a) :
    ((first >>= next) clock).clock = (next a (first clock).clock).clock := by
  rw [bind_of_ok h]

theorem bind_result_eq_ok {b : β} :
    ((first >>= next) clock).result = Except.ok b <->
      exists a, (first clock).result = Except.ok a ∧
        (next a (first clock).clock).result = Except.ok b := by
  cases h : (first clock).result with
  | error error =>
      rw [bind_of_error h]
      simp
  | ok a =>
      rw [bind_of_ok h]
      simp

theorem mem_marks_bind {mark : Nat × Mark} :
    mark ∈ ((first >>= next) clock).marks <->
      mark ∈ (first clock).marks ∨
        exists a, (first clock).result = Except.ok a ∧
          mark ∈ (next a (first clock).clock).marks := by
  cases h : (first clock).result with
  | error error =>
      rw [bind_of_error h]
      simp
  | ok a =>
      rw [bind_of_ok h]
      simp

end Sequences

/-!
# Single parts
-/

theorem result_now (clock : Nat) :
    ((now : Timed ε Mark Nat) clock).result = Except.ok clock :=
  rfl

theorem clock_now (clock : Nat) : ((now : Timed ε Mark Nat) clock).clock = clock :=
  rfl

theorem clock_instantly (result : Except ε α) (clock : Nat) :
    ((instantly result : Timed ε Mark α) clock).clock = clock :=
  rfl

theorem clock_lasting (duration : Nat) (result : Except ε α) (clock : Nat) :
    ((lasting duration result : Timed ε Mark α) clock).clock = clock + duration :=
  rfl

theorem result_instantly (result : Except ε α) (clock : Nat) :
    ((instantly result : Timed ε Mark α) clock).result = result :=
  rfl

theorem result_lasting (duration : Nat) (result : Except ε α) (clock : Nat) :
    ((lasting duration result : Timed ε Mark α) clock).result = result :=
  rfl

theorem result_start (started : Mark) (clock : Nat) :
    ((start started : Timed ε Mark Unit) clock).result = Except.ok () :=
  rfl

theorem marks_lasting (duration : Nat) (result : Except ε α) (clock : Nat) :
    ((lasting duration result : Timed ε Mark α) clock).marks = [] :=
  rfl

theorem marks_instantly (result : Except ε α) (clock : Nat) :
    ((instantly result : Timed ε Mark α) clock).marks = [] :=
  rfl

theorem mem_marks_now_bind {next : Nat -> Timed ε Mark β} {clock : Nat}
    {mark : Nat × Mark} :
    mark ∈ ((now >>= next) clock).marks <-> mark ∈ (next clock clock).marks := by
  rw [mem_marks_bind]
  constructor
  · rintro (h | ⟨instant, hinstant, h⟩)
    · cases h
    · injection hinstant with hinstant
      subst hinstant
      exact h
  · intro h
    exact Or.inr ⟨clock, rfl, h⟩

theorem mem_marks_instantly_bind {result : Except ε α}
    {next : α -> Timed ε Mark β} {clock : Nat} {mark : Nat × Mark} :
    mark ∈ ((instantly result >>= next) clock).marks <->
      exists a, result = Except.ok a ∧ mark ∈ (next a clock).marks := by
  rw [mem_marks_bind]
  exact or_iff_right List.not_mem_nil

theorem mem_marks_lasting_bind {duration : Nat} {result : Except ε α}
    {next : α -> Timed ε Mark β} {clock : Nat} {mark : Nat × Mark} :
    mark ∈ ((lasting duration result >>= next) clock).marks <->
      exists a, result = Except.ok a ∧ mark ∈ (next a (clock + duration)).marks := by
  rw [mem_marks_bind]
  exact or_iff_right List.not_mem_nil

theorem mem_marks_start_bind {started : Mark} {next : Unit -> Timed ε Mark β}
    {clock : Nat} {mark : Nat × Mark} :
    mark ∈ ((start started >>= next) clock).marks <->
      mark = (clock, started) ∨ mark ∈ (next () clock).marks := by
  rw [mem_marks_bind]
  refine or_congr List.mem_singleton ?_
  constructor
  · intro h
    rcases h with ⟨_, _, h⟩
    exact h
  · intro h
    exact ⟨(), rfl, h⟩

/-!
# Marks and the clock
-/

/-- The clock runs forward, and every mark lies within the run. -/
def Forward (run : Timed ε Mark α) : Prop :=
  forall clock, clock ≤ (run clock).clock ∧
    forall mark, mark ∈ (run clock).marks -> mark.1 ≤ (run clock).clock

theorem forward_instantly (result : Except ε α) :
    (instantly result : Timed ε Mark α).Forward :=
  fun clock => ⟨Nat.le_refl clock, fun _ h => absurd h List.not_mem_nil⟩

theorem forward_lasting (duration : Nat) (result : Except ε α) :
    (lasting duration result : Timed ε Mark α).Forward :=
  fun clock => ⟨Nat.le_add_right clock duration,
    fun _ h => absurd h List.not_mem_nil⟩

theorem forward_start (started : Mark) : (start started : Timed ε Mark Unit).Forward := by
  intro clock
  refine ⟨Nat.le_refl clock, fun mark h => ?_⟩
  rw [List.mem_singleton.mp h]
  exact Nat.le_refl clock

theorem Forward.bind {first : Timed ε Mark α} {next : α -> Timed ε Mark β}
    (hfirst : first.Forward) (hnext : forall a, (next a).Forward) :
    (first >>= next).Forward := by
  intro clock
  have hbefore := hfirst clock
  cases h : (first clock).result with
  | error error =>
      rw [bind_of_error h]
      exact hbefore
  | ok a =>
      rw [bind_of_ok h]
      have hafter := hnext a (first clock).clock
      refine ⟨Nat.le_trans hbefore.left hafter.left, fun mark hmark => ?_⟩
      rcases List.mem_append.mp hmark with hmark | hmark
      · exact Nat.le_trans (hbefore.right mark hmark) hafter.left
      · exact hafter.right mark hmark

/-- Under a timeout exactly the marks of its time are left. -/
theorem mem_marks_timeout {duration : Nat} {elapsed : ε} {run : Timed ε Mark α}
    {clock : Nat} {mark : Nat × Mark} (hforward : run.Forward) :
    mark ∈ (timeout duration elapsed run clock).marks <->
      mark ∈ (run clock).marks ∧ mark.1 < clock + duration := by
  unfold timeout
  dsimp only
  by_cases htime : (run clock).clock < clock + duration
  · rw [if_pos htime]
    refine (and_iff_left_of_imp fun hmark => ?_).symm
    exact Nat.lt_of_le_of_lt ((hforward clock).right mark hmark) htime
  · rw [if_neg htime, List.mem_filter, decide_eq_true_eq]

/-- The computation returns in time, with its own result. -/
theorem timeout_result_eq_ok {duration : Nat} {elapsed : ε} {run : Timed ε Mark α}
    {clock : Nat} {result : Except ε α} :
    (timeout duration elapsed run clock).result = Except.ok result <->
      (run clock).clock < clock + duration ∧ (run clock).result = result := by
  unfold timeout
  dsimp only
  by_cases htime : (run clock).clock < clock + duration
  · rw [if_pos htime, and_iff_right htime]
    exact ⟨fun h => Except.ok.inj h, fun h => congrArg Except.ok h⟩
  · rw [if_neg htime]
    exact ⟨fun h => (nomatch h), fun h => absurd h.left htime⟩

theorem timeout_clock {duration : Nat} {elapsed : ε} {run : Timed ε Mark α}
    {clock : Nat} (htime : (run clock).clock < clock + duration) :
    (timeout duration elapsed run clock).clock = (run clock).clock := by
  unfold timeout
  dsimp only
  rw [if_pos htime]

end Timed

end Foundation
end Pubky2Pubky
