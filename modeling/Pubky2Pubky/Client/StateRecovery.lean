import Pubky2Pubky.Protocol.Reference
import Pubky2Pubky.Client.CrashSafety
import Pubky2Pubky.Client.StateJson

/-!
# Recovery of the state file

After every step of every run the path shows the map that the current operation
found or the one it makes. A crash can also undo operations that have failed to
sync the directory, and no others.
-/

namespace Pubky2Pubky
namespace Client

open Foundation Protocol

namespace FileSequenceStore

section Steps

variable (P : Primitives) [StateFormat P]

/-- What one step does to the state path, and what its answers stand for. -/
structure StepSafe (s : StateDirectory P) (event : Event P)
    (s' : StateDirectory P) : Prop where
  /-- The path holds the map that the operation found or the one it makes,
  unless a crash brings back what earlier operations have left unsynced. -/
  atomic (u : FileUpdate P) : s.holder = some u ->
    (exists before, readPath P u.start = Except.ok before ∧
      (readPath P s'.path = Except.ok before ∨ exists after result,
        stageUpdate P before u.update = Except.ok (after, result) ∧
          readPath P s'.path = Except.ok after)) ∨
      event.Crashes ∧ s'.path.current ∈ u.start.older
  idle : s.holder = none ->
    s'.path = s.path ∨ event.Crashes ∧ s'.path.current ∈ s.path.survivors
  rejected (u : FileUpdate P) (before : SequenceState) (error : ClientError) :
    s.holder = some u -> readPath P u.start = Except.ok before ->
    stageUpdate P before u.update = Except.error error -> ¬ event.Crashes ->
    s'.path = u.start
  durable (answer : Answer P) (value : Nat) :
    s'.answers = s.answers ++ [answer] -> answer.result = Except.ok value ->
    exists u before after, s.holder = some u ∧
      answer = { caller := u.caller
                 operation := u.operation
                 result := Except.ok value } ∧
      readPath P u.start = Except.ok before ∧
      stageUpdate P before u.update = Except.ok (after, value) ∧
      s'.path.older = [] ∧ readPath P s'.path = Except.ok after
  grows (before after : SequenceState) : ¬ event.Crashes ->
    readPath P s.path = Except.ok before ->
    readPath P s'.path = Except.ok after ->
    (ledger before).Grows (ledger after)
  settled (before after : SequenceState) :
    readFile P s.path.settled = Except.ok before ->
    readFile P s'.path.settled = Except.ok after ->
    (ledger before).Grows (ledger after)

variable {P}

omit [StateFormat P] in
/-- Before its rename an update has changed nothing, and then only one file. -/
theorem AtStage.cases {start path : StatePath} {update : Update} {stage : Stage}
    (h : AtStage P start update path stage) :
    path = start ∨ exists file before after result,
      (path = start.rename (some file) ∨
        path = (start.rename (some file)).sync) ∧
      file.synced = true ∧ Staged P start update before after file.bytes result := by
  cases stage with
  | locked => exact Or.inl h
  | read values => exact Or.inl h.left
  | encoded bytes result => exact Or.inl h.left
  | created bytes result => exact Or.inl h.left
  | written temporary result => exact Or.inl h.left
  | synced temporary result => exact Or.inl h.left
  | renamed result =>
      rcases h with ⟨file, before, after, hpath, hsynced, hstaged⟩
      exact Or.inr ⟨file, before, after, result, Or.inl hpath, hsynced, hstaged⟩
  | directorySynced result =>
      rcases h with ⟨file, before, after, hpath, hsynced, hstaged⟩
      exact Or.inr ⟨file, before, after, result, Or.inr hpath, hsynced, hstaged⟩

variable {u : FileUpdate P} {path : StatePath}
variable {answers : List (Answer P)} {s s' : StateDirectory P} {event : Event P}

theorem Sealed.step_idle (h : Sealed s) (hnext : s.next P event = some s')
    (hnone : s.holder = none) :
    s'.path = s.path ∨
      event.Crashes ∧ s'.path.current ∈ s.path.survivors := by
  cases transition_of_next hnext with
  | refused caller operation error _ => exact Or.inl rfl
  | locked caller operation update _ _ _ => exact Or.inl rfl
  | proceeded v path stage _ hv _ =>
      rw [hnone] at hv
      cases hv
  | failed v error _ _ => exact Or.inl rfl
  | finished v value _ _ _ => exact Or.inl rfl
  | killed v _ _ => exact Or.inl rfl
  | crashed survivor damage path hcrash =>
      right
      refine ⟨⟨survivor, damage, rfl⟩, ?_⟩
      dsimp only
      rw [(h.crashed hcrash damage).left]
      exact (Replaced.crash_eq_some hcrash).left

theorem advance_path {after : StatePath} {update : Update} {stage next : Stage}
    (h : advance P path update stage = (after, Progress.continues next)) :
    after = path ∨ (exists file, after = path.rename file) ∨
      after = path.sync := by
  cases stage with
  | locked =>
      unfold advance at h
      dsimp only at h
      split at h
      · cases h
      · injection h with hafter _
        exact Or.inl hafter.symm
  | read values =>
      unfold advance at h
      dsimp only at h
      split at h
      · cases h
      · injection h with hafter _
        exact Or.inl hafter.symm
  | synced temporary result =>
      injection h with hafter _
      exact Or.inr (Or.inl ⟨some temporary, hafter.symm⟩)
  | renamed result =>
      injection h with hafter _
      exact Or.inr (Or.inr hafter.symm)
  | encoded bytes result =>
      injection h with hafter _
      exact Or.inl hafter.symm
  | created bytes result =>
      injection h with hafter _
      exact Or.inl hafter.symm
  | written temporary result =>
      injection h with hafter _
      exact Or.inl hafter.symm
  | directorySynced result => cases h

variable [P.Lawful]

/-- An update that its map rejects never changes the path. -/
theorem InProgress.rejected (h : InProgress u path answers)
    {before : SequenceState} {error : ClientError}
    (hread : readPath P u.start = Except.ok before)
    (hreject : stageUpdate P before u.update = Except.error error) :
    path = u.start := by
  rcases h.stage.cases with hsame | ⟨_, values, _, _, _, _, hstaged⟩
  · exact hsame
  · have hvalues : readPath P u.start = Except.ok values :=
      hstaged.holds.readFile
    rw [hread] at hvalues
    injection hvalues with hvalues
    subst hvalues
    have hmade := hstaged.staged
    rw [hreject] at hmade
    cases hmade

variable [P.ZBase32]

/-- A file that a crash may leave during an update. -/
theorem InProgress.survivor (h : InProgress u path answers)
    {file : Option StoredFile} (hfile : file ∈ path.survivors) :
    (exists before, readPath P u.start = Except.ok before ∧
      (readFile P file = Except.ok before ∨ exists after result,
        stageUpdate P before u.update = Except.ok (after, result) ∧
          readFile P file = Except.ok after)) ∨
      file ∈ u.start.older := by
  rcases h.found with ⟨values, hvalues⟩
  have hstart : forall found, found ∈ u.start.survivors ->
      (exists before, readPath P u.start = Except.ok before ∧
        (readFile P found = Except.ok before ∨ exists after result,
          stageUpdate P before u.update = Except.ok (after, result) ∧
            readFile P found = Except.ok after)) ∨
        found ∈ u.start.older := by
    intro found hfound
    rcases List.mem_cons.mp hfound with heq | holder
    · rw [heq]
      exact Or.inl ⟨values, hvalues.readFile, Or.inl hvalues.readFile⟩
    · exact Or.inr holder
  rcases h.stage.cases with hsame |
    ⟨new, before, after, result, hpath, hsynced, hstaged⟩
  · rw [hsame] at hfile
    exact hstart file hfile
  · have hnew : readFile P (some new) = Except.ok after :=
      (hstaged.file h.prepared hsynced).readFile
    have hfound : (exists before, readPath P u.start = Except.ok before ∧
        (readFile P (some new) = Except.ok before ∨ exists after result,
          stageUpdate P before u.update = Except.ok (after, result) ∧
            readFile P (some new) = Except.ok after)) :=
      ⟨before, hstaged.holds.readFile,
        Or.inr ⟨after, result, hstaged.staged, hnew⟩⟩
    rcases hpath with hpath | hpath
    · rw [hpath, Replaced.survivors_rename] at hfile
      rcases List.mem_cons.mp hfile with heq | hbefore
      · rw [heq]
        exact Or.inl hfound
      · exact hstart file hbefore
    · rw [hpath, Replaced.survivors_sync, List.mem_singleton] at hfile
      rw [hfile]
      exact Or.inl hfound

/-- The path of an update shows what it found or what it makes. -/
theorem InProgress.current (h : InProgress u path answers) :
    exists before, readPath P u.start = Except.ok before ∧
      (readPath P path = Except.ok before ∨ exists after result,
        stageUpdate P before u.update = Except.ok (after, result) ∧
          readPath P path = Except.ok after) := by
  rcases h.stage.cases with hsame |
    ⟨new, before, after, result, hpath, hsynced, hstaged⟩
  · rcases h.found with ⟨values, hvalues⟩
    rw [hsame]
    exact ⟨values, hvalues.readFile, Or.inl hvalues.readFile⟩
  · have hcurrent : path.current = some new := by
      rcases hpath with hpath | hpath
      · rw [hpath]
        rfl
      · rw [hpath]
        rfl
    refine ⟨before, hstaged.holds.readFile,
      Or.inr ⟨after, result, hstaged.staged, ?_⟩⟩
    unfold readPath
    rw [hcurrent]
    exact (hstaged.file h.prepared hsynced).readFile

theorem Sealed.step_atomic (h : Sealed s) (hnext : s.next P event = some s')
    (hu : s.holder = some u) :
    (exists before, readPath P u.start = Except.ok before ∧
      (readPath P s'.path = Except.ok before ∨ exists after result,
        stageUpdate P before u.update = Except.ok (after, result) ∧
          readPath P s'.path = Except.ok after)) ∨
      event.Crashes ∧ s'.path.current ∈ u.start.older := by
  have hprogress := h.holder u hu
  have hsealed := sealed_next h hnext
  cases transition_of_next hnext with
  | refused caller operation error _ => exact Or.inl hprogress.current
  | locked caller operation update _ _ hnone =>
      rw [hu] at hnone
      cases hnone
  | proceeded v path stage _ hv _ =>
      rw [hu] at hv
      injection hv with hv
      subst hv
      exact Or.inl (hsealed.holder { u with stage := stage } rfl).current
  | failed v error _ _ => exact Or.inl hprogress.current
  | finished v value _ _ _ => exact Or.inl hprogress.current
  | killed v _ _ => exact Or.inl hprogress.current
  | crashed survivor damage path hcrash =>
      have hsame := (h.crashed hcrash damage).left
      rcases hprogress.survivor (Replaced.crash_eq_some hcrash).left with
        hfound | holder
      · left
        unfold readPath at hfound ⊢
        dsimp only
        rw [hsame]
        exact hfound
      · right
        refine ⟨⟨survivor, damage, rfl⟩, ?_⟩
        dsimp only
        rw [hsame]
        exact holder

theorem Sealed.step_rejected (h : Sealed s) (hnext : s.next P event = some s')
    {before : SequenceState} {error : ClientError} (hu : s.holder = some u)
    (hread : readPath P u.start = Except.ok before)
    (hreject : stageUpdate P before u.update = Except.error error)
    (hcrash : ¬ event.Crashes) : s'.path = u.start := by
  have hpath := (h.holder u hu).rejected hread hreject
  have hsealed := sealed_next h hnext
  cases transition_of_next hnext with
  | refused caller operation error _ => exact hpath
  | locked caller operation update _ _ hnone =>
      rw [hu] at hnone
      cases hnone
  | proceeded v path stage _ hv _ =>
      rw [hu] at hv
      injection hv with hv
      subst hv
      exact (hsealed.holder { u with stage := stage } rfl).rejected hread hreject
  | failed v error _ _ => exact hpath
  | finished v value _ _ _ => exact hpath
  | killed v _ _ => exact hpath
  | crashed survivor damage path _ =>
      exact absurd ⟨survivor, damage, rfl⟩ hcrash

theorem append_self_ne {α : Type} {xs : List α} {x : α}
    (h : xs = xs ++ [x]) : False := by
  have hlength := congrArg List.length h
  rw [List.length_append, List.length_singleton] at hlength
  exact Nat.ne_of_lt (Nat.lt_succ_self _) hlength

theorem Sealed.step_durable (h : Sealed s) (hnext : s.next P event = some s')
    {answer : Answer P} {value : Nat}
    (hanswers : s'.answers = s.answers ++ [answer])
    (hresult : answer.result = Except.ok value) :
    exists u before after, s.holder = some u ∧
      answer = { caller := u.caller
                 operation := u.operation
                 result := Except.ok value } ∧
      readPath P u.start = Except.ok before ∧
      stageUpdate P before u.update = Except.ok (after, value) ∧
      s'.path.older = [] ∧ readPath P s'.path = Except.ok after := by
  have herror : forall caller operation error,
      s.answers ++ [{ caller := caller
                      operation := operation
                      result := Except.error error }] =
        s.answers ++ [answer] -> False := by
    intro caller operation error hsame
    have hlast := List.append_cancel_left hsame
    injection hlast with hlast
    rw [← hlast] at hresult
    cases hresult
  cases transition_of_next hnext with
  | refused caller operation error _ =>
      exact absurd hanswers (herror caller operation error)
  | locked caller operation update _ _ _ => exact (append_self_ne hanswers).elim
  | proceeded v path stage _ _ _ => exact (append_self_ne hanswers).elim
  | failed v error _ _ =>
      exact absurd hanswers (herror v.caller v.operation error)
  | finished v found _ hv hstage =>
      have hlast := List.append_cancel_left hanswers
      injection hlast with hlast
      rw [← hlast] at hresult
      injection hresult with hresult
      subst hresult
      rcases h.settled_after hv hstage with
        ⟨file, before, after, hpath, hfile, hstaged⟩
      refine ⟨v, before, after, hv, hlast.symm, hstaged.holds.readFile,
        hstaged.staged, ?_, ?_⟩
      · change s.path.older = []
        rw [hpath]
      · change readPath P s.path = Except.ok after
        rw [hpath]
        exact hfile.readFile
  | killed v _ _ => exact (append_self_ne hanswers).elim
  | crashed survivor damage path _ => exact (append_self_ne hanswers).elim

/-- The maps at the path and under it grow, and a crash loses no settled one. -/
theorem Sealed.step_older (h : Sealed s) (hnext : s.next P event = some s') :
    Older P s.path.settled s'.path.settled ∧
      (¬ event.Crashes -> Older P s.path.current s'.path.current) := by
  have hsealed := sealed_next h hnext
  have hsame : Older P s.path.settled s.path.settled ∧
      (¬ event.Crashes -> Older P s.path.current s.path.current) :=
    ⟨older_refl _, fun _ => older_refl _⟩
  cases transition_of_next hnext with
  | refused caller operation error _ => exact hsame
  | locked caller operation update _ _ _ => exact hsame
  | proceeded v path stage _ _ hadvance =>
      rcases advance_path hadvance with rfl | ⟨file, rfl⟩ | rfl
      · exact hsame
      · constructor
        · dsimp only
          rw [Replaced.settled_rename]
          exact older_refl _
        · intro _
          exact List.rel_of_pairwise_cons hsealed.ordered List.mem_cons_self
      · refine ⟨?_, fun _ => older_refl _⟩
        exact h.ordered.settled_rel older_refl List.mem_cons_self
  | failed v error _ _ => exact hsame
  | finished v value _ _ _ => exact hsame
  | killed v _ _ => exact hsame
  | crashed survivor damage path hcrash =>
      rcases Replaced.crash_eq_some hcrash with ⟨hmem, hnone⟩
      constructor
      · have hsettled : Older P s.path.settled path.current :=
          h.ordered.settled_rel older_refl hmem
        unfold Replaced.settled at hsettled ⊢
        dsimp only
        rw [hnone, (h.crashed hcrash damage).left]
        exact hsettled
      · intro hcrashes
        exact absurd ⟨survivor, damage, rfl⟩ hcrashes

omit [P.Lawful] [P.ZBase32] in
theorem grows_of_older {first second : Option StoredFile}
    {before after : SequenceState} (h : Older P first second)
    (hbefore : readFile P first = Except.ok before)
    (hafter : readFile P second = Except.ok after) :
    (ledger before).Grows (ledger after) := by
  unfold Older contents at h
  rw [hbefore, hafter] at h
  exact h

/-- Over every run, failures, kills and crashes included. -/
theorem crash_safe (h : (stateDirectory P).Reachable s) :
    (exists values, readPath P s.path = Except.ok values) ∧
      (forall key, (allocated P key s.answers).Pairwise fun first later =>
        first < later) ∧
      forall event s', s.next P event = some s' -> StepSafe P s event s' := by
  have hsealed := sealed_of_reachable h
  refine ⟨?_, hsealed.increasing, ?_⟩
  · rcases hsealed.current with ⟨values, hvalues⟩
    exact ⟨values, hvalues.readFile⟩
  · intro event s' hnext
    constructor
    case atomic => exact fun u => hsealed.step_atomic hnext
    case idle => exact hsealed.step_idle hnext
    case rejected => exact fun u before error => hsealed.step_rejected hnext
    case durable => exact fun answer value => hsealed.step_durable hnext
    case grows =>
      intro before after hcrash hbefore hafter
      exact grows_of_older ((hsealed.step_older hnext).right hcrash) hbefore hafter
    case settled =>
      intro before after hbefore hafter
      exact grows_of_older (hsealed.step_older hnext).left hbefore hafter

end Steps

/-!
# A crash behind an answer
-/

section Crashed

open Protocol.Reference

local instance sampleFormat : StateFormat sample where
  sequenceStateFromSlice := stateFromSlice
  fromSlice_toVec values _ := stateFromSlice_stateToJson values

abbrev emptyDirectory : StateDirectory sample :=
  { path := { current := none, older := [] }, holder := none, answers := [] }

abbrev phoneIdentity : String := sample.z32 (keyOf 1)
abbrev phoneKey : String := sample.z32 (keyOf 3)

/-- A store initializes a publisher, and the machine crashes when it has answered. -/
def crashedAfterAnswer : List (Event sample) :=
  Event.call 0 (Operation.initializeLocatorPublisher phoneIdentity phoneKey) ::
    List.replicate 8 Event.proceed ++ [Event.crash 0 []]

theorem crashedAfterAnswer_runs :
    (((stateDirectory sample).run emptyDirectory crashedAfterAnswer).any fun s =>
      s.answers.length == 1 && s.path.current.isSome) = true := by
  decide +kernel

theorem crash_safe_sample :
    exists s : StateDirectory sample, s.answers.length = 1 ∧
      s.path.current.isSome = true ∧
      ((exists values, readPath sample s.path = Except.ok values) ∧
        (forall key, (allocated sample key s.answers).Pairwise fun first later =>
          first < later) ∧
        forall event s', s.next sample event = some s' ->
          StepSafe sample s event s') := by
  rcases (Option.any_eq_true _ _).mp crashedAfterAnswer_runs with ⟨s, hrun, hs⟩
  rw [Bool.and_eq_true, beq_iff_eq] at hs
  have hstart : (stateDirectory sample).Reachable emptyDirectory :=
    Machine.ReachableWhen.start rfl
  exact ⟨s, hs.left, hs.right, crash_safe (hstart.run hrun)⟩

end Crashed

end FileSequenceStore

end Client
end Pubky2Pubky
