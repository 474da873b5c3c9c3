import Pubky2Pubky.Client.FileUpdate

/-!
# Crash safety of the state file

Every file that a crash can bring back holds a whole map that a reader accepts,
and the maps only grow. What an operation has answered is settled for good.
-/

namespace Pubky2Pubky
namespace Client

open Foundation Protocol

namespace FileSequenceStore

theorem plainChar_of_scopeChar {c : Char} (h : scopeChar c = true) :
    Json.plainChar c = true := by
  have hrange : forall low high : Nat, 93 ≤ low ∨ high < 92 ∧ 35 ≤ low ->
      high < 127 -> low ≤ c.toNat -> c.toNat ≤ high -> Json.plainChar c = true := by
    intro low high hspan hsmall hlow hhigh
    have hquote : c ≠ '"' := by
      intro heq
      rw [heq] at hlow
      change low ≤ 34 at hlow
      omega
    have hslash : c ≠ '\\' := by
      intro heq
      rw [heq] at hlow hhigh
      change low ≤ 92 at hlow
      change 92 ≤ high at hhigh
      omega
    unfold Json.plainChar
    simp only [Bool.and_eq_true, decide_eq_true_eq, bne_iff_ne, ne_eq]
    exact ⟨⟨⟨by omega, by omega⟩, hquote⟩, hslash⟩
  unfold scopeChar at h
  simp only [Bool.or_eq_true, Bool.and_eq_true, decide_eq_true_eq,
    beq_iff_eq] at h
  rcases h with ((((h | h) | h) | rfl) | rfl) | rfl
  · exact hrange 48 57 (by decide) (by decide) h.left h.right
  · exact hrange 65 90 (by decide) (by decide) h.left h.right
  · exact hrange 97 122 (by decide) (by decide) h.left h.right
  · decide
  · decide
  · decide

section Files

variable (P : Primitives)

/-- The file holds the map, a reader accepts it, and all of it is synced. -/
def Holds (file : Option StoredFile) (values : SequenceState) : Prop :=
  match file with
  | none => values = ∅
  | some found =>
      found = { bytes := P.jsonToVec (stateToJson values), synced := true } ∧
        ValidEntries P values ∧ WithinBounds P values

def contents [StateFormat P] (file : Option StoredFile) : SequenceState :=
  match readFile P file with
  | Except.ok values => values
  | Except.error _ => ∅

/-- The map of the first file grows into the map of the second. -/
def Older [StateFormat P] (first second : Option StoredFile) : Prop :=
  (ledger (contents P first)).Grows (ledger (contents P second))

variable {P}

theorem Holds.valid {file : Option StoredFile} {values : SequenceState}
    (h : Holds P file values) : ValidEntries P values := by
  cases file with
  | none =>
      unfold Holds at h
      rw [h]
      exact validEntries_empty
  | some found => exact h.right.left

theorem Holds.afterCrash {file : Option StoredFile} {values : SequenceState}
    (h : Holds P file values) (damage : Bytes) :
    file.map (StoredFile.afterCrash damage) = file := by
  cases file with
  | none => rfl
  | some found =>
      rcases h with ⟨rfl, _⟩
      rfl

theorem ValidEntries.plain [P.Lawful] {values : SequenceState}
    (h : ValidEntries P values)
    {key : String} {value : StoredSequence} (hvalue : values[key]? = some value) :
    key.toList.all Json.plainChar = true := by
  have hvalid := h key value hvalue
  unfold validateStoredEntry at hvalid
  simp only [bind_eq_ok, rejectIf_eq_ok, exists_unit, not_not] at hvalid
  rcases hvalid with ⟨⟨identity, scope⟩, _, canonical, hkey, hsame, _⟩
  rw [hsame] at hkey
  rcases stateKey_eq_ok.mp hkey with ⟨parsed, _, hz32, _, _, hchars, rfl⟩
  have hscope : (String.ofList scope).toList.all Json.plainChar = true := by
    rw [List.all_eq_true]
    intro c hc
    exact plainChar_of_scopeChar (List.all_eq_true.mp hchars c hc)
  have hcolon : ":".toList.all Json.plainChar = true := by decide
  rw [String.toList_append, String.toList_append, List.all_append,
    List.all_append, ← hz32, Primitives.Lawful.z32_plain, hcolon, hscope]
  rfl

variable [StateFormat P]

theorem older_refl (file : Option StoredFile) : Older P file file :=
  Ledger.grows_refl _

theorem older_trans (first second third : Option StoredFile)
    (h : Older P first second) (hnext : Older P second third) :
    Older P first third :=
  Ledger.Grows.trans h hnext

variable [P.Lawful]

/-- What the store has written, it reads back. -/
theorem Holds.readFile {file : Option StoredFile} {values : SequenceState}
    (h : Holds P file values) : readFile P file = Except.ok values := by
  cases file with
  | none =>
      unfold Holds at h
      rw [h]
      rfl
  | some found =>
      rcases h with ⟨rfl, hvalid, hbounds⟩
      have hparsed := StateFormat.fromSlice_toVec (P := P) values
        fun key value => hvalid.plain
      have hlength : ¬ (P.jsonToVec (stateToJson values)).length >
          maxStateBytes := Nat.not_lt_of_le hbounds.right
      unfold FileSequenceStore.readFile stateFile
      dsimp only
      rw [if_neg hlength, hparsed]
      unfold readState
      dsimp only
      rw [rejectIf_of_not hlength, ok_bind, validateStateBounds_eq_ok.mpr hbounds,
        ok_bind, hvalid.validate]
      rfl

theorem Holds.contents {file : Option StoredFile} {values : SequenceState}
    (h : Holds P file values) : contents P file = values := by
  unfold FileSequenceStore.contents
  rw [h.readFile]

end Files

/-!
# Allocated numbers
-/

section Answers

variable (P : Primitives)

/-- The number that an answer allocates at a key. -/
def Answer.allocated (key : String) (answer : Answer P) : Option Nat :=
  match answer.operation, answer.result with
  | Operation.nextLocatorSequence identity controlKey, Except.ok value =>
      if (publisherKey P identity controlKey).toOption = some key then some value
      else none
  | _, _ => none

/-- The numbers that answers have allocated at a key, in their order. -/
def allocated (key : String) (answers : List (Answer P)) : List Nat :=
  answers.filterMap (Answer.allocated P key)

variable {P}

theorem allocated_append (key : String) (answers : List (Answer P))
    (answer : Answer P) :
    allocated P key (answers ++ [answer]) =
      allocated P key answers ++ (answer.allocated P key).toList := by
  unfold allocated
  rw [List.filterMap_append]
  congr 1

theorem allocated_of_error {key : String} {answer : Answer P}
    {error : ClientError} (h : answer.result = Except.error error) :
    answer.allocated P key = none := by
  unfold Answer.allocated
  rw [h]
  cases answer.operation with
  | recordBatch observations => rfl
  | initializeLocatorPublisher identity controlKey => rfl
  | nextLocatorSequence identity controlKey => rfl

theorem allocated_append_error {answers : List (Answer P)} {answer : Answer P}
    {error : ClientError} (h : answer.result = Except.error error)
    (key : String) :
    allocated P key (answers ++ [answer]) = allocated P key answers := by
  rw [allocated_append, allocated_of_error h]
  exact List.append_nil _

theorem allocated_eq_some {key : String} {answer : Answer P} {value : Nat}
    (h : answer.allocated P key = some value) :
    exists identity controlKey,
      answer.operation = Operation.nextLocatorSequence identity controlKey ∧
        publisherKey P identity controlKey = Except.ok key ∧
        answer.result = Except.ok value := by
  rcases answer with ⟨caller, operation, result⟩
  cases operation with
  | recordBatch observations => cases h
  | initializeLocatorPublisher identity controlKey => cases h
  | nextLocatorSequence identity controlKey =>
      cases result with
      | error e => cases h
      | ok found =>
          unfold Answer.allocated at h
          dsimp only at h
          split at h
          · rename_i hkey
            injection h with h
            subst h
            refine ⟨identity, controlKey, rfl, ?_, rfl⟩
            cases hfound : publisherKey P identity controlKey with
            | error e =>
                rw [hfound] at hkey
                cases hkey
            | ok made =>
                rw [hfound] at hkey
                injection hkey with hkey
                rw [hkey]
          · cases h

variable [StateFormat P]

/-- No number has been allocated beyond the counters of the file. -/
def Covers (P : Primitives) [StateFormat P] (file : Option StoredFile)
    (answers : List (Answer P)) : Prop :=
  forall key value, value ∈ allocated P key answers ->
    exists last, ledger (contents P file) key = some (Slot.counter last) ∧
      value ≤ last

theorem Covers.older {file later : Option StoredFile}
    {answers : List (Answer P)} (h : Covers P file answers)
    (holder : Older P file later) : Covers P later answers := by
  intro key value hvalue
  rcases h key value hvalue with ⟨last, hlast, hle⟩
  rcases holder key _ hlast with ⟨slot, hslot, hfollows⟩
  cases slot with
  | counter next => exact ⟨next, hslot, Nat.le_trans hle hfollows⟩
  | floor found => cases hfollows

theorem Covers.append_error {file : Option StoredFile}
    {answers : List (Answer P)} {answer : Answer P} {error : ClientError}
    (h : Covers P file answers) (herror : answer.result = Except.error error) :
    Covers P file (answers ++ [answer]) := by
  intro key value hvalue
  rw [allocated_append_error herror] at hvalue
  exact h key value hvalue

end Answers

/-!
# Updates in progress
-/

section InProgress

variable {P : Primitives} [StateFormat P]

/-- The bytes are those of the map that the update makes of what it found. -/
structure Staged (P : Primitives) (start : StatePath) (update : Update)
    (before after : SequenceState) (bytes : Bytes) (result : Nat) : Prop where
  holds : Holds P start.current before
  staged : stageUpdate P before update = Except.ok (after, result)
  bytes : bytes = P.jsonToVec (stateToJson after)

/-- What the path and the temporary file hold at a stage of an update. -/
def AtStage (P : Primitives) (start : StatePath) (update : Update)
    (path : StatePath) : Stage -> Prop
  | Stage.locked => path = start
  | Stage.read values => path = start ∧ Holds P start.current values
  | Stage.encoded bytes result | Stage.created bytes result =>
      path = start ∧ exists before after,
        Staged P start update before after bytes result
  | Stage.written temporary result =>
      path = start ∧ exists before after,
        Staged P start update before after temporary.bytes result
  | Stage.synced temporary result =>
      path = start ∧ temporary.synced = true ∧ exists before after,
        Staged P start update before after temporary.bytes result
  | Stage.renamed result =>
      exists file before after, path = start.rename (some file) ∧
        file.synced = true ∧
        Staged P start update before after file.bytes result
  | Stage.directorySynced result =>
      exists file before after, path = (start.rename (some file)).sync ∧
        file.synced = true ∧
        Staged P start update before after file.bytes result

structure InProgress (u : FileUpdate P) (path : StatePath)
    (answers : List (Answer P)) : Prop where
  prepared : u.operation.prepare = Except.ok u.update
  found : exists values, Holds P u.start.current values
  covers : Covers P u.start.current answers
  stage : AtStage P u.start u.update path u.stage

end InProgress

section Staged

variable {P : Primitives} [P.ZBase32] {u : FileUpdate P}
variable {before after : SequenceState} {result : Nat}

theorem Staged.advances {bytes : Bytes}
    (h : Staged P u.start u.update before after bytes result)
    (hprepared : u.operation.prepare = Except.ok u.update) :
    Advances P u.operation before after result :=
  Operation.prepare_advances hprepared (stageUpdate_eq_ok h.staged).left

/-- The synced file of an update holds the map that the update has made. -/
theorem Staged.file {file : StoredFile}
    (h : Staged P u.start u.update before after file.bytes result)
    (hprepared : u.operation.prepare = Except.ok u.update)
    (hsynced : file.synced = true) : Holds P (some file) after := by
  rcases file with ⟨bytes, synced⟩
  dsimp only at h hsynced
  refine ⟨?_, (h.advances hprepared).valid h.holds.valid,
    validateStateBounds_eq_ok.mp (stageUpdate_eq_ok h.staged).right⟩
  rw [hsynced, h.bytes]

theorem Staged.older [P.Lawful] [StateFormat P] {file : StoredFile}
    (h : Staged P u.start u.update before after file.bytes result)
    (hprepared : u.operation.prepare = Except.ok u.update)
    (hsynced : file.synced = true) : Older P u.start.current (some file) := by
  unfold Older
  rw [h.holds.contents, (h.file hprepared hsynced).contents]
  exact (h.advances hprepared).grows

end Staged

/-!
# What a step does
-/

section Transitions

variable {P : Primitives} [StateFormat P]

def Event.Crashes (event : Event P) : Prop :=
  exists survivor damage, event = Event.crash survivor damage

inductive Transition (s : StateDirectory P) :
    Event P -> StateDirectory P -> Prop where
  | refused {event : Event P} (caller : Nat) (operation : Operation P)
      (error : ClientError) : ¬ event.Crashes ->
      Transition s event (s.answer P caller operation (Except.error error))
  | locked {event : Event P} (caller : Nat) (operation : Operation P)
      (update : Update) : ¬ event.Crashes ->
      operation.prepare = Except.ok update -> s.holder = none ->
      Transition s event
        { s with
          holder := some
            { caller := caller
              operation := operation
              update := update
              stage := Stage.locked
              start := s.path } }
  | proceeded {event : Event P} (u : FileUpdate P) (path : StatePath)
      (stage : Stage) : ¬ event.Crashes -> s.holder = some u ->
      advance P s.path u.update u.stage = (path, Progress.continues stage) ->
      Transition s event
        { s with path := path, holder := some { u with stage := stage } }
  | failed {event : Event P} (u : FileUpdate P) (error : ClientError) :
      ¬ event.Crashes -> s.holder = some u ->
      Transition s event (StateDirectory.answer P { s with holder := none }
        u.caller u.operation (Except.error error))
  | finished {event : Event P} (u : FileUpdate P) (value : Nat) :
      ¬ event.Crashes -> s.holder = some u ->
      u.stage = Stage.directorySynced value ->
      Transition s event (StateDirectory.answer P { s with holder := none }
        u.caller u.operation (Except.ok value))
  | killed {event : Event P} (u : FileUpdate P) : ¬ event.Crashes ->
      s.holder = some u -> Transition s event { s with holder := none }
  | crashed (survivor : Nat) (damage : Bytes) (path : StatePath) :
      s.path.crash survivor = some path ->
      Transition s (Event.crash survivor damage)
        { s with
          path :=
            { path with
              current := path.current.map (StoredFile.afterCrash damage) }
          holder := none }

/-- An update ends at an error, or once its directory has been synced. -/
theorem advance_ends {path after : StatePath} {update : Update} {stage : Stage}
    {result : ClientResult Nat}
    (h : advance P path update stage = (after, Progress.ends result)) :
    after = path ∧ ((exists error, result = Except.error error) ∨
      exists value, stage = Stage.directorySynced value ∧
        result = Except.ok value) := by
  cases stage with
  | locked =>
      unfold advance at h
      dsimp only at h
      cases hread : readPath P path with
      | error e =>
          rw [hread] at h
          injection h with hafter hend
          injection hend with hend
          exact ⟨hafter.symm, Or.inl ⟨e, hend.symm⟩⟩
      | ok values =>
          rw [hread] at h
          injection h with _ hend
          cases hend
  | read values =>
      unfold advance at h
      dsimp only at h
      cases hstaged : stageUpdate P values update with
      | error e =>
          rw [hstaged] at h
          injection h with hafter hend
          injection hend with hend
          exact ⟨hafter.symm, Or.inl ⟨e, hend.symm⟩⟩
      | ok pair =>
          rw [hstaged] at h
          injection h with _ hend
          cases hend
  | directorySynced value =>
      injection h with hafter hend
      injection hend with hend
      exact ⟨hafter.symm, Or.inr ⟨value, rfl, hend.symm⟩⟩
  | encoded bytes result => cases h
  | created bytes result => cases h
  | written temporary result => cases h
  | synced temporary result => cases h
  | renamed result => cases h

theorem transition_of_next {s s' : StateDirectory P} {event : Event P}
    (hnext : s.next P event = some s') : Transition s event s' := by
  cases event with
  | call caller operation =>
      unfold StateDirectory.next at hnext
      dsimp only at hnext
      cases hprepare : operation.prepare with
      | error e =>
          rw [hprepare] at hnext
          injection hnext with hnext
          subst hnext
          exact Transition.refused caller operation e nofun
      | ok update =>
          rw [hprepare] at hnext
          cases hholder : s.holder with
          | some u =>
              rw [hholder] at hnext
              cases hnext
          | none =>
              rw [hholder] at hnext
              injection hnext with hnext
              subst hnext
              exact Transition.locked caller operation update nofun hprepare
                hholder
  | lockFails caller operation text =>
      unfold StateDirectory.next at hnext
      dsimp only at hnext
      cases hprepare : operation.prepare with
      | error e =>
          rw [hprepare] at hnext
          cases hnext
      | ok update =>
          rw [hprepare] at hnext
          injection hnext with hnext
          subst hnext
          exact Transition.refused caller operation _ nofun
  | proceed =>
      unfold StateDirectory.next at hnext
      dsimp only at hnext
      cases hholder : s.holder with
      | none =>
          rw [hholder] at hnext
          cases hnext
      | some u =>
          rw [hholder] at hnext
          dsimp only at hnext
          rcases hadvance : advance P s.path u.update u.stage with ⟨path, progress⟩
          rw [hadvance] at hnext
          cases progress with
          | continues stage =>
              injection hnext with hnext
              subst hnext
              exact Transition.proceeded u path stage nofun hholder hadvance
          | ends result =>
              injection hnext with hnext
              subst hnext
              rcases advance_ends hadvance with
                ⟨rfl, ⟨error, rfl⟩ | ⟨value, hstage, rfl⟩⟩
              · exact Transition.failed u error nofun hholder
              · exact Transition.finished u value nofun hholder hstage
  | fail text =>
      unfold StateDirectory.next at hnext
      dsimp only at hnext
      cases hholder : s.holder with
      | none =>
          rw [hholder] at hnext
          cases hnext
      | some u =>
          rw [hholder] at hnext
          dsimp only at hnext
          split at hnext
          · injection hnext with hnext
            subst hnext
            exact Transition.failed u _ nofun hholder
          · cases hnext
  | kill =>
      unfold StateDirectory.next at hnext
      dsimp only at hnext
      cases hholder : s.holder with
      | none =>
          rw [hholder] at hnext
          cases hnext
      | some u =>
          rw [hholder] at hnext
          injection hnext with hnext
          subst hnext
          exact Transition.killed u nofun hholder
  | crash survivor damage =>
      rcases Option.map_eq_some_iff.mp hnext with ⟨path, hcrash, rfl⟩
      exact Transition.crashed survivor damage path hcrash

end Transitions

/-!
# What every step keeps
-/

section Sealed

variable {P : Primitives} [StateFormat P]

/-- Whatever a crash leaves holds a map, and the later of them is the larger. -/
structure Sealed (s : StateDirectory P) : Prop where
  holds (file : Option StoredFile) : file ∈ s.path.survivors ->
    exists values, Holds P file values
  ordered : s.path.Ordered (Older P)
  covers : Covers P s.path.settled s.answers
  increasing (key : String) :
    (allocated P key s.answers).Pairwise fun first later => first < later
  holder (u : FileUpdate P) : s.holder = some u ->
    InProgress u s.path s.answers

variable {s : StateDirectory P} {u : FileUpdate P}

theorem Sealed.current (h : Sealed s) :
    exists values, Holds P s.path.current values :=
  h.holds s.path.current List.mem_cons_self

theorem Sealed.covers_of_mem (h : Sealed s) {file : Option StoredFile}
    (hfile : file ∈ s.path.survivors) : Covers P file s.answers :=
  h.covers.older (h.ordered.settled_rel older_refl hfile)

theorem Sealed.released (h : Sealed s) : Sealed { s with holder := none } :=
  ⟨h.holds, h.ordered, h.covers, h.increasing, fun _ hnone => nomatch hnone⟩

theorem Sealed.answer_error (h : Sealed s) (caller : Nat)
    (operation : Operation P) (error : ClientError) :
    Sealed (s.answer P caller operation (Except.error error)) := by
  constructor
  case holds => exact h.holds
  case ordered => exact h.ordered
  case covers => exact h.covers.append_error rfl
  case increasing =>
    intro key
    unfold StateDirectory.answer
    rw [allocated_append_error rfl]
    exact h.increasing key
  case holder =>
    intro u hu
    have hprogress := h.holder u hu
    exact ⟨hprogress.prepared, hprogress.found,
      hprogress.covers.append_error rfl, hprogress.stage⟩

theorem Sealed.locked (h : Sealed s) {caller : Nat} {operation : Operation P}
    {update : Update} (hprepared : operation.prepare = Except.ok update) :
    Sealed
      { s with
        holder := some
          { caller := caller
            operation := operation
            update := update
            stage := Stage.locked
            start := s.path } } := by
  refine ⟨h.holds, h.ordered, h.covers, h.increasing, ?_⟩
  intro u hu
  injection hu with hu
  subst hu
  exact ⟨hprepared, h.current, h.covers_of_mem List.mem_cons_self, rfl⟩

/-- A crash leaves one of the survivors, as it was. -/
theorem Sealed.crashed (h : Sealed s) {survivor : Nat} {path : StatePath}
    (hcrash : s.path.crash survivor = some path) (damage : Bytes) :
    path.current.map (StoredFile.afterCrash damage) = path.current ∧
      Sealed
        { s with
          path :=
            { path with
              current := path.current.map (StoredFile.afterCrash damage) }
          holder := none } := by
  rcases Replaced.crash_eq_some hcrash with ⟨hmem, hnone⟩
  rcases h.holds path.current hmem with ⟨values, hvalues⟩
  have hsame := hvalues.afterCrash damage
  refine ⟨hsame, ?_⟩
  rw [hsame]
  constructor
  case holds =>
    intro file hfile
    unfold Replaced.survivors at hfile
    rw [hnone, List.mem_singleton] at hfile
    rw [hfile]
    exact ⟨values, hvalues⟩
  case ordered => exact Replaced.ordered_of_older_nil hnone
  case covers =>
    unfold Replaced.settled
    rw [hnone]
    exact h.covers_of_mem hmem
  case increasing => exact h.increasing
  case holder =>
    intro u hu
    cases hu

theorem sealed_initial {s : StateDirectory P}
    (h : (stateDirectory P).initial s) : Sealed s := by
  change s = _ at h
  subst h
  constructor
  case holds =>
    intro file hfile
    rw [List.mem_singleton.mp hfile]
    exact ⟨∅, rfl⟩
  case ordered => exact Replaced.ordered_of_older_nil rfl
  case covers =>
    intro key value hvalue
    cases hvalue
  case increasing => exact fun _ => List.Pairwise.nil
  case holder =>
    intro u hu
    cases hu

variable [P.ZBase32]

/-- The map that a successful update leaves is settled when it answers. -/
theorem Sealed.settled_after (h : Sealed s) (hu : s.holder = some u)
    {value : Nat} (hstage : u.stage = Stage.directorySynced value) :
    exists file before after, s.path = { current := some file, older := [] } ∧
      Holds P (some file) after ∧
      Staged P u.start u.update before after file.bytes value := by
  have hprogress := h.holder u hu
  have hat := hprogress.stage
  rw [hstage] at hat
  rcases hat with ⟨file, before, after, hpath, hsynced, hstaged⟩
  exact ⟨file, before, after, hpath, hstaged.file hprogress.prepared hsynced,
    hstaged⟩

variable [P.Lawful]

/-- A step that moves on within an update. -/
theorem Sealed.proceed (h : Sealed s) (hu : s.holder = some u)
    {path : StatePath} {stage : Stage}
    (hadvance : advance P s.path u.update u.stage =
      (path, Progress.continues stage)) :
    Sealed { s with path := path, holder := some { u with stage := stage } } := by
  have hprogress := h.holder u hu
  have hstage := hprogress.stage
  have hkept : path = s.path -> AtStage P u.start u.update path stage ->
      Sealed { s with path := path, holder := some { u with stage := stage } } := by
    intro hpath hnext
    subst hpath
    refine ⟨h.holds, h.ordered, h.covers, h.increasing, ?_⟩
    intro v hv
    injection hv with hv
    subst hv
    exact ⟨hprogress.prepared, hprogress.found, hprogress.covers, hnext⟩
  cases hbefore : u.stage with
  | locked =>
      rw [hbefore] at hadvance hstage
      change s.path = u.start at hstage
      rcases hprogress.found with ⟨values, hvalues⟩
      have hread : readPath P s.path = Except.ok values := by
        rw [hstage]
        exact hvalues.readFile
      unfold advance at hadvance
      dsimp only at hadvance
      rw [hread] at hadvance
      injection hadvance with hpath hnext
      injection hnext with hnext
      subst hpath hnext
      exact hkept rfl ⟨hstage, hvalues⟩
  | read values =>
      rw [hbefore] at hadvance hstage
      unfold advance at hadvance
      dsimp only at hadvance
      rcases hstage with ⟨hpath, hvalues⟩
      cases hstaged : stageUpdate P values u.update with
      | error e =>
          rw [hstaged] at hadvance
          injection hadvance with _ hnext
          cases hnext
      | ok pair =>
          rcases pair with ⟨after, result⟩
          rw [hstaged] at hadvance
          injection hadvance with hsame hnext
          injection hnext with hnext
          subst hsame hnext
          exact hkept rfl ⟨hpath, values, after, hvalues, hstaged, rfl⟩
  | encoded bytes result =>
      rw [hbefore] at hadvance hstage
      injection hadvance with hpath hnext
      injection hnext with hnext
      subst hpath hnext
      exact hkept rfl hstage
  | created bytes result =>
      rw [hbefore] at hadvance hstage
      injection hadvance with hpath hnext
      injection hnext with hnext
      subst hpath hnext
      exact hkept rfl hstage
  | written temporary result =>
      rw [hbefore] at hadvance hstage
      injection hadvance with hpath hnext
      injection hnext with hnext
      subst hpath hnext
      exact hkept rfl ⟨hstage.left, rfl, hstage.right⟩
  | synced temporary result =>
      rw [hbefore] at hadvance hstage
      injection hadvance with hpath hnext
      injection hnext with hnext
      subst hpath hnext
      rcases hstage with ⟨hpath, hsynced, before, after, hstaged⟩
      have holder := hstaged.older hprogress.prepared hsynced
      rw [← hpath] at holder
      constructor
      case holds =>
        intro file hfile
        rcases List.mem_cons.mp hfile with heq | hbefore
        · rw [heq]
          exact ⟨after, hstaged.file hprogress.prepared hsynced⟩
        · exact h.holds file hbefore
      case ordered => exact h.ordered.rename older_trans holder
      case covers =>
        dsimp only
        rw [Replaced.settled_rename]
        exact h.covers
      case increasing => exact h.increasing
      case holder =>
        intro v hv
        injection hv with hv
        subst hv
        refine ⟨hprogress.prepared, hprogress.found, hprogress.covers, temporary,
          before, after, ?_, hsynced, hstaged⟩
        dsimp only
        rw [hpath]
  | renamed result =>
      rw [hbefore] at hadvance hstage
      injection hadvance with hpath hnext
      injection hnext with hnext
      subst hpath hnext
      rcases hstage with ⟨file, before, after, hpath, hsynced, hstaged⟩
      constructor
      case holds =>
        intro found hfound
        rw [Replaced.survivors_sync, List.mem_singleton] at hfound
        rw [hfound]
        exact h.current
      case ordered => exact Replaced.ordered_of_older_nil rfl
      case covers => exact h.covers_of_mem List.mem_cons_self
      case increasing => exact h.increasing
      case holder =>
        intro v hv
        injection hv with hv
        subst hv
        refine ⟨hprogress.prepared, hprogress.found, hprogress.covers, file,
          before, after, ?_, hsynced, hstaged⟩
        dsimp only
        rw [hpath]
  | directorySynced result =>
      rw [hbefore] at hadvance
      injection hadvance with _ hnext
      cases hnext

/-- A number allocated now is above all the numbers allocated before. -/
theorem Sealed.finished_ok (h : Sealed s) (hu : s.holder = some u) {value : Nat}
    (hstage : u.stage = Stage.directorySynced value) :
    Sealed (StateDirectory.answer P { s with holder := none } u.caller
      u.operation (Except.ok value)) := by
  have hprogress := h.holder u hu
  rcases h.settled_after hu hstage with
    ⟨file, before, after, hpath, hfile, hstaged⟩
  have hadvances := hstaged.advances hprogress.prepared
  have hbefore := hstaged.holds.contents
  have hsettled : contents P s.path.settled = after := by
    rw [hpath]
    exact hfile.contents
  have hnew : forall key found,
      Answer.allocated P key
          { caller := u.caller
            operation := u.operation
            result := Except.ok value } = some found ->
        found = value ∧
          ledger after key = some (Slot.counter value) ∧
          forall earlier, earlier ∈ allocated P key s.answers ->
            earlier < value := by
    intro key found hfound
    rcases allocated_eq_some hfound with
      ⟨identity, controlKey, hoperation, hkey, hresult⟩
    injection hresult with hresult
    rcases hadvances.allocated identity controlKey key hoperation hkey with
      ⟨last, hlast, hnext, hafter⟩
    refine ⟨hresult.symm, hafter, ?_⟩
    intro earlier hearlier
    rcases hprogress.covers key earlier hearlier with ⟨bound, hbound, hle⟩
    rw [hbefore, hlast] at hbound
    injection hbound with hbound
    injection hbound with hbound
    rw [hnext, hbound]
    exact Nat.lt_succ_of_le hle
  constructor
  case holds => exact h.holds
  case ordered => exact h.ordered
  case covers =>
    intro key found hfound
    unfold StateDirectory.answer at hfound
    rw [allocated_append, List.mem_append, Option.mem_toList] at hfound
    rcases hfound with hearlier | hlater
    · exact h.covers key found hearlier
    · rcases hnew key found hlater with ⟨rfl, hcounter, _⟩
      unfold StateDirectory.answer
      dsimp only
      rw [hsettled]
      exact ⟨found, hcounter, Nat.le_refl found⟩
  case increasing =>
    intro key
    unfold StateDirectory.answer
    rw [allocated_append, List.pairwise_append]
    refine ⟨h.increasing key, ?_, ?_⟩
    · cases Answer.allocated P key
        { caller := u.caller
          operation := u.operation
          result := Except.ok value } with
      | none => exact List.Pairwise.nil
      | some found => exact List.pairwise_singleton _ found
    · intro earlier hearlier later hlater
      rw [Option.mem_toList] at hlater
      rcases hnew key later hlater with ⟨rfl, _, hall⟩
      exact hall earlier hearlier
  case holder =>
    intro v hv
    cases hv

theorem sealed_next {s' : StateDirectory P} {event : Event P} (h : Sealed s)
    (hnext : s.next P event = some s') : Sealed s' := by
  cases transition_of_next hnext with
  | refused caller operation error _ =>
      exact h.answer_error caller operation error
  | locked caller operation update _ hprepare _ => exact h.locked hprepare
  | proceeded u path stage _ hu hadvance => exact h.proceed hu hadvance
  | failed u error _ hu => exact h.released.answer_error u.caller u.operation error
  | finished u value _ hu hstage => exact h.finished_ok hu hstage
  | killed u _ hu => exact h.released
  | crashed survivor damage path hcrash => exact (h.crashed hcrash damage).right

theorem sealed_of_reachable {s : StateDirectory P}
    (h : (stateDirectory P).Reachable s) : Sealed s :=
  h.invariant (fun _ => sealed_initial) fun _ _ _ hs _ => sealed_next hs

end Sealed

end FileSequenceStore

end Client
end Pubky2Pubky
