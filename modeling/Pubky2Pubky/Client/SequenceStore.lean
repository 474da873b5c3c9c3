import Pubky2Pubky.Protocol.Sizes
import Pubky2Pubky.Client.Sequence

/-!
# Sequence stores

The memory store stages a copy of its map and the file store replaces its file,
so a batch is recorded as a whole or not at all. An I/O failure may strike any
step of a file update; only after the rename does it leave the new file behind.
-/

namespace Pubky2Pubky
namespace Client

open Foundation Protocol

/-- The publisher half of a store: the counters of locator publications. -/
inductive PublisherOperation where
  | initializeLocatorPublisher (identity controlKey : String)
  | nextLocatorSequence (identity controlKey : String)

/--
A store as its clients see it. A fault is the environment's failure of one
update, and a late fault strikes once the new state is in place. The map without
its publisher counters says what an observation can depend on.
-/
structure SequenceStore (P : Primitives) where
  State : Type
  Error : Type
  Fault : Type
  late : Fault -> Bool
  clientError : Error -> ClientError
  tooLarge : Error
  key : String -> String -> String
  floors : State -> Floors String (BoundCounter String)
  publishers : State -> String -> Option Nat
  recordBatch : Option Fault -> State ->
    List (AuthenticatedSequenceObservation P) -> State × Except Error Unit
  publisher : Option Fault -> State -> PublisherOperation ->
    State × Except Error Nat
  eraseCounters : State -> State

section Requests

variable {P : Primitives}

def AuthenticatedSequenceObservation.floor
    (observation : AuthenticatedSequenceObservation P) : BoundCounter String :=
  floorOf P observation.counter observation.digest

def SequenceStore.entry (S : SequenceStore P)
    (observation : AuthenticatedSequenceObservation P) :
    String × BoundCounter String :=
  (S.key observation.identity observation.scope, observation.floor)

/-- The observation has been recorded: its floor was admitted and raised. -/
structure SequenceStore.Recorded (S : SequenceStore P)
    (observation : AuthenticatedSequenceObservation P)
    (before after : S.State) : Prop where
  admits : (S.floors before).Admits (S.entry observation)
  raised : S.floors after = (S.floors before).raise (S.entry observation)
  publishers : S.publishers after = S.publishers before

/-- The store declines the observation by its own rules and bounds. -/
def SequenceStore.Declines (S : SequenceStore P)
    (observation : AuthenticatedSequenceObservation P) (state : S.State) :
    Prop :=
  (S.recordBatch none state [observation]).2 ≠ Except.ok ()

/-- Two verdicts agree, unless one of them is about the bytes of the whole map. -/
def SequenceStore.Agree (S : SequenceStore P)
    (first second : Except S.Error Unit) : Prop :=
  first = second ∨ first = Except.error S.tooLarge ∨
    second = Except.error S.tooLarge

/--
A monotone store records an admitted observation, or fails and keeps its state.
Only a late fault can fail an update that has been recorded, and no verdict
depends on a publisher counter.
-/
structure SequenceStore.Monotone (S : SequenceStore P) : Prop where
  recorded {fault : Option S.Fault} {before after : S.State}
    {observation : AuthenticatedSequenceObservation P} :
    S.recordBatch fault before [observation] = (after, Except.ok ()) ->
    S.Recorded observation before after
  failed {fault : Option S.Fault} {before after : S.State}
    {observation : AuthenticatedSequenceObservation P} {error : S.Error} :
    S.recordBatch fault before [observation] = (after, Except.error error) ->
    after = before ∨
      fault.any S.late = true ∧ S.Recorded observation before after
  declined {fault : Option S.Fault} {before after : S.State}
    {observation : AuthenticatedSequenceObservation P}
    {result : Except S.Error Unit} :
    S.Declines observation before ->
    S.recordBatch fault before [observation] = (after, result) ->
    after = before ∧ result ≠ Except.ok ()
  published {fault : Option S.Fault} {before after : S.State}
    {operation : PublisherOperation} {result : Except S.Error Nat} :
    S.publisher fault before operation = (after, result) ->
    S.floors after = S.floors before
  blind (state : S.State)
    (observation : AuthenticatedSequenceObservation P) :
    S.Agree (S.recordBatch none state [observation]).2
      (S.recordBatch none (S.eraseCounters state) [observation]).2

end Requests

/-!
# Updates of a map
-/

section Updates

variable (P : Primitives)

/-- The checked result of an update: what the store is about to keep. -/
def stageUpdate {α : Type} (values : SequenceState)
    (update : SequenceState -> ClientResult (SequenceState × α)) :
    ClientResult (SequenceState × α) := do
  let (staged, result) <- update values
  validateStateBounds P staged
  pure (staged, result)

def updateMemory {α : Type} (values : SequenceState)
    (update : SequenceState -> ClientResult (SequenceState × α)) :
    SequenceState × ClientResult α :=
  match stageUpdate P values update with
  | Except.ok (staged, result) => (staged, Except.ok result)
  | Except.error e => (values, Except.error e)

/-- The update that records a batch. -/
def recordUpdate (prepared : PreparedBatch) (values : SequenceState) :
    ClientResult (SequenceState × Unit) := do
  let staged <- recordAuthenticatedBatch values prepared
  pure (staged, ())

def publisherUpdate (operation : PublisherOperation) (values : SequenceState) :
    ClientResult (SequenceState × Nat) :=
  match operation with
  | PublisherOperation.initializeLocatorPublisher identity controlKey => do
      let key <- publisherKey P identity controlKey
      let staged <- initializePublisher values key
      pure (staged, 0)
  | PublisherOperation.nextLocatorSequence identity controlKey => do
      let key <- publisherKey P identity controlKey
      let (staged, value) <- nextPublisherValue values key
      pure (staged, value.toNat)

variable {P}

theorem stageUpdate_eq_ok {α : Type} {values staged : SequenceState}
    {update : SequenceState -> ClientResult (SequenceState × α)} {result : α}
    (h : stageUpdate P values update = Except.ok (staged, result)) :
    update values = Except.ok (staged, result) ∧
      validateStateBounds P staged = Except.ok () := by
  unfold stageUpdate at h
  simp only [bind_eq_ok, pure_eq_ok, exists_unit] at h
  rcases h with ⟨⟨found, r⟩, hupdate, hbounds, hpair⟩
  injection hpair with hfound hr
  subst hfound hr
  exact ⟨hupdate, hbounds⟩

theorem prepareBatch_singleton
    (observation : AuthenticatedSequenceObservation P) :
    prepareBatch P [observation] = Except.ok
      ((∅ : PreparedBatch).insert observation.key
        (observation.counter, observation.digest)) := by
  have hscope : ¬ reservedScope observation.scope = true := by
    rw [observation.unreserved]
    decide
  unfold prepareBatch prepareFrom
  rw [rejectIf_of_not hscope, ok_bind, observation.keyed, ok_bind]
  rfl

theorem recordUpdate_singleton {values staged : SequenceState}
    {observation : AuthenticatedSequenceObservation P}
    (h : recordUpdate ((∅ : PreparedBatch).insert observation.key
        (observation.counter, observation.digest)) values =
      Except.ok (staged, ())) :
    Records P values staged (observation.key, observation.floor) := by
  unfold recordUpdate at h
  simp only [bind_eq_ok, pure_eq_ok] at h
  rcases h with ⟨found, hrecord, hpair⟩
  injection hpair with hfound _
  subst hfound
  -- The prepared map has one entry, so the loop runs once.
  change recordEntries values
    [(observation.key, observation.counter, observation.digest)] = _ at hrecord
  unfold recordEntries recordEntries at hrecord
  rcases bind_eq_ok.mp hrecord with ⟨next, hvalue, hnext⟩
  injection hnext with hnext
  subst hnext
  exact recordAuthenticatedValue_eq_ok hvalue

theorem floors_publisherUpdate {operation : PublisherOperation}
    {values staged : SequenceState} {result : Nat}
    (h : publisherUpdate P operation values = Except.ok (staged, result)) :
    floors P staged = floors P values := by
  cases operation with
  | initializeLocatorPublisher identity controlKey =>
      unfold publisherUpdate at h
      simp only [bind_eq_ok, pure_eq_ok] at h
      rcases h with ⟨key, _, found, hinitialize, hpair⟩
      injection hpair with hfound _
      subst hfound
      exact floors_initializePublisher hinitialize
  | nextLocatorSequence identity controlKey =>
      unfold publisherUpdate at h
      simp only [bind_eq_ok, pure_eq_ok] at h
      rcases h with ⟨key, _, ⟨found, value⟩, hnext, hpair⟩
      injection hpair with hfound _
      subst hfound
      exact floors_nextPublisherValue hnext

/-- The verdict of an update, without the map it leaves. -/
def verdict {α : Type} (P : Primitives) (values : SequenceState)
    (update : SequenceState -> ClientResult (SequenceState × α)) :
    ClientResult α :=
  (stageUpdate P values update).map Prod.snd

theorem verdict_of_ok {α : Type} {values staged : SequenceState}
    {update : SequenceState -> ClientResult (SequenceState × α)} {result : α}
    (h : update values = Except.ok (staged, result)) :
    verdict P values update =
      (validateStateBounds P staged).map fun _ => result := by
  unfold verdict stageUpdate
  rw [h, ok_bind]
  dsimp only
  cases validateStateBounds P staged with
  | error e => rfl
  | ok u => rfl

theorem verdict_of_error {α : Type} {values : SequenceState}
    {update : SequenceState -> ClientResult (SequenceState × α)}
    {error : ClientError} (h : update values = Except.error error) :
    verdict P values update = Except.error error := by
  unfold verdict stageUpdate
  rw [h]
  rfl

/-- Without publisher counters, only the bytes of the map can differ. -/
theorem validateStateBounds_eraseCounters (values : SequenceState) :
    validateStateBounds P values =
        validateStateBounds P (eraseCounters values) ∨
      validateStateBounds P values = Except.error stateTooLarge ∨
      validateStateBounds P (eraseCounters values) =
        Except.error stateTooLarge := by
  have hsize : (eraseCounters values).size = values.size :=
    Std.ExtTreeMap.size_map
  unfold validateStateBounds
  rw [hsize]
  by_cases hentries : values.size > maxStateEntries
  · rw [rejectIf_of hentries]
    exact Or.inl rfl
  · rw [rejectIf_of_not hentries, ok_bind, ok_bind]
    unfold rejectIf
    split
    · exact Or.inr (Or.inl rfl)
    · split
      · exact Or.inr (Or.inr rfl)
      · exact Or.inl rfl

theorem verdict_eraseCounters (values : SequenceState)
    (prepared : PreparedBatch) :
    verdict P values (recordUpdate prepared) =
        verdict P (eraseCounters values) (recordUpdate prepared) ∨
      verdict P values (recordUpdate prepared) = Except.error stateTooLarge ∨
      verdict P (eraseCounters values) (recordUpdate prepared) =
        Except.error stateTooLarge := by
  have herase := recordEntries_eraseCounters values prepared.toList
  cases hrecord : recordEntries values prepared.toList with
  | error e =>
      rw [hrecord] at herase
      have hfirst : recordUpdate prepared values = Except.error e := by
        unfold recordUpdate recordAuthenticatedBatch
        rw [hrecord]
        rfl
      have hsecond : recordUpdate prepared (eraseCounters values) =
          Except.error e := by
        unfold recordUpdate recordAuthenticatedBatch
        rw [herase]
        rfl
      rw [verdict_of_error hfirst, verdict_of_error hsecond]
      exact Or.inl rfl
  | ok staged =>
      rw [hrecord] at herase
      have hfirst : recordUpdate prepared values = Except.ok (staged, ()) := by
        unfold recordUpdate recordAuthenticatedBatch
        rw [hrecord]
        rfl
      have hsecond : recordUpdate prepared (eraseCounters values) =
          Except.ok (eraseCounters staged, ()) := by
        unfold recordUpdate recordAuthenticatedBatch
        rw [herase]
        rfl
      rw [verdict_of_ok hfirst, verdict_of_ok hsecond]
      rcases validateStateBounds_eraseCounters (P := P) staged with
        hsame | hlarge | hlarge
      · rw [hsame]
        exact Or.inl rfl
      · rw [hlarge]
        exact Or.inr (Or.inl rfl)
      · rw [hlarge]
        exact Or.inr (Or.inr rfl)

theorem updateMemory_snd {α : Type} (values : SequenceState)
    (update : SequenceState -> ClientResult (SequenceState × α)) :
    (updateMemory P values update).2 = verdict P values update := by
  unfold updateMemory verdict
  cases stageUpdate P values update with
  | error e => rfl
  | ok pair => rfl

/-- An update in memory keeps the staged map, or everything as it was. -/
theorem updateMemory_cases {α : Type} {values after : SequenceState}
    {update : SequenceState -> ClientResult (SequenceState × α)}
    {result : ClientResult α}
    (h : updateMemory P values update = (after, result)) :
    (exists value, result = Except.ok value ∧
        update values = Except.ok (after, value)) ∨
      (exists error, result = Except.error error ∧ after = values) := by
  unfold updateMemory at h
  cases hstage : stageUpdate P values update with
  | error e =>
      rw [hstage] at h
      injection h with hafter hresult
      exact Or.inr ⟨e, hresult.symm, hafter.symm⟩
  | ok pair =>
      rcases pair with ⟨staged, value⟩
      rw [hstage] at h
      injection h with hafter hresult
      subst hafter
      exact Or.inl ⟨value, hresult.symm, (stageUpdate_eq_ok hstage).left⟩

end Updates

/-!
# The memory store
-/

namespace MemorySequenceStore

section Operations

variable (P : Primitives)

def recordBatch (values : SequenceState)
    (observations : List (AuthenticatedSequenceObservation P)) :
    SequenceState × ClientResult Unit :=
  match prepareBatch P observations with
  | Except.error e => (values, Except.error e)
  | Except.ok prepared => updateMemory P values (recordUpdate prepared)

def publisher (values : SequenceState) (operation : PublisherOperation) :
    SequenceState × ClientResult Nat :=
  updateMemory P values (publisherUpdate P operation)

abbrev store : SequenceStore P :=
  { State := SequenceState
    Error := ClientError
    Fault := Empty
    late := fun _ => false
    clientError := id
    tooLarge := stateTooLarge
    key := fun identity scope => identity ++ ":" ++ scope
    floors := floors P
    publishers := fun values key => (publishers values key).map UInt64.toNat
    recordBatch := fun _ => recordBatch P
    publisher := fun _ => publisher P
    eraseCounters := eraseCounters }

end Operations

variable {P : Primitives}

theorem store_entry (observation : AuthenticatedSequenceObservation P) :
    (store P).entry observation = (observation.key, observation.floor) := by
  rcases stateKey_eq_ok.mp observation.keyed with ⟨_, _, _, _, _, _, hkey⟩
  unfold SequenceStore.entry
  rw [← hkey]

theorem recordBatch_singleton (values : SequenceState)
    (observation : AuthenticatedSequenceObservation P) :
    recordBatch P values [observation] =
      updateMemory P values (recordUpdate
        ((∅ : PreparedBatch).insert observation.key
          (observation.counter, observation.digest))) := by
  unfold recordBatch
  rw [prepareBatch_singleton]

/-- The map of one observation is small enough to be kept. -/
theorem validateStateBounds_singleton [P.Lawful] [P.ZBase32]
    (observation : AuthenticatedSequenceObservation P) :
    validateStateBounds P ((∅ : SequenceState).insert observation.key
      (StoredSequence.authenticated observation.counter observation.digest)) =
        Except.ok () := by
  have hkey := stateKey_quotedSize observation.keyed
  have hkind : Json.quotedSize "authenticated" = 15 := by decide
  have hcounter := instant_size observation.counter
  have hdigest : Json.size (Json.array (observation.digest.val.map fun b =>
      Json.number b.toNat)) ≤ 130 := by
    refine Nat.le_trans (Json.size_array_le fun item hitem => ?_)
      (show _ * (3 + 1) + 2 ≤ 130 by
        rw [List.length_map, observation.digest.property])
    rcases List.mem_map.mp hitem with ⟨b, _, rfl⟩
    exact Json.size_number_le (by decide) (Nat.lt_trans b.toNat_lt (by decide))
  have hentry := Json.size_object_le
    [("kind", Json.string "authenticated"),
     ("counter", Json.number observation.counter.toNat),
     ("digest", Json.array (observation.digest.val.map fun b =>
       Json.number b.toNat))]
  have hkeys : Json.keysSize ["kind", "counter", "digest"] ≤ 30 := by decide
  simp only [List.map_cons, List.map_nil, Json.valuesSize_cons,
    Json.valuesSize_nil, Json.size_string, hkind] at hentry
  have hmap := Json.size_object_le [(observation.key,
    (StoredSequence.authenticated observation.counter
      observation.digest).toJson)]
  have hentryKey : Json.keysSize [observation.key] ≤ 366 := by
    change Json.quotedSize observation.key + 2 + 0 ≤ 366
    omega
  simp only [List.map_cons, List.map_nil, Json.valuesSize_cons,
    Json.valuesSize_nil] at hmap
  change _ ≤ _ + (Json.size (Json.object _) + 0) + 2 at hmap
  have hsize : ((∅ : SequenceState).insert observation.key
      (StoredSequence.authenticated observation.counter
        observation.digest)).size = 1 := rfl
  unfold validateStateBounds
  rw [hsize, rejectIf_of_not (by decide), ok_bind, rejectIf_eq_ok,
    Primitives.Lawful.jsonToVec_length]
  change ¬ Json.size (Json.object [(observation.key,
    (StoredSequence.authenticated observation.counter
      observation.digest).toJson)]) > 1048576
  omega

theorem recordBatch_empty [P.Lawful] [P.ZBase32]
    (observation : AuthenticatedSequenceObservation P) :
    recordBatch P ∅ [observation] =
      ((∅ : SequenceState).insert observation.key
        (StoredSequence.authenticated observation.counter observation.digest),
        Except.ok ()) := by
  have hupdate : recordUpdate ((∅ : PreparedBatch).insert observation.key
      (observation.counter, observation.digest)) ∅ =
        Except.ok ((∅ : SequenceState).insert observation.key
          (StoredSequence.authenticated observation.counter
            observation.digest), ()) := rfl
  rw [recordBatch_singleton]
  unfold updateMemory stageUpdate
  rw [hupdate, ok_bind]
  dsimp only
  rw [validateStateBounds_singleton]
  rfl

theorem recordBatch_rolledBack {values : SequenceState}
    {observation : AuthenticatedSequenceObservation P} {previous : UInt64}
    {stored : Digest}
    (h : values[observation.key]? =
      some (StoredSequence.authenticated previous stored))
    (hlower : observation.counter < previous) :
    recordBatch P values [observation] = (values, Except.error
      (ClientError.state "authenticated record rolled back")) := by
  have hvalue : recordAuthenticatedValue values observation.key
      observation.counter observation.digest = Except.error
        (ClientError.state "authenticated record rolled back") := by
    unfold recordAuthenticatedValue
    rw [h]
    exact if_pos hlower
  have hupdate : recordUpdate ((∅ : PreparedBatch).insert observation.key
      (observation.counter, observation.digest)) values = Except.error
        (ClientError.state "authenticated record rolled back") := by
    change recordEntries values
      [(observation.key, observation.counter, observation.digest)] >>= _ = _
    unfold recordEntries
    rw [hvalue]
    rfl
  rw [recordBatch_singleton]
  unfold updateMemory stageUpdate
  rw [hupdate]
  rfl

theorem store_monotone : (store P).Monotone := by
  constructor
  case recorded =>
    intro fault before after observation h
    change recordBatch P before [observation] = (after, Except.ok ()) at h
    rw [recordBatch_singleton] at h
    rcases updateMemory_cases h with ⟨_, _, hupdate⟩ | ⟨_, herror, _⟩
    · have hrecords := recordUpdate_singleton hupdate
      constructor
      · rw [store_entry]
        exact hrecords.admits
      · rw [store_entry]
        exact hrecords.raised
      · change (fun key => (publishers after key).map UInt64.toNat) = _
        rw [hrecords.publishers]
    · cases herror
  case failed =>
    intro fault before after observation error h
    change recordBatch P before [observation] = (after, Except.error error) at h
    rw [recordBatch_singleton] at h
    rcases updateMemory_cases h with ⟨_, hok, _⟩ | ⟨_, _, hafter⟩
    · cases hok
    · exact Or.inl hafter
  case declined =>
    intro fault before after observation result hdeclines h
    change recordBatch P before [observation] = (after, result) at h
    have hresult : result ≠ Except.ok () := by
      intro hok
      apply hdeclines
      change (recordBatch P before [observation]).2 = Except.ok ()
      rw [h]
      exact hok
    rw [recordBatch_singleton] at h
    rcases updateMemory_cases h with ⟨_, hok, _⟩ | ⟨_, _, hafter⟩
    · exact absurd hok hresult
    · exact ⟨hafter, hresult⟩
  case published =>
    intro fault before after operation result h
    change updateMemory P before (publisherUpdate P operation) =
      (after, result) at h
    rcases updateMemory_cases h with ⟨_, _, hupdate⟩ | ⟨_, _, hafter⟩
    · exact floors_publisherUpdate hupdate
    · rw [hafter]
  case blind =>
    intro state observation
    change SequenceStore.Agree (store P) (recordBatch P state [observation]).2
      (recordBatch P (eraseCounters state) [observation]).2
    rw [recordBatch_singleton, recordBatch_singleton, updateMemory_snd,
      updateMemory_snd]
    exact verdict_eraseCounters state _

end MemorySequenceStore

/-!
# The file store

What `read_state` finds at the fixed path is a missing file, a file that is
refused before its text is parsed, a malformed text, or a map with the length of
its text.
-/

inductive StateFile where
  | missing
  | invalid
  | malformed
  | document (values : SequenceState) (length : Nat)

/-- The fallible I/O steps of `update_file`, in their order. -/
inductive FileStep where
  | openAndLock
  | readState
  | createTemporary
  | writeTemporary
  | syncTemporary
  | rename
  | syncDirectory
  | unlock
  deriving DecidableEq

/-- The step that fails, with the text of the I/O error. -/
structure FileFault where
  step : FileStep
  text : String

def FileFault.late (fault : FileFault) : Bool :=
  decide (fault.step = FileStep.syncDirectory ∨ fault.step = FileStep.unlock)

namespace FileSequenceStore

section Operations

variable (P : Primitives)

def splitOnce (text : List Char) : Option (List Char × List Char) :=
  match text.dropWhile (fun c => c != ':') with
  | [] => none
  | _ :: after => some (text.takeWhile (fun c => c != ':'), after)

def validPublisherScope (scope : String) : Bool :=
  if reservedScope scope then
    let controlKey :=
      String.ofList (scope.toList.drop publisherScopePrefix.toList.length)
    (P.tryFromZ32 controlKey).any fun parsed => P.z32 parsed == controlKey
  else false

def validateStoredEntry (key : String) (value : StoredSequence) :
    ClientResult Unit := do
  let (identity, scope) <- okOr (splitOnce key.toList)
    (ClientError.state "invalid sequence state key")
  let canonical <- stateKey P (String.ofList identity) (String.ofList scope)
  rejectIf (canonical ≠ key)
    (ClientError.state "non-canonical sequence state key")
  match value with
  | StoredSequence.authenticated counter _ => do
      rejectIf (counter = 0)
        (ClientError.state "authenticated sequence state contains a zero counter")
      rejectIf (reservedScope (String.ofList scope) = true)
        (ClientError.state "authenticated sequence state uses a reserved scope")
  | StoredSequence.publisher _ =>
      rejectIf (validPublisherScope P (String.ofList scope) = false)
        (ClientError.state "publisher sequence state has an invalid scope")

def validateEntries : List (String × StoredSequence) -> ClientResult Unit
  | [] => Except.ok ()
  | (key, value) :: rest => do
      validateStoredEntry P key value
      validateEntries rest

def readState (file : StateFile) : ClientResult SequenceState :=
  match file with
  | StateFile.missing => Except.ok ∅
  | StateFile.invalid =>
      Except.error (ClientError.state "invalid sequence state file")
  | StateFile.malformed =>
      Except.error (ClientError.state "malformed sequence state")
  | StateFile.document values length => do
      rejectIf (length > maxStateBytes)
        (ClientError.state "invalid sequence state file")
      validateStateBounds P values
      validateEntries P values.toList
      pure values

def failAt (fault : Option FileFault) (step : FileStep) : ClientResult Unit :=
  match fault with
  | none => Except.ok ()
  | some found =>
      rejectIf (found.step = step) (ClientError.state found.text)

/-- The part of `update_file` before the rename. -/
def stageFile {α : Type} (fault : Option FileFault) (file : StateFile)
    (update : SequenceState -> ClientResult (SequenceState × α)) :
    ClientResult (SequenceState × α) := do
  failAt fault FileStep.openAndLock
  failAt fault FileStep.readState
  let values <- readState P file
  let (staged, result) <- stageUpdate P values update
  failAt fault FileStep.createTemporary
  failAt fault FileStep.writeTemporary
  failAt fault FileStep.syncTemporary
  failAt fault FileStep.rename
  pure (staged, result)

def updateFile {α : Type} (fault : Option FileFault) (file : StateFile)
    (update : SequenceState -> ClientResult (SequenceState × α)) :
    StateFile × ClientResult α :=
  match stageFile P fault file update with
  | Except.error e => (file, Except.error e)
  | Except.ok (staged, result) =>
      (StateFile.document staged (P.jsonToVec (stateToJson staged)).length,
        do
          failAt fault FileStep.syncDirectory
          failAt fault FileStep.unlock
          pure result)

def recordBatch (fault : Option FileFault) (file : StateFile)
    (observations : List (AuthenticatedSequenceObservation P)) :
    StateFile × ClientResult Unit :=
  match prepareBatch P observations with
  | Except.error e => (file, Except.error e)
  | Except.ok prepared => updateFile P fault file (recordUpdate prepared)

def publisher (fault : Option FileFault) (file : StateFile)
    (operation : PublisherOperation) : StateFile × ClientResult Nat :=
  updateFile P fault file (publisherUpdate P operation)

def values : StateFile -> SequenceState
  | StateFile.document values _ => values
  | _ => ∅

def eraseCounters : StateFile -> StateFile
  | StateFile.document values length =>
      StateFile.document (Client.eraseCounters values) length
  | file => file

abbrev store : SequenceStore P :=
  { State := StateFile
    Error := ClientError
    Fault := FileFault
    late := FileFault.late
    clientError := id
    tooLarge := stateTooLarge
    key := fun identity scope => identity ++ ":" ++ scope
    floors := fun file => floors P (values file)
    publishers := fun file key =>
      (publishers (values file) key).map UInt64.toNat
    recordBatch := recordBatch P
    publisher := publisher P
    eraseCounters := eraseCounters }

end Operations

variable {P : Primitives}

theorem readState_eq_ok {file : StateFile} {found : SequenceState}
    (h : readState P file = Except.ok found) : found = values file := by
  cases file with
  | missing =>
      injection h with h
      exact h.symm
  | invalid => cases h
  | malformed => cases h
  | document stored length =>
      unfold readState at h
      simp only [bind_eq_ok, rejectIf_eq_ok, exists_unit, pure_eq_ok] at h
      rcases h with ⟨_, _, _, heq⟩
      exact heq.symm

theorem failAt_none (step : FileStep) : failAt none step = Except.ok () := rfl

theorem failAt_eq_error {fault : Option FileFault} {step : FileStep}
    {error : ClientError} (h : failAt fault step = Except.error error) :
    exists found, fault = some found ∧ found.step = step := by
  cases fault with
  | none => cases h
  | some found =>
      by_cases hstep : found.step = step
      · exact ⟨found, rfl, hstep⟩
      · unfold failAt at h
        dsimp only at h
        rw [rejectIf_of_not hstep] at h
        cases h

theorem stageFile_eq_ok {α : Type} {fault : Option FileFault}
    {file : StateFile}
    {update : SequenceState -> ClientResult (SequenceState × α)}
    {staged : SequenceState} {result : α}
    (h : stageFile P fault file update = Except.ok (staged, result)) :
    update (values file) = Except.ok (staged, result) := by
  unfold stageFile at h
  simp only [bind_eq_ok, exists_unit, pure_eq_ok] at h
  rcases h with ⟨_, _, found, hread, ⟨next, r⟩, hstage, _, _, _, _, hpair⟩
  injection hpair with hnext hr
  subst hnext hr
  rw [← readState_eq_ok hread]
  exact (stageUpdate_eq_ok hstage).left

theorem stageFile_none {α : Type} (file : StateFile)
    (update : SequenceState -> ClientResult (SequenceState × α)) :
    stageFile P none file update =
      readState P file >>= fun found => stageUpdate P found update := by
  unfold stageFile
  simp only [failAt_none, ok_bind]
  cases readState P file with
  | error e => rfl
  | ok found =>
      simp only [ok_bind]
      cases stageUpdate P found update with
      | error e => rfl
      | ok pair => rfl

theorem stageFile_mono {α : Type} {fault : Option FileFault}
    {file : StateFile}
    {update : SequenceState -> ClientResult (SequenceState × α)}
    {staged : SequenceState} {result : α}
    (h : stageFile P fault file update = Except.ok (staged, result)) :
    stageFile P none file update = Except.ok (staged, result) := by
  rw [stageFile_none]
  unfold stageFile at h
  simp only [bind_eq_ok, exists_unit, pure_eq_ok] at h
  rcases h with ⟨_, _, found, hread, ⟨next, r⟩, hstage, _, _, _, _, hpair⟩
  rw [hread, ok_bind, hstage, hpair]

/-- An update of the file replaces it, fails before the rename, or fails late. -/
theorem updateFile_cases {α : Type} {fault : Option FileFault}
    {file after : StateFile}
    {update : SequenceState -> ClientResult (SequenceState × α)}
    {result : ClientResult α}
    (h : updateFile P fault file update = (after, result)) :
    (exists staged value,
      stageFile P fault file update = Except.ok (staged, value) ∧
        values after = staged ∧
        (result = Except.ok value ∨
          (exists error, result = Except.error error) ∧
            fault.any FileFault.late = true)) ∨
      (exists error, stageFile P fault file update = Except.error error ∧
        result = Except.error error ∧ after = file) := by
  unfold updateFile at h
  cases hstage : stageFile P fault file update with
  | error e =>
      rw [hstage] at h
      injection h with hafter hresult
      exact Or.inr ⟨e, rfl, hresult.symm, hafter.symm⟩
  | ok pair =>
      rcases pair with ⟨staged, value⟩
      rw [hstage] at h
      injection h with hafter hresult
      refine Or.inl ⟨staged, value, rfl, ?_, ?_⟩
      · rw [← hafter]
        rfl
      · have hlate : forall step error,
            failAt fault step = Except.error error ->
            step = FileStep.syncDirectory ∨ step = FileStep.unlock ->
            fault.any FileFault.late = true := by
          intro step error hfail hstep
          rcases failAt_eq_error hfail with ⟨found, rfl, hfound⟩
          subst hfound
          exact decide_eq_true hstep
        cases hsync : failAt fault FileStep.syncDirectory with
        | error e =>
            rw [hsync] at hresult
            exact Or.inr ⟨⟨e, hresult.symm⟩, hlate _ e hsync (Or.inl rfl)⟩
        | ok u =>
            cases hunlock : failAt fault FileStep.unlock with
            | error e =>
                rw [hsync, hunlock] at hresult
                exact Or.inr ⟨⟨e, hresult.symm⟩,
                  hlate _ e hunlock (Or.inr rfl)⟩
            | ok u =>
                rw [hsync, hunlock] at hresult
                exact Or.inl hresult.symm

theorem recordBatch_singleton (fault : Option FileFault) (file : StateFile)
    (observation : AuthenticatedSequenceObservation P) :
    recordBatch P fault file [observation] =
      updateFile P fault file (recordUpdate
        ((∅ : PreparedBatch).insert observation.key
          (observation.counter, observation.digest))) := by
  unfold recordBatch
  rw [prepareBatch_singleton]

theorem recorded_of_update {file after : StateFile} {staged : SequenceState}
    {observation : AuthenticatedSequenceObservation P}
    (hupdate : recordUpdate ((∅ : PreparedBatch).insert observation.key
        (observation.counter, observation.digest)) (values file) =
      Except.ok (staged, ()))
    (hafter : values after = staged) :
    (store P).Recorded observation file after := by
  have hrecords := recordUpdate_singleton hupdate
  rw [← hafter] at hrecords
  have hentry : (store P).entry observation =
      (observation.key, observation.floor) :=
    MemorySequenceStore.store_entry observation
  constructor
  · rw [hentry]
    exact hrecords.admits
  · rw [hentry]
    exact hrecords.raised
  · change (fun key => (publishers (values after) key).map UInt64.toNat) = _
    rw [hrecords.publishers]

theorem updateFile_none_snd {α : Type} (file : StateFile)
    (update : SequenceState -> ClientResult (SequenceState × α)) :
    (updateFile P none file update).2 =
      readState P file >>= fun found => verdict P found update := by
  unfold updateFile
  rw [stageFile_none]
  cases readState P file with
  | error e => rfl
  | ok found =>
      simp only [ok_bind, verdict]
      cases stageUpdate P found update with
      | error e => rfl
      | ok pair => rfl

theorem validateEntries_eraseCounter
    (entries : List (String × StoredSequence)) :
    validateEntries P (entries.map fun entry => (entry.1, eraseCounter entry.2)) =
      validateEntries P entries := by
  induction entries with
  | nil => rfl
  | cons entry rest ih =>
      rcases entry with ⟨key, value⟩
      rw [List.map_cons]
      unfold validateEntries
      rw [ih]
      cases value with
      | publisher counter => rfl
      | authenticated counter digest => rfl

theorem validateEntries_eraseCounters (values : SequenceState) :
    validateEntries P (Client.eraseCounters values).toList =
      validateEntries P values.toList := by
  unfold Client.eraseCounters
  rw [Std.ExtTreeMap.toList_map]
  exact validateEntries_eraseCounter values.toList

/-- The verdict of a file update, from the text of the file. -/
theorem verdict_document (stored : SequenceState) {length : Nat}
    (hlength : length ≤ maxStateBytes) (prepared : PreparedBatch) :
    (readState P (StateFile.document stored length) >>= fun found =>
        verdict P found (recordUpdate prepared)) =
      (validateStateBounds P stored >>= fun _ =>
        validateEntries P stored.toList >>= fun _ =>
          verdict P stored (recordUpdate prepared)) := by
  unfold readState
  dsimp only
  rw [rejectIf_of_not (Nat.not_lt.mpr hlength), ok_bind]
  cases validateStateBounds P stored with
  | error e => rfl
  | ok u =>
      cases validateEntries P stored.toList with
      | error e => rfl
      | ok u => rfl

theorem verdict_eraseCounters_file (file : StateFile)
    (prepared : PreparedBatch) :
    (store P).Agree
      (readState P file >>= fun found => verdict P found (recordUpdate prepared))
      (readState P (eraseCounters file) >>= fun found =>
        verdict P found (recordUpdate prepared)) := by
  cases file with
  | missing => exact Or.inl rfl
  | invalid => exact Or.inl rfl
  | malformed => exact Or.inl rfl
  | document stored length =>
      by_cases hlength : length ≤ maxStateBytes
      · unfold eraseCounters
        rw [verdict_document stored hlength, verdict_document _ hlength,
          validateEntries_eraseCounters]
        rcases validateStateBounds_eraseCounters (P := P) stored with
          hsame | hlarge | hlarge
        · rw [← hsame]
          cases validateStateBounds P stored with
          | error e => exact Or.inl rfl
          | ok u =>
              cases validateEntries P stored.toList with
              | error e => exact Or.inl rfl
              | ok u => exact verdict_eraseCounters stored prepared
        · rw [hlarge]
          exact Or.inr (Or.inl rfl)
        · rw [hlarge]
          exact Or.inr (Or.inr rfl)
      · have hrefused : forall kept : SequenceState,
            readState P (StateFile.document kept length) = Except.error
              (ClientError.state "invalid sequence state file") := by
          intro kept
          unfold readState
          dsimp only
          rw [rejectIf_of (Nat.not_le.mp hlength)]
          rfl
        unfold eraseCounters
        rw [hrefused, hrefused]
        exact Or.inl rfl

theorem store_monotone : (store P).Monotone := by
  constructor
  case recorded =>
    intro fault before after observation h
    change recordBatch P fault before [observation] =
      (after, Except.ok ()) at h
    rw [recordBatch_singleton] at h
    rcases updateFile_cases h with
      ⟨staged, value, hstage, hafter, _⟩ | ⟨_, _, herror, _⟩
    · exact recorded_of_update (stageFile_eq_ok hstage) hafter
    · cases herror
  case failed =>
    intro fault before after observation error h
    change recordBatch P fault before [observation] =
      (after, Except.error error) at h
    rw [recordBatch_singleton] at h
    rcases updateFile_cases h with
      ⟨staged, value, hstage, hafter, hresult⟩ | ⟨_, _, _, hafter⟩
    · rcases hresult with hok | hlate
      · cases hok
      · exact Or.inr ⟨hlate.right,
          recorded_of_update (stageFile_eq_ok hstage) hafter⟩
    · exact Or.inl hafter
  case declined =>
    intro fault before after observation result hdeclines h
    change recordBatch P fault before [observation] = (after, result) at h
    rw [recordBatch_singleton] at h
    rcases updateFile_cases h with
      ⟨staged, value, hstage, _, _⟩ | ⟨_, _, herror, hafter⟩
    · exfalso
      apply hdeclines
      change (recordBatch P none before [observation]).2 = Except.ok ()
      rw [recordBatch_singleton]
      unfold updateFile
      rw [stageFile_mono hstage]
      rfl
    · constructor
      · exact hafter
      · rw [herror]
        intro hok
        cases hok
  case published =>
    intro fault before after operation result h
    change updateFile P fault before (publisherUpdate P operation) =
      (after, result) at h
    rcases updateFile_cases h with
      ⟨staged, value, hstage, hafter, _⟩ | ⟨_, _, _, hafter⟩
    · change floors P (values after) = floors P (values before)
      rw [hafter]
      exact floors_publisherUpdate (stageFile_eq_ok hstage)
    · rw [hafter]
  case blind =>
    intro state observation
    change (store P).Agree (recordBatch P none state [observation]).2
      (recordBatch P none (eraseCounters state) [observation]).2
    rw [recordBatch_singleton, recordBatch_singleton, updateFile_none_snd,
      updateFile_none_snd]
    exact verdict_eraseCounters_file state _

end FileSequenceStore

end Client
end Pubky2Pubky
