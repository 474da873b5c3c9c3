import Pubky2Pubky.Foundation.Machine
import Pubky2Pubky.Foundation.Replaced
import Pubky2Pubky.Client.StateEntries

/-!
# The steps of a file update

Any number of stores, in any number of processes, update one state file. An I/O
failure, the death of a process or a crash of the machine may come between any
two steps. The lock admits one update at a time, and it is gone with its holder.
-/

namespace Pubky2Pubky
namespace Client

open Foundation Protocol

/-- The reader of state files takes back what the writer of JSON emits. -/
class StateFormat (P : Primitives) where
  sequenceStateFromSlice : Bytes -> Option SequenceState
  fromSlice_toVec (values : SequenceState) :
    (forall (key : String) (value : StoredSequence), values[key]? = some value ->
      key.toList.all Json.plainChar = true) ->
    sequenceStateFromSlice (P.jsonToVec (stateToJson values)) = some values

namespace FileSequenceStore

/-- A file, and whether what is written to it has been synced. -/
structure StoredFile where
  bytes : Bytes
  synced : Bool

/-- Nobody can tell what is left of a file that had not been synced. -/
def StoredFile.afterCrash (damage : Bytes) (file : StoredFile) : StoredFile :=
  if file.synced then file else { bytes := damage, synced := true }

abbrev StatePath := Replaced (Option StoredFile)

inductive Stage where
  | locked
  | read (values : SequenceState)
  | encoded (bytes : Bytes) (result : Nat)
  | created (bytes : Bytes) (result : Nat)
  | written (temporary : StoredFile) (result : Nat)
  | synced (temporary : StoredFile) (result : Nat)
  | renamed (result : Nat)
  | directorySynced (result : Nat)

inductive Progress where
  | continues (stage : Stage)
  | ends (result : ClientResult Nat)

section Updates

variable (P : Primitives)

/-- An update that holds the lock; `start` is what it found at the path. -/
structure FileUpdate where
  caller : Nat
  operation : Operation P
  update : Update
  stage : Stage
  start : StatePath

structure Answer where
  caller : Nat
  operation : Operation P
  result : ClientResult Nat

structure StateDirectory where
  path : StatePath
  holder : Option (FileUpdate P)
  answers : List (Answer P)

inductive Event where
  | call (caller : Nat) (operation : Operation P)
  | lockFails (caller : Nat) (operation : Operation P) (text : String)
  | proceed
  | fail (text : String)
  | kill
  | crash (survivor : Nat) (damage : Bytes)

variable [StateFormat P]

def stateFile (file : Option StoredFile) : StateFile :=
  match file with
  | none => StateFile.missing
  | some found =>
      if found.bytes.length > maxStateBytes then StateFile.invalid
      else
        match StateFormat.sequenceStateFromSlice P found.bytes with
        | none => StateFile.malformed
        | some values => StateFile.document values found.bytes.length

def readFile (file : Option StoredFile) : ClientResult SequenceState :=
  readState P (stateFile P file)

def readPath (path : StatePath) : ClientResult SequenceState :=
  readFile P path.current

def advance (path : StatePath) (update : Update) : Stage -> StatePath × Progress
  | Stage.locked =>
      match readPath P path with
      | Except.error e => (path, Progress.ends (Except.error e))
      | Except.ok values => (path, Progress.continues (Stage.read values))
  | Stage.read values =>
      match stageUpdate P values update with
      | Except.error e => (path, Progress.ends (Except.error e))
      | Except.ok (staged, result) =>
          (path, Progress.continues
            (Stage.encoded (P.jsonToVec (stateToJson staged)) result))
  | Stage.encoded bytes result =>
      (path, Progress.continues (Stage.created bytes result))
  | Stage.created bytes result =>
      (path, Progress.continues
        (Stage.written { bytes := bytes, synced := false } result))
  | Stage.written temporary result =>
      (path, Progress.continues
        (Stage.synced { temporary with synced := true } result))
  | Stage.synced temporary result =>
      (path.rename (some temporary), Progress.continues (Stage.renamed result))
  | Stage.renamed result =>
      (path.sync, Progress.continues (Stage.directorySynced result))
  | Stage.directorySynced result => (path, Progress.ends (Except.ok result))

/-- Whether the next step can fail; only the update itself does no I/O. -/
def Stage.fallible : Stage -> Bool
  | Stage.read _ => false
  | _ => true

def StateDirectory.answer (s : StateDirectory P) (caller : Nat)
    (operation : Operation P) (result : ClientResult Nat) : StateDirectory P :=
  { s with
    answers := s.answers ++
      [{ caller := caller, operation := operation, result := result }] }

def StateDirectory.next (s : StateDirectory P) :
    Event P -> Option (StateDirectory P)
  | Event.call caller operation =>
      match operation.prepare with
      | Except.error e => some (s.answer P caller operation (Except.error e))
      | Except.ok update =>
          match s.holder with
          | some _ => none
          | none =>
              some
                { s with
                  holder := some
                    { caller := caller
                      operation := operation
                      update := update
                      stage := Stage.locked
                      start := s.path } }
  | Event.lockFails caller operation text =>
      match operation.prepare with
      | Except.error _ => none
      | Except.ok _ =>
          some (s.answer P caller operation
            (Except.error (ClientError.state text)))
  | Event.proceed =>
      match s.holder with
      | none => none
      | some u =>
          match advance P s.path u.update u.stage with
          | (path, Progress.continues stage) =>
              some
                { s with
                  path := path
                  holder := some { u with stage := stage } }
          | (path, Progress.ends result) =>
              some (StateDirectory.answer P
                { s with path := path, holder := none } u.caller u.operation
                result)
  | Event.fail text =>
      match s.holder with
      | none => none
      | some u =>
          if u.stage.fallible then
            some (StateDirectory.answer P { s with holder := none } u.caller
              u.operation (Except.error (ClientError.state text)))
          else none
  | Event.kill =>
      match s.holder with
      | none => none
      | some _ => some { s with holder := none }
  | Event.crash survivor damage =>
      (s.path.crash survivor).map fun path =>
        { s with
          path :=
            { path with
              current := path.current.map (StoredFile.afterCrash damage) }
          holder := none }

def stateDirectory : Machine (StateDirectory P) (Event P) where
  initial := fun s =>
    s = { path := { current := none, older := [] }, holder := none, answers := [] }
  next := StateDirectory.next P

end Updates

end FileSequenceStore

end Client
end Pubky2Pubky
