import Pubky2Pubky.Client.SequenceStore

/-!
# The IndexedDB sequence store

The browser keeps the counters of every account as plain records of one object
store. An update runs in one transaction: it reads and validates all records,
and the records it changed are written together or not at all.
-/

namespace Pubky2Pubky
namespace Browser

open Foundation Protocol Client

def maxSequenceEntries : Nat := 4096

def maxSequenceBytes : Nat := 1024 * 1024

def jsMaxSafeCounter : Nat := 9007199254740991

inductive SequenceKind where
  | publisher
  | authenticated
  deriving DecidableEq

/-- A record without its `key`, which is the key path of the object store. -/
structure SequenceRecord where
  accountId : String
  identity : String
  scope : String
  kind : SequenceKind
  counter : Nat
  digest : Option String
  deriving DecidableEq

abbrev SequenceEntry := String × SequenceRecord

abbrev SequenceRecords := Std.ExtTreeMap String SequenceRecord compare

/-- The code of a failure. -/
abbrev Failure := String

abbrev StoreResult (α : Type) := Except Failure α

/-!
# Validators
-/

def z32Char (c : Char) : Bool :=
  "ybndrfg8ejkmcpqxot1uwisza345h769".toList.contains c

/-- The text matches the pattern of a z-base-32 key. -/
def isZ32 (value : String) : Bool :=
  decide (value.toList.length = 52) && value.toList.all z32Char

def isScope (scope : String) : Bool :=
  decide (1 ≤ scope.toList.length) && decide (scope.toList.length ≤ 128) &&
    scope.toList.all scopeChar

def digestChar (c : Char) : Bool :=
  let n := c.toNat
  (decide (48 ≤ n) && decide (n ≤ 57)) || (decide (65 ≤ n) && decide (n ≤ 90)) ||
    (decide (97 ≤ n) && decide (n ≤ 122)) || c == '-' || c == '_'

def isDigest (digest : String) : Bool :=
  decide (digest.toList.length = 43) && digest.toList.all digestChar

def validateIdentity (value : String) : StoreResult String := do
  rejectIf (isZ32 value = false) "invalid-pubky"
  pure value

def validateScope (scope : String) : StoreResult String := do
  rejectIf (isScope scope = false) "sequence-invalid"
  rejectIf (reservedScope scope = true ∧
      isZ32 (String.ofList
        (scope.toList.drop publisherScopePrefix.toList.length)) = false)
    "sequence-invalid"
  pure scope

def validateCounter (counter : Nat) (allowZero : Bool) : StoreResult Nat := do
  rejectIf (counter > jsMaxSafeCounter ∨
      counter < (if allowZero then 0 else 1))
    "sequence-invalid"
  pure counter

def validateDigest (digest : Option String) : StoreResult String := do
  let text <- okOr digest "sequence-invalid"
  rejectIf (isDigest text = false) "sequence-invalid"
  pure text

def joinKey (accountId identity scope : String) : String :=
  accountId ++ "\u0000" ++ identity ++ "\u0000" ++ scope

def sequenceKey (accountId identity scope : String) : StoreResult String := do
  let account <- validateIdentity accountId
  let owner <- validateIdentity identity
  let checked <- validateScope scope
  pure (joinKey account owner checked)

def validateStoredSequence (entry : SequenceEntry) : StoreResult Unit := do
  let record := entry.2
  rejectIf (isZ32 record.accountId = false ∨ isZ32 record.identity = false ∨
      isScope record.scope = false)
    "storage-tampered"
  rejectIf (record.kind = SequenceKind.publisher ∧
      reservedScope record.scope = false)
    "storage-tampered"
  rejectIf (record.kind = SequenceKind.authenticated ∧
      reservedScope record.scope = true)
    "storage-tampered"
  let _ <- validateCounter record.counter
    (decide (record.kind = SequenceKind.publisher))
  match record.kind with
  | SequenceKind.authenticated => do
      let _ <- validateDigest record.digest
      pure ()
  | SequenceKind.publisher =>
      rejectIf (record.digest ≠ none) "storage-tampered"
  let key <- sequenceKey record.accountId record.identity record.scope
  rejectIf (entry.1 ≠ key) "storage-tampered"

def validateRecords : List SequenceEntry -> StoreResult Unit
  | [] => Except.ok ()
  | entry :: rest => do
      validateStoredSequence entry
      validateRecords rest

/-- What the Rust half passes to the script for one observation. -/
structure SequenceObservation where
  identity : String
  scope : String
  counter : Nat
  digest : String

def validateObservation (accountId : String)
    (observation : SequenceObservation) : StoreResult SequenceEntry := do
  let identity <- validateIdentity observation.identity
  let scope <- validateScope observation.scope
  rejectIf (reservedScope scope = true) "sequence-invalid"
  let counter <- validateCounter observation.counter false
  let digest <- validateDigest (some observation.digest)
  let key <- sequenceKey accountId identity scope
  pure (key,
    { accountId := accountId
      identity := identity
      scope := scope
      kind := SequenceKind.authenticated
      counter := counter
      digest := some digest })

/-!
# One transaction
-/

def SequenceKind.text : SequenceKind -> String
  | SequenceKind.publisher => "publisher"
  | SequenceKind.authenticated => "authenticated"

def recordToJson (entry : SequenceEntry) : Json :=
  let record := entry.2
  Json.object
    [("key", Json.string entry.1),
     ("accountId", Json.string record.accountId),
     ("identity", Json.string record.identity),
     ("scope", Json.string record.scope),
     ("kind", Json.string record.kind.text),
     ("counter", Json.number record.counter),
     ("digest", match record.digest with
       | some digest => Json.string digest
       | none => Json.null)]

def estimateSequenceBytes (records : SequenceRecords) : StoreResult Unit :=
  rejectIf
    ((Json.array (records.toList.map recordToJson)).size > maxSequenceBytes)
    "sequence-limit"

/-- A request or the transaction fails, so the transaction writes nothing. -/
inductive TransactionFault where
  | storageFailed
  | storageBlocked

def TransactionFault.code : TransactionFault -> Failure
  | TransactionFault.storageFailed => "storage-failed"
  | TransactionFault.storageBlocked => "storage-blocked"

/-- The map an update leaves, the records it changed, and its result. -/
abbrev SequenceUpdate (α : Type) :=
  SequenceRecords -> StoreResult (SequenceRecords × List SequenceEntry × α)

def stageSequences {α : Type} (records : SequenceRecords)
    (update : SequenceUpdate α) : StoreResult (List SequenceEntry × α) := do
  rejectIf (records.size > maxSequenceEntries) "storage-tampered"
  validateRecords records.toList
  let (current, changed, result) <- update records
  rejectIf (current.size > maxSequenceEntries) "sequence-limit"
  estimateSequenceBytes current
  pure (changed, result)

def putAll (records : SequenceRecords) : List SequenceEntry -> SequenceRecords
  | [] => records
  | (key, record) :: rest => putAll (records.insert key record) rest

def updateSequences {α : Type} (fault : Option TransactionFault)
    (records : SequenceRecords) (update : SequenceUpdate α) :
    SequenceRecords × StoreResult α :=
  match fault with
  | some found => (records, Except.error found.code)
  | none =>
      match stageSequences records update with
      | Except.error e => (records, Except.error e)
      | Except.ok (changed, result) => (putAll records changed, Except.ok result)

/-!
# Operations
-/

def checkObservations (current : SequenceRecords) :
    List SequenceEntry -> StoreResult Unit
  | [] => Except.ok ()
  | (key, observation) :: rest => do
      match current[key]? with
      | none => pure ()
      | some previous => do
          rejectIf (previous.kind = SequenceKind.publisher) "sequence-invalid"
          rejectIf (observation.counter < previous.counter) "sequence-rollback"
          rejectIf (previous.kind = SequenceKind.authenticated ∧
              observation.counter = previous.counter ∧
              observation.digest ≠ previous.digest)
            "sequence-equivocation"
      checkObservations current rest

/-- The observation repeats the stored record, which is left alone. -/
def repeats (current : SequenceRecords) (key : String)
    (observation : SequenceRecord) : Bool :=
  match current[key]? with
  | none => false
  | some previous =>
      decide (previous.kind = SequenceKind.authenticated ∧
        observation.counter = previous.counter ∧
        observation.digest = previous.digest)

def stageObservations (current : SequenceRecords) :
    List SequenceEntry -> SequenceRecords × List SequenceEntry
  | [] => (current, [])
  | (key, observation) :: rest =>
      if repeats current key observation then stageObservations current rest
      else
        let (staged, changed) :=
          stageObservations (current.insert key observation) rest
        (staged, (key, observation) :: changed)

def recordObservations (prepared : List SequenceEntry) : SequenceUpdate Unit :=
  fun current => do
    checkObservations current prepared
    let (staged, changed) := stageObservations current prepared
    pure (staged, changed, ())

/-- Set one key of an insertion-ordered map. -/
def setPrepared (prepared : List SequenceEntry) (entry : SequenceEntry) :
    List SequenceEntry :=
  if prepared.any (fun found => found.1 == entry.1) then
    prepared.map fun found => if found.1 = entry.1 then entry else found
  else prepared ++ [entry]

def prepareObservations (accountId : String) (prepared : List SequenceEntry) :
    List SequenceObservation -> StoreResult (List SequenceEntry)
  | [] => Except.ok prepared
  | input :: rest => do
      let observation <- validateObservation accountId input
      rejectIf (prepared.any (fun duplicate =>
          duplicate.1 == observation.1 &&
            (duplicate.2.counter != observation.2.counter ||
              duplicate.2.digest != observation.2.digest)) = true)
        "sequence-batch-conflict"
      prepareObservations accountId (setPrepared prepared observation) rest

def recordSequenceBatch (accountId : String) (fault : Option TransactionFault)
    (records : SequenceRecords) (observations : List SequenceObservation) :
    SequenceRecords × StoreResult Unit :=
  match (do
      let account <- validateIdentity accountId
      rejectIf (observations.length > 128) "sequence-invalid"
      prepareObservations account [] observations) with
  | Except.error e => (records, Except.error e)
  | Except.ok [] => (records, Except.ok ())
  | Except.ok prepared =>
      updateSequences fault records (recordObservations prepared)

def initializePublisherUpdate (account owner scope key : String) :
    SequenceUpdate Nat := fun current => do
  rejectIf (current.contains key = true) "publisher-already-initialized"
  let record : SequenceRecord :=
    { accountId := account
      identity := owner
      scope := scope
      kind := SequenceKind.publisher
      counter := 0
      digest := none }
  pure (current.insert key record, [(key, record)], 0)

def nextPublisherUpdate (key : String) : SequenceUpdate Nat := fun current => do
  let record <- okOr (current[key]?.filter fun found =>
    decide (found.kind = SequenceKind.publisher)) "publisher-state-missing"
  let value <- validateCounter record.counter true
  let next <- validateCounter (value + 1) false
  let updated := { record with counter := next }
  pure (current.insert key updated, [(key, updated)], next)

def publisherSequence (accountId : String) (fault : Option TransactionFault)
    (records : SequenceRecords) (operation : PublisherOperation) :
    SequenceRecords × StoreResult Nat :=
  let keyOf (identity controlKey : String) :
      StoreResult (String × String × String × String) := do
    let account <- validateIdentity accountId
    let owner <- validateIdentity identity
    let control <- validateIdentity controlKey
    let scope := publisherScopePrefix ++ control
    let key <- sequenceKey account owner scope
    pure (account, owner, scope, key)
  match operation with
  | PublisherOperation.initializeLocatorPublisher identity controlKey =>
      match keyOf identity controlKey with
      | Except.error e => (records, Except.error e)
      | Except.ok (account, owner, scope, key) =>
          updateSequences fault records
            (initializePublisherUpdate account owner scope key)
  | PublisherOperation.nextLocatorSequence identity controlKey =>
      match keyOf identity controlKey with
      | Except.error e => (records, Except.error e)
      | Except.ok (_, _, _, key) =>
          updateSequences fault records (nextPublisherUpdate key)

/-!
# The store of one account
-/

inductive BrowserSequenceError where
  | counterRange
  | transaction (code : Failure)

def BrowserSequenceError.clientError : BrowserSequenceError -> ClientError
  | BrowserSequenceError.counterRange => ClientError.state
      "browser sequence exceeds the exact JavaScript integer range"
  | BrowserSequenceError.transaction _ =>
      ClientError.state "browser sequence transaction failed closed"

def fromTransaction {α : Type} (result : StoreResult α) :
    Except BrowserSequenceError α :=
  result.mapError BrowserSequenceError.transaction

def floors (records : SequenceRecords) : Floors String (BoundCounter String) :=
  fun key =>
    match records[key]? with
    | some record =>
        match record.kind with
        | SequenceKind.authenticated =>
            (({ counter := record.counter
                digest := record.digest.getD "" } : BoundCounter String) :
              WithBot (BoundCounter String))
        | SequenceKind.publisher => ⊥
    | none => ⊥

def publishers (records : SequenceRecords) (key : String) : Option Nat :=
  match records[key]? with
  | some record =>
      match record.kind with
      | SequenceKind.authenticated => none
      | SequenceKind.publisher => some record.counter
  | none => none

/-- A counter that no update can have written is left, as damage to be found. -/
def eraseCounter (record : SequenceRecord) : SequenceRecord :=
  if record.kind = SequenceKind.publisher ∧ record.counter ≤ jsMaxSafeCounter then
    { record with counter := 0 }
  else record

def eraseCounters (records : SequenceRecords) : SequenceRecords :=
  records.map fun _ record => eraseCounter record

section Store

variable (P : Primitives)

/-- The serialized form of an observation. -/
def wire (observation : AuthenticatedSequenceObservation P) :
    SequenceObservation :=
  { identity := observation.identity
    scope := observation.scope
    counter := observation.counter.toNat
    digest := P.base64Encode observation.digest.val }

def recordBatch (account : String) (fault : Option TransactionFault)
    (records : SequenceRecords)
    (observations : List (AuthenticatedSequenceObservation P)) :
    SequenceRecords × Except BrowserSequenceError Unit :=
  if observations.any (fun observation =>
      decide (observation.counter.toNat > jsMaxSafeCounter)) then
    (records, Except.error BrowserSequenceError.counterRange)
  else
    let (after, result) := recordSequenceBatch account fault records
      (observations.map (wire P))
    (after, fromTransaction result)

def publisherBatch (account : String) (fault : Option TransactionFault)
    (records : SequenceRecords) (operation : PublisherOperation) :
    SequenceRecords × Except BrowserSequenceError Nat :=
  let (after, result) := publisherSequence account fault records operation
  (after, fromTransaction result)

abbrev store (account : String) : SequenceStore P :=
  { State := SequenceRecords
    Error := BrowserSequenceError
    Fault := TransactionFault
    late := fun _ => false
    clientError := BrowserSequenceError.clientError
    tooLarge := BrowserSequenceError.transaction "sequence-limit"
    key := joinKey account
    floors := floors
    publishers := publishers
    recordBatch := recordBatch P account
    publisher := publisherBatch account
    eraseCounters := eraseCounters }

end Store

/-!
# What one transaction does
-/

theorem getElem_insert (records : SequenceRecords) (key other : String)
    (record : SequenceRecord) :
    (records.insert key record)[other]? =
      if key = other then some record else records[other]? := by
  simp only [Std.ExtTreeMap.getElem?_insert, Std.LawfulEqCmp.compare_eq_iff_eq]

/-- The floor that an authenticated record asks for. -/
def floorEntry (entry : SequenceEntry) : String × BoundCounter String :=
  (entry.1, { counter := entry.2.counter, digest := entry.2.digest.getD "" })

theorem floors_insert_authenticated (records : SequenceRecords) (key : String)
    {record : SequenceRecord} (h : record.kind = SequenceKind.authenticated) :
    floors (records.insert key record) =
      (floors records).raise (floorEntry (key, record)) := by
  funext other
  by_cases hkey : other = key
  · subst hkey
    have hself : (floors records).raise (floorEntry (other, record)) other =
        ((floorEntry (other, record)).2 : WithBot (BoundCounter String)) :=
      Floors.raise_self _ _
    rw [hself]
    simp only [floors, getElem_insert, floorEntry, if_true, h]
  · rw [Floors.raise_of_ne _ hkey]
    simp only [floors, getElem_insert, if_neg (Ne.symm hkey)]

theorem publishers_insert_authenticated {records : SequenceRecords}
    {key : String} {record : SequenceRecord}
    (h : record.kind = SequenceKind.authenticated)
    (hnone : publishers records key = none) :
    publishers (records.insert key record) = publishers records := by
  funext other
  by_cases hkey : key = other
  · subst hkey
    rw [hnone]
    simp only [publishers, getElem_insert, if_true, h]
  · simp only [publishers, getElem_insert, if_neg hkey]

theorem floors_insert_publisher {records : SequenceRecords} {key : String}
    {record : SequenceRecord} (h : record.kind = SequenceKind.publisher)
    (hbot : floors records key = ⊥) :
    floors (records.insert key record) = floors records := by
  funext other
  by_cases hkey : key = other
  · subst hkey
    rw [hbot]
    simp only [floors, getElem_insert, if_true, h]
  · simp only [floors, getElem_insert, if_neg hkey]

/-- A checked observation is admitted, and it changes its own record only. -/
theorem stageObservations_singleton {records : SequenceRecords} {key : String}
    {record : SequenceRecord} (hkind : record.kind = SequenceKind.authenticated)
    (h : checkObservations records [(key, record)] = Except.ok ()) :
    (floors records).Admits (floorEntry (key, record)) ∧
      floors (putAll records (stageObservations records [(key, record)]).2) =
        (floors records).raise (floorEntry (key, record)) ∧
      publishers
          (putAll records (stageObservations records [(key, record)]).2) =
        publishers records := by
  have hinsert : repeats records key record = false ->
      putAll records (stageObservations records [(key, record)]).2 =
        records.insert key record := by
    intro hfresh
    unfold stageObservations
    rw [hfresh]
    rfl
  unfold checkObservations at h
  cases hfound : records[key]? with
  | none =>
      have hbot : floors records key = ⊥ := by
        simp only [floors, hfound]
      have hnone : publishers records key = none := by
        simp only [publishers, hfound]
      have hfresh : repeats records key record = false := by
        simp only [repeats, hfound]
      rw [hinsert hfresh]
      refine ⟨?_, floors_insert_authenticated records key hkind,
        publishers_insert_authenticated hkind hnone⟩
      change floors records key ≤ _
      rw [hbot]
      exact bot_le
  | some previous =>
      rw [hfound] at h
      simp only [bind_eq_ok, rejectIf_eq_ok, exists_unit, not_and, not_not,
        Nat.not_lt] at h
      rcases h with ⟨hpublisher, hcounter, hdigest, _⟩
      have hprevious : previous.kind = SequenceKind.authenticated := by
        cases hk : previous.kind with
        | publisher => exact absurd hk hpublisher
        | authenticated => rfl
      have hfloor : floors records key =
          (({ counter := previous.counter
              digest := previous.digest.getD "" } : BoundCounter String) :
            WithBot (BoundCounter String)) := by
        simp only [floors, hfound, hprevious]
      have hnone : publishers records key = none := by
        simp only [publishers, hfound, hprevious]
      by_cases hsame : record.counter = previous.counter
      · have hequal := hdigest hprevious hsame
        have hrepeats : repeats records key record = true := by
          simp only [repeats, hfound]
          exact decide_eq_true ⟨hprevious, hsame, hequal⟩
        have hentry : floors records (floorEntry (key, record)).1 =
            ((floorEntry (key, record)).2 : WithBot (BoundCounter String)) := by
          change floors records key = _
          rw [hfloor]
          simp only [floorEntry, hsame, hequal]
        have hkept : putAll records
            (stageObservations records [(key, record)]).2 = records := by
          unfold stageObservations
          rw [hrepeats]
          rfl
        rw [hkept]
        exact ⟨le_of_eq hentry, (Floors.raise_of_eq hentry).symm, rfl⟩
      · have hfresh : repeats records key record = false := by
          simp only [repeats, hfound]
          apply decide_eq_false
          intro hall
          exact hsame hall.right.left
        rw [hinsert hfresh]
        refine ⟨?_, floors_insert_authenticated records key hkind,
          publishers_insert_authenticated hkind hnone⟩
        change floors records key ≤ _
        rw [hfloor]
        apply WithBot.coe_le_coe.mpr
        exact Or.inl (Nat.lt_of_le_of_ne hcounter (Ne.symm hsame))

/-!
# The store is monotone
-/

section Laws

variable {P : Primitives}

/-- The entry made of one observation, before any transaction. -/
def admitted (P : Primitives) (account : String)
    (observation : AuthenticatedSequenceObservation P) :
    Except BrowserSequenceError SequenceEntry := do
  rejectIf (observation.counter.toNat > jsMaxSafeCounter)
    BrowserSequenceError.counterRange
  fromTransaction (do
    let owner <- validateIdentity account
    validateObservation owner (wire P observation))

theorem fromTransaction_eq_ok {α : Type} {result : StoreResult α} {a : α} :
    fromTransaction result = Except.ok a <-> result = Except.ok a := by
  cases result with
  | ok b => simp [fromTransaction, Except.mapError]
  | error e => simp [fromTransaction, Except.mapError]

theorem validateIdentity_eq_ok {value found : String}
    (h : validateIdentity value = Except.ok found) : found = value := by
  unfold validateIdentity at h
  simp only [bind_eq_ok, exists_unit, pure_eq_ok] at h
  exact h.right.symm

theorem validateScope_eq_ok {scope found : String}
    (h : validateScope scope = Except.ok found) : found = scope := by
  unfold validateScope at h
  simp only [bind_eq_ok, exists_unit, pure_eq_ok] at h
  exact h.right.right.symm

theorem validateCounter_eq_ok {counter found : Nat} {allowZero : Bool}
    (h : validateCounter counter allowZero = Except.ok found) :
    found = counter := by
  unfold validateCounter at h
  simp only [bind_eq_ok, exists_unit, pure_eq_ok] at h
  exact h.right.symm

theorem sequenceKey_eq_ok {accountId identity scope key : String}
    (h : sequenceKey accountId identity scope = Except.ok key) :
    key = joinKey accountId identity scope := by
  unfold sequenceKey at h
  simp only [bind_eq_ok, pure_eq_ok] at h
  rcases h with ⟨account, haccount, owner, howner, checked, hscope, hkey⟩
  rw [← hkey, validateIdentity_eq_ok haccount, validateIdentity_eq_ok howner,
    validateScope_eq_ok hscope]

theorem admitted_entry {account : String}
    {observation : AuthenticatedSequenceObservation P} {entry : SequenceEntry}
    (h : admitted P account observation = Except.ok entry) :
    entry.2.kind = SequenceKind.authenticated ∧
      floorEntry entry = (store P account).entry observation := by
  unfold admitted at h
  simp only [bind_eq_ok, exists_unit, fromTransaction_eq_ok] at h
  rcases h with ⟨_, owner, howner, hrecord⟩
  have heq := validateIdentity_eq_ok howner
  subst heq
  unfold validateObservation at hrecord
  simp only [bind_eq_ok, exists_unit, pure_eq_ok] at hrecord
  rcases hrecord with ⟨identity, hidentity, scope, hscope, _, counter,
    hcounter, digest, hdigest, key, hkey, rfl⟩
  have hjoin := sequenceKey_eq_ok hkey
  rw [validateIdentity_eq_ok hidentity, validateScope_eq_ok hscope] at hjoin
  have hfound : digest = P.base64Encode observation.digest.val := by
    unfold validateDigest at hdigest
    simp only [bind_eq_ok, exists_unit, pure_eq_ok, okOr_eq_ok] at hdigest
    rcases hdigest with ⟨text, htext, _, rfl⟩
    injection htext with htext
    exact htext.symm
  refine ⟨rfl, ?_⟩
  unfold floorEntry SequenceStore.entry
  rw [hjoin, validateCounter_eq_ok hcounter, hfound]
  rfl

theorem recordBatch_singleton (account : String)
    (fault : Option TransactionFault) (records : SequenceRecords)
    (observation : AuthenticatedSequenceObservation P) :
    recordBatch P account fault records [observation] =
      match admitted P account observation with
      | Except.error e => (records, Except.error e)
      | Except.ok entry =>
          ((updateSequences fault records (recordObservations [entry])).1,
            fromTransaction (updateSequences fault records
              (recordObservations [entry])).2) := by
  unfold recordBatch admitted
  by_cases hrange : observation.counter.toNat > jsMaxSafeCounter
  · rw [rejectIf_of hrange, List.any_cons, decide_eq_true hrange]
    rfl
  · rw [rejectIf_of_not hrange, List.any_cons, decide_eq_false hrange]
    have hlength : ¬ ([observation].map (wire P)).length > 128 := by
      rw [List.length_map, List.length_singleton]
      decide
    unfold recordSequenceBatch
    rw [rejectIf_of_not hlength]
    cases validateIdentity account with
    | error e => rfl
    | ok owner =>
        simp only [ok_bind, List.map_cons, List.map_nil, prepareObservations]
        cases validateObservation owner (wire P observation) with
        | error e => rfl
        | ok record => rfl

/-- A transaction that commits had no fault and a staged update. -/
theorem updateSequences_cases {α : Type} {fault : Option TransactionFault}
    {records after : SequenceRecords} {update : SequenceUpdate α}
    {result : StoreResult α}
    (h : updateSequences fault records update = (after, result)) :
    (exists changed value, fault = none ∧
        stageSequences records update = Except.ok (changed, value) ∧
        after = putAll records changed ∧ result = Except.ok value) ∨
      (exists error, result = Except.error error ∧ after = records) := by
  unfold updateSequences at h
  cases fault with
  | some found =>
      injection h with hafter hresult
      exact Or.inr ⟨found.code, hresult.symm, hafter.symm⟩
  | none =>
      cases hstage : stageSequences records update with
      | error e =>
          rw [hstage] at h
          injection h with hafter hresult
          exact Or.inr ⟨e, hresult.symm, hafter.symm⟩
      | ok pair =>
          rcases pair with ⟨changed, value⟩
          rw [hstage] at h
          injection h with hafter hresult
          exact Or.inl ⟨changed, value, rfl, rfl, hafter.symm, hresult.symm⟩

theorem stageSequences_eq_ok {α : Type} {records : SequenceRecords}
    {update : SequenceUpdate α} {changed : List SequenceEntry} {value : α}
    (h : stageSequences records update = Except.ok (changed, value)) :
    exists current, update records = Except.ok (current, changed, value) := by
  unfold stageSequences at h
  simp only [bind_eq_ok, exists_unit, pure_eq_ok] at h
  rcases h with ⟨_, _, ⟨current, found, r⟩, hupdate, _, _, hpair⟩
  injection hpair with hfound hr
  subst hfound hr
  exact ⟨current, hupdate⟩

theorem recorded_of_stage {account : String} {records : SequenceRecords}
    {observation : AuthenticatedSequenceObservation P} {entry : SequenceEntry}
    {changed : List SequenceEntry}
    (hadmitted : admitted P account observation = Except.ok entry)
    (hstage : stageSequences records (recordObservations [entry]) =
      Except.ok (changed, ())) :
    (store P account).Recorded observation records
      (putAll records changed) := by
  rcases admitted_entry hadmitted with ⟨hkind, hentry⟩
  rcases entry with ⟨key, record⟩
  rcases stageSequences_eq_ok hstage with ⟨current, hupdate⟩
  unfold recordObservations at hupdate
  simp only [bind_eq_ok, exists_unit, pure_eq_ok] at hupdate
  rcases hupdate with ⟨hcheck, hpair⟩
  injection hpair with _ hpair
  injection hpair with hchanged _
  rcases stageObservations_singleton hkind hcheck with
    ⟨hadmits, hraised, hpublishers⟩
  rw [hchanged] at hraised hpublishers
  rw [hentry] at hadmits hraised
  exact ⟨hadmits, hraised, hpublishers⟩

theorem recordBatch_cases {account : String} {fault : Option TransactionFault}
    {records after : SequenceRecords}
    {observation : AuthenticatedSequenceObservation P}
    {result : Except BrowserSequenceError Unit}
    (h : recordBatch P account fault records [observation] = (after, result)) :
    (fault = none ∧ result = Except.ok () ∧
        (store P account).Recorded observation records after) ∨
      (exists error, result = Except.error error ∧ after = records) := by
  rw [recordBatch_singleton] at h
  cases hadmitted : admitted P account observation with
  | error e =>
      rw [hadmitted] at h
      injection h with hafter hresult
      exact Or.inr ⟨e, hresult.symm, hafter.symm⟩
  | ok entry =>
      rw [hadmitted] at h
      injection h with hafter hresult
      rcases hupdate : updateSequences fault records
        (recordObservations [entry]) with ⟨left, found⟩
      rw [hupdate] at hafter hresult
      rcases updateSequences_cases hupdate with
        ⟨changed, value, hfault, hstage, hput, hvalue⟩ | ⟨e, herror, hkept⟩
      · refine Or.inl ⟨hfault, ?_, ?_⟩
        · rw [← hresult, hvalue]
          rfl
        · rw [← hafter, hput]
          exact recorded_of_stage hadmitted hstage
      · refine Or.inr ⟨BrowserSequenceError.transaction e, ?_, ?_⟩
        · rw [← hresult, herror]
          rfl
        · rw [← hafter, hkept]

theorem floors_initializePublisherUpdate {records current : SequenceRecords}
    {account owner scope key : String} {changed : List SequenceEntry}
    {value : Nat}
    (h : initializePublisherUpdate account owner scope key records =
      Except.ok (current, changed, value)) :
    floors (putAll records changed) = floors records := by
  unfold initializePublisherUpdate at h
  simp only [bind_eq_ok, rejectIf_eq_ok, exists_unit, pure_eq_ok] at h
  rcases h with ⟨hfresh, hpair⟩
  injection hpair with _ hpair
  injection hpair with hchanged _
  subst hchanged
  have hnone : records[key]? = none :=
    Std.ExtTreeMap.getElem?_eq_none_of_contains_eq_false
      (Bool.eq_false_iff.mpr hfresh)
  apply floors_insert_publisher rfl
  simp only [floors, hnone]

theorem floors_nextPublisherUpdate {records current : SequenceRecords}
    {key : String} {changed : List SequenceEntry} {value : Nat}
    (h : nextPublisherUpdate key records =
      Except.ok (current, changed, value)) :
    floors (putAll records changed) = floors records := by
  unfold nextPublisherUpdate at h
  simp only [bind_eq_ok, okOr_eq_ok, pure_eq_ok, Option.filter_eq_some_iff,
    decide_eq_true_eq] at h
  rcases h with ⟨record, ⟨hfound, hkind⟩, _, _, next, _, hpair⟩
  injection hpair with _ hpair
  injection hpair with hchanged _
  subst hchanged
  have hbot : floors records key = ⊥ := by
    simp only [floors, hfound, hkind]
  have hupdated : { record with counter := next }.kind =
      SequenceKind.publisher := hkind
  exact floors_insert_publisher hupdated hbot

theorem floors_updateSequences {fault : Option TransactionFault}
    {records : SequenceRecords} {update : SequenceUpdate Nat}
    (h : forall current changed value,
      update records = Except.ok (current, changed, value) ->
      floors (putAll records changed) = floors records) :
    floors (updateSequences fault records update).1 = floors records := by
  rcases hupdate : updateSequences fault records update with ⟨after, result⟩
  rcases updateSequences_cases hupdate with
    ⟨changed, value, _, hstage, hput, _⟩ | ⟨_, _, hkept⟩
  · rcases stageSequences_eq_ok hstage with ⟨current, hcurrent⟩
    rw [hput]
    exact h current changed value hcurrent
  · rw [hkept]

/-- A publisher operation moves no floor. -/
theorem floors_publisherSequence (account : String)
    (fault : Option TransactionFault) (records : SequenceRecords)
    (operation : PublisherOperation) :
    floors (publisherSequence account fault records operation).1 =
      floors records := by
  cases operation with
  | initializeLocatorPublisher identity controlKey =>
      unfold publisherSequence
      dsimp only
      split
      · rfl
      · apply floors_updateSequences
        intro current changed value h
        exact floors_initializePublisherUpdate h
  | nextLocatorSequence identity controlKey =>
      unfold publisherSequence
      dsimp only
      split
      · rfl
      · apply floors_updateSequences
        intro current changed value h
        exact floors_nextPublisherUpdate h

/-!
# Publisher counters are not read
-/

theorem getElem_eraseCounters (records : SequenceRecords) (key : String) :
    (eraseCounters records)[key]? = records[key]?.map eraseCounter := by
  simp only [eraseCounters, Std.ExtTreeMap.getElem?_map]

theorem eraseCounter_kind (record : SequenceRecord) :
    (eraseCounter record).kind = record.kind := by
  unfold eraseCounter
  split
  · rfl
  · rfl

theorem eraseCounter_authenticated {record : SequenceRecord}
    (h : record.kind = SequenceKind.authenticated) :
    eraseCounter record = record := by
  unfold eraseCounter
  rw [if_neg]
  intro hall
  rw [h] at hall
  cases hall.left

theorem validateStoredSequence_eraseCounter (key : String)
    (record : SequenceRecord) :
    validateStoredSequence (key, eraseCounter record) =
      validateStoredSequence (key, record) := by
  unfold eraseCounter
  split
  · rename_i hpublisher
    rcases hpublisher with ⟨hkind, hcounter⟩
    -- Zero and a safe counter both pass the check of a publisher counter.
    have hvalid : forall n : Nat, n ≤ jsMaxSafeCounter ->
        validateCounter n (decide (record.kind = SequenceKind.publisher)) =
          Except.ok n := by
      intro n hn
      unfold validateCounter
      rw [rejectIf_of_not]
      · rfl
      · rw [decide_eq_true hkind]
        simp only [if_true, not_or, gt_iff_lt, Nat.not_lt]
        exact ⟨hn, Nat.zero_le n⟩
    unfold validateStoredSequence
    dsimp only
    rw [hvalid record.counter hcounter, hvalid 0 (Nat.zero_le _)]
    rfl
  · rfl

theorem validateRecords_eraseCounter (entries : List SequenceEntry) :
    validateRecords (entries.map fun entry => (entry.1, eraseCounter entry.2)) =
      validateRecords entries := by
  induction entries with
  | nil => rfl
  | cons entry rest ih =>
      rw [List.map_cons]
      unfold validateRecords
      rw [ih, validateStoredSequence_eraseCounter]

theorem checkObservations_eraseCounters (records : SequenceRecords)
    (prepared : List SequenceEntry) :
    checkObservations (eraseCounters records) prepared =
      checkObservations records prepared := by
  induction prepared with
  | nil => rfl
  | cons entry rest ih =>
      rcases entry with ⟨key, observation⟩
      unfold checkObservations
      rw [ih, getElem_eraseCounters]
      cases records[key]? with
      | none => rfl
      | some previous =>
          cases hkind : previous.kind with
          | authenticated =>
              rw [Option.map_some, eraseCounter_authenticated hkind]
          | publisher =>
              rw [Option.map_some]
              dsimp only
              rw [eraseCounter_kind, hkind, rejectIf_of rfl]
              rfl

theorem eraseCounters_insert {records : SequenceRecords} {key : String}
    {record : SequenceRecord} (h : record.kind = SequenceKind.authenticated) :
    eraseCounters (records.insert key record) =
      (eraseCounters records).insert key record := by
  apply Std.ExtTreeMap.ext_getElem?
  intro other
  rw [getElem_eraseCounters, getElem_insert, getElem_insert,
    getElem_eraseCounters]
  split
  · rw [Option.map_some, eraseCounter_authenticated h]
  · rfl

theorem repeats_eraseCounters (records : SequenceRecords) (key : String)
    (record : SequenceRecord) :
    repeats (eraseCounters records) key record = repeats records key record := by
  unfold repeats
  rw [getElem_eraseCounters]
  cases records[key]? with
  | none => rfl
  | some previous =>
      cases hkind : previous.kind with
      | authenticated =>
          rw [Option.map_some, eraseCounter_authenticated hkind]
      | publisher =>
          rw [Option.map_some]
          simp [eraseCounter_kind, hkind]

theorem stageObservations_eraseCounters (records : SequenceRecords)
    {key : String} {record : SequenceRecord}
    (h : record.kind = SequenceKind.authenticated) :
    stageObservations (eraseCounters records) [(key, record)] =
      (eraseCounters (stageObservations records [(key, record)]).1,
        (stageObservations records [(key, record)]).2) := by
  unfold stageObservations stageObservations
  rw [repeats_eraseCounters]
  split
  · rfl
  · rw [eraseCounters_insert h]

/-- The verdict of a transaction, without the records it changes. -/
def transactionVerdict {α : Type} (records : SequenceRecords)
    (update : SequenceUpdate α) : StoreResult α :=
  (stageSequences records update).map Prod.snd

theorem updateSequences_snd {α : Type} (records : SequenceRecords)
    (update : SequenceUpdate α) :
    (updateSequences none records update).2 =
      transactionVerdict records update := by
  unfold updateSequences transactionVerdict
  dsimp only
  cases stageSequences records update with
  | error e => rfl
  | ok pair => rfl

theorem transactionVerdict_eraseCounters (records : SequenceRecords)
    {key : String} {record : SequenceRecord}
    (hkind : record.kind = SequenceKind.authenticated) :
    transactionVerdict records (recordObservations [(key, record)]) =
        transactionVerdict (eraseCounters records)
          (recordObservations [(key, record)]) ∨
      transactionVerdict records (recordObservations [(key, record)]) =
        Except.error "sequence-limit" ∨
      transactionVerdict (eraseCounters records)
        (recordObservations [(key, record)]) =
          Except.error "sequence-limit" := by
  have hsize : forall found : SequenceRecords,
      (eraseCounters found).size = found.size :=
    fun _ => Std.ExtTreeMap.size_map
  have hrecords : validateRecords (eraseCounters records).toList =
      validateRecords records.toList := by
    unfold eraseCounters
    rw [Std.ExtTreeMap.toList_map]
    exact validateRecords_eraseCounter records.toList
  unfold transactionVerdict stageSequences recordObservations
  rw [hsize, hrecords, checkObservations_eraseCounters,
    stageObservations_eraseCounters records hkind]
  cases rejectIf (records.size > maxSequenceEntries) "storage-tampered" with
  | error e => exact Or.inl rfl
  | ok u =>
      cases validateRecords records.toList with
      | error e => exact Or.inl rfl
      | ok u =>
          cases checkObservations records [(key, record)] with
          | error e => exact Or.inl rfl
          | ok u =>
              rcases stageObservations records [(key, record)] with
                ⟨current, changed⟩
              simp only [ok_bind, pure, Except.pure, hsize]
              cases rejectIf (current.size > maxSequenceEntries)
                  "sequence-limit" with
              | error e => exact Or.inl rfl
              | ok u =>
                  unfold estimateSequenceBytes rejectIf
                  split
                  · exact Or.inr (Or.inl rfl)
                  · split
                    · exact Or.inr (Or.inr rfl)
                    · exact Or.inl rfl

theorem store_monotone (account : String) : (store P account).Monotone := by
  constructor
  case recorded =>
    intro fault before after observation h
    change recordBatch P account fault before [observation] =
      (after, Except.ok ()) at h
    rcases recordBatch_cases h with ⟨_, _, hrecorded⟩ | ⟨_, herror, _⟩
    · exact hrecorded
    · cases herror
  case failed =>
    intro fault before after observation error h
    change recordBatch P account fault before [observation] =
      (after, Except.error error) at h
    rcases recordBatch_cases h with ⟨_, hok, _⟩ | ⟨_, _, hafter⟩
    · cases hok
    · exact Or.inl hafter
  case declined =>
    intro fault before after observation result hdeclines h
    change recordBatch P account fault before [observation] =
      (after, result) at h
    rcases recordBatch_cases h with ⟨hfault, hok, _⟩ | ⟨e, herror, hafter⟩
    · exfalso
      apply hdeclines
      change (recordBatch P account none before [observation]).2 = Except.ok ()
      rw [hfault] at h
      rw [h, hok]
    · constructor
      · exact hafter
      · rw [herror]
        intro hok
        cases hok
  case published =>
    intro fault before after operation result h
    change publisherBatch account fault before operation = (after, result) at h
    unfold publisherBatch at h
    injection h with hafter _
    rw [← hafter]
    exact floors_publisherSequence account fault before operation
  case blind =>
    intro state observation
    change (store P account).Agree
      (recordBatch P account none state [observation]).2
      (recordBatch P account none (eraseCounters state) [observation]).2
    rw [recordBatch_singleton, recordBatch_singleton]
    cases hadmitted : admitted P account observation with
    | error e => exact Or.inl rfl
    | ok entry =>
        rcases entry with ⟨key, record⟩
        dsimp only
        rw [updateSequences_snd, updateSequences_snd]
        rcases transactionVerdict_eraseCounters state
            (admitted_entry hadmitted).left with hsame | hlarge | hlarge
        · rw [hsame]
          exact Or.inl rfl
        · rw [hlarge]
          exact Or.inr (Or.inl rfl)
        · rw [hlarge]
          exact Or.inr (Or.inr rfl)

end Laws

end Browser
end Pubky2Pubky
