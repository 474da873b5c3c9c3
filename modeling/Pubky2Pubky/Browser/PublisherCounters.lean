import Pubky2Pubky.Browser.BrowserStore

/-!
# Publisher counters of stored devices

A device is stored together with its publisher counter. Whatever the tabs do, the
counter is there as long as the device is, it counts the numbers that have been
allocated, and it starts again only when the account has been removed.
-/

namespace Pubky2Pubky
namespace Browser

open Foundation Client Protocol

/-!
# One transaction on the counters
-/

section Counters

variable {account : String} {records : SequenceRecords}

theorem publishers_eq_some {key : String} {counter : Nat} :
    publishers records key = some counter <->
      exists record, records[key]? = some record ∧
        record.kind = SequenceKind.publisher ∧ record.counter = counter := by
  unfold publishers
  cases hfound : records[key]? with
  | none => simp
  | some record =>
      cases hkind : record.kind <;> simp [hkind]

theorem publishers_insert {key : String} {record : SequenceRecord}
    (hkind : record.kind = SequenceKind.publisher) :
    publishers (records.insert key record) =
      Function.update (publishers records) key (some record.counter) := by
  funext other
  unfold publishers
  rw [getElem_insert]
  by_cases hkey : key = other
  · subst hkey
    rw [if_pos rfl, Function.update_self]
    dsimp only
    rw [hkind]
  · rw [if_neg hkey, Function.update_of_ne (Ne.symm hkey)]

theorem validateObservation_observed (haccount : isZ32 account = true)
    {input : SequenceObservation} {entry : SequenceEntry}
    (h : validateObservation account input = Except.ok entry) : Observed entry := by
  unfold validateObservation at h
  simp only [bind_eq_ok, exists_unit, pure_eq_ok, rejectIf_eq_ok] at h
  rcases h with ⟨identity, hidentity, scope, hscope, hreserved, counter, hcounter,
    digest, hdigest, key, hkey, rfl⟩
  have hnamed := validateIdentity_eq_ok hidentity
  have hscoped := validateScope_eq_ok hscope
  have hcounted := validateCounter_eq_ok hcounter
  subst hnamed hscoped hcounted
  unfold validateIdentity at hidentity
  unfold validateScope at hscope
  unfold validateCounter at hcounter
  unfold validateDigest at hdigest
  simp only [bind_eq_ok, exists_unit, pure_eq_ok, rejectIf_eq_ok, okOr_eq_ok,
    Bool.not_eq_false, not_or, not_and, gt_iff_lt, Nat.not_lt]
    at hidentity hscope hcounter hdigest
  rcases hdigest with ⟨text, _, hformat, rfl⟩
  constructor
  case kind => rfl
  case wellformed =>
    constructor
    case account => exact haccount
    case identity => exact hidentity.left
    case scope => exact hscope.left
    case kind => exact iff_of_false SequenceKind.noConfusion hreserved
    case control => exact fun hprefix => absurd hprefix hreserved
    case bounded => exact hcounter.left.left
    case positive => exact fun _ => hcounter.left.right
    case digested => exact fun _ => ⟨_, rfl, hformat⟩
    case undigested => exact SequenceKind.noConfusion
    case key => exact sequenceKey_eq_ok hkey

theorem prepareObservations_observed (haccount : isZ32 account = true)
    {inputs : List SequenceObservation} {prepared result : List SequenceEntry}
    (hprepared : forall entry, entry ∈ prepared -> Observed entry)
    (h : prepareObservations account prepared inputs = Except.ok result) :
    forall entry, entry ∈ result -> Observed entry := by
  induction inputs generalizing prepared with
  | nil =>
      injection h with h
      rw [← h]
      exact hprepared
  | cons input rest ih =>
      unfold prepareObservations at h
      simp only [bind_eq_ok, exists_unit] at h
      rcases h with ⟨observation, hobservation, _, hrest⟩
      apply ih _ hrest
      intro entry hentry
      rcases mem_setPrepared hentry with heq | hold
      · rw [heq]
        exact validateObservation_observed haccount hobservation
      · exact hprepared entry hold

theorem publishers_of_recorded {after : SequenceRecords} {entries : List SequenceEntry}
    (hobserved : forall entry, entry ∈ entries -> Observed entry)
    (hadmits : forall entry, entry ∈ entries ->
      (ledger records).Admits (floorEntry entry))
    (h : Recorded records after entries) : publishers after = publishers records := by
  funext key
  apply Option.ext
  intro counter
  rw [publishers_eq_some, publishers_eq_some]
  constructor
  · rintro ⟨record, hfound, hkind, hcounter⟩
    rcases h.written key record hfound with hbefore | hnew
    · exact ⟨record, hbefore, hkind, hcounter⟩
    · have hauthenticated := (hobserved _ hnew).kind
      rw [hkind] at hauthenticated
      cases hauthenticated
  · rintro ⟨record, hfound, hkind, hcounter⟩
    have hfree : forall entry, entry ∈ entries -> entry.1 ≠ key := by
      rintro entry hentry rfl
      have hslot : ledger records entry.1 = some (Slot.counter record.counter) := by
        change (records[entry.1]?).map SequenceRecord.slot = _
        rw [hfound, Option.map_some]
        unfold SequenceRecord.slot
        rw [hkind]
      exact Ledger.not_admits_of_counter hslot (hadmits entry hentry)
    rw [h.others key hfree]
    exact ⟨record, hfound, hkind, hcounter⟩

/-- A batch of observations leaves every publisher counter alone. -/
theorem recordSequenceBatch_publishers (h : Sound records)
    (fault : Option TransactionFault) (inputs : List SequenceObservation) :
    Sound (recordSequenceBatch account fault records inputs).1 ∧
      publishers (recordSequenceBatch account fault records inputs).1 =
        publishers records := by
  unfold recordSequenceBatch
  split
  · exact ⟨h, rfl⟩
  · exact ⟨h, rfl⟩
  · next prepared _ hprepared =>
      simp only [bind_eq_ok, exists_unit] at hprepared
      rcases hprepared with ⟨owner, howner, _, hprepare⟩
      have hz32 : isZ32 account = true := by
        unfold validateIdentity at howner
        simp only [bind_eq_ok, exists_unit, rejectIf_eq_ok, Bool.not_eq_false]
          at howner
        exact howner.left
      rw [validateIdentity_eq_ok howner] at hprepare
      have hobserved := prepareObservations_observed hz32
        (fun _ hmem => absurd hmem List.not_mem_nil) hprepare
      cases fault with
      | some found => exact ⟨h, rfl⟩
      | none =>
          rcases recordObservations_cases h hobserved with
            ⟨hall, ⟨after, hafter, hupdate⟩ | hlimit⟩ | ⟨_, e, hrejected⟩
          · rw [hupdate]
            exact ⟨hafter.sound, publishers_of_recorded hobserved hall hafter⟩
          · rw [hlimit]
            exact ⟨h, rfl⟩
          · rw [hrejected]
            exact ⟨h, rfl⟩

/-- What a transaction on the counters does to them. -/
inductive CounterEffect (records after : SequenceRecords) :
    SequenceOperation -> StoreResult Nat -> Prop where
  | kept {operation : SequenceOperation} {result : StoreResult Nat}
      (hsame : publishers after = publishers records)
      (hnone : Stage.commit result (Stage.sequences operation) = none) :
      CounterEffect records after operation result
  | started {accountId identity control : String}
      (haccount : isZ32 accountId = true) (hidentity : isZ32 identity = true)
      (hcontrol : isZ32 control = true)
      (hfree : records[publisherRecordKey accountId identity control]? = none)
      (hafter : publishers after = Function.update (publishers records)
        (publisherRecordKey accountId identity control) (some 0)) :
      CounterEffect records after
        (SequenceOperation.initializePublisher accountId identity control)
        (Except.ok 0)
  | raised {accountId identity control : String} {counter : Nat}
      (haccount : isZ32 accountId = true) (hidentity : isZ32 identity = true)
      (hcontrol : isZ32 control = true)
      (hfound : publishers records (publisherRecordKey accountId identity control) =
        some counter)
      (hafter : publishers after = Function.update (publishers records)
        (publisherRecordKey accountId identity control) (some (counter + 1))) :
      CounterEffect records after
        (SequenceOperation.nextPublisher accountId identity control)
        (Except.ok (counter + 1))

theorem isZ32_of_validate {value found : String}
    (h : validateIdentity value = Except.ok found) : isZ32 value = true := by
  unfold validateIdentity at h
  simp only [bind_eq_ok, exists_unit, rejectIf_eq_ok, Bool.not_eq_false] at h
  exact h.left

/-- A publisher operation with a name that is none fails before its transaction. -/
theorem publisherSequence_invalid {identity control : String}
    {fault : Option TransactionFault} {operation : PublisherOperation}
    (hoperation : operation =
        PublisherOperation.initializeLocatorPublisher identity control ∨
      operation = PublisherOperation.nextLocatorSequence identity control)
    (h : ¬ (isZ32 account = true ∧ isZ32 identity = true ∧ isZ32 control = true)) :
    exists error, publisherSequence account fault records operation =
      (records, Except.error error) := by
  have hkey : exists error, (do
      let found <- validateIdentity account
      let owner <- validateIdentity identity
      let named <- validateIdentity control
      let scope := publisherScopePrefix ++ named
      let key <- sequenceKey found owner scope
      pure (found, owner, scope, key) :
        StoreResult (String × String × String × String)) = Except.error error := by
    cases haccount : validateIdentity account with
    | error e => exact ⟨e, rfl⟩
    | ok found =>
        cases hidentity : validateIdentity identity with
        | error e => exact ⟨e, rfl⟩
        | ok owner =>
            cases hcontrol : validateIdentity control with
            | error e => exact ⟨e, rfl⟩
            | ok named =>
                exact absurd ⟨isZ32_of_validate haccount,
                  isZ32_of_validate hidentity, isZ32_of_validate hcontrol⟩ h
  rcases hkey with ⟨e, hkey⟩
  refine ⟨e, ?_⟩
  unfold publisherSequence
  dsimp only
  rcases hoperation with rfl | rfl
  · dsimp only
    rw [hkey]
  · dsimp only
    rw [hkey]

theorem transaction_counters (h : Sound records) (fault : Option TransactionFault)
    (operation : SequenceOperation) :
    Sound (operation.transaction fault records).1 ∧
      CounterEffect records (operation.transaction fault records).1 operation
        (operation.transaction fault records).2 := by
  cases operation with
  | recordBatch accountId observations =>
      have hrecorded := @recordSequenceBatch_publishers accountId records h fault
        observations
      exact ⟨hrecorded.left, CounterEffect.kept hrecorded.right rfl⟩
  | initializePublisher accountId identity control =>
      unfold SequenceOperation.transaction
      dsimp only
      by_cases hnames : isZ32 accountId = true ∧ isZ32 identity = true ∧
          isZ32 control = true
      · rcases hnames with ⟨haccount, hidentity, hcontrol⟩
        rw [publisherSequence_initialized haccount hidentity hcontrol]
        cases fault with
        | some found => exact ⟨h, CounterEffect.kept rfl rfl⟩
        | none =>
            rcases initializePublisherUpdate_cases h haccount hidentity hcontrol with
              ⟨hfree, ⟨hsound, hupdate⟩ | hlimit⟩ | ⟨_, hrejected⟩
            · rw [hupdate]
              exact ⟨hsound, CounterEffect.started haccount hidentity hcontrol hfree
                (publishers_insert rfl)⟩
            · rw [hlimit]
              exact ⟨h, CounterEffect.kept rfl rfl⟩
            · rw [hrejected]
              exact ⟨h, CounterEffect.kept rfl rfl⟩
      · rcases publisherSequence_invalid (Or.inl rfl) hnames with ⟨e, hrejected⟩
        rw [hrejected]
        exact ⟨h, CounterEffect.kept rfl rfl⟩
  | nextPublisher accountId identity control =>
      unfold SequenceOperation.transaction
      dsimp only
      by_cases hnames : isZ32 accountId = true ∧ isZ32 identity = true ∧
          isZ32 control = true
      · rcases hnames with ⟨haccount, hidentity, hcontrol⟩
        rw [publisherSequence_next haccount hidentity hcontrol]
        cases fault with
        | some found => exact ⟨h, CounterEffect.kept rfl rfl⟩
        | none =>
            rcases @nextPublisherUpdate_cases records
              (publisherRecordKey accountId identity control) h with
              ⟨record, hfound, hkind, _, ⟨hsound, hupdate⟩ | hlimit⟩ | ⟨_, e, hrejected⟩
            · rw [hupdate]
              exact ⟨hsound, CounterEffect.raised haccount hidentity hcontrol
                (publishers_eq_some.mpr ⟨record, hfound, hkind, rfl⟩)
                (publishers_insert hkind)⟩
            · rw [hlimit]
              exact ⟨h, CounterEffect.kept rfl rfl⟩
            · rw [hrejected]
              exact ⟨h, CounterEffect.kept rfl rfl⟩
      · rcases publisherSequence_invalid (Or.inr rfl) hnames with ⟨e, hrejected⟩
        rw [hrejected]
        exact ⟨h, CounterEffect.kept rfl rfl⟩

end Counters

/-!
# One transaction on the database
-/

section Effects

/-- The names in a write have been checked. -/
def Write.Named : Write -> Prop
  | identity value => isZ32 value.identity = true
  | newDevice account control _ => isZ32 account = true ∧ isZ32 control = true
  | replacedDevice account _ control _ => isZ32 account = true ∧ isZ32 control = true

def Stage.Named : Stage -> Prop
  | readEncryptionKey pending => pending.Named
  | addEncryptionKey pending _ => pending.Named
  | readWinner pending => pending.Named
  | encrypt pending _ => pending.Named
  | write pending _ => pending.Named
  | _ => True

theorem prepare_named {operation : BrowserOperation} {stage : Stage}
    (h : operation.prepare = Except.ok stage) : stage.Named := by
  cases operation with
  | ensureGrantKey keyId =>
      unfold BrowserOperation.prepare at h
      simp only [bind_eq_ok, pure_eq_ok] at h
      rcases h with ⟨resolved, _, rfl⟩
      trivial
  | deleteGrantKey keyId =>
      unfold BrowserOperation.prepare at h
      simp only [bind_eq_ok, pure_eq_ok] at h
      rcases h with ⟨resolved, _, rfl⟩
      trivial
  | saveIdentity record =>
      unfold BrowserOperation.prepare validateIdentityRecord at h
      simp only [bind_eq_ok, pure_eq_ok, exists_unit] at h
      rcases h with ⟨value, ⟨_, hidentity, _, _, _, _, _, _, _, _, _, _, _, rfl⟩, rfl⟩
      exact isZ32_of_validate hidentity
  | saveNewDeviceState identity controlKey plaintext =>
      unfold BrowserOperation.prepare at h
      simp only [bind_eq_ok, pure_eq_ok] at h
      rcases h with ⟨account, haccount, control, hcontrol, state, _, rfl⟩
      rw [validateIdentity_eq_ok haccount, validateIdentity_eq_ok hcontrol]
      exact ⟨isZ32_of_validate haccount, isZ32_of_validate hcontrol⟩
  | replaceDeviceState identity oldControlKey newControlKey plaintext =>
      unfold BrowserOperation.prepare at h
      simp only [bind_eq_ok, pure_eq_ok, exists_unit] at h
      rcases h with ⟨account, haccount, old, _, control, hcontrol, _, state, _, rfl⟩
      rw [validateIdentity_eq_ok haccount, validateIdentity_eq_ok hcontrol]
      exact ⟨isZ32_of_validate haccount, isZ32_of_validate hcontrol⟩
  | removeIdentity identity =>
      unfold BrowserOperation.prepare at h
      simp only [bind_eq_ok, pure_eq_ok] at h
      rcases h with ⟨account, _, rfl⟩
      trivial
  | sequences operation =>
      cases h
      trivial

/-- What one transaction does to the devices and to their counters. -/
inductive DeviceEffect (before after : Database) : Option Commit -> Prop where
  | kept (hdevices : after.deviceStates = before.deviceStates)
      (hcounters : publishers after.sequences = publishers before.sequences) :
      DeviceEffect before after none
  | started {account identity control : String}
      (haccount : isZ32 account = true) (hidentity : isZ32 identity = true)
      (hcontrol : isZ32 control = true)
      (hfree : publishers before.sequences
        (publisherRecordKey account identity control) = none)
      (hdevices : after.deviceStates = before.deviceStates)
      (hcounters : publishers after.sequences =
        Function.update (publishers before.sequences)
          (publisherRecordKey account identity control) (some 0)) :
      DeviceEffect before after none
  | raised {account identity control : String} {counter : Nat}
      (haccount : isZ32 account = true) (hidentity : isZ32 identity = true)
      (hcontrol : isZ32 control = true)
      (hfound : publishers before.sequences
        (publisherRecordKey account identity control) = some counter)
      (hdevices : after.deviceStates = before.deviceStates)
      (hcounters : publishers after.sequences =
        Function.update (publishers before.sequences)
          (publisherRecordKey account identity control) (some (counter + 1))) :
      DeviceEffect before after
        (some (Commit.allocated account identity control (counter + 1)))
  | saved {account : String} {record : DeviceRecord}
      (haccount : isZ32 account = true) (hcontrol : isZ32 record.controlKey = true)
      (hfree : publishers before.sequences
        (publisherRecordKey account account record.controlKey) = none)
      (hdevices : after.deviceStates = before.deviceStates.insert account record)
      (hcounters : publishers after.sequences =
        Function.update (publishers before.sequences)
          (publisherRecordKey account account record.controlKey) (some 0)) :
      DeviceEffect before after (some (Commit.saved account record.controlKey))
  | removed (account : String)
      (hdevices : after.deviceStates = before.deviceStates.erase account)
      (hsequences : after.sequences = before.sequences.filter fun _ record =>
        decide (record.accountId ≠ account)) :
      DeviceEffect before after (some (Commit.removed account))

theorem publishers_of_free {records : SequenceRecords} {key : String}
    (h : records[key]? = none) : publishers records key = none := by
  unfold publishers
  rw [h]

theorem sound_filter {records : SequenceRecords} (h : Sound records)
    (keeps : String -> SequenceRecord -> Bool) : Sound (records.filter keeps) := by
  constructor
  · intro key record hfound
    rw [Std.ExtTreeMap.getElem?_filter', Option.filter_eq_some_iff] at hfound
    exact h.wellformed key record hfound.left
  · exact Nat.le_trans Std.ExtTreeMap.size_filter_le_size h.size

theorem sound_newPublisher {records : SequenceRecords} {account control : String}
    (h : Sound records) (haccount : isZ32 account = true)
    (hcontrol : isZ32 control = true)
    (hcandidate : validateSequenceCandidate records (newPublisher account control) =
      Except.ok ()) :
    Sound (records.insert (newPublisher account control).1
      (newPublisher account control).2) := by
  unfold validateSequenceCandidate at hcandidate
  simp only [bind_eq_ok, exists_unit, rejectIf_eq_ok, ge_iff_le, Nat.not_le]
    at hcandidate
  exact h.insert (wellformed_publisherRecord haccount haccount hcontrol (Nat.zero_le _))
    (Nat.le_trans Std.ExtTreeMap.size_insert_le (Nat.succ_le_of_lt hcandidate.left))

variable {database after : Database} {encrypted : Encrypted}

theorem not_contains {α : Type} {table : Table α} {key : String}
    (h : ¬ table.contains key = true) : table[key]? = none :=
  Std.ExtTreeMap.getElem?_eq_none_of_contains_eq_false (Bool.eq_false_iff.mpr h)

/-- A device is put with a counter of its own, or nothing is written. -/
theorem putDevice_effect {account control : String} (h : Sound database.sequences)
    (haccount : isZ32 account = true) (hcontrol : isZ32 control = true)
    (hfree : ¬ database.sequences.contains (newPublisher account control).1 = true)
    (hcandidate : validateSequenceCandidate database.sequences
      (newPublisher account control) = Except.ok ()) :
    Sound (database.putDevice account control encrypted).sequences ∧
      DeviceEffect database (database.putDevice account control encrypted)
        (some (Commit.saved account control)) := by
  constructor
  · exact sound_newPublisher h haccount hcontrol hcandidate
  · exact @DeviceEffect.saved _ _ account (deviceRecord account control encrypted)
      haccount hcontrol (publishers_of_free (not_contains hfree)) rfl (publishers_insert rfl)

theorem write_effect {write : Write} {clock : Clock} (h : Sound database.sequences)
    (hnamed : write.Named)
    (hwritten : write.transaction database clock encrypted = Except.ok after) :
    Sound after.sequences ∧ DeviceEffect database after
      ((Stage.write write encrypted).commit (Except.ok 0)) := by
  cases write with
  | identity value =>
      unfold Write.transaction saveIdentity at hwritten
      simp only [bind_eq_ok, pure_eq_ok] at hwritten
      rcases hwritten with ⟨grantKeys, _, rfl⟩
      exact ⟨h, DeviceEffect.kept rfl rfl⟩
  | newDevice account control state =>
      unfold Write.transaction saveNewDeviceState at hwritten
      simp only [bind_eq_ok, pure_eq_ok, exists_unit, rejectIf_eq_ok, not_or]
        at hwritten
      rcases hwritten with ⟨⟨_, hfree⟩, _, hcandidate, rfl⟩
      exact putDevice_effect h hnamed.left hnamed.right hfree hcandidate
  | replacedDevice account oldControl newControl state =>
      unfold Write.transaction replaceDeviceState at hwritten
      simp only [bind_eq_ok, pure_eq_ok, exists_unit, rejectIf_eq_ok, not_or]
        at hwritten
      rcases hwritten with ⟨old, _, ⟨_, _, _, hfree⟩, hcandidate, rfl⟩
      exact putDevice_effect h hnamed.left hnamed.right hfree hcandidate

theorem commit_error (stage : Stage) (error : Failure) :
    stage.commit (Except.error error) = none := by
  cases stage with
  | write pending encrypted => cases pending <;> rfl
  | sequences operation => cases operation <;> rfl
  | _ => rfl

/-- What an operation has done when its transaction has run. -/
structure Advanced (before : Database) (stage : Stage)
    (outcome : Database × Progress) : Prop where
  sound : Sound outcome.1.sequences
  effect : DeviceEffect before outcome.1 (outcome.2.commit stage)
  named (later : Stage) : outcome.2 = Progress.continues later -> later.Named

theorem advanced_error {stage : Stage} (h : Sound database.sequences)
    (error : Failure) :
    Advanced database stage (database, Progress.ends (Except.error error)) where
  sound := h
  effect := by
    change DeviceEffect database database (stage.commit (Except.error error))
    rw [commit_error]
    exact DeviceEffect.kept rfl rfl
  named later hlater := nomatch hlater

theorem advanced_continues {stage later : Stage} (h : Sound after.sequences)
    (hdevices : after.deviceStates = database.deviceStates)
    (hsequences : after.sequences = database.sequences) (hnamed : later.Named) :
    Advanced database stage (after, Progress.continues later) where
  sound := h
  effect := DeviceEffect.kept hdevices (by rw [hsequences])
  named found hfound := by
    injection hfound with hfound
    rw [← hfound]
    exact hnamed

theorem advanced_unlessFault {stage : Stage} {fault : Option TransactionFault}
    {body : Database × Progress} (h : Sound database.sequences)
    (hbody : Advanced database stage body) :
    Advanced database stage (unlessFault fault database body) := by
  cases fault with
  | none => exact hbody
  | some found => exact advanced_error h found.code

theorem advanced_done {stage : Stage} (h : Sound after.sequences)
    (heffect : DeviceEffect database after (stage.commit (Except.ok 0))) :
    Advanced database stage (after, Progress.ends (Except.ok 0)) :=
  ⟨h, heffect, nofun⟩

theorem advanced_sealed {C : WebCrypto} {origin : String} {write : Write} {key : CryptoKey}
    {iv : Iv} (h : Sound database.sequences) (hnamed : write.Named) :
    Advanced database (Stage.encrypt write key)
      (database, write.sealed C origin key iv) := by
  unfold Write.sealed
  split
  · exact advanced_error h _
  · exact advanced_continues h rfl rfl hnamed

theorem advance_effect {C : WebCrypto} {origin : String} {fresh : CryptoKey} {iv : Iv}
    {clock : Clock} {fault : Option TransactionFault} {stage : Stage}
    (h : Sound database.sequences) (hnamed : stage.Named) :
    Advanced database stage (advance C origin fresh iv clock fault database stage) := by
  cases stage with
  | readGrantKey keyId =>
      apply advanced_unlessFault h
      split
      · exact advanced_done h (DeviceEffect.kept rfl rfl)
      · exact advanced_continues h rfl rfl trivial
  | addGrantKey keyId pair =>
      apply advanced_unlessFault h
      split
      · exact advanced_error h _
      · exact advanced_done h (DeviceEffect.kept rfl rfl)
  | deleteGrantKey keyId =>
      exact advanced_unlessFault h (advanced_done h (DeviceEffect.kept rfl rfl))
  | readEncryptionKey pending =>
      apply advanced_unlessFault h
      split
      · exact advanced_continues h rfl rfl hnamed
      · exact advanced_continues h rfl rfl hnamed
  | addEncryptionKey pending generated =>
      unfold advance
      dsimp only
      split
      · exact advanced_continues h rfl rfl hnamed
      · exact advanced_continues h rfl rfl hnamed
  | readWinner pending =>
      apply advanced_unlessFault h
      split
      · exact advanced_continues h rfl rfl hnamed
      · exact advanced_error h _
  | encrypt pending key => exact advanced_sealed h hnamed
  | write pending encrypted =>
      apply advanced_unlessFault h
      split
      · exact advanced_error h _
      · next written hwritten =>
          rcases write_effect h hnamed hwritten with ⟨hsound, heffect⟩
          exact advanced_done hsound heffect
  | readRemoved account =>
      apply advanced_unlessFault h
      split
      · exact advanced_error h _
      · exact advanced_continues h rfl rfl trivial
  | remove account keyId =>
      exact advanced_unlessFault h (advanced_done (sound_filter h _)
        (DeviceEffect.removed account rfl rfl))
  | sequences operation =>
      rcases transaction_counters h fault operation with ⟨hsound, heffect⟩
      refine ⟨hsound, ?_, nofun⟩
      change DeviceEffect database _ (Stage.commit
        (operation.transaction fault database.sequences).2 (Stage.sequences operation))
      revert heffect
      generalize (operation.transaction fault database.sequences).2 = result
      generalize hafter : (operation.transaction fault database.sequences).1 = sequences
      intro heffect
      have hdatabase : (advance C origin fresh iv clock fault database
          (Stage.sequences operation)).1 =
            { database with sequences := sequences } := by
        rw [← hafter]
        rfl
      rw [hdatabase]
      cases heffect with
      | kept hsame hnone =>
          rw [hnone]
          exact DeviceEffect.kept rfl hsame
      | started haccount hidentity hcontrol hfree hcounters =>
          exact DeviceEffect.started haccount hidentity hcontrol
            (publishers_of_free hfree) rfl hcounters
      | raised haccount hidentity hcontrol hfound hcounters =>
          exact DeviceEffect.raised haccount hidentity hcontrol hfound rfl hcounters

end Effects

/-!
# Since the last removal
-/

/-- What is picked from the commits behind the last removal of an account. -/
def sinceRemoval {α : Type} (account : String) (pick : Commit -> Option α)
    (log : List Commit) : List α :=
  log.foldl (fun found commit =>
    if commit = Commit.removed account then [] else found ++ (pick commit).toList) []

/-- The control keys of the devices that have been stored for an account. -/
def savedControls (account : String) (log : List Commit) : List String :=
  sinceRemoval account
    (fun
      | Commit.saved other control => if other = account then some control else none
      | _ => none) log

/-- The numbers that have been allocated from a publisher counter. -/
def allocatedNumbers (account identity control : String) (log : List Commit) :
    List Nat :=
  sinceRemoval account
    (fun
      | Commit.allocated other owner key number =>
          if other = account ∧ owner = identity ∧ key = control then some number
          else none
      | _ => none) log

section Logs

variable {α : Type} {account identity control : String} {log : List Commit}

theorem sinceRemoval_append (account : String) (pick : Commit -> Option α)
    (log : List Commit) (commit : Commit) :
    sinceRemoval account pick (log ++ [commit]) =
      if commit = Commit.removed account then []
      else sinceRemoval account pick log ++ (pick commit).toList := by
  unfold sinceRemoval
  rw [List.foldl_append]
  rfl

theorem savedControls_saved (account other control : String) (log : List Commit) :
    savedControls account (log ++ [Commit.saved other control]) =
      savedControls account log ++ (if other = account then [control] else []) := by
  unfold savedControls
  rw [sinceRemoval_append, if_neg nofun]
  dsimp only
  by_cases heq : other = account
  · rw [if_pos heq, if_pos heq]
    rfl
  · rw [if_neg heq, if_neg heq]
    rfl

theorem savedControls_allocated (account other owner key : String) (number : Nat)
    (log : List Commit) :
    savedControls account (log ++ [Commit.allocated other owner key number]) =
      savedControls account log := by
  unfold savedControls
  rw [sinceRemoval_append, if_neg nofun]
  exact List.append_nil _

theorem savedControls_removed (account other : String) (log : List Commit) :
    savedControls account (log ++ [Commit.removed other]) =
      if other = account then [] else savedControls account log := by
  unfold savedControls
  rw [sinceRemoval_append]
  by_cases heq : other = account
  · rw [if_pos (congrArg Commit.removed heq), if_pos heq]
  · rw [if_neg (fun h => heq (Commit.removed.inj h)), if_neg heq]
    exact List.append_nil _

theorem allocatedNumbers_saved (account identity control other key : String)
    (log : List Commit) :
    allocatedNumbers account identity control (log ++ [Commit.saved other key]) =
      allocatedNumbers account identity control log := by
  unfold allocatedNumbers
  rw [sinceRemoval_append, if_neg nofun]
  exact List.append_nil _

theorem allocatedNumbers_allocated (account identity control other owner key : String)
    (number : Nat) (log : List Commit) :
    allocatedNumbers account identity control
        (log ++ [Commit.allocated other owner key number]) =
      allocatedNumbers account identity control log ++
        (if other = account ∧ owner = identity ∧ key = control then [number]
          else []) := by
  unfold allocatedNumbers
  rw [sinceRemoval_append, if_neg nofun]
  dsimp only
  by_cases heq : other = account ∧ owner = identity ∧ key = control
  · rw [if_pos heq, if_pos heq]
    rfl
  · rw [if_neg heq, if_neg heq]
    rfl

theorem allocatedNumbers_removed (account identity control other : String)
    (log : List Commit) :
    allocatedNumbers account identity control (log ++ [Commit.removed other]) =
      if other = account then [] else allocatedNumbers account identity control log := by
  unfold allocatedNumbers
  rw [sinceRemoval_append]
  by_cases heq : other = account
  · rw [if_pos (congrArg Commit.removed heq), if_pos heq]
  · rw [if_neg (fun h => heq (Commit.removed.inj h)), if_neg heq]
    exact List.append_nil _

end Logs

/-!
# Runs
-/

/-- The counters of the stored devices, and what the commits say about them. -/
structure Counted (database : Database) (log : List Commit) : Prop where
  sound : Sound database.sequences
  devices (account : String) (record : DeviceRecord) :
    database.deviceStates[account]? = some record ->
      record.controlKey ∈ savedControls account log
  saved (account control : String) : control ∈ savedControls account log ->
    isZ32 account = true ∧ isZ32 control = true ∧
      (publishers database.sequences
        (publisherRecordKey account account control)).isSome = true
  distinct (account : String) : (savedControls account log).Nodup
  allocated (account identity control : String) : isZ32 account = true ->
    isZ32 identity = true -> isZ32 control = true ->
    allocatedNumbers account identity control log =
      List.range' 1 ((publishers database.sequences
        (publisherRecordKey account identity control)).getD 0)

section Keys

variable {account identity control other owner key : String}

theorem publisherRecordKey_inj (haccount : isZ32 account = true)
    (hidentity : isZ32 identity = true) (hother : isZ32 other = true)
    (howner : isZ32 owner = true)
    (h : publisherRecordKey account identity control =
      publisherRecordKey other owner key) :
    account = other ∧ identity = owner ∧ control = key := by
  rcases joinKey_inj ((isZ32_length haccount).trans (isZ32_length hother).symm)
    ((isZ32_length hidentity).trans (isZ32_length howner).symm) h with
    ⟨hfirst, hsecond, hscope⟩
  exact ⟨hfirst, hsecond, (append_inj_left rfl hscope).right⟩

/-- Removing an account takes its counters and leaves those of other accounts. -/
theorem publishers_filter {records : SequenceRecords} (h : Sound records)
    (haccount : isZ32 account = true) (hidentity : isZ32 identity = true)
    (removed : String) :
    publishers (records.filter fun _ record => decide (record.accountId ≠ removed))
        (publisherRecordKey account identity control) =
      if removed = account then none
      else publishers records (publisherRecordKey account identity control) := by
  have howner : forall record,
      records[publisherRecordKey account identity control]? = some record ->
        record.accountId = account := by
    intro record hfound
    have hrecord := h.wellformed _ _ hfound
    exact (joinKey_inj ((isZ32_length haccount).trans
      (isZ32_length hrecord.account).symm) ((isZ32_length hidentity).trans
      (isZ32_length hrecord.identity).symm) hrecord.key).left.symm
  unfold publishers
  rw [Std.ExtTreeMap.getElem?_filter']
  cases hfound : records[publisherRecordKey account identity control]? with
  | none => exact (ite_self none).symm
  | some record =>
      rw [Option.filter_some, howner record hfound]
      by_cases heq : removed = account
      · rw [if_pos heq, if_neg (by rw [heq]; simp)]
      · rw [if_neg heq, if_pos (by simpa using Ne.symm heq)]

end Keys

section Invariant

variable {database after : Database} {log : List Commit}

/-- A counter that is added or raised leaves the saved controls with theirs. -/
theorem isSome_update {counters : String -> Option Nat} {key : String} {value : Nat}
    {other : String} (h : (counters other).isSome = true) :
    (Function.update counters key (some value) other).isSome = true := by
  by_cases heq : other = key
  · rw [heq, Function.update_self]
    rfl
  · rw [Function.update_of_ne heq]
    exact h

theorem Counted.kept (h : Counted database log) (hsound : Sound after.sequences)
    (hdevices : after.deviceStates = database.deviceStates)
    (hcounters : publishers after.sequences = publishers database.sequences) :
    Counted after log := by
  constructor
  case sound => exact hsound
  case devices =>
    rw [hdevices]
    exact h.devices
  case saved =>
    rw [hcounters]
    exact h.saved
  case distinct => exact h.distinct
  case allocated =>
    rw [hcounters]
    exact h.allocated

theorem Counted.started (h : Counted database log) (hsound : Sound after.sequences)
    {account identity control : String}
    (hfree : publishers database.sequences
      (publisherRecordKey account identity control) = none)
    (hdevices : after.deviceStates = database.deviceStates)
    (hcounters : publishers after.sequences =
      Function.update (publishers database.sequences)
        (publisherRecordKey account identity control) (some 0)) :
    Counted after log := by
  constructor
  case sound => exact hsound
  case devices =>
    rw [hdevices]
    exact h.devices
  case saved =>
    intro other key hkey
    rcases h.saved other key hkey with ⟨hother, hcontrol, hsome⟩
    rw [hcounters]
    exact ⟨hother, hcontrol, isSome_update hsome⟩
  case distinct => exact h.distinct
  case allocated =>
    intro other owner key hother howner hkey
    rw [h.allocated other owner key hother howner hkey, hcounters]
    by_cases heq : publisherRecordKey other owner key =
        publisherRecordKey account identity control
    · rw [heq, hfree, Function.update_self]
      rfl
    · rw [Function.update_of_ne heq]

theorem Counted.raised (h : Counted database log) (hsound : Sound after.sequences)
    {account identity control : String} {counter : Nat}
    (haccount : isZ32 account = true) (hidentity : isZ32 identity = true)
    (hfound : publishers database.sequences
      (publisherRecordKey account identity control) = some counter)
    (hdevices : after.deviceStates = database.deviceStates)
    (hcounters : publishers after.sequences =
      Function.update (publishers database.sequences)
        (publisherRecordKey account identity control) (some (counter + 1))) :
    Counted after
      (log ++ [Commit.allocated account identity control (counter + 1)]) := by
  constructor
  case sound => exact hsound
  case devices =>
    intro other record hrecord
    rw [savedControls_allocated]
    rw [hdevices] at hrecord
    exact h.devices other record hrecord
  case saved =>
    intro other key hkey
    rw [savedControls_allocated] at hkey
    rcases h.saved other key hkey with ⟨hother, hcontrol, hsome⟩
    rw [hcounters]
    exact ⟨hother, hcontrol, isSome_update hsome⟩
  case distinct =>
    intro other
    rw [savedControls_allocated]
    exact h.distinct other
  case allocated =>
    intro other owner key hother howner hkey
    rw [allocatedNumbers_allocated, h.allocated other owner key hother howner hkey,
      hcounters]
    by_cases heq : publisherRecordKey account identity control =
        publisherRecordKey other owner key
    · rcases publisherRecordKey_inj haccount hidentity hother howner heq with
        ⟨rfl, rfl, rfl⟩
      rw [if_pos ⟨rfl, rfl, rfl⟩, hfound, Function.update_self]
      change List.range' 1 counter ++ [counter + 1] = List.range' 1 (counter + 1)
      rw [List.range'_1_concat, Nat.add_comm 1 counter]
    · rw [Function.update_of_ne (Ne.symm heq), if_neg, List.append_nil]
      rintro ⟨rfl, rfl, rfl⟩
      exact heq rfl

theorem Counted.stored (h : Counted database log) (hsound : Sound after.sequences)
    {account : String} {record : DeviceRecord} (haccount : isZ32 account = true)
    (hcontrol : isZ32 record.controlKey = true)
    (hfree : publishers database.sequences
      (publisherRecordKey account account record.controlKey) = none)
    (hdevices : after.deviceStates = database.deviceStates.insert account record)
    (hcounters : publishers after.sequences =
      Function.update (publishers database.sequences)
        (publisherRecordKey account account record.controlKey) (some 0)) :
    Counted after (log ++ [Commit.saved account record.controlKey]) := by
  let started : Database := { database with sequences := after.sequences }
  have hstarted := @Counted.started _ started _ h hsound _ _ _ hfree rfl hcounters
  constructor
  case sound => exact hsound
  case devices =>
    intro other found hfound
    rw [savedControls_saved, List.mem_append]
    rw [hdevices, Std.ExtTreeMap.getElem?_insert] at hfound
    split at hfound
    · next heq =>
        cases hfound
        rw [if_pos (Std.LawfulEqCmp.eq_of_compare heq)]
        exact Or.inr List.mem_cons_self
    · exact Or.inl (h.devices other found hfound)
  case saved =>
    intro other key hkey
    rw [savedControls_saved, List.mem_append] at hkey
    rcases hkey with hkey | hkey
    · exact hstarted.saved other key hkey
    · split at hkey
      · next heq =>
          subst heq
          rw [List.mem_singleton.mp hkey, hcounters, Function.update_self]
          exact ⟨haccount, hcontrol, rfl⟩
      · cases hkey
  case distinct =>
    intro other
    rw [savedControls_saved]
    by_cases heq : account = other
    · subst heq
      rw [if_pos rfl, List.nodup_append]
      refine ⟨h.distinct account, List.nodup_singleton _, ?_⟩
      intro key hkey found hfound
      rw [List.mem_singleton.mp hfound]
      rintro rfl
      have hsome := (h.saved account _ hkey).right.right
      rw [hfree] at hsome
      cases hsome
    · rw [if_neg heq, List.append_nil]
      exact h.distinct other
  case allocated =>
    intro other owner key hother howner hkey
    rw [allocatedNumbers_saved]
    exact hstarted.allocated other owner key hother howner hkey

theorem Counted.removed (h : Counted database log) (account : String)
    (hdevices : after.deviceStates = database.deviceStates.erase account)
    (hsequences : after.sequences = database.sequences.filter fun _ record =>
      decide (record.accountId ≠ account)) :
    Counted after (log ++ [Commit.removed account]) := by
  constructor
  case sound =>
    rw [hsequences]
    exact sound_filter h.sound _
  case devices =>
    intro other record hrecord
    rw [hdevices, Std.ExtTreeMap.getElem?_erase] at hrecord
    split at hrecord
    · cases hrecord
    · next hne =>
        rw [savedControls_removed, if_neg]
        · exact h.devices other record hrecord
        · rintro rfl
          exact hne Std.ReflCmp.compare_self
  case saved =>
    intro other key hkey
    rw [savedControls_removed] at hkey
    split at hkey
    · cases hkey
    · next hne =>
        rcases h.saved other key hkey with ⟨hother, hcontrol, hsome⟩
        rw [hsequences, publishers_filter h.sound hother hother, if_neg hne]
        exact ⟨hother, hcontrol, hsome⟩
  case distinct =>
    intro other
    rw [savedControls_removed]
    split
    · exact List.nodup_nil
    · exact h.distinct other
  case allocated =>
    intro other owner key hother howner hkey
    rw [allocatedNumbers_removed, hsequences, publishers_filter h.sound hother howner]
    by_cases heq : account = other
    · rw [if_pos heq, if_pos heq]
      rfl
    · rw [if_neg heq, if_neg heq]
      exact h.allocated other owner key hother howner hkey

theorem Counted.next {commit : Option Commit} (h : Counted database log)
    (hsound : Sound after.sequences) (heffect : DeviceEffect database after commit) :
    Counted after (log ++ commit.toList) := by
  cases heffect with
  | kept hdevices hcounters =>
      rw [Option.toList_none, List.append_nil]
      exact h.kept hsound hdevices hcounters
  | started haccount hidentity hcontrol hfree hdevices hcounters =>
      rw [Option.toList_none, List.append_nil]
      exact h.started hsound hfree hdevices hcounters
  | raised haccount hidentity hcontrol hfound hdevices hcounters =>
      exact h.raised hsound haccount hidentity hfound hdevices hcounters
  | saved haccount hcontrol hfree hdevices hcounters =>
      exact h.stored hsound haccount hcontrol hfree hdevices hcounters
  | removed account hdevices hsequences =>
      exact h.removed account hdevices hsequences

end Invariant

/-!
# Steps
-/

section Steps

variable {C : WebCrypto} {origin : String} {s s' : StoreRun} {event : StoreEvent}

/-- One step of a run. -/
inductive StoreStep (C : WebCrypto) (origin : String) (s : StoreRun) :
    StoreEvent -> StoreRun -> Prop where
  | refused (caller : Nat) (operation : BrowserOperation) :
      StoreStep C origin s (StoreEvent.call caller operation) s
  | called {caller : Nat} {operation : BrowserOperation} {stage : Stage}
      (hprepare : operation.prepare = Except.ok stage) :
      StoreStep C origin s (StoreEvent.call caller operation)
        { s with calls := Function.update s.calls caller (some stage) }
  | ran {caller : Nat} {stage : Stage} (fault : Option TransactionFault)
      (clock : Clock) (iv : Iv) (hstage : s.calls caller = some stage) :
      StoreStep C origin s (StoreEvent.resume caller fault clock iv)
        (s.settle caller stage (s.outcome C origin fault clock iv stage))
  | closed (caller : Nat) :
      StoreStep C origin s (StoreEvent.close caller)
        { s with calls := Function.update s.calls caller none }

theorem step_of_next (h : s.next C origin event = some s') :
    StoreStep C origin s event s' := by
  cases event with
  | call caller operation =>
      unfold StoreRun.next at h
      dsimp only at h
      split at h
      · next hprepare =>
          cases h
          exact StoreStep.called hprepare
      · cases h
        exact StoreStep.refused caller operation
      · cases h
  | resume caller fault clock iv =>
      change (s.calls caller).map _ = some s' at h
      rw [Option.map_eq_some_iff] at h
      rcases h with ⟨stage, hstage, rfl⟩
      exact StoreStep.ran fault clock iv hstage
  | close caller =>
      cases h
      exact StoreStep.closed caller

/-- Every pending operation has checked its names. -/
def StoreRun.Named (s : StoreRun) : Prop :=
  forall caller stage, s.calls caller = some stage -> stage.Named

theorem named_update {calls : Nat -> Option Stage} {caller : Nat}
    {found : Option Stage}
    (h : forall other stage, calls other = some stage -> stage.Named)
    (hfound : forall stage, found = some stage -> stage.Named) :
    forall other stage, Function.update calls caller found other = some stage ->
      stage.Named := by
  intro other stage hstage
  by_cases heq : other = caller
  · rw [heq, Function.update_self] at hstage
    exact hfound stage hstage
  · rw [Function.update_of_ne heq] at hstage
    exact h other stage hstage

theorem advanced_outcome (C : WebCrypto) (origin : String) {caller : Nat} {stage : Stage}
    (h : s.Named) (hsound : Sound s.database.sequences)
    (hstage : s.calls caller = some stage) (fault : Option TransactionFault)
    (clock : Clock) (iv : Iv) :
    Advanced s.database stage (s.outcome C origin fault clock iv stage) :=
  advance_effect hsound (h caller stage hstage)

theorem named_next (h : s.Named) (hsound : Sound s.database.sequences)
    (hnext : s.next C origin event = some s') : s'.Named := by
  cases step_of_next hnext with
  | refused caller operation => exact h
  | called hprepare =>
      refine named_update h ?_
      rintro stage ⟨⟩
      exact prepare_named hprepare
  | ran fault clock iv hstage =>
      refine named_update h ?_
      intro later hlater
      apply (advanced_outcome C origin h hsound hstage fault clock iv).named later
      unfold Progress.later at hlater
      split at hlater
      · next hcontinues =>
          cases hlater
          exact hcontinues
      · cases hlater
  | closed caller => exact named_update h nofun

theorem counted_next (h : s.Named) (hcounted : Counted s.database s.log)
    (hnext : s.next C origin event = some s') : Counted s'.database s'.log := by
  cases step_of_next hnext with
  | refused caller operation => exact hcounted
  | called hprepare => exact hcounted
  | ran fault clock iv hstage =>
      have hadvanced := advanced_outcome C origin h hcounted.sound hstage fault clock iv
      exact hcounted.next hadvanced.sound hadvanced.effect
  | closed caller => exact hcounted

theorem counted_empty : Counted Database.empty [] := by
  constructor
  case sound => exact sound_empty
  case devices =>
    intro account record hrecord
    rw [Database.empty, Std.ExtTreeMap.getElem?_empty] at hrecord
    cases hrecord
  case saved => nofun
  case distinct => exact fun _ => List.nodup_nil
  case allocated =>
    intro account identity control _ _ _
    rw [Database.empty, publishers_of_free Std.ExtTreeMap.getElem?_empty]
    rfl

theorem counted_of_reachable (h : (storeRuns C origin).Reachable s) :
    s.Named ∧ Counted s.database s.log := by
  refine Machine.ReachableWhen.invariant
    (I := fun s => s.Named ∧ Counted s.database s.log) ?_ ?_ h
  · rintro t rfl
    exact ⟨nofun, counted_empty⟩
  · rintro t event t' ⟨hnamed, hcounted⟩ _ hnext
    exact ⟨named_next hnamed hcounted.sound hnext, counted_next hnamed hcounted hnext⟩

def Database.KeepsCounters (database after : Database) : Prop :=
  after.deviceStates = database.deviceStates ∧ after.sequences = database.sequences

/-- The operation has ended with success. -/
def Progress.Succeeded : Progress -> Prop
  | ends (Except.ok _) => True
  | _ => False

/-- What a step does to a publisher counter, and that only a success writes one. -/
structure CountersStep (C : WebCrypto) (origin : String) (s : StoreRun) (event : StoreEvent)
    (s' : StoreRun) : Prop where
  counter (account identity control : String) (counter : Nat) :
    isZ32 account = true -> isZ32 identity = true -> isZ32 control = true ->
    publishers s.database.sequences (publisherRecordKey account identity control) =
      some counter ->
    (publishers s'.database.sequences (publisherRecordKey account identity control) =
        none ∧ s'.log = s.log ++ [Commit.removed account]) ∨
      publishers s'.database.sequences (publisherRecordKey account identity control) =
        some counter ∨
      (publishers s'.database.sequences (publisherRecordKey account identity control) =
          some (counter + 1) ∧
        s'.log = s.log ++ [Commit.allocated account identity control (counter + 1)])
  written : ¬ s.database.KeepsCounters s'.database ->
    exists caller fault clock iv stage,
      event = StoreEvent.resume caller fault clock iv ∧
        s.calls caller = some stage ∧
        (s.outcome C origin fault clock iv stage).2.Succeeded

theorem transaction_error {operation : SequenceOperation}
    {fault : Option TransactionFault} {records : SequenceRecords} {error : Failure}
    (h : (operation.transaction fault records).2 = Except.error error) :
    (operation.transaction fault records).1 = records := by
  have hupdate : forall {α : Type} (update : SequenceUpdate α) (found : Failure),
      (updateSequences fault records update).2 = Except.error found ->
        (updateSequences fault records update).1 = records := by
    intro α update found hfound
    rcases hresult : updateSequences fault records update with ⟨after, result⟩
    rw [hresult] at hfound
    rcases updateSequences_cases hresult with
      ⟨changed, value, _, _, _, hvalue⟩ | ⟨_, _, hkept⟩
    · rw [hvalue] at hfound
      cases hfound
    · exact hkept
  cases operation with
  | recordBatch accountId observations =>
      unfold SequenceOperation.transaction at h ⊢
      dsimp only at h ⊢
      unfold recordSequenceBatch at h ⊢
      split
      · rfl
      · rfl
      · next prepared hne hprepared =>
          cases prepared with
          | nil => exact absurd rfl hne
          | cons first rest =>
              rw [hprepared] at h
              cases hresult : (updateSequences fault records
                (recordObservations (first :: rest))).2 with
              | error e => exact hupdate _ e hresult
              | ok value =>
                  change (updateSequences fault records
                    (recordObservations (first :: rest))).2.map _ = _ at h
                  rw [hresult] at h
                  cases h
  | initializePublisher accountId identity control =>
      unfold SequenceOperation.transaction publisherSequence at h ⊢
      dsimp only at h ⊢
      split
      · rfl
      · next account owner scope key hkey =>
          rw [hkey] at h
          exact hupdate _ error h
  | nextPublisher accountId identity control =>
      unfold SequenceOperation.transaction publisherSequence at h ⊢
      dsimp only at h ⊢
      split
      · rfl
      · next account owner scope key hkey =>
          rw [hkey] at h
          exact hupdate _ error h

theorem unlessFault_kept {fault : Option TransactionFault} {database : Database}
    {body : Database × Progress}
    (hbody : ¬ body.2.Succeeded -> database.KeepsCounters body.1)
    (h : ¬ (unlessFault fault database body).2.Succeeded) :
    database.KeepsCounters (unlessFault fault database body).1 := by
  cases fault with
  | some found => exact ⟨rfl, rfl⟩
  | none => exact hbody h

/-- An operation writes a device or a counter only in its last transaction. -/
theorem advance_kept {fresh : CryptoKey} {iv : Iv} {clock : Clock}
    {fault : Option TransactionFault} {database : Database} {stage : Stage}
    (h : ¬ (advance C origin fresh iv clock fault database stage).2.Succeeded) :
    database.KeepsCounters
      (advance C origin fresh iv clock fault database stage).1 := by
  have hkept : database.KeepsCounters database := ⟨rfl, rfl⟩
  cases stage with
  | readGrantKey keyId =>
      refine unlessFault_kept (fun _ => ?_) h
      split <;> exact hkept
  | addGrantKey keyId pair =>
      refine unlessFault_kept (fun _ => ?_) h
      split <;> exact hkept
  | deleteGrantKey keyId => exact unlessFault_kept (fun _ => hkept) h
  | readEncryptionKey pending =>
      refine unlessFault_kept (fun _ => ?_) h
      split <;> exact hkept
  | addEncryptionKey pending generated =>
      unfold advance
      dsimp only
      split <;> exact hkept
  | readWinner pending =>
      refine unlessFault_kept (fun _ => ?_) h
      split <;> exact hkept
  | encrypt pending key => exact hkept
  | write pending encrypted =>
      refine unlessFault_kept (fun hbody => ?_) h
      split at hbody
      · exact hkept
      · exact absurd trivial hbody
  | readRemoved account =>
      refine unlessFault_kept (fun _ => ?_) h
      split <;> exact hkept
  | remove account keyId => exact unlessFault_kept (fun hbody => absurd trivial hbody) h
  | sequences operation =>
      cases hresult : (operation.transaction fault database.sequences).2 with
      | error error => exact ⟨rfl, transaction_error hresult⟩
      | ok number =>
          change ¬ (Progress.ends
            (operation.transaction fault database.sequences).2).Succeeded at h
          rw [hresult] at h
          exact absurd trivial h

theorem counter_step {database after : Database} {commit : Option Commit}
    (hsound : Sound database.sequences) (heffect : DeviceEffect database after commit)
    {account identity control : String} {counter : Nat}
    (haccount : isZ32 account = true) (hidentity : isZ32 identity = true)
    (h : publishers database.sequences (publisherRecordKey account identity control) =
      some counter) :
    (publishers after.sequences (publisherRecordKey account identity control) = none ∧
        commit = some (Commit.removed account)) ∨
      publishers after.sequences (publisherRecordKey account identity control) =
        some counter ∨
      (publishers after.sequences (publisherRecordKey account identity control) =
          some (counter + 1) ∧
        commit = some (Commit.allocated account identity control (counter + 1))) := by
  cases heffect with
  | kept hdevices hcounters =>
      rw [hcounters]
      exact Or.inr (Or.inl h)
  | started hother howner hkey hfree hdevices hcounters =>
      rw [hcounters, Function.update_of_ne]
      · exact Or.inr (Or.inl h)
      · intro heq
        rw [heq, hfree] at h
        cases h
  | @raised other owner key value hother howner hkey hfound hdevices hcounters =>
      by_cases heq : publisherRecordKey account identity control =
          publisherRecordKey other owner key
      · rcases publisherRecordKey_inj haccount hidentity hother howner heq with
          ⟨rfl, rfl, rfl⟩
        rw [h] at hfound
        cases hfound
        rw [hcounters, Function.update_self]
        exact Or.inr (Or.inr ⟨rfl, rfl⟩)
      · rw [hcounters, Function.update_of_ne heq]
        exact Or.inr (Or.inl h)
  | saved hother hcontrol hfree hdevices hcounters =>
      rw [hcounters, Function.update_of_ne]
      · exact Or.inr (Or.inl h)
      · intro heq
        rw [heq, hfree] at h
        cases h
  | removed other hdevices hsequences =>
      rw [hsequences, publishers_filter hsound haccount hidentity]
      by_cases heq : other = account
      · rw [if_pos heq, heq]
        exact Or.inl ⟨rfl, rfl⟩
      · rw [if_neg heq]
        exact Or.inr (Or.inl h)

theorem countersStep_of_next (hnamed : s.Named) (hsound : Sound s.database.sequences)
    (hnext : s.next C origin event = some s') : CountersStep C origin s event s' := by
  constructor
  case counter =>
    intro account identity control counter haccount hidentity _ hcounter
    cases step_of_next hnext with
    | refused caller operation => exact Or.inr (Or.inl hcounter)
    | called hprepare => exact Or.inr (Or.inl hcounter)
    | ran fault clock iv hstage =>
        have hadvanced := advanced_outcome C origin hnamed hsound hstage fault clock iv
        rcases counter_step hsound hadvanced.effect haccount hidentity hcounter with
          ⟨hnone, hcommit⟩ | hsame | ⟨hraised, hcommit⟩
        · exact Or.inl ⟨hnone, congrArg (fun c => s.log ++ Option.toList c) hcommit⟩
        · exact Or.inr (Or.inl hsame)
        · exact Or.inr (Or.inr
            ⟨hraised, congrArg (fun c => s.log ++ Option.toList c) hcommit⟩)
    | closed caller => exact Or.inr (Or.inl hcounter)
  case written =>
    intro hwritten
    cases step_of_next hnext with
    | refused caller operation => exact absurd ⟨rfl, rfl⟩ hwritten
    | called hprepare => exact absurd ⟨rfl, rfl⟩ hwritten
    | ran fault clock iv hstage =>
        refine ⟨_, fault, clock, iv, _, rfl, hstage, ?_⟩
        by_contra hfailed
        exact hwritten (advance_kept hfailed)
    | closed caller => exact absurd ⟨rfl, rfl⟩ hwritten

/--
In every run of any number of tabs a stored device has its publisher counter. Since
the last removal of its account no control key has been stored twice, and the numbers
allocated from a counter are one, two, three and so on up to its value. A step leaves
a counter as it is, or allocates its next number, or removes its account; and only
the step with which an operation succeeds writes a device or a counter.
-/
theorem device_keeps_counter (h : (storeRuns C origin).Reachable s) :
    (forall account record, s.database.deviceStates[account]? = some record ->
      (publishers s.database.sequences
        (publisherRecordKey account account record.controlKey)).isSome = true) ∧
    (forall account, (savedControls account s.log).Nodup) ∧
    (forall account identity control, isZ32 account = true -> isZ32 identity = true ->
      isZ32 control = true ->
      allocatedNumbers account identity control s.log =
        List.range' 1 ((publishers s.database.sequences
          (publisherRecordKey account identity control)).getD 0)) ∧
    forall event s', s.next C origin event = some s' -> CountersStep C origin s event s' := by
  rcases counted_of_reachable h with ⟨hnamed, hcounted⟩
  refine ⟨?_, hcounted.distinct, hcounted.allocated, ?_⟩
  · intro account record hrecord
    exact (hcounted.saved account _ (hcounted.devices account record hrecord)).right.right
  · intro event s' hnext
    exact countersStep_of_next hnamed hcounted.sound hnext

end Steps

/-!
# A cipher for examples

It hides nothing, and its tag is a sum of the key, the vector and the data.
-/

namespace Tagged

def total (bytes : Bytes) : UInt8 :=
  UInt8.ofNat (bytes.map UInt8.toNat).sum

def tag (key : CryptoKey) (iv additionalData : Bytes) : Bytes :=
  [UInt8.ofNat key.number, total iv, total additionalData] ++ List.replicate 13 0

def crypto : WebCrypto where
  encrypt key iv additionalData plaintext := plaintext ++ tag key iv additionalData
  decrypt key iv additionalData ciphertext :=
    let size := ciphertext.length - 16
    if ciphertext.drop size = tag key iv additionalData then some (ciphertext.take size)
    else none

instance : crypto.Lawful where
  encrypt_length key iv additionalData plaintext _ := List.length_append
  decrypt_encrypt key iv additionalData plaintext _ := by
    have hsize : (plaintext ++ tag key iv.val additionalData).length - 16 =
        plaintext.length := by
      rw [List.length_append]
      exact Nat.add_sub_cancel ..
    unfold crypto
    dsimp only
    rw [hsize, List.drop_left, List.take_left, if_pos rfl]

end Tagged

/-!
# One device
-/

namespace OneDevice

def account : String := String.ofList (List.replicate 52 'y')
def control : String := String.ofList (List.replicate 52 'b')

def identity : StoredIdentity :=
  { identity := account
    keyId := "key"
    clientId := "client"
    homeserver := account
    grantId := "grant"
    grantExpiresAt := 1
    restore := "restore" }

def clock : Clock :=
  { checkedAt := 1000, createdAt := 1000 }

def iv : Iv :=
  ⟨List.replicate 12 0, rfl⟩

def save : BrowserOperation :=
  BrowserOperation.saveNewDeviceState account control "device"

def allocate : BrowserOperation :=
  BrowserOperation.sequences (SequenceOperation.nextPublisher account account control)

/-- A call of a tab with so many steps, all without a fault. -/
def completed (caller steps : Nat) (operation : BrowserOperation) : List StoreEvent :=
  StoreEvent.call caller operation ::
    List.replicate steps (StoreEvent.resume caller none clock iv)

/--
A device is stored. A number is allocated, at the second attempt, while another tab
removes the account.
-/
def events : List StoreEvent :=
  completed 0 4 save ++ completed 1 3 (BrowserOperation.saveIdentity identity) ++
    [StoreEvent.call 0 allocate,
      StoreEvent.resume 0 (some TransactionFault.storageFailed) clock iv] ++
    completed 1 1 (BrowserOperation.removeIdentity account) ++
    completed 0 1 allocate ++ [StoreEvent.resume 1 none clock iv]

def commits : List Commit :=
  [Commit.saved account control, Commit.allocated account account control 1,
    Commit.removed account]

def start : StoreRun :=
  { database := Database.empty, nextKey := 0, calls := fun _ => none, log := [] }

theorem events_run :
    (((storeRuns Tagged.crypto "https://example.org").run start events).any fun s =>
      decide (s.log = commits)) = true := by
  decide +kernel

theorem device_keeps_counter_sample :
    exists s, s.log = commits ∧
      ((forall other record, s.database.deviceStates[other]? = some record ->
        (publishers s.database.sequences
          (publisherRecordKey other other record.controlKey)).isSome = true) ∧
      (forall other, (savedControls other s.log).Nodup) ∧
      (forall other identity key, isZ32 other = true -> isZ32 identity = true ->
        isZ32 key = true ->
        allocatedNumbers other identity key s.log =
          List.range' 1 ((publishers s.database.sequences
            (publisherRecordKey other identity key)).getD 0)) ∧
      forall event s', s.next Tagged.crypto "https://example.org" event = some s' ->
        CountersStep Tagged.crypto "https://example.org" s event s') := by
  rcases (Option.any_eq_true _ _).mp events_run with ⟨s, hrun, hlog⟩
  have hstart : (storeRuns Tagged.crypto "https://example.org").Reachable start :=
    Machine.ReachableWhen.start rfl
  exact ⟨s, of_decide_eq_true hlog, device_keeps_counter (hstart.run hrun)⟩

end OneDevice

end Browser
end Pubky2Pubky
