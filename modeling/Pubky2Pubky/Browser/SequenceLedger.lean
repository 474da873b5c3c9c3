import Mathlib.Data.List.Nodup
import Pubky2Pubky.Foundation.Ledger
import Pubky2Pubky.Browser.SequenceStore

/-!
# The ledger of the IndexedDB records

Wellformed records pass the validation that every transaction repeats, so a
transaction on them is one step on their ledger, and it leaves wellformed
records.
-/

namespace Pubky2Pubky
namespace Browser

open Foundation Protocol Client

def SequenceRecord.slot (record : SequenceRecord) : Slot (BoundCounter String) :=
  match record.kind with
  | SequenceKind.publisher => Slot.counter record.counter
  | SequenceKind.authenticated =>
      Slot.floor
        { counter := record.counter, digest := record.digest.getD "" }

def ledger (records : SequenceRecords) : Ledger String (BoundCounter String) :=
  fun key => records[key]?.map SequenceRecord.slot

theorem ledger_insert (records : SequenceRecords) (key : String)
    (record : SequenceRecord) :
    ledger (records.insert key record) =
      Function.update (ledger records) key (some record.slot) := by
  funext other
  unfold ledger
  rw [getElem_insert]
  by_cases hkey : key = other
  · subst hkey
    rw [if_pos rfl, Function.update_self]
    rfl
  · rw [if_neg hkey, Function.update_of_ne (Ne.symm hkey)]

theorem slot_authenticated {record : SequenceRecord}
    (h : record.kind = SequenceKind.authenticated) (key : String) :
    record.slot = Slot.floor (floorEntry (key, record)).2 := by
  unfold SequenceRecord.slot floorEntry
  rw [h]

/-!
# Wellformed records
-/

/-- A record that validation lets pass, at its key. -/
structure Wellformed (key : String) (record : SequenceRecord) : Prop where
  account : isZ32 record.accountId = true
  identity : isZ32 record.identity = true
  scope : isScope record.scope = true
  kind : record.kind = SequenceKind.publisher <->
    reservedScope record.scope = true
  control : reservedScope record.scope = true ->
    isZ32 (String.ofList (record.scope.toList.drop
      publisherScopePrefix.toList.length)) = true
  bounded : record.counter ≤ jsMaxSafeCounter
  positive : record.kind = SequenceKind.authenticated -> 1 ≤ record.counter
  digested : record.kind = SequenceKind.authenticated ->
    exists digest, record.digest = some digest ∧ isDigest digest = true
  undigested : record.kind = SequenceKind.publisher -> record.digest = none
  key : key = joinKey record.accountId record.identity record.scope

theorem validateIdentity_of {value : String} (h : isZ32 value = true) :
    validateIdentity value = Except.ok value := by
  unfold validateIdentity
  rw [h, rejectIf_of_not nofun]
  rfl

theorem validateScope_of {scope : String} (h : isScope scope = true)
    (hcontrol : reservedScope scope = true ->
      isZ32 (String.ofList (scope.toList.drop
        publisherScopePrefix.toList.length)) = true) :
    validateScope scope = Except.ok scope := by
  have hreserved : ¬ (reservedScope scope = true ∧
      isZ32 (String.ofList (scope.toList.drop
        publisherScopePrefix.toList.length)) = false) := by
    rintro ⟨htrue, hfalse⟩
    rw [hcontrol htrue] at hfalse
    cases hfalse
  unfold validateScope
  rw [h, rejectIf_of_not nofun, ok_bind,
    rejectIf_of_not hreserved]
  rfl

theorem validateCounter_of {counter : Nat} {allowZero : Bool}
    (hbounded : counter ≤ jsMaxSafeCounter)
    (hpositive : allowZero = false -> 1 ≤ counter) :
    validateCounter counter allowZero = Except.ok counter := by
  have hrange : ¬ (counter > jsMaxSafeCounter ∨
      counter < (if allowZero then 0 else 1)) := by
    rw [not_or, Nat.not_lt, Nat.not_lt]
    refine ⟨hbounded, ?_⟩
    cases allowZero with
    | true => exact Nat.zero_le _
    | false => exact hpositive rfl
  unfold validateCounter
  rw [rejectIf_of_not hrange]
  rfl

theorem validateDigest_of {digest : String} (h : isDigest digest = true) :
    validateDigest (some digest) = Except.ok digest := by
  unfold validateDigest
  change (Except.ok digest >>= _) = _
  rw [ok_bind, h, rejectIf_of_not nofun]
  rfl

theorem sequenceKey_of {accountId identity scope : String}
    (haccount : isZ32 accountId = true) (hidentity : isZ32 identity = true)
    (hscope : validateScope scope = Except.ok scope) :
    sequenceKey accountId identity scope =
      Except.ok (joinKey accountId identity scope) := by
  unfold sequenceKey
  rw [validateIdentity_of haccount, ok_bind, validateIdentity_of hidentity,
    ok_bind, hscope]
  rfl

theorem Wellformed.validates {key : String} {record : SequenceRecord}
    (h : Wellformed key record) :
    validateStoredSequence (key, record) = Except.ok () := by
  have hfields : ¬ (isZ32 record.accountId = false ∨
      isZ32 record.identity = false ∨ isScope record.scope = false) := by
    rw [h.account, h.identity, h.scope]
    simp only [Bool.true_eq_false, or_self, not_false_eq_true]
  have hpublisher : ¬ (record.kind = SequenceKind.publisher ∧
      reservedScope record.scope = false) := by
    rintro ⟨hkind, hscope⟩
    rw [h.kind.mp hkind] at hscope
    cases hscope
  have hauthenticated : ¬ (record.kind = SequenceKind.authenticated ∧
      reservedScope record.scope = true) := by
    rintro ⟨hkind, hscope⟩
    rw [h.kind.mpr hscope] at hkind
    cases hkind
  have hcounter : validateCounter record.counter
      (decide (record.kind = SequenceKind.publisher)) =
        Except.ok record.counter := by
    apply validateCounter_of h.bounded
    intro hnot
    apply h.positive
    cases hkind : record.kind with
    | publisher =>
        rw [hkind] at hnot
        cases hnot
    | authenticated => rfl
  have hkey : ¬ key ≠ joinKey record.accountId record.identity record.scope :=
    not_not.mpr h.key
  unfold validateStoredSequence
  dsimp only
  rw [rejectIf_of_not hfields, ok_bind, rejectIf_of_not hpublisher, ok_bind,
    rejectIf_of_not hauthenticated, ok_bind, hcounter, ok_bind,
    sequenceKey_of h.account h.identity (validateScope_of h.scope h.control),
    ok_bind, rejectIf_of_not hkey]
  cases hkind : record.kind with
  | publisher =>
      dsimp only
      rw [h.undigested hkind, rejectIf_of_not (not_not.mpr rfl)]
      rfl
  | authenticated =>
      rcases h.digested hkind with ⟨digest, hdigest, hformat⟩
      dsimp only
      rw [hdigest, validateDigest_of hformat]
      rfl

/-- Every stored record is wellformed, and there are not too many. -/
structure Sound (records : SequenceRecords) : Prop where
  wellformed (key : String) (record : SequenceRecord) :
    records[key]? = some record -> Wellformed key record
  size : records.size ≤ maxSequenceEntries

theorem sound_empty : Sound ∅ := by
  constructor
  · intro key record h
    rw [Std.ExtTreeMap.getElem?_empty] at h
    cases h
  · rw [Std.ExtTreeMap.size_empty]
    exact Nat.zero_le _

theorem Sound.validateRecords {records : SequenceRecords} (h : Sound records) :
    validateRecords records.toList = Except.ok () := by
  have hall : forall entries : List SequenceEntry,
      (forall entry, entry ∈ entries -> Wellformed entry.1 entry.2) ->
        Browser.validateRecords entries = Except.ok () := by
    intro entries hentries
    induction entries with
    | nil => rfl
    | cons entry rest ih =>
        unfold Browser.validateRecords
        rw [(hentries entry List.mem_cons_self).validates, ok_bind]
        exact ih fun later hlater =>
          hentries later (List.mem_cons_of_mem entry hlater)
  apply hall
  rintro ⟨key, record⟩ hmem
  rw [Std.ExtTreeMap.mem_toList_iff_getElem?_eq_some] at hmem
  exact h.wellformed key record hmem

/-!
# One transaction on sound records
-/

section Transactions

variable {α : Type} {records : SequenceRecords} {update : SequenceUpdate α}

/-- A rejected update changes nothing. -/
theorem updateSequences_of_error {error : Failure} (h : Sound records)
    (hupdate : update records = Except.error error) :
    updateSequences none records update = (records, Except.error error) := by
  have hsize : ¬ records.size > maxSequenceEntries := Nat.not_lt_of_le h.size
  unfold updateSequences stageSequences
  dsimp only
  rw [rejectIf_of_not hsize, ok_bind, h.validateRecords, ok_bind, hupdate]
  rfl

/-- An accepted update is written, unless it goes beyond the limits. -/
theorem updateSequences_of_ok {current : SequenceRecords}
    {changed : List SequenceEntry} {result : α} (h : Sound records)
    (hupdate : update records = Except.ok (current, changed, result)) :
    (current.size ≤ maxSequenceEntries ∧
        updateSequences none records update =
          (putAll records changed, Except.ok result)) ∨
      updateSequences none records update =
        (records, Except.error "sequence-limit") := by
  have hsize : ¬ records.size > maxSequenceEntries := Nat.not_lt_of_le h.size
  unfold updateSequences stageSequences estimateSequenceBytes
  dsimp only
  rw [rejectIf_of_not hsize, ok_bind, h.validateRecords, ok_bind, hupdate,
    ok_bind]
  dsimp only
  by_cases hentries : current.size > maxSequenceEntries
  · right
    rw [rejectIf_of hentries]
    rfl
  · rw [rejectIf_of_not hentries, ok_bind]
    by_cases hbytes : (Json.array (current.toList.map recordToJson)).size >
        maxSequenceBytes
    · right
      rw [rejectIf_of hbytes]
      rfl
    · left
      rw [rejectIf_of_not hbytes]
      exact ⟨Nat.le_of_not_lt hentries, rfl⟩

end Transactions

/-!
# Observations in a transaction
-/

/-- An entry that `validateObservation` makes. -/
structure Observed (entry : SequenceEntry) : Prop where
  wellformed : Wellformed entry.1 entry.2
  kind : entry.2.kind = SequenceKind.authenticated

theorem Observed.digest {entry : SequenceEntry} (h : Observed entry) :
    entry.2.digest = some (floorEntry entry).2.digest := by
  rcases h.wellformed.digested h.kind with ⟨digest, hdigest, _⟩
  unfold floorEntry
  rw [hdigest]
  rfl

/-- The entries of one key with one floor have the same counter and digest. -/
theorem floorEntry_eq_iff {first second : SequenceEntry} (hfirst : Observed first)
    (hsecond : Observed second) :
    floorEntry first = floorEntry second <->
      first.1 = second.1 ∧ first.2.counter = second.2.counter ∧
        first.2.digest = second.2.digest := by
  constructor
  · intro h
    injection h with hkey hvalue
    rw [hfirst.digest, hsecond.digest]
    change (floorEntry first).2 = (floorEntry second).2 at hvalue
    rw [hvalue]
    exact ⟨hkey, congrArg BoundCounter.counter hvalue, rfl⟩
  · rintro ⟨hkey, hcounter, hdigest⟩
    unfold floorEntry
    rw [hkey, hcounter, hdigest]

/-- A later entry of a key is higher, or repeats the digest at its counter. -/
theorem Observed.follows_iff {first previous : SequenceEntry}
    (h : Observed first) (hprevious : Observed previous)
    (hkey : previous.1 = first.1) :
    (floorEntry previous).2 ≤ (floorEntry first).2 <->
      previous.2.counter ≤ first.2.counter ∧
        (first.2.counter = previous.2.counter ->
          first.2.digest = previous.2.digest) := by
  constructor
  · intro hle
    refine ⟨BoundCounter.counter_le hle, ?_⟩
    intro hcounter
    rw [h.digest, hprevious.digest, BoundCounter.digest_eq hle hcounter.symm]
  · rintro ⟨hcounter, hdigest⟩
    rcases Nat.lt_or_eq_of_le hcounter with hlower | hsame
    · exact Or.inl hlower
    · right
      exact congrArg Prod.snd ((floorEntry_eq_iff hprevious h).mpr
        ⟨hkey, hsame, (hdigest hsame.symm).symm⟩)

section Observations

variable {records current : SequenceRecords} {entries : List SequenceEntry}

theorem checkObservations_of_none {key : String} {observation : SequenceRecord}
    (h : records[key]? = none) :
    checkObservations records ((key, observation) :: entries) =
      checkObservations records entries := by
  rw [checkObservations, h]

theorem checkObservations_of_some {key : String}
    {observation previous : SequenceRecord} (h : records[key]? = some previous) :
    checkObservations records ((key, observation) :: entries) = Except.ok () <->
      previous.kind = SequenceKind.authenticated ∧
        previous.counter ≤ observation.counter ∧
        (observation.counter = previous.counter ->
          observation.digest = previous.digest) ∧
        checkObservations records entries = Except.ok () := by
  rw [checkObservations, h]
  simp only [bind_eq_ok, rejectIf_eq_ok, exists_unit, Nat.not_lt, not_and,
    not_not]
  cases previous.kind with
  | publisher => simp
  | authenticated => simp

/-- The check of the observations is admission to the ledger. -/
theorem checkObservations_iff (h : Sound records)
    (hobserved : forall entry, entry ∈ entries -> Observed entry) :
    checkObservations records entries = Except.ok () <->
      forall entry, entry ∈ entries ->
        (ledger records).Admits (floorEntry entry) := by
  induction entries with
  | nil =>
      constructor
      · intro _ entry hentry
        cases hentry
      · intro _
        rfl
  | cons first rest ih =>
      rcases first with ⟨key, observation⟩
      have hfirst := hobserved (key, observation) List.mem_cons_self
      have hrest := ih fun later hlater =>
        hobserved later (List.mem_cons_of_mem _ hlater)
      rw [List.forall_mem_cons, ← hrest]
      cases hfound : records[key]? with
      | none =>
          have hempty : ledger records key = none := by
            unfold ledger
            rw [hfound]
            rfl
          rw [checkObservations_of_none hfound]
          exact (and_iff_right (Ledger.admits_of_none hempty)).symm
      | some previous =>
          have hslot : ledger records key = some previous.slot := by
            unfold ledger
            rw [hfound]
            rfl
          rw [checkObservations_of_some hfound]
          cases hkind : previous.kind with
          | publisher =>
              have hcounter : previous.slot = Slot.counter previous.counter := by
                unfold SequenceRecord.slot
                rw [hkind]
              rw [hcounter] at hslot
              constructor
              · rintro ⟨hauthenticated, _⟩
                cases hauthenticated
              · rintro ⟨hadmits, _⟩
                exact absurd hadmits (Ledger.not_admits_of_counter hslot)
          | authenticated =>
              have hknown : Observed (key, previous) :=
                ⟨h.wellformed key previous hfound, hkind⟩
              rw [slot_authenticated hkind key] at hslot
              have hadmits : (ledger records).Admits
                    (floorEntry (key, observation)) <->
                  (floorEntry (key, previous)).2 ≤
                    (floorEntry (key, observation)).2 :=
                Ledger.admits_of_floor hslot
              rw [hadmits, hfirst.follows_iff hknown rfl]
              constructor
              · rintro ⟨_, hcounter, hdigest, hlater⟩
                exact ⟨⟨hcounter, hdigest⟩, hlater⟩
              · rintro ⟨⟨hcounter, hdigest⟩, hlater⟩
                exact ⟨rfl, hcounter, hdigest, hlater⟩

theorem ledger_of_repeats {key : String} {observation : SequenceRecord}
    (h : repeats records key observation = true) :
    ledger records key = some (Slot.floor (floorEntry (key, observation)).2) := by
  unfold repeats at h
  cases hfound : records[key]? with
  | none =>
      rw [hfound] at h
      cases h
  | some previous =>
      rw [hfound] at h
      rcases of_decide_eq_true h with ⟨hkind, hcounter, hdigest⟩
      have hslot : ledger records key = some previous.slot := by
        unfold ledger
        rw [hfound]
        rfl
      rw [hslot, slot_authenticated hkind key]
      unfold floorEntry
      rw [hcounter, hdigest]

/-- Writing the changed records sets every observed key. -/
theorem ledger_putAll_stageObservations
    (hkinds : forall entry, entry ∈ entries ->
      entry.2.kind = SequenceKind.authenticated)
    (h : ledger records = ledger current) :
    ledger (putAll records (stageObservations current entries).2) =
      (ledger records).setAll (entries.map floorEntry) := by
  induction entries generalizing records current with
  | nil => rfl
  | cons first rest ih =>
      rcases first with ⟨key, observation⟩
      have hkind := hkinds (key, observation) List.mem_cons_self
      have hrest := fun later hlater =>
        hkinds later (List.mem_cons_of_mem _ hlater)
      have hslot : some observation.slot =
          some (Slot.floor (floorEntry (key, observation)).2) := by
        rw [slot_authenticated hkind key]
      unfold stageObservations
      by_cases hrepeats : repeats current key observation = true
      · rw [if_pos hrepeats, ih hrest h]
        have hsame : Function.update (ledger records) key
            (some (Slot.floor (floorEntry (key, observation)).2)) =
              ledger records := by
          rw [← ledger_of_repeats hrepeats, ← h]
          exact Function.update_eq_self key _
        change _ = Ledger.setAll (Function.update (ledger records) key
          (some (Slot.floor (floorEntry (key, observation)).2))) _
        rw [hsame]
      · rw [if_neg hrepeats]
        change ledger (putAll (records.insert key observation)
          (stageObservations (current.insert key observation) rest).2) = _
        have hinserted : ledger (records.insert key observation) =
            ledger (current.insert key observation) := by
          rw [ledger_insert, ledger_insert, h]
        rw [ih hrest hinserted, ledger_insert, hslot]
        rfl

theorem stageObservations_fst (current : SequenceRecords)
    (entries : List SequenceEntry) :
    (stageObservations current entries).1 =
      putAll current (stageObservations current entries).2 := by
  induction entries generalizing current with
  | nil => rfl
  | cons first rest ih =>
      rcases first with ⟨key, observation⟩
      unfold stageObservations
      split
      · exact ih current
      · exact ih (current.insert key observation)

theorem mem_of_mem_stageObservations {entry : SequenceEntry}
    (h : entry ∈ (stageObservations current entries).2) : entry ∈ entries := by
  induction entries generalizing current with
  | nil => cases h
  | cons first rest ih =>
      rcases first with ⟨key, observation⟩
      unfold stageObservations at h
      split at h
      · exact List.mem_cons_of_mem _ (ih h)
      · rcases List.mem_cons.mp h with heq | hrest
        · rw [heq]
          exact List.mem_cons_self
        · exact List.mem_cons_of_mem _ (ih hrest)

theorem getElem_putAll {key : String} {record : SequenceRecord}
    (h : (putAll records entries)[key]? = some record) :
    records[key]? = some record ∨ (key, record) ∈ entries := by
  induction entries generalizing records with
  | nil => exact Or.inl h
  | cons first rest ih =>
      rcases first with ⟨other, observation⟩
      rcases ih h with hbefore | hrest
      · rw [getElem_insert] at hbefore
        split at hbefore
        · rename_i hkey
          injection hbefore with hbefore
          right
          rw [← hkey, ← hbefore]
          exact List.mem_cons_self
        · exact Or.inl hbefore
      · exact Or.inr (List.mem_cons_of_mem _ hrest)

theorem getElem_putAll_of_ne {key : String}
    (h : forall entry, entry ∈ entries -> entry.1 ≠ key) :
    (putAll records entries)[key]? = records[key]? := by
  induction entries generalizing records with
  | nil => rfl
  | cons first rest ih =>
      rcases first with ⟨other, observation⟩
      unfold putAll
      rw [ih fun entry hentry => h entry (List.mem_cons_of_mem _ hentry),
        getElem_insert, if_neg (h (other, observation) List.mem_cons_self)]

theorem Sound.putAll (h : Sound records)
    (hentries : forall entry, entry ∈ entries -> Wellformed entry.1 entry.2)
    (hsize : (putAll records entries).size ≤ maxSequenceEntries) :
    Sound (putAll records entries) := by
  constructor
  · intro key record hfound
    rcases getElem_putAll hfound with hbefore | hnew
    · exact h.wellformed key record hbefore
    · exact hentries (key, record) hnew
  · exact hsize

/-- What a transaction does with a batch of observations. -/
structure Recorded (records after : SequenceRecords)
    (entries : List SequenceEntry) : Prop where
  sound : Sound after
  ledger : ledger after = (ledger records).setAll (entries.map floorEntry)
  written (key : String) (record : SequenceRecord) :
    after[key]? = some record ->
      records[key]? = some record ∨ (key, record) ∈ entries
  others (key : String) : (forall entry, entry ∈ entries -> entry.1 ≠ key) ->
    after[key]? = records[key]?

/-- A batch is recorded when the ledger admits it, up to the limits. -/
theorem recordObservations_cases (h : Sound records)
    (hobserved : forall entry, entry ∈ entries -> Observed entry) :
    ((forall entry, entry ∈ entries ->
          (Browser.ledger records).Admits (floorEntry entry)) ∧
        ((exists after, Recorded records after entries ∧
            updateSequences none records (recordObservations entries) =
              (after, Except.ok ())) ∨
          updateSequences none records (recordObservations entries) =
            (records, Except.error "sequence-limit"))) ∨
      ((¬ forall entry, entry ∈ entries ->
          (Browser.ledger records).Admits (floorEntry entry)) ∧
        exists error, updateSequences none records (recordObservations entries) =
          (records, Except.error error)) := by
  cases hcheck : checkObservations records entries with
  | error e =>
      right
      constructor
      · rw [← checkObservations_iff h hobserved, hcheck]
        exact nofun
      · refine ⟨e, updateSequences_of_error h ?_⟩
        unfold recordObservations
        rw [hcheck]
        rfl
  | ok done =>
      left
      refine ⟨(checkObservations_iff h hobserved).mp hcheck, ?_⟩
      have hupdate : recordObservations entries records =
          Except.ok ((stageObservations records entries).1,
            (stageObservations records entries).2, ()) := by
        unfold recordObservations
        rw [hcheck]
        rfl
      rcases updateSequences_of_ok h hupdate with ⟨hsize, hwritten⟩ | hlimit
      · left
        rw [stageObservations_fst] at hsize
        refine ⟨_, ?_, hwritten⟩
        constructor
        case sound =>
          apply h.putAll _ hsize
          intro entry hentry
          exact (hobserved entry (mem_of_mem_stageObservations hentry)).wellformed
        case ledger =>
          exact ledger_putAll_stageObservations
            (fun entry hentry => (hobserved entry hentry).kind) rfl
        case written =>
          intro key record hfound
          rcases getElem_putAll hfound with hbefore | hnew
          · exact Or.inl hbefore
          · exact Or.inr (mem_of_mem_stageObservations hnew)
        case others =>
          intro key hkeys
          exact getElem_putAll_of_ne fun entry hentry =>
            hkeys entry (mem_of_mem_stageObservations hentry)
      · exact Or.inr hlimit

end Observations

/-!
# Preparing a batch

The prepared list keeps one entry for each key, in the order of the first.
-/

section Preparing

variable {prepared result : List SequenceEntry} {entry : SequenceEntry}

theorem mem_setPrepared {found : SequenceEntry}
    (h : found ∈ setPrepared prepared entry) : found = entry ∨ found ∈ prepared := by
  unfold setPrepared at h
  split at h
  · rcases List.mem_map.mp h with ⟨old, hold, heq⟩
    split at heq
    · exact Or.inl heq.symm
    · rw [← heq]
      exact Or.inr hold
  · rcases List.mem_append.mp h with hold | hnew
    · exact Or.inr hold
    · exact Or.inl (List.mem_singleton.mp hnew)

theorem mem_setPrepared_self (prepared : List SequenceEntry)
    (entry : SequenceEntry) : entry ∈ setPrepared prepared entry := by
  unfold setPrepared
  split
  · rename_i hany
    rcases List.any_eq_true.mp hany with ⟨found, hfound, hkey⟩
    apply List.mem_map.mpr
    refine ⟨found, hfound, ?_⟩
    rw [if_pos (eq_of_beq hkey)]
  · exact List.mem_append_right prepared (List.mem_singleton_self entry)

theorem mem_setPrepared_of_ne {found : SequenceEntry} (h : found ∈ prepared)
    (hne : found.1 ≠ entry.1) : found ∈ setPrepared prepared entry := by
  unfold setPrepared
  split
  · apply List.mem_map.mpr
    refine ⟨found, h, ?_⟩
    rw [if_neg hne]
  · exact List.mem_append_left _ h

theorem nodup_setPrepared (h : (prepared.map Prod.fst).Nodup) :
    ((setPrepared prepared entry).map Prod.fst).Nodup := by
  unfold setPrepared
  split
  · rw [List.map_map]
    have hkeys : (Prod.fst ∘ fun found : SequenceEntry =>
        if found.1 = entry.1 then entry else found) = Prod.fst := by
      funext found
      change (if found.1 = entry.1 then entry else found).1 = found.1
      split
      · rename_i hkey
        exact hkey.symm
      · rfl
    rw [hkeys]
    exact h
  · rename_i hnone
    rw [List.map_append, List.nodup_append]
    refine ⟨h, List.pairwise_singleton _ _, ?_⟩
    intro key hkey other hother heq
    rcases List.mem_map.mp hkey with ⟨found, hfound, rfl⟩
    rw [List.map_singleton, List.mem_singleton] at hother
    apply hnone
    exact List.any_eq_true.mpr
      ⟨found, hfound, beq_iff_eq.mpr (heq.trans hother)⟩

/-- The prepared list holds the floors of the entries, once for each key. -/
structure PreparedList (prepared entries result : List SequenceEntry) :
    Prop where
  nodup : (prepared.map Prod.fst).Nodup -> (result.map Prod.fst).Nodup
  keeps (entry : SequenceEntry) : entry ∈ prepared ->
    floorEntry entry ∈ result.map floorEntry
  holds (entry : SequenceEntry) : entry ∈ entries ->
    floorEntry entry ∈ result.map floorEntry
  only (entry : SequenceEntry) : entry ∈ result ->
    entry ∈ prepared ∨ entry ∈ entries

/-- The prepared entries with a key agree with a new entry of that key. -/
def conflicts (prepared : List SequenceEntry) (entry : SequenceEntry) : Bool :=
  prepared.any fun duplicate =>
    duplicate.1 == entry.1 &&
      (duplicate.2.counter != entry.2.counter ||
        duplicate.2.digest != entry.2.digest)

theorem floorEntry_of_not_conflicts {found : SequenceEntry}
    (h : ¬ conflicts prepared entry = true) (hfound : found ∈ prepared)
    (hkey : found.1 = entry.1) : floorEntry found = floorEntry entry := by
  have hnot : ¬ (found.1 == entry.1 &&
      (found.2.counter != entry.2.counter ||
        found.2.digest != entry.2.digest)) = true := by
    intro htrue
    exact h (List.any_eq_true.mpr ⟨found, hfound, htrue⟩)
  rw [hkey, beq_self_eq_true, Bool.true_and, Bool.or_eq_true, not_or,
    bne_iff_ne, bne_iff_ne, not_not, not_not] at hnot
  unfold floorEntry
  rw [hkey, hnot.left, hnot.right]

variable {account : String} {entryOf : SequenceObservation -> SequenceEntry}
variable {inputs : List SequenceObservation}

theorem prepareObservations_cons {input : SequenceObservation}
    (hinput : validateObservation account input = Except.ok entry)
    (prepared : List SequenceEntry) (rest : List SequenceObservation) :
    prepareObservations account prepared (input :: rest) =
      if conflicts prepared entry = true then
        Except.error "sequence-batch-conflict"
      else prepareObservations account (setPrepared prepared entry) rest := by
  rw [prepareObservations, hinput, ok_bind]
  change (rejectIf (conflicts prepared entry = true) _ >>= _) = _
  split
  · rename_i hconflict
    rw [rejectIf_of hconflict]
    rfl
  · rename_i hfree
    rw [rejectIf_of_not hfree, ok_bind]

theorem prepareObservations_eq_ok
    (hinputs : forall input, input ∈ inputs ->
      validateObservation account input = Except.ok (entryOf input))
    (h : prepareObservations account prepared inputs = Except.ok result) :
    PreparedList prepared (inputs.map entryOf) result := by
  induction inputs generalizing prepared with
  | nil =>
      injection h with h
      subst h
      refine ⟨id, ?_, ?_, ?_⟩
      · intro entry hentry
        exact List.mem_map_of_mem hentry
      · intro entry hentry
        cases hentry
      · intro entry hentry
        exact Or.inl hentry
  | cons input rest ih =>
      rw [prepareObservations_cons (hinputs input List.mem_cons_self)] at h
      split at h
      · cases h
      · rename_i hfree
        have hrest := ih (fun later hlater =>
          hinputs later (List.mem_cons_of_mem _ hlater)) h
        have hfirst := hrest.keeps _
          (mem_setPrepared_self prepared (entryOf input))
        constructor
        · intro hnodup
          exact hrest.nodup (nodup_setPrepared hnodup)
        · intro entry hentry
          by_cases hkey : entry.1 = (entryOf input).1
          · rw [floorEntry_of_not_conflicts hfree hentry hkey]
            exact hfirst
          · exact hrest.keeps entry (mem_setPrepared_of_ne hentry hkey)
        · intro entry hentry
          rcases List.mem_cons.mp hentry with heq | hlater
          · rw [heq]
            exact hfirst
          · exact hrest.holds entry hlater
        · intro entry hentry
          rcases hrest.only entry hentry with hset | hlater
          · rcases mem_setPrepared hset with heq | hold
            · right
              rw [heq]
              exact List.mem_cons_self
            · exact Or.inl hold
          · exact Or.inr (List.mem_cons_of_mem _ hlater)

theorem prepareObservations_succeeds
    (hinputs : forall input, input ∈ inputs ->
      validateObservation account input = Except.ok (entryOf input))
    (hobserved : forall entry, entry ∈ prepared ++ inputs.map entryOf ->
      Observed entry)
    (hagree : Agreeing ((prepared ++ inputs.map entryOf).map floorEntry)) :
    exists result, prepareObservations account prepared inputs =
      Except.ok result := by
  induction inputs generalizing prepared with
  | nil => exact ⟨prepared, rfl⟩
  | cons input rest ih =>
      have hmem : entryOf input ∈ prepared ++ (input :: rest).map entryOf :=
        List.mem_append_right _ List.mem_cons_self
      have hfree : ¬ conflicts prepared (entryOf input) = true := by
        intro hconflict
        rcases List.any_eq_true.mp hconflict with ⟨found, hfound, hdiffers⟩
        rw [Bool.and_eq_true, beq_iff_eq, Bool.or_eq_true, bne_iff_ne,
          bne_iff_ne] at hdiffers
        have hknown := List.mem_append_left ((input :: rest).map entryOf) hfound
        have hvalue := hagree (floorEntry found) (List.mem_map_of_mem hknown)
          (floorEntry (entryOf input)) (List.mem_map_of_mem hmem) hdiffers.left
        rcases (floorEntry_eq_iff (hobserved _ hknown) (hobserved _ hmem)).mp
          (Prod.ext hdiffers.left hvalue) with ⟨_, hcounter, hdigest⟩
        rcases hdiffers.right with hne | hne
        · exact hne hcounter
        · exact hne hdigest
      have hsubset : forall later,
          later ∈ setPrepared prepared (entryOf input) ++ rest.map entryOf ->
            later ∈ prepared ++ (input :: rest).map entryOf := by
        intro later hlater
        rcases List.mem_append.mp hlater with hset | hrest
        · rcases mem_setPrepared hset with heq | hold
          · rw [heq]
            exact hmem
          · exact List.mem_append_left _ hold
        · exact List.mem_append_right _ (List.mem_cons_of_mem _ hrest)
      rw [prepareObservations_cons (hinputs input List.mem_cons_self),
        if_neg hfree]
      apply ih
      · exact fun later hlater => hinputs later (List.mem_cons_of_mem _ hlater)
      · exact fun later hlater => hobserved later (hsubset later hlater)
      · intro a ha b hb
        rcases List.mem_map.mp ha with ⟨first, hfirst, rfl⟩
        rcases List.mem_map.mp hb with ⟨second, hsecond, rfl⟩
        exact hagree _ (List.mem_map_of_mem (hsubset first hfirst)) _
          (List.mem_map_of_mem (hsubset second hsecond))

/-- A prepared batch agrees, and has the floors of the batch. -/
theorem PreparedList.agreeing {entries : List SequenceEntry}
    (h : PreparedList [] entries result) :
    Agreeing (entries.map floorEntry) ∧ forall floor,
      floor ∈ result.map floorEntry <-> floor ∈ entries.map floorEntry := by
  have hnodup := h.nodup List.nodup_nil
  constructor
  · intro a ha b hb hkey
    rcases List.mem_map.mp ha with ⟨first, hfirst, rfl⟩
    rcases List.mem_map.mp hb with ⟨second, hsecond, rfl⟩
    rcases List.mem_map.mp (h.holds first hfirst) with ⟨one, hone, heq⟩
    rcases List.mem_map.mp (h.holds second hsecond) with ⟨two, htwo, heq'⟩
    have hsame : one = two := by
      apply List.inj_on_of_nodup_map hnodup hone htwo
      rw [show one.1 = (floorEntry one).1 from rfl, heq, hkey, ← heq']
      rfl
    rw [← heq, ← heq', hsame]
  · intro floor
    constructor
    · intro hfloor
      rcases List.mem_map.mp hfloor with ⟨entry, hentry, rfl⟩
      rcases h.only entry hentry with hnone | hmem
      · cases hnone
      · exact List.mem_map_of_mem hmem
    · intro hfloor
      rcases List.mem_map.mp hfloor with ⟨entry, hentry, rfl⟩
      exact h.holds entry hentry

variable {records : SequenceRecords}

/-- A batch is recorded when the ledger accepts it, up to the limits. -/
theorem recordSequenceBatch_cases (h : Sound records)
    (haccount : isZ32 account = true) (hlength : inputs.length ≤ 128)
    (hinputs : forall input, input ∈ inputs ->
      validateObservation account input = Except.ok (entryOf input))
    (hobserved : forall input, input ∈ inputs -> Observed (entryOf input)) :
    ((ledger records).Accepts ((inputs.map entryOf).map floorEntry) ∧
        ((exists after, Recorded records after (inputs.map entryOf) ∧
            recordSequenceBatch account none records inputs =
              (after, Except.ok ())) ∨
          recordSequenceBatch account none records inputs =
            (records, Except.error "sequence-limit"))) ∨
      (¬ (ledger records).Accepts ((inputs.map entryOf).map floorEntry) ∧
        exists error, recordSequenceBatch account none records inputs =
          (records, Except.error error)) := by
  have hentries : forall entry, entry ∈ inputs.map entryOf -> Observed entry := by
    intro entry hentry
    rcases List.mem_map.mp hentry with ⟨input, hinput, rfl⟩
    exact hobserved input hinput
  have hchecks : (do
      let identity <- validateIdentity account
      rejectIf (inputs.length > 128) "sequence-invalid"
      prepareObservations identity [] inputs : StoreResult _) =
        prepareObservations account [] inputs := by
    rw [validateIdentity_of haccount, ok_bind,
      rejectIf_of_not (Nat.not_lt_of_le hlength)]
    rfl
  unfold recordSequenceBatch
  rw [hchecks]
  cases hprepare : prepareObservations account [] inputs with
  | error e =>
      right
      refine ⟨?_, e, rfl⟩
      intro haccepts
      have hprepared : forall entry, entry ∈ [] ++ inputs.map entryOf ->
          Observed entry := hentries
      rcases prepareObservations_succeeds hinputs hprepared
        haccepts.agreeing with ⟨result, hresult⟩
      rw [hprepare] at hresult
      cases hresult
  | ok prepared =>
      have hlist := prepareObservations_eq_ok hinputs hprepare
      rcases hlist.agreeing with ⟨hagree, hfloors⟩
      have honly : forall entry, entry ∈ prepared ->
          entry ∈ inputs.map entryOf := by
        intro entry hentry
        rcases hlist.only entry hentry with hnone | hmem
        · cases hnone
        · exact hmem
      have hadmits : (ledger records).Accepts
            ((inputs.map entryOf).map floorEntry) <->
          forall entry, entry ∈ prepared ->
            (ledger records).Admits (floorEntry entry) := by
        constructor
        · intro haccepts entry hentry
          exact haccepts.admits _ (List.mem_map_of_mem (honly entry hentry))
        · intro hall
          refine ⟨hagree, ?_⟩
          intro floor hfloor
          rcases List.mem_map.mp ((hfloors floor).mpr hfloor) with
            ⟨entry, hentry, rfl⟩
          exact hall entry hentry
      have hrecorded : forall after, Recorded records after prepared ->
          Recorded records after (inputs.map entryOf) := by
        intro after hafter
        constructor
        case sound => exact hafter.sound
        case ledger =>
          rw [hafter.ledger, Ledger.setAll_congr hagree
            (fun floor => (hfloors floor).symm)]
        case written =>
          intro key record hfound
          rcases hafter.written key record hfound with hbefore | hnew
          · exact Or.inl hbefore
          · exact Or.inr (honly _ hnew)
        case others =>
          intro key hkeys
          exact hafter.others key fun entry hentry =>
            hkeys entry (honly entry hentry)
      rw [hadmits]
      cases prepared with
      | nil =>
          left
          refine ⟨nofun, Or.inl ⟨records, hrecorded records ?_, rfl⟩⟩
          exact ⟨h, rfl, fun _ _ => Or.inl, fun _ _ => rfl⟩
      | cons first rest =>
          rcases recordObservations_cases h
            (fun entry hentry => hentries entry (honly entry hentry)) with
            ⟨hall, ⟨after, hafter, hupdate⟩ | hlimit⟩ | ⟨hnot, hrejected⟩
          · exact Or.inl ⟨hall, Or.inl ⟨after, hrecorded after hafter, hupdate⟩⟩
          · exact Or.inl ⟨hall, Or.inr hlimit⟩
          · exact Or.inr ⟨hnot, hrejected⟩

end Preparing

/-!
# Publisher counters
-/

section Publishers

variable {account identity control : String}

theorem isScope_publisher (h : isZ32 control = true) :
    isScope (publisherScopePrefix ++ control) = true := by
  unfold isZ32 at h
  rw [Bool.and_eq_true, decide_eq_true_eq, List.all_eq_true] at h
  rcases h with ⟨hlength, hchars⟩
  have hprefix : publisherScopePrefix.toList.all scopeChar = true := by decide
  have hsize : publisherScopePrefix.toList.length = 13 := by decide
  have hall : control.toList.all scopeChar = true := by
    rw [List.all_eq_true]
    intro c hc
    exact scopeChar_of_z32 c (List.contains_iff_mem.mp (hchars c hc))
  unfold isScope
  rw [String.toList_append, List.length_append, List.all_append, hprefix, hall,
    hsize, hlength]
  rfl

/-- The record of a publisher counter. -/
def publisherRecord (account identity control : String) (counter : Nat) :
    SequenceRecord :=
  { accountId := account
    identity := identity
    scope := publisherScopePrefix ++ control
    kind := SequenceKind.publisher
    counter := counter
    digest := none }

def publisherRecordKey (account identity control : String) : String :=
  joinKey account identity (publisherScopePrefix ++ control)

theorem wellformed_publisherRecord {counter : Nat}
    (haccount : isZ32 account = true) (hidentity : isZ32 identity = true)
    (hcontrol : isZ32 control = true) (hcounter : counter ≤ jsMaxSafeCounter) :
    Wellformed (publisherRecordKey account identity control)
      (publisherRecord account identity control counter) := by
  constructor
  case account => exact haccount
  case identity => exact hidentity
  case scope => exact isScope_publisher hcontrol
  case kind => exact iff_of_true rfl (reservedScope_publisher control)
  case control =>
    intro _
    change isZ32 (String.ofList ((publisherScopePrefix ++ control).toList.drop
      publisherScopePrefix.toList.length)) = true
    rw [controlKey_publisher]
    exact hcontrol
  case bounded => exact hcounter
  case positive =>
    intro hkind
    cases hkind
  case digested =>
    intro hkind
    cases hkind
  case undigested =>
    intro _
    rfl
  case key => rfl

theorem sequenceKey_publisher (haccount : isZ32 account = true)
    (hidentity : isZ32 identity = true) (hcontrol : isZ32 control = true) :
    sequenceKey account identity (publisherScopePrefix ++ control) =
      Except.ok (publisherRecordKey account identity control) := by
  apply sequenceKey_of haccount hidentity
  apply validateScope_of (isScope_publisher hcontrol)
  intro _
  rw [controlKey_publisher]
  exact hcontrol

theorem publisherSequence_initialized (haccount : isZ32 account = true)
    (hidentity : isZ32 identity = true) (hcontrol : isZ32 control = true)
    (fault : Option TransactionFault) (records : SequenceRecords) :
    publisherSequence account fault records
        (PublisherOperation.initializeLocatorPublisher identity control) =
      updateSequences fault records (initializePublisherUpdate account identity
        (publisherScopePrefix ++ control)
        (publisherRecordKey account identity control)) := by
  unfold publisherSequence
  dsimp only
  rw [validateIdentity_of haccount, ok_bind, validateIdentity_of hidentity,
    ok_bind, validateIdentity_of hcontrol, ok_bind,
    sequenceKey_publisher haccount hidentity hcontrol]
  rfl

theorem publisherSequence_next (haccount : isZ32 account = true)
    (hidentity : isZ32 identity = true) (hcontrol : isZ32 control = true)
    (fault : Option TransactionFault) (records : SequenceRecords) :
    publisherSequence account fault records
        (PublisherOperation.nextLocatorSequence identity control) =
      updateSequences fault records
        (nextPublisherUpdate (publisherRecordKey account identity control)) := by
  unfold publisherSequence
  dsimp only
  rw [validateIdentity_of haccount, ok_bind, validateIdentity_of hidentity,
    ok_bind, validateIdentity_of hcontrol, ok_bind,
    sequenceKey_publisher haccount hidentity hcontrol]
  rfl

theorem Sound.insert {records : SequenceRecords} {key : String}
    {record : SequenceRecord} (h : Sound records)
    (hrecord : Wellformed key record)
    (hsize : (records.insert key record).size ≤ maxSequenceEntries) :
    Sound (records.insert key record) := by
  constructor
  · intro other found hfound
    rw [getElem_insert] at hfound
    split at hfound
    · rename_i hkey
      injection hfound with hfound
      rw [← hkey, ← hfound]
      exact hrecord
    · exact h.wellformed other found hfound
  · exact hsize

/-- A fresh counter is written at a free key, up to the limits. -/
theorem initializePublisherUpdate_cases {records : SequenceRecords}
    (h : Sound records) (haccount : isZ32 account = true)
    (hidentity : isZ32 identity = true) (hcontrol : isZ32 control = true) :
    let key := publisherRecordKey account identity control
    let update := initializePublisherUpdate account identity
      (publisherScopePrefix ++ control) key
    (records[key]? = none ∧
        ((Sound (records.insert key
              (publisherRecord account identity control 0)) ∧
            updateSequences none records update =
              (records.insert key (publisherRecord account identity control 0),
                Except.ok 0)) ∨
          updateSequences none records update =
            (records, Except.error "sequence-limit"))) ∨
      (records[key]? ≠ none ∧ updateSequences none records update =
        (records, Except.error "publisher-already-initialized")) := by
  intro key update
  by_cases hfree : records.contains key = true
  · right
    constructor
    · intro hnone
      rw [Std.ExtTreeMap.contains_eq_isSome_getElem?, hnone] at hfree
      cases hfree
    · apply updateSequences_of_error h
      unfold update initializePublisherUpdate
      rw [rejectIf_of hfree]
      rfl
  · left
    refine ⟨Std.ExtTreeMap.getElem?_eq_none_of_contains_eq_false
      (Bool.eq_false_iff.mpr hfree), ?_⟩
    have hupdate : update records = Except.ok
        (records.insert key (publisherRecord account identity control 0),
          [(key, publisherRecord account identity control 0)], 0) := by
      unfold update initializePublisherUpdate
      rw [rejectIf_of_not hfree]
      rfl
    rcases updateSequences_of_ok h hupdate with ⟨hsize, hwritten⟩ | hlimit
    · left
      refine ⟨h.insert ?_ hsize, hwritten⟩
      exact wellformed_publisherRecord haccount hidentity hcontrol
        (Nat.zero_le _)
    · exact Or.inr hlimit

theorem Wellformed.next {key : String} {record : SequenceRecord}
    (h : Wellformed key record) (hkind : record.kind = SequenceKind.publisher)
    (hcounter : record.counter < jsMaxSafeCounter) :
    Wellformed key { record with counter := record.counter + 1 } := by
  constructor
  case account => exact h.account
  case identity => exact h.identity
  case scope => exact h.scope
  case kind => exact h.kind
  case control => exact h.control
  case bounded => exact hcounter
  case positive => exact fun _ => Nat.le_add_left 1 _
  case digested =>
    intro hauthenticated
    rw [hkind] at hauthenticated
    cases hauthenticated
  case undigested => exact h.undigested
  case key => exact h.key

/-- A publisher counter is raised by one, up to the limits. -/
theorem nextPublisherUpdate_cases {records : SequenceRecords} {key : String}
    (h : Sound records) :
    (exists record, records[key]? = some record ∧
        record.kind = SequenceKind.publisher ∧
        record.counter < jsMaxSafeCounter ∧
        ((Sound (records.insert key
              { record with counter := record.counter + 1 }) ∧
            updateSequences none records (nextPublisherUpdate key) =
              (records.insert key
                { record with counter := record.counter + 1 },
                Except.ok (record.counter + 1))) ∨
          updateSequences none records (nextPublisherUpdate key) =
            (records, Except.error "sequence-limit"))) ∨
      ((forall record, records[key]? = some record ->
          record.kind = SequenceKind.publisher ->
          record.counter = jsMaxSafeCounter) ∧
        exists error, updateSequences none records (nextPublisherUpdate key) =
          (records, Except.error error)) := by
  cases hupdate : nextPublisherUpdate key records with
  | error e =>
      right
      refine ⟨?_, e, updateSequences_of_error h hupdate⟩
      intro record hfound hkind
      apply Nat.le_antisymm (h.wellformed key record hfound).bounded
      by_contra hlow
      have hsafe : record.counter + 1 ≤ jsMaxSafeCounter :=
        Nat.lt_of_not_le hlow
      have hvalue : validateCounter record.counter true =
          Except.ok record.counter :=
        validateCounter_of (Nat.le_of_succ_le hsafe) fun hfalse => nomatch hfalse
      have hnext : validateCounter (record.counter + 1) false =
          Except.ok (record.counter + 1) :=
        validateCounter_of hsafe fun _ => Nat.le_add_left 1 _
      unfold nextPublisherUpdate at hupdate
      rw [hfound, Option.filter_some, decide_eq_true hkind, if_pos rfl, okOr,
        ok_bind, hvalue, ok_bind, hnext] at hupdate
      cases hupdate
  | ok triple =>
      left
      rcases triple with ⟨current, changed, value⟩
      have hread := hupdate
      unfold nextPublisherUpdate at hread
      simp only [bind_eq_ok, okOr_eq_ok, pure_eq_ok, Option.filter_eq_some_iff,
        decide_eq_true_eq] at hread
      rcases hread with ⟨record, ⟨hfound, hkind⟩, counter, hcounter, next, hnext,
        hresult⟩
      have hsafe : next ≤ jsMaxSafeCounter := by
        unfold validateCounter at hnext
        simp only [bind_eq_ok, rejectIf_eq_ok, exists_unit, pure_eq_ok, not_or,
          gt_iff_lt, Nat.not_lt] at hnext
        rw [← hnext.right]
        exact hnext.left.left
      rw [validateCounter_eq_ok hnext, validateCounter_eq_ok hcounter] at hsafe
      rw [validateCounter_eq_ok hnext, validateCounter_eq_ok hcounter] at hresult
      injection hresult with hcurrent hrest
      injection hrest with hchanged hvalue
      refine ⟨record, hfound, hkind, hsafe, ?_⟩
      rcases updateSequences_of_ok h hupdate with ⟨hsize, hwritten⟩ | hlimit
      · left
        rw [← hcurrent] at hsize
        rw [← hchanged, ← hvalue] at hwritten
        exact ⟨h.insert ((h.wellformed key record hfound).next hkind hsafe) hsize,
          hwritten⟩
      · exact Or.inr hlimit

end Publishers

/-!
# Accounts

The keys that an operation writes start with its account, whatever its input.
-/

def OwnKey (account key : String) : Prop :=
  exists identity scope, key = joinKey account identity scope

section Accounts

variable {account : String} {fault : Option TransactionFault}
variable {records : SequenceRecords}

theorem validateObservation_own {input : SequenceObservation}
    {entry : SequenceEntry}
    (h : validateObservation account input = Except.ok entry) :
    OwnKey account entry.1 := by
  unfold validateObservation at h
  simp only [bind_eq_ok, exists_unit, pure_eq_ok] at h
  rcases h with ⟨identity, _, scope, _, _, _, _, _, _, key, hkey, rfl⟩
  exact ⟨identity, scope, sequenceKey_eq_ok hkey⟩

theorem prepareObservations_own {inputs : List SequenceObservation}
    {prepared result : List SequenceEntry}
    (hprepared : forall entry, entry ∈ prepared -> OwnKey account entry.1)
    (h : prepareObservations account prepared inputs = Except.ok result) :
    forall entry, entry ∈ result -> OwnKey account entry.1 := by
  induction inputs generalizing prepared with
  | nil =>
      injection h with h
      rw [← h]
      exact hprepared
  | cons input rest ih =>
      unfold prepareObservations at h
      simp only [bind_eq_ok, exists_unit] at h
      rcases h with ⟨observation, hobservation, _, hrest⟩
      apply ih _ hrest
      intro entry hentry
      rcases mem_setPrepared hentry with heq | hold
      · rw [heq]
        exact validateObservation_own hobservation
      · exact hprepared entry hold

/-- An update leaves the keys alone that it does not change. -/
theorem updateSequences_others {α : Type} {update : SequenceUpdate α}
    {key : String}
    (hchanged : forall current changed value,
      update records = Except.ok (current, changed, value) ->
        forall entry, entry ∈ changed -> entry.1 ≠ key) :
    (updateSequences fault records update).1[key]? = records[key]? := by
  rcases hupdate : updateSequences fault records update with ⟨after, result⟩
  rcases updateSequences_cases hupdate with
    ⟨changed, value, _, hstage, hput, _⟩ | ⟨_, _, hkept⟩
  · rcases stageSequences_eq_ok hstage with ⟨current, hcurrent⟩
    rw [hput]
    exact getElem_putAll_of_ne (hchanged current changed value hcurrent)
  · rw [hkept]

theorem recordSequenceBatch_others {key : String} (hkey : ¬ OwnKey account key)
    (inputs : List SequenceObservation) :
    (recordSequenceBatch account fault records inputs).1[key]? =
      records[key]? := by
  unfold recordSequenceBatch
  split
  · rfl
  · rfl
  · rename_i prepared _ hprepared
    simp only [bind_eq_ok, exists_unit] at hprepared
    rcases hprepared with ⟨owner, howner, _, hprepare⟩
    rw [validateIdentity_eq_ok howner] at hprepare
    apply updateSequences_others
    intro current changed value hupdate entry hentry heq
    unfold recordObservations at hupdate
    simp only [bind_eq_ok, exists_unit, pure_eq_ok] at hupdate
    rcases hupdate with ⟨_, hpair⟩
    injection hpair with _ hpair
    injection hpair with hchanged _
    rw [← hchanged] at hentry
    apply hkey
    rw [← heq]
    have hnone : forall first, first ∈ ([] : List SequenceEntry) ->
        OwnKey account first.1 := by
      intro first hfirst
      cases hfirst
    exact prepareObservations_own hnone hprepare entry
      (mem_of_mem_stageObservations hentry)

theorem publisherSequence_others {key : String} (hkey : ¬ OwnKey account key)
    (operation : PublisherOperation) :
    (publisherSequence account fault records operation).1[key]? =
      records[key]? := by
  unfold publisherSequence
  cases operation with
  | initializeLocatorPublisher identity controlKey =>
      dsimp only
      split
      · rfl
      · rename_i owner own scope found hfound
        simp only [bind_eq_ok, pure_eq_ok] at hfound
        rcases hfound with ⟨checked, hchecked, _, _, _, _, made, hmade, hpair⟩
        cases hpair
        apply updateSequences_others
        intro current changed value hupdate entry hentry heq
        unfold initializePublisherUpdate at hupdate
        simp only [bind_eq_ok, exists_unit, pure_eq_ok] at hupdate
        rcases hupdate with ⟨_, hpair⟩
        injection hpair with _ hpair
        injection hpair with hchanged _
        rw [← hchanged, List.mem_singleton] at hentry
        apply hkey
        rw [← heq, hentry, sequenceKey_eq_ok hmade,
          validateIdentity_eq_ok hchecked]
        exact ⟨_, _, rfl⟩
  | nextLocatorSequence identity controlKey =>
      dsimp only
      split
      · rfl
      · rename_i owner own scope found hfound
        simp only [bind_eq_ok, pure_eq_ok] at hfound
        rcases hfound with ⟨checked, hchecked, _, _, _, _, made, hmade, hpair⟩
        cases hpair
        apply updateSequences_others
        intro current changed value hupdate entry hentry heq
        unfold nextPublisherUpdate at hupdate
        simp only [bind_eq_ok, pure_eq_ok] at hupdate
        rcases hupdate with ⟨_, _, _, _, _, _, hpair⟩
        injection hpair with _ hpair
        injection hpair with hchanged _
        rw [← hchanged, List.mem_singleton] at hentry
        apply hkey
        rw [← heq, hentry, sequenceKey_eq_ok hmade,
          validateIdentity_eq_ok hchecked]
        exact ⟨_, _, rfl⟩

end Accounts

end Browser
end Pubky2Pubky
