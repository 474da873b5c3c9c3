import Pubky2Pubky.Foundation.Ledger
import Pubky2Pubky.Client.SequenceStore

/-!
# Batches of observations

A batch is prepared into a map first, and the entries of that map are recorded
one after the other. The outcome is that of one step on the ledger of the map,
whatever the order of the batch.
-/

namespace Pubky2Pubky
namespace Client

open Foundation Protocol

/-!
# The ledger of a map
-/

def StoredSequence.slot : StoredSequence -> Slot (BoundCounter Digest)
  | StoredSequence.publisher counter => Slot.counter counter.toNat
  | StoredSequence.authenticated counter digest =>
      Slot.floor { counter := counter.toNat, digest := digest }

def ledger (values : SequenceState) : Ledger String (BoundCounter Digest) :=
  fun key => values[key]?.map StoredSequence.slot

/-- The ledger entry that a prepared observation asks for. -/
def asked (entry : String × (UInt64 × Digest)) : String × BoundCounter Digest :=
  (entry.1, { counter := entry.2.1.toNat, digest := entry.2.2 })

theorem StoredSequence.slot_injective {a b : StoredSequence}
    (h : a.slot = b.slot) : a = b := by
  cases a with
  | publisher counter =>
      cases b with
      | publisher other =>
          injection h with h
          rw [UInt64.toNat_inj.mp h]
      | authenticated other digest => cases h
  | authenticated counter digest =>
      cases b with
      | publisher other => cases h
      | authenticated other found =>
          injection h with h
          injection h with hcounter hdigest
          rw [UInt64.toNat_inj.mp hcounter, hdigest]

theorem asked_injective {a b : String × (UInt64 × Digest)}
    (h : asked a = asked b) : a = b := by
  rcases a with ⟨key, counter, digest⟩
  rcases b with ⟨other, bound, found⟩
  injection h with hkey hvalue
  injection hvalue with hcounter hdigest
  dsimp only at hkey hcounter hdigest
  rw [hkey, hdigest, UInt64.toNat_inj.mp hcounter]

/-- A map is determined by its ledger. -/
theorem ledger_injective {values other : SequenceState}
    (h : ledger values = ledger other) : values = other := by
  apply Std.ExtTreeMap.ext_getElem?
  intro key
  exact Option.map_injective (fun _ _ => StoredSequence.slot_injective)
    (congrFun h key)

theorem ledger_insert (values : SequenceState) (key : String)
    (value : StoredSequence) :
    ledger (values.insert key value) =
      Function.update (ledger values) key (some value.slot) := by
  funext other
  unfold ledger
  rw [getElem_insert]
  by_cases hkey : key = other
  · subst hkey
    rw [if_pos rfl, Function.update_self]
    rfl
  · rw [if_neg hkey, Function.update_of_ne (Ne.symm hkey)]

/-!
# Recording the entries of a prepared batch
-/

/-- The map with every entry set. -/
def setEntries (values : SequenceState) :
    List (String × (UInt64 × Digest)) -> SequenceState
  | [] => values
  | (key, counter, digest) :: rest =>
      setEntries
        (values.insert key (StoredSequence.authenticated counter digest)) rest

theorem ledger_setEntries (values : SequenceState)
    (entries : List (String × (UInt64 × Digest))) :
    ledger (setEntries values entries) =
      (ledger values).setAll (entries.map asked) := by
  induction entries generalizing values with
  | nil => rfl
  | cons entry rest ih =>
      rcases entry with ⟨key, counter, digest⟩
      unfold setEntries
      rw [ih, ledger_insert]
      rfl

theorem size_le_setEntries (values : SequenceState)
    (entries : List (String × (UInt64 × Digest))) :
    values.size ≤ (setEntries values entries).size := by
  induction entries generalizing values with
  | nil => exact Nat.le_refl _
  | cons entry rest ih =>
      rcases entry with ⟨key, counter, digest⟩
      unfold setEntries
      exact Nat.le_trans Std.ExtTreeMap.size_le_size_insert (ih _)

theorem recordAuthenticatedValue_admits {values staged : SequenceState}
    {key : String} {counter : UInt64} {digest : Digest}
    (h : recordAuthenticatedValue values key counter digest =
      Except.ok staged) :
    (ledger values).Admits (asked (key, counter, digest)) ∧
      ledger staged = ledger
        (values.insert key (StoredSequence.authenticated counter digest)) := by
  unfold recordAuthenticatedValue at h
  unfold Ledger.Admits ledger asked
  dsimp only
  cases hfound : values[key]? with
  | none =>
      rw [hfound] at h
      dsimp only at h
      split at h
      · cases h
      · injection h with h
        rw [← h]
        exact ⟨trivial, rfl⟩
  | some stored =>
      rw [hfound] at h
      cases stored with
      | publisher found => cases h
      | authenticated previous known =>
          dsimp only at h
          split at h
          · cases h
          · rename_i hlower
            split at h
            · rename_i hsame
              split at h
              · rename_i hdigest
                injection h with h
                subst h hsame hdigest
                refine ⟨le_refl _, ?_⟩
                change ledger values = ledger (values.insert key
                  (StoredSequence.authenticated counter digest))
                rw [ledger_insert, eq_comm, Function.update_eq_self_iff]
                unfold ledger
                rw [hfound]
                rfl
              · cases h
            · rename_i hdiffer
              injection h with h
              rw [← h]
              refine ⟨Or.inl ?_, rfl⟩
              rw [UInt64.lt_iff_toNat_lt] at hlower
              exact Nat.lt_of_le_of_ne (Nat.le_of_not_lt hlower)
                fun heq => hdiffer (UInt64.toNat_inj.mp heq.symm)

def entryLimitReached : ClientError :=
  ClientError.state "sequence store reached its entry limit"

/-- An admitted entry is refused only when the map is full. -/
theorem recordAuthenticatedValue_succeeds {values : SequenceState}
    {key : String} {counter : UInt64} {digest : Digest}
    (hadmits : (ledger values).Admits (asked (key, counter, digest))) :
    (exists staged, recordAuthenticatedValue values key counter digest =
        Except.ok staged) ∨
      recordAuthenticatedValue values key counter digest =
          Except.error entryLimitReached ∧
        maxStateEntries < (values.insert key
          (StoredSequence.authenticated counter digest)).size := by
  unfold recordAuthenticatedValue
  unfold Ledger.Admits ledger asked at hadmits
  dsimp only at hadmits
  cases hfound : values[key]? with
  | none =>
      dsimp only
      by_cases hfull : values.size ≥ maxStateEntries
      · right
        have hfresh : ¬ values.contains key = true := by
          rw [Std.ExtTreeMap.contains_eq_isSome_getElem?, hfound]
          decide
        rw [Std.ExtTreeMap.size_insert, if_neg hfresh, if_pos hfull]
        exact ⟨rfl, Nat.lt_succ_of_le hfull⟩
      · rw [if_neg hfull]
        exact Or.inl ⟨_, rfl⟩
  | some stored =>
      left
      rw [hfound] at hadmits
      cases stored with
      | publisher found => cases hadmits
      | authenticated previous known =>
          dsimp only
          rcases hadmits with hlt | heq
          · have hlower : previous < counter :=
              UInt64.lt_iff_toNat_lt.mpr hlt
            rw [if_neg (UInt64.lt_asymm hlower),
              if_neg (UInt64.ne_of_lt hlower).symm]
            exact ⟨_, rfl⟩
          · injection heq with hcounter hdigest
            have hsame : previous = counter := UInt64.toNat_inj.mp hcounter
            rw [if_neg (hsame ▸ UInt64.lt_irrefl previous), if_pos hsame.symm,
              if_pos hdigest.symm]
            exact ⟨_, rfl⟩

/-- Entries that agree are recorded as one accepted batch. -/
theorem recordEntries_accepts {values staged : SequenceState}
    {entries : List (String × (UInt64 × Digest))}
    (hagree : Agreeing (entries.map asked))
    (h : recordEntries values entries = Except.ok staged) :
    (ledger values).Accepts (entries.map asked) ∧
      staged = setEntries values entries := by
  induction entries generalizing values with
  | nil =>
      unfold recordEntries at h
      injection h with h
      subst h
      refine ⟨⟨hagree, ?_⟩, rfl⟩
      intro entry hentry
      cases hentry
  | cons entry rest ih =>
      rcases entry with ⟨key, counter, digest⟩
      unfold recordEntries at h
      rcases bind_eq_ok.mp h with ⟨next, hfirst, hrest⟩
      rcases recordAuthenticatedValue_admits hfirst with ⟨hadmits, hledger⟩
      rcases ih hagree.tail hrest with ⟨haccepts, hstaged⟩
      rw [ledger_injective hledger] at haccepts hstaged
      rw [ledger_insert] at haccepts
      exact ⟨Ledger.Accepts.cons hagree hadmits haccepts, hstaged⟩

theorem recordEntries_succeeds {values : SequenceState}
    {entries : List (String × (UInt64 × Digest))}
    (haccepts : (ledger values).Accepts (entries.map asked)) :
    (exists staged, recordEntries values entries = Except.ok staged) ∨
      recordEntries values entries = Except.error entryLimitReached ∧
        maxStateEntries < (setEntries values entries).size := by
  induction entries generalizing values with
  | nil => exact Or.inl ⟨values, rfl⟩
  | cons entry rest ih =>
      rcases entry with ⟨key, counter, digest⟩
      have hadmits := haccepts.admits _ List.mem_cons_self
      rcases recordAuthenticatedValue_succeeds hadmits with
        ⟨next, hnext⟩ | ⟨hlimit, hfull⟩
      · have hrest := haccepts.rest
        rcases recordAuthenticatedValue_admits hnext with ⟨_, hledger⟩
        have hnextLedger := hledger.trans (ledger_insert _ _ _)
        rcases ih (hnextLedger ▸ hrest) with
          ⟨staged, hstaged⟩ | ⟨hlimit, hfull⟩
        · left
          refine ⟨staged, ?_⟩
          unfold recordEntries
          rw [hnext, ok_bind, hstaged]
        · right
          unfold recordEntries setEntries
          rw [hnext, ok_bind, hlimit, ← ledger_injective hledger]
          exact ⟨rfl, hfull⟩
      · right
        unfold recordEntries setEntries
        rw [hlimit]
        exact ⟨rfl, Nat.lt_of_lt_of_le hfull (size_le_setEntries _ _)⟩

/-!
# Preparing a batch
-/

section Preparing

variable {P : Primitives}

/-- What an observation asks the store to keep at its key. -/
def AuthenticatedSequenceObservation.entry
    (observation : AuthenticatedSequenceObservation P) :
    String × (UInt64 × Digest) :=
  (observation.key, observation.counter, observation.digest)

/-- The ledger entries a batch asks for. -/
def askedBy (observations : List (AuthenticatedSequenceObservation P)) :
    List (String × BoundCounter Digest) :=
  (observations.map AuthenticatedSequenceObservation.entry).map asked

def conflictingDuplicates : ClientError :=
  ClientError.state "authenticated batch contains conflicting duplicate keys"

/-- One turn of the loop; the constructor has made the other checks. -/
theorem prepareFrom_cons (prepared : PreparedBatch)
    (observation : AuthenticatedSequenceObservation P)
    (rest : List (AuthenticatedSequenceObservation P)) :
    prepareFrom P prepared (observation :: rest) =
      if prepared[observation.key]?.any (fun previous =>
          decide (previous ≠ (observation.counter, observation.digest))) = true
      then Except.error conflictingDuplicates
      else prepareFrom P
        (prepared.insert observation.key
          (observation.counter, observation.digest)) rest := by
  have hscope : ¬ reservedScope observation.scope = true := by
    rw [observation.unreserved]
    exact Bool.false_ne_true
  rw [prepareFrom, rejectIf_of_not hscope, ok_bind, observation.keyed, ok_bind]
  dsimp only
  split
  · rename_i hconflict
    rw [rejectIf_of hconflict]
    rfl
  · rename_i hconflict
    rw [rejectIf_of_not hconflict, ok_bind]

theorem getElem_insert_prepared (prepared : PreparedBatch) (key other : String)
    (value : UInt64 × Digest) :
    (prepared.insert key value)[other]? =
      if key = other then some value else prepared[other]? := by
  simp only [Std.ExtTreeMap.getElem?_insert, Std.LawfulEqCmp.compare_eq_iff_eq]

/-- The prepared map has the entries it started with and those of the batch. -/
structure Prepared (prepared : PreparedBatch)
    (observations : List (AuthenticatedSequenceObservation P))
    (result : PreparedBatch) : Prop where
  keeps (key : String) (value : UInt64 × Digest) :
    prepared[key]? = some value -> result[key]? = some value
  holds (observation : AuthenticatedSequenceObservation P) :
    observation ∈ observations ->
      result[observation.key]? = some (observation.counter, observation.digest)
  only (key : String) (value : UInt64 × Digest) :
    result[key]? = some value -> prepared[key]? = some value ∨
      exists observation, observation ∈ observations ∧
        observation.entry = (key, value)

theorem prepareFrom_eq_ok {prepared result : PreparedBatch}
    {observations : List (AuthenticatedSequenceObservation P)}
    (h : prepareFrom P prepared observations = Except.ok result) :
    Prepared prepared observations result := by
  induction observations generalizing prepared with
  | nil =>
      injection h with h
      subst h
      constructor
      · intro key value hvalue
        exact hvalue
      · intro observation hmem
        cases hmem
      · intro key value hvalue
        exact Or.inl hvalue
  | cons first rest ih =>
      rw [prepareFrom_cons] at h
      split at h
      · cases h
      · rename_i hfree
        have hrest := ih h
        have hfirst : result[first.key]? = some (first.counter, first.digest) := by
          apply hrest.keeps
          rw [getElem_insert_prepared, if_pos rfl]
        constructor
        · intro key value hvalue
          by_cases hkey : first.key = key
          · subst hkey
            rw [hvalue, Option.any_some, decide_eq_true_eq, not_not] at hfree
            rw [hfree]
            exact hfirst
          · apply hrest.keeps
            rw [getElem_insert_prepared, if_neg hkey]
            exact hvalue
        · intro observation hmem
          rcases List.mem_cons.mp hmem with rfl | hmem
          · exact hfirst
          · exact hrest.holds observation hmem
        · intro key value hvalue
          rcases hrest.only key value hvalue with hold | ⟨found, hmem, hentry⟩
          · rw [getElem_insert_prepared] at hold
            split at hold
            · rename_i hkey
              injection hold with hold
              right
              refine ⟨first, List.mem_cons_self, ?_⟩
              rw [← hkey, ← hold]
              rfl
            · exact Or.inl hold
          · exact Or.inr ⟨found, List.mem_cons_of_mem first hmem, hentry⟩

theorem prepareFrom_eq_error {prepared : PreparedBatch}
    {observations : List (AuthenticatedSequenceObservation P)}
    {error : ClientError}
    (h : prepareFrom P prepared observations = Except.error error) :
    error = conflictingDuplicates := by
  induction observations generalizing prepared with
  | nil => cases h
  | cons first rest ih =>
      rw [prepareFrom_cons] at h
      split at h
      · injection h with h
        exact h.symm
      · exact ih h

theorem prepareFrom_succeeds {prepared : PreparedBatch}
    {observations : List (AuthenticatedSequenceObservation P)}
    (hagree : Agreeing (askedBy observations))
    (hprepared : forall observation value, observation ∈ observations ->
      prepared[observation.key]? = some value ->
        value = (observation.counter, observation.digest)) :
    exists result, prepareFrom P prepared observations = Except.ok result := by
  induction observations generalizing prepared with
  | nil => exact ⟨prepared, rfl⟩
  | cons first rest ih =>
      rw [prepareFrom_cons, if_neg]
      · apply ih hagree.tail
        intro observation value hmem hvalue
        rw [getElem_insert_prepared] at hvalue
        split at hvalue
        · rename_i hkey
          injection hvalue with hvalue
          have hsame : asked first.entry = asked observation.entry := by
            apply Prod.ext hkey
            apply hagree (asked first.entry) List.mem_cons_self
              (asked observation.entry) _ hkey
            apply List.mem_cons_of_mem
            exact List.mem_map_of_mem (List.mem_map_of_mem hmem)
          have hentry := asked_injective hsame
          injection hentry with _ hentry
          rw [← hvalue]
          exact hentry
        · exact hprepared observation value
            (List.mem_cons_of_mem first hmem) hvalue
      · rw [Option.any_eq_true]
        rintro ⟨previous, hprevious, hdiffers⟩
        exact of_decide_eq_true hdiffers
          (hprepared first previous List.mem_cons_self hprevious)

theorem prepareBatch_succeeds
    {observations : List (AuthenticatedSequenceObservation P)}
    (hagree : Agreeing (askedBy observations)) :
    exists prepared, prepareBatch P observations = Except.ok prepared := by
  apply prepareFrom_succeeds hagree
  intro observation value _ hvalue
  rw [Std.ExtTreeMap.getElem?_empty] at hvalue
  cases hvalue

/-- A batch is prepared when its entries agree, to a map of its entries. -/
theorem prepareBatch_eq_ok {observations : List (AuthenticatedSequenceObservation P)}
    {prepared : PreparedBatch}
    (h : prepareBatch P observations = Except.ok prepared) :
    Agreeing (askedBy observations) ∧ forall entry,
      entry ∈ prepared.toList.map asked <-> entry ∈ askedBy observations := by
  have hprepared := prepareFrom_eq_ok h
  constructor
  · intro a ha b hb hkey
    unfold askedBy at ha hb
    rw [List.map_map] at ha hb
    rcases List.mem_map.mp ha with ⟨first, hfirst, rfl⟩
    rcases List.mem_map.mp hb with ⟨second, hsecond, rfl⟩
    have hone := hprepared.holds first hfirst
    have htwo := hprepared.holds second hsecond
    rw [show first.key = second.key from hkey, htwo] at hone
    have hvalue : second.entry.2 = first.entry.2 := Option.some.inj hone
    change (asked first.entry).2 = (asked second.entry).2
    unfold asked
    rw [hvalue]
  · intro entry
    unfold askedBy
    constructor
    · intro hentry
      rcases List.mem_map.mp hentry with ⟨⟨key, value⟩, hmem, rfl⟩
      rw [Std.ExtTreeMap.mem_toList_iff_getElem?_eq_some] at hmem
      rcases hprepared.only key value hmem with hempty | ⟨found, hfound, hentry⟩
      · rw [Std.ExtTreeMap.getElem?_empty] at hempty
        cases hempty
      · rw [← hentry]
        exact List.mem_map_of_mem (List.mem_map_of_mem hfound)
    · intro hentry
      rw [List.map_map] at hentry
      rcases List.mem_map.mp hentry with ⟨observation, hmem, rfl⟩
      apply List.mem_map_of_mem
      rw [Std.ExtTreeMap.mem_toList_iff_getElem?_eq_some]
      exact hprepared.holds observation hmem

theorem prepareBatch_congr
    {observations other : List (AuthenticatedSequenceObservation P)}
    (h : forall observation, observation ∈ observations <-> observation ∈ other) :
    prepareBatch P observations = prepareBatch P other := by
  have hasked : forall entry, entry ∈ askedBy observations <->
      entry ∈ askedBy other := by
    intro entry
    unfold askedBy
    simp only [List.map_map, List.mem_map, h]
  cases hfirst : prepareBatch P observations with
  | error e =>
      cases hsecond : prepareBatch P other with
      | error found =>
          rw [prepareFrom_eq_error hfirst, prepareFrom_eq_error hsecond]
      | ok prepared =>
          have hagree := (prepareBatch_eq_ok hsecond).left.congr
            (fun entry => (hasked entry).symm)
          rcases prepareBatch_succeeds hagree with ⟨result, hresult⟩
          rw [hfirst] at hresult
          cases hresult
  | ok prepared =>
      rcases prepareBatch_eq_ok hfirst with ⟨hagree, _⟩
      rcases prepareBatch_succeeds (hagree.congr hasked) with ⟨found, hfound⟩
      rw [hfound]
      congr 1
      apply Std.ExtTreeMap.ext_getElem?
      intro key
      have hone := prepareFrom_eq_ok hfirst
      have htwo := prepareFrom_eq_ok hfound
      cases hvalue : prepared[key]? with
      | none =>
          cases hother : found[key]? with
          | none => rfl
          | some value =>
              rcases htwo.only key value hother with hempty | ⟨o, hmem, hentry⟩
              · rw [Std.ExtTreeMap.getElem?_empty] at hempty
                cases hempty
              · have hheld := hone.holds o ((h o).mpr hmem)
                injection hentry with hkey _
                rw [hkey, hvalue] at hheld
                cases hheld
      | some value =>
          rcases hone.only key value hvalue with hempty | ⟨o, hmem, hentry⟩
          · rw [Std.ExtTreeMap.getElem?_empty] at hempty
            cases hempty
          · have hheld := htwo.holds o ((h o).mp hmem)
            injection hentry with hkey hpair
            rw [hkey] at hheld
            rw [hheld, ← hpair]

end Preparing

/-!
# What a batch does to the memory store
-/

section Semantics

variable {P : Primitives}

/-- Observations of one key have one counter and one digest. -/
def Consistent (observations : List (AuthenticatedSequenceObservation P)) :
    Prop :=
  forall a, a ∈ observations -> forall b, b ∈ observations -> a.key = b.key ->
    a.counter = b.counter ∧ a.digest = b.digest

/-- The observation is new, or follows or repeats the entry stored for its key. -/
def Continues (values : SequenceState)
    (observation : AuthenticatedSequenceObservation P) : Prop :=
  match values[observation.key]? with
  | none => True
  | some (StoredSequence.publisher _) => False
  | some (StoredSequence.authenticated counter digest) =>
      counter < observation.counter ∨
        counter = observation.counter ∧ digest = observation.digest

/-- The map with the observed keys set, and nothing else. -/
def recorded (values : SequenceState) :
    List (AuthenticatedSequenceObservation P) -> SequenceState
  | [] => values
  | observation :: rest =>
      recorded (values.insert observation.key
        (StoredSequence.authenticated observation.counter observation.digest))
        rest

def WithinBounds (P : Primitives) (values : SequenceState) : Prop :=
  values.size ≤ maxStateEntries ∧
    (P.jsonToVec (stateToJson values)).length ≤ maxStateBytes

theorem validateStateBounds_eq_ok {values : SequenceState} :
    validateStateBounds P values = Except.ok () <-> WithinBounds P values := by
  unfold validateStateBounds WithinBounds
  simp only [bind_eq_ok, rejectIf_eq_ok, exists_unit, Nat.not_lt]

theorem recorded_eq (values : SequenceState)
    (observations : List (AuthenticatedSequenceObservation P)) :
    recorded values observations = setEntries values
      (observations.map AuthenticatedSequenceObservation.entry) := by
  induction observations generalizing values with
  | nil => rfl
  | cons first rest ih => exact ih _

theorem ledger_recorded (values : SequenceState)
    (observations : List (AuthenticatedSequenceObservation P)) :
    ledger (recorded values observations) =
      (ledger values).setAll (askedBy observations) := by
  rw [recorded_eq, ledger_setEntries]
  rfl

/-- A slot of the ledger is an entry of the map. -/
theorem getElem_eq_of_ledger {values other : SequenceState} {key : String}
    (h : ledger values key = ledger other key) :
    values[key]? = other[key]? :=
  Option.map_injective (fun _ _ => StoredSequence.slot_injective) h

theorem getElem_recorded_of_mem {values : SequenceState}
    {observations : List (AuthenticatedSequenceObservation P)}
    {observation : AuthenticatedSequenceObservation P}
    (hagree : Agreeing (askedBy observations)) (h : observation ∈ observations) :
    (recorded values observations)[observation.key]? =
      some (StoredSequence.authenticated observation.counter
        observation.digest) := by
  have hslot : ledger (recorded values observations) observation.key =
      some (Slot.floor (asked observation.entry).2) := by
    rw [ledger_recorded]
    exact Ledger.setAll_of_mem hagree
      (List.mem_map_of_mem (List.mem_map_of_mem h))
  exact Option.map_injective (fun _ _ => StoredSequence.slot_injective) hslot

theorem getElem_recorded_of_not_mem {values : SequenceState}
    {observations : List (AuthenticatedSequenceObservation P)} {key : String}
    (h : forall observation, observation ∈ observations ->
      observation.key ≠ key) :
    (recorded values observations)[key]? = values[key]? := by
  apply getElem_eq_of_ledger
  rw [ledger_recorded, Ledger.setAll_of_not_mem]
  intro entry hentry
  unfold askedBy at hentry
  rw [List.map_map] at hentry
  rcases List.mem_map.mp hentry with ⟨observation, hmem, rfl⟩
  exact h observation hmem

theorem consistent_iff {observations : List (AuthenticatedSequenceObservation P)} :
    Consistent observations <-> Agreeing (askedBy observations) := by
  unfold askedBy
  constructor
  · intro h a ha b hb hkey
    rw [List.map_map] at ha hb
    rcases List.mem_map.mp ha with ⟨first, hfirst, rfl⟩
    rcases List.mem_map.mp hb with ⟨second, hsecond, rfl⟩
    rcases h first hfirst second hsecond hkey with ⟨hcounter, hdigest⟩
    have hvalue : first.entry.2 = second.entry.2 := Prod.ext hcounter hdigest
    change (asked first.entry).2 = (asked second.entry).2
    unfold asked
    rw [hvalue]
  · intro h a ha b hb hkey
    have hvalue := h _ (List.mem_map_of_mem (List.mem_map_of_mem ha)) _
      (List.mem_map_of_mem (List.mem_map_of_mem hb)) hkey
    have hsame : a.entry = b.entry := asked_injective (Prod.ext hkey hvalue)
    injection hsame with _ hpair
    injection hpair with hcounter hdigest
    exact ⟨hcounter, hdigest⟩

theorem continues_iff {values : SequenceState}
    {observation : AuthenticatedSequenceObservation P} :
    Continues values observation <->
      (ledger values).Admits (asked observation.entry) := by
  unfold Continues Ledger.Admits ledger asked AuthenticatedSequenceObservation.entry
  dsimp only
  cases values[observation.key]? with
  | none => exact Iff.rfl
  | some stored =>
      cases stored with
      | publisher counter => exact Iff.rfl
      | authenticated counter digest =>
          change (counter < observation.counter ∨
              counter = observation.counter ∧ digest = observation.digest) <->
            (counter.toNat < observation.counter.toNat ∨ _)
          rw [UInt64.lt_iff_toNat_lt]
          constructor
          · rintro (hlower | ⟨rfl, rfl⟩)
            · exact Or.inl hlower
            · exact Or.inr rfl
          · rintro (hlower | heq)
            · exact Or.inl hlower
            · injection heq with hcounter hdigest
              exact Or.inr ⟨UInt64.toNat_inj.mp hcounter, hdigest⟩

theorem accepts_iff {values : SequenceState}
    {observations : List (AuthenticatedSequenceObservation P)} :
    (ledger values).Accepts (askedBy observations) <->
      Consistent observations ∧ forall observation,
        observation ∈ observations -> Continues values observation := by
  constructor
  · intro h
    refine ⟨consistent_iff.mpr h.agreeing, ?_⟩
    intro observation hmem
    exact continues_iff.mpr
      (h.admits _ (List.mem_map_of_mem (List.mem_map_of_mem hmem)))
  · rintro ⟨hconsistent, hcontinues⟩
    refine ⟨consistent_iff.mp hconsistent, ?_⟩
    intro entry hentry
    unfold askedBy at hentry
    rw [List.map_map] at hentry
    rcases List.mem_map.mp hentry with ⟨observation, hmem, rfl⟩
    exact continues_iff.mp (hcontinues observation hmem)

namespace MemorySequenceStore

theorem stageUpdate_recordUpdate {values staged : SequenceState}
    {prepared : PreparedBatch} :
    stageUpdate P values (recordUpdate prepared) = Except.ok (staged, ()) <->
      recordEntries values prepared.toList = Except.ok staged ∧
        WithinBounds P staged := by
  constructor
  · intro h
    rcases stageUpdate_eq_ok h with ⟨hupdate, hbounds⟩
    unfold recordUpdate at hupdate
    simp only [bind_eq_ok, pure_eq_ok] at hupdate
    rcases hupdate with ⟨found, hrecord, hpair⟩
    injection hpair with hfound _
    rw [← hfound] at hbounds ⊢
    exact ⟨hrecord, validateStateBounds_eq_ok.mp hbounds⟩
  · rintro ⟨hrecord, hbounds⟩
    unfold stageUpdate
    simp only [bind_eq_ok, pure_eq_ok, exists_unit]
    refine ⟨(staged, ()), ?_, validateStateBounds_eq_ok.mpr hbounds, rfl⟩
    unfold recordUpdate recordAuthenticatedBatch
    rw [hrecord]
    rfl

theorem updateMemory_eq_ok {values after : SequenceState}
    {update : SequenceState -> ClientResult (SequenceState × Unit)} :
    updateMemory P values update = (after, Except.ok ()) <->
      stageUpdate P values update = Except.ok (after, ()) := by
  unfold updateMemory
  cases stageUpdate P values update with
  | error e =>
      constructor
      · intro h
        injection h with _ h
        cases h
      · intro h
        cases h
  | ok pair =>
      constructor
      · intro h
        injection h with h
        rw [← h]
      · intro h
        injection h with h
        rw [h]

/-- A batch succeeds exactly when the ledger accepts it within the bounds. -/
theorem recordBatch_eq_ok {values after : SequenceState}
    {observations : List (AuthenticatedSequenceObservation P)} :
    recordBatch P values observations = (after, Except.ok ()) <->
      (ledger values).Accepts (askedBy observations) ∧
        WithinBounds P (recorded values observations) ∧
        after = recorded values observations := by
  unfold recordBatch
  cases hprepare : prepareBatch P observations with
  | error e =>
      constructor
      · intro h
        injection h with _ h
        cases h
      · rintro ⟨haccepts, _⟩
        rcases prepareBatch_succeeds haccepts.agreeing with
          ⟨prepared, hprepared⟩
        rw [hprepare] at hprepared
        cases hprepared
  | ok prepared =>
      rcases prepareBatch_eq_ok hprepare with ⟨hagree, hentries⟩
      have hmembers : forall entry, entry ∈ askedBy observations <->
          entry ∈ prepared.toList.map asked :=
        fun entry => (hentries entry).symm
      have hset : setEntries values prepared.toList =
          recorded values observations := by
        apply ledger_injective
        rw [ledger_setEntries, ledger_recorded,
          Ledger.setAll_congr hagree hmembers]
      dsimp only
      rw [updateMemory_eq_ok, stageUpdate_recordUpdate]
      constructor
      · rintro ⟨hrecord, hbounds⟩
        rcases recordEntries_accepts (hagree.congr hmembers) hrecord with
          ⟨haccepts, heq⟩
        rw [hset] at heq
        rw [heq] at hbounds
        exact ⟨haccepts.congr hentries, hbounds, heq⟩
      · rintro ⟨haccepts, hbounds, rfl⟩
        refine ⟨?_, hbounds⟩
        have hprepared := haccepts.congr hmembers
        rcases recordEntries_succeeds hprepared with
          ⟨staged, hstaged⟩ | ⟨_, hfull⟩
        · rcases recordEntries_accepts hprepared.agreeing hstaged with ⟨_, heq⟩
          rw [hstaged, heq, hset]
        · rw [hset] at hfull
          exact absurd hbounds.left (Nat.not_le_of_lt hfull)

theorem recordBatch_of_not_ok {values : SequenceState}
    {observations : List (AuthenticatedSequenceObservation P)}
    (h : (recordBatch P values observations).2 ≠ Except.ok ()) :
    (recordBatch P values observations).1 = values := by
  unfold recordBatch at h ⊢
  cases hprepare : prepareBatch P observations with
  | error e => rfl
  | ok prepared =>
      rw [hprepare] at h
      have hupdate : updateMemory P values (recordUpdate prepared) =
          ((updateMemory P values (recordUpdate prepared)).1,
            (updateMemory P values (recordUpdate prepared)).2) := rfl
      rcases updateMemory_cases hupdate with ⟨value, hok, _⟩ | ⟨_, _, hsame⟩
      · exact absurd hok h
      · exact hsame

/-!
# Limits

An update that the map allows is refused only for the size of what it leaves.
-/

/-- The store refuses for the size of the map it would keep. -/
def AtLimit (error : ClientError) : Prop :=
  error = entryLimitReached ∨ error = stateTooLarge

theorem updateMemory_of_error {α : Type} {values : SequenceState}
    {update : SequenceState -> ClientResult (SequenceState × α)}
    {error : ClientError} (h : update values = Except.error error) :
    updateMemory P values update = (values, Except.error error) := by
  unfold updateMemory stageUpdate
  rw [h]
  rfl

theorem updateMemory_of_ok {α : Type} {values staged : SequenceState}
    {update : SequenceState -> ClientResult (SequenceState × α)} {result : α}
    (h : update values = Except.ok (staged, result)) :
    updateMemory P values update = (staged, Except.ok result) ∨
      exists error, AtLimit error ∧
        updateMemory P values update = (values, Except.error error) := by
  unfold updateMemory stageUpdate validateStateBounds
  rw [h, ok_bind]
  dsimp only
  by_cases hsize : staged.size > maxStateEntries
  · right
    refine ⟨entryLimitReached, Or.inl rfl, ?_⟩
    rw [rejectIf_of hsize]
    rfl
  · rw [rejectIf_of_not hsize, ok_bind]
    by_cases hbytes : (P.jsonToVec (stateToJson staged)).length > maxStateBytes
    · right
      refine ⟨stateTooLarge, Or.inr rfl, ?_⟩
      rw [rejectIf_of hbytes]
      rfl
    · left
      rw [rejectIf_of_not hbytes]
      rfl

theorem recordBatch_of_accepts {values : SequenceState}
    {observations : List (AuthenticatedSequenceObservation P)}
    (h : (ledger values).Accepts (askedBy observations)) :
    recordBatch P values observations =
        (recorded values observations, Except.ok ()) ∨
      exists error, AtLimit error ∧
        recordBatch P values observations = (values, Except.error error) := by
  rcases prepareBatch_succeeds h.agreeing with ⟨prepared, hprepare⟩
  rcases prepareBatch_eq_ok hprepare with ⟨hagree, hentries⟩
  have hmembers : forall entry, entry ∈ askedBy observations <->
      entry ∈ prepared.toList.map asked :=
    fun entry => (hentries entry).symm
  have hrun : recordBatch P values observations =
      updateMemory P values (recordUpdate prepared) := by
    unfold recordBatch
    rw [hprepare]
  rcases recordEntries_succeeds (h.congr hmembers) with
    ⟨staged, hstaged⟩ | ⟨hlimit, _⟩
  · have hset : staged = recorded values observations := by
      rcases recordEntries_accepts (hagree.congr hmembers) hstaged with ⟨_, heq⟩
      apply ledger_injective
      rw [heq, ledger_setEntries, ledger_recorded,
        Ledger.setAll_congr hagree hmembers]
    have hupdate : recordUpdate prepared values = Except.ok (staged, ()) := by
      unfold recordUpdate recordAuthenticatedBatch
      rw [hstaged]
      rfl
    rw [hrun, ← hset]
    exact updateMemory_of_ok hupdate
  · right
    have hupdate : recordUpdate prepared values =
        Except.error entryLimitReached := by
      unfold recordUpdate recordAuthenticatedBatch
      rw [hlimit]
      rfl
    rw [hrun]
    exact ⟨entryLimitReached, Or.inl rfl, updateMemory_of_error hupdate⟩

theorem recordBatch_of_not_accepts {values : SequenceState}
    {observations : List (AuthenticatedSequenceObservation P)}
    (h : ¬ (ledger values).Accepts (askedBy observations)) :
    exists error, recordBatch P values observations =
      (values, Except.error error) := by
  cases hresult : (recordBatch P values observations).2 with
  | ok u => exact absurd (recordBatch_eq_ok.mp (Prod.ext rfl hresult)).left h
  | error e =>
      refine ⟨e, Prod.ext (recordBatch_of_not_ok ?_) hresult⟩
      rw [hresult]
      exact nofun

/-- The meaning of one batch, in terms of the map before and after it. -/
structure BatchSemantics (P : Primitives) (values : SequenceState)
    (observations : List (AuthenticatedSequenceObservation P)) : Prop where
  succeeds : (recordBatch P values observations).2 = Except.ok () <->
    Consistent observations ∧
      (forall observation, observation ∈ observations ->
        Continues values observation) ∧
      WithinBounds P (recorded values observations)
  sets : (recordBatch P values observations).2 = Except.ok () ->
    (recordBatch P values observations).1 = recorded values observations ∧
      (forall observation, observation ∈ observations ->
        (recordBatch P values observations).1[observation.key]? =
          some (StoredSequence.authenticated observation.counter
            observation.digest)) ∧
      forall key, (forall observation, observation ∈ observations ->
          observation.key ≠ key) ->
        (recordBatch P values observations).1[key]? = values[key]?
  keeps : (recordBatch P values observations).2 ≠ Except.ok () ->
    (recordBatch P values observations).1 = values
  unordered (other : List (AuthenticatedSequenceObservation P)) :
    (forall observation, observation ∈ observations <-> observation ∈ other) ->
      recordBatch P values observations = recordBatch P values other
  repeatable : (recordBatch P values observations).2 = Except.ok () ->
    recordBatch P (recordBatch P values observations).1 observations =
      ((recordBatch P values observations).1, Except.ok ())
  commutes (other : List (AuthenticatedSequenceObservation P)) :
    (recordBatch P values observations).2 = Except.ok () ->
    (recordBatch P (recordBatch P values observations).1 other).2 =
      Except.ok () ->
    (recordBatch P values other).2 = Except.ok () ->
    (recordBatch P (recordBatch P values other).1 observations).2 =
      Except.ok () ->
    (recordBatch P (recordBatch P values observations).1 other).1 =
      (recordBatch P (recordBatch P values other).1 observations).1

/-- In every map, reachable or not, and for every list of observations. -/
theorem batch_semantics (values : SequenceState)
    (observations : List (AuthenticatedSequenceObservation P)) :
    BatchSemantics P values observations := by
  have hok : forall (before : SequenceState)
      (batch : List (AuthenticatedSequenceObservation P)),
      (recordBatch P before batch).2 = Except.ok () ->
        (ledger before).Accepts (askedBy batch) ∧
          WithinBounds P (recorded before batch) ∧
          (recordBatch P before batch).1 = recorded before batch :=
    fun before batch h => recordBatch_eq_ok.mp (Prod.ext rfl h)
  constructor
  case succeeds =>
    constructor
    · intro h
      rcases hok _ _ h with ⟨haccepts, hbounds, _⟩
      rcases accepts_iff.mp haccepts with ⟨hconsistent, hcontinues⟩
      exact ⟨hconsistent, hcontinues, hbounds⟩
    · rintro ⟨hconsistent, hcontinues, hbounds⟩
      rw [recordBatch_eq_ok.mpr
        ⟨accepts_iff.mpr ⟨hconsistent, hcontinues⟩, hbounds, rfl⟩]
  case sets =>
    intro h
    rcases hok _ _ h with ⟨haccepts, _, hafter⟩
    rw [hafter]
    refine ⟨rfl, ?_, ?_⟩
    · intro observation hmem
      exact getElem_recorded_of_mem haccepts.agreeing hmem
    · intro key hkey
      exact getElem_recorded_of_not_mem hkey
  case keeps => exact recordBatch_of_not_ok
  case unordered =>
    intro other h
    unfold recordBatch
    rw [prepareBatch_congr h]
  case repeatable =>
    intro h
    rcases hok _ _ h with ⟨haccepts, hbounds, hafter⟩
    have hledger : (ledger (recorded values observations)).setAll
        (askedBy observations) = ledger (recorded values observations) := by
      rw [ledger_recorded, Ledger.setAll_setAll haccepts.agreeing]
    have hsame : recorded (recorded values observations) observations =
        recorded values observations := by
      apply ledger_injective
      rw [ledger_recorded, hledger]
    rw [hafter, recordBatch_eq_ok, hsame]
    refine ⟨?_, hbounds, rfl⟩
    rw [ledger_recorded]
    exact haccepts.again
  case commutes =>
    intro other hfirst hfirst' hother hother'
    rcases hok _ _ hfirst with ⟨haccepts, _, hafter⟩
    rcases hok _ _ hother with ⟨hotherAccepts, _, hotherAfter⟩
    rw [hafter] at hfirst' ⊢
    rw [hotherAfter] at hother' ⊢
    rcases hok _ _ hfirst' with ⟨hlast, _, hlastAfter⟩
    rcases hok _ _ hother' with ⟨hotherLast, _, hotherLastAfter⟩
    rw [hlastAfter, hotherLastAfter]
    apply ledger_injective
    rw [ledger_recorded] at hlast hotherLast
    rw [ledger_recorded, ledger_recorded, ledger_recorded, ledger_recorded]
    exact Ledger.setAll_comm haccepts hlast hotherAccepts hotherLast

end MemorySequenceStore

end Semantics

end Client
end Pubky2Pubky
