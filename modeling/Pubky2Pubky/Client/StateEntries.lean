import Pubky2Pubky.Client.Batches

/-!
# Entries that a reader accepts

`read_state` checks every entry of the file again. The operations of a store
write only entries that pass these checks, and they lower nothing.
-/

namespace Pubky2Pubky
namespace Client

open Foundation Protocol

namespace FileSequenceStore

section Entries

variable {P : Primitives}

/-- Every entry of the map passes the checks of `read_state`. -/
def ValidEntries (P : Primitives) (values : SequenceState) : Prop :=
  forall key value, values[key]? = some value ->
    validateStoredEntry P key value = Except.ok ()

theorem validEntries_empty : ValidEntries P ∅ := by
  intro key value hvalue
  rw [Std.ExtTreeMap.getElem?_empty] at hvalue
  cases hvalue

theorem ValidEntries.validate {values : SequenceState}
    (h : ValidEntries P values) :
    validateEntries P values.toList = Except.ok () := by
  have hall : forall entries : List (String × StoredSequence),
      (forall entry, entry ∈ entries ->
        validateStoredEntry P entry.1 entry.2 = Except.ok ()) ->
      validateEntries P entries = Except.ok () := by
    intro entries hentries
    induction entries with
    | nil => rfl
    | cons entry rest ih =>
        rcases entry with ⟨key, value⟩
        unfold validateEntries
        rw [hentries (key, value) List.mem_cons_self, ok_bind]
        exact ih fun later hlater =>
          hentries later (List.mem_cons_of_mem _ hlater)
  apply hall
  rintro ⟨key, value⟩ hmem
  rw [Std.ExtTreeMap.mem_toList_iff_getElem?_eq_some] at hmem
  exact h key value hmem

theorem ValidEntries.insert {values : SequenceState} {key : String}
    {value : StoredSequence} (h : ValidEntries P values)
    (hvalue : validateStoredEntry P key value = Except.ok ()) :
    ValidEntries P (values.insert key value) := by
  intro other found hfound
  rw [getElem_insert] at hfound
  split at hfound
  · rename_i hkey
    injection hfound with hfound
    rw [← hkey, ← hfound]
    exact hvalue
  · exact h other found hfound

theorem ValidEntries.setEntries {values : SequenceState}
    {entries : List (String × (UInt64 × Digest))} (h : ValidEntries P values)
    (hentries : forall entry, entry ∈ entries ->
      validateStoredEntry P entry.1
        (StoredSequence.authenticated entry.2.1 entry.2.2) = Except.ok ()) :
    ValidEntries P (setEntries values entries) := by
  induction entries generalizing values with
  | nil => exact h
  | cons entry rest ih =>
      rcases entry with ⟨key, counter, digest⟩
      apply ih
      · exact h.insert (hentries (key, counter, digest) List.mem_cons_self)
      · exact fun later hlater => hentries later (List.mem_cons_of_mem _ hlater)

variable [P.ZBase32]

/-- A canonical identity has no colon, so a state key splits after it. -/
theorem splitOnce_stateKey {identity scope key : String}
    (h : stateKey P identity scope = Except.ok key) :
    splitOnce key.toList = some (identity.toList, scope.toList) := by
  rcases stateKey_eq_ok.mp h with ⟨parsed, _, hz32, _, _, _, rfl⟩
  have hletters : forall c, c ∈ identity.toList -> (c != ':') = true := by
    have hall : z32Alphabet.toList.all (fun c => c != ':') = true := by decide
    intro c hc
    rw [← hz32] at hc
    exact List.all_eq_true.mp hall c (Primitives.ZBase32.z32_chars parsed c hc)
  have hcolon : ":".toList = [':'] := by decide
  unfold splitOnce
  rw [String.toList_append, String.toList_append, hcolon, List.append_assoc,
    List.dropWhile_append_of_pos hletters, List.takeWhile_append_of_pos hletters]
  change some (identity.toList ++ [], scope.toList) = _
  rw [List.append_nil]

theorem validateStoredEntry_of_stateKey {identity scope key : String}
    (h : stateKey P identity scope = Except.ok key) (value : StoredSequence) :
    validateStoredEntry P key value =
      match value with
      | StoredSequence.authenticated counter _ => do
          rejectIf (counter = 0) (ClientError.state
            "authenticated sequence state contains a zero counter")
          rejectIf (reservedScope scope = true) (ClientError.state
            "authenticated sequence state uses a reserved scope")
      | StoredSequence.publisher _ =>
          rejectIf (validPublisherScope P scope = false) (ClientError.state
            "publisher sequence state has an invalid scope") := by
  unfold validateStoredEntry
  rw [splitOnce_stateKey h]
  change (Except.ok (identity.toList, scope.toList) >>= _) = _
  rw [ok_bind]
  dsimp only
  rw [String.ofList_toList, String.ofList_toList, h, ok_bind,
    rejectIf_of_not (not_not.mpr rfl)]
  cases value with
  | authenticated counter digest => rfl
  | publisher counter => rfl

theorem validateStoredEntry_observation
    (observation : AuthenticatedSequenceObservation P) :
    validateStoredEntry P observation.key (StoredSequence.authenticated
      observation.counter observation.digest) = Except.ok () := by
  have hscope : ¬ reservedScope observation.scope = true := by
    rw [observation.unreserved]
    exact Bool.false_ne_true
  rw [validateStoredEntry_of_stateKey observation.keyed]
  dsimp only
  rw [rejectIf_of_not observation.positive, ok_bind, rejectIf_of_not hscope]

theorem validateStoredEntry_publisher {identity controlKey key : String}
    (h : publisherKey P identity controlKey = Except.ok key) (counter : UInt64) :
    validateStoredEntry P key (StoredSequence.publisher counter) =
      Except.ok () := by
  unfold publisherKey at h
  simp only [bind_eq_ok, okOr_eq_ok, rejectIf_eq_ok, exists_unit, not_not] at h
  rcases h with ⟨parsed, hparsed, hz32, hkey⟩
  have hscope : ¬ validPublisherScope P (publisherScopePrefix ++ controlKey) =
      false := by
    unfold validPublisherScope
    rw [if_pos (reservedScope_publisher controlKey),
      controlKey_publisher controlKey]
    dsimp only
    rw [hparsed, Option.any_some, hz32, beq_self_eq_true]
    exact Bool.noConfusion
  rw [validateStoredEntry_of_stateKey hkey]
  dsimp only
  rw [rejectIf_of_not hscope]

end Entries

/-!
# Operations

The checks an operation makes before it takes the lock give the update that
`update_file` applies to the map.
-/

section Operations

variable (P : Primitives)

inductive Operation where
  | recordBatch (observations : List (AuthenticatedSequenceObservation P))
  | initializeLocatorPublisher (identity controlKey : String)
  | nextLocatorSequence (identity controlKey : String)

/-- The map and the number an update returns; only an allocation returns one. -/
abbrev Update := SequenceState -> ClientResult (SequenceState × Nat)

def Operation.prepare : Operation P -> ClientResult Update
  | recordBatch observations => do
      let prepared <- prepareBatch P observations
      pure fun values => do
        let staged <- recordAuthenticatedBatch values prepared
        pure (staged, 0)
  | initializeLocatorPublisher identity controlKey => do
      let key <- publisherKey P identity controlKey
      pure fun values => do
        let staged <- initializePublisher values key
        pure (staged, 0)
  | nextLocatorSequence identity controlKey => do
      let key <- publisherKey P identity controlKey
      pure fun values => do
        let (staged, value) <- nextPublisherValue values key
        pure (staged, value.toNat)

/-- What the update of an operation does to the map. -/
structure Advances (operation : Operation P) (before after : SequenceState)
    (result : Nat) : Prop where
  valid : ValidEntries P before -> ValidEntries P after
  grows : (ledger before).Grows (ledger after)
  allocated (identity controlKey key : String) :
    operation = Operation.nextLocatorSequence identity controlKey ->
    publisherKey P identity controlKey = Except.ok key ->
    exists last, ledger before key = some (Slot.counter last) ∧
      result = last + 1 ∧ ledger after key = some (Slot.counter result)

variable {P}

theorem grows_of_unused {values : SequenceState} {key : String}
    (h : values[key]? = none) (value : StoredSequence) :
    (ledger values).Grows (ledger (values.insert key value)) := by
  rw [ledger_insert]
  apply Ledger.grows_update
  intro slot hslot
  unfold ledger at hslot
  rw [h] at hslot
  cases hslot

variable [P.ZBase32]

theorem recordBatch_advances
    {observations : List (AuthenticatedSequenceObservation P)}
    {prepared : PreparedBatch} {before after : SequenceState}
    (hprepare : prepareBatch P observations = Except.ok prepared)
    (h : recordEntries before prepared.toList = Except.ok after) :
    Advances P (Operation.recordBatch observations) before after 0 := by
  rcases prepareBatch_eq_ok hprepare with ⟨hagree, hentries⟩
  have hmembers : forall entry, entry ∈ askedBy observations <->
      entry ∈ prepared.toList.map asked :=
    fun entry => (hentries entry).symm
  rcases recordEntries_accepts (hagree.congr hmembers) h with ⟨haccepts, rfl⟩
  constructor
  case valid =>
    intro hvalid
    apply hvalid.setEntries
    rintro ⟨key, value⟩ hentry
    rw [Std.ExtTreeMap.mem_toList_iff_getElem?_eq_some] at hentry
    rcases (prepareFrom_eq_ok hprepare).only key value hentry with
      hnone | ⟨observation, _, hsame⟩
    · rw [Std.ExtTreeMap.getElem?_empty] at hnone
      cases hnone
    · rw [← hsame]
      exact validateStoredEntry_observation observation
  case grows =>
    rw [ledger_setEntries]
    exact haccepts.grows
  case allocated =>
    intro identity controlKey key hoperation
    cases hoperation

theorem initializePublisher_advances {identity controlKey key : String}
    {before after : SequenceState}
    (hkey : publisherKey P identity controlKey = Except.ok key)
    (h : initializePublisher before key = Except.ok after) :
    Advances P (Operation.initializeLocatorPublisher identity controlKey) before
      after 0 := by
  unfold initializePublisher at h
  simp only [bind_eq_ok, rejectIf_eq_ok, exists_unit, pure_eq_ok] at h
  rcases h with ⟨hfresh, _, rfl⟩
  have hnone : before[key]? = none :=
    Std.ExtTreeMap.getElem?_eq_none_of_contains_eq_false
      (Bool.eq_false_iff.mpr hfresh)
  constructor
  case valid =>
    intro hvalid
    exact hvalid.insert (validateStoredEntry_publisher hkey 0)
  case grows => exact grows_of_unused hnone _
  case allocated =>
    intro owner control found hoperation
    cases hoperation

theorem nextPublisherValue_advances {identity controlKey key : String}
    {before after : SequenceState} {value : UInt64}
    (hkey : publisherKey P identity controlKey = Except.ok key)
    (h : nextPublisherValue before key = Except.ok (after, value)) :
    Advances P (Operation.nextLocatorSequence identity controlKey) before after
      value.toNat := by
  unfold nextPublisherValue at h
  cases hfound : before[key]? with
  | none =>
      rw [hfound] at h
      cases h
  | some stored =>
      rw [hfound] at h
      cases stored with
      | authenticated counter digest => cases h
      | publisher counter =>
          dsimp only at h
          split at h
          · rename_i hroom
            injection h with hpair
            injection hpair with hafter hvalue
            subst hafter hvalue
            have hslot : ledger before key =
                some (Slot.counter counter.toNat) := by
              unfold ledger
              rw [hfound]
              rfl
            have hnext : (counter + 1).toNat = counter.toNat + 1 := by
              rw [UInt64.toNat_add, UInt64.toNat_one, Nat.mod_eq_of_lt hroom]
            constructor
            case valid =>
              intro hvalid
              exact hvalid.insert (validateStoredEntry_publisher hkey _)
            case grows =>
              rw [ledger_insert]
              apply Ledger.grows_update
              intro slot hbefore
              rw [hslot] at hbefore
              injection hbefore with hbefore
              rw [← hbefore]
              change counter.toNat ≤ (counter + 1).toNat
              rw [hnext]
              exact Nat.le_succ _
            case allocated =>
              intro owner control found hoperation howner
              injection hoperation with hidentity hcontrol
              rw [← hidentity, ← hcontrol, hkey] at howner
              injection howner with howner
              subst howner
              refine ⟨counter.toNat, hslot, hnext, ?_⟩
              rw [ledger_insert, Function.update_self]
              rfl
          · cases h

/-- Whatever an operation writes, a reader accepts, and nothing is lowered. -/
theorem Operation.prepare_advances {operation : Operation P} {update : Update}
    {before after : SequenceState} {result : Nat}
    (hprepare : operation.prepare = Except.ok update)
    (h : update before = Except.ok (after, result)) :
    Advances P operation before after result := by
  cases operation with
  | recordBatch observations =>
      unfold prepare at hprepare
      simp only [bind_eq_ok, pure_eq_ok] at hprepare
      rcases hprepare with ⟨prepared, hprepared, rfl⟩
      simp only [bind_eq_ok, pure_eq_ok] at h
      rcases h with ⟨staged, hrecord, hpair⟩
      injection hpair with hstaged hresult
      subst hstaged hresult
      exact recordBatch_advances hprepared hrecord
  | initializeLocatorPublisher identity controlKey =>
      unfold prepare at hprepare
      simp only [bind_eq_ok, pure_eq_ok] at hprepare
      rcases hprepare with ⟨key, hkey, rfl⟩
      simp only [bind_eq_ok, pure_eq_ok] at h
      rcases h with ⟨staged, hinitialize, hpair⟩
      injection hpair with hstaged hresult
      subst hstaged hresult
      exact initializePublisher_advances hkey hinitialize
  | nextLocatorSequence identity controlKey =>
      unfold prepare at hprepare
      simp only [bind_eq_ok, pure_eq_ok] at hprepare
      rcases hprepare with ⟨key, hkey, rfl⟩
      simp only [bind_eq_ok, pure_eq_ok] at h
      rcases h with ⟨⟨staged, value⟩, hnext, hpair⟩
      injection hpair with hstaged hresult
      subst hstaged hresult
      exact nextPublisherValue_advances hkey hnext

end Operations

end FileSequenceStore

end Client
end Pubky2Pubky
