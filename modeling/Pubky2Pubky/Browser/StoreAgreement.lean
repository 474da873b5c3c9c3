import Pubky2Pubky.Foundation.Machine
import Pubky2Pubky.Protocol.Reference
import Pubky2Pubky.Client.Batches
import Pubky2Pubky.Browser.SequenceLedger

/-!
# The two sequence stores agree

The browser keeps the counters of all accounts in one object store, and a native
client keeps one map for its account. Until one of them runs into a limit, they
accept the same operations, allocate the same numbers and keep the same
contents.
-/

namespace Pubky2Pubky
namespace Browser

open Foundation Protocol Client

/-!
# Sites

A site is what both stores make a key for: an identity and a scope of its own.
-/

structure Site (P : Primitives) where
  identity : String
  scope : String
  key : String
  keyed : stateKey P identity scope = Except.ok key

theorem append_inj_left {first second rest later : String}
    (hlength : first.toList.length = second.toList.length)
    (h : first ++ rest = second ++ later) : first = second ∧ rest = later := by
  have hlist := congrArg String.toList h
  rw [String.toList_append, String.toList_append] at hlist
  rcases List.append_inj hlist hlength with ⟨hfirst, hrest⟩
  exact ⟨String.toList_inj.mp hfirst, String.toList_inj.mp hrest⟩

theorem joinKey_inj {account identity scope other owner part : String}
    (haccount : account.toList.length = other.toList.length)
    (hidentity : identity.toList.length = owner.toList.length)
    (h : joinKey account identity scope = joinKey other owner part) :
    account = other ∧ identity = owner ∧ scope = part := by
  unfold joinKey at h
  simp only [String.append_assoc] at h
  rcases append_inj_left haccount h with ⟨hone, hrest⟩
  rcases append_inj_left rfl hrest with ⟨_, hrest⟩
  rcases append_inj_left hidentity hrest with ⟨htwo, hrest⟩
  rcases append_inj_left rfl hrest with ⟨_, hthree⟩
  exact ⟨hone, htwo, hthree⟩

theorem isZ32_length {text : String} (h : isZ32 text = true) :
    text.toList.length = 52 := by
  unfold isZ32 at h
  rw [Bool.and_eq_true, decide_eq_true_eq] at h
  exact h.left

section Texts

variable {P : Primitives}

theorem isZ32_z32 [P.Lawful] [P.ZBase32] (key : P.PublicKey) : isZ32 (P.z32 key) = true := by
  unfold isZ32
  rw [Primitives.Lawful.z32_length, Bool.and_eq_true, List.all_eq_true]
  constructor
  · rfl
  · intro c hc
    exact List.contains_iff_mem.mpr (Primitives.ZBase32.z32_chars key c hc)

theorem isDigest_base64Encode [P.Lawful] [P.UrlSafe] (digest : Digest) :
    isDigest (P.base64Encode digest.val) = true := by
  have halphabet : base64UrlAlphabet.toList.all digestChar = true := by decide
  unfold isDigest
  rw [Primitives.Lawful.base64Encode_length, digest.property, Bool.and_eq_true,
    List.all_eq_true]
  constructor
  · rfl
  · intro c hc
    exact List.all_eq_true.mp halphabet c
      (Primitives.UrlSafe.base64Encode_chars digest.val c hc)

theorem isScope_of_stateKey {identity scope key : String}
    (h : stateKey P identity scope = Except.ok key) : isScope scope = true := by
  rcases stateKey_eq_ok.mp h with ⟨_, _, _, hnonempty, hbounded, hchars, _⟩
  have hascii : forall c, c ∈ scope.toList -> c.toNat < 128 := by
    intro c hc
    have hchar := List.all_eq_true.mp hchars c hc
    unfold scopeChar at hchar
    simp only [Bool.or_eq_true, Bool.and_eq_true, decide_eq_true_eq,
      beq_iff_eq] at hchar
    rcases hchar with ((((h | h) | h) | rfl) | rfl) | rfl
    · exact Nat.lt_of_le_of_lt h.right (by decide)
    · exact Nat.lt_of_le_of_lt h.right (by decide)
    · exact Nat.lt_of_le_of_lt h.right (by decide)
    · decide
    · decide
    · decide
  have hlength : scope.toList.length = scope.utf8ByteSize := by
    rw [← utf8_toList_length, Json.utf8_length_ascii hascii]
  have hpositive : 1 ≤ scope.utf8ByteSize := by
    rw [Nat.one_le_iff_ne_zero, ne_eq, String.utf8ByteSize_eq_zero_iff]
    exact hnonempty
  unfold isScope
  rw [hlength, hchars, decide_eq_true hpositive, decide_eq_true hbounded]
  rfl

end Texts

namespace Site

variable {P : Primitives}

/-- The key of the site in the object store. -/
def recordKey (account : P.PublicKey) (site : Site P) : String :=
  joinKey (P.z32 account) site.identity site.scope

theorem identity_z32 (site : Site P) :
    exists root : P.PublicKey, site.identity = P.z32 root := by
  rcases stateKey_eq_ok.mp site.keyed with ⟨root, _, hz32, _⟩
  exact ⟨root, hz32.symm⟩

theorem identity_length [P.Lawful] (site : Site P) : site.identity.toList.length = 52 := by
  rcases site.identity_z32 with ⟨root, hroot⟩
  rw [hroot]
  exact Primitives.Lawful.z32_length root

theorem key_eq (site : Site P) :
    site.key = site.identity ++ ":" ++ site.scope := by
  rcases stateKey_eq_ok.mp site.keyed with ⟨_, _, _, _, _, _, hkey⟩
  exact hkey.symm

theorem eq_of {site other : Site P} (hidentity : site.identity = other.identity)
    (hscope : site.scope = other.scope) : site = other := by
  have hkey : site.key = other.key := by
    rw [site.key_eq, other.key_eq, hidentity, hscope]
  cases site
  cases other
  cases hidentity
  cases hscope
  cases hkey
  rfl

variable [P.Lawful]

theorem key_injective : Function.Injective (key : Site P -> String) := by
  intro site other h
  rw [site.key_eq, other.key_eq] at h
  simp only [String.append_assoc] at h
  have hlength := site.identity_length.trans other.identity_length.symm
  rcases append_inj_left hlength h with ⟨hidentity, hrest⟩
  rcases append_inj_left rfl hrest with ⟨_, hscope⟩
  exact eq_of hidentity hscope

theorem recordKey_inj {account other : P.PublicKey} {site found : Site P}
    (h : site.recordKey account = found.recordKey other) :
    account = other ∧ site = found := by
  have haccount : (P.z32 account).toList.length = (P.z32 other).toList.length := by
    rw [Primitives.Lawful.z32_length, Primitives.Lawful.z32_length]
  have hidentity := site.identity_length.trans found.identity_length.symm
  rcases joinKey_inj haccount hidentity h with ⟨hone, htwo, hthree⟩
  exact ⟨z32_injective hone, eq_of htwo hthree⟩

theorem recordKey_injective (account : P.PublicKey) :
    Function.Injective (recordKey account : Site P -> String) :=
  fun _ _ h => (recordKey_inj h).right

theorem recordKey_not_own {account other : P.PublicKey} (hne : other ≠ account)
    (site : Site P) : ¬ OwnKey (P.z32 account) (site.recordKey other) := by
  rintro ⟨identity, scope, h⟩
  unfold recordKey joinKey at h
  simp only [String.append_assoc] at h
  have hlength : (P.z32 other).toList.length = (P.z32 account).toList.length := by
    rw [Primitives.Lawful.z32_length, Primitives.Lawful.z32_length]
  exact hne (z32_injective (append_inj_left hlength h).left)

end Site

/-!
# Operations of an account
-/

section Operations

variable (P : Primitives)

/-- An operation with canonical texts of the identity and the control key. -/
inductive StoreOperation where
  | recordBatch (observations : List (AuthenticatedSequenceObservation P))
  | initializeLocatorPublisher (identity controlKey : P.PublicKey)
  | nextLocatorSequence (identity controlKey : P.PublicKey)

def numberToCounter (value : Nat) : ClientResult Nat := do
  rejectIf (¬ (1 ≤ value ∧ value ≤ jsMaxSafeCounter))
    (ClientError.state "browser publisher state is invalid")
  pure value

/-- The transaction of an operation; only an allocation returns a number. -/
def browserTransaction (account : P.PublicKey) (records : SequenceRecords) :
    StoreOperation P -> SequenceRecords × Except BrowserSequenceError Nat
  | StoreOperation.recordBatch observations =>
      let (after, result) :=
        recordBatch P (P.z32 account) none records observations
      (after, result.map fun _ => 0)
  | StoreOperation.initializeLocatorPublisher identity controlKey =>
      publisherBatch (P.z32 account) none records
        (PublisherOperation.initializeLocatorPublisher (P.z32 identity)
          (P.z32 controlKey))
  | StoreOperation.nextLocatorSequence identity controlKey =>
      publisherBatch (P.z32 account) none records
        (PublisherOperation.nextLocatorSequence (P.z32 identity)
          (P.z32 controlKey))

/-- What the Rust half makes of the answer of a transaction. -/
def browserAnswer (operation : StoreOperation P)
    (result : Except BrowserSequenceError Nat) : ClientResult Nat := do
  let value <- result.mapError BrowserSequenceError.clientError
  match operation with
  | StoreOperation.nextLocatorSequence _ _ => numberToCounter value
  | _ => pure value

def runBrowser (account : P.PublicKey) (records : SequenceRecords)
    (operation : StoreOperation P) : SequenceRecords × ClientResult Nat :=
  let (after, result) := browserTransaction P account records operation
  (after, browserAnswer P operation result)

def runNative (values : SequenceState) :
    StoreOperation P -> SequenceState × ClientResult Nat
  | StoreOperation.recordBatch observations =>
      let (after, result) :=
        MemorySequenceStore.recordBatch P values observations
      (after, result.map fun _ => 0)
  | StoreOperation.initializeLocatorPublisher identity controlKey =>
      MemorySequenceStore.publisher P values
        (PublisherOperation.initializeLocatorPublisher (P.z32 identity)
          (P.z32 controlKey))
  | StoreOperation.nextLocatorSequence identity controlKey =>
      MemorySequenceStore.publisher P values
        (PublisherOperation.nextLocatorSequence (P.z32 identity)
          (P.z32 controlKey))

/-- The object store of a browser, and the native store of each account. -/
structure TwoStores where
  browser : SequenceRecords
  native : P.PublicKey -> SequenceState

/-- Both halves run the operations of all accounts, in one order. -/
def twoStores : Machine (TwoStores P) (P.PublicKey × StoreOperation P) where
  initial := fun s => s.browser = ∅ ∧ forall account, s.native account = ∅
  next := fun s label =>
    some
      { browser := (runBrowser P label.1 s.browser label.2).1
        native := Function.update s.native label.1
          (runNative P (s.native label.1) label.2).1 }

/-- The batch is one that both halves are built for. -/
def StoreOperation.Bounded : StoreOperation P -> Prop
  | recordBatch observations =>
      observations.length ≤ 128 ∧ forall observation,
        observation ∈ observations -> observation.counter.toNat ≤ jsMaxSafeCounter
  | _ => True

/-- No store runs into its entry, byte or counter limit at the operation. -/
structure WithinLimits (s : TwoStores P)
    (label : P.PublicKey × StoreOperation P) : Prop where
  bounded : label.2.Bounded P
  browser : (browserTransaction P label.1 s.browser label.2).2 ≠
    Except.error (BrowserSequenceError.transaction "sequence-limit")
  native (error : ClientError) :
    (runNative P (s.native label.1) label.2).2 = Except.error error ->
      ¬ MemorySequenceStore.AtLimit error
  counter (identity controlKey : P.PublicKey) (record : SequenceRecord) :
    label.2 = StoreOperation.nextLocatorSequence identity controlKey ->
    s.browser[publisherRecordKey (P.z32 label.1) (P.z32 identity)
      (P.z32 controlKey)]? = some record ->
    record.counter < jsMaxSafeCounter

/-- The record that a native entry of the site corresponds to. -/
def Site.record (account : P.PublicKey) (site : Site P)
    (stored : StoredSequence) : SequenceRecord :=
  { accountId := P.z32 account
    identity := site.identity
    scope := site.scope
    kind := match stored with
      | StoredSequence.publisher _ => SequenceKind.publisher
      | StoredSequence.authenticated _ _ => SequenceKind.authenticated
    counter := match stored with
      | StoredSequence.publisher counter => counter.toNat
      | StoredSequence.authenticated counter _ => counter.toNat
    digest := match stored with
      | StoredSequence.publisher _ => none
      | StoredSequence.authenticated _ digest =>
          some (P.base64Encode digest.val) }

/-- The stores hold the same entries, key by key, and nothing else. -/
structure Corresponds (s : TwoStores P) : Prop where
  same (account : P.PublicKey) (site : Site P) :
    s.browser[site.recordKey account]? =
      (s.native account)[site.key]?.map (site.record P account)
  browser (key : String) (record : SequenceRecord) :
    s.browser[key]? = some record ->
      exists account, exists site : Site P, key = site.recordKey account
  native (account : P.PublicKey) (key : String) (stored : StoredSequence) :
    (s.native account)[key]? = some stored ->
      exists site : Site P, key = site.key

end Operations

/-!
# Mirrored ledgers
-/

section Mirrors

variable {P : Primitives}

def textValue (P : Primitives) (value : BoundCounter Digest) :
    BoundCounter String :=
  { counter := value.counter, digest := P.base64Encode value.digest.val }

theorem textValue_injective [P.Lawful] : Function.Injective (textValue P) := by
  intro value other h
  injection h with hcounter hdigest
  have hsame := Subtype.ext (base64Encode_injective hdigest)
  cases value
  cases other
  cases hcounter
  cases hsame
  rfl

theorem textValue_le [P.Lawful] (value other : BoundCounter Digest) :
    textValue P value ≤ textValue P other <-> value ≤ other := by
  constructor
  · rintro (hlower | heq)
    · exact Or.inl hlower
    · exact Or.inr (textValue_injective heq)
  · rintro (hlower | heq)
    · exact Or.inl hlower
    · exact Or.inr (congrArg (textValue P) heq)

def translation [P.Lawful] (account : P.PublicKey) :
    Translation (Site P) String String (BoundCounter Digest)
      (BoundCounter String) where
  left := Site.key
  right := Site.recordKey account
  value := textValue P
  left_injective := Site.key_injective
  right_injective := Site.recordKey_injective account
  value_injective := textValue_injective
  value_le := textValue_le

/-- An observation can be made at its site only. -/
def observedSite (observation : AuthenticatedSequenceObservation P) : Site P :=
  { identity := observation.identity
    scope := observation.scope
    key := observation.key
    keyed := observation.keyed }

/-- What a batch asks for, in the terms of both stores. -/
def batchOf (observations : List (AuthenticatedSequenceObservation P)) :
    List (Site P × BoundCounter Digest) :=
  observations.map fun observation =>
    (observedSite observation, (asked observation.entry).2)

/-- The entry that the script makes of an input it lets pass. -/
def observationEntry (account : String) (input : SequenceObservation) :
    SequenceEntry :=
  (joinKey account input.identity input.scope,
    { accountId := account
      identity := input.identity
      scope := input.scope
      kind := SequenceKind.authenticated
      counter := input.counter
      digest := some input.digest })

theorem leftBatch_batchOf [P.Lawful] (account : P.PublicKey)
    (observations : List (AuthenticatedSequenceObservation P)) :
    (translation account).leftBatch (batchOf observations) =
      askedBy observations := by
  unfold Translation.leftBatch batchOf askedBy
  rw [List.map_map, List.map_map]
  rfl

theorem rightBatch_batchOf [P.Lawful] (account : P.PublicKey)
    (observations : List (AuthenticatedSequenceObservation P)) :
    (translation account).rightBatch (batchOf observations) =
      ((observations.map (wire P)).map
        (observationEntry (P.z32 account))).map floorEntry := by
  unfold Translation.rightBatch batchOf
  rw [List.map_map, List.map_map, List.map_map]
  rfl

theorem validateScope_wire (observation : AuthenticatedSequenceObservation P) :
    validateScope observation.scope = Except.ok observation.scope := by
  apply validateScope_of (isScope_of_stateKey observation.keyed)
  intro hreserved
  rw [observation.unreserved] at hreserved
  cases hreserved

theorem positive_wire (observation : AuthenticatedSequenceObservation P) :
    1 ≤ observation.counter.toNat := by
  rw [Nat.one_le_iff_ne_zero]
  intro hzero
  exact observation.positive (UInt64.toNat_inj.mp hzero)

variable [P.Lawful] [P.ZBase32]

theorem isZ32_wire (observation : AuthenticatedSequenceObservation P) :
    isZ32 observation.identity = true := by
  rcases (observedSite observation).identity_z32 with ⟨root, hroot⟩
  rw [show observation.identity = P.z32 root from hroot]
  exact isZ32_z32 root

variable [P.UrlSafe]

theorem validateObservation_wire (account : P.PublicKey)
    {observation : AuthenticatedSequenceObservation P}
    (hcounter : observation.counter.toNat ≤ jsMaxSafeCounter) :
    validateObservation (P.z32 account) (wire P observation) =
      Except.ok (observationEntry (P.z32 account) (wire P observation)) := by
  have hscope := validateScope_wire observation
  have hunreserved : ¬ reservedScope observation.scope = true := by
    rw [observation.unreserved]
    exact Bool.false_ne_true
  have hvalue : validateCounter observation.counter.toNat false =
      Except.ok observation.counter.toNat :=
    validateCounter_of hcounter fun _ => positive_wire observation
  unfold validateObservation wire
  dsimp only
  rw [validateIdentity_of (isZ32_wire observation), ok_bind, hscope, ok_bind,
    rejectIf_of_not hunreserved, ok_bind, hvalue, ok_bind,
    validateDigest_of (isDigest_base64Encode observation.digest), ok_bind,
    sequenceKey_of (isZ32_z32 account) (isZ32_wire observation) hscope]
  rfl

theorem observed_wire (account : P.PublicKey)
    {observation : AuthenticatedSequenceObservation P}
    (hcounter : observation.counter.toNat ≤ jsMaxSafeCounter) :
    Observed (observationEntry (P.z32 account) (wire P observation)) := by
  constructor
  case kind => rfl
  case wellformed =>
    constructor
    case account => exact isZ32_z32 account
    case identity => exact isZ32_wire observation
    case scope => exact isScope_of_stateKey observation.keyed
    case kind =>
      apply iff_of_false nofun
      change ¬ reservedScope observation.scope = true
      rw [observation.unreserved]
      exact Bool.false_ne_true
    case control =>
      intro hreserved
      change reservedScope observation.scope = true at hreserved
      rw [observation.unreserved] at hreserved
      cases hreserved
    case bounded => exact hcounter
    case positive => exact fun _ => positive_wire observation
    case digested =>
      exact fun _ => ⟨_, rfl, isDigest_base64Encode observation.digest⟩
    case undigested =>
      intro hkind
      cases hkind
    case key => rfl

end Mirrors

/-!
# One operation on both stores
-/

section Steps

variable {P : Primitives}

theorem runNative_recordBatch (values : SequenceState)
    (observations : List (AuthenticatedSequenceObservation P)) :
    runNative P values (StoreOperation.recordBatch observations) =
      ((MemorySequenceStore.recordBatch P values observations).1,
        (MemorySequenceStore.recordBatch P values observations).2.map
          fun _ => 0) := rfl

theorem browserTransaction_recordBatch
    {observations : List (AuthenticatedSequenceObservation P)}
    (hcounters : forall observation, observation ∈ observations ->
      observation.counter.toNat ≤ jsMaxSafeCounter)
    (account : P.PublicKey) (records : SequenceRecords) :
    browserTransaction P account records
        (StoreOperation.recordBatch observations) =
      ((recordSequenceBatch (P.z32 account) none records
          (observations.map (wire P))).1,
        (fromTransaction (recordSequenceBatch (P.z32 account) none records
          (observations.map (wire P))).2).map fun _ => 0) := by
  have hsafe : ¬ observations.any (fun observation =>
      decide (observation.counter.toNat > jsMaxSafeCounter)) = true := by
    rw [List.any_eq_true]
    rintro ⟨observation, hmem, hlarge⟩
    exact Nat.not_lt_of_le (hcounters observation hmem)
      (of_decide_eq_true hlarge)
  unfold browserTransaction recordBatch
  dsimp only
  rw [if_neg hsafe]

variable [P.Lawful]

/-- Both halves give one verdict, and leave ledgers that mirror one another. -/
structure Agrees (account : P.PublicKey) (values after : SequenceState)
    (records left : SequenceRecords) (native browser : ClientResult Nat) :
    Prop where
  verdict : native.toOption = browser.toOption
  sound : Sound left
  mirrors : (translation account).Mirrors (Client.ledger after) (ledger left)
  native (key : String) (stored : StoredSequence) : after[key]? = some stored ->
    values[key]? = some stored ∨ exists site : Site P, key = site.key
  browser (key : String) (record : SequenceRecord) :
    left[key]? = some record -> records[key]? = some record ∨
      exists site : Site P, key = site.recordKey account

variable {account : P.PublicKey} {values : SequenceState}
variable {records : SequenceRecords}

theorem Agrees.rejected {native browser : ClientResult Nat}
    {nativeError browserError : ClientError} (hsound : Sound records)
    (hmirrors : (translation account).Mirrors (Client.ledger values)
      (ledger records))
    (hnative : native = Except.error nativeError)
    (hbrowser : browser = Except.error browserError) :
    Agrees account values values records records native browser := by
  rw [hnative, hbrowser]
  exact ⟨rfl, hsound, hmirrors, fun _ _ => Or.inl, fun _ _ => Or.inl⟩

theorem getElem_eq_none_iff
    (hmirrors : (translation account).Mirrors (Client.ledger values)
      (ledger records)) (site : Site P) :
    values[site.key]? = none <-> records[site.recordKey account]? = none := by
  have hslot := hmirrors site
  change (values[site.key]?.map StoredSequence.slot).map _ =
    records[site.recordKey account]?.map SequenceRecord.slot at hslot
  rw [← Option.map_eq_none_iff (f := SequenceRecord.slot), ← hslot,
    Option.map_eq_none_iff, Option.map_eq_none_iff]

theorem publisher_mirrored
    (hmirrors : (translation account).Mirrors (Client.ledger values)
      (ledger records)) (site : Site P) (last : Nat) :
    (exists counter, values[site.key]? =
        some (StoredSequence.publisher counter) ∧ counter.toNat = last) <->
      exists record, records[site.recordKey account]? = some record ∧
        record.kind = SequenceKind.publisher ∧ record.counter = last := by
  have hslot := hmirrors site
  change (values[site.key]?.map StoredSequence.slot).map _ =
    records[site.recordKey account]?.map SequenceRecord.slot at hslot
  constructor
  · rintro ⟨counter, hfound, rfl⟩
    rw [hfound] at hslot
    rcases Option.map_eq_some_iff.mp hslot.symm with ⟨record, hrecord, heq⟩
    refine ⟨record, hrecord, ?_⟩
    unfold SequenceRecord.slot at heq
    cases hkind : record.kind with
    | authenticated =>
        rw [hkind] at heq
        cases heq
    | publisher =>
        rw [hkind] at heq
        injection heq with heq
        exact ⟨rfl, heq⟩
  · rintro ⟨record, hrecord, hkind, rfl⟩
    unfold SequenceRecord.slot at hslot
    rw [hrecord, Option.map_some, hkind] at hslot
    rcases Option.map_eq_some_iff.mp hslot with ⟨slot, hslot, heq⟩
    rcases Option.map_eq_some_iff.mp hslot with ⟨stored, hfound, rfl⟩
    cases stored with
    | publisher counter =>
        injection heq with heq
        exact ⟨counter, hfound, heq⟩
    | authenticated counter digest => cases heq

theorem Agrees.inserted {native browser : ClientResult Nat} {site : Site P}
    {stored : StoredSequence} {record : SequenceRecord}
    (hverdict : native.toOption = browser.toOption)
    (hsound : Sound (records.insert (site.recordKey account) record))
    (hmirrors : (translation account).Mirrors (Client.ledger values)
      (ledger records))
    (hslot : record.slot = stored.slot.map (textValue P)) :
    Agrees account values (values.insert site.key stored) records
      (records.insert (site.recordKey account) record) native browser := by
  constructor
  case verdict => exact hverdict
  case sound => exact hsound
  case mirrors =>
    rw [Client.ledger_insert, ledger_insert, hslot]
    exact hmirrors.update site stored.slot
  case native =>
    intro key found hfound
    rw [Client.getElem_insert] at hfound
    split at hfound
    · rename_i hkey
      exact Or.inr ⟨site, hkey.symm⟩
    · exact Or.inl hfound
  case browser =>
    intro key found hfound
    rw [getElem_insert] at hfound
    split at hfound
    · rename_i hkey
      exact Or.inr ⟨site, hkey.symm⟩
    · exact Or.inl hfound

variable [P.ZBase32]

section Batch

variable [P.UrlSafe]
variable {observations : List (AuthenticatedSequenceObservation P)}

theorem recordBatch_agrees (hsound : Sound records)
    (hmirrors : (translation account).Mirrors (Client.ledger values)
      (ledger records))
    (hlength : observations.length ≤ 128)
    (hcounters : forall observation, observation ∈ observations ->
      observation.counter.toNat ≤ jsMaxSafeCounter)
    (hbrowser : (browserTransaction P account records
        (StoreOperation.recordBatch observations)).2 ≠
      Except.error (BrowserSequenceError.transaction "sequence-limit"))
    (hnative : forall error,
      (runNative P values (StoreOperation.recordBatch observations)).2 =
        Except.error error -> ¬ MemorySequenceStore.AtLimit error) :
    Agrees account values
      (runNative P values (StoreOperation.recordBatch observations)).1 records
      (runBrowser P account records
        (StoreOperation.recordBatch observations)).1
      (runNative P values (StoreOperation.recordBatch observations)).2
      (runBrowser P account records
        (StoreOperation.recordBatch observations)).2 := by
  have haccepts : (Client.ledger values).Accepts
        ((translation account).leftBatch (batchOf observations)) <->
      (ledger records).Accepts
        ((translation account).rightBatch (batchOf observations)) :=
    hmirrors.accepts_iff
  rw [leftBatch_batchOf, rightBatch_batchOf] at haccepts
  have hinputs : forall input, input ∈ observations.map (wire P) ->
      validateObservation (P.z32 account) input =
        Except.ok (observationEntry (P.z32 account) input) := by
    intro input hinput
    rcases List.mem_map.mp hinput with ⟨observation, hmem, rfl⟩
    exact validateObservation_wire account (hcounters observation hmem)
  have hobserved : forall input, input ∈ observations.map (wire P) ->
      Observed (observationEntry (P.z32 account) input) := by
    intro input hinput
    rcases List.mem_map.mp hinput with ⟨observation, hmem, rfl⟩
    exact observed_wire account (hcounters observation hmem)
  have hbatch : (observations.map (wire P)).length ≤ 128 := by
    rw [List.length_map]
    exact hlength
  unfold runBrowser
  rw [browserTransaction_recordBatch hcounters] at hbrowser ⊢
  rcases recordSequenceBatch_cases hsound (isZ32_z32 account) hbatch hinputs
      hobserved with ⟨hledger, ⟨after, hafter, hrun⟩ | hlimit⟩ |
    ⟨hledger, error, hrun⟩
  · rw [hrun]
    rcases MemorySequenceStore.recordBatch_of_accepts (haccepts.mpr hledger) with
      hrecorded | ⟨error, hlimit, hfailed⟩
    · rw [runNative_recordBatch, hrecorded]
      constructor
      case verdict => rfl
      case sound => exact hafter.sound
      case mirrors =>
        rw [hafter.ledger, ledger_recorded,
          ← leftBatch_batchOf account observations,
          ← rightBatch_batchOf account observations]
        exact hmirrors.setAll
      case native =>
        intro key stored hstored
        by_cases hkey : exists observation, observation ∈ observations ∧
            observation.key = key
        · rcases hkey with ⟨observation, _, rfl⟩
          exact Or.inr ⟨observedSite observation, rfl⟩
        · left
          rw [← hstored, getElem_recorded_of_not_mem]
          exact fun observation hmem heq => hkey ⟨observation, hmem, heq⟩
      case browser =>
        intro key record hfound
        rcases hafter.written key record hfound with hbefore | hmem
        · exact Or.inl hbefore
        · right
          rcases List.mem_map.mp hmem with ⟨input, hinput, hentry⟩
          rcases List.mem_map.mp hinput with ⟨observation, _, rfl⟩
          exact ⟨observedSite observation, (congrArg Prod.fst hentry).symm⟩
    · exfalso
      apply hnative error _ hlimit
      rw [runNative_recordBatch, hfailed]
      rfl
  · exfalso
    apply hbrowser
    rw [hlimit]
    rfl
  · rw [hrun]
    rcases MemorySequenceStore.recordBatch_of_not_accepts
        (fun haccepted => hledger (haccepts.mp haccepted)) with ⟨found, hfailed⟩
    rw [runNative_recordBatch, hfailed]
    exact Agrees.rejected hsound hmirrors rfl rfl

end Batch

section Publisher

variable {identity controlKey : P.PublicKey}

def publisherSite (identity controlKey : P.PublicKey) : Site P :=
  { identity := P.z32 identity
    scope := publisherScopePrefix ++ P.z32 controlKey
    key := P.z32 identity ++ ":" ++ (publisherScopePrefix ++ P.z32 controlKey)
    keyed := stateKey_publisherScope identity controlKey }

theorem publisherKey_site (identity controlKey : P.PublicKey) :
    publisherKey P (P.z32 identity) (P.z32 controlKey) =
      Except.ok (publisherSite identity controlKey).key := by
  rw [publisherKey_z32]
  exact (publisherSite identity controlKey).keyed

/-- A transaction as the Rust half sees its failure. -/
def transacted (run : SequenceRecords × StoreResult Nat) :
    SequenceRecords × Except BrowserSequenceError Nat :=
  (run.1, fromTransaction run.2)

theorem browserTransaction_initialized (account : P.PublicKey)
    (records : SequenceRecords) (identity controlKey : P.PublicKey) :
    browserTransaction P account records
        (StoreOperation.initializeLocatorPublisher identity controlKey) =
      transacted (updateSequences none records
        (initializePublisherUpdate (P.z32 account) (P.z32 identity)
          (publisherScopePrefix ++ P.z32 controlKey)
          (publisherRecordKey (P.z32 account) (P.z32 identity)
            (P.z32 controlKey)))) := by
  unfold browserTransaction publisherBatch
  dsimp only
  rw [publisherSequence_initialized (isZ32_z32 account) (isZ32_z32 identity)
    (isZ32_z32 controlKey)]
  rfl

theorem browserTransaction_next (account : P.PublicKey)
    (records : SequenceRecords) (identity controlKey : P.PublicKey) :
    browserTransaction P account records
        (StoreOperation.nextLocatorSequence identity controlKey) =
      transacted (updateSequences none records (nextPublisherUpdate
        ((publisherSite identity controlKey).recordKey account))) := by
  unfold browserTransaction publisherBatch
  dsimp only
  rw [publisherSequence_next (isZ32_z32 account) (isZ32_z32 identity)
    (isZ32_z32 controlKey)]
  rfl

theorem publisherUpdate_initialized (values : SequenceState)
    (identity controlKey : P.PublicKey) :
    publisherUpdate P
        (PublisherOperation.initializeLocatorPublisher (P.z32 identity)
          (P.z32 controlKey)) values =
      (do
        let staged <-
          initializePublisher values (publisherSite identity controlKey).key
        pure (staged, 0)) := by
  unfold publisherUpdate
  dsimp only
  rw [publisherKey_site, ok_bind]

theorem publisherUpdate_next (values : SequenceState)
    (identity controlKey : P.PublicKey) :
    publisherUpdate P
        (PublisherOperation.nextLocatorSequence (P.z32 identity)
          (P.z32 controlKey)) values =
      (do
        let (staged, value) <-
          nextPublisherValue values (publisherSite identity controlKey).key
        pure (staged, value.toNat)) := by
  unfold publisherUpdate
  dsimp only
  rw [publisherKey_site, ok_bind]

theorem runNative_initialize_free
    (h : values[(publisherSite identity controlKey).key]? = none) :
    runNative P values
        (StoreOperation.initializeLocatorPublisher identity controlKey) =
        (values.insert (publisherSite identity controlKey).key
          (StoredSequence.publisher 0), Except.ok 0) ∨
      exists error, MemorySequenceStore.AtLimit error ∧
        runNative P values
          (StoreOperation.initializeLocatorPublisher identity controlKey) =
            (values, Except.error error) := by
  have hunused :
      ¬ values.contains (publisherSite identity controlKey).key = true := by
    rw [Std.ExtTreeMap.contains_eq_isSome_getElem?, h]
    exact Bool.false_ne_true
  unfold runNative MemorySequenceStore.publisher
  by_cases hfull : values.size ≥ maxStateEntries
  · right
    refine ⟨entryLimitReached, Or.inl rfl,
      MemorySequenceStore.updateMemory_of_error ?_⟩
    rw [publisherUpdate_initialized]
    unfold initializePublisher
    rw [rejectIf_of_not hunused, ok_bind, rejectIf_of hfull]
    rfl
  · apply MemorySequenceStore.updateMemory_of_ok
    rw [publisherUpdate_initialized]
    unfold initializePublisher
    rw [rejectIf_of_not hunused, ok_bind, rejectIf_of_not hfull]
    rfl

theorem runNative_initialize_used
    (h : values[(publisherSite identity controlKey).key]? ≠ none) :
    exists error, runNative P values
        (StoreOperation.initializeLocatorPublisher identity controlKey) =
      (values, Except.error error) := by
  have hused : values.contains (publisherSite identity controlKey).key = true := by
    rw [Std.ExtTreeMap.contains_eq_isSome_getElem?, Option.isSome_iff_ne_none]
    exact h
  unfold runNative MemorySequenceStore.publisher
  cases hupdate : publisherUpdate P
      (PublisherOperation.initializeLocatorPublisher (P.z32 identity)
        (P.z32 controlKey)) values with
  | error e => exact ⟨e, MemorySequenceStore.updateMemory_of_error hupdate⟩
  | ok pair =>
      rw [publisherUpdate_initialized] at hupdate
      unfold initializePublisher at hupdate
      rw [rejectIf_of hused] at hupdate
      cases hupdate

theorem runNative_next_counter {counter : UInt64}
    (h : values[(publisherSite identity controlKey).key]? =
      some (StoredSequence.publisher counter))
    (hroom : counter.toNat + 1 < 2 ^ 64) :
    runNative P values
        (StoreOperation.nextLocatorSequence identity controlKey) =
        (values.insert (publisherSite identity controlKey).key
          (StoredSequence.publisher (counter + 1)),
          Except.ok (counter + 1).toNat) ∨
      exists error, MemorySequenceStore.AtLimit error ∧
        runNative P values
          (StoreOperation.nextLocatorSequence identity controlKey) =
            (values, Except.error error) := by
  unfold runNative MemorySequenceStore.publisher
  apply MemorySequenceStore.updateMemory_of_ok
  rw [publisherUpdate_next]
  unfold nextPublisherValue
  rw [h]
  dsimp only
  rw [if_pos hroom]
  rfl

theorem runNative_next_missing
    (h : forall counter,
      values[(publisherSite identity controlKey).key]? ≠
        some (StoredSequence.publisher counter)) :
    exists error, runNative P values
        (StoreOperation.nextLocatorSequence identity controlKey) =
      (values, Except.error error) := by
  unfold runNative MemorySequenceStore.publisher
  cases hupdate : publisherUpdate P
      (PublisherOperation.nextLocatorSequence (P.z32 identity)
        (P.z32 controlKey)) values with
  | error e => exact ⟨e, MemorySequenceStore.updateMemory_of_error hupdate⟩
  | ok pair =>
      rw [publisherUpdate_next] at hupdate
      rcases bind_eq_ok.mp hupdate with ⟨next, hnext, _⟩
      unfold nextPublisherValue at hnext
      cases hfound : values[(publisherSite identity controlKey).key]? with
      | none =>
          rw [hfound] at hnext
          cases hnext
      | some stored =>
          cases stored with
          | publisher counter => exact absurd hfound (h counter)
          | authenticated counter digest =>
              rw [hfound] at hnext
              cases hnext

theorem initialize_agrees (hsound : Sound records)
    (hmirrors : (translation account).Mirrors (Client.ledger values)
      (ledger records))
    (hbrowser : (browserTransaction P account records
        (StoreOperation.initializeLocatorPublisher identity controlKey)).2 ≠
      Except.error (BrowserSequenceError.transaction "sequence-limit"))
    (hnative : forall error,
      (runNative P values
        (StoreOperation.initializeLocatorPublisher identity controlKey)).2 =
        Except.error error -> ¬ MemorySequenceStore.AtLimit error) :
    Agrees account values
      (runNative P values
        (StoreOperation.initializeLocatorPublisher identity controlKey)).1 records
      (runBrowser P account records
        (StoreOperation.initializeLocatorPublisher identity controlKey)).1
      (runNative P values
        (StoreOperation.initializeLocatorPublisher identity controlKey)).2
      (runBrowser P account records
        (StoreOperation.initializeLocatorPublisher identity controlKey)).2 := by
  have hfree := getElem_eq_none_iff hmirrors (publisherSite identity controlKey)
  unfold runBrowser
  rw [browserTransaction_initialized] at hbrowser ⊢
  rcases initializePublisherUpdate_cases hsound (isZ32_z32 account)
      (isZ32_z32 identity) (isZ32_z32 controlKey) with
    ⟨hnone, ⟨hafter, hrun⟩ | hlimit⟩ | ⟨hused, hrun⟩
  · rcases runNative_initialize_free (hfree.mpr hnone) with
      hstored | ⟨error, hlimit, hfailed⟩
    · rw [hrun, hstored]
      exact Agrees.inserted rfl hafter hmirrors rfl
    · exfalso
      apply hnative error _ hlimit
      rw [hfailed]
  · exfalso
    apply hbrowser
    rw [hlimit]
    rfl
  · rcases runNative_initialize_used (fun hnone => hused (hfree.mp hnone)) with
      ⟨error, hfailed⟩
    rw [hrun, hfailed]
    exact Agrees.rejected hsound hmirrors rfl rfl

theorem next_agrees (hsound : Sound records)
    (hmirrors : (translation account).Mirrors (Client.ledger values)
      (ledger records))
    (hbrowser : (browserTransaction P account records
        (StoreOperation.nextLocatorSequence identity controlKey)).2 ≠
      Except.error (BrowserSequenceError.transaction "sequence-limit"))
    (hnative : forall error,
      (runNative P values
        (StoreOperation.nextLocatorSequence identity controlKey)).2 =
        Except.error error -> ¬ MemorySequenceStore.AtLimit error)
    (hcounter : forall record, records[publisherRecordKey (P.z32 account)
        (P.z32 identity) (P.z32 controlKey)]? = some record ->
      record.counter < jsMaxSafeCounter) :
    Agrees account values
      (runNative P values
        (StoreOperation.nextLocatorSequence identity controlKey)).1 records
      (runBrowser P account records
        (StoreOperation.nextLocatorSequence identity controlKey)).1
      (runNative P values
        (StoreOperation.nextLocatorSequence identity controlKey)).2
      (runBrowser P account records
        (StoreOperation.nextLocatorSequence identity controlKey)).2 := by
  have hmirrored := publisher_mirrored hmirrors (publisherSite identity controlKey)
  unfold runBrowser
  rw [browserTransaction_next] at hbrowser ⊢
  rcases nextPublisherUpdate_cases hsound with
    ⟨record, hfound, hkind, hroom, ⟨hafter, hrun⟩ | hlimit⟩ |
      ⟨hnone, error, hrun⟩
  · rcases (hmirrored record.counter).mpr ⟨record, hfound, hkind, rfl⟩ with
      ⟨counter, hstored, hsame⟩
    have hsmall : counter.toNat + 1 < 2 ^ 64 := by
      rw [hsame]
      exact Nat.lt_of_le_of_lt hroom (by decide)
    have hnext : (counter + 1).toNat = record.counter + 1 := by
      rw [UInt64.toNat_add, hsame, UInt64.toNat_one, Nat.mod_eq_of_lt]
      rw [← hsame]
      exact hsmall
    rcases runNative_next_counter hstored hsmall with
      hwritten | ⟨error, hlimit, hfailed⟩
    · have hanswer : numberToCounter (record.counter + 1) =
          Except.ok (record.counter + 1) := by
        unfold numberToCounter
        rw [rejectIf_of_not (not_not.mpr ⟨Nat.le_add_left 1 _, hroom⟩)]
        rfl
      rw [hrun, hwritten]
      apply Agrees.inserted _ hafter hmirrors
      · unfold SequenceRecord.slot
        rw [hkind]
        change Slot.counter (record.counter + 1) =
          Slot.counter (counter + 1).toNat
        rw [hnext]
      · change some (counter + 1).toNat =
          (numberToCounter (record.counter + 1)).toOption
        rw [hanswer, hnext]
        rfl
    · exfalso
      apply hnative error _ hlimit
      rw [hfailed]
  · exfalso
    apply hbrowser
    rw [hlimit]
    rfl
  · have hmissing : forall counter,
        values[(publisherSite identity controlKey).key]? ≠
          some (StoredSequence.publisher counter) := by
      intro counter hstored
      rcases (hmirrored counter.toNat).mp ⟨counter, hstored, rfl⟩ with
        ⟨record, hrecord, hkind, _⟩
      have hfull := hnone record hrecord hkind
      exact Nat.lt_irrefl _ (hfull ▸ hcounter record hrecord)
    rcases runNative_next_missing hmissing with ⟨found, hfailed⟩
    rw [hrun, hfailed]
    exact Agrees.rejected hsound hmirrors rfl rfl

end Publisher

end Steps

/-!
# Runs
-/

section Runs

variable {P : Primitives} [P.Lawful]

/-- What every reachable pair of stores satisfies. -/
structure Aligned (s : TwoStores P) : Prop where
  sound : Sound s.browser
  mirrors (account : P.PublicKey) :
    (translation account).Mirrors (Client.ledger (s.native account))
      (ledger s.browser)
  browser (key : String) (record : SequenceRecord) :
    s.browser[key]? = some record ->
      exists account, exists site : Site P, key = site.recordKey account
  native (account : P.PublicKey) (key : String) (stored : StoredSequence) :
    (s.native account)[key]? = some stored ->
      exists site : Site P, key = site.key

theorem aligned_initial {s : TwoStores P} (h : (twoStores P).initial s) :
    Aligned s := by
  rcases h with ⟨hbrowser, hnative⟩
  constructor
  case sound =>
    rw [hbrowser]
    exact sound_empty
  case mirrors =>
    intro account site
    unfold Client.ledger ledger
    rw [hbrowser, hnative, Std.ExtTreeMap.getElem?_empty,
      Std.ExtTreeMap.getElem?_empty]
    rfl
  case browser =>
    intro key record hfound
    rw [hbrowser, Std.ExtTreeMap.getElem?_empty] at hfound
    cases hfound
  case native =>
    intro account key stored hfound
    rw [hnative, Std.ExtTreeMap.getElem?_empty] at hfound
    cases hfound

theorem runBrowser_others {account other : P.PublicKey} (hne : other ≠ account)
    (records : SequenceRecords) (operation : StoreOperation P) (site : Site P) :
    (runBrowser P account records operation).1[site.recordKey other]? =
      records[site.recordKey other]? := by
  have hkey := Site.recordKey_not_own hne site
  cases operation with
  | recordBatch observations =>
      change (recordBatch P (P.z32 account) none records
        observations).1[site.recordKey other]? = _
      unfold recordBatch
      split
      · rfl
      · exact recordSequenceBatch_others hkey (observations.map (wire P))
  | initializeLocatorPublisher identity controlKey =>
      exact publisherSequence_others hkey
        (PublisherOperation.initializeLocatorPublisher (P.z32 identity)
          (P.z32 controlKey))
  | nextLocatorSequence identity controlKey =>
      exact publisherSequence_others hkey
        (PublisherOperation.nextLocatorSequence (P.z32 identity)
          (P.z32 controlKey))

theorem Aligned.corresponds [P.ZBase32] {s : TwoStores P} (h : Aligned s) :
    Corresponds P s := by
  refine ⟨?_, h.browser, h.native⟩
  intro account site
  have hslot := h.mirrors account site
  change ((s.native account)[site.key]?.map StoredSequence.slot).map _ =
    s.browser[site.recordKey account]?.map SequenceRecord.slot at hslot
  cases hstored : (s.native account)[site.key]? with
  | none => exact (getElem_eq_none_iff (h.mirrors account) site).mp hstored
  | some stored =>
      rw [hstored] at hslot
      rcases Option.map_eq_some_iff.mp hslot.symm with ⟨record, hfound, heq⟩
      have hrecord := h.sound.wellformed _ record hfound
      have haccount : (P.z32 account).toList.length =
          record.accountId.toList.length := by
        rw [isZ32_length hrecord.account, Primitives.Lawful.z32_length]
      have hidentity : site.identity.toList.length =
          record.identity.toList.length := by
        rw [isZ32_length hrecord.identity, site.identity_length]
      rcases joinKey_inj haccount hidentity hrecord.key with
        ⟨hone, htwo, hthree⟩
      rw [hfound]
      congr 1
      rcases record with ⟨owner, identity, scope, kind, counter, digest⟩
      dsimp only at hone htwo hthree
      subst hone htwo hthree
      cases kind with
      | publisher =>
          cases stored with
          | authenticated found known => cases heq
          | publisher found =>
              injection heq with hcounter
              have hnone := hrecord.undigested rfl
              dsimp only at hcounter hnone
              rw [hcounter, hnone]
              rfl
      | authenticated =>
          cases stored with
          | publisher found => cases heq
          | authenticated found known =>
              injection heq with hvalue
              injection hvalue with hcounter hdigest
              rcases hrecord.digested rfl with ⟨text, htext, _⟩
              dsimp only at hcounter hdigest htext
              subst htext
              rw [hcounter]
              change text = P.base64Encode known.val at hdigest
              rw [hdigest]
              rfl

variable [P.ZBase32] [P.UrlSafe]

theorem operation_agrees {s : TwoStores P} (h : Aligned s)
    {account : P.PublicKey} {operation : StoreOperation P}
    (hlimits : WithinLimits P s (account, operation)) :
    Agrees account (s.native account)
      (runNative P (s.native account) operation).1 s.browser
      (runBrowser P account s.browser operation).1
      (runNative P (s.native account) operation).2
      (runBrowser P account s.browser operation).2 := by
  have hmirrors := h.mirrors account
  cases operation with
  | recordBatch observations =>
      rcases hlimits.bounded with ⟨hlength, hcounters⟩
      exact recordBatch_agrees h.sound hmirrors hlength hcounters hlimits.browser
        hlimits.native
  | initializeLocatorPublisher identity controlKey =>
      exact initialize_agrees h.sound hmirrors hlimits.browser hlimits.native
  | nextLocatorSequence identity controlKey =>
      exact next_agrees h.sound hmirrors hlimits.browser hlimits.native
        fun record => hlimits.counter identity controlKey record rfl

theorem aligned_next {s s' : TwoStores P}
    {label : P.PublicKey × StoreOperation P} (h : Aligned s)
    (hlimits : WithinLimits P s label)
    (hnext : (twoStores P).next s label = some s') : Aligned s' := by
  rcases label with ⟨account, operation⟩
  injection hnext with hnext
  subst hnext
  have hagrees := operation_agrees h hlimits
  constructor
  case sound => exact hagrees.sound
  case mirrors =>
    intro other
    by_cases hother : other = account
    · subst hother
      dsimp only
      rw [Function.update_self]
      exact hagrees.mirrors
    · intro site
      have hsame : ledger (runBrowser P account s.browser operation).1
            (site.recordKey other) =
          ledger s.browser (site.recordKey other) := by
        unfold ledger
        rw [runBrowser_others hother]
      dsimp only
      rw [Function.update_of_ne hother]
      exact (h.mirrors other site).trans hsame.symm
  case browser =>
    intro key record hfound
    rcases hagrees.browser key record hfound with hbefore | ⟨site, hsite⟩
    · exact h.browser key record hbefore
    · exact ⟨account, site, hsite⟩
  case native =>
    intro other key stored hfound
    by_cases hother : other = account
    · subst hother
      dsimp only at hfound
      rw [Function.update_self] at hfound
      rcases hagrees.native key stored hfound with hbefore | hsite
      · exact h.native other key stored hbefore
      · exact hsite
    · dsimp only at hfound
      rw [Function.update_of_ne hother] at hfound
      exact h.native other key stored hfound

theorem aligned_of_reachable {s : TwoStores P}
    (h : (twoStores P).ReachableWhen (WithinLimits P) s) : Aligned s :=
  h.invariant (fun _ => aligned_initial) fun _ _ _ => aligned_next

/-- Within the limits of both, the two stores are one machine. -/
theorem stores_agree {s : TwoStores P}
    (h : (twoStores P).ReachableWhen (WithinLimits P) s) :
    Corresponds P s ∧ forall account operation,
      (WithinLimits P s (account, operation) ->
        (runBrowser P account s.browser operation).2.toOption =
          (runNative P (s.native account) operation).2.toOption) ∧
      forall other, other ≠ account -> forall site : Site P,
        (runBrowser P account s.browser operation).1[site.recordKey other]? =
          s.browser[site.recordKey other]? := by
  have haligned := aligned_of_reachable h
  refine ⟨haligned.corresponds, ?_⟩
  intro account operation
  constructor
  · intro hlimits
    exact (operation_agrees haligned hlimits).verdict.symm
  · intro other hother site
    exact runBrowser_others hother s.browser operation site

end Runs

/-!
# A batch and a rollback
-/

namespace OneRemote

open Reference

theorem keyed : stateKey sample (sample.z32 (keyOf 2)) "s" =
    Except.ok (sample.z32 (keyOf 2) ++ ":" ++ "s") := by
  rw [stateKey_eq_ok]
  exact ⟨keyOf 2, Primitives.Lawful.tryFromZ32_z32 _, rfl, by decide, by decide,
    by decide, rfl⟩

def observed (counter : UInt64) (hpositive : counter ≠ 0) :
    AuthenticatedSequenceObservation sample :=
  { identity := sample.z32 (keyOf 2)
    scope := "s"
    counter := counter
    digest := ⟨List.replicate 32 0, rfl⟩
    key := sample.z32 (keyOf 2) ++ ":" ++ "s"
    keyed := keyed
    unreserved := by decide
    positive := hpositive }

/-- A batch that repeats a key, and a later one that rolls it back. -/
def batches : List (sample.PublicKey × StoreOperation sample) :=
  [(keyOf 1, StoreOperation.recordBatch
      [observed 5 (by decide), observed 5 (by decide)]),
    (keyOf 1, StoreOperation.recordBatch [observed 3 (by decide)])]

def browserAtLimit : Except BrowserSequenceError Nat -> Bool
  | Except.error (BrowserSequenceError.transaction code) => code == "sequence-limit"
  | _ => false

def nativeAtLimit : ClientResult Nat -> Bool
  | Except.error error =>
      decide (error = entryLimitReached ∨ error = stateTooLarge)
  | Except.ok _ => false

/-- The label is a batch, and it is within the limits of both stores. -/
def keepsLimits (s : TwoStores sample) :
    sample.PublicKey × StoreOperation sample -> Bool
  | (account, StoreOperation.recordBatch observations) =>
      decide (observations.length ≤ 128) &&
        observations.all (fun observation =>
          decide (observation.counter.toNat ≤ jsMaxSafeCounter)) &&
        !browserAtLimit (browserTransaction sample account s.browser
          (StoreOperation.recordBatch observations)).2 &&
        !nativeAtLimit (runNative sample (s.native account)
          (StoreOperation.recordBatch observations)).2
  | _ => false

theorem withinLimits_of_keeps {s : TwoStores sample}
    {label : sample.PublicKey × StoreOperation sample}
    (h : keepsLimits s label = true) : WithinLimits sample s label := by
  rcases label with ⟨account, observations | _ | _⟩
  · unfold keepsLimits at h
    simp only [Bool.and_eq_true, decide_eq_true_eq, List.all_eq_true,
      Bool.not_eq_true'] at h
    rcases h with ⟨⟨⟨hlength, hcounters⟩, hbrowser⟩, hnative⟩
    constructor
    case bounded => exact ⟨hlength, hcounters⟩
    case browser =>
      intro hlimit
      rw [hlimit] at hbrowser
      cases hbrowser
    case native =>
      intro error herror hlimit
      rw [herror] at hnative
      exact of_decide_eq_false hnative hlimit
    case counter =>
      intro identity controlKey record hoperation
      cases hoperation
  · cases h
  · cases h

def keepsCounter (s : TwoStores sample) : Bool :=
  s.browser.toList.map (fun entry => entry.2.counter) == [5]

theorem batches_run :
    (((twoStores sample).runChecked keepsLimits
      { browser := ∅, native := fun _ => ∅ } batches).any keepsCounter) = true := by
  decide +kernel

theorem stores_agree_sample :
    exists s : TwoStores sample, keepsCounter s = true ∧
      Corresponds sample s ∧ forall account operation,
        (WithinLimits sample s (account, operation) ->
          (runBrowser sample account s.browser operation).2.toOption =
            (runNative sample (s.native account) operation).2.toOption) ∧
        forall other, other ≠ account -> forall site : Site sample,
          (runBrowser sample account s.browser operation).1[site.recordKey other]? =
            s.browser[site.recordKey other]? := by
  rcases (Option.any_eq_true _ _).mp batches_run with ⟨s, hrun, hcounter⟩
  have hstart : (twoStores sample).ReachableWhen (WithinLimits sample)
      { browser := ∅, native := fun _ => ∅ } :=
    Machine.ReachableWhen.start ⟨rfl, fun _ => rfl⟩
  exact ⟨s, hcounter, stores_agree
    (hstart.runChecked (fun _ _ => withinLimits_of_keeps) hrun)⟩

end OneRemote

end Browser
end Pubky2Pubky
