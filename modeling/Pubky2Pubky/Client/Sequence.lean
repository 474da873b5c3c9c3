import Std.Data.ExtTreeMap
import Pubky2Pubky.Foundation.Register
import Pubky2Pubky.Client.Error

/-!
# Sequence state

A sequence store keeps one map from state keys to publisher counters and to
digest-bound authenticated counters. Publisher scopes are reserved: an
observation can neither be built for one nor be recorded at one.
-/

namespace Pubky2Pubky
namespace Client

open Foundation Protocol

def maxStateBytes : Nat := 1024 * 1024

def maxStateEntries : Nat := 4096

def publisherScopePrefix : String := "v1:publisher:"

/-- A digest of 32 bytes. -/
abbrev Digest := { bytes : Bytes // bytes.length = 32 }

/-!
# State keys
-/

def scopeChar (c : Char) : Bool :=
  let n := c.toNat
  (decide (48 ≤ n) && decide (n ≤ 57)) || (decide (65 ≤ n) && decide (n ≤ 90)) ||
    (decide (97 ≤ n) && decide (n ≤ 122)) || c == '-' || c == '_' || c == ':'

theorem scopeChar_of_z32 (c : Char) (h : c ∈ z32Alphabet.toList) :
    scopeChar c = true := by
  have hall : z32Alphabet.toList.all scopeChar = true := by decide
  exact List.all_eq_true.mp hall c h

/-- The scope starts with the reserved prefix. -/
def reservedScope (scope : String) : Bool :=
  publisherScopePrefix.toList.isPrefixOf scope.toList

theorem reservedScope_publisher (control : String) :
    reservedScope (publisherScopePrefix ++ control) = true := by
  unfold reservedScope
  rw [String.toList_append]
  exact List.isPrefixOf_iff_prefix.mpr (List.prefix_append _ _)

theorem controlKey_publisher (control : String) :
    String.ofList ((publisherScopePrefix ++ control).toList.drop
      publisherScopePrefix.toList.length) = control := by
  rw [String.toList_append, List.drop_left, String.ofList_toList]

section Keys

variable (P : Primitives)

def stateKey (identity scope : String) : ClientResult String := do
  let parsed <- okOr (P.tryFromZ32 identity)
    (ClientError.state "non-canonical Pubky identity")
  rejectIf (P.z32 parsed ≠ identity)
    (ClientError.state "non-canonical Pubky identity")
  rejectIf (scope = "" ∨ scope.utf8ByteSize > 128 ∨
      scope.toList.all scopeChar = false)
    (ClientError.state "invalid sequence scope")
  pure (identity ++ ":" ++ scope)

def publisherKey (identity controlKey : String) : ClientResult String := do
  let parsed <- okOr (P.tryFromZ32 controlKey)
    (ClientError.state "non-canonical control key")
  rejectIf (P.z32 parsed ≠ controlKey)
    (ClientError.state "non-canonical control key")
  stateKey P identity (publisherScopePrefix ++ controlKey)

/-- An observation carries the checks its constructor made. -/
structure AuthenticatedSequenceObservation where
  identity : String
  scope : String
  counter : UInt64
  digest : Digest
  key : String
  keyed : stateKey P identity scope = Except.ok key
  unreserved : reservedScope scope = false
  positive : counter ≠ 0

def AuthenticatedSequenceObservation.new (identity scope : String)
    (counter : UInt64) (digest : Digest) :
    ClientResult (AuthenticatedSequenceObservation P) :=
  match hkey : stateKey P identity scope with
  | Except.error e => Except.error e
  | Except.ok key =>
      if hscope : reservedScope scope = true then
        Except.error (ClientError.state "publisher sequence scope is reserved")
      else if hcounter : counter = 0 then
        Except.error
          (ClientError.state "sequence values must be greater than zero")
      else
        Except.ok
          { identity := identity
            scope := scope
            counter := counter
            digest := digest
            key := key
            keyed := hkey
            unreserved := Bool.eq_false_iff.mpr hscope
            positive := hcounter }

variable {P}

theorem stateKey_eq_ok {identity scope key : String} :
    stateKey P identity scope = Except.ok key <->
      exists parsed, P.tryFromZ32 identity = some parsed ∧
        P.z32 parsed = identity ∧ scope ≠ "" ∧ scope.utf8ByteSize ≤ 128 ∧
        scope.toList.all scopeChar = true ∧ identity ++ ":" ++ scope = key := by
  unfold stateKey
  simp only [bind_eq_ok, okOr_eq_ok, rejectIf_eq_ok, exists_unit, pure_eq_ok,
    not_not, not_or, Nat.not_lt, Bool.not_eq_false, ne_eq]
  constructor
  · rintro ⟨parsed, hparsed, hz32, ⟨hnonempty, hbounded, hchars⟩, hkey⟩
    exact ⟨parsed, hparsed, hz32, hnonempty, hbounded, hchars, hkey⟩
  · rintro ⟨parsed, hparsed, hz32, hnonempty, hbounded, hchars, hkey⟩
    exact ⟨parsed, hparsed, hz32, ⟨hnonempty, hbounded, hchars⟩, hkey⟩

theorem scopeChar_printable {c : Char} (h : scopeChar c = true) :
    32 ≤ c.toNat := by
  have hdash : ('-' : Char).toNat = 45 := by decide
  have hline : ('_' : Char).toNat = 95 := by decide
  have hcolon : (':' : Char).toNat = 58 := by decide
  simp only [scopeChar, Bool.or_eq_true, Bool.and_eq_true, decide_eq_true_eq,
    beq_iff_eq] at h
  rcases h with ((((h | h) | h) | rfl) | rfl) | rfl
  · omega
  · omega
  · omega
  · omega
  · omega
  · omega

/-- A state key has no character that is written as a long escape. -/
theorem stateKey_quotedSize [P.Lawful] [P.ZBase32] {identity scope key : String}
    (h : stateKey P identity scope = Except.ok key) :
    Json.quotedSize key ≤ 364 := by
  rcases stateKey_eq_ok.mp h with ⟨parsed, _, hz32, _, hbounded, hchars, rfl⟩
  have hidentity : identity.utf8ByteSize = 52 := by
    rw [← hz32]
    exact z32_utf8ByteSize parsed
  have hcolon : ":".utf8ByteSize = 1 := by decide
  have hprintable : forall c, c ∈ (identity ++ ":" ++ scope).toList ->
      32 ≤ c.toNat := by
    intro c hc
    rw [String.toList_append, String.toList_append, List.mem_append,
      List.mem_append] at hc
    rcases hc with (hc | hc) | hc
    · rw [← hz32] at hc
      have hplain := List.all_eq_true.mp (Primitives.Lawful.z32_plain parsed) c hc
      simp only [Json.plainChar, Bool.and_eq_true, decide_eq_true_eq] at hplain
      exact hplain.left.left.left
    · rcases List.mem_singleton.mp (show c ∈ [':'] from hc) with rfl
      decide
    · exact scopeChar_printable (List.all_eq_true.mp hchars c hc)
  have hsize := Json.quotedSize_le hprintable
  rw [String.utf8ByteSize_append, String.utf8ByteSize_append, hidentity,
    hcolon] at hsize
  omega

theorem publisherKey_z32 [P.Lawful] (identity control : P.PublicKey) :
    publisherKey P (P.z32 identity) (P.z32 control) =
      stateKey P (P.z32 identity) (publisherScopePrefix ++ P.z32 control) := by
  unfold publisherKey
  rw [Primitives.Lawful.tryFromZ32_z32]
  change (Except.ok control >>= _) = _
  rw [ok_bind, rejectIf_of_not (not_not.mpr rfl), ok_bind]

/-- The scope of a canonical control key keeps to the size limit. -/
theorem stateKey_publisherScope [P.Lawful] [P.ZBase32]
    (identity control : P.PublicKey) :
    stateKey P (P.z32 identity) (publisherScopePrefix ++ P.z32 control) =
      Except.ok (P.z32 identity ++ ":" ++
        (publisherScopePrefix ++ P.z32 control)) := by
  have hlist : (publisherScopePrefix ++ P.z32 control).toList =
      publisherScopePrefix.toList ++ (P.z32 control).toList :=
    String.toList_append
  rw [stateKey_eq_ok]
  refine ⟨identity, Primitives.Lawful.tryFromZ32_z32 identity, rfl, ?_, ?_, ?_,
    rfl⟩
  · intro hempty
    have hnil := congrArg String.toList hempty
    rw [hlist] at hnil
    cases hnil
  · have hprefix : publisherScopePrefix.utf8ByteSize = 13 := by decide
    rw [String.utf8ByteSize_append, z32_utf8ByteSize, hprefix]
    exact Nat.le_of_ble_eq_true rfl
  · have hprefix : publisherScopePrefix.toList.all scopeChar = true := by decide
    rw [hlist, List.all_append, hprefix, Bool.true_and, List.all_eq_true]
    intro c hc
    exact scopeChar_of_z32 c (Primitives.ZBase32.z32_chars control c hc)

theorem AuthenticatedSequenceObservation.new_eq_ok {identity scope : String}
    {counter : UInt64} {digest : Digest}
    {observation : AuthenticatedSequenceObservation P}
    (h : AuthenticatedSequenceObservation.new P identity scope counter digest =
      Except.ok observation) :
    observation.identity = identity ∧ observation.scope = scope ∧
      observation.counter = counter ∧ observation.digest = digest := by
  unfold AuthenticatedSequenceObservation.new at h
  split at h
  · cases h
  · split at h
    · cases h
    · split at h
      · cases h
      · injection h with h
        subst h
        exact ⟨rfl, rfl, rfl, rfl⟩

end Keys

/-!
# The stored map
-/

inductive StoredSequence where
  | publisher (counter : UInt64)
  | authenticated (counter : UInt64) (digest : Digest)
  deriving DecidableEq

abbrev SequenceState := Std.ExtTreeMap String StoredSequence compare

abbrev PreparedBatch := Std.ExtTreeMap String (UInt64 × Digest) compare

def StoredSequence.toJson : StoredSequence -> Json
  | StoredSequence.publisher counter =>
      Json.object
        [("kind", Json.string "publisher"),
         ("counter", Json.number counter.toNat)]
  | StoredSequence.authenticated counter digest =>
      Json.object
        [("kind", Json.string "authenticated"),
         ("counter", Json.number counter.toNat),
         ("digest", Json.array (digest.val.map fun b => Json.number b.toNat))]

def stateToJson (values : SequenceState) : Json :=
  Json.object (values.toList.map fun entry => (entry.1, entry.2.toJson))

def prepareFrom (P : Primitives) (prepared : PreparedBatch) :
    List (AuthenticatedSequenceObservation P) -> ClientResult PreparedBatch
  | [] => Except.ok prepared
  | observation :: rest => do
      rejectIf (reservedScope observation.scope = true)
        (ClientError.state "publisher sequence scope is reserved")
      let key <- stateKey P observation.identity observation.scope
      let value := (observation.counter, observation.digest)
      rejectIf (prepared[key]?.any (fun previous => decide (previous ≠ value)) =
          true)
        (ClientError.state
          "authenticated batch contains conflicting duplicate keys")
      prepareFrom P (prepared.insert key value) rest

def prepareBatch (P : Primitives)
    (observations : List (AuthenticatedSequenceObservation P)) :
    ClientResult PreparedBatch :=
  prepareFrom P ∅ observations

def recordAuthenticatedValue (values : SequenceState) (key : String)
    (counter : UInt64) (digest : Digest) : ClientResult SequenceState :=
  match values[key]? with
  | some (StoredSequence.publisher _) =>
      Except.error (ClientError.state
        "authenticated observation conflicts with publisher state")
  | some (StoredSequence.authenticated previous stored) =>
      if counter < previous then
        Except.error (ClientError.state "authenticated record rolled back")
      else if counter = previous then
        if digest = stored then Except.ok values
        else
          Except.error (ClientError.state
            "authenticated record equivocated at an existing counter")
      else
        Except.ok (values.insert key
          (StoredSequence.authenticated counter digest))
  | none =>
      if values.size ≥ maxStateEntries then
        Except.error
          (ClientError.state "sequence store reached its entry limit")
      else
        Except.ok (values.insert key
          (StoredSequence.authenticated counter digest))

def recordEntries (values : SequenceState) :
    List (String × (UInt64 × Digest)) -> ClientResult SequenceState
  | [] => Except.ok values
  | (key, counter, digest) :: rest => do
      let staged <- recordAuthenticatedValue values key counter digest
      recordEntries staged rest

def recordAuthenticatedBatch (values : SequenceState)
    (observations : PreparedBatch) : ClientResult SequenceState :=
  recordEntries values observations.toList

def initializePublisher (values : SequenceState) (key : String) :
    ClientResult SequenceState := do
  rejectIf (values.contains key = true)
    (ClientError.state
      "publisher counter is already initialized; rotate the device certificate")
  rejectIf (values.size ≥ maxStateEntries)
    (ClientError.state "sequence store reached its entry limit")
  pure (values.insert key (StoredSequence.publisher 0))

def nextPublisherValue (values : SequenceState) (key : String) :
    ClientResult (SequenceState × UInt64) :=
  match values[key]? with
  | none =>
      Except.error (ClientError.state
        "publisher state is missing; rotate the device credential")
  | some (StoredSequence.authenticated _ _) =>
      Except.error (ClientError.state
        "publisher counter conflicts with authenticated sequence state; rotate the device certificate")
  | some (StoredSequence.publisher counter) =>
      if counter.toNat + 1 < 2 ^ 64 then
        Except.ok
          (values.insert key (StoredSequence.publisher (counter + 1)),
            counter + 1)
      else
        Except.error (ClientError.state
          "publisher sequence exhausted; rotate the device certificate")

def stateTooLarge : ClientError :=
  ClientError.state "sequence state is too large"

def validateStateBounds (P : Primitives) (values : SequenceState) :
    ClientResult Unit := do
  rejectIf (values.size > maxStateEntries)
    (ClientError.state "sequence store reached its entry limit")
  rejectIf ((P.jsonToVec (stateToJson values)).length > maxStateBytes)
    stateTooLarge

/-!
# Floors and publisher counters

The map holds two banks. Recording raises the floor of the recorded key, and it
neither changes nor reads a publisher counter.
-/

def floorOf (P : Primitives) (counter : UInt64) (digest : Digest) :
    BoundCounter String :=
  { counter := counter.toNat, digest := P.base64Encode digest.val }

def floors (P : Primitives) (values : SequenceState) :
    Floors String (BoundCounter String) := fun key =>
  match values[key]? with
  | some (StoredSequence.authenticated counter digest) =>
      (floorOf P counter digest : WithBot (BoundCounter String))
  | _ => ⊥

def publishers (values : SequenceState) (key : String) : Option UInt64 :=
  match values[key]? with
  | some (StoredSequence.publisher counter) => some counter
  | _ => none

def eraseCounter : StoredSequence -> StoredSequence
  | StoredSequence.publisher _ => StoredSequence.publisher 0
  | StoredSequence.authenticated counter digest =>
      StoredSequence.authenticated counter digest

/-- The map with every publisher counter replaced by zero. -/
def eraseCounters (values : SequenceState) : SequenceState :=
  values.map fun _ value => eraseCounter value

section Recording

variable {P : Primitives}

theorem getElem_insert (values : SequenceState) (key other : String)
    (value : StoredSequence) :
    (values.insert key value)[other]? =
      if key = other then some value else values[other]? := by
  simp only [Std.ExtTreeMap.getElem?_insert, Std.LawfulEqCmp.compare_eq_iff_eq]

theorem floors_insert_authenticated (values : SequenceState) (key : String)
    (counter : UInt64) (digest : Digest) :
    floors P (values.insert key (StoredSequence.authenticated counter digest)) =
      (floors P values).raise (key, floorOf P counter digest) := by
  funext other
  by_cases hkey : other = key
  · subst hkey
    rw [Floors.raise_self]
    simp only [floors, getElem_insert, if_true]
  · rw [Floors.raise_of_ne _ hkey]
    simp only [floors, getElem_insert, if_neg (Ne.symm hkey)]

theorem publishers_insert_authenticated {values : SequenceState} {key : String}
    (h : publishers values key = none) (counter : UInt64) (digest : Digest) :
    publishers (values.insert key
      (StoredSequence.authenticated counter digest)) = publishers values := by
  funext other
  by_cases hkey : key = other
  · subst hkey
    rw [h]
    simp only [publishers, getElem_insert, if_true]
  · simp only [publishers, getElem_insert, if_neg hkey]

theorem floors_insert_publisher {values : SequenceState} {key : String}
    (h : floors P values key = ⊥) (counter : UInt64) :
    floors P (values.insert key (StoredSequence.publisher counter)) =
      floors P values := by
  funext other
  by_cases hkey : key = other
  · subst hkey
    rw [h]
    simp only [floors, getElem_insert, if_true]
  · simp only [floors, getElem_insert, if_neg hkey]

/-- What one recorded observation does to the two banks. -/
structure Records (P : Primitives) (values staged : SequenceState)
    (entry : String × BoundCounter String) : Prop where
  admits : (floors P values).Admits entry
  raised : floors P staged = (floors P values).raise entry
  publishers : publishers staged = publishers values

theorem recordAuthenticatedValue_eq_ok {values staged : SequenceState}
    {key : String} {counter : UInt64} {digest : Digest}
    (h : recordAuthenticatedValue values key counter digest =
      Except.ok staged) :
    Records P values staged (key, floorOf P counter digest) := by
  unfold recordAuthenticatedValue at h
  cases hfound : values[key]? with
  | none =>
      have hbot : floors P values key = ⊥ := by
        simp only [floors, hfound]
      have hnone : publishers values key = none := by
        simp only [publishers, hfound]
      rw [hfound] at h
      simp only at h
      split at h
      · cases h
      · injection h with h
        subst h
        constructor
        · unfold Floors.Admits
          rw [hbot]
          exact bot_le
        · exact floors_insert_authenticated values key counter digest
        · exact publishers_insert_authenticated hnone counter digest
  | some stored =>
      cases stored with
      | publisher found =>
          rw [hfound] at h
          cases h
      | authenticated previous known =>
          have hfloor : floors P values key =
              (floorOf P previous known : WithBot (BoundCounter String)) := by
            simp only [floors, hfound]
          have hnone : publishers values key = none := by
            simp only [publishers, hfound]
          rw [hfound] at h
          simp only at h
          split at h
          · cases h
          · rename_i hlower
            split at h
            · rename_i hsame
              split at h
              · rename_i hdigest
                injection h with h
                subst h hsame hdigest
                constructor
                · exact le_of_eq hfloor
                · exact (Floors.raise_of_eq hfloor).symm
                · rfl
              · cases h
            · rename_i hdiffer
              injection h with h
              subst h
              have hlt : previous.toNat < counter.toNat := by
                rw [UInt64.lt_iff_toNat_lt] at hlower
                have hne : counter.toNat ≠ previous.toNat :=
                  fun heq => hdiffer (UInt64.toNat_inj.mp heq)
                omega
              constructor
              · unfold Floors.Admits
                rw [hfloor]
                exact WithBot.coe_le_coe.mpr (Or.inl hlt)
              · exact floors_insert_authenticated values key counter digest
              · exact publishers_insert_authenticated hnone counter digest

theorem floors_initializePublisher {values staged : SequenceState}
    {key : String} (h : initializePublisher values key = Except.ok staged) :
    floors P staged = floors P values := by
  unfold initializePublisher at h
  simp only [bind_eq_ok, rejectIf_eq_ok, exists_unit, pure_eq_ok] at h
  rcases h with ⟨hfresh, _, rfl⟩
  apply floors_insert_publisher
  have hnone : values[key]? = none :=
    Std.ExtTreeMap.getElem?_eq_none_of_contains_eq_false
      (Bool.eq_false_iff.mpr hfresh)
  simp only [floors, hnone]

theorem floors_nextPublisherValue {values staged : SequenceState}
    {key : String} {value : UInt64}
    (h : nextPublisherValue values key = Except.ok (staged, value)) :
    floors P staged = floors P values := by
  unfold nextPublisherValue at h
  cases hfound : values[key]? with
  | none =>
      rw [hfound] at h
      cases h
  | some stored =>
      cases stored with
      | authenticated counter digest =>
          rw [hfound] at h
          cases h
      | publisher counter =>
          rw [hfound] at h
          simp only at h
          split at h
          · injection h with h
            injection h with hstaged _
            subst hstaged
            apply floors_insert_publisher
            simp only [floors, hfound]
          · cases h

/-!
# Publisher counters are not read
-/

theorem getElem_eraseCounters (values : SequenceState) (key : String) :
    (eraseCounters values)[key]? = values[key]?.map eraseCounter := by
  simp only [eraseCounters, Std.ExtTreeMap.getElem?_map]

theorem eraseCounters_insert_authenticated (values : SequenceState)
    (key : String) (counter : UInt64) (digest : Digest) :
    eraseCounters (values.insert key
        (StoredSequence.authenticated counter digest)) =
      (eraseCounters values).insert key
        (StoredSequence.authenticated counter digest) := by
  apply Std.ExtTreeMap.ext_getElem?
  intro other
  rw [getElem_eraseCounters, getElem_insert, getElem_insert,
    getElem_eraseCounters]
  split
  · rfl
  · rfl

/-- Recording gives the same verdict whatever the publisher counters are. -/
theorem recordAuthenticatedValue_eraseCounters (values : SequenceState)
    (key : String) (counter : UInt64) (digest : Digest) :
    recordAuthenticatedValue (eraseCounters values) key counter digest =
      (recordAuthenticatedValue values key counter digest).map
        eraseCounters := by
  have hsize : (eraseCounters values).size = values.size :=
    Std.ExtTreeMap.size_map
  unfold recordAuthenticatedValue
  rw [getElem_eraseCounters, hsize]
  cases values[key]? with
  | none =>
      simp only [Option.map_none]
      split
      · rfl
      · rw [← eraseCounters_insert_authenticated]
        rfl
  | some stored =>
      cases stored with
      | publisher found => rfl
      | authenticated previous known =>
          simp only [Option.map_some, eraseCounter]
          split
          · rfl
          · split
            · split
              · rfl
              · rfl
            · rw [← eraseCounters_insert_authenticated]
              rfl

theorem recordEntries_eraseCounters (values : SequenceState)
    (entries : List (String × (UInt64 × Digest))) :
    recordEntries (eraseCounters values) entries =
      (recordEntries values entries).map eraseCounters := by
  induction entries generalizing values with
  | nil => rfl
  | cons entry rest ih =>
      rcases entry with ⟨key, counter, digest⟩
      unfold recordEntries
      rw [recordAuthenticatedValue_eraseCounters]
      cases recordAuthenticatedValue values key counter digest with
      | error e => rfl
      | ok staged => exact ih staged

end Recording

end Client
end Pubky2Pubky
