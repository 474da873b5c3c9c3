import Pubky2Pubky.Client.Admission

/-!
# The replay cache over a history of calls

A key is reserved from a successful insertion to its expiry or its removal. The
cache forgets an entry only when it has expired, so that what it holds at a time
is what the history has reserved then.
-/

namespace Pubky2Pubky
namespace Client

open Foundation Protocol

inductive ReplayCall where
  | insert (key identity : String) (expiresAt now : UInt64)
  | remove (key : String)

namespace ReplayCall

def time? : ReplayCall -> Option UInt64
  | insert _ _ _ now => some now
  | remove _ => none

/-- The clock of the insertions never goes back. -/
def Ordered (calls : List ReplayCall) : Prop :=
  (calls.filterMap time?).Pairwise fun earlier later => earlier ≤ later

/-- Every insertion reads a time before the limit. -/
def Before (limit : UInt64) (calls : List ReplayCall) : Prop :=
  forall call : ReplayCall, call ∈ calls ->
    forall now : UInt64, call.time? = some now -> now < limit

theorem Ordered.before {calls : List ReplayCall}
    {key identity : String} {expiresAt now limit : UInt64}
    (h : Ordered (calls ++ [ReplayCall.insert key identity expiresAt now]))
    (hnow : now < limit) : Before limit calls := by
  intro call hmem earlier htime
  unfold Ordered at h
  rw [List.filterMap_append] at h
  have hle : earlier ≤ now :=
    (List.pairwise_append.mp h).right.right earlier
      (List.mem_filterMap.mpr ⟨call, hmem, htime⟩) now
      (List.mem_singleton.mpr rfl)
  exact UInt64.lt_of_le_of_lt hle hnow

end ReplayCall

namespace ReplayCache

def perform (limits : ReplayLimits) (entries : ReplayCache) :
    ReplayCall -> ReplayCache
  | ReplayCall.insert key identity expiresAt now =>
      (entries.insert limits key identity expiresAt now).1
  | ReplayCall.remove key => entries.remove key

def runFrom (limits : ReplayLimits) :
    ReplayCache -> List ReplayCall -> ReplayCache
  | entries, [] => entries
  | entries, call :: rest => runFrom limits (entries.perform limits call) rest

def run (limits : ReplayLimits) (calls : List ReplayCall) : ReplayCache :=
  runFrom limits ∅ calls

def unexpired (entries : ReplayCache) (now : UInt64) :
    List (String × ReplayEntry) :=
  entries.toList.filter fun entry => decide (now < entry.2.expiresAt)

def Fails (limits : ReplayLimits) (entries : ReplayCache)
    (key identity : String) (expiresAt now : UInt64) : Prop :=
  (entries.insert limits key identity expiresAt now).2 ≠ Except.ok ()

/-- The cache has an entry of the key that has not expired. -/
def Held (entries : ReplayCache) (key : String) (now : UInt64) : Prop :=
  exists entry : ReplayEntry, entries[key]? = some entry ∧ now < entry.expiresAt

/-- An insertion of the history succeeded, has not expired and was not undone. -/
def Reserved (limits : ReplayLimits) (calls : List ReplayCall) (key : String)
    (now : UInt64) : Prop :=
  exists (before after : List ReplayCall) (identity : String)
    (expiresAt insertedAt : UInt64),
    calls = before ++
      ReplayCall.insert key identity expiresAt insertedAt :: after ∧
    ¬ (run limits before).Fails limits key identity expiresAt insertedAt ∧
    ReplayCall.remove key ∉ after ∧
    now < expiresAt

structure Bounded (limits : ReplayLimits) (entries : ReplayCache) : Prop where
  total : entries.size ≤ limits.capacity
  share (identity : String) :
    entries.share identity ≤ limits.perIdentityCapacity

variable {limits : ReplayLimits} {entries : ReplayCache}
  {calls : List ReplayCall} {key identity : String} {expiresAt now : UInt64}

theorem runFrom_append (entries : ReplayCache) (calls later : List ReplayCall) :
    runFrom limits entries (calls ++ later) =
      runFrom limits (runFrom limits entries calls) later := by
  induction calls generalizing entries with
  | nil => rfl
  | cons call rest ih => exact ih (entries.perform limits call)

theorem run_append (calls later : List ReplayCall) :
    run limits (calls ++ later) = runFrom limits (run limits calls) later :=
  runFrom_append ∅ calls later

theorem run_snoc (calls : List ReplayCall) (call : ReplayCall) :
    run limits (calls ++ [call]) = (run limits calls).perform limits call :=
  run_append calls [call]

/-!
# The entries after one call
-/

theorem toList_retain (entries : ReplayCache) (now : UInt64) :
    (entries.retain now).toList = entries.unexpired now :=
  Std.ExtTreeMap.toList_filter

theorem size_retain (entries : ReplayCache) (now : UInt64) :
    (entries.retain now).size = (entries.unexpired now).length := by
  rw [← Std.ExtTreeMap.length_toList, toList_retain]

theorem retain_contains_iff :
    (entries.retain now).contains key = true <-> entries.Held key now := by
  rw [Std.ExtTreeMap.contains_eq_isSome_getElem?, getElem_retain]
  unfold Held
  constructor
  · intro hsome
    rcases Option.isSome_iff_exists.mp hsome with ⟨entry, hentry⟩
    rcases Option.filter_eq_some_iff.mp hentry with ⟨hheld, hlive⟩
    exact ⟨entry, hheld, of_decide_eq_true hlive⟩
  · intro hheld
    rcases hheld with ⟨entry, hentry, hlive⟩
    rw [hentry, Option.filter_some, if_pos (decide_eq_true hlive)]
    rfl

theorem toList_nodup (entries : ReplayCache) : entries.toList.Nodup := by
  apply List.Pairwise.imp _ (Std.ExtTreeMap.distinct_keys_toList
    (t := entries))
  intro first second hdistinct hsame
  apply hdistinct
  rw [hsame]
  exact Std.ReflCmp.compare_self

/-- Entries that all come from a list have at most its share. -/
theorem share_le_of_subset {listed : List (String × ReplayEntry)}
    (h : entries.toList ⊆ listed) (identity : String) :
    entries.share identity ≤
      listed.countP fun entry => decide (entry.2.identity = identity) :=
  (List.subperm_of_subset entries.toList_nodup h).countP_le _

theorem getElem_insert_cases {other : String} {entry found : ReplayEntry}
    (h : (Std.ExtTreeMap.insert entries key entry)[other]? = some found) :
    (other = key ∧ found = entry) ∨ entries[other]? = some found := by
  rw [Std.ExtTreeMap.getElem?_insert] at h
  split at h
  · rename_i hkey
    left
    rw [Std.LawfulEqCmp.compare_eq_iff_eq] at hkey
    exact ⟨hkey.symm, (Option.some.inj h).symm⟩
  · exact Or.inr h

theorem toList_insert_subset (entries : ReplayCache) (key : String)
    (entry : ReplayEntry) :
    (Std.ExtTreeMap.insert entries key entry).toList ⊆
      (key, entry) :: entries.toList := by
  intro listed hlisted
  rw [Std.ExtTreeMap.mem_toList_iff_getElem?_eq_some] at hlisted
  rcases getElem_insert_cases hlisted with ⟨hkey, hentry⟩ | hold
  · apply List.mem_cons.mpr
    exact Or.inl (Prod.ext hkey hentry)
  · apply List.mem_cons_of_mem
    exact Std.ExtTreeMap.mem_toList_iff_getElem?_eq_some.mpr hold

theorem toList_remove_subset (entries : ReplayCache) (key : String) :
    (entries.remove key).toList ⊆ entries.toList := by
  intro listed hlisted
  rw [Std.ExtTreeMap.mem_toList_iff_getElem?_eq_some] at hlisted ⊢
  unfold remove at hlisted
  rw [Std.ExtTreeMap.getElem?_erase] at hlisted
  split at hlisted
  · cases hlisted
  · exact hlisted

/-!
# The bounds
-/

theorem Bounded.empty (limits : ReplayLimits) : Bounded limits ∅ := by
  constructor
  · exact Nat.zero_le limits.capacity
  · intro identity
    exact Nat.zero_le limits.perIdentityCapacity

theorem Bounded.retain (h : Bounded limits entries) (now : UInt64) :
    Bounded limits (entries.retain now) := by
  constructor
  · exact Nat.le_trans Std.ExtTreeMap.size_filter_le_size h.total
  · intro identity
    have hsubset : (entries.retain now).toList ⊆ entries.toList := by
      rw [toList_retain]
      exact List.filter_subset_self _
    exact Nat.le_trans (share_le_of_subset hsubset identity)
      (h.share identity)

theorem Bounded.remove (h : Bounded limits entries) (key : String) :
    Bounded limits (entries.remove key) := by
  constructor
  · exact Nat.le_trans Std.ExtTreeMap.size_erase_le h.total
  · intro identity
    exact Nat.le_trans
      (share_le_of_subset (entries.toList_remove_subset key) identity)
      (h.share identity)

theorem Bounded.insert {entry : ReplayEntry} (h : Bounded limits entries)
    (htotal : entries.size < limits.capacity)
    (hshare : entries.share entry.identity < limits.perIdentityCapacity) :
    Bounded limits (Std.ExtTreeMap.insert entries key entry) := by
  constructor
  · exact Nat.le_trans Std.ExtTreeMap.size_insert_le htotal
  · intro identity
    have hle := share_le_of_subset
      (entries.toList_insert_subset key entry) identity
    rw [List.countP_cons] at hle
    by_cases hidentity : entry.identity = identity
    · subst hidentity
      rw [if_pos (decide_eq_true rfl)] at hle
      exact Nat.le_trans hle hshare
    · rw [if_neg (by simpa using hidentity)] at hle
      exact Nat.le_trans hle (h.share identity)

/-!
# The outcome of one insertion
-/

theorem insert_of_fails
    (h : entries.Fails limits key identity expiresAt now) :
    (entries.insert limits key identity expiresAt now).1 =
      entries.retain now := by
  rcases insert_cases limits entries key identity expiresAt now with
    hfailed | ⟨_hfree, hinserted⟩
  · rcases hfailed with ⟨error, herror⟩
    rw [herror]
  · exact absurd (by rw [hinserted]) h

theorem insert_of_not_fails
    (h : ¬ entries.Fails limits key identity expiresAt now) :
    (entries.insert limits key identity expiresAt now).1 =
      Std.ExtTreeMap.insert (entries.retain now) key
        { identity := identity, expiresAt := expiresAt } := by
  rcases insert_cases limits entries key identity expiresAt now with
    hfailed | ⟨_hfree, hinserted⟩
  · rcases hfailed with ⟨error, herror⟩
    apply absurd _ h
    unfold Fails
    rw [herror]
    intro hok
    cases hok
  · rw [hinserted]

/-- An insertion fails at a held key, a full cache or a full share only. -/
theorem fails_iff :
    entries.Fails limits key identity expiresAt now <->
      entries.Held key now ∨
      limits.capacity ≤ (entries.unexpired now).length ∨
      limits.perIdentityCapacity ≤ (entries.unexpired now).countP fun entry =>
        decide (entry.2.identity = identity) := by
  have hshare : (entries.retain now).share identity =
      (entries.unexpired now).countP fun entry =>
        decide (entry.2.identity = identity) := by
    unfold share
    rw [toList_retain]
  rw [← retain_contains_iff, ← size_retain, ← hshare]
  unfold Fails insert
  dsimp only
  split
  · rename_i hheld
    exact ⟨fun _ => Or.inl hheld, fun _ hok => nomatch hok⟩
  · rename_i hfree
    split
    · rename_i hfull
      exact ⟨fun _ => Or.inr (Or.inl hfull), fun _ hok => nomatch hok⟩
    · rename_i hroom
      split
      · rename_i hfull
        exact ⟨fun _ => Or.inr (Or.inr hfull), fun _ hok => nomatch hok⟩
      · rename_i hshareRoom
        constructor
        · intro hfails
          exact absurd rfl hfails
        · intro hreason
          rcases hreason with hheld | hfull | hfull
          · exact absurd hheld hfree
          · exact absurd hfull hroom
          · exact absurd hfull hshareRoom

theorem Bounded.perform (h : Bounded limits entries) (call : ReplayCall) :
    Bounded limits (entries.perform limits call) := by
  cases call with
  | insert key identity expiresAt now =>
      show Bounded limits (entries.insert limits key identity expiresAt now).1
      by_cases hfails : entries.Fails limits key identity expiresAt now
      · rw [insert_of_fails hfails]
        exact h.retain now
      · rw [insert_of_not_fails hfails]
        rw [fails_iff, not_or, not_or, Nat.not_le, Nat.not_le, ← size_retain,
          ← toList_retain] at hfails
        rcases hfails with ⟨_hfree, htotal, hshare⟩
        exact (h.retain now).insert htotal hshare
  | remove key => exact h.remove key

theorem Bounded.runFrom (h : Bounded limits entries)
    (calls : List ReplayCall) :
    Bounded limits (runFrom limits entries calls) := by
  induction calls generalizing entries with
  | nil => exact h
  | cons call rest ih => exact ih (h.perform call)

theorem run_bounded (limits : ReplayLimits) (calls : List ReplayCall) :
    Bounded limits (run limits calls) :=
  (Bounded.empty limits).runFrom calls

/-!
# What is held has been reserved
-/

/-- An entry stays over a call before its expiry that does not remove it. -/
theorem getElem_perform {call : ReplayCall} {entry : ReplayEntry}
    (h : entries[key]? = some entry)
    (hbefore : forall now : UInt64, call.time? = some now ->
      now < entry.expiresAt)
    (hkept : call ≠ ReplayCall.remove key) :
    (entries.perform limits call)[key]? = some entry := by
  cases call with
  | insert other identity expiresAt now =>
      show (entries.insert limits other identity expiresAt now).1[key]? = _
      have hretained := retained_of_live h (hbefore now rfl)
      rcases insert_cases limits entries other identity expiresAt now with
        hfailed | ⟨hfree, hinserted⟩
      · rcases hfailed with ⟨error, herror⟩
        rw [herror]
        exact hretained
      · rw [hinserted, Std.ExtTreeMap.getElem?_insert, if_neg]
        · exact hretained
        · intro hsame
          rw [Std.LawfulEqCmp.compare_eq_iff_eq.mp hsame, hretained] at hfree
          cases hfree
  | remove other =>
      show (entries.erase other)[key]? = _
      rw [Std.ExtTreeMap.getElem?_erase, if_neg]
      · exact h
      · intro hsame
        rw [Std.LawfulEqCmp.compare_eq_iff_eq.mp hsame] at hkept
        exact hkept rfl

theorem getElem_runFrom {entry : ReplayEntry}
    (h : entries[key]? = some entry)
    (hbefore : ReplayCall.Before entry.expiresAt calls)
    (hkept : ReplayCall.remove key ∉ calls) :
    (runFrom limits entries calls)[key]? = some entry := by
  induction calls generalizing entries with
  | nil => exact h
  | cons call rest ih =>
      apply ih
      · apply getElem_perform h (hbefore call List.mem_cons_self)
        intro hremoved
        exact hkept (hremoved ▸ List.mem_cons_self)
      · intro later hlater
        exact hbefore later (List.mem_cons_of_mem call hlater)
      · intro hremoved
        exact hkept (List.mem_cons_of_mem call hremoved)

/-- A reservation holds its key until it expires. -/
theorem held_of_reserved (hbefore : forall limit : UInt64, now < limit ->
      ReplayCall.Before limit calls)
    (h : Reserved limits calls key now) :
    (run limits calls).Held key now := by
  rcases h with ⟨before, after, identity, expiresAt, insertedAt, hcalls,
    hsucceeded, hkept, hlive⟩
  have hafter : ReplayCall.Before expiresAt after := by
    intro call hmem
    apply hbefore expiresAt hlive call
    rw [hcalls]
    exact List.mem_append_right before (List.mem_cons_of_mem _ hmem)
  refine ⟨{ identity := identity, expiresAt := expiresAt }, ?_, hlive⟩
  rw [hcalls, run_append]
  apply getElem_runFrom _ hafter hkept
  show ((run limits before).insert limits key identity expiresAt
    insertedAt).1[key]? = _
  rw [insert_of_not_fails hsucceeded, Std.ExtTreeMap.getElem?_insert_self]

theorem Reserved.snoc {call : ReplayCall} (h : Reserved limits calls key now)
    (hkept : call ≠ ReplayCall.remove key) :
    Reserved limits (calls ++ [call]) key now := by
  rcases h with ⟨before, after, identity, expiresAt, insertedAt, hcalls,
    hsucceeded, hafter, hlive⟩
  refine ⟨before, after ++ [call], identity, expiresAt, insertedAt, ?_,
    hsucceeded, ?_, hlive⟩
  · rw [hcalls, List.append_assoc, List.cons_append]
  · intro hremoved
    rcases List.mem_append.mp hremoved with hold | hlast
    · exact hafter hold
    · exact hkept (List.mem_singleton.mp hlast).symm

theorem reserved_of_held (h : (run limits calls).Held key now) :
    Reserved limits calls key now := by
  induction calls using List.reverseRecOn with
  | nil =>
      rcases h with ⟨entry, hentry, _hlive⟩
      change (∅ : ReplayCache)[key]? = some entry at hentry
      rw [Std.ExtTreeMap.getElem?_empty] at hentry
      cases hentry
  | append_singleton calls call ih =>
      rcases h with ⟨entry, hentry, hlive⟩
      rw [run_snoc] at hentry
      cases call with
      | remove other =>
          change ((run limits calls).erase other)[key]? = some entry at hentry
          rw [Std.ExtTreeMap.getElem?_erase] at hentry
          split at hentry
          · cases hentry
          · rename_i hother
            apply (ih ⟨entry, hentry, hlive⟩).snoc
            intro hsame
            cases hsame
            exact hother Std.ReflCmp.compare_self
      | insert other identity expiresAt insertedAt =>
          have hold (hretained :
              ((run limits calls).retain insertedAt)[key]? = some entry) :
              Reserved limits (calls ++ [ReplayCall.insert other identity
                expiresAt insertedAt]) key now := by
            rw [getElem_retain] at hretained
            have hheld := (Option.filter_eq_some_iff.mp hretained).left
            exact (ih ⟨entry, hheld, hlive⟩).snoc nofun
          change ((run limits calls).insert limits other identity expiresAt
            insertedAt).1[key]? = some entry at hentry
          by_cases hfails : (run limits calls).Fails limits other identity
            expiresAt insertedAt
          · rw [insert_of_fails hfails] at hentry
            exact hold hentry
          · rw [insert_of_not_fails hfails] at hentry
            rcases getElem_insert_cases hentry with ⟨hkey, hnew⟩ | hearlier
            · subst hkey hnew
              exact ⟨calls, [], identity, expiresAt, insertedAt, rfl, hfails,
                List.not_mem_nil, hlive⟩
            · exact hold hearlier

/-!
# The invariant of every history
-/

/-- What an insertion after a history does. -/
structure InsertLaw (limits : ReplayLimits) (calls : List ReplayCall)
    (key identity : String) (expiresAt now : UInt64) : Prop where
  bounded : Bounded limits
    ((run limits calls).insert limits key identity expiresAt now).1
  held : (run limits calls).Held key now <-> Reserved limits calls key now
  rejected : (run limits calls).Fails limits key identity expiresAt now <->
    Reserved limits calls key now ∨
    limits.capacity ≤ ((run limits calls).unexpired now).length ∨
    limits.perIdentityCapacity ≤
      ((run limits calls).unexpired now).countP fun entry =>
        decide (entry.2.identity = identity)
  unchanged : (run limits calls).Fails limits key identity expiresAt now ->
    forall other : String,
      ((run limits calls).insert limits key identity expiresAt now).1[other]? =
        (run limits calls)[other]?.filter fun entry =>
          decide (now < entry.expiresAt)
  reserved : ¬ (run limits calls).Fails limits key identity expiresAt now ->
    ((run limits calls).insert limits key identity expiresAt now).1[key]? =
      some { identity := identity, expiresAt := expiresAt }

end ReplayCache

open ReplayCache in
/-- After any ordered calls the cache is within its limits, and it refuses an
insertion exactly for a key reserved until later, a full cache or a full
share. -/
theorem replay_cache_invariant (limits : ReplayLimits)
    (calls : List ReplayCall) :
    Bounded limits (run limits calls) ∧
      forall (key identity : String) (expiresAt now : UInt64),
        ReplayCall.Ordered
          (calls ++ [ReplayCall.insert key identity expiresAt now]) ->
        InsertLaw limits calls key identity expiresAt now := by
  refine ⟨run_bounded limits calls, ?_⟩
  intro key identity expiresAt now hordered
  have hheld : (run limits calls).Held key now <->
      Reserved limits calls key now :=
    ⟨reserved_of_held, held_of_reserved fun _ hlimit => hordered.before hlimit⟩
  constructor
  · exact (run_bounded limits calls).perform
      (ReplayCall.insert key identity expiresAt now)
  · exact hheld
  · rw [← hheld]
    exact fails_iff
  · intro hfails other
    rw [insert_of_fails hfails]
    exact getElem_retain _ _ _
  · intro hsucceeded
    rw [insert_of_not_fails hsucceeded, Std.ExtTreeMap.getElem?_insert_self]

/-- A nonce of one identity is refused while its first use has not expired. -/
theorem replay_cache_invariant_sample :
    let limits : ReplayLimits := { capacity := 2, perIdentityCapacity := 1 }
    (ReplayCache.run limits
      [ReplayCall.insert "nonce" "alice" 20 10]).Fails limits
        "nonce" "alice" 20 10 := by
  intro limits
  have hordered : ReplayCall.Ordered
      ([ReplayCall.insert "nonce" "alice" 20 10] ++
        [ReplayCall.insert "nonce" "alice" 20 10]) := by
    unfold ReplayCall.Ordered
    decide
  apply (((replay_cache_invariant limits
    [ReplayCall.insert "nonce" "alice" 20 10]).right "nonce" "alice" 20 10
      hordered).rejected).mpr
  left
  refine ⟨[], [], "alice", 20, 10, rfl, ?_, List.not_mem_nil, by decide⟩
  intro hfails
  exact hfails rfl

end Client
end Pubky2Pubky
