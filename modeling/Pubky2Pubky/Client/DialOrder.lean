import Pubky2Pubky.Foundation.Machine
import Pubky2Pubky.Foundation.Newest
import Pubky2Pubky.Protocol.LengthDigest
import Pubky2Pubky.Client.AntiRollback

/-!
# The order of a client's dials

A client keeps at most eight unexpired records of its own, and it dials as the
one with the highest sequence. A peer that committed an earlier one refuses the
next dial when that sequence is lower.
-/

namespace Pubky2Pubky
namespace Client

open Foundation Protocol

/-- The records of a client, and the Hellos it has sent. -/
structure DialHistory where
  active : ActiveRecords
  last : Option UInt64
  hellos : List V1SignedHello

/--
Registering a record, choosing one for a Hello, and looking one up for an incoming
Hello. The map has no order of its own, so it may be reordered at any time.
-/
inductive DialHistoryEvent (P : Primitives) where
  | register (sequence lifetimeSeconds now : UInt64)
  | dial (target : ResolvedV1Device) (application : String) (now : UInt64)
      (random : P.Keypair)
  | lookup (now : UInt64)
  | reorder (active : ActiveRecords)

namespace DialHistory

variable {P : Primitives}

def register (client : V1Client) (s : DialHistory)
    (sequence lifetimeSeconds now : UInt64) : DialHistory :=
  match currentRecord P client s.active sequence lifetimeSeconds now with
  | Except.ok (active, _) => { s with active := active, last := some sequence }
  | Except.error _ => { s with last := some sequence }

def dial (client : V1Client) (s : DialHistory) (target : ResolvedV1Device)
    (application : String) (now : UInt64) (random : P.Keypair) : DialHistory :=
  match signGreeting P client s.active target application now random with
  | Except.ok greeting =>
      { s with
        active := retainCurrent s.active now
        hellos := s.hellos ++ [greeting.hello] }
  | Except.error _ => { s with active := retainCurrent s.active now }

def next (client : V1Client) (s : DialHistory) :
    DialHistoryEvent P -> Option DialHistory
  | DialHistoryEvent.register sequence lifetimeSeconds now =>
      some (register (P := P) client s sequence lifetimeSeconds now)
  | DialHistoryEvent.dial target application now random =>
      some (s.dial client target application now random)
  | DialHistoryEvent.lookup now =>
      some { s with active := retainCurrent s.active now }
  | DialHistoryEvent.reorder active =>
      if active.Perm s.active then some { s with active := active } else none

end DialHistory

def dialHistory (P : Primitives) (client : V1Client) :
    Machine DialHistory (DialHistoryEvent P) :=
  { initial := fun s => s.active = [] ∧ s.last = none ∧ s.hellos = []
    next := DialHistory.next client }

namespace DialHistory

variable {P : Primitives}

/-- Sequences are passed in strictly increasing order. -/
def Increasing (s : DialHistory) : DialHistoryEvent P -> Prop
  | DialHistoryEvent.register sequence _ _ =>
      forall last, s.last = some last -> last < sequence
  | _ => True

/-- No active record outlasts a new one. -/
def Outlasting (s : DialHistory) : DialHistoryEvent P -> Prop
  | DialHistoryEvent.register _ lifetimeSeconds now =>
      forall entry, entry ∈ retainCurrent s.active now ->
        entry.2.locator.claims.expiresAt.toNat ≤
          now.toNat + lifetimeSeconds.toNat
  | _ => True

/--
Later Hellos have the higher sequences, and a store that has recorded the sender
of an earlier Hello records the sender of a later one.
-/
def NeverRollsBack (P : Primitives) (s : DialHistory) : Prop :=
  s.hellos.Pairwise fun earlier later =>
    earlier.claims.fromDeviceRecord.locator.claims.sequence ≤
        later.claims.fromDeviceRecord.locator.claims.sequence ∧
      forall (first second : AuthenticatedSequenceObservation P)
          (values : SequenceState),
        recordObservation P earlier.claims.fromDeviceRecord = Except.ok first ->
        recordObservation P later.claims.fromDeviceRecord = Except.ok second ->
        values[first.key]? =
          some (StoredSequence.authenticated first.counter first.digest) ->
        exists staged, recordAuthenticatedValue values second.key second.counter
          second.digest = Except.ok staged

end DialHistory

/-!
# Registering and choosing
-/

section Choice

variable {P : Primitives} {client : V1Client} {active : ActiveRecords}

abbrev sequenceOf (entry : String × V1DeviceRecord) : Nat :=
  entry.2.locator.claims.sequence.toNat

abbrev expiryOf (entry : String × V1DeviceRecord) : Nat :=
  entry.2.locator.claims.expiresAt.toNat

theorem signWithPolicy_announced {credential : V1DeviceCredential}
    {relayUrls : List Url} {instanceNonce : String} {sequence : UInt64}
    {validity : UInt64 × UInt64} {allowLoopbackDev : Bool}
    {locator : V1SignedLocator}
    (h : V1SignedLocator.signWithPolicy P credential relayUrls instanceNonce
      sequence validity allowLoopbackDev = Except.ok locator) :
    locator.claims.sequence = sequence ∧
      locator.claims.expiresAt = validity.2 := by
  unfold V1SignedLocator.signWithPolicy at h
  simp only [bind_eq_ok, exists_unit, pure_eq_ok] at h
  rcases h with ⟨_, _, key, _, rfl⟩
  exact ⟨rfl, rfl⟩

/-- What a registration adds, and which records stay. -/
structure Registered (P : Primitives) (client : V1Client)
    (active after : ActiveRecords) (sequence lifetimeSeconds now : UInt64)
    (record : V1DeviceRecord) : Prop where
  own : record.certificate = client.credential.certificate
  sequence : record.locator.claims.sequence = sequence
  expiry : record.locator.claims.expiresAt.toNat =
    now.toNat + lifetimeSeconds.toNat
  others : exists others, after = others ++ [(record.digest P, record)] ∧
    forall entry, entry ∈ others -> entry ∈ retainCurrent active now

theorem mem_of_mem_evictOldest {entry : String × V1DeviceRecord}
    (h : entry ∈ evictOldest active) : entry ∈ active := by
  cases active with
  | nil => cases h
  | cons first rest => exact (List.mem_filter.mp h).left

theorem currentRecord_eq_ok {after : ActiveRecords}
    {sequence lifetimeSeconds now : UInt64} {record : V1DeviceRecord}
    (h : currentRecord P client active sequence lifetimeSeconds now =
      Except.ok (after, record)) :
    Registered P client active after sequence lifetimeSeconds now record := by
  unfold currentRecord at h
  simp only [bind_eq_ok, rejectIf_eq_ok, exists_unit, pure_eq_ok,
    fromProtocol_eq_ok, ge_iff_le, Nat.not_le] at h
  rcases h with ⟨_, hbound, locator, hlocator, found, hnew, heq⟩
  injection heq with hafter hrecord
  subst hrecord
  rcases V1DeviceRecord.new_eq_ok hnew with ⟨_, hcertificate, hfound, _⟩
  have hclaims : locator.claims.sequence = sequence ∧
      locator.claims.expiresAt = now + lifetimeSeconds := by
    split at hlocator
    · exact signWithPolicy_announced hlocator
    · exact signWithPolicy_announced hlocator
  have hexpiry : (now + lifetimeSeconds).toNat =
      now.toNat + lifetimeSeconds.toNat := by
    rw [UInt64.toNat_add, Nat.mod_eq_of_lt hbound]
  constructor
  · exact hcertificate
  · rw [hfound]
    exact hclaims.left
  · rw [hfound, hclaims.right]
    exact hexpiry
  · refine ⟨_, hafter.symm, ?_⟩
    intro entry hentry
    have hroom := (List.mem_filter.mp hentry).left
    split at hroom
    · exact mem_of_mem_evictOldest hroom
    · exact hroom

theorem mem_retainCurrent {entry : String × V1DeviceRecord} {now : UInt64} :
    entry ∈ retainCurrent active now <->
      entry ∈ active ∧ now.toNat < expiryOf entry := by
  unfold retainCurrent
  rw [List.mem_filter, decide_eq_true_eq, gt_iff_lt, UInt64.lt_iff_toNat_lt]

theorem retainCurrent_led {leader : String × V1DeviceRecord}
    (h : Led sequenceOf expiryOf active leader) (now : UInt64) :
    retainCurrent active now = [] ∨
      Led sequenceOf expiryOf (retainCurrent active now) leader := by
  apply h.unexpired
  intro item hitem hle
  rw [decide_eq_true_eq, gt_iff_lt, UInt64.lt_iff_toNat_lt] at hitem ⊢
  exact Nat.lt_of_lt_of_le hitem hle

/-- The leader is chosen for the next Hello. -/
theorem selectRecord_led {leader : String × V1DeviceRecord}
    (h : Led sequenceOf expiryOf active leader) :
    selectRecord active = some leader.2 := by
  cases active with
  | nil => cases h.mem
  | cons first rest =>
      change some (rest.foldl laterRecord first).2 = some leader.2
      rw [h.foldl_eq]
      · intro a b
        unfold laterRecord
        dsimp only
        split
        · exact Or.inr rfl
        · exact Or.inl rfl
      · intro a b hlt
        unfold laterRecord
        dsimp only
        rw [if_neg]
        rw [not_or, UInt64.lt_iff_toNat_lt, not_and]
        refine ⟨Nat.lt_asymm hlt, ?_⟩
        intro heq
        exact absurd (congrArg UInt64.toNat heq) (Nat.ne_of_gt hlt)
      · intro a b hlt
        unfold laterRecord
        dsimp only
        rw [if_pos (Or.inl (UInt64.lt_iff_toNat_lt.mpr hlt))]

theorem signGreeting_selects {target : ResolvedV1Device} {application : String}
    {now : UInt64} {random : P.Keypair} {greeting : Greeting}
    (h : signGreeting P client active target application now random =
      Except.ok greeting) :
    selectRecord (retainCurrent active now) =
      some greeting.hello.claims.fromDeviceRecord := by
  have hsender := (signGreeting_eq_ok h).left.sender
  unfold signGreeting at h
  simp only [bind_eq_ok, okOr_eq_ok, rejectIf_eq_ok, exists_unit, pure_eq_ok]
    at h
  rcases h with ⟨senderRecord, hselected, _, hello, _, rfl⟩
  rw [hsender]
  exact hselected

end Choice

/-!
# The order over a run
-/

namespace DialHistory

variable {P : Primitives} {client : V1Client} {s : DialHistory}

theorem register_of_ok {after : ActiveRecords}
    {sequence lifetimeSeconds now : UInt64} {record : V1DeviceRecord}
    (h : currentRecord P client s.active sequence lifetimeSeconds now =
      Except.ok (after, record)) :
    s.next client
        (DialHistoryEvent.register (P := P) sequence lifetimeSeconds now) =
      some { s with active := after, last := some sequence } := by
  change some (DialHistory.register (P := P) client s sequence lifetimeSeconds
    now) = _
  unfold DialHistory.register
  rw [h]

theorem dial_of_ok {target : ResolvedV1Device} {application : String}
    {now : UInt64} {random : P.Keypair} {greeting : Greeting}
    (h : signGreeting P client s.active target application now random =
      Except.ok greeting) :
    s.next client (DialHistoryEvent.dial target application now random) =
      some { s with
        active := retainCurrent s.active now
        hellos := s.hellos ++ [greeting.hello] } := by
  change some (s.dial client target application now random) = _
  unfold DialHistory.dial
  rw [h]

/-- The sequence has been passed to the client already. -/
def Passed (s : DialHistory) (record : V1DeviceRecord) : Prop :=
  exists last, s.last = some last ∧ record.locator.claims.sequence ≤ last

/-- Both are one record, or the later one has the higher sequence. -/
def Before (earlier later : V1DeviceRecord) : Prop :=
  earlier = later ∨
    earlier.locator.claims.sequence < later.locator.claims.sequence

structure Ordered (client : V1Client) (s : DialHistory) : Prop where
  own (entry : String × V1DeviceRecord) : entry ∈ s.active ->
    entry.2.certificate = client.credential.certificate ∧ s.Passed entry.2
  dialed (hello : V1SignedHello) : hello ∈ s.hellos ->
    hello.claims.fromDeviceRecord.certificate =
        client.credential.certificate ∧
      s.Passed hello.claims.fromDeviceRecord
  led : s.active = [] ∨ exists leader,
    Led sequenceOf expiryOf s.active leader ∧
      forall hello, hello ∈ s.hellos ->
        Before hello.claims.fromDeviceRecord leader.2
  chain : s.hellos.Pairwise fun earlier later =>
    Before earlier.claims.fromDeviceRecord later.claims.fromDeviceRecord

theorem ordered_initial (h : (dialHistory P client).initial s) :
    s.Ordered client := by
  rcases h with ⟨hactive, _, hhellos⟩
  constructor
  · intro entry hentry
    rw [hactive] at hentry
    cases hentry
  · intro hello hhello
    rw [hhellos] at hhello
    cases hhello
  · exact Or.inl hactive
  · rw [hhellos]
    exact List.Pairwise.nil

theorem Passed.later {record : V1DeviceRecord} {sequence : UInt64}
    {active : ActiveRecords} {hellos : List V1SignedHello}
    (h : s.Passed record)
    (hnew : forall last, s.last = some last -> last < sequence) :
    Passed { active := active, last := some sequence, hellos := hellos }
      record := by
  rcases h with ⟨last, hlast, hle⟩
  exact ⟨sequence, rfl,
    UInt64.le_of_lt (UInt64.lt_of_le_of_lt hle (hnew last hlast))⟩

theorem Passed.lt {record : V1DeviceRecord} {sequence : UInt64}
    (h : s.Passed record)
    (hnew : forall last, s.last = some last -> last < sequence) :
    record.locator.claims.sequence < sequence := by
  rcases h with ⟨last, hlast, hle⟩
  exact UInt64.lt_of_le_of_lt hle (hnew last hlast)

theorem Ordered.retain (h : s.Ordered client) (now : UInt64) :
    { s with active := retainCurrent s.active now : DialHistory }.Ordered
      client := by
  constructor
  · intro entry hentry
    exact h.own entry (mem_retainCurrent.mp hentry).left
  · exact h.dialed
  · rcases h.led with hnil | ⟨leader, hled, hbefore⟩
    · apply Or.inl
      change retainCurrent s.active now = []
      rw [hnil]
      rfl
    · rcases retainCurrent_led hled now with hempty | hkept
      · exact Or.inl hempty
      · exact Or.inr ⟨leader, hkept, hbefore⟩
  · exact h.chain

theorem Ordered.reorder (h : s.Ordered client) {active : ActiveRecords}
    (hperm : active.Perm s.active) :
    { s with active := active : DialHistory }.Ordered client := by
  constructor
  · intro entry hentry
    exact h.own entry (hperm.mem_iff.mp hentry)
  · exact h.dialed
  · rcases h.led with hnil | ⟨leader, hled, hbefore⟩
    · rw [hnil] at hperm
      exact Or.inl hperm.eq_nil
    · exact Or.inr ⟨leader, hled.perm hperm, hbefore⟩
  · exact h.chain

theorem Ordered.register (h : s.Ordered client)
    {sequence lifetimeSeconds now : UInt64}
    (hnew : forall last, s.last = some last -> last < sequence)
    (hlast : forall entry, entry ∈ retainCurrent s.active now ->
      expiryOf entry ≤ now.toNat + lifetimeSeconds.toNat) :
    (s.register (P := P) client sequence lifetimeSeconds now).Ordered
      client := by
  unfold DialHistory.register
  split
  · rename_i active record hok
    rcases currentRecord_eq_ok hok with
      ⟨hown, hsequence, hexpiry, others, hactive, hothers⟩
    have hold : forall entry, entry ∈ others ->
        entry.2.certificate = client.credential.certificate ∧
          s.Passed entry.2 := by
      intro entry hentry
      exact h.own entry (mem_retainCurrent.mp (hothers entry hentry)).left
    constructor
    · intro entry hentry
      change entry ∈ active at hentry
      rw [hactive] at hentry
      rcases List.mem_append.mp hentry with hother | hself
      · rcases hold entry hother with ⟨hcertificate, hpassed⟩
        exact ⟨hcertificate, hpassed.later hnew⟩
      · rw [List.mem_singleton.mp hself]
        exact ⟨hown, sequence, rfl, UInt64.le_of_eq hsequence⟩
    · intro hello hhello
      rcases h.dialed hello hhello with ⟨hcertificate, hpassed⟩
      exact ⟨hcertificate, hpassed.later hnew⟩
    · refine Or.inr ⟨(record.digest P, record), ?_, ?_⟩
      · change Led sequenceOf expiryOf active _
        rw [hactive]
        apply led_append
        · intro entry hentry
          have hlt := (hold entry hentry).right.lt hnew
          rw [← hsequence] at hlt
          exact UInt64.lt_iff_toNat_lt.mp hlt
        · intro entry hentry
          change expiryOf entry ≤ record.locator.claims.expiresAt.toNat
          rw [hexpiry]
          exact hlast entry (hothers entry hentry)
      · intro hello hhello
        have hlt := (h.dialed hello hhello).right.lt hnew
        rw [← hsequence] at hlt
        exact Or.inr hlt
    · exact h.chain
  · constructor
    · intro entry hentry
      rcases h.own entry hentry with ⟨hcertificate, hpassed⟩
      exact ⟨hcertificate, hpassed.later hnew⟩
    · intro hello hhello
      rcases h.dialed hello hhello with ⟨hcertificate, hpassed⟩
      exact ⟨hcertificate, hpassed.later hnew⟩
    · exact h.led
    · exact h.chain

theorem Ordered.dial (h : s.Ordered client) {target : ResolvedV1Device}
    {application : String} {now : UInt64} {random : P.Keypair} :
    (s.dial client target application now random).Ordered client := by
  have hretained := h.retain now
  unfold DialHistory.dial
  split
  · rename_i greeting hok
    have hselected := signGreeting_selects hok
    rcases hretained.led with hnil | ⟨leader, hled, hbefore⟩
    · change retainCurrent s.active now = [] at hnil
      rw [hnil] at hselected
      cases hselected
    · rw [selectRecord_led hled, Option.some.injEq] at hselected
      constructor
      · exact hretained.own
      · intro hello hhello
        rcases List.mem_append.mp hhello with hold | hself
        · exact h.dialed hello hold
        · rw [List.mem_singleton.mp hself, ← hselected]
          exact hretained.own leader hled.mem
      · refine Or.inr ⟨leader, hled, ?_⟩
        intro hello hhello
        rcases List.mem_append.mp hhello with hold | hself
        · exact hbefore hello hold
        · rw [List.mem_singleton.mp hself, ← hselected]
          exact Or.inl rfl
      · apply List.pairwise_append.mpr
        refine ⟨h.chain, List.pairwise_singleton _ _, ?_⟩
        intro earlier hearlier later hlater
        rw [List.mem_singleton.mp hlater, ← hselected]
        exact hbefore earlier hearlier
  · exact hretained

theorem Ordered.next (h : s.Ordered client) {event : DialHistoryEvent P}
    {after : DialHistory} (hnew : s.Increasing event)
    (hlast : s.Outlasting event) (hnext : s.next client event = some after) :
    after.Ordered client := by
  cases event with
  | register sequence lifetimeSeconds now =>
      injection hnext with hnext
      rw [← hnext]
      exact h.register hnew hlast
  | dial target application now random =>
      injection hnext with hnext
      rw [← hnext]
      exact h.dial
  | lookup now =>
      injection hnext with hnext
      rw [← hnext]
      exact h.retain now
  | reorder active =>
      unfold DialHistory.next at hnext
      dsimp only at hnext
      split at hnext
      · rename_i hperm
        injection hnext with hnext
        rw [← hnext]
        exact h.reorder hperm
      · cases hnext

/-- A store that has recorded a record records the ones after it. -/
theorem Before.recorded {earlier later : V1DeviceRecord} (h : Before earlier later)
    (hsame : earlier.certificate = later.certificate)
    {first second : AuthenticatedSequenceObservation P} {values : SequenceState}
    (hfirst : recordObservation P earlier = Except.ok first)
    (hsecond : recordObservation P later = Except.ok second)
    (hstored : values[first.key]? =
      some (StoredSequence.authenticated first.counter first.digest)) :
    exists staged, recordAuthenticatedValue values second.key second.counter
      second.digest = Except.ok staged := by
  rcases recordObservation_eq_ok hfirst with
    ⟨hfirstIdentity, hfirstScope, hfirstFloor⟩
  rcases recordObservation_eq_ok hsecond with
    ⟨hsecondIdentity, hsecondScope, hsecondFloor⟩
  have hkey : first.key = second.key := by
    have hfirstKey := first.keyed
    rw [hfirstIdentity, hfirstScope, hsame, ← hsecondIdentity, ← hsecondScope,
      second.keyed] at hfirstKey
    injection hfirstKey with hfirstKey
    exact hfirstKey.symm
  rw [hkey] at hstored
  unfold recordAuthenticatedValue
  rw [hstored]
  dsimp only
  rcases h with rfl | hlt
  · rw [hfirst] at hsecond
    injection hsecond with hsecond
    rw [hsecond, if_neg (UInt64.lt_irrefl _), if_pos rfl, if_pos rfl]
    exact ⟨values, rfl⟩
  · have hfirstCounter := congrArg BoundCounter.counter hfirstFloor
    have hsecondCounter := congrArg BoundCounter.counter hsecondFloor
    change first.counter.toNat = earlier.locator.claims.sequence.toNat
      at hfirstCounter
    change second.counter.toNat = later.locator.claims.sequence.toNat
      at hsecondCounter
    rw [UInt64.lt_iff_toNat_lt, ← hfirstCounter, ← hsecondCounter] at hlt
    rw [if_neg, if_neg]
    · exact ⟨_, rfl⟩
    · intro heq
      exact absurd (congrArg UInt64.toNat heq) (Nat.ne_of_gt hlt)
    · rw [UInt64.lt_iff_toNat_lt]
      exact Nat.lt_asymm hlt

theorem Ordered.neverRollsBack (h : s.Ordered client) : s.NeverRollsBack P := by
  apply h.chain.imp_of_mem
  intro earlier later hearlier hlater hbefore
  have hsame := (h.dialed earlier hearlier).left.trans
    (h.dialed later hlater).left.symm
  refine ⟨?_, fun first second values => hbefore.recorded hsame⟩
  rcases hbefore with heq | hlt
  · exact UInt64.le_of_eq (congrArg (fun record : V1DeviceRecord =>
      record.locator.claims.sequence) heq)
  · exact UInt64.le_of_lt hlt

theorem reachable_ordered
    (h : (dialHistory P client).ReachableWhen
      (fun s event => s.Increasing event ∧ s.Outlasting event) s) :
    s.Ordered client :=
  h.invariant (fun _ hinitial => ordered_initial hinitial)
    fun _ _ _ hordered hallowed hnext =>
      hordered.next hallowed.left hallowed.right hnext

end DialHistory

/--
A client never rolls itself back while no record that it registers expires before
an older one that is still active.
-/
theorem dials_in_order {P : Primitives} {client : V1Client} {s : DialHistory}
    (h : (dialHistory P client).ReachableWhen
      (fun s event => s.Increasing event ∧ s.Outlasting event) s) :
    s.NeverRollsBack P :=
  (DialHistory.reachable_ordered h).neverRollsBack

/-!
# A record that expires before an older one
-/

namespace Sample

open Protocol.Reference

def measuredClient (keys : DeviceKeys) : V1Client :=
  { credential := keys.measuredCredential
    trustedRelays := [DeviceKeys.relay]
    instanceNonce := DeviceKeys.measuredNonce
    acceptedApplications := ["chat"]
    allowInsecureLoopbackRelay := false
    resolverAllowsLoopback := false }

def measuredEntry (keys : DeviceKeys) (sequence expiresAt : UInt64) :
    String × V1DeviceRecord :=
  ((keys.measuredRecord sequence expiresAt).digest measured,
    keys.measuredRecord sequence expiresAt)

theorem currentRecord_append (keys : DeviceKeys) (active : ActiveRecords)
    {sequence lifetimeSeconds expiresAt : UInt64} (hsequence : sequence ≠ 0)
    (hpositive : lifetimeSeconds ≠ 0) (hbound : lifetimeSeconds ≤ 900)
    (hexpiry : 1000 + lifetimeSeconds = expiresAt)
    (hkept : retainCurrent active 1000 = active)
    (hroom : active.length < maxActiveRecords)
    (hfresh : forall entry, entry ∈ active ->
      entry.1 ≠ (measuredEntry keys sequence expiresAt).1) :
    currentRecord measured (measuredClient keys) active sequence lifetimeSeconds
      1000 = Except.ok (active ++ [measuredEntry keys sequence expiresAt],
        keys.measuredRecord sequence expiresAt) := by
  subst hexpiry
  have hhigh : lifetimeSeconds.toNat ≤ 900 := UInt64.le_iff_toNat_le.mp hbound
  have hlow : 0 < lifetimeSeconds.toNat := by
    apply Nat.pos_of_ne_zero
    intro hzero
    exact hpositive (UInt64.toNat_inj.mp hzero)
  have hstart : (1000 : UInt64).toNat = 1000 := by decide
  have hstop : (1900 : UInt64).toNat = 1900 := by decide
  have hsum : (1000 + lifetimeSeconds).toNat = 1000 + lifetimeSeconds.toNat := by
    rw [UInt64.toNat_add, hstart, Nat.mod_eq_of_lt (by omega)]
  have hafter : (1000 : UInt64) < 1000 + lifetimeSeconds := by
    rw [UInt64.lt_iff_toNat_lt, hsum, hstart]
    omega
  have hbefore : 1000 + lifetimeSeconds ≤ (1900 : UInt64) := by
    rw [UInt64.le_iff_toNat_le, hsum, hstop]
    omega
  have hlocator : V1SignedLocator.sign measured (measuredClient keys).credential
      (measuredClient keys).trustedRelays (measuredClient keys).instanceNonce
      sequence 1000 (1000 + lifetimeSeconds) =
        Except.ok (keys.measuredLocator sequence (1000 + lifetimeSeconds)) :=
    keys.measuredLocator_sign hsequence hafter hbefore
  have hrecord : V1DeviceRecord.new measured (measuredClient keys).credential
      (keys.measuredLocator sequence (1000 + lifetimeSeconds)) 1000
      (measuredClient keys).allowInsecureLoopbackRelay =
        Except.ok (keys.measuredRecord sequence (1000 + lifetimeSeconds)) :=
    keys.measuredRecord_new hsequence hafter hbefore
  unfold currentRecord
  rw [rejectIf_of_not (by
    rw [not_or]
    exact ⟨hpositive, UInt64.not_lt.mpr hbound⟩), ok_bind,
    rejectIf_of_not (by omega), ok_bind]
  dsimp only
  rw [if_neg (show ¬ (measuredClient keys).allowInsecureLoopbackRelay = true from
    Bool.false_ne_true), hlocator]
  change (Except.ok _ >>= _) = _
  rw [ok_bind, hrecord]
  change (Except.ok _ >>= _) = _
  have hothers : active.filter (fun entry => entry.1 !=
      (keys.measuredRecord sequence (1000 + lifetimeSeconds)).digest measured) =
        active :=
    List.filter_eq_self.mpr fun entry hentry =>
      bne_iff_ne.mpr (hfresh entry hentry)
  rw [ok_bind, hkept, if_neg fun h => Nat.not_le.mpr hroom h.left, hothers]
  rfl

def dialTarget : ResolvedV1Device :=
  { path := ((phone.measuredRecord 1 1900).path measured).toOption.getD ""
    record := phone.measuredRecord 1 1900 }

theorem measured_signGreeting {active : ActiveRecords}
    {sequence expiresAt now : UInt64} (expiry : UInt64) (hsequence : sequence ≠ 0)
    (hafter : (1000 : UInt64) < expiresAt) (hbefore : expiresAt ≤ 1900)
    (hselected : selectRecord (retainCurrent active now) =
      some (laptop.measuredRecord sequence expiresAt))
    (hexpiry : min (min (min (min (saturatingAdd now
      (min v1MaxHandshakeLifetimeSeconds 30)) expiresAt) 1900) 500000) 500000 =
        expiry)
    (hstart : (1000 : UInt64) ≤ now) (hstop : now < expiry)
    (hbounded : expiry.toNat ≤ now.toNat + v1MaxHandshakeLifetimeSeconds.toNat)
    (hown : expiry ≤ expiresAt) (htarget : expiry ≤ 1900) :
    exists greeting, signGreeting measured (measuredClient laptop) active
      dialTarget "chat" now (keyOf 7) = Except.ok greeting ∧
        greeting.hello.claims.fromDeviceRecord =
          laptop.measuredRecord sequence expiresAt := by
  have hsign : V1SignedHello.signWithPolicy measured laptop.measuredCredential
      (laptop.measuredRecord sequence expiresAt) (phone.measuredRecord 1 1900)
      "chat" (v1RandomChallenge measured (keyOf 7)) (now, expiry) false =
        Except.ok (V1SignedHello.sealed measured laptop.control
          (V1SignedHello.greeting measured (laptop.measuredRecord sequence expiresAt)
            (phone.measuredRecord 1 1900) "chat"
            (v1RandomChallenge measured (keyOf 7)) now expiry)) :=
    V1SignedHello.signWithPolicy_succeeds (P := measured)
      ⟨rfl, rfl, laptop.control, laptop.measuredCredential_controlKey⟩
      laptop.measuredCredential_controlKey
      (laptop.measuredRecord_verify hsequence hafter hbefore hstart
        (UInt64.lt_of_lt_of_le hstop hown))
      (phone.measuredRecord_verify (by decide) (by decide) (by decide) hstart
        (UInt64.lt_of_lt_of_le hstop htarget))
      (z32_ne (show laptop.control ≠ phone.control by decide))
      (z32_ne (show laptop.iroh ≠ phone.iroh by decide))
      (rejectIf_of_not (by decide)) (validateChallenge_v1RandomChallenge _ _)
      ⟨UInt64.lt_iff_toNat_lt.mp hstop, Nat.le_add_right _ _,
        UInt64.lt_iff_toNat_lt.mp hstop, hbounded⟩
      hstart hstart hown htarget
  refine ⟨⟨laptop.measuredRecord sequence expiresAt,
    V1SignedHello.sealed measured laptop.control (V1SignedHello.greeting measured
      (laptop.measuredRecord sequence expiresAt) (phone.measuredRecord 1 1900)
      "chat" (v1RandomChallenge measured (keyOf 7)) now expiry)⟩, ?_, rfl⟩
  unfold signGreeting
  simp only [bind_eq_ok, okOr_eq_ok, rejectIf_eq_ok, exists_unit, pure_eq_ok,
    fromProtocol_eq_ok]
  refine ⟨_, hselected, ?_, _, ?_, rfl⟩
  · change ¬ min (min (min (min (saturatingAdd now
      (min v1MaxHandshakeLifetimeSeconds 30)) expiresAt) 1900) 500000) 500000 ≤
        now
    rw [hexpiry]
    exact UInt64.not_le.mpr hstop
  · rw [if_neg (show ¬ (measuredClient laptop).allowInsecureLoopbackRelay = true
      from Bool.false_ne_true)]
    change V1SignedHello.signWithPolicy measured laptop.measuredCredential
      (laptop.measuredRecord sequence expiresAt) (phone.measuredRecord 1 1900)
      "chat" (v1RandomChallenge measured (keyOf 7)) (now, min (min (min (min
        (saturatingAdd now (min v1MaxHandshakeLifetimeSeconds 30)) expiresAt)
        1900) 500000) 500000) false = _
    rw [hexpiry]
    exact hsign

def unregistered : DialHistory :=
  { active := [], last := none, hellos := [] }

/-- One record of the laptop that lasts for fifteen minutes. -/
def lasting : DialHistory :=
  { active := [measuredEntry laptop 9 1900], last := some 9, hellos := [] }

/-- The next record lasts for half a minute. -/
def both : DialHistory :=
  { active := [measuredEntry laptop 9 1900, measuredEntry laptop 10 1030]
    last := some 10
    hellos := [] }

theorem unregistered_register :
    unregistered.next (measuredClient laptop)
        (DialHistoryEvent.register (P := measured) 9 900 1000) =
      some lasting :=
  DialHistory.register_of_ok (s := unregistered) (currentRecord_append laptop []
    (by decide) (by decide) (by decide) (show (1000 : UInt64) + 900 = 1900 by decide)
    rfl (by decide) fun entry hentry => absurd hentry List.not_mem_nil)

theorem lasting_register :
    lasting.next (measuredClient laptop)
        (DialHistoryEvent.register (P := measured) 10 30 1000) =
      some both := by
  have hkept : retainCurrent lasting.active 1000 = lasting.active :=
    List.filter_eq_self.mpr fun entry hentry => by
      rw [List.mem_singleton.mp hentry]
      exact decide_eq_true (show (1000 : UInt64) < 1900 by decide)
  refine DialHistory.register_of_ok (s := lasting) (currentRecord_append laptop
    lasting.active (by decide) (by decide) (by decide)
    (show (1000 : UInt64) + 30 = 1030 by decide) hkept (show 1 < 8 by decide) ?_)
  intro entry hentry
  rw [List.mem_singleton.mp hentry]
  exact laptop.measuredRecord_digest_ne

def dialPhone (now : UInt64) : DialHistoryEvent measured :=
  DialHistoryEvent.dial (P := measured) dialTarget "chat" now (keyOf 7)

theorem dialPhone_allowed (s : DialHistory) (now : UInt64) :
    s.Increasing (dialPhone now) ∧ s.Outlasting (dialPhone now) :=
  ⟨trivial, trivial⟩

/-- The laptop dials as its only record. -/
theorem dial_lasting (s : DialHistory) (now expiry : UInt64)
    (hkept : retainCurrent s.active now = lasting.active)
    (hexpiry : min (min (min (min (saturatingAdd now
      (min v1MaxHandshakeLifetimeSeconds 30)) 1900) 1900) 500000) 500000 =
        expiry)
    (hstart : (1000 : UInt64) ≤ now) (hstop : now < expiry)
    (hbounded : expiry.toNat ≤ now.toNat + v1MaxHandshakeLifetimeSeconds.toNat)
    (hlast : expiry ≤ 1900) :
    exists hello : V1SignedHello,
      s.next (measuredClient laptop) (dialPhone now) =
          some { s with
            active := lasting.active
            hellos := s.hellos ++ [hello] } ∧
        hello.claims.fromDeviceRecord = laptop.measuredRecord 9 1900 := by
  have hselected : selectRecord (retainCurrent s.active now) =
      some (laptop.measuredRecord 9 1900) := by
    rw [hkept]
    rfl
  rcases measured_signGreeting expiry (by decide) (by decide) (by decide) hselected
    hexpiry hstart hstop hbounded hlast hlast with ⟨greeting, hgreeting, hfrom⟩
  refine ⟨greeting.hello, ?_, hfrom⟩
  rw [← hkept]
  exact DialHistory.dial_of_ok hgreeting

/-- While it lasts, the laptop dials as the newer record. -/
theorem dial_both :
    exists hello : V1SignedHello,
      both.next (measuredClient laptop) (dialPhone 1010) =
          some { both with hellos := [hello] } ∧
        hello.claims.fromDeviceRecord = laptop.measuredRecord 10 1030 := by
  have hkept : retainCurrent both.active 1010 = both.active :=
    List.filter_eq_self.mpr fun entry hentry => by
      rcases List.mem_cons.mp hentry with rfl | hentry
      · exact decide_eq_true (show (1010 : UInt64) < 1900 by decide)
      · rw [List.mem_singleton.mp hentry]
        exact decide_eq_true (show (1010 : UInt64) < 1030 by decide)
  have hlater : laterRecord (measuredEntry laptop 9 1900)
      (measuredEntry laptop 10 1030) = measuredEntry laptop 10 1030 := by
    unfold laterRecord
    exact if_pos (Or.inl (show (9 : UInt64) < 10 by decide))
  have hselected : selectRecord (retainCurrent both.active 1010) =
      some (laptop.measuredRecord 10 1030) := by
    rw [hkept]
    change some (laterRecord (measuredEntry laptop 9 1900)
      (measuredEntry laptop 10 1030)).2 = _
    rw [hlater]
    rfl
  rcases measured_signGreeting 1030 (by decide) (by decide) (by decide) hselected
    (by decide) (by decide) (by decide) (by decide) (by decide) (by decide) with
    ⟨greeting, hgreeting, hfrom⟩
  refine ⟨greeting.hello, ?_, hfrom⟩
  have hnext := DialHistory.dial_of_ok hgreeting
  rw [hkept] at hnext
  exact hnext

theorem retainCurrent_both : retainCurrent both.active 1060 = lasting.active := by
  unfold retainCurrent
  change List.filter _ [measuredEntry laptop 9 1900, measuredEntry laptop 10 1030]
    = _
  rw [List.filter_cons_of_pos, List.filter_cons_of_neg]
  · rfl
  · exact Bool.not_eq_true _ ▸
      decide_eq_false (show ¬ (1060 : UInt64) < 1030 by decide)
  · exact decide_eq_true (show (1060 : UInt64) < 1900 by decide)

end Sample

open Sample Protocol.Reference in
/-- Two dials as one record. -/
theorem dials_in_order_sample :
    exists s : DialHistory, s.hellos.length = 2 ∧ s.NeverRollsBack measured := by
  have hkept : forall now : UInt64, now < 1900 ->
      retainCurrent lasting.active now = lasting.active := by
    intro now hnow
    refine List.filter_eq_self.mpr fun entry hentry => ?_
    rw [List.mem_singleton.mp hentry]
    exact decide_eq_true hnow
  rcases dial_lasting lasting 1060 1090 (hkept 1060 (by decide)) (by decide) (by decide) (by decide) (by decide)
    (by decide) with ⟨first, hfirst, _⟩
  rcases dial_lasting { lasting with hellos := [first] } 1070 1100
    (hkept 1070 (by decide)) (by decide) (by decide) (by decide) (by decide) (by decide) with ⟨second, hsecond, _⟩
  refine ⟨{ lasting with hellos := [first, second] }, rfl, ?_⟩
  have hinitial : (dialHistory measured (measuredClient laptop)).ReachableWhen
      (fun s event => s.Increasing event ∧ s.Outlasting event) unregistered :=
    Machine.ReachableWhen.start ⟨rfl, rfl, rfl⟩
  have hfresh : unregistered.Increasing
      (DialHistoryEvent.register (P := measured) 9 900 1000) := by
    intro last hlast
    cases hlast
  have hlongest : unregistered.Outlasting
      (DialHistoryEvent.register (P := measured) 9 900 1000) := by
    intro entry hentry
    cases hentry
  have hregistered := Machine.ReachableWhen.step hinitial ⟨hfresh, hlongest⟩
    unregistered_register
  exact dials_in_order (Machine.ReachableWhen.step
    (Machine.ReachableWhen.step hregistered (dialPhone_allowed _ 1060) hfirst)
    (dialPhone_allowed _ 1070) hsecond)

open Sample Protocol.Reference in
/--
The sequences increase and the clock runs forward, and once the newer record has
expired the laptop dials as the older one again.
-/
theorem short_record_rolls_back :
    exists s, (dialHistory measured (measuredClient laptop)).run unregistered
        [DialHistoryEvent.register 9 900 1000,
         DialHistoryEvent.register 10 30 1000,
         dialPhone 1010, dialPhone 1060] = some s ∧
      (s.hellos.map fun hello =>
        hello.claims.fromDeviceRecord.locator.claims.sequence) = [10, 9] ∧
      ¬ s.NeverRollsBack measured := by
  rcases dial_both with ⟨first, hfirst, hnewer⟩
  rcases dial_lasting { both with hellos := [first] } 1060 1090
    retainCurrent_both (by decide) (by decide) (by decide)
    (by decide) (by decide) with ⟨second, hsecond, holder⟩
  refine ⟨{ both with active := lasting.active, hellos := [first, second] }, ?_,
    ?_, ?_⟩
  · rw [Machine.run_cons unregistered_register, Machine.run_cons lasting_register,
      Machine.run_cons hfirst, Machine.run_cons hsecond]
    rfl
  · change [first.claims.fromDeviceRecord.locator.claims.sequence,
      second.claims.fromDeviceRecord.locator.claims.sequence] = _
    rw [hnewer, holder]
    rfl
  · intro hordered
    have hle := (List.rel_of_pairwise_cons hordered List.mem_cons_self).left
    rw [hnewer, holder] at hle
    exact absurd hle (show ¬ (10 : UInt64) ≤ 9 by decide)

end Client
end Pubky2Pubky
