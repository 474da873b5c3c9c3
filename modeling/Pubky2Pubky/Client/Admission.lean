import Pubky2Pubky.Client.Exchange
import Pubky2Pubky.Client.PendingQueue

/-!
# Admission of a Hello

An inbound connection is authenticated in steps that read the clock one after
the other: the target record, the verification, the consent deadline, the replay
reservation, and the queue. Other connections and the clock move between them.
-/

namespace Pubky2Pubky
namespace Client

open Foundation Protocol

/-!
# The replay cache
-/

structure ReplayEntry where
  identity : String
  expiresAt : UInt64

structure ReplayLimits where
  capacity : Nat
  perIdentityCapacity : Nat

abbrev ReplayCache := Std.ExtTreeMap String ReplayEntry compare

namespace ReplayCache

def retain (entries : ReplayCache) (now : UInt64) : ReplayCache :=
  entries.filter fun _ entry => decide (entry.expiresAt > now)

def share (entries : ReplayCache) (identity : String) : Nat :=
  entries.toList.countP fun entry => decide (entry.2.identity = identity)

def insert (limits : ReplayLimits) (entries : ReplayCache)
    (key identity : String) (expiresAt now : UInt64) :
    ReplayCache × ClientResult Unit :=
  let retained := entries.retain now
  if retained.contains key then
    (retained, Except.error ClientError.unexpectedPeer)
  else if retained.size ≥ limits.capacity then
    (retained, Except.error (ClientError.iroh
      "v1 replay cache reached its authenticated-entry limit"))
  else if share retained identity ≥ limits.perIdentityCapacity then
    (retained, Except.error (ClientError.iroh
      "v1 replay cache reached its per-identity limit"))
  else
    (Std.ExtTreeMap.insert retained key
      { identity := identity, expiresAt := expiresAt }, Except.ok ())

def remove (entries : ReplayCache) (key : String) : ReplayCache :=
  entries.erase key

variable {entries : ReplayCache} {key : String} {now : UInt64}

theorem getElem_retain (entries : ReplayCache) (now : UInt64) (key : String) :
    (entries.retain now)[key]? =
      entries[key]?.filter fun entry => decide (entry.expiresAt > now) := by
  unfold retain
  simp only [Std.ExtTreeMap.getElem?_filter']

/-- An entry that has not expired is retained. -/
theorem retained_of_live {entry : ReplayEntry} (h : entries[key]? = some entry)
    (hlive : now < entry.expiresAt) :
    (entries.retain now)[key]? = some entry := by
  rw [getElem_retain, h, Option.filter_some, if_pos (decide_eq_true hlive)]

/-- A reservation succeeds only at a key without an unexpired entry. -/
theorem insert_cases (limits : ReplayLimits) (entries : ReplayCache)
    (key identity : String) (expiresAt now : UInt64) :
    (exists error, entries.insert limits key identity expiresAt now =
        (entries.retain now, Except.error error)) ∨
      ((entries.retain now)[key]? = none ∧
        entries.insert limits key identity expiresAt now =
          (Std.ExtTreeMap.insert (entries.retain now) key
            { identity := identity, expiresAt := expiresAt }, Except.ok ())) := by
  unfold insert
  dsimp only
  split
  · exact Or.inl ⟨_, rfl⟩
  · rename_i hfree
    split
    · exact Or.inl ⟨_, rfl⟩
    · split
      · exact Or.inl ⟨_, rfl⟩
      · right
        refine ⟨?_, rfl⟩
        exact Std.ExtTreeMap.getElem?_eq_none_of_contains_eq_false
          (Bool.eq_false_iff.mpr hfree)

end ReplayCache

/-!
# The steps of one admission
-/

structure AdmissionConfig where
  peerHandshakeTimeout : Nat
  replay : ReplayLimits
  queue : QueueLimits

section Operations

variable (P : Primitives)

/-- The record a Hello is addressed to, if it is current. -/
def targetRecord (client : V1Client) (active : ActiveRecords)
    (hello : V1SignedHello) (now : UInt64) : ClientResult V1DeviceRecord := do
  rejectIf (client.acceptedApplications.contains hello.claims.application =
      false)
    ClientError.unexpectedPeer
  okOr ((retainCurrent active now).lookup
      hello.claims.targetDeviceRecordDigest)
    ClientError.unexpectedPeer

def verifyIncoming (client : V1Client) (remoteEndpoint : P.PublicKey)
    (hello : V1SignedHello) (target : V1DeviceRecord) (now : UInt64) :
    ClientResult Unit := do
  let senderRecord := hello.claims.fromDeviceRecord
  fromProtocol (hello.verify P senderRecord target hello.claims.application
    now client.allowInsecureLoopbackRelay)
  rejectIf (target.certificate ≠ client.credential.certificate ∨
      target.authorization ≠ client.credential.authorization ∨
      target.certificate.claims.identity ≠ client.credential.identity)
    ClientError.unexpectedPeer
  let certifiedRemote <- okOr
    (P.tryFromZ32 senderRecord.certificate.claims.irohEndpointId)
    (ClientError.iroh "endpoint id")
  rejectIf (certifiedRemote ≠ remoteEndpoint) ClientError.unexpectedPeer

/-- Nanoseconds of the monotonic clock in one second of the wall clock. -/
def nanosPerSecond : Nat := 1000000000

def pendingDeadline (expiresAt : UInt64) (limit : Nat) (now : UInt64)
    (instant : Instant) : ClientResult Instant := do
  let lifetime := min limit
    ((saturatingSub expiresAt now).toNat * nanosPerSecond)
  rejectIf (lifetime = 0)
    (ClientError.timeout "queueing inbound v1 consent")
  pure (instant + lifetime)

def replayKey (hello : V1SignedHello) : String :=
  hello.claims.fromControlSigningKey ++ ":" ++ hello.claims.sessionNonce

/-- The request of a Hello whose nonce has been reserved. -/
def incomingRequest (client : V1Client) (hello : V1SignedHello)
    (target : V1DeviceRecord) (deadline : Instant) :
    ClientResult IncomingV1 := do
  let senderRecord := hello.claims.fromDeviceRecord
  let senderPath <- fromProtocol (senderRecord.path P)
  let targetPath <- fromProtocol (target.path P)
  pure
    { pending := some
        { localCredential := client.credential
          sender := { path := senderPath, record := senderRecord }
          target := { path := targetPath, record := target }
          hello := hello
          allowInsecureLoopbackRelay := client.allowInsecureLoopbackRelay
          deadline := deadline } }

variable {P}

theorem verifyIncoming_of {client : V1Client} {remoteEndpoint : P.PublicKey}
    {hello : V1SignedHello} {target : V1DeviceRecord} {now : UInt64}
    (hverify : hello.verify P hello.claims.fromDeviceRecord target
      hello.claims.application now client.allowInsecureLoopbackRelay =
        Except.ok ())
    (hown : ¬ (target.certificate ≠ client.credential.certificate ∨
      target.authorization ≠ client.credential.authorization ∨
      target.certificate.claims.identity ≠ client.credential.identity))
    (hcertified : P.tryFromZ32
      hello.claims.fromDeviceRecord.certificate.claims.irohEndpointId =
        some remoteEndpoint) :
    verifyIncoming P client remoteEndpoint hello target now =
      Except.ok () := by
  unfold verifyIncoming
  dsimp only
  rw [hverify]
  change (Except.ok () >>= _) = _
  rw [ok_bind, rejectIf_of_not hown, ok_bind, hcertified]
  change (Except.ok remoteEndpoint >>= _) = _
  rw [ok_bind, rejectIf_of_not (not_not.mpr rfl)]

theorem incomingRequest_of {client : V1Client} {hello : V1SignedHello}
    {target : V1DeviceRecord} {deadline : Instant}
    {senderPath targetPath : String}
    (hsender : hello.claims.fromDeviceRecord.path P = Except.ok senderPath)
    (htarget : target.path P = Except.ok targetPath) :
    exists incoming,
      incomingRequest P client hello target deadline = Except.ok incoming := by
  unfold incomingRequest
  dsimp only
  rw [fromProtocol_eq_ok.mpr hsender, ok_bind, fromProtocol_eq_ok.mpr htarget,
    ok_bind]
  exact ⟨_, rfl⟩

end Operations

/-- Between two steps, with what the earlier ones have established. -/
inductive AdmissionStage where
  | received
  | found (target : V1DeviceRecord)
  | verified (target : V1DeviceRecord)
  | timed (target : V1DeviceRecord) (deadline : Instant)
  | reserved (key : String) (incoming : IncomingV1)
  | refused (key : String) (error : ClientError)
  | finished (result : ClientResult Unit)

structure Admission (P : Primitives) where
  remoteEndpoint : P.PublicKey
  hello : V1SignedHello
  stage : AdmissionStage

structure AdmissionState (P : Primitives) where
  wall : UInt64
  instant : Instant
  active : ActiveRecords
  replay : ReplayCache
  queue : PendingQueueState
  runs : Nat -> Option (Admission P)
  admitted : List V1SignedHello

/-- A step of the clocks, of one admission, or of the queue's other users. -/
inductive AdmissionLabel (P : Primitives) where
  | tick (wall : UInt64) (instant : Instant)
  | register (active : ActiveRecords)
  | receive (run : Nat) (remoteEndpoint : P.PublicKey) (hello : V1SignedHello)
  | advance (run : Nat)
  | abandon (run : Nat)
  | next
  | expire (key : String)
  | prune
  | close

namespace AdmissionState

variable {P : Primitives}

def move (s : AdmissionState P) (run : Nat) (admission : Admission P)
    (stage : AdmissionStage) : AdmissionState P :=
  { s with
    runs := Function.update s.runs run (some { admission with stage := stage }) }

def fail (s : AdmissionState P) (run : Nat) (admission : Admission P)
    (error : ClientError) : AdmissionState P :=
  s.move run admission (AdmissionStage.finished (Except.error error))

def lookup (client : V1Client) (s : AdmissionState P) (run : Nat)
    (admission : Admission P) : AdmissionState P :=
  let pruned := { s with active := retainCurrent s.active s.wall }
  match targetRecord client s.active admission.hello s.wall with
  | Except.error e => pruned.fail run admission e
  | Except.ok target => pruned.move run admission (AdmissionStage.found target)

def verify (client : V1Client) (s : AdmissionState P) (run : Nat)
    (admission : Admission P) (target : V1DeviceRecord) : AdmissionState P :=
  match verifyIncoming P client admission.remoteEndpoint admission.hello target
      s.wall with
  | Except.error e => s.fail run admission e
  | Except.ok _ => s.move run admission (AdmissionStage.verified target)

def setDeadline (config : AdmissionConfig) (s : AdmissionState P) (run : Nat)
    (admission : Admission P) (target : V1DeviceRecord) : AdmissionState P :=
  match pendingDeadline admission.hello.claims.expiresAt
      config.peerHandshakeTimeout s.wall s.instant with
  | Except.error e => s.fail run admission e
  | Except.ok deadline =>
      s.move run admission (AdmissionStage.timed target deadline)

/-- Reserve the nonce; a request that cannot be built keeps the reservation. -/
def reserve (client : V1Client) (config : AdmissionConfig)
    (s : AdmissionState P) (run : Nat) (admission : Admission P)
    (target : V1DeviceRecord) (deadline : Instant) : AdmissionState P :=
  let hello := admission.hello
  let key := replayKey hello
  match s.replay.insert config.replay key hello.claims.fromIdentity
      hello.claims.expiresAt s.wall with
  | (replay, Except.error e) =>
      ({ s with replay := replay } : AdmissionState P).fail run admission e
  | (replay, Except.ok _) =>
      match incomingRequest P client hello target deadline with
      | Except.error e =>
          ({ s with replay := replay } : AdmissionState P).fail run admission e
      | Except.ok incoming =>
          ({ s with replay := replay } : AdmissionState P).move run admission
            (AdmissionStage.reserved key incoming)

def enqueue (config : AdmissionConfig) (s : AdmissionState P) (run : Nat)
    (admission : Admission P) (key : String) (incoming : IncomingV1) :
    AdmissionState P :=
  match s.queue.insert config.queue s.instant key incoming with
  | (queue, Except.ok _) =>
      ({ s with
        queue := queue
        admitted := s.admitted ++ [admission.hello] } : AdmissionState P).move
          run admission (AdmissionStage.finished (Except.ok ()))
  | (queue, Except.error e) =>
      ({ s with queue := queue } : AdmissionState P).move run admission
        (AdmissionStage.refused key e)

def rollBack (s : AdmissionState P) (run : Nat) (admission : Admission P)
    (key : String) (error : ClientError) : AdmissionState P :=
  ({ s with replay := s.replay.remove key } : AdmissionState P).fail run
    admission error

/-- The next step of a run in a stage. -/
def perform (client : V1Client) (config : AdmissionConfig)
    (s : AdmissionState P) (run : Nat) (admission : Admission P) :
    AdmissionStage -> Option (AdmissionState P)
  | AdmissionStage.received => some (s.lookup client run admission)
  | AdmissionStage.found target => some (s.verify client run admission target)
  | AdmissionStage.verified target =>
      some (s.setDeadline config run admission target)
  | AdmissionStage.timed target deadline =>
      some (s.reserve client config run admission target deadline)
  | AdmissionStage.reserved key incoming =>
      some (s.enqueue config run admission key incoming)
  | AdmissionStage.refused key error =>
      some (s.rollBack run admission key error)
  | AdmissionStage.finished _ => none

def advance (client : V1Client) (config : AdmissionConfig)
    (s : AdmissionState P) (run : Nat) : Option (AdmissionState P) :=
  match s.runs run with
  | none => none
  | some admission => s.perform client config run admission admission.stage

/-- The timeout of the operation drops it at an await. -/
def abandon (s : AdmissionState P) (run : Nat) : Option (AdmissionState P) :=
  match s.runs run with
  | none => none
  | some admission => some (s.fail run admission
      (ClientError.timeout "authenticating signed inbound v1 Hello"))

def next (client : V1Client) (config : AdmissionConfig)
    (s : AdmissionState P) : AdmissionLabel P -> Option (AdmissionState P)
  | AdmissionLabel.tick wall instant =>
      if s.wall ≤ wall ∧ s.instant ≤ instant then
        some { s with wall := wall, instant := instant }
      else none
  | AdmissionLabel.register active => some { s with active := active }
  | AdmissionLabel.receive run remoteEndpoint hello =>
      match s.runs run with
      | some _ => none
      | none =>
          some { s with
            runs := Function.update s.runs run
              (some { remoteEndpoint := remoteEndpoint
                      hello := hello
                      stage := AdmissionStage.received }) }
  | AdmissionLabel.advance run => s.advance client config run
  | AdmissionLabel.abandon run => s.abandon run
  | AdmissionLabel.next => some { s with queue := (s.queue.next s.instant).1 }
  | AdmissionLabel.expire key => some { s with queue := s.queue.expire key }
  | AdmissionLabel.prune =>
      some { s with queue := s.queue.pruneExpired s.instant }
  | AdmissionLabel.close => some { s with queue := s.queue.close }

structure Initial (s : AdmissionState P) : Prop where
  replay : s.replay = ∅
  queue : s.queue = PendingQueueState.new
  runs : s.runs = fun _ => none
  admitted : s.admitted = []

end AdmissionState

def admissionMachine {P : Primitives} (client : V1Client)
    (config : AdmissionConfig) :
    Machine (AdmissionState P) (AdmissionLabel P) :=
  { initial := AdmissionState.Initial
    next := AdmissionState.next client config }

/-!
# At most once

A Hello is held by the run that has reserved its nonce until the queue has taken
it or the reservation has been rolled back.
-/

section AtMostOnce

variable {P : Primitives} {client : V1Client} {config : AdmissionConfig}

namespace AdmissionStage

/-- The run holds a reservation that it may still roll back. -/
def holding : AdmissionStage -> Bool
  | reserved _ _ => true
  | refused _ _ => true
  | _ => false

/-- The key a reservation was made under. -/
def key : AdmissionStage -> Option String
  | reserved key _ => some key
  | refused key _ => some key
  | _ => none

end AdmissionStage

namespace AdmissionState

variable {s after : AdmissionState P}

/-- The run is the one that may put the Hello into the queue. -/
def Holds (s : AdmissionState P) (run : Nat) (hello : V1SignedHello) : Prop :=
  exists admission, s.runs run = some admission ∧ admission.hello = hello ∧
    admission.stage.holding = true

/-- The Hello has been reserved and not rolled back. -/
def Claimed (s : AdmissionState P) (hello : V1SignedHello) : Prop :=
  hello ∈ s.admitted ∨ exists run, s.Holds run hello

/--
A Hello is admitted or held at most once, and as long as it has not expired its
nonce is reserved in the cache for no other Hello.
-/
structure Guarded (s : AdmissionState P) : Prop where
  once : s.admitted.Nodup
  exclusive (first second : Nat) (hello : V1SignedHello) :
    s.Holds first hello -> s.Holds second hello -> first = second
  fresh (run : Nat) (hello : V1SignedHello) :
    s.Holds run hello -> hello ∉ s.admitted
  keyed (run : Nat) (admission : Admission P) (key : String) :
    s.runs run = some admission -> admission.stage.key = some key ->
      key = replayKey admission.hello
  reserved (hello : V1SignedHello) :
    s.Claimed hello -> s.wall < hello.claims.expiresAt ->
      exists entry, s.replay[replayKey hello]? = some entry ∧
        entry.expiresAt = hello.claims.expiresAt
  alone (first second : V1SignedHello) :
    s.Claimed first -> s.Claimed second ->
    s.wall < first.claims.expiresAt -> s.wall < second.claims.expiresAt ->
    replayKey first = replayKey second -> first = second

/-- Clock readings that come before the Hello of the run has expired. -/
def Timely (s : AdmissionState P) : AdmissionLabel P -> Prop
  | AdmissionLabel.advance run =>
      forall admission, s.runs run = some admission ->
        match admission.stage with
        | AdmissionStage.timed _ _ =>
            s.wall < admission.hello.claims.expiresAt
        | AdmissionStage.refused _ _ =>
            s.wall < admission.hello.claims.expiresAt
        | _ => True
  | _ => True

theorem timely_advance {run : Nat} {admission : Admission P}
    (hrun : s.runs run = some admission)
    (h : match admission.stage with
      | AdmissionStage.timed _ _ => s.wall < admission.hello.claims.expiresAt
      | AdmissionStage.refused _ _ => s.wall < admission.hello.claims.expiresAt
      | _ => True) : s.Timely (AdmissionLabel.advance run) := by
  intro found hfound
  rw [hrun] at hfound
  injection hfound with hfound
  rw [← hfound]
  exact h

theorem Initial.guarded (h : s.Initial) : s.Guarded := by
  have hholds : forall run hello, ¬ s.Holds run hello := by
    rintro run hello ⟨admission, hrun, _⟩
    rw [h.runs] at hrun
    cases hrun
  have hclaimed : forall hello, ¬ s.Claimed hello := by
    rintro hello (hmem | ⟨run, hheld⟩)
    · rw [h.admitted] at hmem
      cases hmem
    · exact hholds run hello hheld
  constructor
  case once =>
    rw [h.admitted]
    exact List.nodup_nil
  case exclusive =>
    intro first second hello hfirst
    exact absurd hfirst (hholds first hello)
  case fresh =>
    intro run hello hheld
    exact absurd hheld (hholds run hello)
  case keyed =>
    intro run admission key hrun
    rw [h.runs] at hrun
    cases hrun
  case reserved =>
    intro hello hheld
    exact absurd hheld (hclaimed hello)
  case alone =>
    intro first second hfirst
    exact absurd hfirst (hclaimed first)

/-!
One step of a run changes that run alone. Most steps are quiet: they reserve
nothing, admit nothing, and leave every unexpired reservation.
-/

structure Quiet (s after : AdmissionState P) : Prop where
  wall : s.wall ≤ after.wall
  admitted : after.admitted = s.admitted
  holds (run : Nat) (hello : V1SignedHello) :
    after.Holds run hello -> s.Holds run hello
  keyed (run : Nat) (admission : Admission P) (key : String) :
    after.runs run = some admission -> admission.stage.key = some key ->
      key = replayKey admission.hello
  replay (key : String) (entry : ReplayEntry) :
    s.replay[key]? = some entry -> s.wall < entry.expiresAt ->
      after.replay[key]? = some entry

theorem Guarded.quiet (h : s.Guarded) (hquiet : s.Quiet after) :
    after.Guarded := by
  have hclaimed : forall hello, after.Claimed hello -> s.Claimed hello := by
    rintro hello (hmem | ⟨run, hheld⟩)
    · rw [hquiet.admitted] at hmem
      exact Or.inl hmem
    · exact Or.inr ⟨run, hquiet.holds run hello hheld⟩
  constructor
  case once =>
    rw [hquiet.admitted]
    exact h.once
  case exclusive =>
    intro first second hello hfirst hsecond
    exact h.exclusive first second hello (hquiet.holds first hello hfirst)
      (hquiet.holds second hello hsecond)
  case fresh =>
    intro run hello hheld
    rw [hquiet.admitted]
    exact h.fresh run hello (hquiet.holds run hello hheld)
  case keyed => exact hquiet.keyed
  case reserved =>
    intro hello hheld hlive
    have hearlier := UInt64.lt_of_le_of_lt hquiet.wall hlive
    rcases h.reserved hello (hclaimed hello hheld) hearlier with
      ⟨entry, hentry, hexpiry⟩
    exact ⟨entry, hquiet.replay _ entry hentry (hexpiry ▸ hearlier), hexpiry⟩
  case alone =>
    intro first second hfirst hsecond hlive hlive'
    exact h.alone first second (hclaimed first hfirst) (hclaimed second hsecond)
      (UInt64.lt_of_le_of_lt hquiet.wall hlive)
      (UInt64.lt_of_le_of_lt hquiet.wall hlive')

section OneRun

variable {run : Nat} {admission : Admission P} {stage : AdmissionStage}

theorem holds_update
    (hruns : after.runs = Function.update s.runs run
      (some { admission with stage := stage }))
    {other : Nat} {hello : V1SignedHello} (h : after.Holds other hello) :
    (other = run ∧ admission.hello = hello ∧ stage.holding = true) ∨
      (other ≠ run ∧ s.Holds other hello) := by
  rcases h with ⟨found, hfound, hhello, hholding⟩
  rw [hruns, Function.update_apply] at hfound
  split at hfound
  · rename_i hsame
    injection hfound with hfound
    subst hfound
    exact Or.inl ⟨hsame, hhello, hholding⟩
  · rename_i hother
    exact Or.inr ⟨hother, found, hfound, hhello, hholding⟩

theorem Guarded.keyed_update (h : s.Guarded)
    (hruns : after.runs = Function.update s.runs run
      (some { admission with stage := stage }))
    (hstage : forall key, stage.key = some key ->
      key = replayKey admission.hello)
    (other : Nat) (found : Admission P) (key : String)
    (hfound : after.runs other = some found)
    (hkey : found.stage.key = some key) : key = replayKey found.hello := by
  rw [hruns, Function.update_apply] at hfound
  split at hfound
  · injection hfound with hfound
    subst hfound
    exact hstage key hkey
  · exact h.keyed other found key hfound hkey

/-- A run moves to a stage in which it holds nothing. -/
theorem Guarded.released (h : s.Guarded)
    (hruns : after.runs = Function.update s.runs run
      (some { admission with stage := stage }))
    (hholding : stage.holding = false) (hkey : stage.key = none)
    (hwall : after.wall = s.wall) (hadmitted : after.admitted = s.admitted)
    (hreplay : forall (key : String) entry, s.replay[key]? = some entry ->
      s.wall < entry.expiresAt -> after.replay[key]? = some entry) :
    after.Guarded := by
  apply h.quiet
  constructor
  case wall =>
    rw [hwall]
    exact UInt64.le_refl _
  case admitted => exact hadmitted
  case holds =>
    intro other hello hheld
    rcases holds_update hruns hheld with ⟨_, _, htrue⟩ | ⟨_, hearlier⟩
    · rw [hholding] at htrue
      cases htrue
    · exact hearlier
  case keyed =>
    apply h.keyed_update hruns
    intro key hsome
    rw [hkey] at hsome
    cases hsome
  case replay => exact hreplay

end OneRun

theorem Guarded.lookup (h : s.Guarded) (run : Nat) (admission : Admission P) :
    (s.lookup client run admission).Guarded := by
  unfold AdmissionState.lookup
  dsimp only
  split
  · exact h.released rfl rfl rfl rfl rfl (fun _ _ hentry _ => hentry)
  · exact h.released rfl rfl rfl rfl rfl (fun _ _ hentry _ => hentry)

theorem Guarded.verify (h : s.Guarded) (run : Nat) (admission : Admission P)
    (target : V1DeviceRecord) :
    (s.verify client run admission target).Guarded := by
  unfold AdmissionState.verify
  split
  · exact h.released rfl rfl rfl rfl rfl (fun _ _ hentry _ => hentry)
  · exact h.released rfl rfl rfl rfl rfl (fun _ _ hentry _ => hentry)

theorem Guarded.setDeadline (h : s.Guarded) (run : Nat)
    (admission : Admission P) (target : V1DeviceRecord) :
    (s.setDeadline config run admission target).Guarded := by
  unfold AdmissionState.setDeadline
  split
  · exact h.released rfl rfl rfl rfl rfl (fun _ _ hentry _ => hentry)
  · exact h.released rfl rfl rfl rfl rfl (fun _ _ hentry _ => hentry)

/-- A claimed Hello keeps its key from being reserved again. -/
theorem Guarded.unclaimed (h : s.Guarded) {hello other : V1SignedHello}
    (hfree : (s.replay.retain s.wall)[replayKey hello]? = none)
    (hkey : replayKey other = replayKey hello)
    (hlive : s.wall < other.claims.expiresAt) : ¬ s.Claimed other := by
  intro hclaimed
  rcases h.reserved other hclaimed hlive with ⟨entry, hentry, hexpiry⟩
  rw [hkey] at hentry
  rw [ReplayCache.retained_of_live hentry (hexpiry ▸ hlive)] at hfree
  cases hfree

/-- Inserting at a free key leaves the unexpired reservations. -/
theorem insert_keeps {replay : ReplayCache} {wall : UInt64} {key : String}
    (hfree : (replay.retain wall)[key]? = none) (reservation : ReplayEntry)
    (other : String) (entry : ReplayEntry) (hentry : replay[other]? = some entry)
    (hlive : wall < entry.expiresAt) :
    (Std.ExtTreeMap.insert (replay.retain wall) key reservation)[other]? =
      some entry := by
  have hretained := ReplayCache.retained_of_live hentry hlive
  rw [Std.ExtTreeMap.getElem?_insert]
  split
  · rename_i hsame
    rw [← Std.LawfulEqCmp.compare_eq_iff_eq.mp hsame, hfree] at hretained
    cases hretained
  · exact hretained

/-- The nonce of a Hello that has not expired is reserved for its run. -/
theorem Guarded.claim (h : s.Guarded) {run : Nat} {admission : Admission P}
    {incoming : IncomingV1} (hlive : s.wall < admission.hello.claims.expiresAt)
    (hfree : (s.replay.retain s.wall)[replayKey admission.hello]? = none) :
    (({ s with
      replay := Std.ExtTreeMap.insert (s.replay.retain s.wall)
        (replayKey admission.hello)
        { identity := admission.hello.claims.fromIdentity
          expiresAt := admission.hello.claims.expiresAt } } :
      AdmissionState P).move run admission
        (AdmissionStage.reserved (replayKey admission.hello) incoming)
      ).Guarded := by
  have hclaimed : forall hello, AdmissionState.Claimed (({ s with
      replay := Std.ExtTreeMap.insert (s.replay.retain s.wall)
        (replayKey admission.hello)
        { identity := admission.hello.claims.fromIdentity
          expiresAt := admission.hello.claims.expiresAt } } :
      AdmissionState P).move run admission
        (AdmissionStage.reserved (replayKey admission.hello) incoming)) hello ->
      hello = admission.hello ∨ s.Claimed hello := by
    rintro hello (hmem | ⟨other, hheld⟩)
    · exact Or.inr (Or.inl hmem)
    · rcases holds_update rfl hheld with ⟨_, hsame, _⟩ | ⟨_, hearlier⟩
      · exact Or.inl hsame.symm
      · exact Or.inr (Or.inr ⟨other, hearlier⟩)
  have hnone := h.unclaimed hfree rfl hlive
  constructor
  case once => exact h.once
  case exclusive =>
    intro first second hello hfirst hsecond
    rcases holds_update rfl hfirst with ⟨hsame, rfl, _⟩ | ⟨_, hearlier⟩
    · rcases holds_update rfl hsecond with ⟨hother, _, _⟩ | ⟨_, hearlier⟩
      · rw [hsame, hother]
      · exact absurd (Or.inr ⟨second, hearlier⟩) hnone
    · rcases holds_update rfl hsecond with ⟨_, rfl, _⟩ | ⟨_, hlater⟩
      · exact absurd (Or.inr ⟨first, hearlier⟩) hnone
      · exact h.exclusive first second hello hearlier hlater
  case fresh =>
    intro other hello hheld
    rcases holds_update rfl hheld with ⟨_, rfl, _⟩ | ⟨_, hearlier⟩
    · exact fun hmem => hnone (Or.inl hmem)
    · exact h.fresh other hello hearlier
  case keyed =>
    apply h.keyed_update rfl
    intro key hkey
    injection hkey with hkey
    exact hkey.symm
  case reserved =>
    intro hello hheld hunexpired
    rcases hclaimed hello hheld with rfl | hearlier
    · refine ⟨_, Std.ExtTreeMap.getElem?_insert_self, rfl⟩
    · rcases h.reserved hello hearlier hunexpired with ⟨entry, hentry, hexpiry⟩
      exact ⟨entry, insert_keeps hfree _ _ entry hentry (hexpiry ▸ hunexpired),
        hexpiry⟩
  case alone =>
    intro first second hfirst hsecond hlive' hlive'' hkey
    rcases hclaimed first hfirst with rfl | hearlier
    · rcases hclaimed second hsecond with rfl | hlater
      · rfl
      · exact absurd hlater (h.unclaimed hfree hkey.symm hlive'')
    · rcases hclaimed second hsecond with rfl | hlater
      · exact absurd hearlier (h.unclaimed hfree hkey hlive')
      · exact h.alone first second hearlier hlater hlive' hlive'' hkey

theorem Guarded.reserve (h : s.Guarded) (run : Nat) (admission : Admission P)
    (target : V1DeviceRecord) (deadline : Instant)
    (hlive : s.wall < admission.hello.claims.expiresAt) :
    (s.reserve client config run admission target deadline).Guarded := by
  have hretains : forall (key : String) entry, s.replay[key]? = some entry ->
      s.wall < entry.expiresAt ->
        (s.replay.retain s.wall)[key]? = some entry :=
    fun _ _ hentry hentryLive =>
      ReplayCache.retained_of_live hentry hentryLive
  unfold AdmissionState.reserve
  dsimp only
  rcases ReplayCache.insert_cases config.replay s.replay
    (replayKey admission.hello) admission.hello.claims.fromIdentity
    admission.hello.claims.expiresAt s.wall with ⟨error, hinsert⟩ | ⟨hfree, hinsert⟩
  · rw [hinsert]
    exact h.released rfl rfl rfl rfl rfl hretains
  · rw [hinsert]
    dsimp only
    cases hincoming : incomingRequest P client admission.hello target
        deadline with
    | error e =>
        exact h.released rfl rfl rfl rfl rfl (insert_keeps hfree _)
    | ok incoming =>
        exact h.claim hlive hfree

/-- The queue takes the Hello of the run that holds it. -/
theorem Guarded.admit (h : s.Guarded) {run : Nat} {admission : Admission P}
    (hheld : s.Holds run admission.hello) (queue : PendingQueueState) :
    (({ s with
      queue := queue
      admitted := s.admitted ++ [admission.hello] } : AdmissionState P).move run
        admission (AdmissionStage.finished (Except.ok ()))).Guarded := by
  have hholds : forall other hello, AdmissionState.Holds (({ s with
      queue := queue
      admitted := s.admitted ++ [admission.hello] } : AdmissionState P).move run
        admission (AdmissionStage.finished (Except.ok ()))) other hello ->
      other ≠ run ∧ s.Holds other hello := by
    intro other hello hlater
    rcases holds_update rfl hlater with ⟨_, _, hfalse⟩ | hearlier
    · cases hfalse
    · exact hearlier
  have hclaimed : forall hello, AdmissionState.Claimed (({ s with
      queue := queue
      admitted := s.admitted ++ [admission.hello] } : AdmissionState P).move run
        admission (AdmissionStage.finished (Except.ok ()))) hello ->
      s.Claimed hello := by
    rintro hello (hmem | ⟨other, hlater⟩)
    · rcases List.mem_append.mp hmem with hold | hnew
      · exact Or.inl hold
      · rw [List.mem_singleton.mp hnew]
        exact Or.inr ⟨run, hheld⟩
    · exact Or.inr ⟨other, (hholds other hello hlater).right⟩
  constructor
  case once =>
    apply h.once.append (List.nodup_singleton _)
    intro hello hmem hnew
    rw [List.mem_singleton.mp hnew] at hmem
    exact h.fresh run admission.hello hheld hmem
  case exclusive =>
    intro first second hello hfirst hsecond
    exact h.exclusive first second hello (hholds first hello hfirst).right
      (hholds second hello hsecond).right
  case fresh =>
    intro other hello hlater hmem
    rcases hholds other hello hlater with ⟨hother, hearlier⟩
    rcases List.mem_append.mp hmem with hold | hnew
    · exact h.fresh other hello hearlier hold
    · rw [List.mem_singleton.mp hnew] at hearlier
      exact hother (h.exclusive other run admission.hello hearlier hheld)
  case keyed =>
    apply h.keyed_update rfl
    intro key hkey
    cases hkey
  case reserved =>
    intro hello hlater
    exact h.reserved hello (hclaimed hello hlater)
  case alone =>
    intro first second hfirst hsecond
    exact h.alone first second (hclaimed first hfirst) (hclaimed second hsecond)

theorem Guarded.enqueue (h : s.Guarded) {run : Nat} {admission : Admission P}
    {key : String} {incoming : IncomingV1}
    (hrun : s.runs run = some admission)
    (hstage : admission.stage = AdmissionStage.reserved key incoming) :
    (s.enqueue config run admission key incoming).Guarded := by
  have hheld : s.Holds run admission.hello :=
    ⟨admission, hrun, rfl, by rw [hstage]; rfl⟩
  have hkeyed := h.keyed run admission key hrun (by rw [hstage]; rfl)
  unfold AdmissionState.enqueue
  split
  · exact h.admit hheld _
  · rename_i queue error _
    apply h.quiet
    constructor
    case wall => exact UInt64.le_refl _
    case admitted => rfl
    case holds =>
      intro other hello hlater
      rcases holds_update rfl hlater with ⟨hsame, hhello, _⟩ | ⟨_, hearlier⟩
      · rw [hsame, ← hhello]
        exact hheld
      · exact hearlier
    case keyed =>
      apply h.keyed_update rfl
      intro found hfound
      injection hfound with hfound
      rw [← hfound, hkeyed]
    case replay => exact fun _ _ hentry _ => hentry

theorem Guarded.rollBack (h : s.Guarded) {run : Nat} {admission : Admission P}
    {key : String} {error : ClientError}
    (hrun : s.runs run = some admission)
    (hstage : admission.stage = AdmissionStage.refused key error)
    (hlive : s.wall < admission.hello.claims.expiresAt) :
    (s.rollBack run admission key error).Guarded := by
  have hheld : s.Holds run admission.hello :=
    ⟨admission, hrun, rfl, by rw [hstage]; rfl⟩
  have hkeyed := h.keyed run admission key hrun (by rw [hstage]; rfl)
  have hholds : forall other hello,
      (s.rollBack run admission key error).Holds other hello ->
        other ≠ run ∧ s.Holds other hello := by
    intro other hello hlater
    rcases holds_update rfl hlater with ⟨_, _, hfalse⟩ | hearlier
    · cases hfalse
    · exact hearlier
  have hclaimed : forall hello,
      (s.rollBack run admission key error).Claimed hello ->
        s.Claimed hello ∧ hello ≠ admission.hello := by
    rintro hello (hmem | ⟨other, hlater⟩)
    · refine ⟨Or.inl hmem, ?_⟩
      intro hsame
      exact h.fresh run admission.hello hheld (hsame ▸ hmem)
    · rcases hholds other hello hlater with ⟨hother, hearlier⟩
      refine ⟨Or.inr ⟨other, hearlier⟩, ?_⟩
      intro hsame
      rw [hsame] at hearlier
      exact hother (h.exclusive other run admission.hello hearlier hheld)
  constructor
  case once => exact h.once
  case exclusive =>
    intro first second hello hfirst hsecond
    exact h.exclusive first second hello (hholds first hello hfirst).right
      (hholds second hello hsecond).right
  case fresh =>
    intro other hello hlater
    exact h.fresh other hello (hholds other hello hlater).right
  case keyed =>
    apply h.keyed_update rfl
    intro found hfound
    cases hfound
  case reserved =>
    intro hello hlater hunexpired
    rcases hclaimed hello hlater with ⟨hearlier, hother⟩
    rcases h.reserved hello hearlier hunexpired with ⟨entry, hentry, hexpiry⟩
    refine ⟨entry, ?_, hexpiry⟩
    -- Another unexpired Hello has another key, so its entry stays.
    have hkey : key ≠ replayKey hello := by
      intro hsame
      apply hother
      exact h.alone hello admission.hello hearlier (Or.inr ⟨run, hheld⟩)
        hunexpired hlive (hsame.symm.trans hkeyed)
    change (s.replay.erase key)[replayKey hello]? = some entry
    rw [Std.ExtTreeMap.getElem?_erase, if_neg
      (fun hsame => hkey (Std.LawfulEqCmp.compare_eq_iff_eq.mp hsame))]
    exact hentry
  case alone =>
    intro first second hfirst hsecond
    exact h.alone first second (hclaimed first hfirst).left
      (hclaimed second hsecond).left

/-!
What a step that succeeds leaves.
-/

section Successes

variable {run : Nat} {admission : Admission P} {target : V1DeviceRecord}
  {deadline : Instant} {key : String} {incoming : IncomingV1}

theorem lookup_of_ok
    (h : targetRecord client s.active admission.hello s.wall =
      Except.ok target) :
    s.lookup client run admission =
      ({ s with active := retainCurrent s.active s.wall } :
        AdmissionState P).move run admission (AdmissionStage.found target) := by
  unfold AdmissionState.lookup
  rw [h]

theorem verify_of_ok
    (h : verifyIncoming P client admission.remoteEndpoint admission.hello target
      s.wall = Except.ok ()) :
    s.verify client run admission target =
      s.move run admission (AdmissionStage.verified target) := by
  unfold AdmissionState.verify
  rw [h]

theorem setDeadline_of_ok
    (h : pendingDeadline admission.hello.claims.expiresAt
      config.peerHandshakeTimeout s.wall s.instant = Except.ok deadline) :
    s.setDeadline config run admission target =
      s.move run admission (AdmissionStage.timed target deadline) := by
  unfold AdmissionState.setDeadline
  rw [h]

theorem reserve_of_ok {replay : ReplayCache}
    (hreplay : s.replay.insert config.replay (replayKey admission.hello)
      admission.hello.claims.fromIdentity admission.hello.claims.expiresAt
      s.wall = (replay, Except.ok ()))
    (hincoming : incomingRequest P client admission.hello target deadline =
      Except.ok incoming) :
    s.reserve client config run admission target deadline =
      ({ s with replay := replay } : AdmissionState P).move run admission
        (AdmissionStage.reserved (replayKey admission.hello) incoming) := by
  unfold AdmissionState.reserve
  dsimp only
  rw [hreplay]
  dsimp only
  rw [hincoming]

theorem enqueue_of_ok {queue : PendingQueueState}
    (h : s.queue.insert config.queue s.instant key incoming =
      (queue, Except.ok ())) :
    s.enqueue config run admission key incoming =
      ({ s with
        queue := queue
        admitted := s.admitted ++ [admission.hello] } : AdmissionState P).move
          run admission (AdmissionStage.finished (Except.ok ())) := by
  unfold AdmissionState.enqueue
  rw [h]

end Successes

theorem advance_eq {run : Nat} {admission : Admission P}
    {stage : AdmissionStage} (hrun : s.runs run = some admission)
    (hstage : admission.stage = stage) :
    s.advance client config run =
      s.perform client config run admission stage := by
  unfold AdmissionState.advance
  rw [hrun, ← hstage]

variable (client config) in
theorem next_reserved {run : Nat} {admission : Admission P}
    {target : V1DeviceRecord} {deadline : Instant} {replay : ReplayCache}
    {incoming : IncomingV1} (hrun : s.runs run = some admission)
    (hstage : admission.stage = AdmissionStage.timed target deadline)
    (hreplay : s.replay.insert config.replay (replayKey admission.hello)
      admission.hello.claims.fromIdentity admission.hello.claims.expiresAt
      s.wall = (replay, Except.ok ()))
    (hincoming : incomingRequest P client admission.hello target deadline =
      Except.ok incoming) :
    s.next client config (AdmissionLabel.advance run) =
      some (({ s with replay := replay } : AdmissionState P).move run admission
        (AdmissionStage.reserved (replayKey admission.hello) incoming)) := by
  change s.advance client config run = _
  rw [advance_eq hrun hstage]
  change some (s.reserve client config run admission target deadline) = _
  rw [reserve_of_ok hreplay hincoming]

variable (client config) in
theorem next_enqueued {run : Nat} {admission : Admission P} {key : String}
    {incoming : IncomingV1} {queue : PendingQueueState}
    (hrun : s.runs run = some admission)
    (hstage : admission.stage = AdmissionStage.reserved key incoming)
    (hqueue : s.queue.insert config.queue s.instant key incoming =
      (queue, Except.ok ())) :
    s.next client config (AdmissionLabel.advance run) =
      some (({ s with
        queue := queue
        admitted := s.admitted ++ [admission.hello] } : AdmissionState P).move
          run admission (AdmissionStage.finished (Except.ok ()))) := by
  change s.advance client config run = _
  rw [advance_eq hrun hstage]
  change some (s.enqueue config run admission key incoming) = _
  rw [enqueue_of_ok hqueue]

theorem Guarded.advance (h : s.Guarded) {run : Nat}
    (htimely : s.Timely (AdmissionLabel.advance run))
    (hnext : s.advance client config run = some after) : after.Guarded := by
  cases hrun : s.runs run with
  | none =>
      unfold AdmissionState.advance at hnext
      rw [hrun] at hnext
      cases hnext
  | some admission =>
      have hclock := htimely admission hrun
      cases hstage : admission.stage with
      | received =>
          rw [advance_eq hrun hstage] at hnext
          injection hnext with hnext
          rw [← hnext]
          exact h.lookup run admission
      | found target =>
          rw [advance_eq hrun hstage] at hnext
          injection hnext with hnext
          rw [← hnext]
          exact h.verify run admission target
      | verified target =>
          rw [advance_eq hrun hstage] at hnext
          injection hnext with hnext
          rw [← hnext]
          exact h.setDeadline run admission target
      | timed target deadline =>
          rw [advance_eq hrun hstage] at hnext
          rw [hstage] at hclock
          injection hnext with hnext
          rw [← hnext]
          exact h.reserve run admission target deadline hclock
      | reserved key incoming =>
          rw [advance_eq hrun hstage] at hnext
          injection hnext with hnext
          rw [← hnext]
          exact h.enqueue hrun hstage
      | refused key error =>
          rw [advance_eq hrun hstage] at hnext
          rw [hstage] at hclock
          injection hnext with hnext
          rw [← hnext]
          exact h.rollBack hrun hstage hclock
      | finished result =>
          rw [advance_eq hrun hstage] at hnext
          cases hnext

theorem Guarded.next (h : s.Guarded) {label : AdmissionLabel P}
    (htimely : s.Timely label)
    (hnext : s.next client config label = some after) : after.Guarded := by
  cases label with
  | tick wall instant =>
      unfold AdmissionState.next at hnext
      dsimp only at hnext
      split at hnext
      · rename_i hforward
        injection hnext with hnext
        rw [← hnext]
        apply h.quiet
        exact ⟨hforward.left, rfl, fun _ _ hheld => hheld, h.keyed,
          fun _ _ hentry _ => hentry⟩
      · cases hnext
  | register active =>
      injection hnext with hnext
      rw [← hnext]
      exact h.quiet ⟨UInt64.le_refl _, rfl, fun _ _ hheld => hheld, h.keyed,
        fun _ _ hentry _ => hentry⟩
  | receive run remoteEndpoint hello =>
      unfold AdmissionState.next at hnext
      dsimp only at hnext
      split at hnext
      · cases hnext
      · injection hnext with hnext
        rw [← hnext]
        let admission : Admission P :=
          { remoteEndpoint := remoteEndpoint
            hello := hello
            stage := AdmissionStage.received }
        have hruns : Function.update s.runs run (some admission) =
            Function.update s.runs run
              (some { admission with stage := AdmissionStage.received }) := rfl
        exact h.released hruns rfl rfl rfl rfl (fun _ _ hentry _ => hentry)
  | advance run => exact h.advance htimely hnext
  | abandon run =>
      change s.abandon run = some after at hnext
      unfold AdmissionState.abandon at hnext
      split at hnext
      · cases hnext
      · injection hnext with hnext
        rw [← hnext]
        exact h.released rfl rfl rfl rfl rfl (fun _ _ hentry _ => hentry)
  | next =>
      injection hnext with hnext
      rw [← hnext]
      exact h.quiet ⟨UInt64.le_refl _, rfl, fun _ _ hheld => hheld, h.keyed,
        fun _ _ hentry _ => hentry⟩
  | expire key =>
      injection hnext with hnext
      rw [← hnext]
      exact h.quiet ⟨UInt64.le_refl _, rfl, fun _ _ hheld => hheld, h.keyed,
        fun _ _ hentry _ => hentry⟩
  | prune =>
      injection hnext with hnext
      rw [← hnext]
      exact h.quiet ⟨UInt64.le_refl _, rfl, fun _ _ hheld => hheld, h.keyed,
        fun _ _ hentry _ => hentry⟩
  | close =>
      injection hnext with hnext
      rw [← hnext]
      exact h.quiet ⟨UInt64.le_refl _, rfl, fun _ _ hheld => hheld, h.keyed,
        fun _ _ hentry _ => hentry⟩

end AdmissionState

theorem admissionMachine_step {s after : AdmissionState P}
    {allowed : AdmissionState P -> AdmissionLabel P -> Prop}
    {label : AdmissionLabel P}
    (h : (admissionMachine client config).ReachableWhen allowed s)
    (hallowed : allowed s label)
    (hnext : s.next client config label = some after) :
    (admissionMachine client config).ReachableWhen allowed after :=
  Machine.ReachableWhen.step h hallowed hnext

theorem admissionMachine_guarded {s : AdmissionState P}
    (h : (admissionMachine client config).ReachableWhen AdmissionState.Timely s) :
    s.Guarded := by
  apply Machine.ReachableWhen.invariant (I := AdmissionState.Guarded) _ _ h
  · intro s hinitial
    exact hinitial.guarded
  · intro s label after hguarded htimely hnext
    exact hguarded.next htimely hnext

end AtMostOnce

end Client
end Pubky2Pubky
