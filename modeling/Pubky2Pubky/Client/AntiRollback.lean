import Pubky2Pubky.Browser.SequenceStore
import Pubky2Pubky.Client.Commits

/-!
# Anti-rollback across sessions

The floors of the store and the handshakes meet in the list of commit attempts.
A handshake passes its commit only with an attempt of its own that succeeded,
and the successful attempts form one chain of the register bank.
-/

namespace Pubky2Pubky
namespace Client

open Foundation Protocol

variable {P : Primitives} {S : SequenceStore P} {client : V1Client}

/-!
# Attempts
-/

namespace Attempt

def succeeded (attempt : Attempt S) : Bool :=
  match attempt.result with
  | Except.ok _ => true
  | Except.error _ => false

theorem succeeded_iff {attempt : Attempt S} :
    attempt.succeeded = true <-> attempt.result = Except.ok () := by
  unfold succeeded
  cases attempt.result with
  | ok u => exact ⟨fun _ => rfl, fun _ => rfl⟩
  | error e =>
      constructor
      · intro h
        cases h
      · intro h
        cases h

theorem not_succeeded {attempt : Attempt S} (h : attempt.succeeded = false) :
    exists error, attempt.result = Except.error error := by
  unfold succeeded at h
  cases hresult : attempt.result with
  | ok u =>
      rw [hresult] at h
      cases h
  | error e => exact ⟨e, rfl⟩

/-- The attempt is one call of the store with the observation of its record. -/
structure Genuine (attempt : Attempt S) : Prop where
  called : S.recordBatch attempt.fault attempt.before [attempt.observation] =
    (attempt.after, attempt.result)
  observed : recordObservation P attempt.record =
    Except.ok attempt.observation

/-- The entries of the successful attempts, in the order of the commits. -/
def log (attempts : List (Attempt S)) :
    List (String × BoundCounter String) :=
  (attempts.filter succeeded).map fun attempt => S.entry attempt.observation

theorem log_snoc (attempts : List (Attempt S)) (attempt : Attempt S) :
    log (attempts ++ [attempt]) =
      log attempts ++ log [attempt] := by
  unfold log
  rw [List.filter_append, List.map_append]

theorem log_singleton_of_succeeded {attempt : Attempt S}
    (h : attempt.succeeded = true) :
    log [attempt] = [S.entry attempt.observation] := by
  unfold log
  rw [List.filter_cons_of_pos h]
  rfl

theorem log_singleton_of_failed {attempt : Attempt S}
    (h : attempt.succeeded = false) : log [attempt] = [] := by
  unfold log
  rw [List.filter_cons_of_neg (by simp [h])]
  rfl

end Attempt

/-!
# What a step does to the sessions
-/

/-- The session of a run that has just been opened. -/
def Session.opened (remote : V1DeviceRecord) : Session :=
  { phase := Phase.early, trail := [], remote := remote }

/-- The answer of a commit at one session id. -/
def AnsweredAt (earlier later : Option Session) (succeeded : Prop) : Prop :=
  match earlier with
  | none => later = none
  | some session => exists answered,
      later = some answered ∧ Session.Answered session answered succeeded

/-- Everything a step can do to sessions, jobs, attempts and floors. -/
inductive ClientState.Effect (s after : ClientState S) : Prop where
  | quiet :
      after.session = s.session -> after.jobs = s.jobs ->
      after.attempts = s.attempts ->
      S.floors after.store = S.floors s.store -> Effect s after
  | opened (id : SessionId) (remote : V1DeviceRecord) :
      s.session id = none ->
      after.session = Function.update s.session id
        (some (Session.opened remote)) ->
      after.jobs = s.jobs -> after.attempts = s.attempts ->
      after.store = s.store -> Effect s after
  | advanced (id : SessionId) (earlier later : Session)
      (submitted : Option (AuthenticatedSequenceObservation P)) :
      s.session id = some earlier ->
      after.session = Function.update s.session id (some later) ->
      Session.Advances P earlier later submitted ->
      after.jobs = submit s.jobs id earlier.remote submitted ->
      after.attempts = s.attempts -> after.store = s.store -> Effect s after
  | attempted (id : SessionId) (job : Job P) (fault : Option S.Fault) :
      s.jobs id = some job ->
      (forall other, other ≠ id -> after.session other = s.session other) ->
      AnsweredAt (s.session id) (after.session id)
        ((s.attempt id fault job).result = Except.ok ()) ->
      after.jobs = Function.update s.jobs id none ->
      after.attempts = s.attempts ++ [s.attempt id fault job] ->
      after.store = (s.attempt id fault job).after -> Effect s after

namespace ClientState

variable {s after : ClientState S}

theorem session_inbound (s : ClientState S) (connection : Nat) :
    s.session (SessionId.inbound connection) =
      (s.accepts connection).map Accept.session := rfl

theorem session_outbound (s : ClientState S) (connection : Nat) :
    s.session (SessionId.outbound connection) =
      (s.dials connection).map Dial.session := rfl

theorem session_updateAccept (connection : Nat) (run : Accept P)
    (jobs : SessionId -> Option (Job P)) :
    ({ s with
      accepts := Function.update s.accepts connection (some run)
      jobs := jobs } : ClientState S).session =
    Function.update s.session (SessionId.inbound connection)
      (some run.session) := by
  funext id
  cases id with
  | inbound other =>
      change (Function.update s.accepts connection (some run) other).map
        Accept.session = _
      rw [Function.update_apply, Function.update_apply]
      by_cases h : other = connection
      · rw [if_pos h, if_pos (congrArg SessionId.inbound h)]
        rfl
      · rw [if_neg h, if_neg (fun hid => h (SessionId.inbound.inj hid))]
        rfl
  | outbound other => rfl

theorem session_updateDial (connection : Nat) (run : Dial P)
    (jobs : SessionId -> Option (Job P)) :
    ({ s with
      dials := Function.update s.dials connection (some run)
      jobs := jobs } : ClientState S).session =
    Function.update s.session (SessionId.outbound connection)
      (some run.session) := by
  funext id
  cases id with
  | inbound other => rfl
  | outbound other =>
      change (Function.update s.dials connection (some run) other).map
        Dial.session = _
      rw [Function.update_apply, Function.update_apply]
      by_cases h : other = connection
      · rw [if_pos h, if_pos (congrArg SessionId.outbound h)]
        rfl
      · rw [if_neg h, if_neg (fun hid => h (SessionId.outbound.inj hid))]
        rfl

theorem answerCommit_others (s : ClientState S) (id : SessionId)
    (result : Except S.Error Unit) (other : SessionId) (hother : other ≠ id) :
    (s.answerCommit id result).session other = s.session other := by
  cases id with
  | inbound connection =>
      cases other with
      | inbound found =>
          have hne : found ≠ connection := fun h =>
            hother (congrArg SessionId.inbound h)
          change (Function.update s.accepts connection _ found).map
            Accept.session = _
          rw [Function.update_of_ne hne]
          rfl
      | outbound found => rfl
  | outbound connection =>
      cases other with
      | inbound found => rfl
      | outbound found =>
          have hne : found ≠ connection := fun h =>
            hother (congrArg SessionId.outbound h)
          change (Function.update s.dials connection _ found).map
            Dial.session = _
          rw [Function.update_of_ne hne]
          rfl

theorem mapError_eq_ok {result : Except S.Error Unit} :
    result.mapError S.clientError = Except.ok () <->
      result = Except.ok () := by
  cases result with
  | ok u => exact ⟨fun _ => rfl, fun _ => rfl⟩
  | error e =>
      constructor
      · intro h
        cases h
      · intro h
        cases h

theorem answerCommit_answered (s : ClientState S) (id : SessionId)
    (result : Except S.Error Unit) :
    AnsweredAt (s.session id) ((s.answerCommit id result).session id)
      (result = Except.ok ()) := by
  cases id with
  | inbound connection =>
      have hupdated : (s.answerCommit (SessionId.inbound connection)
          result).session (SessionId.inbound connection) =
          ((s.accepts connection).map fun run =>
            run.stored (result.mapError S.clientError)).map Accept.session := by
        change (Function.update s.accepts connection _ connection).map
          Accept.session = _
        rw [Function.update_self]
      rw [hupdated, session_inbound]
      cases s.accepts connection with
      | none => rfl
      | some run =>
          refine ⟨_, rfl, ?_⟩
          rw [← mapError_eq_ok]
          exact run.stored_answered (result.mapError S.clientError)
  | outbound connection =>
      have hupdated : (s.answerCommit (SessionId.outbound connection)
          result).session (SessionId.outbound connection) =
          ((s.dials connection).map fun run =>
            run.stored (result.mapError S.clientError)).map Dial.session := by
        change (Function.update s.dials connection _ connection).map
          Dial.session = _
        rw [Function.update_self]
      rw [hupdated, session_outbound]
      cases s.dials connection with
      | none => rfl
      | some run =>
          refine ⟨_, rfl, ?_⟩
          rw [← mapError_eq_ok]
          exact run.stored_answered (result.mapError S.clientError)

theorem effect (hS : S.Monotone) {label : ClientLabel S}
    (hnext : s.next client label = some after) : Effect s after := by
  cases label with
  | register sequence lifetimeSeconds now =>
      rcases register_eq_some hnext with ⟨active, record, _, rfl⟩
      apply Effect.quiet
      · rfl
      · rfl
      · rfl
      · rfl
  | publish fault operation =>
      injection hnext with hnext
      subst hnext
      apply Effect.quiet
      · rfl
      · rfl
      · rfl
      · exact hS.published rfl
  | incoming connection remoteEndpoint hello lookupAt verifyAt queuedAt =>
      rcases incoming_eq_some hnext with ⟨hnone, pending, _, rfl⟩
      apply Effect.opened (SessionId.inbound connection) pending.sender.record
      · rw [session_inbound, hnone]
        rfl
      · exact session_updateAccept connection _ s.jobs
      · rfl
      · rfl
      · rfl
  | accept connection event =>
      rcases stepAccept_eq_some hnext with ⟨run, stepped, hrun, hstep, rfl⟩
      apply Effect.advanced (SessionId.inbound connection) run.session
        stepped.session stepped.stage.submitted
      · rw [session_inbound, hrun]
        rfl
      · exact session_updateAccept connection stepped _
      · exact Accept.next_advances hstep
      · rfl
      · rfl
      · rfl
  | connect connection remoteEndpoint target application now =>
      rcases connect_eq_some hnext with ⟨hnone, _, rfl⟩
      apply Effect.opened (SessionId.outbound connection) target.record
      · rw [session_outbound, hnone]
        rfl
      · exact session_updateDial connection _ s.jobs
      · rfl
      · rfl
      · rfl
  | dial connection event =>
      rcases stepDial_eq_some hnext with ⟨run, stepped, hrun, hstep, rfl⟩
      apply Effect.advanced (SessionId.outbound connection) run.session
        stepped.session stepped.stage.submitted
      · rw [session_outbound, hrun]
        rfl
      · exact session_updateDial connection stepped _
      · exact Dial.next_advances hstep
      · rfl
      · rfl
      · rfl
  | store id fault =>
      rcases runJob_eq_some hnext with ⟨job, hjob, rfl⟩
      apply Effect.attempted id job fault hjob
      · intro other hother
        rw [answerCommit_others _ id _ other hother]
        rfl
      · change AnsweredAt (({ s with
            store := (s.attempt id fault job).after
            jobs := Function.update s.jobs id none
            attempts := s.attempts ++ [s.attempt id fault job] } :
            ClientState S).session id) _ _
        exact answerCommit_answered _ id _
      · cases id with
        | inbound connection => rfl
        | outbound connection => rfl
      · cases id with
        | inbound connection => rfl
        | outbound connection => rfl
      · cases id with
        | inbound connection => rfl
        | outbound connection => rfl

end ClientState

/-!
# The invariant
-/

/-- What the jobs and the attempts of a session say about its phase. -/
def Session.Standing (session : Session) (job : Option (Job P))
    (own : List (Attempt S)) : Prop :=
  match session.phase with
  | Phase.early => job = none ∧ own = [] ∧ ¬ session.Committed
  | Phase.storing => own = [] ∧ ¬ session.Committed ∧
      exists waiting, job = some waiting ∧ waiting.record = session.remote
  | Phase.late => session.Committed -> job = none ∧ exists attempt,
      own = [attempt] ∧ attempt.record = session.remote ∧
        attempt.result = Except.ok ()

def StandingAt (session : Option Session) (job : Option (Job P))
    (own : List (Attempt S)) : Prop :=
  match session with
  | none => job = none ∧ own = []
  | some session => session.Standing job own

/-- The attempts of one session. -/
def attemptsOf (attempts : List (Attempt S)) (id : SessionId) :
    List (Attempt S) :=
  attempts.filter fun attempt => decide (attempt.session = id)

theorem attemptsOf_snoc_self (attempts : List (Attempt S)) (attempt : Attempt S) :
    attemptsOf (attempts ++ [attempt]) attempt.session =
      attemptsOf attempts attempt.session ++ [attempt] := by
  unfold attemptsOf
  rw [List.filter_append, List.filter_cons_of_pos (by simp), List.filter_nil]

theorem attemptsOf_snoc_of_ne (attempts : List (Attempt S))
    {attempt : Attempt S} {id : SessionId} (h : id ≠ attempt.session) :
    attemptsOf (attempts ++ [attempt]) id = attemptsOf attempts id := by
  unfold attemptsOf
  rw [List.filter_append, List.filter_cons_of_neg (by simp [h.symm]),
    List.filter_nil, List.append_nil]

namespace Session

variable {earlier later : Session} {job : Option (Job P)}
  {own : List (Attempt S)}

theorem Standing.advance
    {submitted : Option (AuthenticatedSequenceObservation P)}
    (h : earlier.Standing job own)
    (hadvances : Session.Advances P earlier later submitted) :
    later.Standing (nextJob job earlier.remote submitted) own := by
  unfold Standing at h ⊢
  cases hphase : later.phase with
  | early =>
      rw [hadvances.early hphase] at h
      rw [hadvances.idle (by rw [hphase]; decide)]
      dsimp only
      rw [hadvances.committed]
      exact h
  | storing =>
      rcases hadvances.submits hphase with ⟨hearly, observation, hsome, _⟩
      rw [hearly] at h
      rw [hsome]
      rcases h with ⟨_, hown, huncommitted⟩
      dsimp only
      rw [hadvances.committed, hadvances.remote]
      exact ⟨hown, huncommitted, _, rfl, rfl⟩
  | late =>
      rw [hadvances.idle (by rw [hphase]; decide)]
      dsimp only
      rw [hadvances.committed, hadvances.remote]
      intro hcommitted
      cases hbefore : earlier.phase with
      | early =>
          rw [hbefore] at h
          exact absurd hcommitted h.right.right
      | storing =>
          rw [hbefore] at h
          exact absurd hcommitted h.right.left
      | late =>
          rw [hbefore] at h
          exact h hcommitted

/-- What a run hands to the store is the observation of its remote record. -/
theorem Advances.queued
    {submitted : Option (AuthenticatedSequenceObservation P)}
    (h : Session.Advances P earlier later submitted)
    (hjob : forall waiting, job = some waiting ->
      recordObservation P waiting.record = Except.ok waiting.observation)
    {next : Job P} (hnext : nextJob job earlier.remote submitted = some next) :
    recordObservation P next.record = Except.ok next.observation := by
  cases submitted with
  | none => exact hjob next hnext
  | some observation =>
      have hstoring : later.phase = Phase.storing := by
        by_contra hidle
        cases h.idle hidle
      rcases h.submits hstoring with ⟨_, found, hfound, hobserved⟩
      injection hfound with hfound
      injection hnext with hnext
      rw [← hnext, hfound]
      exact hobserved

/-- A job that is still there finds its run waiting or past hearing of it. -/
theorem Standing.answer {waiting : Job P} {attempt : Attempt S}
    (h : earlier.Standing (some waiting) own)
    (hrecord : attempt.record = waiting.record)
    (hanswered : Session.Answered earlier later
      (attempt.result = Except.ok ())) :
    later.Standing (none : Option (Job P)) (own ++ [attempt]) := by
  unfold Standing at h
  cases hphase : earlier.phase with
  | early =>
      rw [hphase] at h
      cases h.left
  | storing =>
      rw [hphase] at h
      rcases h with ⟨hown, huncommitted, found, hfound, hremote⟩
      injection hfound with hfound
      rcases hanswered.waited hphase with ⟨hlate, hcommitted⟩
      unfold Standing
      rw [hlate, hown, hcommitted]
      intro hnow
      have hok := hnow.resolve_left huncommitted
      refine ⟨rfl, attempt, rfl, ?_, hok⟩
      rw [hrecord, hfound, hremote, hanswered.remote]
  | late =>
      have hsame : later = earlier := hanswered.ignored (by rw [hphase]; decide)
      rw [hphase] at h
      unfold Standing
      rw [hsame, hphase]
      intro hcommitted
      cases (h hcommitted).left

end Session

/-- The invariant that ties the sessions, the commits and the floors together. -/
structure ClientState.Orderly (s : ClientState S) : Prop where
  standing (id : SessionId) :
    StandingAt (s.session id) (s.jobs id) (attemptsOf s.attempts id)
  queued (id : SessionId) (job : Job P) : s.jobs id = some job ->
    recordObservation P job.record = Except.ok job.observation
  genuine (attempt : Attempt S) : attempt ∈ s.attempts -> attempt.Genuine
  chain : Floors.Chain (Attempt.log s.attempts)
  covers : (S.floors s.store).Covers (Attempt.log s.attempts)

namespace ClientState

variable {s after : ClientState S}

theorem Initial.orderly (h : s.Initial) : s.Orderly := by
  constructor
  · intro id
    have hnone : s.session id = none := by
      cases id with
      | inbound connection =>
          rw [session_inbound, h.accepts]
          rfl
      | outbound connection =>
          rw [session_outbound, h.dials]
          rfl
    rw [hnone, h.jobs, h.attempts]
    exact ⟨rfl, rfl⟩
  · intro id job hjob
    rw [h.jobs] at hjob
    cases hjob
  · intro attempt hattempt
    rw [h.attempts] at hattempt
    cases hattempt
  · rw [h.attempts]
    exact Floors.chain_nil
  · rw [h.attempts]
    exact Floors.covers_nil _

/-- One attempt extends the chain, and the floors keep covering it. -/
theorem Orderly.attempted (hS : S.Monotone) (h : s.Orderly) (id : SessionId)
    (fault : Option S.Fault) (job : Job P) :
    Floors.Chain (Attempt.log (s.attempts ++ [s.attempt id fault job])) ∧
      (S.floors (s.attempt id fault job).after).Covers
        (Attempt.log (s.attempts ++ [s.attempt id fault job])) := by
  have hcalled : S.recordBatch fault s.store [job.observation] =
      ((s.attempt id fault job).after, (s.attempt id fault job).result) := rfl
  rw [Attempt.log_snoc]
  cases hsucceeded : (s.attempt id fault job).succeeded with
  | true =>
      rw [Attempt.log_singleton_of_succeeded hsucceeded]
      rw [Attempt.succeeded_iff.mp hsucceeded] at hcalled
      have hrecorded := hS.recorded hcalled
      rw [hrecorded.raised]
      exact ⟨h.chain.snoc h.covers hrecorded.admits,
        h.covers.raise hrecorded.admits⟩
  | false =>
      rw [Attempt.log_singleton_of_failed hsucceeded, List.append_nil]
      rcases Attempt.not_succeeded hsucceeded with ⟨error, herror⟩
      rw [herror] at hcalled
      refine ⟨h.chain, ?_⟩
      rcases hS.failed hcalled with hsame | ⟨_, hrecorded⟩
      · rw [hsame]
        exact h.covers
      · rw [hrecorded.raised]
        exact h.covers.mono (Floors.le_raise hrecorded.admits)

theorem Orderly.next (hS : S.Monotone) (h : s.Orderly) {label : ClientLabel S}
    (hnext : s.next client label = some after) : after.Orderly := by
  cases effect hS hnext with
  | quiet hsession hjobs hattempts hfloors =>
      constructor
      · intro id
        rw [hsession, hjobs, hattempts]
        exact h.standing id
      · rw [hjobs]
        exact h.queued
      · rw [hattempts]
        exact h.genuine
      · rw [hattempts]
        exact h.chain
      · rw [hattempts, hfloors]
        exact h.covers
  | opened id remote hnone hsession hjobs hattempts hstore =>
      constructor
      · intro other
        rw [hsession, hjobs, hattempts]
        by_cases hother : other = id
        · have hstanding := h.standing other
          rw [hother, hnone] at hstanding
          rw [hother, Function.update_self]
          exact ⟨hstanding.left, hstanding.right, List.not_mem_nil⟩
        · rw [Function.update_of_ne hother]
          exact h.standing other
      · rw [hjobs]
        exact h.queued
      · rw [hattempts]
        exact h.genuine
      · rw [hattempts]
        exact h.chain
      · rw [hattempts, hstore]
        exact h.covers
  | advanced id earlier later submitted hsome hsession hadvances hjobs hattempts
      hstore =>
      constructor
      · intro other
        rw [hsession, hjobs, hattempts]
        by_cases hother : other = id
        · have hstanding := h.standing other
          rw [hother, hsome] at hstanding
          unfold submit
          rw [hother, Function.update_self, Function.update_self]
          exact Session.Standing.advance hstanding hadvances
        · unfold submit
          rw [Function.update_of_ne hother, Function.update_of_ne hother]
          exact h.standing other
      · intro other job hjob
        rw [hjobs] at hjob
        unfold submit at hjob
        by_cases hother : other = id
        · rw [hother, Function.update_self] at hjob
          exact hadvances.queued (h.queued id) hjob
        · rw [Function.update_of_ne hother] at hjob
          exact h.queued other job hjob
      · rw [hattempts]
        exact h.genuine
      · rw [hattempts]
        exact h.chain
      · rw [hattempts, hstore]
        exact h.covers
  | attempted id job fault hjob hothers hanswered hjobs hattempts hstore =>
      have hlog := h.attempted hS id fault job
      constructor
      · intro other
        rw [hjobs, hattempts]
        by_cases hother : other = id
        · have hstanding := h.standing other
          have hown : attemptsOf (s.attempts ++ [s.attempt id fault job]) id =
              attemptsOf s.attempts id ++ [s.attempt id fault job] :=
            attemptsOf_snoc_self s.attempts (s.attempt id fault job)
          rw [hother, hjob] at hstanding
          rw [hother, Function.update_self, hown]
          cases hsession : s.session id with
          | none =>
              rw [hsession] at hstanding
              cases hstanding.left
          | some session =>
              rw [hsession] at hstanding hanswered
              rcases hanswered with ⟨answered, hlater, hanswered⟩
              rw [hlater]
              exact Session.Standing.answer hstanding rfl hanswered
        · rw [hothers other hother, Function.update_of_ne hother,
            attemptsOf_snoc_of_ne _ hother]
          exact h.standing other
      · intro other found hfound
        rw [hjobs] at hfound
        by_cases hother : other = id
        · rw [hother, Function.update_self] at hfound
          cases hfound
        · rw [Function.update_of_ne hother] at hfound
          exact h.queued other found hfound
      · intro attempt hattempt
        rw [hattempts] at hattempt
        rcases List.mem_append.mp hattempt with hold | hnew
        · exact h.genuine attempt hold
        · rw [List.mem_singleton.mp hnew]
          exact ⟨rfl, h.queued id job hjob⟩
      · rw [hattempts]
        exact hlog.left
      · rw [hattempts, hstore]
        exact hlog.right

end ClientState

/-!
# The property of a run
-/

/-- The floor a record asks for: its sequence, bound to its digest. -/
def recordFloor (P : Primitives) (record : V1DeviceRecord) :
    BoundCounter String :=
  { counter := record.locator.claims.sequence.toNat
    digest := record.digest P }

theorem recordObservation_eq_ok {record : V1DeviceRecord}
    {observation : AuthenticatedSequenceObservation P}
    (h : recordObservation P record = Except.ok observation) :
    observation.identity = record.certificate.claims.identity ∧
      observation.scope =
        "v1:locator:" ++ record.certificate.claims.controlSigningKey ∧
      observation.floor = recordFloor P record := by
  unfold recordObservation at h
  simp only [bind_eq_ok, exists_unit, okOr_eq_ok, rejectIf_eq_ok] at h
  rcases h with ⟨bytes, _, hcanonical, h⟩
  split at h
  · rcases AuthenticatedSequenceObservation.new_eq_ok h with
      ⟨hidentity, hscope, hcounter, hdigest⟩
    refine ⟨hidentity, hscope, ?_⟩
    unfold AuthenticatedSequenceObservation.floor floorOf recordFloor
    rw [hcounter, hdigest, not_not.mp hcanonical]
  · cases h

/-- Both records are of one remote device: one identity and one control key. -/
def SameRemote (first second : V1DeviceRecord) : Prop :=
  first.certificate.claims.identity = second.certificate.claims.identity ∧
    first.certificate.claims.controlSigningKey =
      second.certificate.claims.controlSigningKey

/-- The later record is neither a rollback nor an equivocation of the earlier. -/
structure Succeeds (P : Primitives) (earlier later : V1DeviceRecord) :
    Prop where
  sequence : earlier.locator.claims.sequence ≤ later.locator.claims.sequence
  digest : earlier.locator.claims.sequence = later.locator.claims.sequence ->
    earlier.digest P = later.digest P

theorem succeeds_of_le {earlier later : V1DeviceRecord}
    (h : recordFloor P earlier ≤ recordFloor P later) :
    Succeeds P earlier later := by
  constructor
  · exact UInt64.le_iff_toNat_le.mpr (BoundCounter.counter_le h)
  · intro hsequence
    exact BoundCounter.digest_eq h (congrArg UInt64.toNat hsequence)

/-- What the attempts of a client guarantee to its sessions. -/
structure ClientState.AntiRollback (s : ClientState S) : Prop where
  committedFirst (id : SessionId) (session : Session) (peer : Peer) :
    s.session id = some session ->
    Milestone.peerReleased peer ∈ session.trail ->
    peer.remoteIdentity = session.remote.certificate.claims.identity ∧
      (exists earlier,
        session.trail = earlier ++ [Milestone.peerReleased peer] ∧
          Milestone.recordCommitted ∈ earlier) ∧
      exists attempt, attempt ∈ s.attempts ∧ attempt.session = id ∧
        attempt.record = session.remote ∧ attempt.result = Except.ok ()
  monotone : (s.attempts.filter Attempt.succeeded).Pairwise
    fun earlier later => SameRemote earlier.record later.record ->
      Succeeds P earlier.record later.record
  failedReleasesNone (attempt : Attempt S) (session : Session) :
    attempt ∈ s.attempts -> attempt.result ≠ Except.ok () ->
    s.session attempt.session = some session -> ¬ session.Released
  failedKeepsFloors (attempt : Attempt S) :
    attempt ∈ s.attempts -> attempt.result ≠ Except.ok () ->
    (attempt.fault.any S.late = false ∨
      S.Declines attempt.observation attempt.before) ->
    S.floors attempt.after = S.floors attempt.before
  publishersKept (attempt : Attempt S) :
    attempt ∈ s.attempts -> S.publishers attempt.after =
      S.publishers attempt.before
  publishersUnread (attempt : Attempt S) :
    attempt ∈ s.attempts -> S.Agree
      (S.recordBatch none attempt.before [attempt.observation]).2
      (S.recordBatch none (S.eraseCounters attempt.before)
        [attempt.observation]).2

/-- The floors move only with an attempt that has recorded its observation. -/
def ClientState.MovesFloors (s after : ClientState S) : Prop :=
  S.floors after.store = S.floors s.store ∨
    exists attempt, after.attempts = s.attempts ++ [attempt] ∧
      S.Recorded attempt.observation s.store after.store

theorem releasePeer_identity {remote : ResolvedV1Device}
    {hello : V1SignedHello} {peer : Peer}
    (h : releasePeer P remote hello = Except.ok peer) :
    peer.remoteIdentity = remote.record.certificate.claims.identity := by
  unfold releasePeer at h
  simp only [bind_eq_ok, pure_eq_ok] at h
  rcases h with ⟨sessionId, _, rfl⟩
  rfl

namespace ClientState

variable {s after : ClientState S}

theorem Orderly.committed (h : s.Orderly) {id : SessionId} {session : Session}
    (hsession : s.session id = some session) (hcommitted : session.Committed) :
    exists attempt, attemptsOf s.attempts id = [attempt] ∧
      attempt.record = session.remote ∧ attempt.result = Except.ok () := by
  have hstanding := h.standing id
  rw [hsession] at hstanding
  change session.Standing _ _ at hstanding
  unfold Session.Standing at hstanding
  cases hphase : session.phase with
  | early =>
      rw [hphase] at hstanding
      exact absurd hcommitted hstanding.right.right
  | storing =>
      rw [hphase] at hstanding
      exact absurd hcommitted hstanding.right.left
  | late =>
      rw [hphase] at hstanding
      exact (hstanding hcommitted).right

theorem Orderly.monotone (h : s.Orderly) :
    (s.attempts.filter Attempt.succeeded).Pairwise fun earlier later =>
      SameRemote earlier.record later.record ->
        Succeeds P earlier.record later.record := by
  have hchain := List.pairwise_map.mp h.chain
  apply hchain.imp_of_mem
  intro earlier later hearlier hlater hle hsame
  have hfirst := recordObservation_eq_ok
    (h.genuine earlier (List.mem_of_mem_filter hearlier)).observed
  have hsecond := recordObservation_eq_ok
    (h.genuine later (List.mem_of_mem_filter hlater)).observed
  rcases hfirst with ⟨hidentity, hscope, hfloor⟩
  rcases hsecond with ⟨hidentity', hscope', hfloor'⟩
  unfold SequenceStore.entry at hle
  rw [hidentity, hidentity', hscope, hscope', hsame.left, hsame.right, hfloor,
    hfloor'] at hle
  exact succeeds_of_le (hle rfl)

/-- A released run names its remote record and has passed its commit before. -/
theorem Coherent.released (h : s.Coherent client) {id : SessionId}
    {session : Session} {peer : Peer} (hsession : s.session id = some session)
    (hpeer : Milestone.peerReleased peer ∈ session.trail) :
    peer.remoteIdentity = session.remote.certificate.claims.identity ∧
      exists earlier,
        session.trail = earlier ++ [Milestone.peerReleased peer] ∧
          Milestone.recordCommitted ∈ earlier := by
  cases id with
  | inbound connection =>
      rw [session_inbound] at hsession
      rcases Option.map_eq_some_iff.mp hsession with ⟨run, hrun, rfl⟩
      rcases (h.accepts connection run hrun).trail.of_released hpeer with
        ⟨answer, proof, now, ready, htrail, _, hrelease⟩
      refine ⟨releasePeer_identity hrelease,
        [Milestone.ackSent answer, Milestone.proofVerified proof now,
          Milestone.recordCommitted,
          Milestone.confirmedSent (confirmation answer ready)], htrail, ?_⟩
      simp
  | outbound connection =>
      rw [session_outbound] at hsession
      rcases Option.map_eq_some_iff.mp hsession with ⟨run, hrun, rfl⟩
      rcases (h.dials connection run hrun).trail.of_released hpeer with
        ⟨greeting, reply, now, proof, later, ready, htrail, _, hrelease⟩
      refine ⟨releasePeer_identity hrelease,
        [Milestone.helloSent greeting, Milestone.ackVerified reply now,
          Milestone.proofVerified proof later, Milestone.readySent ready,
          Milestone.recordCommitted], htrail, ?_⟩
      simp

theorem Orderly.antiRollback (hS : S.Monotone) (h : s.Orderly)
    (hcoherent : s.Coherent client) : s.AntiRollback := by
  constructor
  case committedFirst =>
    intro id session peer hsession hpeer
    rcases hcoherent.released hsession hpeer with
      ⟨hidentity, earlier, htrail, hearlier⟩
    have hcommitted : session.Committed := by
      unfold Session.Committed
      rw [htrail]
      exact List.mem_append_left _ hearlier
    rcases h.committed hsession hcommitted with
      ⟨attempt, hown, hrecord, hresult⟩
    have hmem : attempt ∈ attemptsOf s.attempts id := by
      rw [hown]
      exact List.mem_singleton_self attempt
    rcases List.mem_filter.mp hmem with ⟨hattempt, hid⟩
    exact ⟨hidentity, ⟨earlier, htrail, hearlier⟩, attempt, hattempt,
      of_decide_eq_true hid, hrecord, hresult⟩
  case monotone => exact h.monotone
  case failedReleasesNone =>
    intro attempt session hattempt hfailed hsession hreleased
    rcases hreleased with ⟨peer, hpeer⟩
    rcases hcoherent.released hsession hpeer with
      ⟨_, earlier, htrail, hearlier⟩
    have hcommitted : session.Committed := by
      unfold Session.Committed
      rw [htrail]
      exact List.mem_append_left _ hearlier
    rcases h.committed hsession hcommitted with ⟨found, hown, _, hresult⟩
    have hmem : attempt ∈ attemptsOf s.attempts attempt.session :=
      List.mem_filter.mpr ⟨hattempt, decide_eq_true rfl⟩
    rw [hown] at hmem
    rw [List.mem_singleton.mp hmem] at hfailed
    exact hfailed hresult
  case failedKeepsFloors =>
    intro attempt hattempt hfailed hcause
    have hcalled := (h.genuine attempt hattempt).called
    rcases hcause with hnotlate | hdeclines
    · cases hresult : attempt.result with
      | ok u => exact absurd hresult hfailed
      | error e =>
          rw [hresult] at hcalled
          rcases hS.failed hcalled with hsame | ⟨hlate, _⟩
          · rw [hsame]
          · rw [hnotlate] at hlate
            cases hlate
    · rw [(hS.declined hdeclines hcalled).left]
  case publishersKept =>
    intro attempt hattempt
    have hcalled := (h.genuine attempt hattempt).called
    cases hresult : attempt.result with
    | ok u =>
        rw [hresult] at hcalled
        exact (hS.recorded hcalled).publishers
    | error e =>
        rw [hresult] at hcalled
        rcases hS.failed hcalled with hsame | ⟨_, hrecorded⟩
        · rw [hsame]
        · exact hrecorded.publishers
  case publishersUnread =>
    intro attempt _
    exact hS.blind attempt.before attempt.observation

theorem effect_movesFloors (hS : S.Monotone) {label : ClientLabel S}
    (hnext : s.next client label = some after) : s.MovesFloors after := by
  cases effect hS hnext with
  | quiet _ _ _ hfloors => exact Or.inl hfloors
  | opened id remote _ _ _ _ hstore =>
      rw [MovesFloors, hstore]
      exact Or.inl rfl
  | advanced id earlier later submitted _ _ _ _ _ hstore =>
      rw [MovesFloors, hstore]
      exact Or.inl rfl
  | attempted id job fault _ _ _ _ hattempts hstore =>
      have hcalled : S.recordBatch fault s.store [job.observation] =
          ((s.attempt id fault job).after, (s.attempt id fault job).result) :=
        rfl
      rw [MovesFloors, hstore]
      cases hresult : (s.attempt id fault job).result with
      | ok u =>
          rw [hresult] at hcalled
          exact Or.inr ⟨s.attempt id fault job, hattempts,
            hS.recorded hcalled⟩
      | error e =>
          rw [hresult] at hcalled
          rcases hS.failed hcalled with hsame | ⟨_, hrecorded⟩
          · rw [hsame]
            exact Or.inl rfl
          · exact Or.inr ⟨s.attempt id fault job, hattempts, hrecorded⟩

/-- A client keeps both invariants over whole runs. -/
theorem reachable_orderly (hS : S.Monotone)
    (h : (machine client S).Reachable s) : s.Orderly ∧ s.Coherent client := by
  apply Machine.ReachableWhen.invariant
    (I := fun s => s.Orderly ∧ s.Coherent client) _ _ h
  · intro s hinitial
    exact ⟨hinitial.orderly, hinitial.coherent⟩
  · intro s label after hinvariant _ hnext
    exact ⟨hinvariant.left.next hS hnext, hinvariant.right.next hnext⟩

end ClientState

/-!
# The three stores
-/

inductive StoreKind where
  | memory
  | file
  | indexedDb (accountId : String)

def sequenceStore (P : Primitives) : StoreKind -> SequenceStore P
  | StoreKind.memory => MemorySequenceStore.store P
  | StoreKind.file => FileSequenceStore.store P
  | StoreKind.indexedDb accountId => Browser.store P accountId

theorem sequenceStore_monotone (kind : StoreKind) :
    (sequenceStore P kind).Monotone := by
  cases kind with
  | memory => exact MemorySequenceStore.store_monotone
  | file => exact FileSequenceStore.store_monotone
  | indexedDb accountId => exact Browser.store_monotone accountId

end Client
end Pubky2Pubky
