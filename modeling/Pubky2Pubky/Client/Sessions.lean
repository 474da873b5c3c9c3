import Pubky2Pubky.Foundation.Machine
import Pubky2Pubky.Client.SequenceStore
import Pubky2Pubky.Client.Trails

/-!
# The sessions of one client

A client runs any number of inbound and outbound handshakes over one sequence
store. A commit is a job of the store: it may run after its handshake has been
interrupted, and then no handshake hears of its result.
-/

namespace Pubky2Pubky
namespace Client

open Foundation Protocol

inductive SessionId where
  | inbound (connection : Nat)
  | outbound (connection : Nat)
  deriving DecidableEq

structure Job (P : Primitives) where
  record : V1DeviceRecord
  observation : AuthenticatedSequenceObservation P

/-- One call of the store, with the states around it. -/
structure Attempt {P : Primitives} (S : SequenceStore P) where
  session : SessionId
  record : V1DeviceRecord
  observation : AuthenticatedSequenceObservation P
  fault : Option S.Fault
  before : S.State
  after : S.State
  result : Except S.Error Unit

structure ClientState {P : Primitives} (S : SequenceStore P) where
  active : ActiveRecords
  store : S.State
  accepts : Nat -> Option (Accept P)
  dials : Nat -> Option (Dial P)
  jobs : SessionId -> Option (Job P)
  attempts : List (Attempt S)

inductive ClientLabel {P : Primitives} (S : SequenceStore P) where
  | register (sequence lifetimeSeconds now : UInt64)
  | publish (fault : Option S.Fault) (operation : PublisherOperation)
  | incoming (connection : Nat) (remoteEndpoint : P.PublicKey)
      (hello : V1SignedHello) (lookupAt verifyAt queuedAt : UInt64)
  | accept (connection : Nat) (event : AcceptEvent P)
  | connect (connection : Nat) (remoteEndpoint : P.PublicKey)
      (target : ResolvedV1Device) (application : String) (now : UInt64)
  | dial (connection : Nat) (event : DialEvent P)
  | store (session : SessionId) (fault : Option S.Fault)

section Steps

variable {P : Primitives} {S : SequenceStore P}

/-- The observation a run has just handed to the store. -/
def AcceptStage.submitted :
    AcceptStage P -> Option (AuthenticatedSequenceObservation P)
  | AcceptStage.storing _ _ observation => some observation
  | _ => none

def DialStage.submitted :
    DialStage P -> Option (AuthenticatedSequenceObservation P)
  | DialStage.storing _ _ _ observation => some observation
  | _ => none

/-- The job of a session after its run has moved on. -/
def nextJob (job : Option (Job P)) (record : V1DeviceRecord) :
    Option (AuthenticatedSequenceObservation P) -> Option (Job P)
  | none => job
  | some observation => some { record := record, observation := observation }

def submit (jobs : SessionId -> Option (Job P)) (session : SessionId)
    (record : V1DeviceRecord)
    (submitted : Option (AuthenticatedSequenceObservation P)) :
    SessionId -> Option (Job P) :=
  Function.update jobs session (nextJob (jobs session) record submitted)

namespace ClientState

def register (client : V1Client) (s : ClientState S)
    (sequence lifetimeSeconds now : UInt64) : Option (ClientState S) :=
  match currentRecord P client s.active sequence lifetimeSeconds now with
  | Except.ok (active, _) => some { s with active := active }
  | Except.error _ => none

def incoming (client : V1Client) (s : ClientState S) (connection : Nat)
    (remoteEndpoint : P.PublicKey) (hello : V1SignedHello)
    (lookupAt verifyAt queuedAt : UInt64) : Option (ClientState S) :=
  match s.accepts connection with
  | some _ => none
  | none =>
      match authenticateIncomingV1 P client s.active remoteEndpoint hello
          lookupAt verifyAt queuedAt with
      | Except.error _ => none
      | Except.ok pending =>
          some { s with
            accepts := Function.update s.accepts connection
              (some { pending := pending
                      stage := AcceptStage.queued
                      trail := [] }) }

def stepAccept (client : V1Client) (s : ClientState S) (connection : Nat)
    (event : AcceptEvent P) : Option (ClientState S) :=
  match s.accepts connection with
  | none => none
  | some run =>
      match run.next client.resolverAllowsLoopback event with
      | none => none
      | some after =>
          some { s with
            accepts := Function.update s.accepts connection (some after)
            jobs := submit s.jobs (SessionId.inbound connection)
              run.pending.sender.record after.stage.submitted }

def connect (client : V1Client) (s : ClientState S) (connection : Nat)
    (remoteEndpoint : P.PublicKey) (target : ResolvedV1Device)
    (application : String) (now : UInt64) : Option (ClientState S) :=
  match s.dials connection with
  | some _ => none
  | none =>
      match dialDevice P client target remoteEndpoint now with
      | Except.error _ => none
      | Except.ok _ =>
          some { s with
            dials := Function.update s.dials connection
              (some { target := target
                      application := application
                      stage := DialStage.connected
                      trail := [] }) }

def stepDial (client : V1Client) (s : ClientState S) (connection : Nat)
    (event : DialEvent P) : Option (ClientState S) :=
  match s.dials connection with
  | none => none
  | some run =>
      match run.next client s.active event with
      | none => none
      | some after =>
          some { s with
            dials := Function.update s.dials connection (some after)
            jobs := submit s.jobs (SessionId.outbound connection)
              run.target.record after.stage.submitted }

def answerCommit (s : ClientState S) (session : SessionId)
    (result : Except S.Error Unit) : ClientState S :=
  match session with
  | SessionId.inbound connection =>
      { s with
        accepts := Function.update s.accepts connection
          ((s.accepts connection).map fun run =>
            run.stored (result.mapError S.clientError)) }
  | SessionId.outbound connection =>
      { s with
        dials := Function.update s.dials connection
          ((s.dials connection).map fun run =>
            run.stored (result.mapError S.clientError)) }

/-- The attempt a job makes on the store as it is. -/
def attempt (s : ClientState S) (session : SessionId) (fault : Option S.Fault)
    (job : Job P) : Attempt S :=
  { session := session
    record := job.record
    observation := job.observation
    fault := fault
    before := s.store
    after := (S.recordBatch fault s.store [job.observation]).1
    result := (S.recordBatch fault s.store [job.observation]).2 }

def runJob (s : ClientState S) (session : SessionId)
    (fault : Option S.Fault) : Option (ClientState S) :=
  match s.jobs session with
  | none => none
  | some job =>
      let made := s.attempt session fault job
      some (answerCommit
        { s with
          store := made.after
          jobs := Function.update s.jobs session none
          attempts := s.attempts ++ [made] }
        session made.result)

def next (client : V1Client) (s : ClientState S) :
    ClientLabel S -> Option (ClientState S)
  | ClientLabel.register sequence lifetimeSeconds now =>
      s.register client sequence lifetimeSeconds now
  | ClientLabel.publish fault operation =>
      some { s with store := (S.publisher fault s.store operation).1 }
  | ClientLabel.incoming connection remoteEndpoint hello lookupAt verifyAt
      queuedAt =>
      s.incoming client connection remoteEndpoint hello lookupAt verifyAt
        queuedAt
  | ClientLabel.accept connection event => s.stepAccept client connection event
  | ClientLabel.connect connection remoteEndpoint target application now =>
      s.connect client connection remoteEndpoint target application now
  | ClientLabel.dial connection event => s.stepDial client connection event
  | ClientLabel.store session fault => s.runJob session fault

/-- A client that has run nothing yet; its store may hold anything. -/
structure Initial (s : ClientState S) : Prop where
  active : s.active = []
  accepts : s.accepts = fun _ => none
  dials : s.dials = fun _ => none
  jobs : s.jobs = fun _ => none
  attempts : s.attempts = []

end ClientState

/-- One client with any environment. -/
def machine (client : V1Client) (S : SequenceStore P) :
    Machine (ClientState S) (ClientLabel S) :=
  { initial := ClientState.Initial
    next := ClientState.next client }

theorem machine_step {client : V1Client} {s after : ClientState S}
    {label : ClientLabel S} (h : (machine client S).Reachable s)
    (hnext : s.next client label = some after) :
    (machine client S).Reachable after :=
  Machine.ReachableWhen.step h trivial hnext

/-!
# One spec for each operation
-/

namespace ClientState

variable {client : V1Client} {s after : ClientState S} {connection : Nat}

theorem register_eq_some {sequence lifetimeSeconds now : UInt64}
    (h : s.register client sequence lifetimeSeconds now = some after) :
    exists active record,
      currentRecord P client s.active sequence lifetimeSeconds now =
        Except.ok (active, record) ∧ after = { s with active := active } := by
  unfold register at h
  split at h
  · rename_i active record hrecord
    injection h with h
    exact ⟨active, record, hrecord, h.symm⟩
  · cases h

theorem register_of_ok {sequence lifetimeSeconds now : UInt64}
    {active : ActiveRecords} {record : V1DeviceRecord}
    (h : currentRecord P client s.active sequence lifetimeSeconds now =
      Except.ok (active, record)) :
    s.register client sequence lifetimeSeconds now =
      some { s with active := active } := by
  unfold register
  rw [h]

theorem incoming_eq_some {remoteEndpoint : P.PublicKey} {hello : V1SignedHello}
    {lookupAt verifyAt queuedAt : UInt64}
    (h : s.incoming client connection remoteEndpoint hello lookupAt verifyAt
      queuedAt = some after) :
    s.accepts connection = none ∧ exists pending,
      authenticateIncomingV1 P client s.active remoteEndpoint hello lookupAt
          verifyAt queuedAt = Except.ok pending ∧
        after = { s with
          accepts := Function.update s.accepts connection
            (some { pending := pending
                    stage := AcceptStage.queued
                    trail := [] }) } := by
  unfold incoming at h
  split at h
  · cases h
  · rename_i hnone
    split at h
    · cases h
    · rename_i pending hpending
      injection h with h
      exact ⟨hnone, pending, hpending, h.symm⟩

theorem stepAccept_eq_some {event : AcceptEvent P}
    (h : s.stepAccept client connection event = some after) :
    exists run next,
      s.accepts connection = some run ∧
        run.next client.resolverAllowsLoopback event = some next ∧
        after = { s with
          accepts := Function.update s.accepts connection (some next)
          jobs := submit s.jobs (SessionId.inbound connection)
            run.pending.sender.record next.stage.submitted } := by
  unfold stepAccept at h
  split at h
  · cases h
  · rename_i run hrun
    split at h
    · cases h
    · rename_i next hnext
      injection h with h
      exact ⟨run, next, hrun, hnext, h.symm⟩

theorem connect_eq_some {remoteEndpoint : P.PublicKey}
    {target : ResolvedV1Device} {application : String} {now : UInt64}
    (h : s.connect client connection remoteEndpoint target application now =
      some after) :
    s.dials connection = none ∧
      dialDevice P client target remoteEndpoint now = Except.ok () ∧
        after = { s with
          dials := Function.update s.dials connection
            (some { target := target
                    application := application
                    stage := DialStage.connected
                    trail := [] }) } := by
  unfold connect at h
  split at h
  · cases h
  · rename_i hnone
    split at h
    · cases h
    · rename_i hdial
      injection h with h
      exact ⟨hnone, hdial, h.symm⟩

theorem stepDial_eq_some {event : DialEvent P}
    (h : s.stepDial client connection event = some after) :
    exists run next,
      s.dials connection = some run ∧
        run.next client s.active event = some next ∧
        after = { s with
          dials := Function.update s.dials connection (some next)
          jobs := submit s.jobs (SessionId.outbound connection)
            run.target.record next.stage.submitted } := by
  unfold stepDial at h
  split at h
  · cases h
  · rename_i run hrun
    split at h
    · cases h
    · rename_i next hnext
      injection h with h
      exact ⟨run, next, hrun, hnext, h.symm⟩

theorem runJob_eq_some {session : SessionId} {fault : Option S.Fault}
    (h : s.runJob session fault = some after) :
    exists job, s.jobs session = some job ∧
      after = answerCommit
        { s with
          store := (s.attempt session fault job).after
          jobs := Function.update s.jobs session none
          attempts := s.attempts ++ [s.attempt session fault job] }
        session (s.attempt session fault job).result := by
  unfold runJob at h
  split at h
  · cases h
  · rename_i job hjob
    injection h with h
    exact ⟨job, hjob, h.symm⟩

/-!
# Steps that are taken
-/

theorem incoming_of_ok {remoteEndpoint : P.PublicKey} {hello : V1SignedHello}
    {lookupAt verifyAt queuedAt : UInt64} {pending : PendingV1}
    (hfree : s.accepts connection = none)
    (h : authenticateIncomingV1 P client s.active remoteEndpoint hello lookupAt
      verifyAt queuedAt = Except.ok pending) :
    s.incoming client connection remoteEndpoint hello lookupAt verifyAt
        queuedAt =
      some { s with
        accepts := Function.update s.accepts connection
          (some { pending := pending
                  stage := AcceptStage.queued
                  trail := [] }) } := by
  unfold incoming
  rw [hfree]
  dsimp only
  rw [h]

theorem connect_of_ok {remoteEndpoint : P.PublicKey}
    {target : ResolvedV1Device} {application : String} {now : UInt64}
    (hfree : s.dials connection = none)
    (h : dialDevice P client target remoteEndpoint now = Except.ok ()) :
    s.connect client connection remoteEndpoint target application now =
      some { s with
        dials := Function.update s.dials connection
          (some { target := target
                  application := application
                  stage := DialStage.connected
                  trail := [] }) } := by
  unfold connect
  rw [hfree]
  dsimp only
  rw [h]

/-- The client with this run on an accepted connection. -/
def withAccept (s : ClientState S) (connection : Nat) (run : Accept P) :
    ClientState S :=
  { s with accepts := Function.update s.accepts connection (some run) }

def withDial (s : ClientState S) (connection : Nat) (run : Dial P) :
    ClientState S :=
  { s with dials := Function.update s.dials connection (some run) }

theorem withAccept_accepts {run found : Accept P} {other : Nat}
    (h : (s.withAccept connection run).accepts other = some found) :
    found = run ∨ s.accepts other = some found := by
  unfold withAccept at h
  dsimp only at h
  rw [Function.update_apply] at h
  split at h
  · exact Or.inl (Option.some.inj h).symm
  · exact Or.inr h

theorem withDial_dials {run found : Dial P} {other : Nat}
    (h : (s.withDial connection run).dials other = some found) :
    found = run ∨ s.dials other = some found := by
  unfold withDial at h
  dsimp only at h
  rw [Function.update_apply] at h
  split at h
  · exact Or.inl (Option.some.inj h).symm
  · exact Or.inr h

def submitting (s : ClientState S) (session : SessionId) (job : Job P) :
    ClientState S :=
  { s with jobs := Function.update s.jobs session (some job) }

def settled (s : ClientState S) (made : Attempt S) : ClientState S :=
  { s with
    store := made.after
    attempts := s.attempts ++ [made] }

theorem withAccept_stepped {run stepped : Accept P} {event : AcceptEvent P}
    (h : run.next client.resolverAllowsLoopback event = some stepped) :
    (s.withAccept connection run).next client
        (ClientLabel.accept connection event) =
      some { s.withAccept connection stepped with
        jobs := submit s.jobs (SessionId.inbound connection)
          run.pending.sender.record stepped.stage.submitted } := by
  unfold next stepAccept
  dsimp only
  rw [show (s.withAccept connection run).accepts connection = some run from
    Function.update_self _ _ _]
  dsimp only
  rw [h]
  unfold withAccept
  dsimp only
  rw [Function.update_idem]

theorem withDial_stepped {run stepped : Dial P} {event : DialEvent P}
    (h : run.next client s.active event = some stepped) :
    (s.withDial connection run).next client
        (ClientLabel.dial connection event) =
      some { s.withDial connection stepped with
        jobs := submit s.jobs (SessionId.outbound connection)
          run.target.record stepped.stage.submitted } := by
  unfold next stepDial
  dsimp only
  rw [show (s.withDial connection run).dials connection = some run from
    Function.update_self _ _ _]
  dsimp only
  rw [show (s.withDial connection run).active = s.active from rfl, h]
  unfold withDial
  dsimp only
  rw [Function.update_idem]

/-- A run that submits nothing leaves the jobs as they are. -/
theorem submit_none (jobs : SessionId -> Option (Job P)) (session : SessionId)
    (record : V1DeviceRecord) : submit jobs session record none = jobs :=
  Function.update_eq_self session jobs

theorem withAccept_step {run : Accept P} {event : AcceptEvent P}
    {stage : AcceptStage P} {passed : List Milestone}
    (h : AcceptStep run client.resolverAllowsLoopback event stage passed)
    (hclean : stage.Clean) (hidle : stage.submitted = none) :
    (s.withAccept connection run).next client
        (ClientLabel.accept connection event) =
      some (s.withAccept connection (run.moveTo stage passed)) := by
  rw [withAccept_stepped (h.taken hclean),
    show (run.moveTo stage passed).stage.submitted = none from hidle,
    submit_none]
  rfl

theorem withDial_step {run : Dial P} {event : DialEvent P}
    {stage : DialStage P} {passed : List Milestone}
    (h : DialStep run client s.active event stage passed)
    (hclean : stage.Clean) (hidle : stage.submitted = none) :
    (s.withDial connection run).next client
        (ClientLabel.dial connection event) =
      some (s.withDial connection (run.moveTo stage passed)) := by
  rw [withDial_stepped (h.taken hclean),
    show (run.moveTo stage passed).stage.submitted = none from hidle,
    submit_none]
  rfl

theorem submitting_runJob {session : SessionId} {job : Job P}
    (hfree : s.jobs session = none) (fault : Option S.Fault) :
    (s.submitting session job).runJob session fault =
      some (answerCommit (s.settled (s.attempt session fault job)) session
        (s.attempt session fault job).result) := by
  unfold runJob submitting
  dsimp only
  rw [Function.update_self]
  dsimp only
  rw [Function.update_idem, ← hfree, Function.update_eq_self]
  rfl

theorem withAccept_answerCommit (run : Accept P)
    (result : Except S.Error Unit) :
    (s.withAccept connection run).answerCommit (SessionId.inbound connection)
        result =
      s.withAccept connection (run.stored (result.mapError S.clientError)) := by
  unfold answerCommit withAccept
  dsimp only
  rw [Function.update_self, Function.update_idem]
  rfl

theorem withDial_answerCommit (run : Dial P) (result : Except S.Error Unit) :
    (s.withDial connection run).answerCommit (SessionId.outbound connection)
        result =
      s.withDial connection (run.stored (result.mapError S.clientError)) := by
  unfold answerCommit withDial
  dsimp only
  rw [Function.update_self, Function.update_idem]
  rfl

/-- A run submits its observation, and the store answers it at once. -/
theorem withAccept_commit {run : Accept P} {answer : Answer}
    {ready : ProofControl} {now : UInt64}
    {observation : AuthenticatedSequenceObservation P}
    (hfree : s.jobs (SessionId.inbound connection) = none)
    (h : AcceptStep run client.resolverAllowsLoopback (AcceptEvent.commit now)
      (AcceptStage.storing answer ready observation) [])
    (fault : Option S.Fault) :
    let made := s.attempt (SessionId.inbound connection) fault
      { record := run.pending.sender.record, observation := observation }
    exists middle,
      (s.withAccept connection run).next client
          (ClientLabel.accept connection (AcceptEvent.commit now)) =
        some middle ∧
      middle.next client
          (ClientLabel.store (SessionId.inbound connection) fault) =
        some ((s.settled made).withAccept connection
          ((run.moveTo (AcceptStage.storing answer ready observation) []).stored
            (made.result.mapError S.clientError))) := by
  intro made
  let waiting := s.withAccept connection
    (run.moveTo (AcceptStage.storing answer ready observation) [])
  refine ⟨waiting.submitting (SessionId.inbound connection) _,
    withAccept_stepped (h.taken trivial), ?_⟩
  change runJob _ _ fault = _
  rw [submitting_runJob (s := waiting) hfree]
  exact congrArg some (withAccept_answerCommit (s := s.settled made) _ _)

theorem withDial_commit {run : Dial P} {greeting : Greeting} {reply : Reply}
    {ready : ProofControl} {now : UInt64}
    {observation : AuthenticatedSequenceObservation P}
    (hfree : s.jobs (SessionId.outbound connection) = none)
    (h : DialStep run client s.active (DialEvent.commit now)
      (DialStage.storing greeting reply ready observation) [])
    (fault : Option S.Fault) :
    let made := s.attempt (SessionId.outbound connection) fault
      { record := run.target.record, observation := observation }
    exists middle,
      (s.withDial connection run).next client
          (ClientLabel.dial connection (DialEvent.commit now)) =
        some middle ∧
      middle.next client
          (ClientLabel.store (SessionId.outbound connection) fault) =
        some ((s.settled made).withDial connection
          ((run.moveTo (DialStage.storing greeting reply ready observation)
            []).stored (made.result.mapError S.clientError))) := by
  intro made
  let waiting := s.withDial connection
    (run.moveTo (DialStage.storing greeting reply ready observation) [])
  refine ⟨waiting.submitting (SessionId.outbound connection) _,
    withDial_stepped (h.taken trivial), ?_⟩
  change runJob _ _ fault = _
  rw [submitting_runJob (s := waiting) hfree]
  exact congrArg some (withDial_answerCommit (s := s.settled made) _ _)

/-!
# Coherence
-/

structure Coherent (client : V1Client) (s : ClientState S) : Prop where
  accepts (connection : Nat) (run : Accept P) :
    s.accepts connection = some run -> run.Coherent
  dials (connection : Nat) (run : Dial P) :
    s.dials connection = some run -> run.Coherent client

theorem Initial.coherent (h : s.Initial) : s.Coherent client := by
  constructor
  · intro connection run hrun
    rw [h.accepts] at hrun
    cases hrun
  · intro connection run hrun
    rw [h.dials] at hrun
    cases hrun

theorem Coherent.updateAccept (h : s.Coherent client) {run : Accept P}
    (hrun : run.Coherent) {jobs : SessionId -> Option (Job P)} :
    ({ s with
      accepts := Function.update s.accepts connection (some run)
      jobs := jobs } : ClientState S).Coherent client := by
  constructor
  · intro other found hfound
    change Function.update s.accepts connection (some run) other = _ at hfound
    rw [Function.update_apply] at hfound
    split at hfound
    · injection hfound with hfound
      exact hfound ▸ hrun
    · exact h.accepts other found hfound
  · exact h.dials

theorem Coherent.updateDial (h : s.Coherent client) {run : Dial P}
    (hrun : run.Coherent client) {jobs : SessionId -> Option (Job P)} :
    ({ s with
      dials := Function.update s.dials connection (some run)
      jobs := jobs } : ClientState S).Coherent client := by
  constructor
  · exact h.accepts
  · intro other found hfound
    change Function.update s.dials connection (some run) other = _ at hfound
    rw [Function.update_apply] at hfound
    split at hfound
    · injection hfound with hfound
      exact hfound ▸ hrun
    · exact h.dials other found hfound

theorem Coherent.answerCommit (h : s.Coherent client) (session : SessionId)
    (result : Except S.Error Unit) :
    (s.answerCommit session result).Coherent client := by
  cases session with
  | inbound connection =>
      constructor
      · intro other found hfound
        change Function.update s.accepts connection _ other = _ at hfound
        rw [Function.update_apply] at hfound
        split at hfound
        · rcases Option.map_eq_some_iff.mp hfound with ⟨run, hrun, hstored⟩
          exact hstored ▸ (h.accepts connection run hrun).stored _
        · exact h.accepts other found hfound
      · exact h.dials
  | outbound connection =>
      constructor
      · exact h.accepts
      · intro other found hfound
        change Function.update s.dials connection _ other = _ at hfound
        rw [Function.update_apply] at hfound
        split at hfound
        · rcases Option.map_eq_some_iff.mp hfound with ⟨run, hrun, hstored⟩
          exact hstored ▸ (h.dials connection run hrun).stored _
        · exact h.dials other found hfound

theorem Coherent.next (h : s.Coherent client) {label : ClientLabel S}
    (hnext : s.next client label = some after) : after.Coherent client := by
  cases label with
  | register sequence lifetimeSeconds now =>
      rcases register_eq_some hnext with ⟨active, record, _, rfl⟩
      exact ⟨h.accepts, h.dials⟩
  | publish fault operation =>
      injection hnext with hnext
      subst hnext
      exact ⟨h.accepts, h.dials⟩
  | incoming connection remoteEndpoint hello lookupAt verifyAt queuedAt =>
      rcases incoming_eq_some hnext with ⟨_, pending, _, rfl⟩
      exact h.updateAccept (Accept.coherent_queued pending)
  | accept connection event =>
      rcases stepAccept_eq_some hnext with ⟨run, stepped, hrun, hstep, rfl⟩
      exact h.updateAccept ((h.accepts connection run hrun).next hstep)
  | connect connection remoteEndpoint target application now =>
      rcases connect_eq_some hnext with ⟨_, _, rfl⟩
      exact h.updateDial (Dial.coherent_connected target application)
  | dial connection event =>
      rcases stepDial_eq_some hnext with ⟨run, stepped, hrun, hstep, rfl⟩
      exact h.updateDial ((h.dials connection run hrun).next hstep)
  | store session fault =>
      rcases runJob_eq_some hnext with ⟨job, _, rfl⟩
      apply Coherent.answerCommit
      exact ⟨h.accepts, h.dials⟩

end ClientState

end Steps

end Client
end Pubky2Pubky
