import Pubky2Pubky.Client.Network

/-!
# Session agreement

Every frame a run has acted on was written by the run at the other end of its
connection, so the two trails carry the same Hello, records and challenge, and
the barrier of each side stands in front of the frame the other one waits for.
-/

namespace Pubky2Pubky
namespace Client

open Foundation Protocol

section Runs

variable {P : Primitives}

/-!
# What a run has heard

The frames a run has read are known from its trail, once the milestone behind
the frame has been passed, and from its stage in between.
-/

namespace Accept

/-- The run has read a frame and takes it for the `ProofReady`. -/
def HeardReady (run : Accept P) : Prop :=
  (exists answer ready, run.stage = AcceptStage.fetching answer ready) ∨
    exists proof now, Milestone.proofVerified proof now ∈ run.trail

/-- A later state of the same run. -/
structure Extends (earlier later : Accept P) : Prop where
  pending : later.pending = earlier.pending
  trail : earlier.trail <+: later.trail

theorem extends_refl (run : Accept P) : run.Extends run :=
  ⟨rfl, List.prefix_rfl⟩

theorem next_extends {run after : Accept P} {resolverAllowsLoopback : Bool}
    {event : AcceptEvent P}
    (h : run.next resolverAllowsLoopback event = some after) :
    run.Extends after := by
  rcases next_moved h with ⟨stage, passed, rfl, _⟩
  exact ⟨rfl, List.prefix_append _ _⟩

theorem stored_extends (run : Accept P) (result : ClientResult Unit) :
    run.Extends (run.stored result) := by
  have hheard := run.stored_heard result
  generalize run.stored result = after at hheard ⊢
  cases hheard with
  | committed hstage => exact ⟨rfl, List.prefix_append _ _⟩
  | refused error hstage => exact ⟨rfl, List.prefix_append _ _⟩
  | ignored result hidle => exact run.extends_refl

theorem heardReady_moveTo {run : Accept P} {stage : AcceptStage P}
    {passed : List Milestone}
    (hstage : forall answer ready, stage ≠ AcceptStage.fetching answer ready)
    (hpassed : forall proof now, Milestone.proofVerified proof now ∉ passed)
    (h : (run.moveTo stage passed).HeardReady) : run.HeardReady := by
  rcases h with ⟨answer, ready, hfetching⟩ | ⟨proof, now, hmem⟩
  · exact absurd hfetching (hstage answer ready)
  · rcases List.mem_append.mp hmem with hold | hnew
    · exact Or.inr ⟨proof, now, hold⟩
    · exact absurd hnew (hpassed proof now)

/-- Only reading a frame makes a run take one for the `ProofReady`. -/
theorem next_heardReady {run after : Accept P} {resolverAllowsLoopback : Bool}
    {event : AcceptEvent P}
    (h : run.next resolverAllowsLoopback event = some after)
    (hheard : after.HeardReady) :
    run.HeardReady ∨ exists ready, event = AcceptEvent.received ready := by
  rcases next_moved h with ⟨stage, passed, rfl, hstep⟩
  cases hstep with
  | readied _ _ => exact Or.inr ⟨_, rfl⟩
  | verified hstage _ => exact Or.inl (Or.inl ⟨_, _, hstage⟩)
  -- No other await leads to the fetching of the proof.
  | _ => exact Or.inl (heardReady_moveTo (by simp) (by simp) hheard)

theorem stored_heardReady {run : Accept P} {result : ClientResult Unit}
    (h : (run.stored result).HeardReady) : run.HeardReady := by
  have hheard := run.stored_heard result
  generalize run.stored result = after at h hheard
  cases hheard with
  | ignored _ _ => exact h
  | _ => exact heardReady_moveTo (by simp) (by simp) h

end Accept

namespace Dial

/-- The run has read a frame and takes it for the `ProofConfirmed`. -/
def HeardConfirmed (run : Dial P) : Prop :=
  (exists greeting reply ready,
      run.stage = DialStage.committing greeting reply ready) ∨
    (exists greeting reply ready observation,
      run.stage = DialStage.storing greeting reply ready observation) ∨
    Milestone.recordCommitted ∈ run.trail

/-- The run has signed this greeting and may have sent it. -/
def Signed (run : Dial P) (greeting : Greeting) : Prop :=
  run.stage = DialStage.greeting greeting ∨
    Milestone.helloSent greeting ∈ run.trail

structure Extends (earlier later : Dial P) : Prop where
  target : later.target = earlier.target
  application : later.application = earlier.application
  trail : earlier.trail <+: later.trail

theorem extends_refl (run : Dial P) : run.Extends run :=
  ⟨rfl, rfl, List.prefix_rfl⟩

variable {client : V1Client} {active : ActiveRecords}

theorem next_extends {run after : Dial P} {event : DialEvent P}
    (h : run.next client active event = some after) : run.Extends after := by
  rcases next_moved h with ⟨stage, passed, rfl, _⟩
  exact ⟨rfl, rfl, List.prefix_append _ _⟩

theorem stored_extends (run : Dial P) (result : ClientResult Unit) :
    run.Extends (run.stored result) := by
  have hheard := run.stored_heard result
  generalize run.stored result = after at hheard ⊢
  cases hheard with
  | committed hstage => exact ⟨rfl, rfl, List.prefix_append _ _⟩
  | refused error hstage => exact ⟨rfl, rfl, List.prefix_append _ _⟩
  | ignored result hidle => exact run.extends_refl

theorem heardConfirmed_moveTo {run : Dial P} {stage : DialStage P}
    {passed : List Milestone}
    (hcommitting : forall greeting reply ready,
      stage ≠ DialStage.committing greeting reply ready)
    (hstoring : forall greeting reply ready observation,
      stage ≠ DialStage.storing greeting reply ready observation)
    (hpassed : Milestone.recordCommitted ∉ passed)
    (h : (run.moveTo stage passed).HeardConfirmed) : run.HeardConfirmed := by
  rcases h with ⟨greeting, reply, ready, hstage⟩ |
    ⟨greeting, reply, ready, observation, hstage⟩ | hmem
  · exact absurd hstage (hcommitting greeting reply ready)
  · exact absurd hstage (hstoring greeting reply ready observation)
  · rcases List.mem_append.mp hmem with hold | hnew
    · exact Or.inr (Or.inr hold)
    · exact absurd hnew hpassed

/-- Only reading a frame makes a run take one for the `ProofConfirmed`. -/
theorem next_heardConfirmed {run after : Dial P} {event : DialEvent P}
    (h : run.next client active event = some after)
    (hheard : after.HeardConfirmed) :
    run.HeardConfirmed ∨ exists frame, event = DialEvent.confirmed frame := by
  rcases next_moved h with ⟨stage, passed, rfl, hstep⟩
  cases hstep with
  | confirmed _ => exact Or.inr ⟨_, rfl⟩
  | submitted hstage _ => exact Or.inl (Or.inl ⟨_, _, _, hstage⟩)
  -- No other await leads to the commit.
  | _ => exact Or.inl (heardConfirmed_moveTo (by simp) (by simp) (by simp) hheard)

theorem stored_heardConfirmed {run : Dial P} {result : ClientResult Unit}
    (h : (run.stored result).HeardConfirmed) : run.HeardConfirmed := by
  have hheard := run.stored_heard result
  generalize run.stored result = after at h hheard
  cases hheard with
  | committed hstage => exact Or.inr (Or.inl ⟨_, _, _, _, hstage⟩)
  | refused _ hstage => exact Or.inr (Or.inl ⟨_, _, _, _, hstage⟩)
  | ignored _ _ => exact h

/-- An Ack in the trail was there or has just been read. -/
theorem next_ackVerified {run after : Dial P} {event : DialEvent P}
    {reply : Reply} {now : UInt64}
    (h : run.next client active event = some after)
    (hmem : Milestone.ackVerified reply now ∈ after.trail) :
    Milestone.ackVerified reply now ∈ run.trail ∨
      exists later, event = DialEvent.acknowledged reply.ack later := by
  rcases next_moved h with ⟨stage, passed, rfl, hstep⟩
  rcases List.mem_append.mp hmem with hold | hnew
  · exact Or.inl hold
  · cases hstep with
    | @acknowledged greeting ack later found _ hreply =>
        have hsame : reply = found := by
          simp only [List.mem_singleton, Milestone.ackVerified.injEq] at hnew
          exact hnew.left
        rw [hsame, signReply_ack hreply]
        exact Or.inr ⟨later, rfl⟩
    | _ => simp at hnew

theorem stored_ackVerified {run : Dial P} {result : ClientResult Unit}
    {reply : Reply} {now : UInt64}
    (h : Milestone.ackVerified reply now ∈ (run.stored result).trail) :
    Milestone.ackVerified reply now ∈ run.trail := by
  have hheard := run.stored_heard result
  generalize run.stored result = after at h hheard
  cases hheard with
  | committed _ => simpa [moveTo] using h
  | refused _ _ => simpa [moveTo] using h
  | ignored _ _ => exact h

/-- A signed greeting was there or has just been signed with a new nonce. -/
theorem next_signed {run after : Dial P} {event : DialEvent P}
    {greeting : Greeting} (h : run.next client active event = some after)
    (hsigned : after.Signed greeting) :
    run.Signed greeting ∨ exists now random,
      event = DialEvent.greet now random ∧
        greeting.hello.claims.sessionNonce = v1RandomChallenge P random := by
  rcases next_moved h with ⟨stage, passed, rfl, hstep⟩
  cases hsigned with
  | inl hstage =>
      change stage = _ at hstage
      cases hstep with
      | signed _ hsign =>
          injection hstage with hgreeting
          rw [← hgreeting]
          exact Or.inr ⟨_, _, rfl, (signGreeting_eq_ok hsign).right⟩
      | _ => cases hstage
  | inr hmem =>
      rcases List.mem_append.mp hmem with hold | hnew
      · exact Or.inl (Or.inr hold)
      · cases hstep with
        | greeted hstage =>
            simp only [List.mem_singleton, Milestone.helloSent.injEq] at hnew
            rw [hnew]
            exact Or.inl (Or.inl hstage)
        | _ => simp at hnew

theorem stored_signed {run : Dial P} {result : ClientResult Unit}
    {greeting : Greeting} (h : (run.stored result).Signed greeting) :
    run.Signed greeting := by
  have hheard := run.stored_heard result
  generalize run.stored result = after at h hheard
  cases hheard with
  | committed _ =>
      rcases h with hstage | hmem
      · cases hstage
      · exact Or.inr (by simpa [moveTo] using hmem)
  | refused _ _ =>
      rcases h with hstage | hmem
      · cases hstage
      · exact Or.inr (by simpa [moveTo] using hmem)
  | ignored _ _ => exact h

end Dial

end Runs

section Origins

variable {P : Primitives} {S : SequenceStore P} {client : V1Client}
  {s after : ClientState S}

/-!
# Where the runs of a client come from
-/

/-- The run of a connection was there, was admitted, or has made one step. -/
inductive AcceptOrigin (client : V1Client) (s : ClientState S)
    (label : ClientLabel S) (connection : Nat) (run : Accept P) : Prop where
  | kept : s.accepts connection = some run ->
      AcceptOrigin client s label connection run
  | admitted (remoteEndpoint : P.PublicKey) (hello : V1SignedHello)
      (lookupAt verifyAt queuedAt : UInt64) :
      label = ClientLabel.incoming connection remoteEndpoint hello lookupAt
        verifyAt queuedAt ->
      authenticateIncomingV1 P client s.active remoteEndpoint hello lookupAt
        verifyAt queuedAt = Except.ok run.pending ->
      run.stage = AcceptStage.queued -> run.trail = [] ->
      AcceptOrigin client s label connection run
  | stepped (earlier : Accept P) (event : AcceptEvent P) :
      s.accepts connection = some earlier ->
      label = ClientLabel.accept connection event ->
      earlier.next client.resolverAllowsLoopback event = some run ->
      AcceptOrigin client s label connection run
  | answered (earlier : Accept P) (result : ClientResult Unit) :
      s.accepts connection = some earlier -> run = earlier.stored result ->
      AcceptOrigin client s label connection run

inductive DialOrigin (client : V1Client) (s : ClientState S)
    (label : ClientLabel S) (connection : Nat) (run : Dial P) : Prop where
  | kept : s.dials connection = some run ->
      DialOrigin client s label connection run
  | connected (remoteEndpoint : P.PublicKey) (now : UInt64) :
      label = ClientLabel.connect connection remoteEndpoint run.target
        run.application now ->
      dialDevice P client run.target remoteEndpoint now = Except.ok () ->
      run.stage = DialStage.connected -> run.trail = [] ->
      DialOrigin client s label connection run
  | stepped (earlier : Dial P) (event : DialEvent P) :
      s.dials connection = some earlier ->
      label = ClientLabel.dial connection event ->
      earlier.next client s.active event = some run ->
      DialOrigin client s label connection run
  | answered (earlier : Dial P) (result : ClientResult Unit) :
      s.dials connection = some earlier -> run = earlier.stored result ->
      DialOrigin client s label connection run

namespace ClientState

theorem acceptOrigin {label : ClientLabel S}
    (hnext : s.next client label = some after) {connection : Nat}
    {run : Accept P} (hrun : after.accepts connection = some run) :
    AcceptOrigin client s label connection run := by
  cases label with
  | register sequence lifetimeSeconds now =>
      rcases register_eq_some hnext with ⟨active, record, _, rfl⟩
      exact AcceptOrigin.kept hrun
  | publish fault operation =>
      injection hnext with hnext
      subst hnext
      exact AcceptOrigin.kept hrun
  | incoming opened remoteEndpoint hello lookupAt verifyAt queuedAt =>
      rcases incoming_eq_some hnext with ⟨_, pending, hpending, rfl⟩
      change Function.update s.accepts opened _ connection = some run at hrun
      rw [Function.update_apply] at hrun
      split at hrun
      · rename_i hconnection
        injection hrun with hrun
        subst hconnection hrun
        exact AcceptOrigin.admitted remoteEndpoint hello lookupAt verifyAt
          queuedAt rfl hpending rfl rfl
      · exact AcceptOrigin.kept hrun
  | accept stepping event =>
      rcases stepAccept_eq_some hnext with ⟨earlier, later, hearlier, hstep, rfl⟩
      change Function.update s.accepts stepping _ connection = some run at hrun
      rw [Function.update_apply] at hrun
      split at hrun
      · rename_i hconnection
        injection hrun with hrun
        subst hconnection hrun
        exact AcceptOrigin.stepped earlier event hearlier rfl hstep
      · exact AcceptOrigin.kept hrun
  | connect opened remoteEndpoint target application now =>
      rcases connect_eq_some hnext with ⟨_, _, rfl⟩
      exact AcceptOrigin.kept hrun
  | dial stepping event =>
      rcases stepDial_eq_some hnext with ⟨earlier, later, _, _, rfl⟩
      exact AcceptOrigin.kept hrun
  | store session fault =>
      rcases runJob_eq_some hnext with ⟨job, _, rfl⟩
      cases session with
      | outbound answered => exact AcceptOrigin.kept hrun
      | inbound answered =>
          change Function.update s.accepts answered _ connection = some run
            at hrun
          rw [Function.update_apply] at hrun
          split at hrun
          · rename_i hconnection
            subst hconnection
            rcases Option.map_eq_some_iff.mp hrun with
              ⟨earlier, hearlier, hstored⟩
            exact AcceptOrigin.answered earlier _ hearlier hstored.symm
          · exact AcceptOrigin.kept hrun

theorem dialOrigin {label : ClientLabel S}
    (hnext : s.next client label = some after) {connection : Nat}
    {run : Dial P} (hrun : after.dials connection = some run) :
    DialOrigin client s label connection run := by
  cases label with
  | register sequence lifetimeSeconds now =>
      rcases register_eq_some hnext with ⟨active, record, _, rfl⟩
      exact DialOrigin.kept hrun
  | publish fault operation =>
      injection hnext with hnext
      subst hnext
      exact DialOrigin.kept hrun
  | incoming opened remoteEndpoint hello lookupAt verifyAt queuedAt =>
      rcases incoming_eq_some hnext with ⟨_, pending, hpending, rfl⟩
      exact DialOrigin.kept hrun
  | accept stepping event =>
      rcases stepAccept_eq_some hnext with ⟨earlier, later, _, _, rfl⟩
      exact DialOrigin.kept hrun
  | connect opened remoteEndpoint target application now =>
      rcases connect_eq_some hnext with ⟨_, hdial, rfl⟩
      change Function.update s.dials opened _ connection = some run at hrun
      rw [Function.update_apply] at hrun
      split at hrun
      · rename_i hconnection
        injection hrun with hrun
        subst hconnection hrun
        exact DialOrigin.connected remoteEndpoint now rfl hdial rfl rfl
      · exact DialOrigin.kept hrun
  | dial stepping event =>
      rcases stepDial_eq_some hnext with ⟨earlier, later, hearlier, hstep, rfl⟩
      change Function.update s.dials stepping _ connection = some run at hrun
      rw [Function.update_apply] at hrun
      split at hrun
      · rename_i hconnection
        injection hrun with hrun
        subst hconnection hrun
        exact DialOrigin.stepped earlier event hearlier rfl hstep
      · exact DialOrigin.kept hrun
  | store session fault =>
      rcases runJob_eq_some hnext with ⟨job, _, rfl⟩
      cases session with
      | inbound answered => exact DialOrigin.kept hrun
      | outbound answered =>
          change Function.update s.dials answered _ connection = some run
            at hrun
          rw [Function.update_apply] at hrun
          split at hrun
          · rename_i hconnection
            subst hconnection
            rcases Option.map_eq_some_iff.mp hrun with
              ⟨earlier, hearlier, hstored⟩
            exact DialOrigin.answered earlier _ hearlier hstored.symm
          · exact DialOrigin.kept hrun

/-- A run stays with its connection, and its trail only grows. -/
theorem accepts_persist {label : ClientLabel S}
    (hnext : s.next client label = some after) {connection : Nat}
    {run : Accept P} (hrun : s.accepts connection = some run) :
    exists later, after.accepts connection = some later ∧ run.Extends later := by
  cases label with
  | register sequence lifetimeSeconds now =>
      rcases register_eq_some hnext with ⟨active, record, _, rfl⟩
      exact ⟨run, hrun, run.extends_refl⟩
  | publish fault operation =>
      injection hnext with hnext
      subst hnext
      exact ⟨run, hrun, run.extends_refl⟩
  | incoming opened remoteEndpoint hello lookupAt verifyAt queuedAt =>
      rcases incoming_eq_some hnext with ⟨hnone, pending, _, rfl⟩
      have hother : connection ≠ opened := by
        intro hsame
        rw [hsame, hnone] at hrun
        cases hrun
      exact ⟨run, (Function.update_of_ne hother _ _).trans hrun,
        run.extends_refl⟩
  | accept stepping event =>
      rcases stepAccept_eq_some hnext with ⟨earlier, later, hearlier, hstep, rfl⟩
      by_cases hsame : connection = stepping
      · subst hsame
        rw [hrun] at hearlier
        injection hearlier with hearlier
        subst hearlier
        exact ⟨later, Function.update_self _ _ _, Accept.next_extends hstep⟩
      · exact ⟨run, (Function.update_of_ne hsame _ _).trans hrun,
          run.extends_refl⟩
  | connect opened remoteEndpoint target application now =>
      rcases connect_eq_some hnext with ⟨_, _, rfl⟩
      exact ⟨run, hrun, run.extends_refl⟩
  | dial stepping event =>
      rcases stepDial_eq_some hnext with ⟨earlier, later, _, _, rfl⟩
      exact ⟨run, hrun, run.extends_refl⟩
  | store session fault =>
      rcases runJob_eq_some hnext with ⟨job, _, rfl⟩
      cases session with
      | outbound answered => exact ⟨run, hrun, run.extends_refl⟩
      | inbound answered =>
          by_cases hsame : connection = answered
          · subst hsame
            have hresult := run.stored_extends
              ((s.attempt (SessionId.inbound connection) fault job).result.mapError
                S.clientError)
            refine ⟨_, ?_, hresult⟩
            change Function.update s.accepts connection _ connection = _
            rw [Function.update_self, hrun]
            rfl
          · exact ⟨run, (Function.update_of_ne hsame _ _).trans hrun,
              run.extends_refl⟩

theorem dials_persist {label : ClientLabel S}
    (hnext : s.next client label = some after) {connection : Nat}
    {run : Dial P} (hrun : s.dials connection = some run) :
    exists later, after.dials connection = some later ∧ run.Extends later := by
  cases label with
  | register sequence lifetimeSeconds now =>
      rcases register_eq_some hnext with ⟨active, record, _, rfl⟩
      exact ⟨run, hrun, run.extends_refl⟩
  | publish fault operation =>
      injection hnext with hnext
      subst hnext
      exact ⟨run, hrun, run.extends_refl⟩
  | incoming opened remoteEndpoint hello lookupAt verifyAt queuedAt =>
      rcases incoming_eq_some hnext with ⟨_, pending, _, rfl⟩
      exact ⟨run, hrun, run.extends_refl⟩
  | accept stepping event =>
      rcases stepAccept_eq_some hnext with ⟨earlier, later, _, _, rfl⟩
      exact ⟨run, hrun, run.extends_refl⟩
  | connect opened remoteEndpoint target application now =>
      rcases connect_eq_some hnext with ⟨hnone, _, rfl⟩
      have hother : connection ≠ opened := by
        intro hsame
        rw [hsame, hnone] at hrun
        cases hrun
      exact ⟨run, (Function.update_of_ne hother _ _).trans hrun,
        run.extends_refl⟩
  | dial stepping event =>
      rcases stepDial_eq_some hnext with ⟨earlier, later, hearlier, hstep, rfl⟩
      by_cases hsame : connection = stepping
      · subst hsame
        rw [hrun] at hearlier
        injection hearlier with hearlier
        subst hearlier
        exact ⟨later, Function.update_self _ _ _, Dial.next_extends hstep⟩
      · exact ⟨run, (Function.update_of_ne hsame _ _).trans hrun,
          run.extends_refl⟩
  | store session fault =>
      rcases runJob_eq_some hnext with ⟨job, _, rfl⟩
      cases session with
      | inbound answered => exact ⟨run, hrun, run.extends_refl⟩
      | outbound answered =>
          by_cases hsame : connection = answered
          · subst hsame
            have hresult := run.stored_extends
              ((s.attempt (SessionId.outbound connection) fault job).result.mapError
                S.clientError)
            refine ⟨_, ?_, hresult⟩
            change Function.update s.dials connection _ connection = _
            rw [Function.update_self, hrun]
            rfl
          · exact ⟨run, (Function.update_of_ne hsame _ _).trans hrun,
              run.extends_refl⟩

end ClientState

end Origins

section Channel

variable {P : Primitives} {ι : Type} {fleet : Fleet P ι} [DecidableEq ι]
  {s after : NetworkState fleet} {label : NetworkLabel fleet}

/-!
# One step of the network
-/

namespace NetworkState

theorem links_persist (h : s.next label = some after) {connection : Nat}
    {link : Link P ι} (hlink : s.links connection = some link) :
    after.links connection = some link := by
  cases label with
  | link opened made =>
      rcases next_link h with ⟨hnone, rfl⟩
      have hother : connection ≠ opened := by
        intro hsame
        rw [hsame, hnone] at hlink
        cases hlink
      exact (Function.update_of_ne hother _ _).trans hlink
  | act i clientLabel =>
      rcases next_act h with ⟨_, stepped, _, rfl⟩
      exact hlink

theorem links_origin (h : s.next label = some after) {connection : Nat}
    {link : Link P ι} (hlink : after.links connection = some link) :
    s.links connection = some link ∨
      label = NetworkLabel.link connection link := by
  cases label with
  | link opened made =>
      rcases next_link h with ⟨_, rfl⟩
      change Function.update s.links opened _ connection = _ at hlink
      rw [Function.update_apply] at hlink
      split at hlink
      · rename_i hsame
        injection hlink with hlink
        rw [hsame, hlink]
        exact Or.inr rfl
      · exact Or.inl hlink
  | act i clientLabel =>
      rcases next_act h with ⟨_, stepped, _, rfl⟩
      exact Or.inl hlink

theorem accepts_origin (h : s.next label = some after) {k : ι}
    {connection : Nat} {run : Accept P}
    (hrun : (after.clients k).accepts connection = some run) :
    (s.clients k).accepts connection = some run ∨
      exists clientLabel, label = NetworkLabel.act k clientLabel ∧
        s.carries k clientLabel = true ∧
        AcceptOrigin (fleet.member k).client (s.clients k) clientLabel
          connection run := by
  cases label with
  | link opened made =>
      rcases next_link h with ⟨_, rfl⟩
      exact Or.inl hrun
  | act i clientLabel =>
      rcases next_act h with ⟨hcarries, stepped, hstepped, rfl⟩
      by_cases hsame : k = i
      · subst hsame
        dsimp only at hrun
        rw [Function.update_self] at hrun
        exact Or.inr ⟨clientLabel, rfl, hcarries,
          ClientState.acceptOrigin hstepped hrun⟩
      · dsimp only at hrun
        rw [Function.update_of_ne hsame] at hrun
        exact Or.inl hrun

theorem dials_origin (h : s.next label = some after) {k : ι}
    {connection : Nat} {run : Dial P}
    (hrun : (after.clients k).dials connection = some run) :
    (s.clients k).dials connection = some run ∨
      exists clientLabel, label = NetworkLabel.act k clientLabel ∧
        s.carries k clientLabel = true ∧
        DialOrigin (fleet.member k).client (s.clients k) clientLabel
          connection run := by
  cases label with
  | link opened made =>
      rcases next_link h with ⟨_, rfl⟩
      exact Or.inl hrun
  | act i clientLabel =>
      rcases next_act h with ⟨hcarries, stepped, hstepped, rfl⟩
      by_cases hsame : k = i
      · subst hsame
        dsimp only at hrun
        rw [Function.update_self] at hrun
        exact Or.inr ⟨clientLabel, rfl, hcarries,
          ClientState.dialOrigin hstepped hrun⟩
      · dsimp only at hrun
        rw [Function.update_of_ne hsame] at hrun
        exact Or.inl hrun

theorem accepts_persist (h : s.next label = some after) {k : ι}
    {connection : Nat} {run : Accept P}
    (hrun : (s.clients k).accepts connection = some run) :
    exists later, (after.clients k).accepts connection = some later ∧
      run.Extends later := by
  cases label with
  | link opened made =>
      rcases next_link h with ⟨_, rfl⟩
      exact ⟨run, hrun, run.extends_refl⟩
  | act i clientLabel =>
      rcases next_act h with ⟨_, stepped, hstepped, rfl⟩
      by_cases hsame : k = i
      · subst hsame
        dsimp only
        rw [Function.update_self]
        exact ClientState.accepts_persist hstepped hrun
      · dsimp only
        rw [Function.update_of_ne hsame]
        exact ⟨run, hrun, run.extends_refl⟩

theorem dials_persist (h : s.next label = some after) {k : ι}
    {connection : Nat} {run : Dial P}
    (hrun : (s.clients k).dials connection = some run) :
    exists later, (after.clients k).dials connection = some later ∧
      run.Extends later := by
  cases label with
  | link opened made =>
      rcases next_link h with ⟨_, rfl⟩
      exact ⟨run, hrun, run.extends_refl⟩
  | act i clientLabel =>
      rcases next_act h with ⟨_, stepped, hstepped, rfl⟩
      by_cases hsame : k = i
      · subst hsame
        dsimp only
        rw [Function.update_self]
        exact ClientState.dials_persist hstepped hrun
      · dsimp only
        rw [Function.update_of_ne hsame]
        exact ⟨run, hrun, run.extends_refl⟩

theorem drawn_persist (h : s.next label = some after) {value : String}
    (hvalue : value ∈ s.drawn) : value ∈ after.drawn := by
  cases label with
  | link opened made =>
      rcases next_link h with ⟨_, rfl⟩
      exact hvalue
  | act i clientLabel =>
      rcases next_act h with ⟨_, stepped, _, rfl⟩
      exact List.mem_append_left _ hvalue

theorem getElem_of_prefix {α : Type} {earlier later : List α} {n : Nat} {a : α}
    (hextends : earlier <+: later) (h : earlier[n]? = some a) :
    later[n]? = some a := by
  rcases hextends with ⟨rest, rfl⟩
  rw [List.getElem?_append_left (List.getElem?_eq_some_iff.mp h).choose]
  exact h

/-- What an honest end has written stays written. -/
theorem FromDialer.persist {connection position : Nat} {frame : Frame}
    {link : Link P ι} (hfrom : s.FromDialer connection position frame)
    (h : s.next label = some after) (hlink : s.links connection = some link) :
    after.FromDialer connection position frame := by
  intro found k hfound hdialer
  rw [links_persist h hlink] at hfound
  injection hfound with hfound
  subst hfound
  rcases dialed_exists (hfrom link k hlink hdialer) with ⟨run, hrun, hframe⟩
  rcases dials_persist h hrun with ⟨later, hlater, hextends⟩
  rw [dialed_of_some hlater]
  exact getElem_of_prefix (hextends.trail.filterMap Milestone.frame) hframe

theorem FromAcceptor.persist {connection position : Nat} {frame : Frame}
    {link : Link P ι} (hfrom : s.FromAcceptor connection position frame)
    (h : s.next label = some after) (hlink : s.links connection = some link) :
    after.FromAcceptor connection position frame := by
  intro found k hfound hacceptor
  rw [links_persist h hlink] at hfound
  injection hfound with hfound
  subst hfound
  rcases accepted_exists (hfrom link k hlink hacceptor) with
    ⟨run, hrun, hframe⟩
  rcases accepts_persist h hrun with ⟨later, hlater, hextends⟩
  rw [accepted_of_some hlater]
  exact getElem_of_prefix (hextends.trail.filterMap Milestone.frame) hframe

/-!
# The invariant of the network
-/

/-- What a client knows of the connection it has accepted. -/
structure AcceptEnd (s : NetworkState fleet) (i : ι) (connection : Nat)
    (run : Accept P) (link : Link P ι) : Prop where
  linked : s.links connection = some link
  acceptor : link.acceptor = Party.honest i
  admitted : Admitted P run.pending (fleet.endpoint link.dialer)
  hello : s.FromDialer connection 0 (Frame.hello run.pending.hello)
  ready : run.HeardReady ->
    exists ready, s.FromDialer connection 1 (Frame.control ready)

/-- What a client knows of the connection it has dialed. -/
structure DialEnd (s : NetworkState fleet) (i : ι) (connection : Nat)
    (run : Dial P) (link : Link P ι) : Prop where
  linked : s.links connection = some link
  dialer : link.dialer = Party.honest i
  target : P.tryFromZ32 run.target.record.certificate.claims.irohEndpointId =
    some (fleet.endpoint link.acceptor)
  ack (reply : Reply) (now : UInt64) :
    Milestone.ackVerified reply now ∈ run.trail ->
    s.FromAcceptor connection 0 (Frame.ack reply.ack)
  confirmed : run.HeardConfirmed ->
    exists control, s.FromAcceptor connection 1 (Frame.control control)

/-- The nonces of signed greetings have been drawn, each for one run. -/
structure FreshNonces (s : NetworkState fleet) : Prop where
  drawn (i : ι) (connection : Nat) (run : Dial P) (greeting : Greeting) :
    (s.clients i).dials connection = some run -> run.Signed greeting ->
    greeting.hello.claims.sessionNonce ∈ s.drawn
  unique (i k : ι) (connection other : Nat) (run second : Dial P)
    (greeting later : Greeting) :
    (s.clients i).dials connection = some run -> run.Signed greeting ->
    (s.clients k).dials other = some second -> second.Signed later ->
    greeting.hello.claims.sessionNonce = later.hello.claims.sessionNonce ->
    i = k ∧ connection = other

structure Wired (s : NetworkState fleet) : Prop where
  accepts (i : ι) (connection : Nat) (run : Accept P) :
    (s.clients i).accepts connection = some run ->
    exists link, AcceptEnd s i connection run link
  dials (i : ι) (connection : Nat) (run : Dial P) :
    (s.clients i).dials connection = some run ->
    exists link, DialEnd s i connection run link
  outside (connection : Nat) (link : Link P ι) :
    s.links connection = some link ->
    Outside fleet link.dialer ∧ Outside fleet link.acceptor
  nonces : FreshNonces s

omit [DecidableEq ι] in
theorem Initial.wired (h : s.Initial) : s.Wired := by
  constructor
  · intro i connection run hrun
    rw [(h.clients i).accepts] at hrun
    cases hrun
  · intro i connection run hrun
    rw [(h.clients i).dials] at hrun
    cases hrun
  · intro connection link hlink
    rw [h.links] at hlink
    cases hlink
  · constructor
    · intro i connection run greeting hrun
      rw [(h.clients i).dials] at hrun
      cases hrun
    · intro i k connection other run second greeting later hrun
      rw [(h.clients i).dials] at hrun
      cases hrun

/-- The end of a run that has not heard anything new. -/
theorem AcceptEnd.persist {i : ι} {connection : Nat} {run later : Accept P}
    {link : Link P ι} (hend : AcceptEnd s i connection run link)
    (h : s.next label = some after) (hpending : later.pending = run.pending)
    (hheard : later.HeardReady -> run.HeardReady) :
    AcceptEnd after i connection later link := by
  constructor
  · exact links_persist h hend.linked
  · exact hend.acceptor
  · rw [hpending]
    exact hend.admitted
  · rw [hpending]
    exact hend.hello.persist h hend.linked
  · intro hready
    rcases hend.ready (hheard hready) with ⟨ready, hfrom⟩
    exact ⟨ready, hfrom.persist h hend.linked⟩

theorem DialEnd.persist {i : ι} {connection : Nat} {run later : Dial P}
    {link : Link P ι} (hend : DialEnd s i connection run link)
    (h : s.next label = some after) (htarget : later.target = run.target)
    (hack : forall reply now, Milestone.ackVerified reply now ∈ later.trail ->
      Milestone.ackVerified reply now ∈ run.trail)
    (hheard : later.HeardConfirmed -> run.HeardConfirmed) :
    DialEnd after i connection later link := by
  constructor
  · exact links_persist h hend.linked
  · exact hend.dialer
  · rw [htarget]
    exact hend.target
  · intro reply now hmem
    exact (hend.ack reply now (hack reply now hmem)).persist h hend.linked
  · intro hconfirmed
    rcases hend.confirmed (hheard hconfirmed) with ⟨control, hfrom⟩
    exact ⟨control, hfrom.persist h hend.linked⟩

theorem Wired.next_accepts (hwired : s.Wired) (hallowed : s.Environment label)
    (h : s.next label = some after) {i : ι} {connection : Nat}
    {run : Accept P} (hrun : (after.clients i).accepts connection = some run) :
    exists link, AcceptEnd after i connection run link := by
  rcases accepts_origin h hrun with hkept | ⟨clientLabel, hlabel, hcarries, horigin⟩
  · rcases hwired.accepts i connection run hkept with ⟨link, hend⟩
    exact ⟨link, hend.persist h rfl (fun hready => hready)⟩
  · subst hlabel
    have hdelivers := hallowed.left
    cases horigin with
    | kept hkept =>
        rcases hwired.accepts i connection run hkept with ⟨link, hend⟩
        exact ⟨link, hend.persist h rfl (fun hready => hready)⟩
    | admitted remoteEndpoint hello lookupAt verifyAt queuedAt hincoming
        hpending hstage htrail =>
        subst hincoming
        rcases carries_incoming hcarries with
          ⟨link, hlink, hacceptor, hremote, hearly⟩
        rcases authenticateIncomingV1_eq_ok hpending with ⟨hhello, hadmitted⟩
        have hfrom : s.FromDialer connection 0 (Frame.hello hello) := by
          apply hdelivers
          intro found hfound
          rw [hlink] at hfound
          injection hfound with hfound
          rw [← hfound]
          exact hearly
        refine ⟨link, links_persist h hlink, hacceptor, ?_, ?_, ?_⟩
        · rw [hremote]
          exact hadmitted
        · rw [hhello]
          exact hfrom.persist h hlink
        · intro hready
          rcases hready with ⟨answer, ready, hfetching⟩ | ⟨proof, now, hmem⟩
          · rw [hstage] at hfetching
            cases hfetching
          · rw [htrail] at hmem
            cases hmem
    | stepped earlier event hearlier hevent hstep =>
        subst hevent
        rcases hwired.accepts i connection earlier hearlier with ⟨link, hend⟩
        have hextends := Accept.next_extends hstep
        refine ⟨link, links_persist h hend.linked, hend.acceptor, ?_, ?_, ?_⟩
        · rw [hextends.pending]
          exact hend.admitted
        · rw [hextends.pending]
          exact hend.hello.persist h hend.linked
        · intro hready
          rcases Accept.next_heardReady hstep hready with hold | ⟨ready, hread⟩
          · rcases hend.ready hold with ⟨ready, hfrom⟩
            exact ⟨ready, hfrom.persist h hend.linked⟩
          · subst hread
            have hfrom : s.FromDialer connection 1 (Frame.control ready) :=
              hdelivers
            exact ⟨ready, hfrom.persist h hend.linked⟩
    | answered earlier result hearlier hstored =>
        subst hstored
        rcases hwired.accepts i connection earlier hearlier with ⟨link, hend⟩
        exact ⟨link, hend.persist h (earlier.stored_extends result).pending
          Accept.stored_heardReady⟩

theorem Wired.next_dials (hwired : s.Wired) (hallowed : s.Environment label)
    (h : s.next label = some after) {i : ι} {connection : Nat}
    {run : Dial P} (hrun : (after.clients i).dials connection = some run) :
    exists link, DialEnd after i connection run link := by
  rcases dials_origin h hrun with hkept | ⟨clientLabel, hlabel, hcarries, horigin⟩
  · rcases hwired.dials i connection run hkept with ⟨link, hend⟩
    exact ⟨link, hend.persist h rfl (fun _ _ hmem => hmem)
      (fun hheard => hheard)⟩
  · subst hlabel
    have hdelivers := hallowed.left
    cases horigin with
    | kept hkept =>
        rcases hwired.dials i connection run hkept with ⟨link, hend⟩
        exact ⟨link, hend.persist h rfl (fun _ _ hmem => hmem)
          (fun hheard => hheard)⟩
    | connected remoteEndpoint now hconnect hdial hstage htrail =>
        subst hconnect
        rcases carries_connect hcarries with ⟨link, hlink, hdialer, hremote⟩
        refine ⟨link, links_persist h hlink, hdialer, ?_, ?_, ?_⟩
        · rw [hremote]
          exact dialDevice_endpoint hdial
        · intro reply later hmem
          rw [htrail] at hmem
          cases hmem
        · intro hheard
          rcases hheard with ⟨_, _, _, hfound⟩ | ⟨_, _, _, _, hfound⟩ | hmem
          · rw [hstage] at hfound
            cases hfound
          · rw [hstage] at hfound
            cases hfound
          · rw [htrail] at hmem
            cases hmem
    | stepped earlier event hearlier hevent hstep =>
        subst hevent
        rcases hwired.dials i connection earlier hearlier with ⟨link, hend⟩
        have hextends := Dial.next_extends hstep
        refine ⟨link, links_persist h hend.linked, hend.dialer, ?_, ?_, ?_⟩
        · rw [hextends.target]
          exact hend.target
        · intro reply now hmem
          rcases Dial.next_ackVerified hstep hmem with hold | ⟨later, hread⟩
          · exact (hend.ack reply now hold).persist h hend.linked
          · subst hread
            have hfrom : s.FromAcceptor connection 0 (Frame.ack reply.ack) :=
              hdelivers
            exact hfrom.persist h hend.linked
        · intro hheard
          rcases Dial.next_heardConfirmed hstep hheard with hold | ⟨frame, hread⟩
          · rcases hend.confirmed hold with ⟨control, hfrom⟩
            exact ⟨control, hfrom.persist h hend.linked⟩
          · subst hread
            have hfrom : s.FromAcceptor connection 1 (Frame.control frame) :=
              hdelivers
            exact ⟨frame, hfrom.persist h hend.linked⟩
    | answered earlier result hearlier hstored =>
        subst hstored
        rcases hwired.dials i connection earlier hearlier with ⟨link, hend⟩
        exact ⟨link, hend.persist h (earlier.stored_extends result).target
          (fun _ _ => Dial.stored_ackVerified) Dial.stored_heardConfirmed⟩

/-- A signed greeting was there, or the step has drawn its nonce. -/
theorem signed_origin (h : s.next label = some after) {i : ι}
    {connection : Nat} {run : Dial P} {greeting : Greeting}
    (hrun : (after.clients i).dials connection = some run)
    (hsigned : run.Signed greeting) :
    (exists earlier, (s.clients i).dials connection = some earlier ∧
        earlier.Signed greeting) ∨
      exists now random, label = NetworkLabel.act i
          (ClientLabel.dial connection (DialEvent.greet now random)) ∧
        greeting.hello.claims.sessionNonce = v1RandomChallenge P random := by
  rcases dials_origin h hrun with hkept | ⟨clientLabel, hlabel, _, horigin⟩
  · exact Or.inl ⟨run, hkept, hsigned⟩
  · cases horigin with
    | kept hkept => exact Or.inl ⟨run, hkept, hsigned⟩
    | connected remoteEndpoint now hconnect hdial hstage htrail =>
        rcases hsigned with hgreeting | hmem
        · rw [hstage] at hgreeting
          cases hgreeting
        · rw [htrail] at hmem
          cases hmem
    | stepped earlier event hearlier hevent hstep =>
        rcases Dial.next_signed hstep hsigned with hold |
          ⟨now, random, hgreet, hnonce⟩
        · exact Or.inl ⟨earlier, hearlier, hold⟩
        · subst hevent hgreet
          exact Or.inr ⟨now, random, hlabel, hnonce⟩
    | answered earlier result hearlier hstored =>
        subst hstored
        exact Or.inl ⟨earlier, hearlier, Dial.stored_signed hsigned⟩

theorem FreshNonces.next (hfresh : FreshNonces s)
    (hallowed : s.Environment label) (h : s.next label = some after) :
    FreshNonces after := by
  -- A nonce drawn by this step belongs to no greeting signed before it.
  have hnew : forall (k : ι) (other : Nat) (second : Dial P)
      (later : Greeting) (i : ι) (connection : Nat) (now : UInt64)
      (random : P.Keypair), label = NetworkLabel.act i
        (ClientLabel.dial connection (DialEvent.greet now random)) ->
      (s.clients k).dials other = some second -> second.Signed later ->
      later.hello.claims.sessionNonce ≠ v1RandomChallenge P random := by
    intro k other second later i connection now random hlabel hsecond hsigned
      hsame
    subst hlabel
    have hdrawn := hfresh.drawn k other second later hsecond hsigned
    rw [hsame] at hdrawn
    exact hallowed.right _ (List.mem_singleton_self _) hdrawn
  constructor
  · intro i connection run greeting hrun hsigned
    rcases signed_origin h hrun hsigned with ⟨earlier, hearlier, hold⟩ |
      ⟨now, random, hlabel, hnonce⟩
    · exact drawn_persist h
        (hfresh.drawn i connection earlier greeting hearlier hold)
    · subst hlabel
      rcases next_act h with ⟨_, stepped, _, rfl⟩
      rw [hnonce]
      exact List.mem_append_right _ (List.mem_singleton_self _)
  · intro i k connection other run second greeting later hrun hsigned hsecond
      hlater hsame
    rcases signed_origin h hrun hsigned with ⟨first, hfirst, hold⟩ |
      ⟨now, random, hlabel, hnonce⟩
    · rcases signed_origin h hsecond hlater with ⟨earlier, hearlier, hold'⟩ |
        ⟨now, random, hlabel, hnonce⟩
      · exact hfresh.unique i k connection other first earlier greeting later
          hfirst hold hearlier hold' hsame
      · rw [hnonce] at hsame
        exact absurd hsame (hnew i connection first greeting k other now random
          hlabel hfirst hold)
    · rcases signed_origin h hsecond hlater with ⟨earlier, hearlier, hold⟩ |
        ⟨now', random', hlabel', _⟩
      · rw [hnonce] at hsame
        exact absurd hsame.symm (hnew k other earlier later i connection now
          random hlabel hearlier hold)
      · rw [hlabel] at hlabel'
        injection hlabel' with hi hdial
        subst hi
        injection eq_of_heq hdial with hconnection _
        exact ⟨rfl, hconnection⟩

/-- Every step of the network that the environment allows keeps it wired. -/
theorem Wired.next (hwired : s.Wired) (hallowed : s.Environment label)
    (h : s.next label = some after) : after.Wired := by
  constructor
  · intro i connection run hrun
    exact hwired.next_accepts hallowed h hrun
  · intro i connection run hrun
    exact hwired.next_dials hallowed h hrun
  · intro connection link hlink
    rcases links_origin h hlink with hold | hlabel
    · exact hwired.outside connection link hold
    · subst hlabel
      exact hallowed
  · exact hwired.nonces.next hallowed h

/-- The clients of a network keep the invariants they have on their own. -/
structure Sound (s : NetworkState fleet) : Prop where
  orderly (i : ι) : (s.clients i).Orderly
  coherent (i : ι) : (s.clients i).Coherent (fleet.member i).client

theorem Sound.next (hsound : s.Sound) (h : s.next label = some after) :
    after.Sound := by
  cases label with
  | link opened made =>
      rcases next_link h with ⟨_, rfl⟩
      exact ⟨hsound.orderly, hsound.coherent⟩
  | act i clientLabel =>
      rcases next_act h with ⟨_, stepped, hstepped, rfl⟩
      constructor
      · intro k
        by_cases hsame : k = i
        · subst hsame
          dsimp only
          rw [Function.update_self]
          exact (hsound.orderly k).next (sequenceStore_monotone _) hstepped
        · dsimp only
          rw [Function.update_of_ne hsame]
          exact hsound.orderly k
      · intro k
        by_cases hsame : k = i
        · subst hsame
          dsimp only
          rw [Function.update_self]
          exact (hsound.coherent k).next hstepped
        · dsimp only
          rw [Function.update_of_ne hsame]
          exact hsound.coherent k

theorem reachable_wired
    (h : (network fleet).ReachableWhen NetworkState.Environment s) :
    s.Wired ∧ s.Sound := by
  apply Machine.ReachableWhen.invariant (I := fun s => s.Wired ∧ s.Sound) _ _ h
  · intro s hinitial
    refine ⟨hinitial.wired, ?_, ?_⟩
    · intro i
      exact (hinitial.clients i).orderly
    · intro i
      exact (hinitial.clients i).coherent
  · intro s label after hinvariant hallowed hnext
    exact ⟨hinvariant.left.next hallowed hnext, hinvariant.right.next hnext⟩

end NetworkState

end Channel

section Agreement

variable {P : Primitives} {ι : Type} {fleet : Fleet P ι}

/-!
# From frames back to milestones
-/

theorem frame_eq_hello {milestone : Milestone} {hello : V1SignedHello}
    (h : milestone.frame = some (Frame.hello hello)) :
    exists greeting, milestone = Milestone.helloSent greeting ∧
      greeting.hello = hello := by
  cases milestone with
  | helloSent greeting =>
      injection h with h
      injection h with h
      exact ⟨greeting, rfl, h⟩
  | _ => cases h

theorem frame_eq_control {milestone : Milestone} {control : ProofControl}
    (h : milestone.frame = some (Frame.control control)) :
    milestone = Milestone.readySent control ∨
      milestone = Milestone.confirmedSent control := by
  cases milestone with
  | readySent found =>
      injection h with h
      injection h with h
      exact Or.inl (h ▸ rfl)
  | confirmedSent found =>
      injection h with h
      injection h with h
      exact Or.inr (h ▸ rfl)
  | _ => cases h

theorem milestone_of_frame {trail : List Milestone} {position : Nat}
    {frame : Frame}
    (h : (trail.filterMap Milestone.frame)[position]? = some frame) :
    exists milestone, milestone ∈ trail ∧ milestone.frame = some frame :=
  List.mem_filterMap.mp (List.mem_of_getElem? h)

theorem DialTrail.greetingFor {client : V1Client} {target : ResolvedV1Device}
    {application : String} {trail : List Milestone} {greeting : Greeting}
    (h : DialTrail P client target application trail)
    (hmem : Milestone.helloSent greeting ∈ trail) :
    GreetingFor P client target application greeting := by
  induction h with
  | start => cases hmem
  | greeted hgreets =>
      rw [List.mem_singleton, Milestone.helloSent.injEq] at hmem
      rcases hgreets with ⟨active, now, random, hsign⟩
      rw [hmem]
      exact (signGreeting_eq_ok hsign).left
  | acknowledged _ _ ih => exact ih (by simpa using hmem)
  | verified _ _ ih => exact ih (by simpa using hmem)
  | readied _ _ ih => exact ih (by simpa using hmem)
  | committed _ ih => exact ih (by simpa using hmem)
  | released _ _ ih => exact ih (by simpa using hmem)

theorem AcceptTrail.readySent_not_mem {pending : PendingV1}
    {trail : List Milestone} (h : AcceptTrail P pending trail)
    (control : ProofControl) : Milestone.readySent control ∉ trail := by
  cases h with
  | start => simp
  | acknowledged _ => simp
  | verified _ _ => simp
  | committed _ => simp
  | confirmed _ _ => simp
  | released _ _ => simp

theorem DialTrail.confirmedSent_not_mem {client : V1Client}
    {target : ResolvedV1Device} {application : String}
    {trail : List Milestone}
    (h : DialTrail P client target application trail)
    (control : ProofControl) : Milestone.confirmedSent control ∉ trail := by
  cases h with
  | start => simp
  | greeted _ => simp
  | acknowledged _ _ => simp
  | verified _ _ => simp
  | readied _ _ => simp
  | committed _ => simp
  | released _ _ => simp

/-!
# The two ends of a session
-/

/-- Two runs that agree on everything their messages bind. -/
structure SameSession (dial : Dial P) (greeting : Greeting) (reply : Reply)
    (accept : Accept P) (answer : Answer) : Prop where
  hello : accept.pending.hello = greeting.hello
  initiator : accept.pending.sender.record = greeting.senderRecord
  responder : accept.pending.target.record = dial.target.record
  application : accept.pending.hello.claims.application = dial.application
  ack : reply.ack = answer.ack
  challenge : reply.ack.claims.responderNonce = answer.challenge

namespace NetworkState

/-- The records that dials and accepted Hellos are addressed to. -/
def records (s : NetworkState fleet) : Set V1DeviceRecord :=
  { record |
    (exists i connection run, (s.clients i).dials connection = some run ∧
      run.target.record = record) ∨
    exists i connection run, (s.clients i).accepts connection = some run ∧
      run.pending.target.record = record }

/-- The digest has no collision among the records of the runs. -/
def NoCollisions (s : NetworkState fleet) : Prop :=
  Set.InjOn (fun record : V1DeviceRecord => record.digest P) s.records

/--
The responder's side of a released dial: it answered this session, and it had
verified the initiator's proof and committed its record before it confirmed.
-/
structure AnsweredBy (s : NetworkState fleet) (k : ι) (connection : Nat)
    (dial : Dial P) (greeting : Greeting) (reply : Reply) (accept : Accept P) :
    Prop where
  accepts : (s.clients k).accepts connection = some accept
  agrees : exists answer proof now ready rest,
    SameSession dial greeting reply accept answer ∧
      accept.trail = [Milestone.ackSent answer,
        Milestone.proofVerified proof now, Milestone.recordCommitted,
        Milestone.confirmedSent (confirmation answer ready)] ++ rest ∧
      ConfirmedBy P accept.pending answer proof now ready
  committed : exists attempt, attempt ∈ (s.clients k).attempts ∧
    attempt.session = SessionId.inbound connection ∧
    attempt.record = greeting.senderRecord ∧ attempt.result = Except.ok ()
  only (other : ι) (elsewhere : Nat) (second : Accept P) :
    (s.clients other).accepts elsewhere = some second ->
    second.pending.hello = greeting.hello ->
    other = k ∧ elsewhere = connection

/--
The initiator's side of a released accept: it dialed this session, and it had
verified the Ack and the responder's proof before it signalled readiness.
-/
structure DialedBy (s : NetworkState fleet) (i : ι) (connection : Nat)
    (accept : Accept P) (answer : Answer) (dial : Dial P) : Prop where
  dials : (s.clients i).dials connection = some dial
  agrees : exists greeting reply now proof later ready rest,
    SameSession dial greeting reply accept answer ∧
      dial.trail = [Milestone.helloSent greeting,
        Milestone.ackVerified reply now, Milestone.proofVerified proof later,
        Milestone.readySent ready] ++ rest ∧
      ReadiedBy P (fleet.member i).client dial.target dial.application greeting
        reply now proof later ready
  only (other : ι) (elsewhere : Nat) (second : Dial P) (greeting : Greeting) :
    (s.clients other).dials elsewhere = some second ->
    second.Signed greeting -> greeting.hello = accept.pending.hello ->
    other = i ∧ elsewhere = connection

variable {s : NetworkState fleet} {i k : ι} {connection : Nat}

/-- A key of an honest client belongs to an honest end. -/
theorem Wired.honest_of_endpoint (hwired : s.Wired) {link : Link P ι}
    (hlink : s.links connection = some link) {party : Party P ι}
    (hparty : party = link.dialer ∨ party = link.acceptor)
    (hendpoint : fleet.endpoint party = (fleet.member k).endpoint) :
    exists j, party = Party.honest j ∧
      (fleet.member j).endpoint = (fleet.member k).endpoint := by
  cases party with
  | honest j => exact ⟨j, rfl, hendpoint⟩
  | adversary endpoint =>
      rcases hwired.outside connection link hlink with ⟨hdialer, hacceptor⟩
      have houtside : Outside fleet (Party.adversary endpoint : Party P ι) := by
        rcases hparty with hdial | haccept
        · rw [hdial]
          exact hdialer
        · rw [haccept]
          exact hacceptor
      exact absurd hendpoint.symm (houtside endpoint rfl k)

/-- The Hello an accepted run has queued was sent by the dial of its link. -/
theorem Wired.dial_of_accept {accept : Accept P} {link : Link P ι}
    (hend : AcceptEnd s k connection accept link)
    (hdialer : link.dialer = Party.honest i) :
    exists dial greeting, (s.clients i).dials connection = some dial ∧
      Milestone.helloSent greeting ∈ dial.trail ∧
      greeting.hello = accept.pending.hello := by
  rcases dialed_exists (hend.hello link i hend.linked hdialer) with
    ⟨dial, hdial, hframe⟩
  rcases milestone_of_frame hframe with ⟨milestone, hmem, hmilestone⟩
  rcases frame_eq_hello hmilestone with ⟨greeting, rfl, hhello⟩
  exact ⟨dial, greeting, hdial, hmem, hhello⟩

/-- Only one accepted run, on the connection of the dial, has its Hello. -/
theorem Wired.accept_unique [P.Lawful] (hwired : s.Wired)
    (hsound : s.Sound) {dial : Dial P} {greeting : Greeting}
    (hdial : (s.clients i).dials connection = some dial)
    (hgreeting : Milestone.helloSent greeting ∈ dial.trail) {other : ι}
    {elsewhere : Nat} {second : Accept P}
    (hsecond : (s.clients other).accepts elsewhere = some second)
    (hhello : second.pending.hello = greeting.hello) :
    elsewhere = connection ∧ exists link, s.links connection = some link ∧
      link.acceptor = Party.honest other := by
  rcases hwired.accepts other elsewhere second hsecond with ⟨link, hend⟩
  have hgreets := (((hsound.coherent i).dials connection dial hdial).trail
    ).greetingFor hgreeting
  have hendpoint : fleet.endpoint link.dialer =
      (fleet.member i).endpoint := by
    have hcertified := hend.admitted.endpoint
    rw [hend.admitted.sender, hhello, hgreets.sender, hgreets.own,
      ← (fleet.member i).certified, Primitives.Lawful.tryFromZ32_z32]
      at hcertified
    injection hcertified with hcertified
    exact hcertified.symm
  rcases hwired.honest_of_endpoint hend.linked (Or.inl rfl) hendpoint with
    ⟨j, hdialer, _⟩
  rcases Wired.dial_of_accept hend hdialer with
    ⟨found, earlier, hfound, hmem, hearlier⟩
  have hnonce : earlier.hello.claims.sessionNonce =
      greeting.hello.claims.sessionNonce := by
    rw [hearlier, hhello]
  rcases hwired.nonces.unique j i elsewhere connection found dial earlier
    greeting hfound (Or.inr hmem) hdial (Or.inr hgreeting) hnonce with
    ⟨_, hconnection⟩
  subst hconnection
  exact ⟨rfl, link, hend.linked, hend.acceptor⟩

/-- A run at each end of one link, and the Ack that was read there. -/
theorem Wired.sameSession (hwired : s.Wired) (hsound : s.Sound)
    (hcollisions : s.NoCollisions) {dial : Dial P} {accept : Accept P}
    {greeting : Greeting} {reply : Reply} {answer : Answer}
    (hdial : (s.clients i).dials connection = some dial)
    (haccept : (s.clients k).accepts connection = some accept)
    (hgreeting : Milestone.helloSent greeting ∈ dial.trail)
    (hhello : accept.pending.hello = greeting.hello)
    (hanswers : Answers P accept.pending answer)
    (hack : reply.ack = answer.ack) :
    SameSession dial greeting reply accept answer := by
  have hgreets := (((hsound.coherent i).dials connection dial hdial).trail
    ).greetingFor hgreeting
  rcases hwired.accepts k connection accept haccept with ⟨link, hend⟩
  constructor
  · exact hhello
  · rw [hend.admitted.sender, hhello, hgreets.sender]
  · apply hcollisions
    · exact Or.inr ⟨k, connection, accept, haccept, rfl⟩
    · exact Or.inl ⟨i, connection, dial, hdial, rfl⟩
    · change accept.pending.target.record.digest P =
        dial.target.record.digest P
      rw [← hend.admitted.target, hhello, hgreets.target]
  · rw [hhello, hgreets.application]
  · exact hack
  · rcases hanswers with ⟨now, random, hsign⟩
    rw [hack, signAnswer_challenge hsign]

/-- Part one: a released dial has one responder, past its own barrier. -/
theorem Wired.answered [P.Lawful] (hwired : s.Wired) (hsound : s.Sound)
    (hcollisions : s.NoCollisions) {dial : Dial P} {peer : Peer}
    (hdial : (s.clients i).dials connection = some dial)
    (hpeer : Milestone.peerReleased peer ∈ dial.trail)
    (htarget : P.tryFromZ32 dial.target.record.certificate.claims.irohEndpointId
      = some (fleet.member k).endpoint) :
    exists j accept greeting reply now proof later ready,
      (fleet.member j).endpoint = (fleet.member k).endpoint ∧
      dial.trail = [Milestone.helloSent greeting,
        Milestone.ackVerified reply now, Milestone.proofVerified proof later,
        Milestone.readySent ready, Milestone.recordCommitted,
        Milestone.peerReleased peer] ∧
      AnsweredBy s j connection dial greeting reply accept := by
  rcases hwired.dials i connection dial hdial with ⟨link, hend⟩
  rcases ((hsound.coherent i).dials connection dial hdial).trail.of_released
    hpeer with ⟨greeting, reply, now, proof, later, ready, htrail, _, _⟩
  have hendpoint : fleet.endpoint link.acceptor =
      (fleet.member k).endpoint := by
    rw [hend.target] at htarget
    injection htarget
  rcases hwired.honest_of_endpoint hend.linked (Or.inr rfl) hendpoint with
    ⟨j, hacceptor, hsame⟩
  have hgreeting : Milestone.helloSent greeting ∈ dial.trail := by
    rw [htrail]
    simp
  -- The frame it took for the confirmation leads to the responder's trail.
  have hconfirmed : dial.HeardConfirmed := by
    refine Or.inr (Or.inr ?_)
    rw [htrail]
    simp
  rcases hend.confirmed hconfirmed with ⟨control, hfrom⟩
  rcases accepted_exists (hfrom link j hend.linked hacceptor) with
    ⟨accept, haccept, hframe⟩
  have hcoherent := (hsound.coherent j).accepts connection accept haccept
  rcases milestone_of_frame hframe with ⟨milestone, hmem, hmilestone⟩
  have hsent : Milestone.confirmedSent control ∈ accept.trail := by
    rcases frame_eq_control hmilestone with hready | hready
    · rw [hready] at hmem
      exact absurd hmem (hcoherent.trail.readySent_not_mem control)
    · rw [hready] at hmem
      exact hmem
  rcases hcoherent.trail.of_confirmed hsent with
    ⟨answer, proof', now', ready', rest, htrail', hcontrol, hby⟩
  -- The Ack it verified is the one the responder sent.
  have hack : reply.ack = answer.ack := by
    have hread := hend.ack reply now (by rw [htrail]; simp) link j hend.linked
      hacceptor
    rw [accepted_of_some haccept, htrail'] at hread
    injection hread with hread
    injection hread with hread
    exact hread.symm
  rcases hwired.accepts j connection accept haccept with ⟨link', hend'⟩
  have hlink : link' = link := by
    have hboth := hend'.linked
    rw [hend.linked] at hboth
    injection hboth with hboth
    exact hboth.symm
  have hhello : accept.pending.hello = greeting.hello := by
    have hread := hend'.hello link' i hend'.linked (by rw [hlink]; exact hend.dialer)
    rw [dialed_of_some hdial, htrail] at hread
    injection hread with hread
    injection hread with hread
    exact hread.symm
  have hsession := hwired.sameSession hsound hcollisions hdial haccept
    hgreeting hhello hby.answers hack
  refine ⟨j, accept, greeting, reply, now, proof, later, ready, hsame, htrail,
    haccept, ⟨answer, proof', now', ready', rest, hsession, ?_, hby⟩, ?_, ?_⟩
  · rw [htrail', hcontrol]
  · have hcommitted : accept.session.Committed := by
      change Milestone.recordCommitted ∈ accept.trail
      rw [htrail']
      simp
    have hsession' : (s.clients j).session (SessionId.inbound connection) =
        some accept.session := by
      rw [ClientState.session_inbound, haccept]
      rfl
    rcases (hsound.orderly j).committed hsession' hcommitted with
      ⟨attempt, hown, hrecord, hresult⟩
    have hattempt : attempt ∈ attemptsOf (s.clients j).attempts
        (SessionId.inbound connection) := by
      rw [hown]
      exact List.mem_singleton_self attempt
    rcases List.mem_filter.mp hattempt with ⟨hmade, hid⟩
    refine ⟨attempt, hmade, of_decide_eq_true hid, ?_, hresult⟩
    rw [hrecord]
    exact hsession.initiator
  · intro other elsewhere second hsecond hsame'
    rcases hwired.accept_unique hsound hdial hgreeting hsecond hsame' with
      ⟨helsewhere, link'', hlink'', hacceptor''⟩
    rw [hend.linked] at hlink''
    injection hlink'' with hlink''
    rw [← hlink'', hacceptor] at hacceptor''
    injection hacceptor'' with hother
    exact ⟨hother.symm, helsewhere⟩

/-- Part two: a released accept has one initiator, past its own barrier. -/
theorem Wired.dialedBy [P.Lawful] (hwired : s.Wired) (hsound : s.Sound)
    (hcollisions : s.NoCollisions) {accept : Accept P} {peer : Peer}
    (haccept : (s.clients i).accepts connection = some accept)
    (hpeer : Milestone.peerReleased peer ∈ accept.trail)
    (hsender : P.tryFromZ32
      accept.pending.sender.record.certificate.claims.irohEndpointId =
        some (fleet.member k).endpoint) :
    exists j dial answer proof now ready,
      (fleet.member j).endpoint = (fleet.member k).endpoint ∧
      accept.trail = [Milestone.ackSent answer,
        Milestone.proofVerified proof now, Milestone.recordCommitted,
        Milestone.confirmedSent (confirmation answer ready),
        Milestone.peerReleased peer] ∧
      DialedBy s j connection accept answer dial := by
  rcases hwired.accepts i connection accept haccept with ⟨link, hend⟩
  rcases ((hsound.coherent i).accepts connection accept haccept
    ).trail.of_released hpeer with
    ⟨answer, proof, now, ready, htrail, hby, _⟩
  have hendpoint : fleet.endpoint link.dialer =
      (fleet.member k).endpoint := by
    rw [hend.admitted.endpoint] at hsender
    injection hsender
  rcases hwired.honest_of_endpoint hend.linked (Or.inl rfl) hendpoint with
    ⟨j, hdialer, hsame⟩
  -- The frame it took for the signal leads to the initiator's trail.
  have hready : accept.HeardReady := by
    refine Or.inr ⟨proof, now, ?_⟩
    rw [htrail]
    simp
  rcases hend.ready hready with ⟨control, hfrom⟩
  rcases dialed_exists (hfrom link j hend.linked hdialer) with
    ⟨dial, hdial, hframe⟩
  have hcoherent := (hsound.coherent j).dials connection dial hdial
  rcases milestone_of_frame hframe with ⟨milestone, hmem, hmilestone⟩
  have hsent : Milestone.readySent control ∈ dial.trail := by
    rcases frame_eq_control hmilestone with hfound | hfound
    · rw [hfound] at hmem
      exact hmem
    · rw [hfound] at hmem
      exact absurd hmem (hcoherent.trail.confirmedSent_not_mem control)
  rcases hcoherent.trail.of_readied hsent with
    ⟨greeting, reply, earlier, found, later, rest, htrail', hreadied⟩
  have hgreeting : Milestone.helloSent greeting ∈ dial.trail := by
    rw [htrail']
    simp
  have hhello : accept.pending.hello = greeting.hello := by
    have hread := hend.hello link j hend.linked hdialer
    rw [dialed_of_some hdial, htrail'] at hread
    injection hread with hread
    injection hread with hread
    exact hread.symm
  rcases hwired.dials j connection dial hdial with ⟨link', hend'⟩
  have hlink : link' = link := by
    have hboth := hend'.linked
    rw [hend.linked] at hboth
    injection hboth with hboth
    exact hboth.symm
  have hack : reply.ack = answer.ack := by
    have hread := hend'.ack reply earlier (by rw [htrail']; simp) link' i
      hend'.linked (by rw [hlink]; exact hend.acceptor)
    rw [accepted_of_some haccept, htrail] at hread
    injection hread with hread
    injection hread with hread
    exact hread.symm
  refine ⟨j, dial, answer, proof, now, ready, hsame, htrail, hdial,
    ⟨greeting, reply, earlier, found, later, control, rest, ?_, htrail',
      hreadied⟩, ?_⟩
  · exact hwired.sameSession hsound hcollisions hdial haccept hgreeting hhello
      hby.answers hack
  · intro other elsewhere second other' hsecond hsigned hsame'
    apply hwired.nonces.unique other j elsewhere connection second dial other'
      greeting hsecond hsigned hdial (Or.inr hgreeting)
    rw [hsame', hhello]

end NetworkState

end Agreement

end Client
end Pubky2Pubky
