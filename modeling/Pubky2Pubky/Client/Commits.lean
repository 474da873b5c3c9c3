import Pubky2Pubky.Client.Sessions

/-!
# The commits of a handshake

Both sides of the exchange meet the store in the same way: a run is early, waits
for the store, or is late, and only the answer of the store lets it pass its
commit.
-/

namespace Pubky2Pubky
namespace Client

open Foundation Protocol

variable {P : Primitives} {S : SequenceStore P}

/-!
# Sessions
-/

/-- A run before its commit, with the store, or past its only commit. -/
inductive Phase where
  | early
  | storing
  | late
  deriving DecidableEq

def AcceptStage.phase : AcceptStage P -> Phase
  | AcceptStage.queued => Phase.early
  | AcceptStage.publishing _ => Phase.early
  | AcceptStage.acknowledging _ => Phase.early
  | AcceptStage.awaitingReady _ => Phase.early
  | AcceptStage.fetching _ _ => Phase.early
  | AcceptStage.committing _ _ => Phase.early
  | AcceptStage.storing _ _ _ => Phase.storing
  | AcceptStage.confirming _ _ => Phase.late
  | AcceptStage.deleting _ _ => Phase.late
  | AcceptStage.released _ _ _ => Phase.late
  | AcceptStage.failed _ => Phase.late

def DialStage.phase : DialStage P -> Phase
  | DialStage.connected => Phase.early
  | DialStage.greeting _ => Phase.early
  | DialStage.awaitingAck _ => Phase.early
  | DialStage.publishing _ _ => Phase.early
  | DialStage.fetching _ _ _ => Phase.early
  | DialStage.signalling _ _ _ => Phase.early
  | DialStage.awaitingConfirmed _ _ _ => Phase.early
  | DialStage.committing _ _ _ => Phase.early
  | DialStage.storing _ _ _ _ => Phase.storing
  | DialStage.deleting _ _ _ => Phase.late
  | DialStage.released _ _ _ _ => Phase.late
  | DialStage.failed _ => Phase.late

/-- What the commits of a handshake depend on, on either side. -/
structure Session where
  phase : Phase
  trail : List Milestone
  remote : V1DeviceRecord

def Session.Committed (session : Session) : Prop :=
  Milestone.recordCommitted ∈ session.trail

def Session.Released (session : Session) : Prop :=
  exists peer, Milestone.peerReleased peer ∈ session.trail

def Accept.session (run : Accept P) : Session :=
  { phase := run.stage.phase
    trail := run.trail
    remote := run.pending.sender.record }

def Dial.session (run : Dial P) : Session :=
  { phase := run.stage.phase
    trail := run.trail
    remote := run.target.record }

def ClientState.session (s : ClientState S) : SessionId -> Option Session
  | SessionId.inbound connection => (s.accepts connection).map Accept.session
  | SessionId.outbound connection => (s.dials connection).map Dial.session

/-- An await other than the answer of the store. -/
structure Session.Advances (P : Primitives) (before after : Session)
    (submitted : Option (AuthenticatedSequenceObservation P)) : Prop where
  remote : after.remote = before.remote
  committed : after.Committed <-> before.Committed
  early : after.phase = Phase.early -> before.phase = Phase.early
  submits : after.phase = Phase.storing ->
    before.phase = Phase.early ∧ exists observation,
      submitted = some observation ∧
        recordObservation P before.remote = Except.ok observation
  idle : after.phase ≠ Phase.storing -> submitted = none

/-- The answer of the store reaches the run only while it waits for it. -/
structure Session.Answered (before after : Session) (succeeded : Prop) :
    Prop where
  remote : after.remote = before.remote
  waited : before.phase = Phase.storing ->
    after.phase = Phase.late ∧
      (after.Committed <-> before.Committed ∨ succeeded)
  ignored : before.phase ≠ Phase.storing -> after = before

theorem Session.committed_append {before after : Session}
    {passed : List Milestone} (htrail : after.trail = before.trail ++ passed)
    (hpassed : Milestone.recordCommitted ∉ passed) :
    after.Committed <-> before.Committed := by
  unfold Session.Committed
  rw [htrail, List.mem_append]
  exact or_iff_left hpassed

theorem Session.advances_early {before after : Session}
    {passed : List Milestone} (hremote : after.remote = before.remote)
    (htrail : after.trail = before.trail ++ passed)
    (hpassed : Milestone.recordCommitted ∉ passed)
    (hbefore : before.phase = Phase.early)
    (hafter : after.phase = Phase.early) :
    Session.Advances P before after none := by
  constructor
  · exact hremote
  · exact Session.committed_append htrail hpassed
  · intro _
    exact hbefore
  · intro hstoring
    rw [hafter] at hstoring
    cases hstoring
  · intro _
    rfl

/-- The await that hands an observation to the store. -/
theorem Session.advances_storing {before after : Session}
    {observation : AuthenticatedSequenceObservation P}
    (hremote : after.remote = before.remote)
    (htrail : after.trail = before.trail ++ [])
    (hbefore : before.phase = Phase.early)
    (hafter : after.phase = Phase.storing)
    (hobservation : recordObservation P before.remote =
      Except.ok observation) :
    Session.Advances P before after (some observation) := by
  constructor
  · exact hremote
  · exact Session.committed_append htrail List.not_mem_nil
  · intro _
    exact hbefore
  · intro _
    exact ⟨hbefore, observation, rfl, hobservation⟩
  · intro hidle
    exact absurd hafter hidle

theorem Session.advances_late {before after : Session}
    {passed : List Milestone} (hremote : after.remote = before.remote)
    (htrail : after.trail = before.trail ++ passed)
    (hpassed : Milestone.recordCommitted ∉ passed)
    (hafter : after.phase = Phase.late) :
    Session.Advances P before after none := by
  constructor
  · exact hremote
  · exact Session.committed_append htrail hpassed
  · intro hearly
    rw [hafter] at hearly
    cases hearly
  · intro hstoring
    rw [hafter] at hstoring
    cases hstoring
  · intro _
    rfl

/-- A waiting run moves on with one milestone on success and none otherwise. -/
theorem Session.answered_of_passed {before after : Session}
    {passed : List Milestone} {succeeded : Prop}
    (hwaits : before.phase = Phase.storing) (hphase : after.phase = Phase.late)
    (hremote : after.remote = before.remote)
    (htrail : after.trail = before.trail ++ passed)
    (hpassed : Milestone.recordCommitted ∈ passed <-> succeeded) :
    Session.Answered before after succeeded := by
  constructor
  · exact hremote
  · intro _
    refine ⟨hphase, ?_⟩
    unfold Session.Committed
    rw [htrail, List.mem_append, hpassed]
  · intro hidle
    exact absurd hwaits hidle

theorem Session.answered_ignored {session : Session} {succeeded : Prop}
    (hidle : session.phase ≠ Phase.storing) :
    Session.Answered session session succeeded := by
  constructor
  · rfl
  · intro hwaits
    exact absurd hwaits hidle
  · intro _
    rfl

theorem remoteObservation_eq_ok {device : ResolvedV1Device} {now : UInt64}
    {allowInsecureLoopbackRelay : Bool}
    {observation : AuthenticatedSequenceObservation P}
    (h : remoteObservation P device now allowInsecureLoopbackRelay =
      Except.ok observation) :
    recordObservation P device.record = Except.ok observation := by
  unfold remoteObservation at h
  simp only [bind_eq_ok, exists_unit] at h
  rcases h with ⟨_, _, _, _, hobservation⟩
  exact hobservation

theorem remoteObservation_of_ok {device : ResolvedV1Device} {now : UInt64}
    {allowInsecureLoopbackRelay : Bool}
    {observation : AuthenticatedSequenceObservation P}
    (hverify : device.record.verify P device.record.certificate.claims.identity
      now allowInsecureLoopbackRelay none = Except.ok ())
    (hpath : device.record.path P = Except.ok device.path)
    (hobservation : recordObservation P device.record =
      Except.ok observation) :
    remoteObservation P device now allowInsecureLoopbackRelay =
      Except.ok observation := by
  unfold remoteObservation
  simp only [bind_eq_ok, exists_unit, rejectIf_eq_ok, fromProtocol_eq_ok]
  exact ⟨hverify, device.path, hpath, not_not.mpr rfl, hobservation⟩

namespace Accept

theorem next_advances {run after : Accept P} {resolverAllowsLoopback : Bool}
    {event : AcceptEvent P}
    (h : run.next resolverAllowsLoopback event = some after) :
    Session.Advances P run.session after.session after.stage.submitted := by
  rcases next_moved h with ⟨stage, passed, rfl, hstep⟩
  cases hstep with
  | signed hstage _ =>
      exact Session.advances_early rfl rfl (by simp)
        (congrArg AcceptStage.phase hstage) rfl
  | published hstage =>
      exact Session.advances_early rfl rfl (by simp)
        (congrArg AcceptStage.phase hstage) rfl
  | acknowledged hstage =>
      exact Session.advances_early rfl rfl (by simp)
        (congrArg AcceptStage.phase hstage) rfl
  | readied hstage _ =>
      exact Session.advances_early rfl rfl (by simp)
        (congrArg AcceptStage.phase hstage) rfl
  | verified hstage _ =>
      exact Session.advances_early rfl rfl (by simp)
        (congrArg AcceptStage.phase hstage) rfl
  | submitted hstage hobservation =>
      exact Session.advances_storing rfl rfl (congrArg AcceptStage.phase hstage) rfl
        (remoteObservation_eq_ok hobservation)
  | confirmed hstage => exact Session.advances_late rfl rfl (by simp) rfl
  | released hstage _ => exact Session.advances_late rfl rfl (by simp) rfl
  | cleaned answer error => exact Session.advances_late rfl rfl (by simp) rfl
  | failed error => exact Session.advances_late rfl rfl (by simp) rfl

theorem stored_answered (run : Accept P) (result : ClientResult Unit) :
    Session.Answered run.session (run.stored result).session
      (result = Except.ok ()) := by
  have hheard := run.stored_heard result
  generalize run.stored result = after at hheard ⊢
  cases hheard with
  | committed hstage =>
      exact Session.answered_of_passed (congrArg AcceptStage.phase hstage) rfl
        rfl rfl (by simp)
  | refused error hstage =>
      exact Session.answered_of_passed (congrArg AcceptStage.phase hstage) rfl
        rfl rfl (by simp)
  | ignored result hidle =>
      apply Session.answered_ignored
      unfold session
      cases hstage : run.stage with
      | storing answer ready observation =>
          exact absurd hstage (hidle answer ready observation)
      | _ =>
          intro hphase
          cases hphase

end Accept

namespace Dial

variable {client : V1Client} {active : ActiveRecords}

theorem next_advances {run after : Dial P} {event : DialEvent P}
    (h : run.next client active event = some after) :
    Session.Advances P run.session after.session after.stage.submitted := by
  rcases next_moved h with ⟨stage, passed, rfl, hstep⟩
  cases hstep with
  | signed hstage _ =>
      exact Session.advances_early rfl rfl (by simp)
        (congrArg DialStage.phase hstage) rfl
  | greeted hstage =>
      exact Session.advances_early rfl rfl (by simp)
        (congrArg DialStage.phase hstage) rfl
  | acknowledged hstage _ =>
      exact Session.advances_early rfl rfl (by simp)
        (congrArg DialStage.phase hstage) rfl
  | published hstage _ =>
      exact Session.advances_early rfl rfl (by simp)
        (congrArg DialStage.phase hstage) rfl
  | verified hstage _ =>
      exact Session.advances_early rfl rfl (by simp)
        (congrArg DialStage.phase hstage) rfl
  | readied hstage =>
      exact Session.advances_early rfl rfl (by simp)
        (congrArg DialStage.phase hstage) rfl
  | confirmed hstage =>
      exact Session.advances_early rfl rfl (by simp)
        (congrArg DialStage.phase hstage) rfl
  | submitted hstage hobservation =>
      exact Session.advances_storing rfl rfl (congrArg DialStage.phase hstage) rfl
        (remoteObservation_eq_ok hobservation)
  | released hstage _ => exact Session.advances_late rfl rfl (by simp) rfl
  | cleaned greeting reply error => exact Session.advances_late rfl rfl (by simp) rfl
  | failed error => exact Session.advances_late rfl rfl (by simp) rfl

theorem stored_answered (run : Dial P) (result : ClientResult Unit) :
    Session.Answered run.session (run.stored result).session
      (result = Except.ok ()) := by
  have hheard := run.stored_heard result
  generalize run.stored result = after at hheard ⊢
  cases hheard with
  | committed hstage =>
      exact Session.answered_of_passed (congrArg DialStage.phase hstage) rfl
        rfl rfl (by simp)
  | refused error hstage =>
      exact Session.answered_of_passed (congrArg DialStage.phase hstage) rfl
        rfl rfl (by simp)
  | ignored result hidle =>
      apply Session.answered_ignored
      unfold session
      cases hstage : run.stage with
      | storing greeting reply ready observation =>
          exact absurd hstage (hidle greeting reply ready observation)
      | _ =>
          intro hphase
          cases hphase

end Dial

end Client
end Pubky2Pubky
