import Pubky2Pubky.Foundation.Lease
import Pubky2Pubky.Foundation.Machine
import Pubky2Pubky.Protocol.Acceptance
import Pubky2Pubky.Protocol.Reference
import Pubky2Pubky.Client.Handshake

/-!
# Cleaning up published proofs

Each side publishes its own currentness proof and deletes it after the exchange. A
run logs the publications that returned and the calls of the deletion. The
deletion is called when a run enters its deleting stage; what it returns does not
matter. A run that is dropped from outside does not return and is left out.
-/

namespace Pubky2Pubky
namespace Client

open Foundation Protocol

/-- A run with its publications that returned and its calls of the deletion. -/
structure ProofLog (Run : Type) where
  run : Run
  published : List V1SignedCurrentnessProof
  deleted : List V1SignedCurrentnessProof

def ProofLog.CleanedUp {Run : Type} (s : ProofLog Run) : Prop :=
  Lease.Settled s.published s.deleted

def ProofLog.advance {Run : Type} (s : ProofLog Run) (run : Run)
    (published deleted : List V1SignedCurrentnessProof) : ProofLog Run :=
  { run := run
    published := s.published ++ published
    deleted := s.deleted ++ deleted }

section Runs

variable {P : Primitives}

/-!
# Responder runs
-/

def AcceptStage.lease : AcceptStage P -> Lease.Phase V1SignedCurrentnessProof
  | AcceptStage.queued => Lease.Phase.free
  | AcceptStage.publishing _ => Lease.Phase.free
  | AcceptStage.acknowledging answer => Lease.Phase.held answer.proof
  | AcceptStage.awaitingReady answer => Lease.Phase.held answer.proof
  | AcceptStage.fetching answer _ => Lease.Phase.held answer.proof
  | AcceptStage.committing answer _ => Lease.Phase.held answer.proof
  | AcceptStage.storing answer _ _ => Lease.Phase.held answer.proof
  | AcceptStage.confirming answer _ => Lease.Phase.held answer.proof
  | AcceptStage.deleting _ _ => Lease.Phase.spent
  | AcceptStage.released _ _ _ => Lease.Phase.spent
  | AcceptStage.failed _ => Lease.Phase.spent

/-- What an await of `accept_pending` returns; the store answers the commit. -/
inductive AcceptOutcome (P : Primitives) where
  | event (event : AcceptEvent P)
  | stored (result : ClientResult Unit)

namespace Accept

def outcome (run : Accept P) (resolverAllowsLoopback : Bool) :
    AcceptOutcome P -> Option (Accept P)
  | AcceptOutcome.event AcceptEvent.abandoned => none
  | AcceptOutcome.event event => run.next resolverAllowsLoopback event
  | AcceptOutcome.stored result =>
      match run.stage with
      | AcceptStage.storing _ _ _ => some (run.stored result)
      | _ => none

/-- The publication that returns with this outcome. -/
def publishes (run : Accept P) : AcceptOutcome P -> List V1SignedCurrentnessProof
  | AcceptOutcome.event AcceptEvent.published =>
      match run.stage with
      | AcceptStage.publishing answer => [answer.proof]
      | _ => []
  | _ => []

def deletes (run : Accept P) : List V1SignedCurrentnessProof :=
  match run.stage with
  | AcceptStage.deleting answer _ => [answer.proof]
  | _ => []

def Returned (run : Accept P) : Prop :=
  (exists answer ready peer, run.stage = AcceptStage.released answer ready peer) ∨
    exists error, run.stage = AcceptStage.failed error

end Accept

def acceptCleanup (P : Primitives) (resolverAllowsLoopback : Bool) :
    Machine (ProofLog (Accept P)) (AcceptOutcome P) where
  initial s := s.run.stage = AcceptStage.queued ∧ s.published = [] ∧ s.deleted = []
  next s outcome := (s.run.outcome resolverAllowsLoopback outcome).map fun after =>
    s.advance after (s.run.publishes outcome) after.deletes

/-- The timeout does not elapse between the publication and the cleanup. -/
def Accept.Undisturbed (run : Accept P) (outcome : AcceptOutcome P) : Prop :=
  outcome = AcceptOutcome.event AcceptEvent.elapsed ->
    forall proof, run.stage.lease ≠ Lease.Phase.held proof

/-- Only the timeout can lose a proof. -/
theorem Accept.undisturbed_of_ne {run : Accept P} {outcome : AcceptOutcome P}
    (h : outcome ≠ AcceptOutcome.event AcceptEvent.elapsed) :
    run.Undisturbed outcome :=
  fun heq => absurd heq h

/-!
# Initiator runs
-/

def DialStage.lease : DialStage P -> Lease.Phase V1SignedCurrentnessProof
  | DialStage.connected => Lease.Phase.free
  | DialStage.greeting _ => Lease.Phase.free
  | DialStage.awaitingAck _ => Lease.Phase.free
  | DialStage.publishing _ _ => Lease.Phase.free
  | DialStage.fetching _ reply _ => Lease.Phase.held reply.proof
  | DialStage.signalling _ reply _ => Lease.Phase.held reply.proof
  | DialStage.awaitingConfirmed _ reply _ => Lease.Phase.held reply.proof
  | DialStage.committing _ reply _ => Lease.Phase.held reply.proof
  | DialStage.storing _ reply _ _ => Lease.Phase.held reply.proof
  | DialStage.deleting _ _ _ => Lease.Phase.spent
  | DialStage.released _ _ _ _ => Lease.Phase.spent
  | DialStage.failed _ => Lease.Phase.spent

/-- What an await of `finish_outbound_handshake` returns. -/
inductive DialOutcome (P : Primitives) where
  | event (active : ActiveRecords) (event : DialEvent P)
  | stored (result : ClientResult Unit)

namespace Dial

def outcome (run : Dial P) (client : V1Client) : DialOutcome P -> Option (Dial P)
  | DialOutcome.event _ DialEvent.abandoned => none
  | DialOutcome.event active event => run.next client active event
  | DialOutcome.stored result =>
      match run.stage with
      | DialStage.storing _ _ _ _ => some (run.stored result)
      | _ => none

def publishes (run : Dial P) : DialOutcome P -> List V1SignedCurrentnessProof
  | DialOutcome.event _ DialEvent.published =>
      match run.stage with
      | DialStage.publishing _ reply => [reply.proof]
      | _ => []
  | _ => []

def deletes (run : Dial P) : List V1SignedCurrentnessProof :=
  match run.stage with
  | DialStage.deleting _ reply _ => [reply.proof]
  | _ => []

def Returned (run : Dial P) : Prop :=
  (exists greeting reply ready peer,
    run.stage = DialStage.released greeting reply ready peer) ∨
    exists error, run.stage = DialStage.failed error

end Dial

def dialCleanup (P : Primitives) (client : V1Client) :
    Machine (ProofLog (Dial P)) (DialOutcome P) where
  initial s :=
    s.run.stage = DialStage.connected ∧ s.published = [] ∧ s.deleted = []
  next s outcome := (s.run.outcome client outcome).map fun after =>
    s.advance after (s.run.publishes outcome) after.deletes

def Dial.Undisturbed (run : Dial P) (outcome : DialOutcome P) : Prop :=
  forall active, outcome = DialOutcome.event active DialEvent.elapsed ->
    forall proof, run.stage.lease ≠ Lease.Phase.held proof

/-!
# What an outcome does to the proof
-/

/-- What a move does to the proof of its side, whichever side it is. -/
theorem lease_of_move {Run Stage : Type} {stageOf : Run -> Stage}
    {lease : Stage -> Lease.Phase V1SignedCurrentnessProof}
    {deletes : Run -> List V1SignedCurrentnessProof} {run moved after : Run}
    {stage : Stage} {published : List V1SignedCurrentnessProof}
    (h : some moved = some after) (hstage : stageOf run = stage)
    (hstep : Lease.Step (lease stage) published (deletes moved)
      (lease (stageOf moved))) :
    Lease.Step (lease (stageOf run)) published (deletes after)
      (lease (stageOf after)) := by
  injection h with h
  rw [hstage, ← h]
  exact hstep

namespace Accept

variable {run after : Accept P} {resolverAllowsLoopback : Bool}

theorem interrupted_lease {error : ClientError}
    (h : run.interrupted error = some after) :
    Lease.Step run.stage.lease [] after.deletes after.stage.lease := by
  unfold interrupted failExchange at h
  split at h
  case h_1 hstage =>
    exact lease_of_move h hstage Lease.Step.giveUp
  case h_2 answer hstage =>
    exact lease_of_move h hstage Lease.Step.giveUp
  case h_9 => cases h
  all_goals
    rename_i hstage
    exact lease_of_move h hstage (Lease.Step.giveBack _)

theorem elapsed_lease (h : run.elapsed = some after) :
    (exists proof, run.stage.lease = Lease.Phase.held proof) ∧
      after.deletes = [] ∧ exists error, after.stage = AcceptStage.failed error := by
  unfold elapsed at h
  split at h
  case h_6 hqueued hpublishing hdeleting hreleased hfailed =>
    injection h with h
    subst h
    refine ⟨?_, rfl, _, rfl⟩
    cases hstage : run.stage with
    | queued => exact absurd hstage hqueued
    | publishing answer => exact absurd hstage (hpublishing answer)
    | acknowledging answer => exact ⟨answer.proof, rfl⟩
    | awaitingReady answer => exact ⟨answer.proof, rfl⟩
    | fetching answer ready => exact ⟨answer.proof, rfl⟩
    | committing answer ready => exact ⟨answer.proof, rfl⟩
    | storing answer ready observation => exact ⟨answer.proof, rfl⟩
    | confirming answer ready => exact ⟨answer.proof, rfl⟩
    | deleting answer exchange => exact absurd hstage (hdeleting answer exchange)
    | released answer ready peer => exact absurd hstage (hreleased answer ready peer)
    | failed error => exact absurd hstage (hfailed error)
  all_goals cases h

/-- Every other outcome is a step of the lease. -/
theorem outcome_lease {outcome : AcceptOutcome P}
    (h : run.outcome resolverAllowsLoopback outcome = some after)
    (htime : outcome ≠ AcceptOutcome.event AcceptEvent.elapsed) :
    Lease.Step run.stage.lease (run.publishes outcome) after.deletes
      after.stage.lease := by
  cases outcome with
  | stored result =>
      unfold Accept.outcome at h
      dsimp only at h
      split at h
      · rename_i answer ready observation hstage
        unfold stored failExchange at h
        rw [hstage] at h
        cases result with
        | ok value => exact lease_of_move h hstage (Lease.Step.wait _)
        | error e => exact lease_of_move h hstage (Lease.Step.giveBack _)
      · cases h
  | event event =>
      cases event with
      | consent now random =>
          change run.consent now random = some after at h
          unfold consent at h
          split at h
          · rename_i hstage
            split at h
            · exact lease_of_move h hstage (Lease.Step.wait _)
            · exact lease_of_move h hstage Lease.Step.giveUp
          · cases h
      | published =>
          change run.published = some after at h
          unfold published at h
          split at h
          · rename_i answer hstage
            have hproof : run.publishes (AcceptOutcome.event AcceptEvent.published) =
                [answer.proof] := by
              unfold publishes
              rw [hstage]
            rw [hproof]
            exact lease_of_move h hstage (Lease.Step.take _)
          · cases h
      | written =>
          change run.written = some after at h
          unfold written at h
          split at h
          · rename_i answer hstage
            exact lease_of_move h hstage (Lease.Step.wait _)
          · rename_i answer ready hstage
            exact lease_of_move h hstage (Lease.Step.giveBack _)
          · cases h
      | received ready =>
          change run.received ready = some after at h
          unfold received failExchange at h
          split at h
          · rename_i answer hstage
            split at h
            · exact lease_of_move h hstage (Lease.Step.wait _)
            · exact lease_of_move h hstage (Lease.Step.giveBack _)
          · cases h
      | fetched proof now =>
          change run.fetched proof now = some after at h
          unfold fetched failExchange at h
          split at h
          · rename_i answer ready hstage
            split at h
            · exact lease_of_move h hstage (Lease.Step.wait _)
            · exact lease_of_move h hstage (Lease.Step.giveBack _)
          · cases h
      | commit now =>
          change run.commit now resolverAllowsLoopback = some after at h
          unfold commit failExchange at h
          split at h
          · rename_i answer ready hstage
            split at h
            · exact lease_of_move h hstage (Lease.Step.wait _)
            · exact lease_of_move h hstage (Lease.Step.giveBack _)
          · cases h
      | deleted =>
          change run.deleted = some after at h
          unfold deleted at h
          split at h
          · rename_i answer ready hstage
            split at h
            · exact lease_of_move h hstage (Lease.Step.wait _)
            · exact lease_of_move h hstage (Lease.Step.wait _)
          · rename_i answer e hstage
            exact lease_of_move h hstage (Lease.Step.wait _)
          · cases h
      | interrupted error => exact interrupted_lease h
      | elapsed => exact absurd rfl htime
      | abandoned => cases h

end Accept

namespace Dial

variable {run after : Dial P} {client : V1Client}

theorem interrupted_lease {error : ClientError}
    (h : run.interrupted error = some after) :
    Lease.Step run.stage.lease [] after.deletes after.stage.lease := by
  unfold interrupted failExchange fail at h
  split at h
  case h_1 hstage =>
    exact lease_of_move h hstage Lease.Step.giveUp
  case h_2 greeting hstage =>
    exact lease_of_move h hstage Lease.Step.giveUp
  case h_3 greeting hstage =>
    exact lease_of_move h hstage Lease.Step.giveUp
  case h_4 greeting reply hstage =>
    exact lease_of_move h hstage Lease.Step.giveUp
  case h_10 => cases h
  all_goals
    rename_i hstage
    exact lease_of_move h hstage (Lease.Step.giveBack _)

/-- The outer timeout may also elapse before the proof is published and after. -/
theorem elapsed_lease (h : run.elapsed = some after) :
    after.deletes = [] ∧ exists error, after.stage = DialStage.failed error := by
  unfold elapsed fail at h
  split at h
  case h_4 =>
    injection h with h
    subst h
    exact ⟨rfl, _, rfl⟩
  all_goals cases h

/-- While no proof is held, the outer timeout is a step of the lease as well. -/
theorem elapsed_lease_of_not_held (h : run.elapsed = some after)
    (hheld : forall proof, run.stage.lease ≠ Lease.Phase.held proof) :
    Lease.Step run.stage.lease [] after.deletes after.stage.lease := by
  rcases elapsed_lease h with ⟨hdeletes, error, hstage⟩
  rw [hdeletes, hstage]
  cases hphase : run.stage.lease with
  | free => exact Lease.Step.giveUp
  | held proof => exact absurd hphase (hheld proof)
  | spent => exact Lease.Step.wait _

theorem outcome_lease {outcome : DialOutcome P}
    (h : run.outcome client outcome = some after)
    (htime : forall active, outcome ≠ DialOutcome.event active DialEvent.elapsed) :
    Lease.Step run.stage.lease (run.publishes outcome) after.deletes
      after.stage.lease := by
  cases outcome with
  | stored result =>
      unfold Dial.outcome at h
      dsimp only at h
      split at h
      · rename_i greeting reply ready observation hstage
        unfold stored failExchange at h
        rw [hstage] at h
        cases result with
        | ok value => exact lease_of_move h hstage (Lease.Step.giveBack _)
        | error e => exact lease_of_move h hstage (Lease.Step.giveBack _)
      · cases h
  | event active event =>
      cases event with
      | greet now random =>
          change run.greet client active now random = some after at h
          unfold greet fail at h
          split at h
          · rename_i hstage
            split at h
            · exact lease_of_move h hstage (Lease.Step.wait _)
            · exact lease_of_move h hstage Lease.Step.giveUp
          · cases h
      | written =>
          change run.written = some after at h
          unfold written at h
          split at h
          · rename_i greeting hstage
            exact lease_of_move h hstage (Lease.Step.wait _)
          · rename_i greeting reply ready hstage
            exact lease_of_move h hstage (Lease.Step.wait _)
          · cases h
      | acknowledged ack now =>
          change run.acknowledged client ack now = some after at h
          unfold acknowledged fail at h
          split at h
          · rename_i greeting hstage
            split at h
            · exact lease_of_move h hstage (Lease.Step.wait _)
            · exact lease_of_move h hstage Lease.Step.giveUp
          · cases h
      | published =>
          change run.published = some after at h
          unfold published failExchange at h
          split at h
          · rename_i greeting reply hstage
            have hproof : run.publishes
                (DialOutcome.event active DialEvent.published) = [reply.proof] := by
              unfold publishes
              rw [hstage]
            rw [hproof]
            split at h
            · exact lease_of_move h hstage (Lease.Step.take _)
            · exact lease_of_move h hstage (Lease.Step.bounce _)
          · cases h
      | fetched proof now =>
          change run.fetched client proof now = some after at h
          unfold fetched failExchange at h
          split at h
          · rename_i greeting reply ready hstage
            split at h
            · exact lease_of_move h hstage (Lease.Step.wait _)
            · exact lease_of_move h hstage (Lease.Step.giveBack _)
          · cases h
      | confirmed frame =>
          change run.confirmed frame = some after at h
          unfold confirmed failExchange at h
          split at h
          · rename_i greeting reply ready hstage
            split at h
            · exact lease_of_move h hstage (Lease.Step.wait _)
            · exact lease_of_move h hstage (Lease.Step.giveBack _)
          · cases h
      | commit now =>
          change run.commit now client.resolverAllowsLoopback = some after at h
          unfold commit failExchange at h
          split at h
          · rename_i greeting reply ready hstage
            split at h
            · exact lease_of_move h hstage (Lease.Step.wait _)
            · exact lease_of_move h hstage (Lease.Step.giveBack _)
          · cases h
      | deleted =>
          change run.deleted = some after at h
          unfold deleted fail at h
          split at h
          · rename_i greeting reply ready hstage
            split at h
            · exact lease_of_move h hstage (Lease.Step.wait _)
            · exact lease_of_move h hstage (Lease.Step.wait _)
          · rename_i greeting reply e hstage
            exact lease_of_move h hstage (Lease.Step.wait _)
          · cases h
      | interrupted error => exact interrupted_lease h
      | elapsed => exact absurd rfl (htime active)
      | abandoned => cases h

end Dial

/-!
# Whole runs
-/

theorem Accept.Returned.spent {run : Accept P} (h : run.Returned) :
    run.stage.lease = Lease.Phase.spent := by
  rcases h with ⟨answer, ready, peer, hstage⟩ | ⟨error, hstage⟩
  · rw [hstage]
    rfl
  · rw [hstage]
    rfl

theorem Dial.Returned.spent {run : Dial P} (h : run.Returned) :
    run.stage.lease = Lease.Phase.spent := by
  rcases h with ⟨greeting, reply, ready, peer, hstage⟩ | ⟨error, hstage⟩
  · rw [hstage]
    rfl
  · rw [hstage]
    rfl

/-- The log agrees with the phase of the run. -/
def ProofLog.Agrees {Run : Type} (s : ProofLog Run)
    (phase : Lease.Phase V1SignedCurrentnessProof) : Prop :=
  Lease.Current phase s.published s.deleted

def ProofLog.Balanced {Run : Type} (s : ProofLog Run)
    (phase : Lease.Phase V1SignedCurrentnessProof) : Prop :=
  Lease.Balanced phase s.published s.deleted

section Responder

variable {resolverAllowsLoopback : Bool} {s after : ProofLog (Accept P)}
  {outcome : AcceptOutcome P}

theorem accept_next
    (h : (acceptCleanup P resolverAllowsLoopback).next s outcome = some after) :
    exists run, s.run.outcome resolverAllowsLoopback outcome = some run ∧
      s.advance run (s.run.publishes outcome) run.deletes = after := by
  change Option.map _ _ = some after at h
  rw [Option.map_eq_some_iff] at h
  exact h

theorem accept_agrees_next (hs : s.Agrees s.run.stage.lease)
    (h : (acceptCleanup P resolverAllowsLoopback).next s outcome = some after) :
    after.Agrees after.run.stage.lease := by
  rcases accept_next h with ⟨run, hrun, rfl⟩
  by_cases htime : outcome = AcceptOutcome.event AcceptEvent.elapsed
  · subst htime
    rcases Accept.elapsed_lease hrun with ⟨_, _, error, hstage⟩
    change Lease.Current run.stage.lease _ _
    rw [hstage]
    trivial
  · exact hs.step (Accept.outcome_lease hrun htime)

theorem accept_agrees
    (h : (acceptCleanup P resolverAllowsLoopback).Reachable s) :
    s.Agrees s.run.stage.lease := by
  refine Machine.ReachableWhen.invariant (fun s hinit => ?_)
    (fun s outcome after hs _ hnext => accept_agrees_next hs hnext) h
  rcases hinit with ⟨hstage, hpublished, hdeleted⟩
  unfold ProofLog.Agrees
  rw [hstage, hpublished, hdeleted]
  exact ⟨rfl, rfl⟩

theorem accept_balanced
    (h : (acceptCleanup P resolverAllowsLoopback).ReachableWhen
      (fun s outcome => s.run.Undisturbed outcome) s) :
    s.Balanced s.run.stage.lease := by
  refine Machine.ReachableWhen.invariant
    (I := fun s => s.Balanced s.run.stage.lease) (fun s hinit => ?_)
    (fun s outcome after hs hallowed hnext => ?_) h
  · rcases hinit with ⟨hstage, hpublished, hdeleted⟩
    unfold ProofLog.Balanced
    rw [hstage, hpublished, hdeleted]
    exact Lease.balanced_free
  · rcases accept_next hnext with ⟨run, hrun, rfl⟩
    by_cases htime : outcome = AcceptOutcome.event AcceptEvent.elapsed
    · have hheld := hallowed htime
      subst htime
      rcases Accept.elapsed_lease hrun with ⟨⟨proof, hproof⟩, _⟩
      exact absurd hproof (hheld proof)
    · exact hs.step (Accept.outcome_lease hrun htime)

theorem accept_disturbed
    (hs : (acceptCleanup P resolverAllowsLoopback).Reachable s)
    (hdisturbed : ¬ s.run.Undisturbed outcome)
    (h : (acceptCleanup P resolverAllowsLoopback).next s outcome = some after) :
    after.run.Returned ∧ ¬ after.CleanedUp := by
  unfold Accept.Undisturbed at hdisturbed
  push Not at hdisturbed
  rcases hdisturbed with ⟨rfl, proof, hproof⟩
  rcases accept_next h with ⟨run, hrun, rfl⟩
  rcases Accept.elapsed_lease hrun with ⟨_, hdeletes, error, hstage⟩
  refine ⟨Or.inr ⟨error, hstage⟩, ?_⟩
  have hagrees := accept_agrees hs
  unfold ProofLog.Agrees at hagrees
  rw [hproof] at hagrees
  change ¬ Lease.Settled (s.published ++ []) (s.deleted ++ run.deletes)
  rw [hdeletes, List.append_nil, List.append_nil]
  exact hagrees.not_settled

end Responder

section Initiator

variable {client : V1Client} {s after : ProofLog (Dial P)}
  {outcome : DialOutcome P}

theorem dial_next (h : (dialCleanup P client).next s outcome = some after) :
    exists run, s.run.outcome client outcome = some run ∧
      s.advance run (s.run.publishes outcome) run.deletes = after := by
  change Option.map _ _ = some after at h
  rw [Option.map_eq_some_iff] at h
  exact h

theorem dial_agrees_next (hs : s.Agrees s.run.stage.lease)
    (h : (dialCleanup P client).next s outcome = some after) :
    after.Agrees after.run.stage.lease := by
  rcases dial_next h with ⟨run, hrun, rfl⟩
  by_cases htime : exists active, outcome = DialOutcome.event active DialEvent.elapsed
  · rcases htime with ⟨active, rfl⟩
    rcases Dial.elapsed_lease hrun with ⟨_, error, hstage⟩
    change Lease.Current run.stage.lease _ _
    rw [hstage]
    trivial
  · exact hs.step (Dial.outcome_lease hrun fun active heq => htime ⟨active, heq⟩)

theorem dial_agrees (h : (dialCleanup P client).Reachable s) :
    s.Agrees s.run.stage.lease := by
  refine Machine.ReachableWhen.invariant (fun s hinit => ?_)
    (fun s outcome after hs _ hnext => dial_agrees_next hs hnext) h
  rcases hinit with ⟨hstage, hpublished, hdeleted⟩
  unfold ProofLog.Agrees
  rw [hstage, hpublished, hdeleted]
  exact ⟨rfl, rfl⟩

theorem dial_balanced
    (h : (dialCleanup P client).ReachableWhen
      (fun s outcome => s.run.Undisturbed outcome) s) :
    s.Balanced s.run.stage.lease := by
  refine Machine.ReachableWhen.invariant
    (I := fun s => s.Balanced s.run.stage.lease) (fun s hinit => ?_)
    (fun s outcome after hs hallowed hnext => ?_) h
  · rcases hinit with ⟨hstage, hpublished, hdeleted⟩
    unfold ProofLog.Balanced
    rw [hstage, hpublished, hdeleted]
    exact Lease.balanced_free
  · rcases dial_next hnext with ⟨run, hrun, rfl⟩
    by_cases htime : exists active,
        outcome = DialOutcome.event active DialEvent.elapsed
    · rcases htime with ⟨active, rfl⟩
      exact hs.step (Dial.elapsed_lease_of_not_held hrun (hallowed active rfl))
    · exact hs.step (Dial.outcome_lease hrun fun active heq => htime ⟨active, heq⟩)

theorem dial_disturbed (hs : (dialCleanup P client).Reachable s)
    (hdisturbed : ¬ s.run.Undisturbed outcome)
    (h : (dialCleanup P client).next s outcome = some after) :
    after.run.Returned ∧ ¬ after.CleanedUp := by
  unfold Dial.Undisturbed at hdisturbed
  push Not at hdisturbed
  rcases hdisturbed with ⟨active, rfl, proof, hproof⟩
  rcases dial_next h with ⟨run, hrun, rfl⟩
  rcases Dial.elapsed_lease hrun with ⟨hdeletes, error, hstage⟩
  refine ⟨Or.inr ⟨error, hstage⟩, ?_⟩
  have hagrees := dial_agrees hs
  unfold ProofLog.Agrees at hagrees
  rw [hproof] at hagrees
  change ¬ Lease.Settled (s.published ++ []) (s.deleted ++ run.deletes)
  rw [hdeletes, List.append_nil, List.append_nil]
  exact hagrees.not_settled

end Initiator

/--
A run of either side whose timeout never elapses between the publication and the
cleanup deletes what it has published before it returns, and a timeout that does
elapse there returns with the proof published.
-/
theorem published_proofs_deleted (P : Primitives) (resolverAllowsLoopback : Bool)
    (client : V1Client) :
    (forall s, (acceptCleanup P resolverAllowsLoopback).ReachableWhen
        (fun s outcome => s.run.Undisturbed outcome) s ->
      s.run.Returned -> s.CleanedUp) ∧
    (forall s, (dialCleanup P client).ReachableWhen
        (fun s outcome => s.run.Undisturbed outcome) s ->
      s.run.Returned -> s.CleanedUp) ∧
    (forall s outcome after, (acceptCleanup P resolverAllowsLoopback).Reachable s ->
      ¬ s.run.Undisturbed outcome ->
      (acceptCleanup P resolverAllowsLoopback).next s outcome = some after ->
      after.run.Returned ∧ ¬ after.CleanedUp) ∧
    forall s outcome after, (dialCleanup P client).Reachable s ->
      ¬ s.run.Undisturbed outcome ->
      (dialCleanup P client).next s outcome = some after ->
      after.run.Returned ∧ ¬ after.CleanedUp :=
  ⟨fun _ hs hreturned => (accept_balanced hs).right hreturned.spent,
    fun _ hs hreturned => (dial_balanced hs).right hreturned.spent,
    fun _ _ _ hs hdisturbed hnext => accept_disturbed hs hdisturbed hnext,
    fun _ _ _ hs hdisturbed hnext => dial_disturbed hs hdisturbed hnext⟩

end Runs

/-!
# An Ack that is not answered
-/

namespace Sample

open Protocol.Reference

/-- The Hello of a caller, as the phone queues it. -/
def pendingFrom (caller : DeviceKeys) (senderPath targetPath : String) :
    PendingV1 :=
  { localCredential := phone.credential
    sender := { path := senderPath, record := caller.record }
    target := { path := targetPath, record := phone.record }
    hello := caller.hello
    allowInsecureLoopbackRelay := false }

def pendingHello : PendingV1 :=
  pendingFrom laptop "" ""

def logAt {P : Primitives} (pending : PendingV1) (stage : AcceptStage P)
    (published deleted : List V1SignedCurrentnessProof) : ProofLog (Accept P) :=
  { run := { pending := pending, stage := stage, trail := [] }
    published := published
    deleted := deleted }

theorem logAt_consent {P : Primitives} {pending : PendingV1} {now : UInt64}
    {random : P.Keypair} {answer : Answer}
    (h : signAnswer P pending now random = Except.ok answer) :
    (acceptCleanup P false).next (logAt pending AcceptStage.queued [] [])
        (AcceptOutcome.event (AcceptEvent.consent now random)) =
      some (logAt pending (AcceptStage.publishing answer) [] []) := by
  have hconsent : (logAt pending AcceptStage.queued [] []).run.consent now random =
      some (logAt pending (AcceptStage.publishing answer) [] []).run := by
    unfold Accept.consent logAt
    dsimp only
    rw [h]
    rfl
  change Option.map _ ((logAt pending AcceptStage.queued [] []).run.consent now
    random) = _
  rw [hconsent]
  rfl

theorem acceptExpiry_hello (caller : DeviceKeys) :
    acceptExpiry caller.hello 1060 = 1090 := by
  change min (1090 : UInt64) (saturatingAdd 1060 30) = 1090
  decide

theorem answer_exists {caller : DeviceKeys} (h : caller.Caller)
    (senderPath targetPath : String) :
    exists answer, signAnswer sample (pendingFrom caller senderPath targetPath)
        1060 (keyOf 8) = Except.ok answer ∧ answer.challenge = challenge := by
  rcases h.ack_sign with ⟨ack, hack⟩
  rcases h.proof_sign with ⟨proof, hproof⟩
  refine ⟨{ challenge := challenge, ack := ack, proof := proof }, ?_, rfl⟩
  unfold signAnswer
  simp only [bind_eq_ok, rejectIf_eq_ok, exists_unit, pure_eq_ok,
    fromProtocol_eq_ok]
  change ¬ acceptExpiry caller.hello 1060 ≤ 1060 ∧ _
  rw [acceptExpiry_hello]
  exact ⟨by decide, ack, hack, proof, hproof, rfl⟩

theorem sample_answer :
    exists answer, signAnswer sample pendingHello 1060 (keyOf 8) =
      Except.ok answer ∧ answer.challenge = challenge :=
  answer_exists laptop_caller "" ""

end Sample

open Sample Protocol.Reference in
/-- The Ack cannot be written, and the responder deletes its proof. -/
theorem published_proofs_deleted_sample :
    exists s : ProofLog (Accept sample), s.run.Returned ∧ s.published ≠ [] ∧
      s.CleanedUp := by
  rcases sample_answer with ⟨answer, hanswer, _⟩
  let reset : ClientError := ClientError.iroh "connection lost"
  have hqueued : (acceptCleanup sample false).ReachableWhen
      (fun s outcome => s.run.Undisturbed outcome)
      (logAt pendingHello AcceptStage.queued [] []) :=
    Machine.ReachableWhen.start ⟨rfl, rfl, rfl⟩
  have hpublishing := hqueued.step
    (a := AcceptOutcome.event (AcceptEvent.consent 1060 (keyOf 8)))
    (Accept.undisturbed_of_ne nofun) (logAt_consent hanswer)
  have hpublished : (acceptCleanup sample false).ReachableWhen
      (fun s outcome => s.run.Undisturbed outcome)
      (logAt pendingHello (AcceptStage.acknowledging answer) [answer.proof] []) :=
    hpublishing.step (a := AcceptOutcome.event AcceptEvent.published)
      (Accept.undisturbed_of_ne nofun) rfl
  have hinterrupted : (acceptCleanup sample false).ReachableWhen
      (fun s outcome => s.run.Undisturbed outcome)
      (logAt pendingHello (AcceptStage.deleting answer (Except.error reset))
        [answer.proof] [answer.proof]) :=
    hpublished.step (a := AcceptOutcome.event (AcceptEvent.interrupted reset))
      (Accept.undisturbed_of_ne nofun) rfl
  have hdeleted : (acceptCleanup sample false).ReachableWhen
      (fun s outcome => s.run.Undisturbed outcome)
      (logAt pendingHello (AcceptStage.failed reset) [answer.proof]
        [answer.proof]) :=
    hinterrupted.step (a := AcceptOutcome.event AcceptEvent.deleted)
      (Accept.undisturbed_of_ne nofun) rfl
  have hreturned : (logAt pendingHello (AcceptStage.failed reset) [answer.proof]
      [answer.proof] : ProofLog (Accept sample)).run.Returned :=
    Or.inr ⟨reset, rfl⟩
  exact ⟨_, hreturned, List.cons_ne_nil _ _,
    (published_proofs_deleted sample false
      { credential := phone.credential
        trustedRelays := []
        instanceNonce := ""
        acceptedApplications := []
        allowInsecureLoopbackRelay := false
        resolverAllowsLoopback := false }).left _ hdeleted hreturned⟩

open Sample Protocol.Reference in
/-- The initiator does not answer the Ack in time, and the proof stays published. -/
theorem elapsed_exchange_keeps_proof :
    exists proof s, (acceptCleanup sample false).run
        (logAt pendingHello AcceptStage.queued [] [])
        [AcceptOutcome.event (AcceptEvent.consent 1060 (keyOf 8)),
         AcceptOutcome.event AcceptEvent.published,
         AcceptOutcome.event AcceptEvent.written,
         AcceptOutcome.event AcceptEvent.elapsed] = some s ∧
      s.run.stage = AcceptStage.failed (ClientError.timeout
        "completing accepted v1 currentness exchange") ∧
      s.published = [proof] ∧ s.deleted = [] ∧ ¬ s.CleanedUp := by
  rcases sample_answer with ⟨answer, hanswer, _⟩
  refine ⟨answer.proof,
    { run := { pending := pendingHello
               stage := AcceptStage.failed (ClientError.timeout
                 "completing accepted v1 currentness exchange")
               trail := [Milestone.ackSent answer] }
      published := [answer.proof]
      deleted := [] }, ?_, rfl, rfl, rfl, ?_⟩
  · rw [Machine.run_cons (logAt_consent hanswer)]
    rfl
  · intro hsettled
    exact List.not_mem_nil (hsettled answer.proof List.mem_cons_self)

end Client
end Pubky2Pubky
