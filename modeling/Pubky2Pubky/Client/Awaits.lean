import Pubky2Pubky.Client.Handshake

/-!
# What one await can do

Each step of a run is read back once as its new stage and the milestones it
passes. All later facts about runs are case analyses over these steps.
-/

namespace Pubky2Pubky
namespace Client

open Foundation Protocol

variable {P : Primitives}

/-- An await moves its run to the stage that its step has found. -/
def Moved {Run Stage : Type} (move : Stage -> List Milestone -> Run)
    (step : Stage -> List Milestone -> Prop) (after : Run) : Prop :=
  exists stage passed, after = move stage passed ∧ step stage passed

theorem moved_of_some {Run Stage : Type}
    {move : Stage -> List Milestone -> Run}
    {step : Stage -> List Milestone -> Prop} {after : Run} {stage : Stage}
    {passed : List Milestone} (h : some (move stage passed) = some after)
    (hstep : step stage passed) : Moved move step after := by
  injection h with h
  exact ⟨stage, passed, h.symm, hstep⟩

/-!
# Responder steps
-/

/-- The step of a responder: the event, the new stage and what it passes. -/
inductive AcceptStep (run : Accept P) (resolverAllowsLoopback : Bool) :
    AcceptEvent P -> AcceptStage P -> List Milestone -> Prop where
  | signed {now : UInt64} {random : P.Keypair} {answer : Answer} :
      run.stage = AcceptStage.queued ->
      signAnswer P run.pending now random = Except.ok answer ->
      AcceptStep run resolverAllowsLoopback (AcceptEvent.consent now random)
        (AcceptStage.publishing answer) []
  | published {answer : Answer} :
      run.stage = AcceptStage.publishing answer ->
      AcceptStep run resolverAllowsLoopback AcceptEvent.published
        (AcceptStage.acknowledging answer) []
  | acknowledged {answer : Answer} :
      run.stage = AcceptStage.acknowledging answer ->
      AcceptStep run resolverAllowsLoopback AcceptEvent.written
        (AcceptStage.awaitingReady answer) [Milestone.ackSent answer]
  | readied {answer : Answer} {ready : ProofControl} :
      run.stage = AcceptStage.awaitingReady answer ->
      validateProofControl P ready answer.challenge run.pending.hello
        run.pending.sender.record run.pending.target.record = Except.ok () ->
      AcceptStep run resolverAllowsLoopback (AcceptEvent.received ready)
        (AcceptStage.fetching answer ready) []
  | verified {answer : Answer} {ready : ProofControl}
      {proof : V1SignedCurrentnessProof} {now : UInt64} :
      run.stage = AcceptStage.fetching answer ready ->
      proof.verify P run.pending.sender.record run.pending.target.record
        run.pending.hello V1CurrentnessRole.initiator answer.challenge now
        run.pending.allowInsecureLoopbackRelay = Except.ok () ->
      AcceptStep run resolverAllowsLoopback (AcceptEvent.fetched proof now)
        (AcceptStage.committing answer ready)
        [Milestone.proofVerified proof now]
  | submitted {answer : Answer} {ready : ProofControl} {now : UInt64}
      {observation : AuthenticatedSequenceObservation P} :
      run.stage = AcceptStage.committing answer ready ->
      remoteObservation P run.pending.sender now resolverAllowsLoopback =
        Except.ok observation ->
      AcceptStep run resolverAllowsLoopback (AcceptEvent.commit now)
        (AcceptStage.storing answer ready observation) []
  | confirmed {answer : Answer} {ready : ProofControl} :
      run.stage = AcceptStage.confirming answer ready ->
      AcceptStep run resolverAllowsLoopback AcceptEvent.written
        (AcceptStage.deleting answer (Except.ok ready))
        [Milestone.confirmedSent (confirmation answer ready)]
  | released {answer : Answer} {ready : ProofControl} {peer : Peer} :
      run.stage = AcceptStage.deleting answer (Except.ok ready) ->
      releasePeer P run.pending.sender run.pending.hello = Except.ok peer ->
      AcceptStep run resolverAllowsLoopback AcceptEvent.deleted
        (AcceptStage.released answer ready peer) [Milestone.peerReleased peer]
  | cleaned {event : AcceptEvent P} (answer : Answer) (error : ClientError) :
      AcceptStep run resolverAllowsLoopback event
        (AcceptStage.deleting answer (Except.error error)) []
  | failed {event : AcceptEvent P} (error : ClientError) :
      AcceptStep run resolverAllowsLoopback event (AcceptStage.failed error) []

/-- The stage of a run that has not met an error. -/
def AcceptStage.Clean : AcceptStage P -> Prop
  | AcceptStage.deleting _ (Except.error _) => False
  | AcceptStage.failed _ => False
  | _ => True

/-- A step that meets no error is taken. -/
theorem AcceptStep.taken {run : Accept P} {resolverAllowsLoopback : Bool}
    {event : AcceptEvent P} {stage : AcceptStage P}
    {passed : List Milestone}
    (h : AcceptStep run resolverAllowsLoopback event stage passed)
    (hclean : stage.Clean) :
    run.next resolverAllowsLoopback event = some (run.moveTo stage passed) := by
  cases h with
  | signed hstage hsign =>
      unfold Accept.next Accept.consent
      dsimp only
      rw [hstage]
      dsimp only
      rw [hsign]
  | published hstage =>
      unfold Accept.next Accept.published
      dsimp only
      rw [hstage]
  | acknowledged hstage =>
      unfold Accept.next Accept.written
      dsimp only
      rw [hstage]
  | readied hstage hvalid =>
      unfold Accept.next Accept.received
      dsimp only
      rw [hstage]
      dsimp only
      rw [hvalid]
  | verified hstage hverify =>
      unfold Accept.next Accept.fetched
      dsimp only
      rw [hstage]
      dsimp only
      rw [hverify]
  | submitted hstage hobservation =>
      unfold Accept.next Accept.commit
      dsimp only
      rw [hstage]
      dsimp only
      rw [hobservation]
  | confirmed hstage =>
      unfold Accept.next Accept.written
      dsimp only
      rw [hstage]
  | released hstage hrelease =>
      unfold Accept.next Accept.deleted
      dsimp only
      rw [hstage]
      dsimp only
      rw [hrelease]
  | cleaned answer error => exact hclean.elim
  | failed error => exact hclean.elim

namespace Accept

variable {run after : Accept P} {resolverAllowsLoopback : Bool}

/-- Every await of `accept_pending` is one of the steps above. -/
theorem next_moved {event : AcceptEvent P}
    (h : run.next resolverAllowsLoopback event = some after) :
    Moved run.moveTo (AcceptStep run resolverAllowsLoopback event) after := by
  cases event with
  | consent now random =>
      unfold next consent at h
      dsimp only at h
      split at h
      · rename_i hstage
        split at h
        · rename_i answer hsign
          exact moved_of_some h (AcceptStep.signed hstage hsign)
        · exact moved_of_some h (AcceptStep.failed _)
      · cases h
  | published =>
      unfold next published at h
      dsimp only at h
      split at h
      · rename_i answer hstage
        exact moved_of_some h (AcceptStep.published hstage)
      · cases h
  | written =>
      unfold next written at h
      dsimp only at h
      split at h
      · rename_i answer hstage
        exact moved_of_some h (AcceptStep.acknowledged hstage)
      · rename_i answer ready hstage
        exact moved_of_some h (AcceptStep.confirmed hstage)
      · cases h
  | received ready =>
      unfold next received at h
      dsimp only at h
      split at h
      · rename_i answer hstage
        split at h
        · rename_i hvalid
          exact moved_of_some h (AcceptStep.readied hstage hvalid)
        · exact moved_of_some h (AcceptStep.cleaned answer _)
      · cases h
  | fetched proof now =>
      unfold next fetched at h
      dsimp only at h
      split at h
      · rename_i answer ready hstage
        split at h
        · rename_i hverify
          exact moved_of_some h (AcceptStep.verified hstage hverify)
        · exact moved_of_some h (AcceptStep.cleaned answer _)
      · cases h
  | commit now =>
      unfold next commit at h
      dsimp only at h
      split at h
      · rename_i answer ready hstage
        split at h
        · rename_i observation hobservation
          exact moved_of_some h (AcceptStep.submitted hstage hobservation)
        · exact moved_of_some h (AcceptStep.cleaned answer _)
      · cases h
  | deleted =>
      unfold next deleted at h
      dsimp only at h
      split at h
      · rename_i answer ready hstage
        split at h
        · rename_i peer hrelease
          exact moved_of_some h (AcceptStep.released hstage hrelease)
        · exact moved_of_some h (AcceptStep.failed _)
      · exact moved_of_some h (AcceptStep.failed _)
      · cases h
  | interrupted error =>
      unfold next interrupted at h
      dsimp only at h
      split at h
      · exact moved_of_some h (AcceptStep.failed error)
      · exact moved_of_some h (AcceptStep.failed error)
      · exact moved_of_some h (AcceptStep.cleaned _ error)
      · exact moved_of_some h (AcceptStep.cleaned _ error)
      · exact moved_of_some h (AcceptStep.cleaned _ error)
      · exact moved_of_some h (AcceptStep.cleaned _ error)
      · exact moved_of_some h (AcceptStep.cleaned _ error)
      · exact moved_of_some h (AcceptStep.cleaned _ error)
      · cases h
  | elapsed =>
      unfold next elapsed at h
      dsimp only at h
      split at h
      any_goals
        cases h
      exact moved_of_some rfl (AcceptStep.failed _)
  | abandoned =>
      unfold next abandoned at h
      dsimp only at h
      split at h
      · cases h
      · cases h
      · exact moved_of_some h (AcceptStep.failed _)

/-- The answer of the store moves only a run that waits for it. -/
inductive Heard (run : Accept P) : ClientResult Unit -> Accept P -> Prop where
  | committed {answer : Answer} {ready : ProofControl}
      {observation : AuthenticatedSequenceObservation P} :
      run.stage = AcceptStage.storing answer ready observation ->
      Heard run (Except.ok ()) (run.moveTo
        (AcceptStage.confirming answer ready) [Milestone.recordCommitted])
  | refused {answer : Answer} {ready : ProofControl}
      {observation : AuthenticatedSequenceObservation P}
      (error : ClientError) :
      run.stage = AcceptStage.storing answer ready observation ->
      Heard run (Except.error error) (run.moveTo
        (AcceptStage.deleting answer (Except.error error)) [])
  | ignored (result : ClientResult Unit) :
      (forall answer ready observation,
        run.stage ≠ AcceptStage.storing answer ready observation) ->
      Heard run result run

theorem stored_heard (run : Accept P) (result : ClientResult Unit) :
    run.Heard result (run.stored result) := by
  unfold stored
  split
  · rename_i answer ready observation hstage
    cases result with
    | ok u => exact Heard.committed hstage
    | error e => exact Heard.refused e hstage
  · rename_i hidle
    exact Heard.ignored result hidle

end Accept

/-!
# Initiator steps
-/

inductive DialStep (run : Dial P) (client : V1Client)
    (active : ActiveRecords) :
    DialEvent P -> DialStage P -> List Milestone -> Prop where
  | signed {now : UInt64} {random : P.Keypair} {greeting : Greeting} :
      run.stage = DialStage.connected ->
      signGreeting P client active run.target run.application now random =
        Except.ok greeting ->
      DialStep run client active (DialEvent.greet now random)
        (DialStage.greeting greeting) []
  | greeted {greeting : Greeting} :
      run.stage = DialStage.greeting greeting ->
      DialStep run client active DialEvent.written
        (DialStage.awaitingAck greeting) [Milestone.helloSent greeting]
  | acknowledged {greeting : Greeting} {ack : V1SignedAck} {now : UInt64}
      {reply : Reply} :
      run.stage = DialStage.awaitingAck greeting ->
      signReply P client run.target run.application greeting ack now =
        Except.ok reply ->
      DialStep run client active (DialEvent.acknowledged ack now)
        (DialStage.publishing greeting reply) [Milestone.ackVerified reply now]
  | published {greeting : Greeting} {reply : Reply} {ready : ProofControl} :
      run.stage = DialStage.publishing greeting reply ->
      readiness P run.target greeting reply = Except.ok ready ->
      DialStep run client active DialEvent.published
        (DialStage.fetching greeting reply ready) []
  | verified {greeting : Greeting} {reply : Reply} {ready : ProofControl}
      {proof : V1SignedCurrentnessProof} {now : UInt64} :
      run.stage = DialStage.fetching greeting reply ready ->
      proof.verify P run.target.record greeting.senderRecord greeting.hello
        V1CurrentnessRole.responder reply.ack.claims.responderNonce now
        client.allowInsecureLoopbackRelay = Except.ok () ->
      DialStep run client active (DialEvent.fetched proof now)
        (DialStage.signalling greeting reply ready)
        [Milestone.proofVerified proof now]
  | readied {greeting : Greeting} {reply : Reply} {ready : ProofControl} :
      run.stage = DialStage.signalling greeting reply ready ->
      DialStep run client active DialEvent.written
        (DialStage.awaitingConfirmed greeting reply ready)
        [Milestone.readySent ready]
  | confirmed {greeting : Greeting} {reply : Reply} {ready : ProofControl} :
      run.stage = DialStage.awaitingConfirmed greeting reply ready ->
      DialStep run client active (DialEvent.confirmed ready)
        (DialStage.committing greeting reply ready) []
  | submitted {greeting : Greeting} {reply : Reply} {ready : ProofControl}
      {now : UInt64} {observation : AuthenticatedSequenceObservation P} :
      run.stage = DialStage.committing greeting reply ready ->
      remoteObservation P run.target now client.resolverAllowsLoopback =
        Except.ok observation ->
      DialStep run client active (DialEvent.commit now)
        (DialStage.storing greeting reply ready observation) []
  | released {greeting : Greeting} {reply : Reply} {ready : ProofControl}
      {peer : Peer} :
      run.stage = DialStage.deleting greeting reply (Except.ok ready) ->
      releasePeer P run.target greeting.hello = Except.ok peer ->
      DialStep run client active DialEvent.deleted
        (DialStage.released greeting reply ready peer)
        [Milestone.peerReleased peer]
  | cleaned {event : DialEvent P} (greeting : Greeting) (reply : Reply)
      (error : ClientError) :
      DialStep run client active event
        (DialStage.deleting greeting reply (Except.error error)) []
  | failed {event : DialEvent P} (error : ClientError) :
      DialStep run client active event (DialStage.failed error) []

def DialStage.Clean : DialStage P -> Prop
  | DialStage.deleting _ _ (Except.error _) => False
  | DialStage.failed _ => False
  | _ => True

theorem DialStep.taken {run : Dial P} {client : V1Client}
    {active : ActiveRecords} {event : DialEvent P} {stage : DialStage P}
    {passed : List Milestone} (h : DialStep run client active event stage passed)
    (hclean : stage.Clean) :
    run.next client active event = some (run.moveTo stage passed) := by
  cases h with
  | signed hstage hsign =>
      unfold Dial.next Dial.greet
      dsimp only
      rw [hstage]
      dsimp only
      rw [hsign]
  | greeted hstage =>
      unfold Dial.next Dial.written
      dsimp only
      rw [hstage]
  | acknowledged hstage hreply =>
      unfold Dial.next Dial.acknowledged
      dsimp only
      rw [hstage]
      dsimp only
      rw [hreply]
  | published hstage hready =>
      unfold Dial.next Dial.published
      dsimp only
      rw [hstage]
      dsimp only
      rw [hready]
  | verified hstage hverify =>
      unfold Dial.next Dial.fetched
      dsimp only
      rw [hstage]
      dsimp only
      rw [hverify]
  | readied hstage =>
      unfold Dial.next Dial.written
      dsimp only
      rw [hstage]
  | confirmed hstage =>
      unfold Dial.next Dial.confirmed
      dsimp only
      rw [hstage]
      exact if_pos rfl
  | submitted hstage hobservation =>
      unfold Dial.next Dial.commit
      dsimp only
      rw [hstage]
      dsimp only
      rw [hobservation]
  | released hstage hrelease =>
      unfold Dial.next Dial.deleted
      dsimp only
      rw [hstage]
      dsimp only
      rw [hrelease]
  | cleaned greeting reply error => exact hclean.elim
  | failed error => exact hclean.elim

namespace Dial

variable {run after : Dial P} {client : V1Client} {active : ActiveRecords}

/-- Every await of `finish_outbound_handshake` is one of the steps above. -/
theorem next_moved {event : DialEvent P}
    (h : run.next client active event = some after) :
    Moved run.moveTo (DialStep run client active event) after := by
  cases event with
  | greet now random =>
      unfold next greet at h
      dsimp only at h
      split at h
      · rename_i hstage
        split at h
        · rename_i greeting hsign
          exact moved_of_some h (DialStep.signed hstage hsign)
        · exact moved_of_some h (DialStep.failed _)
      · cases h
  | written =>
      unfold next written at h
      dsimp only at h
      split at h
      · rename_i greeting hstage
        exact moved_of_some h (DialStep.greeted hstage)
      · rename_i greeting reply ready hstage
        exact moved_of_some h (DialStep.readied hstage)
      · cases h
  | acknowledged ack now =>
      unfold next acknowledged at h
      dsimp only at h
      split at h
      · rename_i greeting hstage
        split at h
        · rename_i reply hreply
          exact moved_of_some h (DialStep.acknowledged hstage hreply)
        · exact moved_of_some h (DialStep.failed _)
      · cases h
  | published =>
      unfold next published at h
      dsimp only at h
      split at h
      · rename_i greeting reply hstage
        split at h
        · rename_i ready hready
          exact moved_of_some h (DialStep.published hstage hready)
        · exact moved_of_some h (DialStep.cleaned greeting reply _)
      · cases h
  | fetched proof now =>
      unfold next fetched at h
      dsimp only at h
      split at h
      · rename_i greeting reply ready hstage
        split at h
        · rename_i hverify
          exact moved_of_some h (DialStep.verified hstage hverify)
        · exact moved_of_some h (DialStep.cleaned greeting reply _)
      · cases h
  | confirmed frame =>
      unfold next confirmed at h
      dsimp only at h
      split at h
      · rename_i greeting reply ready hstage
        split at h
        · rename_i hframe
          subst hframe
          exact moved_of_some h (DialStep.confirmed hstage)
        · exact moved_of_some h (DialStep.cleaned greeting reply _)
      · cases h
  | commit now =>
      unfold next commit at h
      dsimp only at h
      split at h
      · rename_i greeting reply ready hstage
        split at h
        · rename_i observation hobservation
          exact moved_of_some h (DialStep.submitted hstage hobservation)
        · exact moved_of_some h (DialStep.cleaned greeting reply _)
      · cases h
  | deleted =>
      unfold next deleted at h
      dsimp only at h
      split at h
      · rename_i greeting reply ready hstage
        split at h
        · rename_i peer hrelease
          exact moved_of_some h (DialStep.released hstage hrelease)
        · exact moved_of_some h (DialStep.failed _)
      · exact moved_of_some h (DialStep.failed _)
      · cases h
  | interrupted error =>
      unfold next interrupted at h
      dsimp only at h
      split at h
      · exact moved_of_some h (DialStep.failed error)
      · exact moved_of_some h (DialStep.failed error)
      · exact moved_of_some h (DialStep.failed error)
      · exact moved_of_some h (DialStep.failed error)
      · exact moved_of_some h (DialStep.cleaned _ _ error)
      · exact moved_of_some h (DialStep.cleaned _ _ error)
      · exact moved_of_some h (DialStep.cleaned _ _ error)
      · exact moved_of_some h (DialStep.cleaned _ _ error)
      · exact moved_of_some h (DialStep.cleaned _ _ error)
      · cases h
  | elapsed =>
      unfold next elapsed at h
      dsimp only at h
      split at h
      any_goals
        cases h
      exact moved_of_some rfl (DialStep.failed _)
  | abandoned =>
      unfold next abandoned at h
      dsimp only at h
      split at h
      · cases h
      · cases h
      · exact moved_of_some h (DialStep.failed _)

inductive Heard (run : Dial P) : ClientResult Unit -> Dial P -> Prop where
  | committed {greeting : Greeting} {reply : Reply} {ready : ProofControl}
      {observation : AuthenticatedSequenceObservation P} :
      run.stage = DialStage.storing greeting reply ready observation ->
      Heard run (Except.ok ()) (run.moveTo
        (DialStage.deleting greeting reply (Except.ok ready))
        [Milestone.recordCommitted])
  | refused {greeting : Greeting} {reply : Reply} {ready : ProofControl}
      {observation : AuthenticatedSequenceObservation P}
      (error : ClientError) :
      run.stage = DialStage.storing greeting reply ready observation ->
      Heard run (Except.error error) (run.moveTo
        (DialStage.deleting greeting reply (Except.error error)) [])
  | ignored (result : ClientResult Unit) :
      (forall greeting reply ready observation,
        run.stage ≠ DialStage.storing greeting reply ready observation) ->
      Heard run result run

theorem stored_heard (run : Dial P) (result : ClientResult Unit) :
    run.Heard result (run.stored result) := by
  unfold stored
  split
  · rename_i greeting reply ready observation hstage
    cases result with
    | ok u => exact Heard.committed hstage
    | error e => exact Heard.refused e hstage
  · rename_i hidle
    exact Heard.ignored result hidle

end Dial

end Client
end Pubky2Pubky
