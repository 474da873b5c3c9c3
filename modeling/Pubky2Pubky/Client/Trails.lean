import Pubky2Pubky.Client.Exchange

/-!
# Trails

Whatever the environment answers, the milestones of a run come in one fixed
order and carry what the run had checked when it passed them.
-/

namespace Pubky2Pubky
namespace Client

open Foundation Protocol

variable {P : Primitives}

/-!
# Responder trails
-/

/-- The responder accepts this proof of the initiator at the given time. -/
def ProvesInitiator (P : Primitives) (pending : PendingV1) (answer : Answer)
    (proof : V1SignedCurrentnessProof) (now : UInt64) : Prop :=
  proof.verify P pending.sender.record pending.target.record pending.hello
    V1CurrentnessRole.initiator answer.challenge now
    pending.allowInsecureLoopbackRelay = Except.ok ()

inductive AcceptTrail (P : Primitives) (pending : PendingV1) :
    List Milestone -> Prop where
  | start : AcceptTrail P pending []
  | acknowledged {answer : Answer} {now : UInt64} {random : P.Keypair} :
      signAnswer P pending now random = Except.ok answer ->
      AcceptTrail P pending [Milestone.ackSent answer]
  | verified {answer : Answer} {proof : V1SignedCurrentnessProof}
      {now : UInt64} :
      AcceptTrail P pending [Milestone.ackSent answer] ->
      ProvesInitiator P pending answer proof now ->
      AcceptTrail P pending
        [Milestone.ackSent answer, Milestone.proofVerified proof now]
  | committed {answer : Answer} {proof : V1SignedCurrentnessProof}
      {now : UInt64} :
      AcceptTrail P pending
        [Milestone.ackSent answer, Milestone.proofVerified proof now] ->
      AcceptTrail P pending
        [Milestone.ackSent answer, Milestone.proofVerified proof now,
          Milestone.recordCommitted]
  | confirmed {answer : Answer} {proof : V1SignedCurrentnessProof}
      {now : UInt64} {ready : ProofControl} :
      AcceptTrail P pending
        [Milestone.ackSent answer, Milestone.proofVerified proof now,
          Milestone.recordCommitted] ->
      validateProofControl P ready answer.challenge pending.hello
        pending.sender.record pending.target.record = Except.ok () ->
      AcceptTrail P pending
        [Milestone.ackSent answer, Milestone.proofVerified proof now,
          Milestone.recordCommitted,
          Milestone.confirmedSent (confirmation answer ready)]
  | released {answer : Answer} {proof : V1SignedCurrentnessProof}
      {now : UInt64} {control : ProofControl} {peer : Peer} :
      AcceptTrail P pending
        [Milestone.ackSent answer, Milestone.proofVerified proof now,
          Milestone.recordCommitted, Milestone.confirmedSent control] ->
      releasePeer P pending.sender pending.hello = Except.ok peer ->
      AcceptTrail P pending
        [Milestone.ackSent answer, Milestone.proofVerified proof now,
          Milestone.recordCommitted, Milestone.confirmedSent control,
          Milestone.peerReleased peer]

/-- The answer of a stage has been signed for the pending Hello. -/
def Answers (P : Primitives) (pending : PendingV1) (answer : Answer) : Prop :=
  exists now random, signAnswer P pending now random = Except.ok answer

/-- The `ProofReady` of a stage names the two paths of the exchange. -/
def Readied (P : Primitives) (pending : PendingV1) (answer : Answer)
    (ready : ProofControl) : Prop :=
  validateProofControl P ready answer.challenge pending.hello
    pending.sender.record pending.target.record = Except.ok ()

/-- What the stage of a run says about its trail. -/
def AcceptShape (pending : PendingV1) :
    AcceptStage P -> List Milestone -> Prop
  | AcceptStage.queued, trail => trail = []
  | AcceptStage.publishing answer, trail => Answers P pending answer ∧ trail = []
  | AcceptStage.acknowledging answer, trail =>
      Answers P pending answer ∧ trail = []
  | AcceptStage.awaitingReady answer, trail =>
      trail = [Milestone.ackSent answer]
  | AcceptStage.fetching answer ready, trail =>
      Readied P pending answer ready ∧ trail = [Milestone.ackSent answer]
  | AcceptStage.committing answer ready, trail =>
      Readied P pending answer ready ∧ exists proof now,
        trail = [Milestone.ackSent answer, Milestone.proofVerified proof now]
  | AcceptStage.storing answer ready _, trail =>
      Readied P pending answer ready ∧ exists proof now,
        trail = [Milestone.ackSent answer, Milestone.proofVerified proof now]
  | AcceptStage.confirming answer ready, trail =>
      Readied P pending answer ready ∧ exists proof now,
        trail = [Milestone.ackSent answer, Milestone.proofVerified proof now,
          Milestone.recordCommitted]
  | AcceptStage.deleting answer (Except.ok ready), trail =>
      exists proof now,
        trail = [Milestone.ackSent answer, Milestone.proofVerified proof now,
          Milestone.recordCommitted,
          Milestone.confirmedSent (confirmation answer ready)]
  | AcceptStage.deleting _ (Except.error _), _ => True
  | AcceptStage.released answer ready peer, trail =>
      exists proof now,
        trail = [Milestone.ackSent answer, Milestone.proofVerified proof now,
          Milestone.recordCommitted,
          Milestone.confirmedSent (confirmation answer ready),
          Milestone.peerReleased peer]
  | AcceptStage.failed _, _ => True

structure Accept.Coherent (run : Accept P) : Prop where
  trail : AcceptTrail P run.pending run.trail
  shape : AcceptShape run.pending run.stage run.trail

namespace Accept

theorem coherent_queued (pending : PendingV1) :
    ({ pending := pending, stage := AcceptStage.queued, trail := [] } :
      Accept P).Coherent :=
  ⟨AcceptTrail.start, rfl⟩

/-- A step that passes no milestone needs only the shape of its new stage. -/
theorem Coherent.stay {run : Accept P} (h : run.Coherent)
    {stage : AcceptStage P} (hshape : AcceptShape run.pending stage run.trail) :
    (run.moveTo stage []).Coherent := by
  constructor
  · change AcceptTrail P run.pending (run.trail ++ [])
    rw [List.append_nil]
    exact h.trail
  · change AcceptShape run.pending stage (run.trail ++ [])
    rw [List.append_nil]
    exact hshape

/-- A milestone is passed from a stage that knows the trail before it. -/
theorem coherent_pass {run : Accept P} {stage : AcceptStage P}
    {earlier passed : List Milestone} (hpassed : run.trail = earlier)
    (htrail : AcceptTrail P run.pending (earlier ++ passed))
    (hshape : AcceptShape run.pending stage (earlier ++ passed)) :
    (run.moveTo stage passed).Coherent := by
  subst hpassed
  exact ⟨htrail, hshape⟩

/-- Every await of a responder keeps its trail and its stage coherent. -/
theorem Coherent.next {run after : Accept P} (h : run.Coherent)
    {resolverAllowsLoopback : Bool} {event : AcceptEvent P}
    (hnext : run.next resolverAllowsLoopback event = some after) :
    after.Coherent := by
  have hshape := h.shape
  have htrail := h.trail
  rcases next_moved hnext with ⟨stage, passed, rfl, hstep⟩
  cases hstep with
  | signed hstage hsign =>
      rw [hstage] at hshape
      exact h.stay ⟨⟨_, _, hsign⟩, hshape⟩
  | published hstage =>
      rw [hstage] at hshape
      exact h.stay hshape
  | acknowledged hstage =>
      rw [hstage] at hshape
      rcases hshape with ⟨⟨now, random, hsign⟩, hempty⟩
      exact coherent_pass hempty (AcceptTrail.acknowledged hsign) rfl
  | readied hstage hvalid =>
      rw [hstage] at hshape
      exact h.stay ⟨hvalid, hshape⟩
  | @verified answer ready proof now hstage hverify =>
      rw [hstage] at hshape
      rcases hshape with ⟨hready, hpassed⟩
      rw [hpassed] at htrail
      exact coherent_pass hpassed (AcceptTrail.verified htrail hverify)
        ⟨hready, proof, now, rfl⟩
  | submitted hstage hobservation =>
      rw [hstage] at hshape
      exact h.stay hshape
  | confirmed hstage =>
      rw [hstage] at hshape
      rcases hshape with ⟨hready, proof, now, hpassed⟩
      rw [hpassed] at htrail
      exact coherent_pass hpassed (AcceptTrail.confirmed htrail hready)
        ⟨proof, now, rfl⟩
  | released hstage hrelease =>
      rw [hstage] at hshape
      rcases hshape with ⟨proof, now, hpassed⟩
      rw [hpassed] at htrail
      exact coherent_pass hpassed (AcceptTrail.released htrail hrelease)
        ⟨proof, now, rfl⟩
  | cleaned answer error => exact h.stay trivial
  | failed error => exact h.stay trivial

theorem Coherent.stored {run : Accept P} (h : run.Coherent)
    (result : ClientResult Unit) : (run.stored result).Coherent := by
  have hshape := h.shape
  have htrail := h.trail
  have hheard := run.stored_heard result
  generalize run.stored result = after at hheard ⊢
  cases hheard with
  | committed hstage =>
      rw [hstage] at hshape
      rcases hshape with ⟨hready, proof, now, hpassed⟩
      rw [hpassed] at htrail
      exact coherent_pass hpassed (AcceptTrail.committed htrail)
        ⟨hready, proof, now, rfl⟩
  | refused error hstage => exact h.stay trivial
  | ignored result hidle => exact h

end Accept

/-!
# Initiator trails
-/

/-- The greeting has been signed from one of the client's active records. -/
def Greets (P : Primitives) (client : V1Client) (target : ResolvedV1Device)
    (application : String) (greeting : Greeting) : Prop :=
  exists active now random,
    signGreeting P client active target application now random =
      Except.ok greeting

/-- The initiator accepts this proof of the responder at the given time. -/
def ProvesResponder (P : Primitives) (client : V1Client)
    (target : ResolvedV1Device) (greeting : Greeting) (reply : Reply)
    (proof : V1SignedCurrentnessProof) (now : UInt64) : Prop :=
  proof.verify P target.record greeting.senderRecord greeting.hello
    V1CurrentnessRole.responder reply.ack.claims.responderNonce now
    client.allowInsecureLoopbackRelay = Except.ok ()

inductive DialTrail (P : Primitives) (client : V1Client)
    (target : ResolvedV1Device) (application : String) :
    List Milestone -> Prop where
  | start : DialTrail P client target application []
  | greeted {greeting : Greeting} :
      Greets P client target application greeting ->
      DialTrail P client target application [Milestone.helloSent greeting]
  | acknowledged {greeting : Greeting} {reply : Reply} {now : UInt64}
      {ack : V1SignedAck} :
      DialTrail P client target application [Milestone.helloSent greeting] ->
      signReply P client target application greeting ack now =
        Except.ok reply ->
      DialTrail P client target application
        [Milestone.helloSent greeting, Milestone.ackVerified reply now]
  | verified {greeting : Greeting} {reply : Reply} {now : UInt64}
      {proof : V1SignedCurrentnessProof} {later : UInt64} :
      DialTrail P client target application
        [Milestone.helloSent greeting, Milestone.ackVerified reply now] ->
      ProvesResponder P client target greeting reply proof later ->
      DialTrail P client target application
        [Milestone.helloSent greeting, Milestone.ackVerified reply now,
          Milestone.proofVerified proof later]
  | readied {greeting : Greeting} {reply : Reply} {now : UInt64}
      {proof : V1SignedCurrentnessProof} {later : UInt64}
      {ready : ProofControl} :
      DialTrail P client target application
        [Milestone.helloSent greeting, Milestone.ackVerified reply now,
          Milestone.proofVerified proof later] ->
      readiness P target greeting reply = Except.ok ready ->
      DialTrail P client target application
        [Milestone.helloSent greeting, Milestone.ackVerified reply now,
          Milestone.proofVerified proof later, Milestone.readySent ready]
  | committed {greeting : Greeting} {reply : Reply} {now : UInt64}
      {proof : V1SignedCurrentnessProof} {later : UInt64}
      {ready : ProofControl} :
      DialTrail P client target application
        [Milestone.helloSent greeting, Milestone.ackVerified reply now,
          Milestone.proofVerified proof later, Milestone.readySent ready] ->
      DialTrail P client target application
        [Milestone.helloSent greeting, Milestone.ackVerified reply now,
          Milestone.proofVerified proof later, Milestone.readySent ready,
          Milestone.recordCommitted]
  | released {greeting : Greeting} {reply : Reply} {now : UInt64}
      {proof : V1SignedCurrentnessProof} {later : UInt64}
      {ready : ProofControl} {peer : Peer} :
      DialTrail P client target application
        [Milestone.helloSent greeting, Milestone.ackVerified reply now,
          Milestone.proofVerified proof later, Milestone.readySent ready,
          Milestone.recordCommitted] ->
      releasePeer P target greeting.hello = Except.ok peer ->
      DialTrail P client target application
        [Milestone.helloSent greeting, Milestone.ackVerified reply now,
          Milestone.proofVerified proof later, Milestone.readySent ready,
          Milestone.recordCommitted, Milestone.peerReleased peer]

/-- What the stage of a run says about its trail. -/
def DialShape (client : V1Client) (target : ResolvedV1Device)
    (application : String) : DialStage P -> List Milestone -> Prop
  | DialStage.connected, trail => trail = []
  | DialStage.greeting greeting, trail =>
      Greets P client target application greeting ∧ trail = []
  | DialStage.awaitingAck greeting, trail =>
      trail = [Milestone.helloSent greeting]
  | DialStage.publishing greeting reply, trail => exists now,
      trail = [Milestone.helloSent greeting, Milestone.ackVerified reply now]
  | DialStage.fetching greeting reply ready, trail =>
      readiness P target greeting reply = Except.ok ready ∧ exists now,
        trail = [Milestone.helloSent greeting, Milestone.ackVerified reply now]
  | DialStage.signalling greeting reply ready, trail =>
      readiness P target greeting reply = Except.ok ready ∧
        exists now proof later,
          trail = [Milestone.helloSent greeting,
            Milestone.ackVerified reply now,
            Milestone.proofVerified proof later]
  | DialStage.awaitingConfirmed greeting reply ready, trail =>
      exists now proof later,
        trail = [Milestone.helloSent greeting, Milestone.ackVerified reply now,
          Milestone.proofVerified proof later, Milestone.readySent ready]
  | DialStage.committing greeting reply ready, trail =>
      exists now proof later,
        trail = [Milestone.helloSent greeting, Milestone.ackVerified reply now,
          Milestone.proofVerified proof later, Milestone.readySent ready]
  | DialStage.storing greeting reply ready _, trail =>
      exists now proof later,
        trail = [Milestone.helloSent greeting, Milestone.ackVerified reply now,
          Milestone.proofVerified proof later, Milestone.readySent ready]
  | DialStage.deleting greeting reply (Except.ok ready), trail =>
      exists now proof later,
        trail = [Milestone.helloSent greeting, Milestone.ackVerified reply now,
          Milestone.proofVerified proof later, Milestone.readySent ready,
          Milestone.recordCommitted]
  | DialStage.deleting _ _ (Except.error _), _ => True
  | DialStage.released greeting reply ready peer, trail =>
      exists now proof later,
        trail = [Milestone.helloSent greeting, Milestone.ackVerified reply now,
          Milestone.proofVerified proof later, Milestone.readySent ready,
          Milestone.recordCommitted, Milestone.peerReleased peer]
  | DialStage.failed _, _ => True

structure Dial.Coherent (client : V1Client) (run : Dial P) : Prop where
  trail : DialTrail P client run.target run.application run.trail
  shape : DialShape client run.target run.application run.stage run.trail

namespace Dial

variable {client : V1Client}

theorem coherent_connected (target : ResolvedV1Device) (application : String) :
    Dial.Coherent client
      ({ target := target
         application := application
         stage := DialStage.connected
         trail := [] } : Dial P) :=
  ⟨DialTrail.start, rfl⟩

/-- A step that passes no milestone needs only the shape of its new stage. -/
theorem Coherent.stay {run : Dial P} (h : run.Coherent client)
    {stage : DialStage P}
    (hshape : DialShape client run.target run.application stage run.trail) :
    (run.moveTo stage []).Coherent client := by
  constructor
  · change DialTrail P client run.target run.application (run.trail ++ [])
    rw [List.append_nil]
    exact h.trail
  · change DialShape client run.target run.application stage (run.trail ++ [])
    rw [List.append_nil]
    exact hshape

theorem coherent_pass {run : Dial P} {stage : DialStage P}
    {earlier passed : List Milestone} (hpassed : run.trail = earlier)
    (htrail : DialTrail P client run.target run.application (earlier ++ passed))
    (hshape : DialShape client run.target run.application stage
      (earlier ++ passed)) :
    (run.moveTo stage passed).Coherent client := by
  subst hpassed
  exact ⟨htrail, hshape⟩

/-- Every await of an initiator keeps its trail and its stage coherent. -/
theorem Coherent.next {run after : Dial P} (h : run.Coherent client)
    {active : ActiveRecords} {event : DialEvent P}
    (hnext : run.next client active event = some after) :
    after.Coherent client := by
  have hshape := h.shape
  have htrail := h.trail
  rcases next_moved hnext with ⟨stage, passed, rfl, hstep⟩
  cases hstep with
  | signed hstage hsign =>
      rw [hstage] at hshape
      exact h.stay ⟨⟨active, _, _, hsign⟩, hshape⟩
  | greeted hstage =>
      rw [hstage] at hshape
      rcases hshape with ⟨hgreets, hempty⟩
      exact coherent_pass hempty (DialTrail.greeted hgreets) rfl
  | @acknowledged greeting ack now reply hstage hreply =>
      rw [hstage] at hshape
      change run.trail = [Milestone.helloSent greeting] at hshape
      rw [hshape] at htrail
      exact coherent_pass hshape (DialTrail.acknowledged htrail hreply)
        ⟨now, rfl⟩
  | published hstage hready =>
      rw [hstage] at hshape
      exact h.stay ⟨hready, hshape⟩
  | @verified greeting reply ready proof later hstage hverify =>
      rw [hstage] at hshape
      rcases hshape with ⟨hready, now, hpassed⟩
      rw [hpassed] at htrail
      exact coherent_pass hpassed (DialTrail.verified htrail hverify)
        ⟨hready, now, proof, later, rfl⟩
  | readied hstage =>
      rw [hstage] at hshape
      rcases hshape with ⟨hready, now, proof, later, hpassed⟩
      rw [hpassed] at htrail
      exact coherent_pass hpassed (DialTrail.readied htrail hready)
        ⟨now, proof, later, rfl⟩
  | confirmed hstage =>
      rw [hstage] at hshape
      exact h.stay hshape
  | submitted hstage hobservation =>
      rw [hstage] at hshape
      exact h.stay hshape
  | released hstage hrelease =>
      rw [hstage] at hshape
      rcases hshape with ⟨now, proof, later, hpassed⟩
      rw [hpassed] at htrail
      exact coherent_pass hpassed (DialTrail.released htrail hrelease)
        ⟨now, proof, later, rfl⟩
  | cleaned greeting reply error => exact h.stay trivial
  | failed error => exact h.stay trivial

theorem Coherent.stored {run : Dial P} (h : run.Coherent client)
    (result : ClientResult Unit) : (run.stored result).Coherent client := by
  have hshape := h.shape
  have htrail := h.trail
  have hheard := run.stored_heard result
  generalize run.stored result = after at hheard ⊢
  cases hheard with
  | committed hstage =>
      rw [hstage] at hshape
      rcases hshape with ⟨now, proof, later, hpassed⟩
      rw [hpassed] at htrail
      exact coherent_pass hpassed (DialTrail.committed htrail)
        ⟨now, proof, later, rfl⟩
  | refused error hstage => exact h.stay trivial
  | ignored result hidle => exact h

end Dial

/-!
# What a milestone says about the trail before it
-/

/-- A responder that answers has checked and committed everything before. -/
structure ConfirmedBy (P : Primitives) (pending : PendingV1) (answer : Answer)
    (proof : V1SignedCurrentnessProof) (now : UInt64) (ready : ProofControl) :
    Prop where
  answers : Answers P pending answer
  proves : ProvesInitiator P pending answer proof now
  readied : Readied P pending answer ready

theorem AcceptTrail.answers {pending : PendingV1} {answer : Answer}
    (h : AcceptTrail P pending [Milestone.ackSent answer]) :
    Answers P pending answer := by
  cases h with
  | acknowledged hsign => exact ⟨_, _, hsign⟩

theorem AcceptTrail.proves {pending : PendingV1} {answer : Answer}
    {proof : V1SignedCurrentnessProof} {now : UInt64}
    (h : AcceptTrail P pending
      [Milestone.ackSent answer, Milestone.proofVerified proof now]) :
    Answers P pending answer ∧ ProvesInitiator P pending answer proof now := by
  cases h with
  | verified hacknowledged hproves => exact ⟨hacknowledged.answers, hproves⟩

theorem AcceptTrail.confirmedBy {pending : PendingV1} {answer : Answer}
    {proof : V1SignedCurrentnessProof} {now : UInt64} {control : ProofControl}
    (h : AcceptTrail P pending
      [Milestone.ackSent answer, Milestone.proofVerified proof now,
        Milestone.recordCommitted, Milestone.confirmedSent control]) :
    exists ready, control = confirmation answer ready ∧
      ConfirmedBy P pending answer proof now ready := by
  cases h with
  | confirmed hcommitted hreadied =>
      cases hcommitted with
      | committed hverified =>
          exact ⟨_, rfl, hverified.proves.left, hverified.proves.right,
            hreadied⟩

theorem AcceptTrail.of_confirmed {pending : PendingV1}
    {trail : List Milestone} {control : ProofControl}
    (h : AcceptTrail P pending trail)
    (hcontrol : Milestone.confirmedSent control ∈ trail) :
    exists answer proof now ready rest,
      trail = [Milestone.ackSent answer, Milestone.proofVerified proof now,
        Milestone.recordCommitted, Milestone.confirmedSent control] ++ rest ∧
      control = confirmation answer ready ∧
      ConfirmedBy P pending answer proof now ready := by
  cases h with
  | start => cases hcontrol
  | acknowledged _ => simp at hcontrol
  | verified _ _ => simp at hcontrol
  | committed _ => simp at hcontrol
  | confirmed hcommitted hreadied =>
      have hsame := by simpa using hcontrol
      have hfull := AcceptTrail.confirmed hcommitted hreadied
      rcases hfull.confirmedBy with ⟨ready, hready, hconfirmed⟩
      subst hsame
      exact ⟨_, _, _, ready, [], rfl, hready, hconfirmed⟩
  | released hfull _ =>
      have hsame := by simpa using hcontrol
      rcases hfull.confirmedBy with ⟨ready, hready, hconfirmed⟩
      subst hsame
      exact ⟨_, _, _, ready, [_], rfl, hready, hconfirmed⟩

theorem AcceptTrail.of_released {pending : PendingV1}
    {trail : List Milestone} {peer : Peer} (h : AcceptTrail P pending trail)
    (hpeer : Milestone.peerReleased peer ∈ trail) :
    exists answer proof now ready,
      trail = [Milestone.ackSent answer, Milestone.proofVerified proof now,
        Milestone.recordCommitted,
        Milestone.confirmedSent (confirmation answer ready),
        Milestone.peerReleased peer] ∧
      ConfirmedBy P pending answer proof now ready ∧
      releasePeer P pending.sender pending.hello = Except.ok peer := by
  cases h with
  | start => cases hpeer
  | acknowledged _ => simp at hpeer
  | verified _ _ => simp at hpeer
  | committed _ => simp at hpeer
  | confirmed _ _ => simp at hpeer
  | released hfull hrelease =>
      have hsame := by simpa using hpeer
      rcases hfull.confirmedBy with ⟨ready, hready, hconfirmed⟩
      subst hready hsame
      exact ⟨_, _, _, ready, rfl, hconfirmed, hrelease⟩

/-- An initiator that signals has checked the Ack and the responder's proof. -/
structure ReadiedBy (P : Primitives) (client : V1Client)
    (target : ResolvedV1Device) (application : String) (greeting : Greeting)
    (reply : Reply) (now : UInt64) (proof : V1SignedCurrentnessProof)
    (later : UInt64) (ready : ProofControl) : Prop where
  greets : Greets P client target application greeting
  replies : signReply P client target application greeting reply.ack now =
    Except.ok reply
  proves : ProvesResponder P client target greeting reply proof later
  readiness : readiness P target greeting reply = Except.ok ready

section Dialing

variable {client : V1Client} {target : ResolvedV1Device} {application : String}

theorem DialTrail.greets {greeting : Greeting}
    (h : DialTrail P client target application [Milestone.helloSent greeting]) :
    Greets P client target application greeting := by
  cases h with
  | greeted hgreets => exact hgreets

theorem DialTrail.replies {greeting : Greeting} {reply : Reply} {now : UInt64}
    (h : DialTrail P client target application
      [Milestone.helloSent greeting, Milestone.ackVerified reply now]) :
    Greets P client target application greeting ∧
      signReply P client target application greeting reply.ack now =
        Except.ok reply := by
  cases h with
  | acknowledged hgreeted hreply =>
      rw [signReply_ack hreply]
      exact ⟨hgreeted.greets, hreply⟩

theorem DialTrail.readiedBy {greeting : Greeting} {reply : Reply}
    {now : UInt64} {proof : V1SignedCurrentnessProof} {later : UInt64}
    {ready : ProofControl}
    (h : DialTrail P client target application
      [Milestone.helloSent greeting, Milestone.ackVerified reply now,
        Milestone.proofVerified proof later, Milestone.readySent ready]) :
    ReadiedBy P client target application greeting reply now proof later
      ready := by
  cases h with
  | readied hverified hready =>
      cases hverified with
      | verified hacknowledged hproves =>
          exact ⟨hacknowledged.replies.left, hacknowledged.replies.right,
            hproves, hready⟩

theorem DialTrail.of_readied {trail : List Milestone} {ready : ProofControl}
    (h : DialTrail P client target application trail)
    (hready : Milestone.readySent ready ∈ trail) :
    exists greeting reply now proof later rest,
      trail = [Milestone.helloSent greeting, Milestone.ackVerified reply now,
        Milestone.proofVerified proof later, Milestone.readySent ready] ++
          rest ∧
      ReadiedBy P client target application greeting reply now proof later
        ready := by
  cases h with
  | start => cases hready
  | greeted _ => simp at hready
  | acknowledged _ _ => simp at hready
  | verified _ _ => simp at hready
  | readied hverified hreadiness =>
      have hsame := by simpa using hready
      subst hsame
      exact ⟨_, _, _, _, _, [], rfl,
        (DialTrail.readied hverified hreadiness).readiedBy⟩
  | committed hreadied =>
      have hsame := by simpa using hready
      subst hsame
      exact ⟨_, _, _, _, _, [_], rfl, hreadied.readiedBy⟩
  | released hcommitted _ =>
      have hsame := by simpa using hready
      subst hsame
      cases hcommitted with
      | committed hreadied =>
          exact ⟨_, _, _, _, _, [_, _], rfl, hreadied.readiedBy⟩

theorem DialTrail.of_released {trail : List Milestone} {peer : Peer}
    (h : DialTrail P client target application trail)
    (hpeer : Milestone.peerReleased peer ∈ trail) :
    exists greeting reply now proof later ready,
      trail = [Milestone.helloSent greeting, Milestone.ackVerified reply now,
        Milestone.proofVerified proof later, Milestone.readySent ready,
        Milestone.recordCommitted, Milestone.peerReleased peer] ∧
      ReadiedBy P client target application greeting reply now proof later
        ready ∧
      releasePeer P target greeting.hello = Except.ok peer := by
  cases h with
  | start => cases hpeer
  | greeted _ => simp at hpeer
  | acknowledged _ _ => simp at hpeer
  | verified _ _ => simp at hpeer
  | readied _ _ => simp at hpeer
  | committed _ => simp at hpeer
  | released hcommitted hrelease =>
      have hsame := by simpa using hpeer
      subst hsame
      cases hcommitted with
      | committed hreadied =>
          exact ⟨_, _, _, _, _, _, rfl, hreadied.readiedBy, hrelease⟩

end Dialing

/-!
# What the signed messages say
-/

/-- The content of a Hello that the initiator has signed. -/
structure GreetingFor (P : Primitives) (client : V1Client)
    (target : ResolvedV1Device) (application : String) (greeting : Greeting) :
    Prop where
  sender : greeting.hello.claims.fromDeviceRecord = greeting.senderRecord
  own : greeting.senderRecord.certificate = client.credential.certificate
  target : greeting.hello.claims.targetDeviceRecordDigest =
    target.record.digest P
  application : greeting.hello.claims.application = application

theorem signWithPolicy_claims {credential : V1DeviceCredential}
    {senderRecord targetRecord : V1DeviceRecord}
    {application sessionNonce : String} {validity : UInt64 × UInt64}
    {allowLoopbackDev : Bool} {hello : V1SignedHello}
    (h : V1SignedHello.signWithPolicy P credential senderRecord targetRecord
      application sessionNonce validity allowLoopbackDev = Except.ok hello) :
    senderRecord.certificate = credential.certificate ∧
      hello.claims.fromDeviceRecord = senderRecord ∧
      hello.claims.targetDeviceRecordDigest = targetRecord.digest P ∧
      hello.claims.application = application ∧
      hello.claims.sessionNonce = sessionNonce := by
  unfold V1SignedHello.signWithPolicy at h
  simp only [bind_eq_ok, rejectIf_eq_ok, exists_unit, pure_eq_ok, not_or,
    not_not] at h
  rcases h with ⟨⟨_, hcertificate⟩, _, _, _, key, _, _, rfl⟩
  exact ⟨hcertificate, rfl, rfl, rfl, rfl⟩

theorem signGreeting_eq_ok {client : V1Client} {active : ActiveRecords}
    {target : ResolvedV1Device} {application : String} {now : UInt64}
    {random : P.Keypair} {greeting : Greeting}
    (h : signGreeting P client active target application now random =
      Except.ok greeting) :
    GreetingFor P client target application greeting ∧
      greeting.hello.claims.sessionNonce = v1RandomChallenge P random := by
  unfold signGreeting at h
  simp only [bind_eq_ok, okOr_eq_ok, rejectIf_eq_ok, exists_unit, pure_eq_ok]
    at h
  rcases h with ⟨senderRecord, _, _, hello, hsign, rfl⟩
  have hsigned : exists validity allowLoopbackDev,
      V1SignedHello.signWithPolicy P client.credential senderRecord
        target.record application (v1RandomChallenge P random) validity
        allowLoopbackDev = Except.ok hello := by
    rw [fromProtocol_eq_ok] at hsign
    split at hsign
    · exact ⟨_, true, hsign⟩
    · exact ⟨_, false, hsign⟩
  rcases hsigned with ⟨validity, allowLoopbackDev, hsigned⟩
  rcases signWithPolicy_claims hsigned with
    ⟨hown, hsender, htarget, happlication, hnonce⟩
  exact ⟨⟨hsender, hown, htarget, happlication⟩, hnonce⟩

theorem signWithPolicy_nonce {credential : V1DeviceCredential}
    {hello : V1SignedHello} {initiatorRecord responderRecord : V1DeviceRecord}
    {responderNonce : String} {validity : UInt64 × UInt64}
    {allowLoopbackDev : Bool} {ack : V1SignedAck}
    (h : V1SignedAck.signWithPolicy P credential hello initiatorRecord
      responderRecord responderNonce validity allowLoopbackDev =
        Except.ok ack) :
    ack.claims.responderNonce = responderNonce := by
  unfold V1SignedAck.signWithPolicy at h
  simp only [bind_eq_ok, rejectIf_eq_ok, exists_unit, pure_eq_ok] at h
  rcases h with ⟨_, _, _, key, _, _, rfl⟩
  rfl

/-- The Ack and the proof of an answer are signed with its own challenge. -/
theorem signAnswer_eq_ok {pending : PendingV1} {now : UInt64}
    {random : P.Keypair} {answer : Answer}
    (h : signAnswer P pending now random = Except.ok answer) :
    V1SignedAck.signWithPolicy P pending.localCredential pending.hello
        pending.sender.record pending.target.record answer.challenge
        (now, acceptExpiry pending.hello now)
        pending.allowInsecureLoopbackRelay = Except.ok answer.ack ∧
      V1SignedCurrentnessProof.sign P pending.localCredential
        pending.target.record pending.sender.record pending.hello
        V1CurrentnessRole.responder answer.challenge now
        (acceptExpiry pending.hello now) pending.allowInsecureLoopbackRelay =
          Except.ok answer.proof := by
  unfold signAnswer at h
  simp only [bind_eq_ok, rejectIf_eq_ok, exists_unit, pure_eq_ok,
    fromProtocol_eq_ok] at h
  rcases h with ⟨_, ack, hsign, proof, hproof, rfl⟩
  refine ⟨?_, hproof⟩
  split at hsign
  · rename_i hallow
    rw [hallow]
    exact hsign
  · rename_i hallow
    rw [Bool.not_eq_true] at hallow
    rw [hallow]
    exact hsign

theorem signAnswer_challenge {pending : PendingV1} {now : UInt64}
    {random : P.Keypair} {answer : Answer}
    (h : signAnswer P pending now random = Except.ok answer) :
    answer.ack.claims.responderNonce = answer.challenge :=
  signWithPolicy_nonce (signAnswer_eq_ok h).left

/-- What a responder knows of the Hello it has queued. -/
structure Admitted (P : Primitives) (pending : PendingV1)
    (remoteEndpoint : P.PublicKey) : Prop where
  sender : pending.sender.record = pending.hello.claims.fromDeviceRecord
  target : pending.hello.claims.targetDeviceRecordDigest =
    pending.target.record.digest P
  endpoint : P.tryFromZ32
    pending.sender.record.certificate.claims.irohEndpointId =
      some remoteEndpoint

theorem authenticateIncomingV1_eq_ok {client : V1Client}
    {active : ActiveRecords} {remoteEndpoint : P.PublicKey}
    {hello : V1SignedHello} {lookupAt verifyAt queuedAt : UInt64}
    {pending : PendingV1}
    (h : authenticateIncomingV1 P client active remoteEndpoint hello lookupAt
      verifyAt queuedAt = Except.ok pending) :
    pending.hello = hello ∧ Admitted P pending remoteEndpoint := by
  unfold authenticateIncomingV1 at h
  simp only [bind_eq_ok, rejectIf_eq_ok, okOr_eq_ok, exists_unit, pure_eq_ok,
    not_not] at h
  rcases h with ⟨_, target, _, hverify, _, certified, hcertified, hsame, _,
    senderPath, _, targetPath, _, rfl⟩
  rw [fromProtocol_eq_ok] at hverify
  rcases V1SignedHello.verify_eq_ok.mp hverify with
    ⟨senderGrant, targetGrant, hauthentic, _⟩
  rw [hsame] at hcertified
  exact ⟨rfl, rfl, hauthentic.bound.targetDigest, hcertified⟩

theorem authenticateIncomingV1_of_ok {client : V1Client}
    {active : ActiveRecords} {remoteEndpoint : P.PublicKey}
    {hello : V1SignedHello} {lookupAt verifyAt queuedAt : UInt64}
    {target : V1DeviceRecord} {senderPath targetPath : String}
    (happlication : client.acceptedApplications.contains
      hello.claims.application = true)
    (htarget : (retainCurrent active lookupAt).lookup
      hello.claims.targetDeviceRecordDigest = some target)
    (hverify : hello.verify P hello.claims.fromDeviceRecord target
      hello.claims.application verifyAt client.allowInsecureLoopbackRelay =
        Except.ok ())
    (hown : ¬ (target.certificate ≠ client.credential.certificate ∨
      target.authorization ≠ client.credential.authorization ∨
      target.certificate.claims.identity ≠ client.credential.identity))
    (hcertified : P.tryFromZ32
      hello.claims.fromDeviceRecord.certificate.claims.irohEndpointId =
        some remoteEndpoint)
    (hlive : saturatingSub hello.claims.expiresAt queuedAt ≠ 0)
    (hsenderPath : hello.claims.fromDeviceRecord.path P = Except.ok senderPath)
    (htargetPath : target.path P = Except.ok targetPath) :
    authenticateIncomingV1 P client active remoteEndpoint hello lookupAt
        verifyAt queuedAt =
      Except.ok
        { localCredential := client.credential
          sender :=
            { path := senderPath, record := hello.claims.fromDeviceRecord }
          target := { path := targetPath, record := target }
          hello := hello
          allowInsecureLoopbackRelay := client.allowInsecureLoopbackRelay } := by
  have happlied : ¬ client.acceptedApplications.contains
      hello.claims.application = false := by
    rw [happlication]
    exact Bool.noConfusion
  unfold authenticateIncomingV1
  simp only [bind_eq_ok, rejectIf_eq_ok, okOr_eq_ok, exists_unit, pure_eq_ok,
    fromProtocol_eq_ok]
  exact ⟨happlied, target, htarget, hverify, hown, remoteEndpoint, hcertified,
    not_not.mpr rfl, hlive, senderPath, hsenderPath, targetPath, htargetPath, rfl⟩

theorem dialDevice_of_ok {client : V1Client} {target : ResolvedV1Device}
    {remoteEndpoint : P.PublicKey} {now : UInt64}
    (hverify : target.record.verify P target.record.certificate.claims.identity
      now client.allowInsecureLoopbackRelay none = Except.ok ())
    (hpath : target.record.path P = Except.ok target.path)
    (hendpoint : P.tryFromZ32 target.record.certificate.claims.irohEndpointId =
      some remoteEndpoint) :
    dialDevice P client target remoteEndpoint now = Except.ok () := by
  unfold dialDevice
  simp only [bind_eq_ok, rejectIf_eq_ok, okOr_eq_ok, exists_unit,
    fromProtocol_eq_ok]
  exact ⟨hverify, target.path, hpath, not_not.mpr rfl, remoteEndpoint, hendpoint,
    not_not.mpr rfl⟩

theorem dialDevice_endpoint {client : V1Client} {target : ResolvedV1Device}
    {remoteEndpoint : P.PublicKey} {now : UInt64}
    (h : dialDevice P client target remoteEndpoint now = Except.ok ()) :
    P.tryFromZ32 target.record.certificate.claims.irohEndpointId =
      some remoteEndpoint := by
  unfold dialDevice at h
  simp only [bind_eq_ok, rejectIf_eq_ok, okOr_eq_ok, exists_unit, not_not] at h
  rcases h with ⟨_, path, _, _, expectedId, hexpected, hsame⟩
  rw [hexpected, hsame]

end Client
end Pubky2Pubky
