import Pubky2Pubky.Protocol.Reference
import Pubky2Pubky.Client.Deadline
import Pubky2Pubky.Client.Agreement
import Pubky2Pubky.Client.Discovery

/-!
# What a client guarantees

Anti-rollback holds for one client in any environment. Session agreement holds
for a fleet of clients whose environment respects keys, channels and randomness.
-/

namespace Pubky2Pubky
namespace Client

open Foundation Protocol

/-!
# Two sample devices
-/

namespace Sample

open Protocol.Reference

theorem irohEndpointId_eq (keys : DeviceKeys) :
    sample.tryFromZ32 keys.record.certificate.claims.irohEndpointId =
      some keys.iroh := by
  have hname : keys.record.certificate.claims.irohEndpointId =
      sample.z32 keys.iroh := rfl
  rw [hname]
  exact Primitives.Lawful.tryFromZ32_z32 (P := sample) keys.iroh

theorem retainCurrent_active (keys : DeviceKeys) {wall : UInt64}
    (hstop : wall < (1090 : UInt64)) :
    retainCurrent (active keys) wall = active keys := by
  unfold retainCurrent active
  rw [List.filter_cons_of_pos]
  · rfl
  · apply decide_eq_true
    change wall < (1900 : UInt64)
    exact UInt64.lt_trans hstop (by decide)

def resolved (keys : DeviceKeys) (path : String) : ResolvedV1Device :=
  { path := path
    record := keys.record }

def greetingFrom (caller : DeviceKeys) : Greeting :=
  { senderRecord := caller.record
    hello := caller.hello }

theorem recordObservation_keys (keys : DeviceKeys) :
    exists observation, recordObservation sample keys.record =
      Except.ok observation := by
  have hidentity : keys.record.certificate.claims.identity =
      sample.z32 grantClaims.iss := rfl
  have hcontrol : keys.record.certificate.claims.controlSigningKey =
      sample.z32 keys.control := rfl
  exact recordObservation_exists hidentity hcontrol keys.positive

theorem releasePeer_hello (caller remote : DeviceKeys) (path : String) :
    exists peer, releasePeer sample (resolved remote path) caller.hello =
      Except.ok peer := by
  have hnonce : caller.hello.claims.sessionNonce =
      v1RandomChallenge sample (keyOf 7) := rfl
  exact releasePeer_exists hnonce

theorem remoteObservation_eq {keys : DeviceKeys} {path : String}
    {observation : AuthenticatedSequenceObservation sample}
    (hpath : keys.record.path sample = Except.ok path)
    (hobserved : recordObservation sample keys.record =
      Except.ok observation) :
    remoteObservation sample (resolved keys path) 1060 false =
      Except.ok observation :=
  remoteObservation_of_ok (keys.record_verify (by decide) (by decide)) hpath
    hobserved

/-- What a caller and the phone make of each other in one session. -/
structure Encounter (caller : DeviceKeys) where
  callerPath : String
  phonePath : String
  answer : Answer
  reply : Reply
  ready : ProofControl
  callerObservation : AuthenticatedSequenceObservation sample
  phoneObservation : AuthenticatedSequenceObservation sample
  callerPeer : Peer
  phonePeer : Peer
  callerPathed : caller.record.path sample = Except.ok callerPath
  phonePathed : phone.record.path sample = Except.ok phonePath
  answered : signAnswer sample (pendingFrom caller callerPath phonePath) 1060
    (keyOf 8) = Except.ok answer
  replied : signReply sample (client caller) (resolved phone phonePath) "chat"
    (greetingFrom caller) answer.ack 1060 = Except.ok reply
  readied : readiness sample (resolved phone phonePath) (greetingFrom caller)
    reply = Except.ok ready
  callerObserved : recordObservation sample caller.record =
    Except.ok callerObservation
  phoneObserved : recordObservation sample phone.record =
    Except.ok phoneObservation
  callerReleased : releasePeer sample (resolved caller callerPath)
    caller.hello = Except.ok callerPeer
  phoneReleased : releasePeer sample (resolved phone phonePath) caller.hello =
    Except.ok phonePeer

theorem encounter_exists {caller : DeviceKeys} (h : caller.Caller) :
    Nonempty (Encounter caller) := by
  rcases answer_exists h caller.path phone.path with ⟨answer, hanswer, hchallenge⟩
  rcases V1SignedAck.signWithPolicy_verify (signAnswer_eq_ok hanswer).left with
    ⟨hissued, hexpires, hnonce, hverify⟩
  replace hexpires : answer.ack.claims.expiresAt = 1090 :=
    hexpires.trans (acceptExpiry_hello caller)
  rcases h.answer_sign with ⟨proof, hproof⟩
  have hreply : signReply sample (client caller) (resolved phone phone.path)
      "chat" (greetingFrom caller) answer.ack 1060 =
        Except.ok { ack := answer.ack, proof := proof } := by
    apply signReply_of_ok
    · exact hverify
    · rw [hissued, hexpires, hnonce, hchallenge]
      exact hproof
  have hform : validateChallenge sample answer.ack.claims.responderNonce
      "v1 currentness challenge" = Except.ok () := by
    rw [hnonce, hchallenge]
    exact validateChallenge_v1RandomChallenge _ _
  rcases readiness_exists hreply hform with ⟨ready, hready⟩
  rcases recordObservation_keys caller with ⟨callerObservation, hcallerObserved⟩
  rcases recordObservation_keys phone with ⟨phoneObservation, hphoneObserved⟩
  rcases releasePeer_hello caller caller caller.path with
    ⟨callerPeer, hcallerReleased⟩
  rcases releasePeer_hello caller phone phone.path with
    ⟨phonePeer, hphoneReleased⟩
  exact
    ⟨{ callerPath := caller.path
       phonePath := phone.path
       answer := answer
       reply := _
       ready := ready
       callerObservation := callerObservation
       phoneObservation := phoneObservation
       callerPeer := callerPeer
       phonePeer := phonePeer
       callerPathed := caller.record_path
       phonePathed := phone.record_path
       answered := hanswer
       replied := hreply
       readied := hready
       callerObserved := hcallerObserved
       phoneObserved := hphoneObserved
       callerReleased := hcallerReleased
       phoneReleased := hphoneReleased }⟩

namespace Encounter

variable {caller : DeviceKeys} (e : Encounter caller)

def pending : PendingV1 :=
  pendingFrom caller e.callerPath e.phonePath

theorem responderNonce :
    e.answer.ack.claims.responderNonce = e.answer.challenge :=
  signAnswer_challenge e.answered

theorem authenticated (h : caller.Caller) :
    authenticateIncomingV1 sample (client phone) (active phone) caller.iroh
      caller.hello 1060 1060 1060 = Except.ok e.pending := by
  have hlookup : (retainCurrent (active phone) 1060).lookup
      caller.hello.claims.targetDeviceRecordDigest = some phone.record := by
    rw [retainCurrent_active phone (by decide)]
    exact List.lookup_cons_self
  exact authenticateIncomingV1_of_ok rfl hlookup h.hello_verify_start
    (by simp only [not_or, not_not]; exact ⟨rfl, rfl, rfl⟩)
    (irohEndpointId_eq caller)
    (show saturatingSub 1090 1060 ≠ 0 by decide) e.callerPathed e.phonePathed

theorem validated : validateProofControl sample e.ready e.answer.challenge
    caller.hello caller.record phone.record = Except.ok () := by
  have hvalid := readiness_valid e.replied e.readied
  rw [e.responderNonce] at hvalid
  exact hvalid

theorem proved : e.reply.proof.verify sample caller.record phone.record
    caller.hello V1CurrentnessRole.initiator e.answer.challenge 1060 false =
      Except.ok () := by
  rcases signReply_eq_ok e.replied with ⟨_, _, hsign⟩
  rcases V1SignedAck.signWithPolicy_verify (signAnswer_eq_ok e.answered).left
    with ⟨hissued, _, hnonce, _⟩
  rw [hissued, hnonce] at hsign
  have hverify := (V1SignedCurrentnessProof.sign_verify hsign).right.right
  exact hverify

theorem answerProved : e.answer.proof.verify sample phone.record caller.record
    caller.hello V1CurrentnessRole.responder
    e.reply.ack.claims.responderNonce 1060 false = Except.ok () := by
  rw [signReply_ack e.replied, e.responderNonce]
  have hverify := (V1SignedCurrentnessProof.sign_verify
    (signAnswer_eq_ok e.answered).right).right.right
  exact hverify

theorem dialed : dialDevice sample (client caller) (resolved phone e.phonePath)
    phone.iroh 1060 = Except.ok () :=
  dialDevice_of_ok (phone.record_verify (by decide) (by decide)) e.phonePathed
    (irohEndpointId_eq phone)

theorem greeted (h : caller.Caller) : signGreeting sample (client caller)
    (active caller) (resolved phone e.phonePath) "chat" 1060 (keyOf 7) =
      Except.ok (greetingFrom caller) := by
  have hselect : selectRecord (retainCurrent (active caller) 1060) =
      some caller.record := by
    rw [retainCurrent_active caller (by decide)]
    rfl
  have hexpiry : min (min (min (min (saturatingAdd 1060
      (min v1MaxHandshakeLifetimeSeconds 30))
      caller.record.locator.claims.expiresAt)
      (resolved phone e.phonePath).record.locator.claims.expiresAt)
      caller.record.certificate.claims.expiresAt)
      (resolved phone e.phonePath).record.certificate.claims.expiresAt =
        1090 := by
    change min (min (min (min (saturatingAdd 1060 (min 120 30)) 1900) 1900)
      500000) 500000 = (1090 : UInt64)
    decide
  unfold signGreeting
  simp only [bind_eq_ok, okOr_eq_ok, rejectIf_eq_ok, exists_unit, pure_eq_ok,
    fromProtocol_eq_ok]
  refine ⟨caller.record, hselect, ?_, caller.hello, ?_, rfl⟩
  · rw [hexpiry]
    decide
  · rw [hexpiry]
    exact h.hello_sign

theorem confirms : confirmation e.answer e.ready = e.ready :=
  confirmation_eq e.replied e.readied e.responderNonce.symm

end Encounter

/-!
# A sender that goes back
-/

abbrev Memory : SequenceStore sample :=
  sequenceStore sample StoreKind.memory

def fresh : ClientState Memory :=
  { active := []
    store := (∅ : SequenceState)
    accepts := fun _ => none
    dials := fun _ => none
    jobs := fun _ => none
    attempts := [] }

theorem fresh_initial : fresh.Initial :=
  ⟨rfl, rfl, rfl, rfl, rfl⟩

def started (keys : DeviceKeys) : ClientState Memory :=
  { fresh with active := active keys }

theorem fresh_register (keys : DeviceKeys) :
    fresh.next (client keys) (ClientLabel.register keys.sequence 900 1000) =
      some (started keys) :=
  ClientState.register_of_ok (currentRecord_eq keys)

theorem started_reachable (keys : DeviceKeys) :
    (machine (client keys) Memory).Reachable (started keys) := by
  exact Machine.ReachableWhen.step (a := ClientLabel.register keys.sequence 900 1000)
    (Machine.ReachableWhen.start fresh_initial) trivial (fresh_register keys)

section Accepting

variable {caller : DeviceKeys} (e : Encounter caller) {connection : Nat}

namespace Encounter

def accepting (stage : AcceptStage sample) (trail : List Milestone) :
    Accept sample :=
  { pending := e.pending
    stage := stage
    trail := trail }

theorem next_incoming (h : caller.Caller) {s : ClientState Memory}
    (hactive : s.active = active phone) (hfree : s.accepts connection = none) :
    s.next (client phone) (ClientLabel.incoming connection caller.iroh
        caller.hello 1060 1060 1060) =
      some (s.withAccept connection (e.accepting AcceptStage.queued [])) := by
  have hauthentic := e.authenticated h
  rw [← hactive] at hauthentic
  exact ClientState.incoming_of_ok hfree hauthentic

/-- The awaits from the consent to the commit. -/
theorem committing_reachable (hcaller : caller.Caller) {s : ClientState Memory}
    (h : (machine (client phone) Memory).Reachable s)
    (hactive : s.active = active phone) (hfree : s.accepts connection = none) :
    (machine (client phone) Memory).Reachable (s.withAccept connection
      (e.accepting (AcceptStage.committing e.answer e.ready)
        [Milestone.ackSent e.answer,
          Milestone.proofVerified e.reply.proof 1060])) := by
  have hqueued := machine_step h (e.next_incoming hcaller hactive hfree)
  have hsigned := machine_step hqueued (ClientState.withAccept_step
    (AcceptStep.signed rfl e.answered) trivial rfl)
  have hpublished := machine_step hsigned (ClientState.withAccept_step
    (AcceptStep.published rfl) trivial rfl)
  have hacknowledged := machine_step hpublished (ClientState.withAccept_step
    (AcceptStep.acknowledged rfl) trivial rfl)
  have hready := machine_step hacknowledged (ClientState.withAccept_step
    (AcceptStep.readied rfl e.validated) trivial rfl)
  exact machine_step hready (ClientState.withAccept_step
    (AcceptStep.verified rfl e.proved) trivial rfl)

/-- The attempt of the phone to commit the record of the caller. -/
def attempting (s : ClientState Memory) (connection : Nat) : Attempt Memory :=
  s.attempt (SessionId.inbound connection) none
    { record := caller.record, observation := e.callerObservation }

theorem commits (connection : Nat) {s : ClientState Memory}
    (hjob : s.jobs (SessionId.inbound connection) = none)
    {result : ClientResult Unit}
    (hresult : (e.attempting s connection).result = result) :
    exists middle,
      (s.withAccept connection
          (e.accepting (AcceptStage.committing e.answer e.ready)
            [Milestone.ackSent e.answer,
              Milestone.proofVerified e.reply.proof 1060])).next (client phone)
          (ClientLabel.accept connection (AcceptEvent.commit 1060)) =
        some middle ∧
      middle.next (client phone)
          (ClientLabel.store (SessionId.inbound connection) none) =
        some ((s.settled (e.attempting s connection)).withAccept connection
          ((e.accepting
            (AcceptStage.storing e.answer e.ready e.callerObservation)
            [Milestone.ackSent e.answer,
              Milestone.proofVerified e.reply.proof 1060]).stored result)) := by
  have hmapped : (e.attempting s connection).result.mapError
      Memory.clientError = result := by
    rw [hresult]
    cases result with
    | ok u => rfl
    | error error => rfl
  have hsubmitted : AcceptStep (e.accepting
      (AcceptStage.committing e.answer e.ready) [Milestone.ackSent e.answer,
        Milestone.proofVerified e.reply.proof 1060]) false
      (AcceptEvent.commit 1060)
      (AcceptStage.storing e.answer e.ready e.callerObservation) [] :=
    AcceptStep.submitted rfl (remoteObservation_eq e.callerPathed e.callerObserved)
  rw [← hmapped]
  exact ClientState.withAccept_commit hjob hsubmitted none

theorem stored_reachable (connection : Nat) (hcaller : caller.Caller) {s : ClientState Memory}
    (h : (machine (client phone) Memory).Reachable s)
    (hactive : s.active = active phone) (hfree : s.accepts connection = none)
    (hjob : s.jobs (SessionId.inbound connection) = none)
    {result : ClientResult Unit}
    (hresult : (e.attempting s connection).result = result) :
    (machine (client phone) Memory).Reachable
      ((s.settled (e.attempting s connection)).withAccept connection
        ((e.accepting (AcceptStage.storing e.answer e.ready e.callerObservation)
          [Milestone.ackSent e.answer,
            Milestone.proofVerified e.reply.proof 1060]).stored result)) := by
  have hcommitting := e.committing_reachable hcaller h hactive hfree
  rcases e.commits connection hjob hresult with ⟨middle, hcommit, hstore⟩
  exact machine_step (machine_step hcommitting hcommit) hstore

def released : Accept sample :=
  e.accepting (AcceptStage.released e.answer e.ready e.callerPeer)
    [Milestone.ackSent e.answer, Milestone.proofVerified e.reply.proof 1060,
      Milestone.recordCommitted,
      Milestone.confirmedSent (confirmation e.answer e.ready),
      Milestone.peerReleased e.callerPeer]

theorem released_reachable (connection : Nat) (hcaller : caller.Caller) {s : ClientState Memory}
    (h : (machine (client phone) Memory).Reachable s)
    (hactive : s.active = active phone) (hfree : s.accepts connection = none)
    (hjob : s.jobs (SessionId.inbound connection) = none)
    (hresult : (e.attempting s connection).result = Except.ok ()) :
    (machine (client phone) Memory).Reachable
      ((s.settled (e.attempting s connection)).withAccept connection
        e.released) := by
  have hstored := e.stored_reachable connection hcaller h hactive hfree hjob hresult
  have hconfirmed := machine_step hstored (ClientState.withAccept_step
    (AcceptStep.confirmed rfl) trivial rfl)
  exact machine_step hconfirmed (ClientState.withAccept_step
    (AcceptStep.released rfl e.callerReleased) trivial rfl)

theorem attempting_empty (connection : Nat) {s : ClientState Memory}
    (hstore : s.store = (∅ : SequenceState)) :
    (e.attempting s connection).result = Except.ok () ∧
      (e.attempting s connection).after =
        (∅ : SequenceState).insert e.callerObservation.key
          (StoredSequence.authenticated e.callerObservation.counter
            e.callerObservation.digest) := by
  have hcalled : MemorySequenceStore.recordBatch sample s.store
      [e.callerObservation] = _ :=
    (congrArg (fun values => MemorySequenceStore.recordBatch sample values _)
      hstore).trans (MemorySequenceStore.recordBatch_empty e.callerObservation)
  exact ⟨congrArg Prod.snd hcalled, congrArg Prod.fst hcalled⟩

theorem attempting_rolledBack (connection : Nat) {s : ClientState Memory}
    {values : SequenceState}
    (hstore : s.store = values) {previous : UInt64} {stored : Digest}
    (hfound : values[e.callerObservation.key]? =
      some (StoredSequence.authenticated previous stored))
    (hlower : e.callerObservation.counter < previous) :
    (e.attempting s connection).result = Except.error
      (ClientError.state "authenticated record rolled back") := by
  have hrecord := MemorySequenceStore.recordBatch_rolledBack hfound hlower
  rw [← hstore] at hrecord
  exact congrArg Prod.snd hrecord

end Encounter

end Accepting

end Sample

/-- Anti-rollback holds in every run of a client, whatever store it uses. -/
theorem anti_rollback {P : Primitives} {client : V1Client} (kind : StoreKind)
    {s : ClientState (sequenceStore P kind)}
    (h : (machine client (sequenceStore P kind)).Reachable s) :
    s.AntiRollback ∧ forall label after,
      s.next client label = some after -> s.MovesFloors after := by
  have hS := sequenceStore_monotone (P := P) kind
  rcases ClientState.reachable_orderly hS h with ⟨horderly, hcoherent⟩
  refine ⟨horderly.antiRollback hS hcoherent, ?_⟩
  intro label after hnext
  exact ClientState.effect_movesFloors hS hnext

/--
The phone accepts the later record of the laptop and releases a peer. A Hello
with the earlier record comes to its commit, and the store refuses it.
-/
theorem anti_rollback_sample :
    exists (s : ClientState Sample.Memory)
        (first second : Attempt Sample.Memory)
        (accept : Accept Reference.sample) (peer : Peer),
      s.attempts = [first, second] ∧ SameRemote first.record second.record ∧
      first.result = Except.ok () ∧
      second.result = Except.error
        (ClientError.state "authenticated record rolled back") ∧
      s.accepts 0 = some accept ∧ Milestone.peerReleased peer ∈ accept.trail ∧
      s.AntiRollback ∧ forall label after,
        s.next (Sample.client Reference.phone) label = some after ->
          s.MovesFloors after := by
  rcases Sample.encounter_exists Reference.laterLaptop_caller with ⟨later⟩
  rcases Sample.encounter_exists Reference.laptop_caller with ⟨earlier⟩
  rcases recordObservation_eq_ok later.callerObserved with
    ⟨hidentity, hscope, hlater⟩
  rcases recordObservation_eq_ok earlier.callerObserved with
    ⟨hidentity', hscope', hearlier⟩
  have hkey : earlier.callerObservation.key = later.callerObservation.key := by
    have hlaterKey := later.callerObservation.keyed
    have hearlierKey := earlier.callerObservation.keyed
    rw [hidentity, hscope] at hlaterKey
    rw [hidentity', hscope'] at hearlierKey
    exact Except.ok.inj (hearlierKey.symm.trans hlaterKey)
  have hlower : earlier.callerObservation.counter <
      later.callerObservation.counter := by
    have hone : earlier.callerObservation.counter.toNat = 1 :=
      congrArg BoundCounter.counter hearlier
    have htwo : later.callerObservation.counter.toNat = 2 :=
      congrArg BoundCounter.counter hlater
    rw [UInt64.lt_iff_toNat_lt, hone, htwo]
    exact Nat.one_lt_two
  let begun := Sample.started Reference.phone
  rcases later.attempting_empty 0 (s := begun) rfl with
    ⟨hresult, hafter⟩
  have hreleased := later.released_reachable 0 Reference.laterLaptop_caller
    (Sample.started_reachable Reference.phone) rfl rfl rfl hresult
  let between := (begun.settled (later.attempting begun 0)).withAccept 0
    later.released
  have hfound : ((∅ : SequenceState).insert later.callerObservation.key
      (StoredSequence.authenticated later.callerObservation.counter
        later.callerObservation.digest))[earlier.callerObservation.key]? =
      some (StoredSequence.authenticated later.callerObservation.counter
        later.callerObservation.digest) := by
    rw [hkey]
    exact Std.ExtTreeMap.getElem?_insert_self
  have hrefused := earlier.attempting_rolledBack 1 (s := between) hafter hfound
    hlower
  have hlast := earlier.stored_reachable 1 Reference.laptop_caller hreleased rfl
    rfl rfl hrefused
  exact ⟨_, later.attempting begun 0, earlier.attempting between 1,
    later.released, later.callerPeer, rfl, ⟨rfl, rfl⟩, hresult, hrefused, rfl,
    by simp [Sample.Encounter.released, Sample.Encounter.accepting],
    anti_rollback StoreKind.memory hlast⟩

namespace Sample

open Protocol.Reference

/-!
# Two devices that meet
-/

inductive Device where
  | laptop
  | phone
  deriving DecidableEq

def Device.keys : Device -> DeviceKeys
  | Device.laptop => Reference.laptop
  | Device.phone => Reference.phone

abbrev fleet : Fleet sample Device :=
  { member := fun device =>
      { client := client device.keys
        endpoint := device.keys.iroh
        certified := rfl }
    kind := fun _ => StoreKind.memory }

def clientsOf (laptop phone : ClientState Memory) : Device -> ClientState Memory
  | Device.laptop => laptop
  | Device.phone => phone

theorem clientsOf_update_laptop (l p next : ClientState Memory) :
    Function.update (clientsOf l p) Device.laptop next = clientsOf next p := by
  funext device
  cases device with
  | laptop => rfl
  | phone => rfl

theorem clientsOf_update_phone (l p next : ClientState Memory) :
    Function.update (clientsOf l p) Device.phone next = clientsOf l next := by
  funext device
  cases device with
  | laptop => rfl
  | phone => rfl

/-- The connection that the laptop has opened to the phone. -/
def connected : Nat -> Option (Link sample Device) :=
  Function.update (fun _ => none) 0
    (some { dialer := Party.honest Device.laptop
            acceptor := Party.honest Device.phone
            zeroRtt := false })

def world (links : Nat -> Option (Link sample Device))
    (l p : ClientState Memory) (drawn : List String) : NetworkState fleet :=
  { clients := clientsOf l p
    links := links
    drawn := drawn }

/-- The two clients have come to these states. -/
def Met (links : Nat -> Option (Link sample Device)) (l p : ClientState Memory)
    (drawn : List String) : Prop :=
  (network fleet).ReachableWhen NetworkState.Environment
    (world links l p drawn)

section Meeting

variable {links : Nat -> Option (Link sample Device)}
  {l p after : ClientState Memory} {drawn : List String}
  {label : ClientLabel Memory}

theorem Met.dialer (h : Met links l p drawn)
    (hnext : l.next (client Reference.laptop) label = some after)
    (hcarries : (world links l p drawn).carries Device.laptop label = true)
    (hdelivers : (world links l p drawn).Delivers (i := Device.laptop) label)
    (hfresh : forall value, value ∈ label.draws -> value ∉ drawn) :
    Met links after p (drawn ++ label.draws) := by
  have hstep := NetworkState.act_of_some (s := world links l p drawn) hcarries
    hnext
  change _ = some
    ({ clients := Function.update (clientsOf l p) Device.laptop after
       links := links
       drawn := drawn ++ label.draws } : NetworkState fleet) at hstep
  rw [clientsOf_update_laptop] at hstep
  exact Machine.ReachableWhen.step (a := NetworkLabel.act Device.laptop label) h
    ⟨hdelivers, hfresh⟩ hstep

theorem Met.acceptor (h : Met links l p drawn)
    (hnext : p.next (client Reference.phone) label = some after)
    (hcarries : (world links l p drawn).carries Device.phone label = true)
    (hdelivers : (world links l p drawn).Delivers (i := Device.phone) label)
    (hfresh : forall value, value ∈ label.draws -> value ∉ drawn) :
    Met links l after (drawn ++ label.draws) := by
  have hstep := NetworkState.act_of_some (s := world links l p drawn) hcarries
    hnext
  change _ = some
    ({ clients := Function.update (clientsOf l p) Device.phone after
       links := links
       drawn := drawn ++ label.draws } : NetworkState fleet) at hstep
  rw [clientsOf_update_phone] at hstep
  exact Machine.ReachableWhen.step (a := NetworkLabel.act Device.phone label) h
    ⟨hdelivers, hfresh⟩ hstep

/-- A step of the laptop that draws nothing. -/
theorem Met.dialerWaits (h : Met links l p drawn)
    (hnext : l.next (client Reference.laptop) label = some after)
    (hcarries : (world links l p drawn).carries Device.laptop label = true)
    (hdelivers : (world links l p drawn).Delivers (i := Device.laptop) label)
    (hdraws : label.draws = []) :
    Met links after p drawn := by
  have hmet := h.dialer hnext hcarries hdelivers (by
    rw [hdraws]
    exact fun value hvalue => absurd hvalue List.not_mem_nil)
  rw [hdraws, List.append_nil] at hmet
  exact hmet

theorem Met.acceptorWaits (h : Met links l p drawn)
    (hnext : p.next (client Reference.phone) label = some after)
    (hcarries : (world links l p drawn).carries Device.phone label = true)
    (hdelivers : (world links l p drawn).Delivers (i := Device.phone) label)
    (hdraws : label.draws = []) :
    Met links l after drawn := by
  have hmet := h.acceptor hnext hcarries hdelivers (by
    rw [hdraws]
    exact fun value hvalue => absurd hvalue List.not_mem_nil)
  rw [hdraws, List.append_nil] at hmet
  exact hmet

theorem fromDialer {position : Nat} {frame : Frame}
    (h : ((world connected l p drawn).dialed Device.laptop 0)[position]? =
      some frame) : (world connected l p drawn).FromDialer 0 position frame := by
  intro link k hlink hdialer
  injection hlink with hlink
  rw [← hlink] at hdialer
  injection hdialer with hdialer
  rw [← hdialer]
  exact h

theorem fromAcceptor {position : Nat} {frame : Frame}
    (h : ((world connected l p drawn).accepted Device.phone 0)[position]? =
      some frame) :
    (world connected l p drawn).FromAcceptor 0 position frame := by
  intro link k hlink hacceptor
  injection hlink with hlink
  rw [← hlink] at hacceptor
  injection hacceptor with hacceptor
  rw [← hacceptor]
  exact h

end Meeting

/-- Both devices have registered, and the laptop has opened a connection. -/
theorem connected_met :
    Met connected (started Reference.laptop) (started Reference.phone) [] := by
  have hfresh : Met (fun _ => none) fresh fresh [] := by
    apply Machine.ReachableWhen.start
    constructor
    · intro device
      cases device with
      | laptop => exact fresh_initial
      | phone => exact fresh_initial
    · rfl
    · rfl
  have hlaptop := hfresh.dialerWaits (fresh_register Reference.laptop) rfl
    trivial rfl
  have hphone := hlaptop.acceptorWaits (fresh_register Reference.phone) rfl
    trivial rfl
  apply Machine.ReachableWhen.step (a := NetworkLabel.link 0
    { dialer := Party.honest Device.laptop
      acceptor := Party.honest Device.phone
      zeroRtt := false }) hphone
  · constructor
    · intro endpoint hparty
      cases hparty
    · intro endpoint hparty
      cases hparty
  · rfl

end Sample

/--
A dial that released its peer toward an honest device was answered by one run of
that device, which had verified the initiator's proof and committed its record.
-/
def NetworkState.DialsAnswered {P : Primitives} {ι : Type} {fleet : Fleet P ι}
    (s : NetworkState fleet) : Prop :=
  forall i k connection dial peer,
    (s.clients i).dials connection = some dial ->
    Milestone.peerReleased peer ∈ dial.trail ->
    P.tryFromZ32 dial.target.record.certificate.claims.irohEndpointId =
      some (fleet.member k).endpoint ->
    exists j accept greeting reply now proof later ready,
      (fleet.member j).endpoint = (fleet.member k).endpoint ∧
      dial.trail = [Milestone.helloSent greeting,
        Milestone.ackVerified reply now, Milestone.proofVerified proof later,
        Milestone.readySent ready, Milestone.recordCommitted,
        Milestone.peerReleased peer] ∧
      s.AnsweredBy j connection dial greeting reply accept

/--
An accept that released its peer for an honest sender was dialed by one run of
that sender, which had verified its proof and signalled before.
-/
def NetworkState.AcceptsDialed {P : Primitives} {ι : Type} {fleet : Fleet P ι}
    (s : NetworkState fleet) : Prop :=
  forall i k connection accept peer,
    (s.clients i).accepts connection = some accept ->
    Milestone.peerReleased peer ∈ accept.trail ->
    P.tryFromZ32
        accept.pending.sender.record.certificate.claims.irohEndpointId =
      some (fleet.member k).endpoint ->
    exists j dial answer proof now ready,
      (fleet.member j).endpoint = (fleet.member k).endpoint ∧
      accept.trail = [Milestone.ackSent answer,
        Milestone.proofVerified proof now, Milestone.recordCommitted,
        Milestone.confirmedSent (confirmation answer ready),
        Milestone.peerReleased peer] ∧
      s.DialedBy j connection accept answer dial

/--
Session agreement and the release barrier, in every run of any number of honest
clients whose environment respects keys, channels and randomness.
-/
theorem session_agreement {P : Primitives} {ι : Type} {fleet : Fleet P ι}
    [DecidableEq ι] [P.Lawful] {s : NetworkState fleet}
    (h : (network fleet).ReachableWhen NetworkState.Environment s)
    (hcollisions : s.NoCollisions) : s.DialsAnswered ∧ s.AcceptsDialed := by
  rcases NetworkState.reachable_wired h with ⟨hwired, hsound⟩
  constructor
  · intro i k connection dial peer hdial hpeer htarget
    exact hwired.answered hsound hcollisions hdial hpeer htarget
  · intro i k connection accept peer haccept hpeer hsender
    exact hwired.dialedBy hsound hcollisions haccept hpeer hsender

namespace Sample

open Protocol.Reference

variable (e : Encounter Reference.laptop)

def Encounter.dialing (stage : DialStage sample) (trail : List Milestone) :
    Dial sample :=
  { target := resolved phone e.phonePath
    application := "chat"
    stage := stage
    trail := trail }

def Encounter.dialReleased : Dial sample :=
  e.dialing (DialStage.released (greetingFrom laptop) e.reply e.ready e.phonePeer)
    [Milestone.helloSent (greetingFrom laptop),
      Milestone.ackVerified e.reply 1060,
      Milestone.proofVerified e.answer.proof 1060, Milestone.readySent e.ready,
      Milestone.recordCommitted, Milestone.peerReleased e.phonePeer]

def Encounter.dialAttempt : Attempt Memory :=
  (started laptop).attempt (SessionId.outbound 0) none
    { record := phone.record, observation := e.phoneObservation }

theorem Encounter.next_connect :
    (started laptop).next (client laptop) (ClientLabel.connect 0 phone.iroh
        (resolved phone e.phonePath) "chat" 1060) =
      some ((started laptop).withDial 0
        (e.dialing DialStage.connected [])) := by
  have hfree : (started laptop).dials 0 = none := rfl
  have hconnect : ClientState.connect (client laptop) (started laptop) 0
      phone.iroh (resolved phone e.phonePath) "chat" 1060 = _ :=
    ClientState.connect_of_ok hfree e.dialed
  exact hconnect

/-- The laptop has sent its Hello, and the phone has answered with its Ack. -/
theorem Encounter.acked : Met connected
    ((started laptop).withDial 0 (e.dialing
      (DialStage.awaitingAck (greetingFrom laptop))
      [Milestone.helloSent (greetingFrom laptop)]))
    ((started phone).withAccept 0 (e.accepting
      (AcceptStage.awaitingReady e.answer) [Milestone.ackSent e.answer]))
    [sessionNonce, challenge] := by
  have hdialed := connected_met.dialerWaits e.next_connect rfl trivial rfl
  have hgreeting := hdialed.dialer (ClientState.withDial_step (s := started laptop)
    (DialStep.signed rfl (e.greeted laptop_caller)) trivial rfl) rfl trivial
    (fun value _ => List.not_mem_nil)
  have hsent := hgreeting.dialerWaits (ClientState.withDial_step
    (DialStep.greeted rfl) trivial rfl) rfl trivial rfl
  have hqueued := hsent.acceptorWaits (e.next_incoming laptop_caller rfl rfl)
    rfl (fun _ => fromDialer rfl) rfl
  have hsigned := hqueued.acceptor (ClientState.withAccept_step
    (AcceptStep.signed rfl e.answered) trivial rfl) rfl trivial (by
      intro value hvalue hdrawn
      rw [List.mem_singleton.mp hvalue] at hdrawn
      exact challenge_fresh (List.mem_singleton.mp hdrawn))
  have hpublished := hsigned.acceptorWaits (ClientState.withAccept_step
    (AcceptStep.published rfl) trivial rfl) rfl trivial rfl
  exact hpublished.acceptorWaits (ClientState.withAccept_step
    (AcceptStep.acknowledged rfl) trivial rfl) rfl trivial rfl

/-- The laptop has verified the proof of the phone and has signalled. -/
theorem Encounter.signalled : Met connected
    ((started laptop).withDial 0 (e.dialing
      (DialStage.awaitingConfirmed (greetingFrom laptop) e.reply e.ready)
      [Milestone.helloSent (greetingFrom laptop),
        Milestone.ackVerified e.reply 1060,
        Milestone.proofVerified e.answer.proof 1060,
        Milestone.readySent e.ready]))
    ((started phone).withAccept 0 (e.accepting
      (AcceptStage.awaitingReady e.answer) [Milestone.ackSent e.answer]))
    [sessionNonce, challenge] := by
  have hanswered := e.acked.dialerWaits (ClientState.withDial_step
    (DialStep.acknowledged rfl e.replied) trivial rfl) rfl (fromAcceptor rfl) rfl
  have hpublished := hanswered.dialerWaits (ClientState.withDial_step
    (DialStep.published rfl e.readied) trivial rfl) rfl trivial rfl
  have hverified := hpublished.dialerWaits (ClientState.withDial_step
    (DialStep.verified rfl e.answerProved) trivial rfl) rfl trivial rfl
  exact hverified.dialerWaits (ClientState.withDial_step
    (DialStep.readied rfl) trivial rfl) rfl trivial rfl

/-- The phone has released its peer, and the laptop has heard nothing of it. -/
theorem Encounter.answeredFirst : Met connected
    ((started laptop).withDial 0 (e.dialing
      (DialStage.awaitingConfirmed (greetingFrom laptop) e.reply e.ready)
      [Milestone.helloSent (greetingFrom laptop),
        Milestone.ackVerified e.reply 1060,
        Milestone.proofVerified e.answer.proof 1060,
        Milestone.readySent e.ready]))
    (((started phone).settled (e.attempting (started phone) 0)).withAccept 0
      e.released)
    [sessionNonce, challenge] := by
  have hready := e.signalled.acceptorWaits (ClientState.withAccept_step
    (AcceptStep.readied rfl e.validated) trivial rfl) rfl (fromDialer rfl) rfl
  have hverified := hready.acceptorWaits (ClientState.withAccept_step
    (AcceptStep.verified rfl e.proved) trivial rfl) rfl trivial rfl
  rcases e.commits 0 (s := started phone) rfl
    (e.attempting_empty 0 rfl).left with ⟨middle, hcommit, hstore⟩
  have hstored := (hverified.acceptorWaits hcommit rfl trivial rfl).acceptorWaits
    hstore rfl trivial rfl
  have hconfirmed := hstored.acceptorWaits (ClientState.withAccept_step
    (AcceptStep.confirmed rfl) trivial rfl) rfl trivial rfl
  exact hconfirmed.acceptorWaits (ClientState.withAccept_step
    (AcceptStep.released rfl e.callerReleased) trivial rfl) rfl trivial rfl

theorem Encounter.dialCommits (trail : List Milestone) :
    exists middle,
      ((started laptop).withDial 0 (e.dialing
          (DialStage.committing (greetingFrom laptop) e.reply e.ready)
          trail)).next (client laptop)
          (ClientLabel.dial 0 (DialEvent.commit 1060)) =
        some middle ∧
      middle.next (client laptop)
          (ClientLabel.store (SessionId.outbound 0) none) =
        some (((started laptop).settled e.dialAttempt).withDial 0
          (e.dialing (DialStage.deleting (greetingFrom laptop) e.reply
            (Except.ok e.ready)) (trail ++ [Milestone.recordCommitted]))) := by
  have hresult : e.dialAttempt.result.mapError Memory.clientError =
      Except.ok () :=
    congrArg (fun made => Except.mapError Memory.clientError (Prod.snd made))
      (MemorySequenceStore.recordBatch_empty e.phoneObservation)
  have hsubmitted : DialStep (e.dialing
      (DialStage.committing (greetingFrom laptop) e.reply e.ready) trail)
      (client laptop) (started laptop).active (DialEvent.commit 1060)
      (DialStage.storing (greetingFrom laptop) e.reply e.ready
        e.phoneObservation) [] :=
    DialStep.submitted rfl (remoteObservation_eq e.phonePathed e.phoneObserved)
  have hfree : (started laptop).jobs (SessionId.outbound 0) = none := rfl
  rcases ClientState.withDial_commit hfree hsubmitted none with ⟨middle, hcommit, hstore⟩
  refine ⟨middle, hcommit, hstore.trans ?_⟩
  change some (((started laptop).settled e.dialAttempt).withDial 0
    (((e.dialing _ trail).moveTo _ []).stored
      (e.dialAttempt.result.mapError Memory.clientError))) = _
  rw [hresult]
  unfold Dial.moveTo dialing
  dsimp only
  rw [List.append_nil]
  rfl

def Encounter.finished : NetworkState fleet :=
  world connected (((started laptop).settled e.dialAttempt).withDial 0
      e.dialReleased)
    (((started phone).settled (e.attempting (started phone) 0)).withAccept 0
      e.released)
    [sessionNonce, challenge]

theorem Encounter.finished_reachable :
    (network fleet).ReachableWhen NetworkState.Environment e.finished := by
  have hframe : ((world connected ((started laptop).withDial 0 (e.dialing
      (DialStage.awaitingConfirmed (greetingFrom laptop) e.reply e.ready)
      [Milestone.helloSent (greetingFrom laptop),
        Milestone.ackVerified e.reply 1060,
        Milestone.proofVerified e.answer.proof 1060,
        Milestone.readySent e.ready]))
      (((started phone).settled (e.attempting (started phone) 0)).withAccept 0
        e.released) [sessionNonce, challenge]).accepted Device.phone 0)[1]? =
          some (Frame.control e.ready) := by
    change some (Frame.control (confirmation e.answer e.ready)) = _
    rw [e.confirms]
  have hconfirmed := e.answeredFirst.dialerWaits (ClientState.withDial_step
    (DialStep.confirmed rfl) trivial rfl) rfl (fromAcceptor hframe) rfl
  rcases e.dialCommits _ with ⟨middle, hcommit, hstore⟩
  have hstored := (hconfirmed.dialerWaits hcommit rfl trivial rfl).dialerWaits
    hstore rfl trivial rfl
  exact hstored.dialerWaits (ClientState.withDial_step
    (DialStep.released rfl e.phoneReleased) trivial rfl) rfl trivial rfl

/-- Both runs are about the record of the phone, so no two digests collide. -/
theorem Encounter.finished_noCollisions : e.finished.NoCollisions := by
  have honly : forall record, record ∈ e.finished.records ->
      record = phone.record := by
    rintro record (⟨i, connection, run, hrun, hrecord⟩ |
      ⟨i, connection, run, hrun, hrecord⟩)
    · cases i with
      | laptop =>
          rcases ClientState.withDial_dials hrun with rfl | hnone
          · exact hrecord.symm
          · cases hnone
      | phone => cases hrun
    · cases i with
      | laptop => cases hrun
      | phone =>
          rcases ClientState.withAccept_accepts hrun with rfl | hnone
          · exact hrecord.symm
          · cases hnone
  intro first hfirst second hsecond _
  rw [honly first hfirst, honly second hsecond]

end Sample

/-- The laptop dials the phone, and both release their peers. -/
theorem session_agreement_sample :
    exists (s : NetworkState Sample.fleet) (dial : Dial Reference.sample)
        (accept : Accept Reference.sample) (phonePeer laptopPeer : Peer),
      (s.clients Sample.Device.laptop).dials 0 = some dial ∧
      Milestone.peerReleased phonePeer ∈ dial.trail ∧
      (s.clients Sample.Device.phone).accepts 0 = some accept ∧
      Milestone.peerReleased laptopPeer ∈ accept.trail ∧
      s.DialsAnswered ∧ s.AcceptsDialed := by
  rcases Sample.encounter_exists Reference.laptop_caller with ⟨e⟩
  exact ⟨_, e.dialReleased, e.released, e.phonePeer, e.callerPeer, rfl,
    by simp [Sample.Encounter.dialReleased, Sample.Encounter.dialing], rfl,
    by simp [Sample.Encounter.released, Sample.Encounter.accepting],
    session_agreement e.finished_reachable e.finished_noCollisions⟩

end Client
end Pubky2Pubky
