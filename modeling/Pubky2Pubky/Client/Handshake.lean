import Pubky2Pubky.Protocol.Acceptance
import Pubky2Pubky.Client.Sequence

/-!
# The handshake of one connection

The two sides of the currentness exchange are sequences of awaits. Each side is
a stage with its data and a step for every answer of the environment: a clock
reading, a frame of the connection, a fetched proof, the result of a commit. A
run also keeps the milestones it has passed, in their order.
-/

namespace Pubky2Pubky
namespace Client

open Foundation Protocol

/-- One verified device publication and its storage path. -/
structure ResolvedV1Device where
  path : String
  record : V1DeviceRecord

/-- `ProofReady` and `ProofConfirmed` have the same fields and the same text. -/
structure ProofControl where
  version : UInt16
  challenge : String
  initiatorProofPath : String
  responderProofPath : String
  deriving DecidableEq

structure Peer where
  sessionId : Bytes
  remoteIdentity : String
  remoteDeviceId : String

/-- What the initiator signs, with the record it dials as. -/
structure Greeting where
  senderRecord : V1DeviceRecord
  hello : V1SignedHello

structure Reply where
  ack : V1SignedAck
  proof : V1SignedCurrentnessProof

structure Answer where
  challenge : String
  ack : V1SignedAck
  proof : V1SignedCurrentnessProof

/-- The points of a run that the other side or the application relies on. -/
inductive Milestone where
  | helloSent (greeting : Greeting)
  | ackSent (answer : Answer)
  | ackVerified (reply : Reply) (now : UInt64)
  | proofVerified (proof : V1SignedCurrentnessProof) (now : UInt64)
  | readySent (control : ProofControl)
  | recordCommitted
  | confirmedSent (control : ProofControl)
  | peerReleased (peer : Peer)

inductive Frame where
  | hello (hello : V1SignedHello)
  | ack (ack : V1SignedAck)
  | control (control : ProofControl)

def Milestone.frame : Milestone -> Option Frame
  | Milestone.helloSent greeting => some (Frame.hello greeting.hello)
  | Milestone.ackSent answer => some (Frame.ack answer.ack)
  | Milestone.readySent control => some (Frame.control control)
  | Milestone.confirmedSent control => some (Frame.control control)
  | _ => none

section Operations

variable (P : Primitives)

def currentnessPath (role : V1CurrentnessRole) (challenge : String)
    (hello : V1SignedHello) (record : V1DeviceRecord) : ClientResult String :=
  fromProtocol (v1CurrentnessPath P role challenge (hello.digest P)
    (record.digest P) (record.authorization.digest P)
    (record.locator.digest P))

def validateProofControl (control : ProofControl) (expectedChallenge : String)
    (hello : V1SignedHello) (initiatorRecord responderRecord : V1DeviceRecord) :
    ClientResult Unit := do
  rejectIf (control.version ≠ v1ProtocolVersion ∨
      control.challenge ≠ expectedChallenge)
    ClientError.unexpectedPeer
  let initiatorPath <- currentnessPath P V1CurrentnessRole.initiator
    expectedChallenge hello initiatorRecord
  rejectIf (control.initiatorProofPath ≠ initiatorPath)
    ClientError.unexpectedPeer
  let responderPath <- currentnessPath P V1CurrentnessRole.responder
    expectedChallenge hello responderRecord
  rejectIf (control.responderProofPath ≠ responderPath)
    ClientError.unexpectedPeer

/-- The session id: the first sixteen bytes of the session nonce. -/
def nonceUuid (nonce : String) : ClientResult Bytes := do
  let decoded <- okOr (P.base64Decode nonce) ClientError.unexpectedPeer
  rejectIf (decoded.length < 16) ClientError.unexpectedPeer
  pure (decoded.take 16)

def releasePeer (remote : ResolvedV1Device) (hello : V1SignedHello) :
    ClientResult Peer := do
  let sessionId <- nonceUuid P hello.claims.sessionNonce
  pure
    { sessionId := sessionId
      remoteIdentity := remote.record.certificate.claims.identity
      remoteDeviceId := remote.record.certificate.claims.deviceId }

def recordObservation (record : V1DeviceRecord) :
    ClientResult (AuthenticatedSequenceObservation P) := do
  let encoded := record.digest P
  let bytes <- okOr (P.base64Decode encoded)
    (ClientError.state "invalid v1 record digest")
  rejectIf (P.base64Encode bytes ≠ encoded)
    (ClientError.state "non-canonical v1 record digest")
  if h : bytes.length = 32 then
    AuthenticatedSequenceObservation.new P record.certificate.claims.identity
      ("v1:locator:" ++ record.certificate.claims.controlSigningKey)
      record.locator.claims.sequence ⟨bytes, h⟩
  else
    Except.error (ClientError.state "invalid v1 record digest length")

/-- The checks of `commit_remote_record` before it calls the store. -/
def remoteObservation (device : ResolvedV1Device) (now : UInt64)
    (allowInsecureLoopbackRelay : Bool) :
    ClientResult (AuthenticatedSequenceObservation P) := do
  fromProtocol (device.record.verify P
    device.record.certificate.claims.identity now allowInsecureLoopbackRelay
    none)
  let path <- fromProtocol (device.record.path P)
  rejectIf (path ≠ device.path) ClientError.unexpectedPeer
  recordObservation P device.record

/-!
# Accepting
-/

structure PendingV1 where
  localCredential : V1DeviceCredential
  sender : ResolvedV1Device
  target : ResolvedV1Device
  hello : V1SignedHello
  allowInsecureLoopbackRelay : Bool

def signAnswer (pending : PendingV1) (now : UInt64) (random : P.Keypair) :
    ClientResult Answer := do
  let expiresAt := acceptExpiry pending.hello now
  rejectIf (expiresAt ≤ now)
    (ClientError.timeout "accepting inbound v1 peer")
  let challenge := v1RandomChallenge P random
  let ack <- fromProtocol
    (if pending.allowInsecureLoopbackRelay then
      V1SignedAck.signForLocalDevelopment P pending.localCredential
        pending.hello pending.sender.record pending.target.record challenge now
        expiresAt
    else
      V1SignedAck.sign P pending.localCredential pending.hello
        pending.sender.record pending.target.record challenge now expiresAt)
  let proof <- fromProtocol (V1SignedCurrentnessProof.sign P
    pending.localCredential pending.target.record pending.sender.record
    pending.hello V1CurrentnessRole.responder challenge now expiresAt
    pending.allowInsecureLoopbackRelay)
  pure { challenge := challenge, ack := ack, proof := proof }

inductive AcceptStage where
  | queued
  | publishing (answer : Answer)
  | acknowledging (answer : Answer)
  | awaitingReady (answer : Answer)
  | fetching (answer : Answer) (ready : ProofControl)
  | committing (answer : Answer) (ready : ProofControl)
  | storing (answer : Answer) (ready : ProofControl)
      (observation : AuthenticatedSequenceObservation P)
  | confirming (answer : Answer) (ready : ProofControl)
  | deleting (answer : Answer) (exchange : ClientResult ProofControl)
  | released (answer : Answer) (ready : ProofControl) (peer : Peer)
  | failed (error : ClientError)

/--
Answers of the environment. An interruption is a failed await, an elapsed
deadline drops the exchange together with its cleanup, and an abandoned run is
one whose future has been dropped.
-/
inductive AcceptEvent where
  | consent (now : UInt64) (random : P.Keypair)
  | published
  | written
  | received (frame : ProofControl)
  | fetched (proof : V1SignedCurrentnessProof) (now : UInt64)
  | commit (now : UInt64)
  | deleted
  | interrupted (error : ClientError)
  | elapsed
  | abandoned

structure Accept where
  pending : PendingV1
  stage : AcceptStage P
  trail : List Milestone

/-- `ProofConfirmed` repeats the paths of the `ProofReady` it answers. -/
def confirmation (answer : Answer) (ready : ProofControl) : ProofControl :=
  { version := v1ProtocolVersion
    challenge := answer.challenge
    initiatorProofPath := ready.initiatorProofPath
    responderProofPath := ready.responderProofPath }

namespace Accept

variable {P}

def moveTo (run : Accept P) (stage : AcceptStage P)
    (passed : List Milestone) : Accept P :=
  { run with stage := stage, trail := run.trail ++ passed }

/-- The exchange fails after the responder's proof has been published. -/
def failExchange (run : Accept P) (answer : Answer) (error : ClientError) :
    Accept P :=
  run.moveTo (AcceptStage.deleting answer (Except.error error)) []

def consent (run : Accept P) (now : UInt64) (random : P.Keypair) :
    Option (Accept P) :=
  match run.stage with
  | AcceptStage.queued =>
      match signAnswer P run.pending now random with
      | Except.ok answer => some (run.moveTo (AcceptStage.publishing answer) [])
      | Except.error e => some (run.moveTo (AcceptStage.failed e) [])
  | _ => none

def published (run : Accept P) : Option (Accept P) :=
  match run.stage with
  | AcceptStage.publishing answer =>
      some (run.moveTo (AcceptStage.acknowledging answer) [])
  | _ => none

def written (run : Accept P) : Option (Accept P) :=
  match run.stage with
  | AcceptStage.acknowledging answer =>
      some (run.moveTo (AcceptStage.awaitingReady answer)
        [Milestone.ackSent answer])
  | AcceptStage.confirming answer ready =>
      some (run.moveTo (AcceptStage.deleting answer (Except.ok ready))
        [Milestone.confirmedSent (confirmation answer ready)])
  | _ => none

def received (run : Accept P) (ready : ProofControl) : Option (Accept P) :=
  match run.stage with
  | AcceptStage.awaitingReady answer =>
      match validateProofControl P ready answer.challenge run.pending.hello
          run.pending.sender.record run.pending.target.record with
      | Except.ok _ => some (run.moveTo (AcceptStage.fetching answer ready) [])
      | Except.error e => some (run.failExchange answer e)
  | _ => none

def fetched (run : Accept P) (proof : V1SignedCurrentnessProof)
    (now : UInt64) : Option (Accept P) :=
  match run.stage with
  | AcceptStage.fetching answer ready =>
      match proof.verify P run.pending.sender.record run.pending.target.record
          run.pending.hello V1CurrentnessRole.initiator answer.challenge now
          run.pending.allowInsecureLoopbackRelay with
      | Except.ok _ => some (run.moveTo (AcceptStage.committing answer ready)
          [Milestone.proofVerified proof now])
      | Except.error e =>
          some (run.failExchange answer (ClientError.protocol e))
  | _ => none

def commit (run : Accept P) (now : UInt64) (resolverAllowsLoopback : Bool) :
    Option (Accept P) :=
  match run.stage with
  | AcceptStage.committing answer ready =>
      match remoteObservation P run.pending.sender now
          resolverAllowsLoopback with
      | Except.ok observation =>
          some (run.moveTo (AcceptStage.storing answer ready observation) [])
      | Except.error e => some (run.failExchange answer e)
  | _ => none

def stored (run : Accept P) (result : ClientResult Unit) : Accept P :=
  match run.stage with
  | AcceptStage.storing answer ready _ =>
      match result with
      | Except.ok _ => run.moveTo (AcceptStage.confirming answer ready)
          [Milestone.recordCommitted]
      | Except.error e => run.failExchange answer e
  | _ => run

def deleted (run : Accept P) : Option (Accept P) :=
  match run.stage with
  | AcceptStage.deleting answer (Except.ok ready) =>
      match releasePeer P run.pending.sender run.pending.hello with
      | Except.ok peer => some (run.moveTo
          (AcceptStage.released answer ready peer)
          [Milestone.peerReleased peer])
      | Except.error e => some (run.moveTo (AcceptStage.failed e) [])
  | AcceptStage.deleting _ (Except.error e) =>
      some (run.moveTo (AcceptStage.failed e) [])
  | _ => none

def interrupted (run : Accept P) (error : ClientError) : Option (Accept P) :=
  match run.stage with
  | AcceptStage.queued => some (run.moveTo (AcceptStage.failed error) [])
  | AcceptStage.publishing _ => some (run.moveTo (AcceptStage.failed error) [])
  | AcceptStage.acknowledging answer => some (run.failExchange answer error)
  | AcceptStage.awaitingReady answer => some (run.failExchange answer error)
  | AcceptStage.fetching answer _ => some (run.failExchange answer error)
  | AcceptStage.committing answer _ => some (run.failExchange answer error)
  | AcceptStage.storing answer _ _ => some (run.failExchange answer error)
  | AcceptStage.confirming answer _ => some (run.failExchange answer error)
  | _ => none

/-- The deadline of the exchange; the publication before it has its own. -/
def elapsed (run : Accept P) : Option (Accept P) :=
  match run.stage with
  | AcceptStage.queued => none
  | AcceptStage.publishing _ => none
  | AcceptStage.deleting _ _ => none
  | AcceptStage.released _ _ _ => none
  | AcceptStage.failed _ => none
  | _ => some (run.moveTo (AcceptStage.failed
      (ClientError.timeout "completing accepted v1 currentness exchange")) [])

def abandoned (run : Accept P) : Option (Accept P) :=
  match run.stage with
  | AcceptStage.released _ _ _ => none
  | AcceptStage.failed _ => none
  | _ => some (run.moveTo (AcceptStage.failed ClientError.channelClosed) [])

def next (run : Accept P) (resolverAllowsLoopback : Bool) :
    AcceptEvent P -> Option (Accept P)
  | AcceptEvent.consent now random => run.consent now random
  | AcceptEvent.published => run.published
  | AcceptEvent.written => run.written
  | AcceptEvent.received ready => run.received ready
  | AcceptEvent.fetched proof now => run.fetched proof now
  | AcceptEvent.commit now => run.commit now resolverAllowsLoopback
  | AcceptEvent.deleted => run.deleted
  | AcceptEvent.interrupted error => run.interrupted error
  | AcceptEvent.elapsed => run.elapsed
  | AcceptEvent.abandoned => run.abandoned

end Accept

/-!
# The client and its active records
-/

/-- The credential and the policy of a client, with that of its resolver. -/
structure V1Client where
  credential : V1DeviceCredential
  trustedRelays : List Url
  instanceNonce : String
  acceptedApplications : List String
  allowInsecureLoopbackRelay : Bool
  resolverAllowsLoopback : Bool

/--
Registered records, each under its digest. Every reader drops the expired ones
first, so dropping them is not a step of its own.
-/
abbrev ActiveRecords := List (String × V1DeviceRecord)

def maxActiveRecords : Nat := 8

def retainCurrent (active : ActiveRecords) (now : UInt64) : ActiveRecords :=
  active.filter fun entry => decide (entry.2.locator.claims.expiresAt > now)

def laterRecord (best entry : String × V1DeviceRecord) :
    String × V1DeviceRecord :=
  let left := best.2.locator.claims.sequence
  let right := entry.2.locator.claims.sequence
  if left < right ∨ (left = right ∧ best.1 ≤ entry.1) then entry else best

def selectRecord : ActiveRecords -> Option V1DeviceRecord
  | [] => none
  | first :: rest => some (rest.foldl laterRecord first).2

def earlierRecord (oldest entry : String × V1DeviceRecord) :
    String × V1DeviceRecord :=
  if entry.2.locator.claims.expiresAt < oldest.2.locator.claims.expiresAt then
    entry
  else oldest

def evictOldest : ActiveRecords -> ActiveRecords
  | [] => []
  | first :: rest =>
      (first :: rest).filter fun entry =>
        entry.1 != (rest.foldl earlierRecord first).1

/-- Sign a record with an explicit sequence and register it. -/
def currentRecord (client : V1Client) (active : ActiveRecords)
    (sequence lifetimeSeconds now : UInt64) :
    ClientResult (ActiveRecords × V1DeviceRecord) := do
  rejectIf (lifetimeSeconds = 0 ∨
      lifetimeSeconds > v1MaxLocatorLifetimeSeconds)
    (ClientError.iroh "v1 locator lifetime is outside protocol bounds")
  rejectIf (now.toNat + lifetimeSeconds.toNat ≥ 2 ^ 64)
    (ClientError.iroh "v1 locator expiry overflow")
  let expiresAt := now + lifetimeSeconds
  let locator <- fromProtocol
    (if client.allowInsecureLoopbackRelay then
      V1SignedLocator.signForLocalDevelopment P client.credential
        client.trustedRelays client.instanceNonce sequence now expiresAt
    else
      V1SignedLocator.sign P client.credential client.trustedRelays
        client.instanceNonce sequence now expiresAt)
  let record <- fromProtocol (V1DeviceRecord.new P client.credential locator now
    client.allowInsecureLoopbackRelay)
  let digest := record.digest P
  let retained := retainCurrent active now
  let room :=
    if retained.length ≥ maxActiveRecords ∧
        ¬ retained.any (fun entry => entry.1 == digest) = true then
      evictOldest retained
    else retained
  let others := room.filter fun entry => entry.1 != digest
  pure (others ++ [(digest, record)], record)

/-!
# Admitting a Hello
-/

/--
What `authenticate_incoming_v1` checks of the first Hello of a connection. It
reads the clock three times: for its own records, for the Hello, and for the
consent deadline.
-/
def authenticateIncomingV1 (client : V1Client) (active : ActiveRecords)
    (remoteEndpoint : P.PublicKey) (hello : V1SignedHello)
    (lookupAt verifyAt queuedAt : UInt64) : ClientResult PendingV1 := do
  rejectIf (client.acceptedApplications.contains hello.claims.application =
      false)
    ClientError.unexpectedPeer
  let target <- okOr
    ((retainCurrent active lookupAt).lookup
      hello.claims.targetDeviceRecordDigest)
    ClientError.unexpectedPeer
  let senderRecord := hello.claims.fromDeviceRecord
  fromProtocol (hello.verify P senderRecord target hello.claims.application
    verifyAt client.allowInsecureLoopbackRelay)
  rejectIf (target.certificate ≠ client.credential.certificate ∨
      target.authorization ≠ client.credential.authorization ∨
      target.certificate.claims.identity ≠ client.credential.identity)
    ClientError.unexpectedPeer
  let certifiedRemote <- okOr
    (P.tryFromZ32 senderRecord.certificate.claims.irohEndpointId)
    (ClientError.iroh "endpoint id")
  rejectIf (certifiedRemote ≠ remoteEndpoint) ClientError.unexpectedPeer
  rejectIf (saturatingSub hello.claims.expiresAt queuedAt = 0)
    (ClientError.timeout "queueing inbound v1 consent")
  let senderPath <- fromProtocol (senderRecord.path P)
  let targetPath <- fromProtocol (target.path P)
  pure
    { localCredential := client.credential
      sender := { path := senderPath, record := senderRecord }
      target := { path := targetPath, record := target }
      hello := hello
      allowInsecureLoopbackRelay := client.allowInsecureLoopbackRelay }

/-!
# Dialing
-/

/-- The checks of `dial_device` and of the connection it made. -/
def dialDevice (client : V1Client) (target : ResolvedV1Device)
    (remoteEndpoint : P.PublicKey) (now : UInt64) : ClientResult Unit := do
  fromProtocol (target.record.verify P
    target.record.certificate.claims.identity now
    client.allowInsecureLoopbackRelay none)
  let path <- fromProtocol (target.record.path P)
  rejectIf (path ≠ target.path) ClientError.unexpectedPeer
  let expectedId <- okOr
    (P.tryFromZ32 target.record.certificate.claims.irohEndpointId)
    (ClientError.iroh "endpoint id")
  rejectIf (remoteEndpoint ≠ expectedId) ClientError.unexpectedPeer

def signGreeting (client : V1Client) (active : ActiveRecords)
    (target : ResolvedV1Device) (application : String) (now : UInt64)
    (random : P.Keypair) : ClientResult Greeting := do
  let senderRecord <- okOr (selectRecord (retainCurrent active now))
    (ClientError.state
      "a current local v1 record must be registered before dialing")
  let lifetime := min v1MaxHandshakeLifetimeSeconds 30
  let expiry := min (min (min (min (saturatingAdd now lifetime)
    senderRecord.locator.claims.expiresAt)
    target.record.locator.claims.expiresAt)
    senderRecord.certificate.claims.expiresAt)
    target.record.certificate.claims.expiresAt
  rejectIf (expiry ≤ now) (ClientError.timeout "creating v1 Hello")
  let hello <- fromProtocol
    (if client.allowInsecureLoopbackRelay then
      V1SignedHello.signForLocalDevelopment P client.credential senderRecord
        target.record application (v1RandomChallenge P random) (now, expiry)
    else
      V1SignedHello.sign P client.credential senderRecord target.record
        application (v1RandomChallenge P random) (now, expiry))
  pure { senderRecord := senderRecord, hello := hello }

def signReply (client : V1Client) (target : ResolvedV1Device)
    (application : String) (greeting : Greeting) (ack : V1SignedAck)
    (now : UInt64) : ClientResult Reply := do
  fromProtocol (ack.verify P target.record greeting.senderRecord greeting.hello
    application now client.allowInsecureLoopbackRelay)
  let proof <- fromProtocol (V1SignedCurrentnessProof.sign P client.credential
    greeting.senderRecord target.record greeting.hello
    V1CurrentnessRole.initiator ack.claims.responderNonce ack.claims.issuedAt
    ack.claims.expiresAt client.allowInsecureLoopbackRelay)
  pure { ack := ack, proof := proof }

/-- `ProofReady` names both proof paths of the exchange. -/
def readiness (target : ResolvedV1Device) (greeting : Greeting)
    (reply : Reply) : ClientResult ProofControl := do
  let initiatorPath <- fromProtocol (reply.proof.path P)
  let responderPath <- currentnessPath P V1CurrentnessRole.responder
    reply.ack.claims.responderNonce greeting.hello target.record
  pure
    { version := v1ProtocolVersion
      challenge := reply.ack.claims.responderNonce
      initiatorProofPath := initiatorPath
      responderProofPath := responderPath }

inductive DialStage where
  | connected
  | greeting (greeting : Greeting)
  | awaitingAck (greeting : Greeting)
  | publishing (greeting : Greeting) (reply : Reply)
  | fetching (greeting : Greeting) (reply : Reply) (ready : ProofControl)
  | signalling (greeting : Greeting) (reply : Reply) (ready : ProofControl)
  | awaitingConfirmed (greeting : Greeting) (reply : Reply)
      (ready : ProofControl)
  | committing (greeting : Greeting) (reply : Reply) (ready : ProofControl)
  | storing (greeting : Greeting) (reply : Reply) (ready : ProofControl)
      (observation : AuthenticatedSequenceObservation P)
  | deleting (greeting : Greeting) (reply : Reply)
      (exchange : ClientResult ProofControl)
  | released (greeting : Greeting) (reply : Reply) (ready : ProofControl)
      (peer : Peer)
  | failed (error : ClientError)

inductive DialEvent where
  | greet (now : UInt64) (random : P.Keypair)
  | written
  | acknowledged (ack : V1SignedAck) (now : UInt64)
  | published
  | fetched (proof : V1SignedCurrentnessProof) (now : UInt64)
  | confirmed (frame : ProofControl)
  | commit (now : UInt64)
  | deleted
  | interrupted (error : ClientError)
  | elapsed
  | abandoned

structure Dial where
  target : ResolvedV1Device
  application : String
  stage : DialStage P
  trail : List Milestone

namespace Dial

variable {P}

def moveTo (run : Dial P) (stage : DialStage P) (passed : List Milestone) :
    Dial P :=
  { run with stage := stage, trail := run.trail ++ passed }

def failExchange (run : Dial P) (greeting : Greeting) (reply : Reply)
    (error : ClientError) : Dial P :=
  run.moveTo (DialStage.deleting greeting reply (Except.error error)) []

def fail (run : Dial P) (error : ClientError) : Dial P :=
  run.moveTo (DialStage.failed error) []

def greet (run : Dial P) (client : V1Client) (active : ActiveRecords)
    (now : UInt64) (random : P.Keypair) : Option (Dial P) :=
  match run.stage with
  | DialStage.connected =>
      match signGreeting P client active run.target run.application now
          random with
      | Except.ok greeting => some (run.moveTo (DialStage.greeting greeting) [])
      | Except.error e => some (run.fail e)
  | _ => none

def written (run : Dial P) : Option (Dial P) :=
  match run.stage with
  | DialStage.greeting greeting =>
      some (run.moveTo (DialStage.awaitingAck greeting)
        [Milestone.helloSent greeting])
  | DialStage.signalling greeting reply ready =>
      some (run.moveTo (DialStage.awaitingConfirmed greeting reply ready)
        [Milestone.readySent ready])
  | _ => none

def acknowledged (run : Dial P) (client : V1Client) (ack : V1SignedAck)
    (now : UInt64) : Option (Dial P) :=
  match run.stage with
  | DialStage.awaitingAck greeting =>
      match signReply P client run.target run.application greeting ack now with
      | Except.ok reply => some (run.moveTo
          (DialStage.publishing greeting reply)
          [Milestone.ackVerified reply now])
      | Except.error e => some (run.fail e)
  | _ => none

def published (run : Dial P) : Option (Dial P) :=
  match run.stage with
  | DialStage.publishing greeting reply =>
      match readiness P run.target greeting reply with
      | Except.ok ready =>
          some (run.moveTo (DialStage.fetching greeting reply ready) [])
      | Except.error e => some (run.failExchange greeting reply e)
  | _ => none

def fetched (run : Dial P) (client : V1Client)
    (proof : V1SignedCurrentnessProof) (now : UInt64) : Option (Dial P) :=
  match run.stage with
  | DialStage.fetching greeting reply ready =>
      match proof.verify P run.target.record greeting.senderRecord
          greeting.hello V1CurrentnessRole.responder
          reply.ack.claims.responderNonce now
          client.allowInsecureLoopbackRelay with
      | Except.ok _ => some (run.moveTo
          (DialStage.signalling greeting reply ready)
          [Milestone.proofVerified proof now])
      | Except.error e =>
          some (run.failExchange greeting reply (ClientError.protocol e))
  | _ => none

def confirmed (run : Dial P) (frame : ProofControl) : Option (Dial P) :=
  match run.stage with
  | DialStage.awaitingConfirmed greeting reply ready =>
      if frame = ready then
        some (run.moveTo (DialStage.committing greeting reply ready) [])
      else some (run.failExchange greeting reply ClientError.unexpectedPeer)
  | _ => none

def commit (run : Dial P) (now : UInt64) (resolverAllowsLoopback : Bool) :
    Option (Dial P) :=
  match run.stage with
  | DialStage.committing greeting reply ready =>
      match remoteObservation P run.target now resolverAllowsLoopback with
      | Except.ok observation => some (run.moveTo
          (DialStage.storing greeting reply ready observation) [])
      | Except.error e => some (run.failExchange greeting reply e)
  | _ => none

def stored (run : Dial P) (result : ClientResult Unit) : Dial P :=
  match run.stage with
  | DialStage.storing greeting reply ready _ =>
      match result with
      | Except.ok _ => run.moveTo
          (DialStage.deleting greeting reply (Except.ok ready))
          [Milestone.recordCommitted]
      | Except.error e => run.failExchange greeting reply e
  | _ => run

def deleted (run : Dial P) : Option (Dial P) :=
  match run.stage with
  | DialStage.deleting greeting reply (Except.ok ready) =>
      match releasePeer P run.target greeting.hello with
      | Except.ok peer => some (run.moveTo
          (DialStage.released greeting reply ready peer)
          [Milestone.peerReleased peer])
      | Except.error e => some (run.fail e)
  | DialStage.deleting _ _ (Except.error e) => some (run.fail e)
  | _ => none

def interrupted (run : Dial P) (error : ClientError) : Option (Dial P) :=
  match run.stage with
  | DialStage.connected => some (run.fail error)
  | DialStage.greeting _ => some (run.fail error)
  | DialStage.awaitingAck _ => some (run.fail error)
  | DialStage.publishing _ _ => some (run.fail error)
  | DialStage.fetching greeting reply _ =>
      some (run.failExchange greeting reply error)
  | DialStage.signalling greeting reply _ =>
      some (run.failExchange greeting reply error)
  | DialStage.awaitingConfirmed greeting reply _ =>
      some (run.failExchange greeting reply error)
  | DialStage.committing greeting reply _ =>
      some (run.failExchange greeting reply error)
  | DialStage.storing greeting reply _ _ =>
      some (run.failExchange greeting reply error)
  | _ => none

/-- The deadline of the whole exchange, its cleanup included. -/
def elapsed (run : Dial P) : Option (Dial P) :=
  match run.stage with
  | DialStage.connected => none
  | DialStage.released _ _ _ _ => none
  | DialStage.failed _ => none
  | _ => some (run.fail
      (ClientError.timeout "exchanging v1 Hello and currentness proofs"))

def abandoned (run : Dial P) : Option (Dial P) :=
  match run.stage with
  | DialStage.released _ _ _ _ => none
  | DialStage.failed _ => none
  | _ => some (run.fail ClientError.channelClosed)

def next (run : Dial P) (client : V1Client) (active : ActiveRecords) :
    DialEvent P -> Option (Dial P)
  | DialEvent.greet now random => run.greet client active now random
  | DialEvent.written => run.written
  | DialEvent.acknowledged ack now => run.acknowledged client ack now
  | DialEvent.published => run.published
  | DialEvent.fetched proof now => run.fetched client proof now
  | DialEvent.confirmed frame => run.confirmed frame
  | DialEvent.commit now => run.commit now client.resolverAllowsLoopback
  | DialEvent.deleted => run.deleted
  | DialEvent.interrupted error => run.interrupted error
  | DialEvent.elapsed => run.elapsed
  | DialEvent.abandoned => run.abandoned

end Dial

end Operations

end Client
end Pubky2Pubky
