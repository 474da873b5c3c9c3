import Pubky2Pubky.Browser.OnlineDevice
import Pubky2Pubky.Browser.BrowserStore
import Pubky2Pubky.Client.PendingQueue
import Pubky2Pubky.Client.Discovery
import Pubky2Pubky.Foundation.Utf8

/-!
# Contacts of the browser core

Around the flows that go online and offline run the calls that dial and accept peers,
the loop that queues inbound requests, a timer for each request, and a loop for each
connected peer. All of them share the state of one core.
-/

namespace Pubky2Pubky
namespace Browser

open Foundation Protocol Client

def maxConnectedPeers : Nat := 16

def maxPendingInbound : Nat := 16

def maxPendingPerIdentity : Nat := 2

def maxChatBytes : Nat := 4 * 1024

inductive ConnectionPath where
  | direct
  | relayed
  | unknown
  deriving DecidableEq

def isChatMessage (bytes : Bytes) : Bool :=
  !bytes.isEmpty && decide (bytes.length ≤ maxChatBytes) && (fromUtf8 bytes).isSome

def requestName (number : UInt64) : String :=
  "request-" ++ toString number.toNat

inductive CoreEvent where
  | inboundRequest (id peerId peerDeviceId application : String) (receivedAt : Nat)
  | inboundRequestExpired (id : String)
  | peerVerified (peerId peerDeviceId : String)
  | peerDisconnected (peerId : String)
  | message (peerId : String) (body : Bytes) (receivedAt : Nat)
  | error (code : Failure)
  | onlineState (online : Bool)
  deriving DecidableEq

/-- An event with the epoch of the flow that emits it. -/
structure Emission where
  epoch : UInt64
  event : CoreEvent

structure PeerResult where
  peerId : String
  peerDeviceId : String

/-!
# Flows
-/

/--
A call that dials or accepts a peer, up to its answer, and the receive loop of the
peer after it.
-/
inductive ContactStage where
  | dialing (peerIdentity : String)
  | accepting (incoming : IncomingV1)
  /-- `activate_peer` waits for the relayed path -/
  | verifying (peer : Peer)
  /-- `activate_peer` closes what it cannot activate -/
  | refusing (peer : Peer) (code : Failure)
  | receiving (peerId : String) (peer : Peer)
  /-- the loop has ended and closes its peer -/
  | leaving (peerId : String) (peer : Peer)
  | ended (peer : Option Peer)

def ContactStage.peer : ContactStage -> Option Peer
  | dialing _ => none
  | accepting _ => none
  | verifying peer => some peer
  | refusing peer _ => some peer
  | receiving _ peer => some peer
  | leaving _ peer => some peer
  | ended peer => peer

/-- A contact of an epoch; `closed` once this side has closed its connection. -/
structure Contact where
  epoch : UInt64
  stage : ContactStage
  closed : Bool
  result : Option (StoreResult PeerResult)

def Contact.moveTo (self : Contact) (stage : ContactStage) : Contact :=
  { self with stage := stage }

def Contact.close (self : Contact) : Contact :=
  { self with closed := true }

def Contact.answer (self : Contact) (result : StoreResult PeerResult) : Contact :=
  { self with result := some result }

structure InboundExpiry where
  requestId : String
  epoch : UInt64
  running : Bool

structure Drain where
  epoch : UInt64
  left : List (String × Nat)
  closed : List (String × Nat)

/-!
# The state
-/

structure NetworkState (P : Primitives) where
  online : OnlineState P
  identity : Option String
  peers : Table Nat
  pendingInbound : Table IncomingV1
  dialing : Finset String
  nextRequestId : UInt64
  obtained : Nat
  contacts : Nat -> Option Contact
  queued : Nat
  timers : Nat -> Option InboundExpiry
  /-- the epoch of the incoming loop of each call that went online -/
  incomingLoops : Nat -> Option UInt64
  /-- what is left to close in each shutdown -/
  shutdownPeers : Nat -> List (String × Nat)
  /-- what each failed renewal has taken, until it has told of it -/
  failedPeers : Nat -> Option Drain
  events : List Emission

inductive NetworkLabel (P : Primitives) where
  | online (label : OnlineLabel P)
  | identified (identity : Option String)
  | requestPeer (peerIdentity : String)
  | dialed (n : Nat) (result : Option Peer)
  | acceptInbound (requestId : String)
  | accepted (n : Nat) (result : Option Peer)
  | rejectInbound (requestId : String)
  | pathFound (n : Nat) (path : ConnectionPath)
  | refused (n : Nat)
  | received (n : Nat) (result : Option Bytes) (now : Nat)
  | left (n : Nat)
  | incoming (n : Nat) (result : Option IncomingV1) (now : Nat)
  | expired (k : Nat)
  | shutdownPeer (k i : Nat)
  | failedPeer (n i : Nat)

section Canonical

variable (P : Primitives) [DiscoveryReaders P]

def canonicalPublicKey (value : String) : StoreResult P.PublicKey := do
  let key <- okOr (DiscoveryReaders.parsePublicKey (P := P) value) "invalid-pubky"
  rejectIf (P.z32 key ≠ value) "invalid-pubky"
  pure key

def canonicalIdentity (value : String) : StoreResult String :=
  (canonicalPublicKey P value).map P.z32

end Canonical

namespace NetworkState

variable {P : Primitives}

def epoch (self : NetworkState P) : UInt64 :=
  self.online.core.epoch

def isCurrent (self : NetworkState P) (epoch : UInt64) : Bool :=
  decide (self.epoch = epoch) && self.online.core.client.isSome

def emit (self : NetworkState P) (epoch : UInt64) (events : List CoreEvent) :
    NetworkState P :=
  { self with
    events := self.events ++ events.map fun event =>
      { epoch := epoch, event := event } }

def setContact (self : NetworkState P) (n : Nat) (contact : Contact) : NetworkState P :=
  { self with contacts := Function.update self.contacts n (some contact) }

def begin (self : NetworkState P) (stage : ContactStage) : NetworkState P :=
  { self with
    obtained := self.obtained + 1
    contacts := Function.update self.contacts self.obtained
      (some { epoch := self.epoch, stage := stage, closed := false, result := none }) }

/-!
# Calls
-/

section Calls

variable [DiscoveryReaders P]

def requestPeer (self : NetworkState P) (peerIdentity : String) :
    StoreResult (NetworkState P) := do
  let identity <- canonicalIdentity P peerIdentity
  rejectIf (self.identity = some identity ∨ self.online.core.client.isSome = false ∨
      self.peers.size + self.dialing.card ≥ maxConnectedPeers ∨
      self.peers.contains identity = true ∨ identity ∈ self.dialing)
    "invalid-state"
  pure ({ self with dialing := insert identity self.dialing }.begin
    (ContactStage.dialing identity))

def dialed (self : NetworkState P) (n : Nat) (result : Option Peer) :
    Option (NetworkState P) :=
  match self.contacts n with
  | none => none
  | some contact =>
      match contact.stage with
      | ContactStage.dialing identity =>
          let undialed :=
            if self.epoch = contact.epoch then
              { self with dialing := self.dialing.erase identity }
            else self
          some (undialed.setContact n (match result with
            | none => (contact.moveTo (ContactStage.ended none)).answer
                (Except.error "peer-unreachable")
            | some peer => contact.moveTo (ContactStage.verifying peer)))
      | _ => none

def acceptInbound (self : NetworkState P) (requestId : String) :
    StoreResult (NetworkState P) := do
  let incoming <- okOr self.pendingInbound[requestId]? "request-expired"
  pure ({ self with pendingInbound := self.pendingInbound.erase requestId }.begin
    (ContactStage.accepting incoming))

def accepted (self : NetworkState P) (n : Nat) (result : Option Peer) :
    Option (NetworkState P) :=
  match self.contacts n with
  | none => none
  | some contact =>
      match contact.stage with
      | ContactStage.accepting _ =>
          some (self.setContact n (match result with
            | none => (contact.moveTo (ContactStage.ended none)).answer
                (Except.error "identity-verification-failed")
            | some peer => contact.moveTo (ContactStage.verifying peer)))
      | _ => none

def rejectInbound (self : NetworkState P) (requestId : String) :
    StoreResult (NetworkState P) := do
  let _ <- okOr self.pendingInbound[requestId]? "request-expired"
  pure { self with pendingInbound := self.pendingInbound.erase requestId }

/-- Why `activate_peer` cannot take a peer in, if it cannot. -/
def activationError (self : NetworkState P) (epoch : UInt64) (peerId : String) :
    Option Failure :=
  if self.isCurrent epoch = false then some "session-closed"
  else if self.peers.size ≥ maxConnectedPeers ∨ self.peers.contains peerId = true then
    some "peer-already-connected"
  else none

/-- `activate_peer` after it has waited for the path. -/
def activatePeer (self : NetworkState P) (n : Nat) (contact : Contact) (peer : Peer)
    (path : ConnectionPath) : NetworkState P :=
  if path ≠ ConnectionPath.relayed then
    self.setContact n
      (contact.moveTo (ContactStage.refusing peer "relay-path-unverified"))
  else
    match canonicalIdentity P peer.remoteIdentity with
    | Except.error code =>
        -- The peer is dropped here, which closes its connection.
        self.setContact n ((contact.moveTo (ContactStage.ended (some peer))).close.answer
          (Except.error code))
    | Except.ok peerId =>
        match self.activationError contact.epoch peerId with
        | some code => self.setContact n (contact.moveTo (ContactStage.refusing peer code))
        | none =>
            ({ self with peers := self.peers.insert peerId n }.setContact n
              ((contact.moveTo (ContactStage.receiving peerId peer)).answer
                (Except.ok
                  { peerId := peerId, peerDeviceId := peer.remoteDeviceId }))).emit
              contact.epoch [CoreEvent.peerVerified peerId peer.remoteDeviceId]

def pathFound (self : NetworkState P) (n : Nat) (path : ConnectionPath) :
    Option (NetworkState P) :=
  match self.contacts n with
  | none => none
  | some contact =>
      match contact.stage with
      | ContactStage.verifying peer => some (self.activatePeer n contact peer path)
      | _ => none

def refused (self : NetworkState P) (n : Nat) : Option (NetworkState P) :=
  match self.contacts n with
  | none => none
  | some contact =>
      match contact.stage with
      | ContactStage.refusing peer code =>
          some (self.setContact n
            ((contact.moveTo (ContactStage.ended (some peer))).close.answer
              (Except.error code)))
      | _ => none

end Calls

/-!
# Loops
-/

/-- The receive loop, when `recv` returns. -/
def received (self : NetworkState P) (n : Nat) (result : Option Bytes) (now : Nat) :
    Option (NetworkState P) :=
  match self.contacts n with
  | none => none
  | some contact =>
      match contact.stage with
      | ContactStage.receiving peerId peer =>
          match result with
          | none =>
              some (self.setContact n (contact.moveTo (ContactStage.leaving peerId peer)))
          | some bytes =>
              if isChatMessage bytes then
                some (self.emit contact.epoch [CoreEvent.message peerId bytes now])
              else
                some ((self.setContact n
                  (contact.moveTo (ContactStage.leaving peerId peer))).emit contact.epoch
                    [CoreEvent.error "message-invalid"])
      | _ => none

def activeSession (self : NetworkState P) (peerId : String) : Option Bytes := do
  let n <- self.peers[peerId]?
  let contact <- self.contacts n
  let peer <- contact.stage.peer
  pure peer.sessionId

def left (self : NetworkState P) (n : Nat) : Option (NetworkState P) :=
  match self.contacts n with
  | none => none
  | some contact =>
      match contact.stage with
      | ContactStage.leaving peerId peer =>
          let ended := self.setContact n
            (contact.moveTo (ContactStage.ended (some peer))).close
          if self.epoch = contact.epoch ∧
              self.activeSession peerId = some peer.sessionId then
            some ({ ended with peers := self.peers.erase peerId }.emit contact.epoch
              [CoreEvent.peerDisconnected peerId])
          else some ended
      | _ => none

def pendingFor (self : NetworkState P) (identity : String) : Nat :=
  self.pendingInbound.toList.countP fun entry => entry.2.identity == identity

/-- Zero is skipped when the counter wraps. -/
def newRequestId (self : NetworkState P) : UInt64 :=
  if self.nextRequestId + 1 = 0 then 1 else self.nextRequestId + 1

def queue (self : NetworkState P) (epoch : UInt64) (incoming : IncomingV1)
    (now : Nat) : NetworkState P :=
  let requestId := requestName self.newRequestId
  { self with
    nextRequestId := self.newRequestId
    pendingInbound := self.pendingInbound.insert requestId incoming
    queued := self.queued + 1
    timers := Function.update self.timers self.queued
      (some { requestId := requestId, epoch := epoch, running := true }) }.emit epoch
    [CoreEvent.inboundRequest requestId incoming.identity incoming.deviceId
      incoming.application now]

/-- The incoming loop of a call, when `next_incoming` returns. -/
def incoming (self : NetworkState P) (n : Nat) (result : Option IncomingV1) (now : Nat) :
    Option (NetworkState P) :=
  match self.incomingLoops n with
  | none => none
  | some epoch =>
      let stopped :=
        { self with incomingLoops := Function.update self.incomingLoops n none }
      match result with
      | none => some stopped
      | some incoming =>
          if self.isCurrent epoch = false then some stopped
          else if self.pendingInbound.size ≥ maxPendingInbound ∨
              self.pendingFor incoming.identity ≥ maxPendingPerIdentity then some self
          else some (self.queue epoch incoming now)

def expired (self : NetworkState P) (k : Nat) : Option (NetworkState P) :=
  match self.timers k with
  | none => none
  | some timer =>
      if timer.running then
        let stopped :=
          { self with
            timers := Function.update self.timers k
              (some { timer with running := false }) }
        if self.epoch = timer.epoch ∧ self.pendingInbound.contains timer.requestId then
          some ({ stopped with
            pendingInbound := self.pendingInbound.erase timer.requestId }.emit timer.epoch
              [CoreEvent.inboundRequestExpired timer.requestId])
        else some stopped
      else none

/-!
# Going online and offline
-/

/-- A shutdown and a failed renewal both empty the tables. -/
def clear (self : NetworkState P) : NetworkState P :=
  { self with peers := ∅, pendingInbound := ∅, dialing := ∅ }

/-- A flow closes the peers first, one after the other, and then its endpoint. -/
def blocks (self : NetworkState P) : OnlineLabel P -> Bool
  | OnlineLabel.shutdown k _ => !(self.shutdownPeers k).isEmpty
  | OnlineLabel.renewal n _ => (self.failedPeers n).any fun drain => !drain.left.isEmpty
  | _ => false


def tell (self : NetworkState P) (n : Nat) : NetworkState P :=
  match self.failedPeers n with
  | none => self
  | some drain =>
      { self with failedPeers := Function.update self.failedPeers n none }.emit
        drain.epoch (drain.closed.map (CoreEvent.peerDisconnected ∘ Prod.fst) ++
          [CoreEvent.error "publication-failed", CoreEvent.onlineState false])

end NetworkState

def PublishStage.isOnline : PublishStage -> Bool
  | online => true
  | _ => false

def RenewalStage.isDone : RenewalStage -> Bool
  | done => true
  | _ => false

namespace NetworkState

variable {P : Primitives}

def afterCall (self : NetworkState P) (n : Nat) : NetworkState P :=
  match self.online.attempts n with
  | none => self
  | some attempt =>
      if attempt.stage.isOnline then
        { self with
          incomingLoops := Function.update self.incomingLoops n (some attempt.epoch) }
      else self

def afterRenewal (self : NetworkState P) (n : Nat) : NetworkState P :=
  match self.online.attempts n with
  | none => self
  | some attempt =>
      if attempt.renewal.isDone then self.tell n else self

def follow (self : NetworkState P) (after : OnlineState P) :
    OnlineLabel P -> NetworkState P
  | OnlineLabel.call n _ => { self with online := after }.afterCall n
  | OnlineLabel.renewal n _ =>
      if after.core.epoch ≠ self.epoch then
        { self.clear with
          online := after
          failedPeers := Function.update self.failedPeers n
            (some { epoch := self.epoch, left := self.peers.toList, closed := [] }) }
      else { self with online := after }.afterRenewal n
  | OnlineLabel.disconnect =>
      { self.clear with
        online := after
        shutdownPeers := Function.update self.shutdownPeers self.online.stopped
          self.peers.toList }
  | _ => { self with online := after }

def closeContact (self : NetworkState P) (n : Nat) : NetworkState P :=
  match self.contacts n with
  | none => self
  | some contact => self.setContact n contact.close

def shutdownPeer (self : NetworkState P) (k i : Nat) : Option (NetworkState P) :=
  match (self.shutdownPeers k)[i]? with
  | none => none
  | some entry =>
      some { self.closeContact entry.2 with
        shutdownPeers := Function.update self.shutdownPeers k
          ((self.shutdownPeers k).eraseIdx i) }

def failedPeer (self : NetworkState P) (n i : Nat) : Option (NetworkState P) := do
  let drain <- self.failedPeers n
  let entry <- drain.left[i]?
  pure { self.closeContact entry.2 with
    failedPeers := Function.update self.failedPeers n
      (some { drain with
        left := drain.left.eraseIdx i
        closed := drain.closed ++ [entry] }) }

def afterGuard (self : NetworkState P) :
    StoreResult (NetworkState P) -> NetworkState P
  | Except.error _ => self
  | Except.ok after => after

def next [DiscoveryReaders P] (self : NetworkState P) :
    NetworkLabel P -> Option (NetworkState P)
  | NetworkLabel.online label =>
      if self.blocks label then none
      else (self.online.next label).map fun after => self.follow after label
  | NetworkLabel.identified identity => some { self with identity := identity }
  | NetworkLabel.requestPeer peerIdentity =>
      some (self.afterGuard (self.requestPeer peerIdentity))
  | NetworkLabel.dialed n result => self.dialed n result
  | NetworkLabel.acceptInbound requestId =>
      some (self.afterGuard (self.acceptInbound requestId))
  | NetworkLabel.accepted n result => self.accepted n result
  | NetworkLabel.rejectInbound requestId =>
      some (self.afterGuard (self.rejectInbound requestId))
  | NetworkLabel.pathFound n path => self.pathFound n path
  | NetworkLabel.refused n => self.refused n
  | NetworkLabel.received n result now => self.received n result now
  | NetworkLabel.left n => self.left n
  | NetworkLabel.incoming n result now => self.incoming n result now
  | NetworkLabel.expired k => self.expired k
  | NetworkLabel.shutdownPeer k i => self.shutdownPeer k i
  | NetworkLabel.failedPeer n i => self.failedPeer n i

end NetworkState

def networkCore (P : Primitives) [DiscoveryReaders P] :
    Machine (NetworkState P) (NetworkLabel P) where
  initial s :=
    (onlineCore P).initial s.online ∧ s.identity = none ∧ s.peers = ∅ ∧
      s.pendingInbound = ∅ ∧ s.dialing = ∅ ∧ s.nextRequestId = 0 ∧ s.obtained = 0 ∧
      (forall n, s.contacts n = none) ∧ s.queued = 0 ∧ (forall k, s.timers k = none) ∧
      (forall n, s.incomingLoops n = none) ∧ (forall k, s.shutdownPeers k = []) ∧
      (forall n, s.failedPeers n = none) ∧ s.events = []
  next := NetworkState.next

end Browser
end Pubky2Pubky
