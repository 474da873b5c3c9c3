import Pubky2Pubky.Foundation.Machine
import Pubky2Pubky.Browser.DeviceIssue
import Pubky2Pubky.Client.Handshake

/-!
# Going online and offline

One core and its overlapping calls. A label runs one flow from the await that
returns to its next await; what the await returned is in the label. The flows are
the calls that go online, the renewal loop of each endpoint, and the shutdowns.
-/

namespace Pubky2Pubky
namespace Browser

open Foundation Protocol Client

def application : String := "pubky2pubky/chat/1"

def locatorLifetimeSeconds : UInt64 := 15 * 60

def boundedLocatorLifetime (device : V1DeviceCredential) (now : UInt64) :
    StoreResult UInt64 := do
  let remaining := saturatingSub
    (saturatingSub device.certificate.claims.expiresAt now) 1
  rejectIf (remaining = 0) "device-state-invalid"
  pure (min remaining locatorLifetimeSeconds)

/-!
# The homeserver
-/

abbrev Homeserver (P : Primitives) :=
  P.PublicKey -> String -> Option V1DeviceRecord

/-- A write that is awaited; `taken` once the homeserver has carried it out. -/
structure Request where
  path : String
  record : V1DeviceRecord
  taken : Bool

section Writes

variable (P : Primitives)

/-- `publish_v1_device_record` up to its write, whose path it returns. -/
def publishV1DeviceRecord (session : P.PublicKey) (record : V1DeviceRecord)
    (now : UInt64) (allowInsecureLoopbackRelay : Bool) :
    ClientResult String := do
  fromProtocol (record.verify P (P.z32 session) now allowInsecureLoopbackRelay
    none)
  rejectIf ((P.jsonToVec record.toJson).length > v1MaxDeviceRecordBytes)
    (ClientError.discovery "v1 device record exceeds publication limit")
  fromProtocol (record.path P)

def deleteV1DeviceRecord (session : P.PublicKey) (record : V1DeviceRecord) :
    ClientResult String := do
  rejectIf (P.z32 session ≠ record.certificate.claims.identity)
    ClientError.unexpectedPeer
  fromProtocol (record.path P)

variable {P}

def Homeserver.write (self : Homeserver P) (account : P.PublicKey)
    (path : String) (object : Option V1DeviceRecord) : Homeserver P :=
  Function.update self account (Function.update (self account) path object)

theorem deleteV1DeviceRecord_of_publish {session : P.PublicKey}
    {record : V1DeviceRecord} {now : UInt64} {allow : Bool} {path : String}
    (h : publishV1DeviceRecord P session record now allow = Except.ok path) :
    deleteV1DeviceRecord P session record = Except.ok path := by
  unfold publishV1DeviceRecord at h
  simp only [bind_eq_ok, fromProtocol_eq_ok, exists_unit] at h
  rcases h with ⟨hverify, _, hpath⟩
  rcases V1DeviceRecord.verify_eq_ok.mp hverify with ⟨grant, hauth, _⟩
  unfold deleteV1DeviceRecord
  simp only [bind_eq_ok, rejectIf_eq_ok, exists_unit, fromProtocol_eq_ok, not_not,
    ne_eq]
  exact ⟨hauth.locatorAuthentic.bound.certificateAuthentic.identity.symm, hpath⟩

end Writes

/-!
# The core
-/

/--
What signing in and preparing a device leave in the core. Of the HTTP client and
the sequence store only their presence is read.
-/
structure SignedIn (P : Primitives) where
  identityBusy : Bool
  pubky : Bool
  session : Option P.PublicKey
  sequenceStore : Bool
  device : Option V1DeviceCredential

/--
The fields of the core that the flows write. The calls that go online are numbered
in the order in which they take their epochs, and an endpoint and its renewal loop
have the number of the call that bound it.
-/
structure CoreState (P : Primitives) where
  signedIn : SignedIn P
  goingOnline : Bool
  epoch : UInt64
  client : Option Nat
  currentRecord : Option V1DeviceRecord
  renewalAbort : Option Nat

namespace CoreState

variable {P : Primitives}

/-- The guard of `publish_and_go_online`, which takes the next epoch. -/
def enter (self : CoreState P) :
    StoreResult (CoreState P × V1DeviceCredential × P.PublicKey) := do
  rejectIf (self.signedIn.identityBusy = true ∨ self.goingOnline = true ∨
    self.client.isSome = true) "invalid-state"
  let device <- okOr self.signedIn.device "device-state-invalid"
  rejectIf (self.signedIn.pubky = false) "authentication-required"
  let session <- okOr self.signedIn.session "authentication-required"
  rejectIf (self.signedIn.sequenceStore = false) "storage-key-missing"
  pure ({ self with goingOnline := true, epoch := self.epoch + 1 }, device,
    session)

def leave (self : CoreState P) : CoreState P :=
  { self with
    goingOnline := false
    epoch := self.epoch + 1
    client := none
    currentRecord := none
    renewalAbort := none }

def release (self : CoreState P) (epoch : UInt64) : CoreState P :=
  if self.epoch = epoch then { self with goingOnline := false } else self

end CoreState

/-!
# One call and its endpoint
-/

structure Endpoint where
  client : V1Client
  active : ActiveRecords
  closed : Bool

/-- `V1Client::next_record`, given the answer of the sequence store. -/
def Endpoint.nextRecord (P : Primitives) (self : Endpoint)
    (answer : ClientResult UInt64) (lifetimeSeconds signedAt : UInt64) :
    ClientResult (Endpoint × V1DeviceRecord) := do
  let sequence <- answer
  let (active, record) <- currentRecord P self.client self.active sequence
    lifetimeSeconds signedAt
  pure ({ self with active := active }, record)

inductive PublishStage where
  | binding
  | allocating (lifetimeSeconds : UInt64)
  | putting (request : Request)
  /-- after a failed allocation or publication -/
  | closing
  /-- overtaken by a newer epoch after the publication -/
  | deleting (request : Request)
  /-- overtaken, and closing -/
  | leaving
  | failed (code : Failure)
  | online

/-- The loop that renews the locator, with `fail_online_endpoint` at its end. -/
inductive RenewalStage where
  | idle
  | sleeping
  | allocating (lifetimeSeconds : UInt64)
  | putting (request : Request)
  | closing (record : Option V1DeviceRecord)
  | deleting (request : Request)
  | done

/--
What a call has done: when it computed the lifetime of its first locator, the
records whose publication succeeded, those whose deletion the homeserver carried
out and those where it did not, whether it set the client of the core, and the
records that its loop has published since.
-/
structure PublishLog where
  lifetimeAt : Option UInt64
  published : List V1DeviceRecord
  deleted : List V1DeviceRecord
  undeleted : List V1DeviceRecord
  setClient : Bool
  renewed : List V1DeviceRecord

/-- A call past its guard, with its endpoint and the loop that renews it. -/
structure Attempt (P : Primitives) where
  device : V1DeviceCredential
  session : P.PublicKey
  relays : List Url
  allowLoopback : Bool
  epoch : UInt64
  stage : PublishStage
  endpoint : Option Endpoint
  renewal : RenewalStage
  log : PublishLog

inductive AwaitEvent where
  | bindFailed
  | bound (instanceNonce : String) (verifiedAt now : UInt64)
  | recorded (answer : ClientResult UInt64) (signedAt verifiedAt : UInt64)
  | taken
  | answered (accepted : Bool)
  | closed
  | slept (now : UInt64)

namespace Attempt

variable {P : Primitives}

def start (device : V1DeviceCredential) (session : P.PublicKey)
    (relays : List Url) (allowLoopback : Bool) (epoch : UInt64) : Attempt P where
  device := device
  session := session
  relays := relays
  allowLoopback := allowLoopback
  epoch := epoch
  stage := PublishStage.binding
  endpoint := none
  renewal := RenewalStage.idle
  log :=
    { lifetimeAt := none
      published := []
      deleted := []
      undeleted := []
      setClient := false
      renewed := [] }

def moveTo (self : Attempt P) (stage : PublishStage) : Attempt P :=
  { self with stage := stage }

def renewTo (self : Attempt P) (renewal : RenewalStage) : Attempt P :=
  { self with renewal := renewal }

def bind (self : Attempt P) (instanceNonce : String) (now : UInt64) :
    Attempt P :=
  { self with
    endpoint := some
      { client :=
          { credential := self.device
            trustedRelays := self.relays
            instanceNonce := instanceNonce
            acceptedApplications := [application]
            allowInsecureLoopbackRelay := self.allowLoopback
            resolverAllowsLoopback := self.allowLoopback }
        active := []
        closed := false }
    log := { self.log with lifetimeAt := some now } }

def close (self : Attempt P) : Attempt P :=
  { self with
    endpoint := self.endpoint.map fun endpoint =>
      { endpoint with closed := true } }

def nextPut (self : Attempt P) (answer : ClientResult UInt64)
    (lifetimeSeconds signedAt verifiedAt : UInt64) :
    Attempt P × Option Request :=
  match self.endpoint with
  | none => (self, none)
  | some endpoint =>
      match endpoint.nextRecord P answer lifetimeSeconds signedAt with
      | Except.error _ => (self, none)
      | Except.ok (endpoint, record) =>
          ({ self with endpoint := some endpoint },
            match publishV1DeviceRecord P self.session record verifiedAt
              self.allowLoopback with
            | Except.error _ => none
            | Except.ok path =>
                some { path := path, record := record, taken := false })

def deletion (self : Attempt P) (record : V1DeviceRecord) : Option Request :=
  match deleteV1DeviceRecord P self.session record with
  | Except.error _ => none
  | Except.ok path => some { path := path, record := record, taken := false }

def logPublished (self : Attempt P) (record : V1DeviceRecord) : Attempt P :=
  { self with log := { self.log with published := self.log.published ++ [record] } }

def logRenewed (self : Attempt P) (record : V1DeviceRecord) : Attempt P :=
  { self with log := { self.log with renewed := self.log.renewed ++ [record] } }

/-- The result of the deletion is ignored. -/
def logDeletion (self : Attempt P) (record : V1DeviceRecord) (carriedOut : Bool) :
    Attempt P :=
  if carriedOut then
    { self with log := { self.log with deleted := self.log.deleted ++ [record] } }
  else
    { self with
      log := { self.log with undeleted := self.log.undeleted ++ [record] } }

end Attempt

/-!
# The steps of a call
-/

structure Scope (P : Primitives) where
  core : CoreState P
  homeserver : Homeserver P
  attempt : Attempt P

def Request.carriedOut (self : Request) : Request :=
  { self with taken := true }

namespace Scope

variable {P : Primitives}

def moveTo (self : Scope P) (stage : PublishStage) : Scope P :=
  { self with attempt := self.attempt.moveTo stage }

def renewTo (self : Scope P) (renewal : RenewalStage) : Scope P :=
  { self with attempt := self.attempt.renewTo renewal }

def write (self : Scope P) (path : String) (object : Option V1DeviceRecord) :
    Scope P :=
  { self with
    homeserver := self.homeserver.write self.attempt.session path object }

def abandon (self : Scope P) (code : Failure) : Scope P :=
  { self with
    core := self.core.release self.attempt.epoch
    attempt := self.attempt.moveTo (PublishStage.failed code) }

/-- The record is published: go online, or clean up after a newer epoch. -/
def goOnline (self : Scope P) (n : Nat) (record : V1DeviceRecord) : Scope P :=
  let attempt := self.attempt.logPublished record
  if self.core.epoch = attempt.epoch then
    { self with
      core :=
        { self.core with
          goingOnline := false
          currentRecord := some record
          client := some n
          renewalAbort := some n }
      attempt :=
        { attempt with
          stage := PublishStage.online
          renewal := RenewalStage.sleeping
          log := { attempt.log with setClient := true } } }
  else
    { self with
      attempt :=
        match attempt.deletion record with
        | none => (attempt.logDeletion record false).moveTo PublishStage.leaving
        | some request => attempt.moveTo (PublishStage.deleting request) }

/-- `publish_and_go_online` after its guard. -/
def next (self : Scope P) (n : Nat) (event : AwaitEvent) : Option (Scope P) :=
  match self.attempt.stage, event with
  | PublishStage.binding, AwaitEvent.bindFailed =>
      some (self.abandon "relay-unreachable")
  | PublishStage.binding, AwaitEvent.bound instanceNonce verifiedAt now =>
      match self.attempt.device.verify P verifiedAt with
      | Except.error _ => none
      | Except.ok () =>
          let bound := { self with attempt := self.attempt.bind instanceNonce now }
          match boundedLocatorLifetime self.attempt.device now with
          | Except.error code => some (bound.abandon code)
          | Except.ok lifetimeSeconds =>
              some (bound.moveTo (PublishStage.allocating lifetimeSeconds))
  | PublishStage.allocating lifetimeSeconds,
      AwaitEvent.recorded answer signedAt verifiedAt =>
      match self.attempt.nextPut answer lifetimeSeconds signedAt verifiedAt with
      | (attempt, none) =>
          some ({ self with attempt := attempt }.moveTo PublishStage.closing)
      | (attempt, some request) =>
          some ({ self with attempt := attempt }.moveTo
            (PublishStage.putting request))
  | PublishStage.putting request, AwaitEvent.taken =>
      if request.taken then none
      else
        some ((self.write request.path (some request.record)).moveTo
          (PublishStage.putting request.carriedOut))
  | PublishStage.putting request, AwaitEvent.answered accepted =>
      if accepted then
        if request.taken then some (self.goOnline n request.record) else none
      else some (self.moveTo PublishStage.closing)
  | PublishStage.closing, AwaitEvent.closed =>
      some ({ self with attempt := self.attempt.close }.abandon
        "publication-failed")
  | PublishStage.deleting request, AwaitEvent.taken =>
      if request.taken then none
      else
        some ((self.write request.path none).moveTo
          (PublishStage.deleting request.carriedOut))
  | PublishStage.deleting request, AwaitEvent.answered _ =>
      some
        { self with
          attempt := (self.attempt.logDeletion request.record request.taken).moveTo
            PublishStage.leaving }
  | PublishStage.leaving, AwaitEvent.closed =>
      some
        { self with
          attempt := self.attempt.close.moveTo
            (PublishStage.failed "session-closed") }
  | _, _ => none

def failOnlineEndpoint (self : Scope P) : Scope P :=
  if self.core.epoch = self.attempt.epoch then
    { self with
      core := self.core.leave
      attempt := self.attempt.renewTo
        (RenewalStage.closing self.core.currentRecord) }
  else self.renewTo RenewalStage.done

def renewalDelete (self : Scope P) (record : V1DeviceRecord) : Scope P :=
  match self.attempt.deletion record with
  | none => self.renewTo RenewalStage.done
  | some request => self.renewTo (RenewalStage.deleting request)

def Active (self : Scope P) : Prop :=
  self.core.epoch = self.attempt.epoch ∧ self.core.client.isSome = true

instance (s : Scope P) : Decidable s.Active :=
  inferInstanceAs (Decidable (_ ∧ _))

def renew (self : Scope P) (event : AwaitEvent) : Option (Scope P) :=
  match self.attempt.renewal, event with
  | RenewalStage.sleeping, AwaitEvent.slept now =>
      if self.Active then
        match boundedLocatorLifetime self.attempt.device now with
        | Except.error _ => some self.failOnlineEndpoint
        | Except.ok lifetimeSeconds =>
            some (self.renewTo (RenewalStage.allocating lifetimeSeconds))
      else some (self.renewTo RenewalStage.done)
  | RenewalStage.allocating lifetimeSeconds,
      AwaitEvent.recorded answer signedAt verifiedAt =>
      match self.attempt.nextPut answer lifetimeSeconds signedAt verifiedAt with
      | (attempt, none) =>
          some { self with attempt := attempt }.failOnlineEndpoint
      | (attempt, some request) =>
          some ({ self with attempt := attempt }.renewTo
            (RenewalStage.putting request))
  | RenewalStage.putting request, AwaitEvent.taken =>
      if request.taken then none
      else
        some ((self.write request.path (some request.record)).renewTo
          (RenewalStage.putting request.carriedOut))
  | RenewalStage.putting request, AwaitEvent.answered accepted =>
      if accepted then
        if request.taken then
          if self.Active then
            some ({ self with
              core := { self.core with currentRecord := some request.record }
              attempt := self.attempt.logRenewed request.record }.renewTo
                RenewalStage.sleeping)
          else some (self.renewalDelete request.record)
        else none
      else some self.failOnlineEndpoint
  | RenewalStage.closing record, AwaitEvent.closed =>
      let closed := { self with attempt := self.attempt.close }
      match record with
      | none => some (closed.renewTo RenewalStage.done)
      | some record => some (closed.renewalDelete record)
  | RenewalStage.deleting request, AwaitEvent.taken =>
      if request.taken then none
      else
        some ((self.write request.path none).renewTo
          (RenewalStage.deleting request.carriedOut))
  | RenewalStage.deleting _, AwaitEvent.answered _ =>
      some (self.renewTo RenewalStage.done)
  | _, _ => none

end Scope

/-!
# The whole core
-/

inductive ShutdownStage where
  | closing
  | deleting (request : Request)
  | done

structure Shutdown (P : Primitives) where
  client : Option Nat
  record : Option V1DeviceRecord
  session : Option P.PublicKey
  stage : ShutdownStage

def Shutdown.deletion {P : Primitives} (self : Shutdown P) : ShutdownStage :=
  match self.record, self.session with
  | some record, some session =>
      match deleteV1DeviceRecord P session record with
      | Except.error _ => ShutdownStage.done
      | Except.ok path =>
          ShutdownStage.deleting { path := path, record := record, taken := false }
  | _, _ => ShutdownStage.done

/-- A write whose flow was aborted before the homeserver carried it out. -/
structure Orphan (P : Primitives) where
  account : P.PublicKey
  path : String
  object : Option V1DeviceRecord

structure OnlineState (P : Primitives) where
  core : CoreState P
  homeserver : Homeserver P
  started : Nat
  attempts : Nat -> Option (Attempt P)
  stopped : Nat
  shutdowns : Nat -> Option (Shutdown P)
  orphans : List (Orphan P)

inductive OnlineLabel (P : Primitives) where
  | signedIn (fields : SignedIn P)
  | publish (relays : List Url) (allowLoopback : Bool)
  | call (n : Nat) (event : AwaitEvent)
  | renewal (n : Nat) (event : AwaitEvent)
  | disconnect
  | shutdown (k : Nat) (event : AwaitEvent)
  | late (i : Nat)

namespace Attempt

variable {P : Primitives}

def orphans (self : Attempt P) : List (Orphan P) :=
  match self.renewal with
  | RenewalStage.putting request =>
      if request.taken then []
      else
        [{ account := self.session
           path := request.path
           object := some request.record }]
  | RenewalStage.deleting request =>
      if request.taken then []
      else
        [{ account := self.session, path := request.path, object := none }]
  | _ => []

end Attempt

namespace OnlineState

variable {P : Primitives}

def setAttempt (self : OnlineState P) (n : Nat) (attempt : Attempt P) :
    OnlineState P :=
  { self with attempts := Function.update self.attempts n (some attempt) }

def within (self : OnlineState P) (n : Nat)
    (step : Scope P -> Option (Scope P)) : Option (OnlineState P) :=
  match self.attempts n with
  | none => none
  | some attempt =>
      (step
        { core := self.core
          homeserver := self.homeserver
          attempt := attempt }).map fun after =>
        { self with
          core := after.core
          homeserver := after.homeserver }.setAttempt n after.attempt

/-- The renewal loop whose handle is aborted ends, whatever it awaits. -/
def abort (self : OnlineState P) (handle : Option Nat) : OnlineState P :=
  match handle.bind fun n => (self.attempts n).map fun attempt => (n, attempt) with
  | none => self
  | some (n, attempt) =>
      { self with orphans := self.orphans ++ attempt.orphans }.setAttempt n
        (attempt.renewTo RenewalStage.done)

def closeClient (self : OnlineState P) (client : Option Nat) : OnlineState P :=
  match client.bind fun n => (self.attempts n).map fun attempt => (n, attempt) with
  | none => self
  | some (n, attempt) => self.setAttempt n attempt.close

def setShutdown (self : OnlineState P) (k : Nat) (shutdown : Shutdown P) :
    OnlineState P :=
  { self with shutdowns := Function.update self.shutdowns k (some shutdown) }

/-- `shutdown_network` up to its first await. -/
def disconnect (self : OnlineState P) : OnlineState P :=
  { self.abort self.core.renewalAbort with
    core := self.core.leave
    stopped := self.stopped + 1 }.setShutdown self.stopped
      { client := self.core.client
        record := self.core.currentRecord
        session := self.core.signedIn.session
        stage := ShutdownStage.closing }

def shut (self : OnlineState P) (k : Nat) (event : AwaitEvent) :
    Option (OnlineState P) :=
  match self.shutdowns k with
  | none => none
  | some shutdown =>
      match shutdown.stage, shutdown.session, event with
      | ShutdownStage.closing, _, AwaitEvent.closed =>
          some ((self.closeClient shutdown.client).setShutdown k
            { shutdown with stage := shutdown.deletion })
      | ShutdownStage.deleting request, some session, AwaitEvent.taken =>
          if request.taken then none
          else
            some ({ self with
              homeserver := self.homeserver.write session request.path none
              }.setShutdown k
                { shutdown with
                  stage := ShutdownStage.deleting request.carriedOut })
      | ShutdownStage.deleting _, _, AwaitEvent.answered _ =>
          some (self.setShutdown k { shutdown with stage := ShutdownStage.done })
      | _, _, _ => none

def next (self : OnlineState P) : OnlineLabel P -> Option (OnlineState P)
  | OnlineLabel.signedIn fields =>
      some { self with core := { self.core with signedIn := fields } }
  | OnlineLabel.publish relays allowLoopback =>
      match self.core.enter with
      | Except.error _ => none
      | Except.ok (core, device, session) =>
          some ({ self with core := core, started := self.started + 1 }.setAttempt
            self.started
            (Attempt.start device session relays allowLoopback core.epoch))
  | OnlineLabel.call n event => self.within n fun scope => scope.next n event
  | OnlineLabel.renewal n event => self.within n fun scope => scope.renew event
  | OnlineLabel.disconnect => some self.disconnect
  | OnlineLabel.shutdown k event => self.shut k event
  | OnlineLabel.late i =>
      match self.orphans[i]? with
      | none => none
      | some orphan =>
          some
            { self with
              homeserver := self.homeserver.write orphan.account orphan.path
                orphan.object
              orphans := self.orphans.eraseIdx i }

end OnlineState

def onlineCore (P : Primitives) : Machine (OnlineState P) (OnlineLabel P) where
  initial s :=
    s.core =
        { signedIn :=
            { identityBusy := false
              pubky := false
              session := none
              sequenceStore := false
              device := none }
          goingOnline := false
          epoch := 0
          client := none
          currentRecord := none
          renewalAbort := none } ∧
      s.started = 0 ∧ (forall n, s.attempts n = none) ∧ s.stopped = 0 ∧
      (forall k, s.shutdowns k = none) ∧ s.orphans = []
  next := OnlineState.next

/-!
# What a step does
-/

section Steps

variable {P : Primitives}

/-- More than one second of the certificate is left. -/
def LifetimeLeft (device : V1DeviceCredential) (now : UInt64) : Prop :=
  now.toNat + 1 < device.certificate.claims.expiresAt.toNat

theorem boundedLocatorLifetime_ok {device : V1DeviceCredential} {now : UInt64} :
    (exists lifetimeSeconds,
      boundedLocatorLifetime device now = Except.ok lifetimeSeconds) <->
        LifetimeLeft device now := by
  have hremaining : saturatingSub
      (saturatingSub device.certificate.claims.expiresAt now) 1 = 0 <->
        ¬ LifetimeLeft device now := by
    rw [← UInt64.toNat_inj, toNat_saturatingSub, toNat_saturatingSub]
    unfold LifetimeLeft
    change _ - _ - 1 = 0 <-> _
    omega
  unfold boundedLocatorLifetime
  simp only [bind_eq_ok, rejectIf_eq_ok, exists_unit, pure_eq_ok, hremaining,
    not_not]
  exact ⟨fun h => h.choose_spec.left, fun h => ⟨_, h, rfl⟩⟩

theorem not_lifetimeLeft_of_error {device : V1DeviceCredential} {now : UInt64}
    {code : Failure}
    (h : boundedLocatorLifetime device now = Except.error code) :
    ¬ LifetimeLeft device now := by
  intro hleft
  rcases boundedLocatorLifetime_ok.mpr hleft with ⟨lifetimeSeconds, hok⟩
  rw [hok] at h
  cases h

namespace Attempt

def register (self : Attempt P) (active : ActiveRecords) : Attempt P :=
  { self with
    endpoint := self.endpoint.map fun endpoint =>
      { endpoint with active := active } }

theorem nextPut_register {self attempt : Attempt P}
    {answer : ClientResult UInt64} {lifetimeSeconds signedAt verifiedAt : UInt64}
    {put : Option Request}
    (h : self.nextPut answer lifetimeSeconds signedAt verifiedAt =
      (attempt, put)) : exists active, attempt = self.register active := by
  unfold nextPut at h
  split at h
  · next hendpoint =>
      cases h
      refine ⟨[], ?_⟩
      unfold register
      rw [hendpoint]
      simp only [Option.map_none]
      rw [← hendpoint]
  · next endpoint hendpoint =>
      split at h
      · cases h
        refine ⟨endpoint.active, ?_⟩
        unfold register
        rw [hendpoint]
        simp only [Option.map_some]
        rw [← hendpoint]
      · next made record hrecord =>
          rw [Prod.mk.injEq] at h
          rcases h with ⟨rfl, _⟩
          unfold Endpoint.nextRecord at hrecord
          simp only [bind_eq_ok, pure_eq_ok, Prod.mk.injEq] at hrecord
          rcases hrecord with ⟨sequence, _, registered, _, rfl, _⟩
          refine ⟨registered.1, ?_⟩
          unfold register
          rw [hendpoint]
          rfl

theorem nextPut_eq {self : Attempt P} {endpoint made : Endpoint}
    {answer : ClientResult UInt64} {lifetimeSeconds signedAt verifiedAt : UInt64}
    {record : V1DeviceRecord} {path : String}
    (hendpoint : self.endpoint = some endpoint)
    (hmade : endpoint.nextRecord P answer lifetimeSeconds signedAt =
      Except.ok (made, record))
    (hpublish : publishV1DeviceRecord P self.session record verifiedAt
      self.allowLoopback = Except.ok path) :
    self.nextPut answer lifetimeSeconds signedAt verifiedAt =
      ({ self with endpoint := some made },
        some { path := path, record := record, taken := false }) := by
  unfold nextPut
  simp only [hendpoint, hmade, hpublish]

/-- A record that is about to be put was made by the endpoint and is publishable. -/
theorem nextPut_some {self attempt : Attempt P}
    {answer : ClientResult UInt64} {lifetimeSeconds signedAt verifiedAt : UInt64}
    {request : Request}
    (h : self.nextPut answer lifetimeSeconds signedAt verifiedAt =
      (attempt, some request)) :
    request.taken = false ∧
      publishV1DeviceRecord P self.session request.record verifiedAt
        self.allowLoopback = Except.ok request.path ∧
      exists endpoint, self.endpoint = some endpoint ∧
        request.record.certificate = endpoint.client.credential.certificate := by
  unfold nextPut at h
  split at h
  · cases h
  · next endpoint hendpoint =>
      split at h
      · cases h
      · next made record hrecord =>
          rw [Prod.mk.injEq] at h
          rcases h with ⟨_, hrequest⟩
          split at hrequest
          · cases hrequest
          · next path hpublish =>
              cases hrequest
              refine ⟨rfl, hpublish, endpoint, hendpoint, ?_⟩
              unfold Endpoint.nextRecord at hrecord
              simp only [bind_eq_ok, pure_eq_ok, Prod.mk.injEq] at hrecord
              rcases hrecord with ⟨sequence, _, ⟨registered, found⟩, hcurrent, _,
                rfl⟩
              unfold currentRecord at hcurrent
              simp only [bind_eq_ok, exists_unit, pure_eq_ok, fromProtocol_eq_ok,
                Prod.mk.injEq] at hcurrent
              rcases hcurrent with ⟨_, _, locator, _, _, hnew, _, rfl⟩
              exact (V1DeviceRecord.new_eq_ok hnew).right.left

def Deletes (self : Attempt P) (record : V1DeviceRecord) : Prop :=
  exists request, self.deletion record = some request

/-- What is about to be published could be deleted again. -/
theorem nextPut_deletes {self attempt : Attempt P}
    {answer : ClientResult UInt64} {lifetimeSeconds signedAt verifiedAt : UInt64}
    {request : Request}
    (h : self.nextPut answer lifetimeSeconds signedAt verifiedAt =
      (attempt, some request)) : self.Deletes request.record := by
  unfold Deletes deletion
  rw [deleteV1DeviceRecord_of_publish (nextPut_some h).right.left]
  exact ⟨_, rfl⟩

end Attempt

/-- What a step of the call with the given number does, stage by stage. -/
inductive PublishStep (n : Nat) (s : Scope P) : AwaitEvent -> Scope P -> Prop where
  | bindFailed {code : Failure} (hstage : s.attempt.stage = PublishStage.binding) :
      PublishStep n s AwaitEvent.bindFailed (s.abandon code)
  | expired {instanceNonce : String} {verifiedAt now : UInt64} {code : Failure}
      (hstage : s.attempt.stage = PublishStage.binding)
      (hexpired : ¬ LifetimeLeft s.attempt.device now) :
      PublishStep n s (AwaitEvent.bound instanceNonce verifiedAt now)
        ({ s with attempt := s.attempt.bind instanceNonce now }.abandon code)
  | bound {instanceNonce : String} {verifiedAt now lifetimeSeconds : UInt64}
      (hstage : s.attempt.stage = PublishStage.binding)
      (hleft : LifetimeLeft s.attempt.device now) :
      PublishStep n s (AwaitEvent.bound instanceNonce verifiedAt now)
        ({ s with attempt := s.attempt.bind instanceNonce now }.moveTo
          (PublishStage.allocating lifetimeSeconds))
  | unrecorded {answer : ClientResult UInt64}
      {lifetimeSeconds signedAt verifiedAt : UInt64} {attempt : Attempt P}
      (hstage : s.attempt.stage = PublishStage.allocating lifetimeSeconds)
      (hput : s.attempt.nextPut answer lifetimeSeconds signedAt verifiedAt =
        (attempt, none)) :
      PublishStep n s (AwaitEvent.recorded answer signedAt verifiedAt)
        ({ s with attempt := attempt }.moveTo PublishStage.closing)
  | recorded {answer : ClientResult UInt64}
      {lifetimeSeconds signedAt verifiedAt : UInt64} {attempt : Attempt P}
      {request : Request}
      (hstage : s.attempt.stage = PublishStage.allocating lifetimeSeconds)
      (hput : s.attempt.nextPut answer lifetimeSeconds signedAt verifiedAt =
        (attempt, some request)) :
      PublishStep n s (AwaitEvent.recorded answer signedAt verifiedAt)
        ({ s with attempt := attempt }.moveTo (PublishStage.putting request))
  | put {request : Request}
      (hstage : s.attempt.stage = PublishStage.putting request)
      (hnew : request.taken = false) :
      PublishStep n s AwaitEvent.taken
        ((s.write request.path (some request.record)).moveTo
          (PublishStage.putting request.carriedOut))
  | rejected {request : Request}
      (hstage : s.attempt.stage = PublishStage.putting request) :
      PublishStep n s (AwaitEvent.answered false) (s.moveTo PublishStage.closing)
  | published {request : Request}
      (hstage : s.attempt.stage = PublishStage.putting request)
      (htaken : request.taken = true) :
      PublishStep n s (AwaitEvent.answered true) (s.goOnline n request.record)
  | closed {code : Failure} (hstage : s.attempt.stage = PublishStage.closing) :
      PublishStep n s AwaitEvent.closed
        ({ s with attempt := s.attempt.close }.abandon code)
  | deleted {request : Request}
      (hstage : s.attempt.stage = PublishStage.deleting request)
      (hnew : request.taken = false) :
      PublishStep n s AwaitEvent.taken
        ((s.write request.path none).moveTo
          (PublishStage.deleting request.carriedOut))
  | settled {request : Request} {accepted : Bool}
      (hstage : s.attempt.stage = PublishStage.deleting request) :
      PublishStep n s (AwaitEvent.answered accepted) { s with
        attempt := (s.attempt.logDeletion request.record request.taken).moveTo
          PublishStage.leaving }
  | left {code : Failure} (hstage : s.attempt.stage = PublishStage.leaving) :
      PublishStep n s AwaitEvent.closed { s with
        attempt := s.attempt.close.moveTo (PublishStage.failed code) }

theorem Scope.next_step {s after : Scope P} {n : Nat} {event : AwaitEvent}
    (h : s.next n event = some after) : PublishStep n s event after := by
  unfold Scope.next at h
  split at h
  · next hstage =>
      cases h
      exact PublishStep.bindFailed hstage
  · next instanceNonce verifiedAt now hstage =>
      split at h
      · cases h
      · dsimp only at h
        split at h
        · next code herror =>
            cases h
            exact PublishStep.expired hstage (not_lifetimeLeft_of_error herror)
        · next lifetimeSeconds hok =>
            cases h
            exact PublishStep.bound hstage
              (boundedLocatorLifetime_ok.mp ⟨lifetimeSeconds, hok⟩)
  · next lifetimeSeconds answer signedAt verifiedAt hstage =>
      split at h
      · next attempt hput =>
          cases h
          exact PublishStep.unrecorded hstage hput
      · next attempt request hput =>
          cases h
          exact PublishStep.recorded hstage hput
  · next request hstage =>
      split at h
      · cases h
      · next hnew =>
          cases h
          exact PublishStep.put hstage (Bool.eq_false_of_not_eq_true hnew)
  · next request accepted hstage =>
      cases accepted with
      | true =>
          simp only [if_true] at h
          split at h
          · next htaken =>
              cases h
              exact PublishStep.published hstage htaken
          · cases h
      | false =>
          cases h
          exact PublishStep.rejected hstage
  · next hstage =>
      cases h
      exact PublishStep.closed hstage
  · next request hstage =>
      split at h
      · cases h
      · next hnew =>
          cases h
          exact PublishStep.deleted hstage (Bool.eq_false_of_not_eq_true hnew)
  · next request accepted hstage =>
      cases h
      exact PublishStep.settled hstage
  · next hstage =>
      cases h
      exact PublishStep.left hstage
  · cases h

/-- What a step of the renewal loop does, stage by stage. -/
inductive RenewalStep (s : Scope P) : AwaitEvent -> Scope P -> Prop where
  | ended {now : UInt64} (hrenewal : s.attempt.renewal = RenewalStage.sleeping)
      (hinactive : ¬ s.Active) :
      RenewalStep s (AwaitEvent.slept now) (s.renewTo RenewalStage.done)
  | expired {now : UInt64} (hrenewal : s.attempt.renewal = RenewalStage.sleeping)
      (hactive : s.Active) :
      RenewalStep s (AwaitEvent.slept now) s.failOnlineEndpoint
  | woken {now lifetimeSeconds : UInt64}
      (hrenewal : s.attempt.renewal = RenewalStage.sleeping)
      (hactive : s.Active) :
      RenewalStep s (AwaitEvent.slept now)
        (s.renewTo (RenewalStage.allocating lifetimeSeconds))
  | unrecorded {answer : ClientResult UInt64}
      {lifetimeSeconds signedAt verifiedAt : UInt64} {attempt : Attempt P}
      (hrenewal : s.attempt.renewal = RenewalStage.allocating lifetimeSeconds)
      (hput : s.attempt.nextPut answer lifetimeSeconds signedAt verifiedAt =
        (attempt, none)) :
      RenewalStep s (AwaitEvent.recorded answer signedAt verifiedAt)
        { s with attempt := attempt }.failOnlineEndpoint
  | recorded {answer : ClientResult UInt64}
      {lifetimeSeconds signedAt verifiedAt : UInt64} {attempt : Attempt P}
      {request : Request}
      (hrenewal : s.attempt.renewal = RenewalStage.allocating lifetimeSeconds)
      (hput : s.attempt.nextPut answer lifetimeSeconds signedAt verifiedAt =
        (attempt, some request)) :
      RenewalStep s (AwaitEvent.recorded answer signedAt verifiedAt)
        ({ s with attempt := attempt }.renewTo (RenewalStage.putting request))
  | put {request : Request}
      (hrenewal : s.attempt.renewal = RenewalStage.putting request)
      (hnew : request.taken = false) :
      RenewalStep s AwaitEvent.taken
        ((s.write request.path (some request.record)).renewTo
          (RenewalStage.putting request.carriedOut))
  | rejected {request : Request}
      (hrenewal : s.attempt.renewal = RenewalStage.putting request) :
      RenewalStep s (AwaitEvent.answered false) s.failOnlineEndpoint
  | renewed {request : Request}
      (hrenewal : s.attempt.renewal = RenewalStage.putting request)
      (htaken : request.taken = true) (hactive : s.Active) :
      RenewalStep s (AwaitEvent.answered true) ({ s with
        core := { s.core with currentRecord := some request.record }
        attempt := s.attempt.logRenewed request.record }.renewTo
          RenewalStage.sleeping)
  | overtaken {request : Request}
      (hrenewal : s.attempt.renewal = RenewalStage.putting request)
      (hinactive : ¬ s.Active) :
      RenewalStep s (AwaitEvent.answered true) (s.renewalDelete request.record)
  | closedEmpty (hrenewal : s.attempt.renewal = RenewalStage.closing none) :
      RenewalStep s AwaitEvent.closed
        ({ s with attempt := s.attempt.close }.renewTo RenewalStage.done)
  | closed {record : V1DeviceRecord}
      (hrenewal : s.attempt.renewal = RenewalStage.closing (some record)) :
      RenewalStep s AwaitEvent.closed
        ({ s with attempt := s.attempt.close }.renewalDelete record)
  | deleted {request : Request}
      (hrenewal : s.attempt.renewal = RenewalStage.deleting request)
      (hnew : request.taken = false) :
      RenewalStep s AwaitEvent.taken
        ((s.write request.path none).renewTo
          (RenewalStage.deleting request.carriedOut))
  | settled {request : Request} {accepted : Bool}
      (hrenewal : s.attempt.renewal = RenewalStage.deleting request) :
      RenewalStep s (AwaitEvent.answered accepted)
        (s.renewTo RenewalStage.done)

theorem Scope.renew_step {s after : Scope P} {event : AwaitEvent}
    (h : s.renew event = some after) : RenewalStep s event after := by
  unfold Scope.renew at h
  split at h
  · next now hrenewal =>
      split at h
      · next hactive =>
          split at h
          · cases h
            exact RenewalStep.expired hrenewal hactive
          · cases h
            exact RenewalStep.woken hrenewal hactive
      · next hinactive =>
          cases h
          exact RenewalStep.ended hrenewal hinactive
  · next lifetimeSeconds answer signedAt verifiedAt hrenewal =>
      split at h
      · next attempt hput =>
          cases h
          exact RenewalStep.unrecorded hrenewal hput
      · next attempt request hput =>
          cases h
          exact RenewalStep.recorded hrenewal hput
  · next request hrenewal =>
      split at h
      · cases h
      · next hnew =>
          cases h
          exact RenewalStep.put hrenewal (Bool.eq_false_of_not_eq_true hnew)
  · next request accepted hrenewal =>
      cases accepted with
      | true =>
          simp only [if_true] at h
          split at h
          · next htaken =>
              split at h
              · next hactive =>
                  cases h
                  exact RenewalStep.renewed hrenewal htaken hactive
              · next hinactive =>
                  cases h
                  exact RenewalStep.overtaken hrenewal hinactive
          · cases h
      | false =>
          cases h
          exact RenewalStep.rejected hrenewal
  · next record hrenewal =>
      cases record with
      | none =>
          cases h
          exact RenewalStep.closedEmpty hrenewal
      | some record =>
          cases h
          exact RenewalStep.closed hrenewal
  · next request hrenewal =>
      split at h
      · cases h
      · next hnew =>
          cases h
          exact RenewalStep.deleted hrenewal (Bool.eq_false_of_not_eq_true hnew)
  · next hrenewal =>
      cases h
      exact RenewalStep.settled hrenewal
  · cases h

end Steps

end Browser
end Pubky2Pubky
