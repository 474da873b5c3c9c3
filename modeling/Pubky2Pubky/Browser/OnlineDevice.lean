import Pubky2Pubky.Browser.OnlineFailure

/-!
# The calls of one device

While the device of the core does not change, every flow writes the object of that
device, and the client of the core belongs to the newest call, whose renewal loop is
the only one that runs.
-/

namespace Pubky2Pubky
namespace Browser

open Foundation Protocol Client

namespace OnlineState

variable {P : Primitives}

theorem call_step {s t : OnlineState P} {n : Nat} {event : AwaitEvent}
    (h : s.next (OnlineLabel.call n event) = some t) :
    exists attempt after, s.attempts n = some attempt ∧
      PublishStep n
        { core := s.core, homeserver := s.homeserver, attempt := attempt } event
        after ∧
      t = { s with
        core := after.core
        homeserver := after.homeserver }.setAttempt n after.attempt := by
  have hwithin : (s.within n fun scope => scope.next n event) = some t := h
  rcases within_eq_some hwithin with ⟨attempt, after, hattempt, hafter, ht⟩
  exact ⟨attempt, after, hattempt, Scope.next_step hafter, ht⟩

theorem renewal_step {s t : OnlineState P} {n : Nat} {event : AwaitEvent}
    (h : s.next (OnlineLabel.renewal n event) = some t) :
    exists attempt after, s.attempts n = some attempt ∧
      RenewalStep
        { core := s.core, homeserver := s.homeserver, attempt := attempt } event
        after ∧
      t = { s with
        core := after.core
        homeserver := after.homeserver }.setAttempt n after.attempt := by
  have hwithin : (s.within n fun scope => scope.renew event) = some t := h
  rcases within_eq_some hwithin with ⟨attempt, after, hattempt, hafter, ht⟩
  exact ⟨attempt, after, hattempt, Scope.renew_step hafter, ht⟩

/-- A call that passes the guard finds the core empty. -/
theorem publish_step {s t : OnlineState P} {relays : List Url}
    {allowLoopback : Bool}
    (h : s.next (OnlineLabel.publish relays allowLoopback) = some t) :
    exists device session, s.core.client = none ∧
      s.core.signedIn.device = some device ∧
      s.core.signedIn.session = some session ∧
      t = { s with
        core := { s.core with goingOnline := true, epoch := s.core.epoch + 1 }
        started := s.started + 1 }.setAttempt s.started
          (Attempt.start device session relays allowLoopback
            (s.core.epoch + 1)) := by
  simp only [OnlineState.next] at h
  split at h
  · cases h
  · next core device session henter =>
      cases h
      unfold CoreState.enter at henter
      simp only [bind_eq_ok, rejectIf_eq_ok, okOr_eq_ok, exists_unit,
        pure_eq_ok, Prod.mk.injEq, not_or, Bool.not_eq_true] at henter
      rcases henter with
        ⟨hfree, found, hdevice, _, other, hsession, _, rfl, rfl, rfl⟩
      exact ⟨found, other, Option.isSome_eq_false_iff.mp hfree.right.right |>
        Option.isNone_iff_eq_none.mp, hdevice, hsession, rfl⟩

end OnlineState

/-- The device of a run, its account, and the object that its flows write. -/
structure Publisher (P : Primitives) where
  device : V1DeviceCredential
  account : P.PublicKey
  path : String
  derived : v1DeviceRecordPath P device.certificate.claims.grantCnfKey
    device.certificate.claims.controlSigningKey = Except.ok path

namespace Publisher

variable {P : Primitives} (p : Publisher P)

def object (s : OnlineState P) : Option V1DeviceRecord :=
  s.homeserver p.account p.path

/-!
# Whose object it is
-/

/-- The account can delete the record, and deletes the object of the device. -/
def Deletable (record : V1DeviceRecord) : Prop :=
  deleteV1DeviceRecord P p.account record = Except.ok p.path

structure Aimed (request : Request) : Prop where
  path : request.path = p.path
  record : p.Deletable request.record

def StageAimed : PublishStage -> Prop
  | PublishStage.putting request => p.Aimed request
  | PublishStage.deleting request => p.Aimed request
  | _ => True

def RenewalAimed : RenewalStage -> Prop
  | RenewalStage.putting request => p.Aimed request
  | RenewalStage.closing (some record) => p.Deletable record
  | RenewalStage.deleting request => p.Aimed request
  | _ => True

structure AttemptAimed (attempt : Attempt P) : Prop where
  device : attempt.device = p.device
  session : attempt.session = p.account
  endpoint : forall endpoint, attempt.endpoint = some endpoint ->
    endpoint.client.credential = p.device
  stage : p.StageAimed attempt.stage
  renewal : p.RenewalAimed attempt.renewal

/-- The record that the core would delete is one of the device. -/
def RecordAimed (core : CoreState P) : Prop :=
  forall record, core.currentRecord = some record -> p.Deletable record

structure ShutdownAimed (shutdown : Shutdown P) : Prop where
  record : forall record, shutdown.record = some record -> p.Deletable record
  session : forall session, shutdown.session = some session ->
    session = p.account
  stage : forall request, shutdown.stage = ShutdownStage.deleting request ->
    p.Aimed request

structure StateAimed (s : OnlineState P) : Prop where
  device : forall device, s.core.signedIn.device = some device ->
    device = p.device
  session : forall session, s.core.signedIn.session = some session ->
    session = p.account
  record : p.RecordAimed s.core
  attempts : forall n attempt, s.attempts n = some attempt ->
    p.AttemptAimed attempt
  shutdowns : forall k shutdown, s.shutdowns k = some shutdown ->
    p.ShutdownAimed shutdown

variable {p}

/-- The record of the device's certificate has the path of the device. -/
theorem aimed_of_nextPut {attempt after : Attempt P}
    {answer : ClientResult UInt64} {lifetimeSeconds signedAt verifiedAt : UInt64}
    {request : Request} (h : p.AttemptAimed attempt)
    (hput : attempt.nextPut answer lifetimeSeconds signedAt verifiedAt =
      (after, some request)) : p.Aimed request := by
  rcases Attempt.nextPut_some hput with
    ⟨_, hpublish, endpoint, hendpoint, hcertificate⟩
  rw [h.session] at hpublish
  have hdelete := deleteV1DeviceRecord_of_publish hpublish
  have hpath : request.record.path P = Except.ok p.path := by
    unfold V1DeviceRecord.path
    rw [hcertificate, h.endpoint endpoint hendpoint]
    exact p.derived
  have hsame : request.path = p.path := by
    have hfound := hdelete
    unfold deleteV1DeviceRecord at hfound
    simp only [bind_eq_ok, exists_unit, fromProtocol_eq_ok] at hfound
    rw [hpath] at hfound
    injection hfound.right with hfound
    exact hfound.symm
  rw [hsame] at hdelete
  exact ⟨hsame, hdelete⟩

theorem AttemptAimed.register {attempt : Attempt P}
    (h : p.AttemptAimed attempt) (active : ActiveRecords) :
    p.AttemptAimed (attempt.register active) := by
  refine ⟨h.device, h.session, ?_, h.stage, h.renewal⟩
  intro endpoint hendpoint
  change attempt.endpoint.map _ = some endpoint at hendpoint
  rw [Option.map_eq_some_iff] at hendpoint
  rcases hendpoint with ⟨before, hbefore, rfl⟩
  exact h.endpoint before hbefore

theorem AttemptAimed.close {attempt : Attempt P}
    (h : p.AttemptAimed attempt) : p.AttemptAimed attempt.close := by
  refine ⟨h.device, h.session, ?_, h.stage, h.renewal⟩
  intro endpoint hendpoint
  change attempt.endpoint.map _ = some endpoint at hendpoint
  rw [Option.map_eq_some_iff] at hendpoint
  rcases hendpoint with ⟨before, hbefore, rfl⟩
  exact h.endpoint before hbefore

theorem AttemptAimed.bind {attempt : Attempt P} (h : p.AttemptAimed attempt)
    (instanceNonce : String) (now : UInt64) :
    p.AttemptAimed (attempt.bind instanceNonce now) := by
  refine ⟨h.device, h.session, ?_, h.stage, h.renewal⟩
  intro endpoint hendpoint
  cases hendpoint
  exact h.device

theorem AttemptAimed.moveTo {attempt : Attempt P} (h : p.AttemptAimed attempt)
    {stage : PublishStage} (hstage : p.StageAimed stage) :
    p.AttemptAimed (attempt.moveTo stage) :=
  ⟨h.device, h.session, h.endpoint, hstage, h.renewal⟩

theorem AttemptAimed.renewTo {attempt : Attempt P}
    (h : p.AttemptAimed attempt) {renewal : RenewalStage}
    (hrenewal : p.RenewalAimed renewal) :
    p.AttemptAimed (attempt.renewTo renewal) :=
  ⟨h.device, h.session, h.endpoint, h.stage, hrenewal⟩

theorem AttemptAimed.logDeletion {attempt : Attempt P}
    (h : p.AttemptAimed attempt) (record : V1DeviceRecord)
    (carriedOut : Bool) :
    p.AttemptAimed (attempt.logDeletion record carriedOut) := by
  unfold Attempt.logDeletion
  cases carriedOut with
  | true => exact ⟨h.device, h.session, h.endpoint, h.stage, h.renewal⟩
  | false => exact ⟨h.device, h.session, h.endpoint, h.stage, h.renewal⟩

theorem Aimed.carriedOut {request : Request} (h : p.Aimed request) :
    p.Aimed request.carriedOut :=
  ⟨h.path, h.record⟩

/-- The deletion of a record of the device aims at its object. -/
theorem deletion_of_deletable {attempt : Attempt P} {record : V1DeviceRecord}
    (h : attempt.session = p.account) (hrecord : p.Deletable record) :
    attempt.deletion record =
      some { path := p.path, record := record, taken := false } := by
  unfold Attempt.deletion
  rw [h, show deleteV1DeviceRecord P p.account record = _ from hrecord]

theorem aimed_new {record : V1DeviceRecord} (h : p.Deletable record) :
    p.Aimed { path := p.path, record := record, taken := false } :=
  ⟨rfl, h⟩

/-- A step of a call keeps its writes aimed, and the record of the core. -/
theorem AttemptAimed.step {s after : Scope P} {n : Nat} {event : AwaitEvent}
    (h : p.AttemptAimed s.attempt) (hcore : p.RecordAimed s.core)
    (hstep : PublishStep n s event after) :
    p.AttemptAimed after.attempt ∧ p.RecordAimed after.core := by
  have hstage := h.stage
  have hrelease : forall epoch, p.RecordAimed (s.core.release epoch) := by
    intro epoch
    unfold CoreState.release
    split
    · exact hcore
    · exact hcore
  cases hstep with
  | bindFailed hbefore => exact ⟨h.moveTo trivial, hrelease _⟩
  | expired hbefore _ => exact ⟨(h.bind _ _).moveTo trivial, hrelease _⟩
  | bound hbefore _ => exact ⟨(h.bind _ _).moveTo trivial, hcore⟩
  | unrecorded hbefore hput =>
      rcases Attempt.nextPut_register hput with ⟨active, rfl⟩
      exact ⟨(h.register active).moveTo trivial, hcore⟩
  | recorded hbefore hput =>
      have haimed := aimed_of_nextPut h hput
      rcases Attempt.nextPut_register hput with ⟨active, rfl⟩
      exact ⟨(h.register active).moveTo haimed, hcore⟩
  | put hbefore _ =>
      rw [hbefore] at hstage
      exact ⟨h.moveTo hstage.carriedOut, hcore⟩
  | rejected hbefore => exact ⟨h.moveTo trivial, hcore⟩
  | @published request hbefore _ =>
      rw [hbefore] at hstage
      have hpublished : p.AttemptAimed
          (s.attempt.logPublished request.record) :=
        ⟨h.device, h.session, h.endpoint, h.stage, h.renewal⟩
      unfold Scope.goOnline
      dsimp only
      split
      · refine ⟨⟨h.device, h.session, h.endpoint, trivial, trivial⟩, ?_⟩
        intro record hrecord
        cases hrecord
        exact hstage.record
      · rw [deletion_of_deletable hpublished.session hstage.record]
        exact ⟨hpublished.moveTo (aimed_new hstage.record), hcore⟩
  | closed hbefore => exact ⟨h.close.moveTo trivial, hrelease _⟩
  | deleted hbefore _ =>
      rw [hbefore] at hstage
      exact ⟨h.moveTo hstage.carriedOut, hcore⟩
  | settled hbefore => exact ⟨(h.logDeletion _ _).moveTo trivial, hcore⟩
  | left hbefore => exact ⟨h.close.moveTo trivial, hcore⟩

/-- A failing loop takes the record of the core with it. -/
theorem aimed_fail {s : Scope P} (h : p.AttemptAimed s.attempt)
    (hcore : p.RecordAimed s.core) :
    p.AttemptAimed s.failOnlineEndpoint.attempt ∧
      p.RecordAimed s.failOnlineEndpoint.core := by
  unfold Scope.failOnlineEndpoint
  split
  · refine ⟨h.renewTo ?_, nofun⟩
    cases hrecord : s.core.currentRecord with
    | none => trivial
    | some record => exact hcore record hrecord
  · exact ⟨h.renewTo trivial, hcore⟩

theorem aimed_renewalDelete {s : Scope P} {record : V1DeviceRecord}
    (h : p.AttemptAimed s.attempt) (hrecord : p.Deletable record) :
    s.renewalDelete record = s.renewTo (RenewalStage.deleting
      { path := p.path, record := record, taken := false }) := by
  unfold Scope.renewalDelete
  rw [deletion_of_deletable h.session hrecord]

theorem AttemptAimed.renew {s after : Scope P} {event : AwaitEvent}
    (h : p.AttemptAimed s.attempt) (hcore : p.RecordAimed s.core)
    (hstep : RenewalStep s event after) :
    p.AttemptAimed after.attempt ∧ p.RecordAimed after.core := by
  have hrenewal := h.renewal
  cases hstep with
  | ended hbefore _ => exact ⟨h.renewTo trivial, hcore⟩
  | expired hbefore _ => exact aimed_fail h hcore
  | woken hbefore _ => exact ⟨h.renewTo trivial, hcore⟩
  | unrecorded hbefore hput =>
      rcases Attempt.nextPut_register hput with ⟨active, rfl⟩
      exact aimed_fail (s := { s with attempt := s.attempt.register active })
        (h.register active) hcore
  | recorded hbefore hput =>
      have haimed := aimed_of_nextPut h hput
      rcases Attempt.nextPut_register hput with ⟨active, rfl⟩
      exact ⟨(h.register active).renewTo haimed, hcore⟩
  | put hbefore _ =>
      rw [hbefore] at hrenewal
      exact ⟨h.renewTo hrenewal.carriedOut, hcore⟩
  | rejected hbefore => exact aimed_fail h hcore
  | renewed hbefore _ _ =>
      rw [hbefore] at hrenewal
      refine ⟨⟨h.device, h.session, h.endpoint, h.stage, trivial⟩, ?_⟩
      intro record hrecord
      cases hrecord
      exact hrenewal.record
  | overtaken hbefore _ =>
      rw [hbefore] at hrenewal
      rw [aimed_renewalDelete h hrenewal.record]
      exact ⟨h.renewTo (aimed_new hrenewal.record), hcore⟩
  | closedEmpty hbefore => exact ⟨h.close.renewTo trivial, hcore⟩
  | closed hbefore =>
      rw [hbefore] at hrenewal
      rw [aimed_renewalDelete (s := { s with attempt := s.attempt.close }) h.close
        hrenewal]
      exact ⟨h.close.renewTo (aimed_new hrenewal), hcore⟩
  | deleted hbefore _ =>
      rw [hbefore] at hrenewal
      exact ⟨h.renewTo hrenewal.carriedOut, hcore⟩
  | settled hbefore => exact ⟨h.renewTo trivial, hcore⟩

/-!
# Runs of one device
-/

variable (p) in
/-- The device and the account of the core do not change. -/
def SameDevice (label : OnlineLabel P) : Prop :=
  forall fields, label = OnlineLabel.signedIn fields ->
    fields.device = some p.device ∧ fields.session = some p.account

theorem StateAimed.setAttempt {s t : OnlineState P} {n : Nat}
    {attempt : Attempt P} (h : p.StateAimed s)
    (hsignedIn : t.core.signedIn = s.core.signedIn)
    (hrecord : p.RecordAimed t.core)
    (hattempts : t.attempts = Function.update s.attempts n (some attempt))
    (hattempt : p.AttemptAimed attempt) (hshutdowns : t.shutdowns = s.shutdowns) :
    p.StateAimed t where
  device device hdevice := h.device device (hsignedIn ▸ hdevice)
  session session hsession := h.session session (hsignedIn ▸ hsession)
  record := hrecord
  attempts m other hother := by
    rw [hattempts] at hother
    by_cases heq : m = n
    · subst heq
      rw [Function.update_self] at hother
      cases hother
      exact hattempt
    · rw [Function.update_of_ne heq] at hother
      exact h.attempts m other hother
  shutdowns k shutdown hshutdown := by
    rw [hshutdowns] at hshutdown
    exact h.shutdowns k shutdown hshutdown

theorem StateAimed.setShutdown {s t : OnlineState P} {k : Nat}
    {shutdown : Shutdown P} (h : p.StateAimed s)
    (hsignedIn : t.core.signedIn = s.core.signedIn)
    (hrecord : p.RecordAimed t.core) (hattempts : t.attempts = s.attempts)
    (hshutdowns : t.shutdowns = Function.update s.shutdowns k (some shutdown))
    (hshutdown : p.ShutdownAimed shutdown) : p.StateAimed t where
  device device hdevice := h.device device (hsignedIn ▸ hdevice)
  session session hsession := h.session session (hsignedIn ▸ hsession)
  record := hrecord
  attempts m other hother := by
    rw [hattempts] at hother
    exact h.attempts m other hother
  shutdowns j other hother := by
    rw [hshutdowns] at hother
    by_cases heq : j = k
    · subst heq
      rw [Function.update_self] at hother
      cases hother
      exact hshutdown
    · rw [Function.update_of_ne heq] at hother
      exact h.shutdowns j other hother

theorem StateAimed.abort {s : OnlineState P} (h : p.StateAimed s)
    (handle : Option Nat) : p.StateAimed (s.abort handle) := by
  unfold OnlineState.abort
  split
  · exact h
  · next n attempt hfound =>
      simp only [Option.bind_eq_some_iff, Option.map_eq_some_iff,
        Prod.mk.injEq] at hfound
      rcases hfound with ⟨m, _, found, hfound, rfl, rfl⟩
      have hattempt : p.AttemptAimed (found.renewTo RenewalStage.done) :=
        (h.attempts m found hfound).renewTo trivial
      exact h.setAttempt rfl h.record rfl hattempt rfl

theorem StateAimed.closeClient {s : OnlineState P} (h : p.StateAimed s)
    (client : Option Nat) : p.StateAimed (s.closeClient client) := by
  unfold OnlineState.closeClient
  split
  · exact h
  · next n attempt hfound =>
      simp only [Option.bind_eq_some_iff, Option.map_eq_some_iff,
        Prod.mk.injEq] at hfound
      rcases hfound with ⟨m, _, found, hfound, rfl, rfl⟩
      exact h.setAttempt rfl h.record rfl (h.attempts m found hfound).close rfl

theorem ShutdownAimed.deletion {shutdown : Shutdown P}
    (h : p.ShutdownAimed shutdown) {request : Request}
    (hrequest : shutdown.deletion = ShutdownStage.deleting request) :
    p.Aimed request := by
  unfold Shutdown.deletion at hrequest
  split at hrequest
  · next record session hrecord hsession =>
      have hdeletable := h.record record hrecord
      rw [h.session session hsession] at hrequest
      rw [show deleteV1DeviceRecord P p.account record = _ from hdeletable]
        at hrequest
      cases hrequest
      exact aimed_new hdeletable
  · cases hrequest

theorem StateAimed.shut {s t : OnlineState P} {k : Nat} {event : AwaitEvent}
    (h : p.StateAimed s) (hnext : s.shut k event = some t) :
    p.StateAimed t := by
  unfold OnlineState.shut at hnext
  split at hnext
  · cases hnext
  · next shutdown hshutdown =>
      have hbefore := h.shutdowns k shutdown hshutdown
      split at hnext
      · cases hnext
        have hclosed := h.closeClient shutdown.client
        exact hclosed.setShutdown rfl hclosed.record rfl rfl
          ⟨hbefore.record, hbefore.session, fun _ => hbefore.deletion⟩
      · next request session hstage _ =>
          split at hnext
          · cases hnext
          · cases hnext
            refine h.setShutdown rfl h.record rfl rfl
              ⟨hbefore.record, hbefore.session, ?_⟩
            intro other hother
            cases hother
            exact (hbefore.stage request hstage).carriedOut
      · cases hnext
        exact h.setShutdown rfl h.record rfl rfl
          ⟨hbefore.record, hbefore.session, nofun⟩
      · cases hnext

end Publisher

/-- No step of a call or a loop changes what signing in has left. -/
theorem PublishStep.signedIn {P : Primitives} {s after : Scope P} {n : Nat}
    {event : AwaitEvent} (h : PublishStep n s event after) :
    after.core.signedIn = s.core.signedIn := by
  have hrelease : forall epoch,
      (s.core.release epoch).signedIn = s.core.signedIn := by
    intro epoch
    unfold CoreState.release
    split
    · rfl
    · rfl
  cases h with
  | bindFailed _ => exact hrelease _
  | expired _ _ => exact hrelease _
  | bound _ _ => rfl
  | unrecorded _ _ => rfl
  | recorded _ _ => rfl
  | put _ _ => rfl
  | rejected _ => rfl
  | published _ _ =>
      unfold Scope.goOnline
      dsimp only
      split
      · rfl
      · rfl
  | closed _ => exact hrelease _
  | deleted _ _ => rfl
  | settled _ => rfl
  | left _ => rfl

theorem RenewalStep.signedIn {P : Primitives} {s after : Scope P}
    {event : AwaitEvent} (h : RenewalStep s event after) :
    after.core.signedIn = s.core.signedIn := by
  have hfail : forall scope : Scope P,
      scope.failOnlineEndpoint.core.signedIn = scope.core.signedIn := by
    intro scope
    unfold Scope.failOnlineEndpoint
    split
    · rfl
    · rfl
  have hdelete : forall (scope : Scope P) record,
      (scope.renewalDelete record).core = scope.core := by
    intro scope record
    unfold Scope.renewalDelete
    split
    · rfl
    · rfl
  cases h with
  | ended _ _ => rfl
  | expired _ _ => exact hfail _
  | woken _ _ => rfl
  | unrecorded _ _ => exact hfail _
  | recorded _ _ => rfl
  | put _ _ => rfl
  | rejected _ => exact hfail _
  | renewed _ _ _ => rfl
  | overtaken _ _ => rw [hdelete]
  | closedEmpty _ => rfl
  | closed _ => rw [hdelete]
  | deleted _ _ => rfl
  | settled _ => rfl

namespace Publisher

variable {P : Primitives} {p : Publisher P}

theorem StateAimed.next {s t : OnlineState P} {label : OnlineLabel P}
    (h : p.StateAimed s) (hsame : p.SameDevice label)
    (hlate : forall i, label ≠ OnlineLabel.late i)
    (hnext : s.next label = some t) : p.StateAimed t := by
  cases label with
  | signedIn fields =>
      cases hnext
      rcases hsame fields rfl with ⟨hdevice, hsession⟩
      refine ⟨?_, ?_, h.record, h.attempts, h.shutdowns⟩
      · intro device hfound
        change fields.device = some device at hfound
        rw [hdevice] at hfound
        cases hfound
        rfl
      · intro session hfound
        change fields.session = some session at hfound
        rw [hsession] at hfound
        cases hfound
        rfl
  | publish relays allowLoopback =>
      rcases OnlineState.publish_step hnext with
        ⟨device, session, _, hdevice, hsession, rfl⟩
      exact h.setAttempt rfl h.record rfl ⟨h.device device hdevice,
        h.session session hsession, nofun, trivial, trivial⟩ rfl
  | call n event =>
      rcases OnlineState.call_step hnext with ⟨attempt, after, hattempt, hstep, rfl⟩
      have haimed := (h.attempts n attempt hattempt).step h.record hstep
      exact h.setAttempt hstep.signedIn haimed.right rfl haimed.left rfl
  | renewal n event =>
      rcases OnlineState.renewal_step hnext with
        ⟨attempt, after, hattempt, hstep, rfl⟩
      have haimed := (h.attempts n attempt hattempt).renew h.record hstep
      exact h.setAttempt hstep.signedIn haimed.right rfl haimed.left rfl
  | disconnect =>
      cases hnext
      have haborted := h.abort s.core.renewalAbort
      have hcore : (s.abort s.core.renewalAbort).core = s.core := by
        unfold OnlineState.abort
        split
        · rfl
        · rfl
      refine haborted.setShutdown (by rw [hcore]; rfl) nofun rfl rfl
        ⟨h.record, h.session, nofun⟩
  | shutdown k event => exact h.shut hnext
  | late i => exact absurd rfl (hlate i)

end Publisher

/-!
# Whose turn it is
-/

/-- The loop still renews the record of the core. -/
def RenewalStage.Running : RenewalStage -> Prop
  | RenewalStage.sleeping => True
  | RenewalStage.allocating _ => True
  | RenewalStage.putting _ => True
  | _ => False

section Turns

variable {P : Primitives}

/-- A step of a call that leaves the handles of the core alone. -/
structure QuietCall (s after : Scope P) : Prop where
  client : after.core.client = s.core.client
  renewalAbort : after.core.renewalAbort = s.core.renewalAbort
  currentRecord : after.core.currentRecord = s.core.currentRecord
  coreEpoch : after.core.epoch = s.core.epoch
  epoch : after.attempt.epoch = s.attempt.epoch
  renewal : after.attempt.renewal = s.attempt.renewal
  stage : after.attempt.stage ≠ PublishStage.online

/-- The step with which a call goes online. -/
structure GoesOnline (n : Nat) (s after : Scope P) (request : Request) :
    Prop where
  stage : s.attempt.stage = PublishStage.putting request
  taken : request.taken = true
  epoch : s.core.epoch = s.attempt.epoch
  after : after = s.goOnline n request.record

theorem quietCall_release {s : Scope P} {attempt : Attempt P} {code : Failure}
    (hepoch : attempt.epoch = s.attempt.epoch)
    (hrenewal : attempt.renewal = s.attempt.renewal) :
    QuietCall s ({ s with attempt := attempt }.abandon code) := by
  have hcore : forall core : CoreState P, forall epoch,
      (core.release epoch).client = core.client ∧
        (core.release epoch).renewalAbort = core.renewalAbort ∧
        (core.release epoch).currentRecord = core.currentRecord ∧
        (core.release epoch).epoch = core.epoch := by
    intro core epoch
    unfold CoreState.release
    split
    · exact ⟨rfl, rfl, rfl, rfl⟩
    · exact ⟨rfl, rfl, rfl, rfl⟩
  rcases hcore s.core attempt.epoch with ⟨hclient, habort, hrecord, hsame⟩
  exact ⟨hclient, habort, hrecord, hsame, hepoch, hrenewal, nofun⟩

theorem quietCall_moveTo {s after : Scope P} (hcore : after.core = s.core)
    (hepoch : after.attempt.epoch = s.attempt.epoch)
    (hrenewal : after.attempt.renewal = s.attempt.renewal)
    (hstage : after.attempt.stage ≠ PublishStage.online) : QuietCall s after := by
  refine ⟨?_, ?_, ?_, ?_, hepoch, hrenewal, hstage⟩
  · rw [hcore]
  · rw [hcore]
  · rw [hcore]
  · rw [hcore]

theorem PublishStep.quiet_or {s after : Scope P} {n : Nat} {event : AwaitEvent}
    (h : PublishStep n s event after) :
    QuietCall s after ∨ exists request, GoesOnline n s after request := by
  cases h with
  | bindFailed _ => exact Or.inl (quietCall_release rfl rfl)
  | expired _ _ => exact Or.inl (quietCall_release rfl rfl)
  | bound _ _ => exact Or.inl (quietCall_moveTo rfl rfl rfl nofun)
  | unrecorded _ hput =>
      rcases Attempt.nextPut_register hput with ⟨active, rfl⟩
      exact Or.inl (quietCall_moveTo rfl rfl rfl nofun)
  | recorded _ hput =>
      rcases Attempt.nextPut_register hput with ⟨active, rfl⟩
      exact Or.inl (quietCall_moveTo rfl rfl rfl nofun)
  | put _ _ => exact Or.inl (quietCall_moveTo rfl rfl rfl nofun)
  | rejected _ => exact Or.inl (quietCall_moveTo rfl rfl rfl nofun)
  | @published request hstage htaken =>
      by_cases hepoch : s.core.epoch = s.attempt.epoch
      · exact Or.inr ⟨request, hstage, htaken, hepoch, rfl⟩
      · left
        have hne : ¬ s.core.epoch = (s.attempt.logPublished request.record).epoch :=
          hepoch
        unfold Scope.goOnline
        dsimp only
        rw [if_neg hne]
        split
        · have hlog := logDeletion_kept (s.attempt.logPublished request.record)
            request.record false
          exact quietCall_moveTo rfl hlog.left hlog.right nofun
        · exact quietCall_moveTo rfl rfl rfl nofun
  | closed _ => exact Or.inl (quietCall_release rfl rfl)
  | deleted _ _ => exact Or.inl (quietCall_moveTo rfl rfl rfl nofun)
  | settled _ =>
      have hlog := logDeletion_kept s.attempt
      exact Or.inl (quietCall_moveTo rfl (hlog _ _).left (hlog _ _).right nofun)
  | left _ => exact Or.inl (quietCall_moveTo rfl rfl rfl nofun)

theorem Scope.goOnline_eq {s : Scope P} {n : Nat} {record : V1DeviceRecord}
    (h : s.core.epoch = s.attempt.epoch) :
    s.goOnline n record =
      { s with
        core :=
          { s.core with
            goingOnline := false
            currentRecord := some record
            client := some n
            renewalAbort := some n }
        attempt :=
          { s.attempt.logPublished record with
            stage := PublishStage.online
            renewal := RenewalStage.sleeping
            log :=
              { (s.attempt.logPublished record).log with setClient := true } } } := by
  have heq : s.core.epoch = (s.attempt.logPublished record).epoch := h
  unfold Scope.goOnline
  dsimp only
  rw [if_pos heq]

/-- The client of the core is the newest call, which runs the only loop. -/
structure Holds (s : OnlineState P) (n : Nat) : Prop where
  newest : n + 1 = s.started
  online : exists attempt record, s.attempts n = some attempt ∧
    attempt.stage = PublishStage.online ∧ attempt.epoch = s.core.epoch ∧
    attempt.renewal.Running ∧ s.core.currentRecord = some record ∧
    record ∈ attempt.log.published ++ attempt.log.renewed

structure Ordered (s : OnlineState P) : Prop where
  renewalAbort : s.core.renewalAbort = s.core.client
  currentRecord : s.core.client = none -> s.core.currentRecord = none
  client : forall n, s.core.client = some n -> Holds s n
  running : forall n attempt, s.attempts n = some attempt ->
    attempt.renewal.Running -> s.core.client = some n
  epochs : forall n attempt, s.attempts n = some attempt ->
    attempt.epoch ≤ s.core.epoch ∧
      (attempt.epoch = s.core.epoch -> n + 1 = s.started)
  unstarted : forall n, s.started ≤ n -> s.attempts n = none
  shutdowns : forall k shutdown n, s.shutdowns k = some shutdown ->
    shutdown.client = some n -> exists attempt, s.attempts n = some attempt ∧
      attempt.stage = PublishStage.online ∧ attempt.renewal = RenewalStage.done

/-- The next epoch is not one that has been used. -/
def FreshEpoch (s : OnlineState P) : Prop :=
  s.core.epoch.toNat + 1 < 2 ^ 64

theorem FreshEpoch.older {s : OnlineState P} (h : FreshEpoch s) {epoch : UInt64}
    (hle : epoch ≤ s.core.epoch) :
    epoch ≤ s.core.epoch + 1 ∧ epoch ≠ s.core.epoch + 1 := by
  have hnext : (s.core.epoch + 1).toNat = s.core.epoch.toNat + 1 := by
    rw [UInt64.toNat_add, UInt64.toNat_one, Nat.mod_eq_of_lt h]
  rw [UInt64.le_iff_toNat_le] at hle
  constructor
  · rw [UInt64.le_iff_toNat_le, hnext]
    omega
  · intro heq
    rw [heq, hnext] at hle
    omega

/-- A running loop is that of the newest call, whose epoch is that of the core. -/
theorem Ordered.active {s : OnlineState P} (h : Ordered s) {n : Nat}
    {attempt : Attempt P} (hattempt : s.attempts n = some attempt)
    (hrunning : attempt.renewal.Running) :
    s.core.client = some n ∧ s.core.epoch = attempt.epoch := by
  have hclient := h.running n attempt hattempt hrunning
  rcases (h.client n hclient).online with ⟨other, _, hother, _, hepoch, _⟩
  rw [hattempt] at hother
  cases hother
  exact ⟨hclient, hepoch.symm⟩

theorem Ordered.signedIn {s : OnlineState P} (h : Ordered s)
    (fields : SignedIn P) :
    Ordered { s with core := { s.core with signedIn := fields } } :=
  ⟨h.renewalAbort, h.currentRecord,
    fun n hn => ⟨(h.client n hn).newest, (h.client n hn).online⟩, h.running,
    h.epochs, h.unstarted, h.shutdowns⟩

theorem update_cases {attempts : Nat -> Option (Attempt P)} {n m : Nat}
    {attempt found : Attempt P}
    (h : Function.update attempts n (some attempt) m = some found) :
    (m = n ∧ found = attempt) ∨ (m ≠ n ∧ attempts m = some found) := by
  by_cases heq : m = n
  · subst heq
    rw [Function.update_self] at h
    cases h
    exact Or.inl ⟨rfl, rfl⟩
  · rw [Function.update_of_ne heq] at h
    exact Or.inr ⟨heq, h⟩

/-- A new call takes a new epoch from an empty core. -/
theorem Ordered.publish {s : OnlineState P} (h : Ordered s)
    (hfresh : FreshEpoch s) (hempty : s.core.client = none)
    (device : V1DeviceCredential) (session : P.PublicKey) (relays : List Url)
    (allowLoopback : Bool) :
    Ordered ({ s with
      core := { s.core with goingOnline := true, epoch := s.core.epoch + 1 }
      started := s.started + 1 }.setAttempt s.started
        (Attempt.start device session relays allowLoopback
          (s.core.epoch + 1))) := by
  constructor
  · exact h.renewalAbort
  · exact h.currentRecord
  · intro n hn
    change s.core.client = some n at hn
    rw [hempty] at hn
    cases hn
  · intro n attempt hattempt hrunning
    rcases update_cases hattempt with ⟨_, rfl⟩ | ⟨_, hattempt⟩
    · exact hrunning.elim
    · have hclient := h.running n attempt hattempt hrunning
      rw [hempty] at hclient
      cases hclient
  · intro n attempt hattempt
    rcases update_cases hattempt with ⟨rfl, rfl⟩ | ⟨_, hattempt⟩
    · exact ⟨UInt64.le_refl _, fun _ => rfl⟩
    · have hepoch := hfresh.older (h.epochs n attempt hattempt).left
      exact ⟨hepoch.left, fun heq => absurd heq hepoch.right⟩
  · intro n hn
    have hlt : s.started < n := hn
    exact (Function.update_of_ne hlt.ne' _ _).trans (h.unstarted n hlt.le)
  · intro k shutdown n hshutdown hclient
    rcases h.shutdowns k shutdown n hshutdown hclient with
      ⟨attempt, hattempt, hstage, hrenewal⟩
    refine ⟨attempt, ?_, hstage, hrenewal⟩
    have hne : n ≠ s.started := by
      rintro rfl
      rw [h.unstarted s.started (Nat.le_refl _)] at hattempt
      cases hattempt
    exact (Function.update_of_ne hne _ _).trans hattempt

/-- A call that is not online is not the client and runs no loop. -/
theorem Ordered.offline {s : OnlineState P} (h : Ordered s) {n : Nat}
    {attempt : Attempt P} (hattempt : s.attempts n = some attempt)
    (hstage : attempt.stage ≠ PublishStage.online) :
    s.core.client ≠ some n ∧ ¬ attempt.renewal.Running := by
  have hclient : s.core.client ≠ some n := by
    intro hclient
    rcases (h.client n hclient).online with ⟨other, _, hother, honline, _⟩
    rw [hattempt] at hother
    cases hother
    exact hstage honline
  exact ⟨hclient, fun hrunning => hclient (h.running n attempt hattempt hrunning)⟩

/-- While a call of the epoch of the core is not online, there is no client. -/
theorem Ordered.empty {s : OnlineState P} (h : Ordered s) {n : Nat}
    {attempt : Attempt P} (hattempt : s.attempts n = some attempt)
    (hstage : attempt.stage ≠ PublishStage.online)
    (hepoch : s.core.epoch = attempt.epoch) : s.core.client = none := by
  cases hclient : s.core.client with
  | none => rfl
  | some m =>
      have hnewest := (h.epochs n attempt hattempt).right hepoch.symm
      have heq := (h.client m hclient).newest
      have hsame : m = n := by omega
      subst hsame
      exact absurd hclient (h.offline hattempt hstage).left

theorem Ordered.call {s t : OnlineState P} {n : Nat} {event : AwaitEvent}
    (h : Ordered s) (hnext : s.next (OnlineLabel.call n event) = some t) :
    Ordered t := by
  rcases OnlineState.call_step hnext with ⟨attempt, after, hattempt, hstep, rfl⟩
  have hbefore := hstep.effect.before
  have hoffline := h.offline hattempt hbefore
  have hshutdowns : forall k shutdown m, s.shutdowns k = some shutdown ->
      shutdown.client = some m -> exists other,
        Function.update s.attempts n (some after.attempt) m = some other ∧
          other.stage = PublishStage.online ∧
          other.renewal = RenewalStage.done := by
    intro k shutdown m hshutdown hclient
    rcases h.shutdowns k shutdown m hshutdown hclient with
      ⟨other, hother, hstage, hrenewal⟩
    refine ⟨other, ?_, hstage, hrenewal⟩
    have hne : m ≠ n := by
      rintro rfl
      rw [hattempt] at hother
      cases hother
      exact hbefore hstage
    exact (Function.update_of_ne hne _ _).trans hother
  have hunstarted : forall m, s.started ≤ m ->
      Function.update s.attempts n (some after.attempt) m = none := by
    intro m hm
    have hne : m ≠ n := by
      rintro rfl
      rw [h.unstarted m hm] at hattempt
      cases hattempt
    exact (Function.update_of_ne hne _ _).trans (h.unstarted m hm)
  rcases hstep.quiet_or with hquiet | ⟨request, honline⟩
  · constructor
    · exact (hquiet.renewalAbort.trans h.renewalAbort).trans hquiet.client.symm
    · intro hempty
      exact hquiet.currentRecord.trans
        (h.currentRecord (hquiet.client.symm.trans hempty))
    · intro m hm
      have hclient : s.core.client = some m := hquiet.client.symm.trans hm
      rcases h.client m hclient with ⟨hnewest, other, record, hother, hstage, hepoch,
        hrunning, hrecord, hlog⟩
      refine ⟨hnewest, other, record, ?_, hstage, hepoch.trans
        hquiet.coreEpoch.symm, hrunning, hquiet.currentRecord.trans hrecord, hlog⟩
      have hne : m ≠ n := by
        rintro rfl
        exact hoffline.left hclient
      exact (Function.update_of_ne hne _ _).trans hother
    · intro m other hother hrunning
      rcases update_cases hother with ⟨_, rfl⟩ | ⟨_, hother⟩
      · rw [hquiet.renewal] at hrunning
        exact absurd hrunning hoffline.right
      · exact hquiet.client.trans (h.running m other hother hrunning)
    · intro m other hother
      have hcore : after.core.epoch = s.core.epoch := hquiet.coreEpoch
      change other.epoch ≤ after.core.epoch ∧
        (other.epoch = after.core.epoch -> m + 1 = s.started)
      rw [hcore]
      rcases update_cases hother with ⟨rfl, rfl⟩ | ⟨_, hother⟩
      · have hepoch : after.attempt.epoch = attempt.epoch := hquiet.epoch
        rw [hepoch]
        exact h.epochs m attempt hattempt
      · exact h.epochs m other hother
    · exact hunstarted
    · exact hshutdowns
  · have hepoch : s.core.epoch = attempt.epoch := honline.epoch
    have hnewest := (h.epochs n attempt hattempt).right hepoch.symm
    have hempty := h.empty hattempt hbefore hepoch
    rw [honline.after, Scope.goOnline_eq honline.epoch] at hshutdowns hunstarted ⊢
    constructor
    · rfl
    · exact nofun
    · intro m hm
      cases hm
      refine ⟨hnewest, _, _, Function.update_self _ _ _, rfl, hepoch.symm, trivial,
        rfl, ?_⟩
      rw [List.mem_append]
      left
      exact List.mem_append.mpr (Or.inr (List.mem_singleton_self _))
    · intro m other hother hrunning
      rcases update_cases hother with ⟨rfl, _⟩ | ⟨_, hother⟩
      · rfl
      · have hclient := h.running m other hother hrunning
        rw [hempty] at hclient
        cases hclient
    · intro m other hother
      rcases update_cases hother with ⟨rfl, rfl⟩ | ⟨_, hother⟩
      · exact h.epochs m attempt hattempt
      · exact h.epochs m other hother
    · exact hunstarted
    · exact hshutdowns

/-- What a step of the loop of the newest call does to the core. -/
inductive LoopStep (s after : Scope P) : Prop where
  | runs (hrunning : s.attempt.renewal.Running) (hcore : after.core = s.core)
      (hafter : after.attempt.renewal.Running)
      (hlog : after.attempt.log = s.attempt.log) : LoopStep s after
  | renews {record : V1DeviceRecord} (hrunning : s.attempt.renewal.Running)
      (hcore : after.core = { s.core with currentRecord := some record })
      (hafter : after.attempt.renewal.Running)
      (hlog : record ∈ after.attempt.log.renewed) : LoopStep s after
  | fails (hrunning : s.attempt.renewal.Running)
      (hcore : after.core = s.core.leave)
      (hafter : ¬ after.attempt.renewal.Running) : LoopStep s after
  | ends (hrunning : ¬ s.attempt.renewal.Running)
      (hbefore : s.attempt.renewal ≠ RenewalStage.done)
      (hcore : after.core = s.core)
      (hafter : ¬ after.attempt.renewal.Running) : LoopStep s after

theorem LoopStep.before {s after : Scope P} (h : LoopStep s after) :
    s.attempt.renewal ≠ RenewalStage.done := by
  cases h with
  | runs hrunning _ _ _ => exact fun heq => by rw [heq] at hrunning; exact hrunning
  | renews hrunning _ _ _ =>
      exact fun heq => by rw [heq] at hrunning; exact hrunning
  | fails hrunning _ _ => exact fun heq => by rw [heq] at hrunning; exact hrunning
  | ends _ hbefore _ _ => exact hbefore

theorem RenewalStep.kept {s after : Scope P} {event : AwaitEvent}
    (h : RenewalStep s event after) :
    after.attempt.stage = s.attempt.stage ∧
      after.attempt.epoch = s.attempt.epoch := by
  have hfail : forall scope : Scope P,
      scope.failOnlineEndpoint.attempt.stage = scope.attempt.stage ∧
        scope.failOnlineEndpoint.attempt.epoch = scope.attempt.epoch := by
    intro scope
    unfold Scope.failOnlineEndpoint
    split
    · exact ⟨rfl, rfl⟩
    · exact ⟨rfl, rfl⟩
  have hdelete : forall (scope : Scope P) record,
      (scope.renewalDelete record).attempt.stage = scope.attempt.stage ∧
        (scope.renewalDelete record).attempt.epoch = scope.attempt.epoch := by
    intro scope record
    unfold Scope.renewalDelete
    split
    · exact ⟨rfl, rfl⟩
    · exact ⟨rfl, rfl⟩
  cases h with
  | ended _ _ => exact ⟨rfl, rfl⟩
  | expired _ _ => exact hfail _
  | woken _ _ => exact ⟨rfl, rfl⟩
  | unrecorded _ hput =>
      rcases Attempt.nextPut_register hput with ⟨active, rfl⟩
      exact hfail _
  | recorded _ hput =>
      rcases Attempt.nextPut_register hput with ⟨active, rfl⟩
      exact ⟨rfl, rfl⟩
  | put _ _ => exact ⟨rfl, rfl⟩
  | rejected _ => exact hfail _
  | renewed _ _ _ => exact ⟨rfl, rfl⟩
  | overtaken _ _ => exact hdelete _ _
  | closedEmpty _ => exact ⟨rfl, rfl⟩
  | closed _ => exact hdelete _ _
  | deleted _ _ => exact ⟨rfl, rfl⟩
  | settled _ => exact ⟨rfl, rfl⟩

/-- As long as it runs, the loop is the active one, so it is never overtaken. -/
theorem RenewalStep.loop {s after : Scope P} {event : AwaitEvent}
    (h : RenewalStep s event after)
    (hactive : s.attempt.renewal.Running -> s.Active) : LoopStep s after := by
  have hruns : forall {renewal : RenewalStage}, s.attempt.renewal = renewal ->
      renewal.Running -> s.attempt.renewal.Running :=
    fun heq hrunning => heq ▸ hrunning
  have hfail : forall {attempt : Attempt P}, s.attempt.renewal.Running ->
      attempt.epoch = s.attempt.epoch ->
      LoopStep s { s with attempt := attempt }.failOnlineEndpoint := by
    intro attempt hrunning hepoch
    have heq : s.core.epoch = attempt.epoch :=
      (hactive hrunning).left.trans hepoch.symm
    unfold Scope.failOnlineEndpoint
    rw [if_pos heq]
    exact LoopStep.fails hrunning rfl id
  have hdelete : forall {attempt : Attempt P} {record : V1DeviceRecord},
      ¬ s.attempt.renewal.Running ->
      s.attempt.renewal ≠ RenewalStage.done ->
      LoopStep s ({ s with attempt := attempt }.renewalDelete record) := by
    intro attempt record hrunning hne
    unfold Scope.renewalDelete
    split
    · exact LoopStep.ends hrunning hne rfl id
    · exact LoopStep.ends hrunning hne rfl id
  cases h with
  | ended heq hinactive => exact absurd (hactive (hruns heq trivial)) hinactive
  | expired heq _ => exact hfail (hruns heq trivial) rfl
  | woken heq _ => exact LoopStep.runs (hruns heq trivial) rfl trivial rfl
  | unrecorded heq hput =>
      rcases Attempt.nextPut_register hput with ⟨active, rfl⟩
      exact hfail (hruns heq trivial) rfl
  | recorded heq hput =>
      rcases Attempt.nextPut_register hput with ⟨active, rfl⟩
      exact LoopStep.runs (hruns heq trivial) rfl trivial rfl
  | put heq _ => exact LoopStep.runs (hruns heq trivial) rfl trivial rfl
  | rejected heq => exact hfail (hruns heq trivial) rfl
  | renewed heq _ _ =>
      refine LoopStep.renews (hruns heq trivial) rfl trivial ?_
      exact List.mem_append.mpr (Or.inr (List.mem_singleton_self _))
  | overtaken heq hinactive =>
      exact absurd (hactive (hruns heq trivial)) hinactive
  | closedEmpty heq =>
      exact LoopStep.ends (fun hrunning => by rw [heq] at hrunning; exact hrunning)
        (by rw [heq]; nofun) rfl id
  | closed heq =>
      exact hdelete (fun hrunning => by rw [heq] at hrunning; exact hrunning)
        (by rw [heq]; nofun)
  | deleted heq _ =>
      exact LoopStep.ends (fun hrunning => by rw [heq] at hrunning; exact hrunning)
        (by rw [heq]; nofun) rfl id
  | settled heq =>
      exact LoopStep.ends (fun hrunning => by rw [heq] at hrunning; exact hrunning)
        (by rw [heq]; nofun) rfl id

theorem Ordered.renewal {s t : OnlineState P} {n : Nat} {event : AwaitEvent}
    (h : Ordered s) (hfresh : FreshEpoch s)
    (hnext : s.next (OnlineLabel.renewal n event) = some t) : Ordered t := by
  rcases OnlineState.renewal_step hnext with
    ⟨attempt, after, hattempt, hstep, rfl⟩
  have hactive : attempt.renewal.Running ->
      Scope.Active
        { core := s.core, homeserver := s.homeserver, attempt := attempt } := by
    intro hrunning
    rcases h.active hattempt hrunning with ⟨hclient, hepoch⟩
    exact ⟨hepoch, Option.isSome_iff_exists.mpr ⟨n, hclient⟩⟩
  have hkept := hstep.kept
  have hloop := hstep.loop hactive
  have hunstarted : forall m, s.started ≤ m ->
      Function.update s.attempts n (some after.attempt) m = none := by
    intro m hm
    have hne : m ≠ n := by
      rintro rfl
      rw [h.unstarted m hm] at hattempt
      cases hattempt
    exact (Function.update_of_ne hne _ _).trans (h.unstarted m hm)
  have hshutdowns : forall k shutdown m, s.shutdowns k = some shutdown ->
      shutdown.client = some m -> exists other,
        Function.update s.attempts n (some after.attempt) m = some other ∧
          other.stage = PublishStage.online ∧
          other.renewal = RenewalStage.done := by
    intro k shutdown m hshutdown hclient
    rcases h.shutdowns k shutdown m hshutdown hclient with
      ⟨other, hother, hstage, hrenewal⟩
    refine ⟨other, ?_, hstage, hrenewal⟩
    have hne : m ≠ n := by
      rintro rfl
      rw [hattempt] at hother
      cases hother
      exact hloop.before hrenewal
    exact (Function.update_of_ne hne _ _).trans hother
  have hepochs : forall epoch, (forall m other, s.attempts m = some other ->
        other.epoch ≤ epoch ∧ (other.epoch = epoch -> m + 1 = s.started)) ->
      forall m other, Function.update s.attempts n (some after.attempt) m =
        some other -> other.epoch ≤ epoch ∧
          (other.epoch = epoch -> m + 1 = s.started) := by
    intro epoch hbefore m other hother
    rcases update_cases hother with ⟨rfl, rfl⟩ | ⟨_, hother⟩
    · rw [hkept.right]
      exact hbefore m attempt hattempt
    · exact hbefore m other hother
  -- a loop that runs leaves a record of its own in the core
  have hruns : forall record, s.core.client = some n -> after.core =
        { s.core with currentRecord := some record } ->
      record ∈ after.attempt.log.published ++ after.attempt.log.renewed ->
      after.attempt.renewal.Running ->
      Ordered ({ s with
        core := after.core
        homeserver := after.homeserver }.setAttempt n after.attempt) := by
    intro record hclient hcore hlog hafter
    rcases h.client n hclient with ⟨hnewest, other, _, hother, hstage, hepoch, _⟩
    rw [hattempt] at hother
    cases hother
    rw [hcore]
    constructor
    · exact h.renewalAbort
    · intro hempty
      rw [show s.core.client = none from hempty] at hclient
      cases hclient
    · intro m hm
      cases hclient.symm.trans hm
      exact ⟨hnewest, after.attempt, record, Function.update_self _ _ _,
        hkept.left.trans hstage, hkept.right.trans hepoch, hafter, rfl, hlog⟩
    · intro m other hother hrunning
      rcases update_cases hother with ⟨rfl, _⟩ | ⟨_, hother⟩
      · exact hclient
      · exact h.running m other hother hrunning
    · exact hepochs _ h.epochs
    · exact hunstarted
    · exact hshutdowns
  cases hloop with
  | runs hrunning hcore hafter hlog =>
      have hclient := h.running n attempt hattempt hrunning
      rcases (h.client n hclient).online with
        ⟨other, record, hother, _, _, _, hrecord, hmem⟩
      rw [hattempt] at hother
      cases hother
      refine hruns record hclient ?_ ?_ hafter
      · rw [hcore, ← hrecord]
      · rw [hlog]
        exact hmem
  | renews hrunning hcore hafter hlog =>
      exact hruns _ (h.running n attempt hattempt hrunning) hcore
        (List.mem_append.mpr (Or.inr hlog)) hafter
  | fails hrunning hcore hafter =>
      have hclient := h.running n attempt hattempt hrunning
      rw [hcore]
      constructor
      · rfl
      · exact fun _ => rfl
      · exact nofun
      · intro m other hother hruns
        rcases update_cases hother with ⟨_, rfl⟩ | ⟨hne, hother⟩
        · exact absurd hruns hafter
        · cases hclient.symm.trans (h.running m other hother hruns)
          exact absurd rfl hne
      · refine hepochs _ ?_
        intro m other hother
        have hepoch := hfresh.older (h.epochs m other hother).left
        exact ⟨hepoch.left, fun heq => absurd heq hepoch.right⟩
      · exact hunstarted
      · exact hshutdowns
  | ends hrunning _ hcore hafter =>
      rw [hcore]
      constructor
      · exact h.renewalAbort
      · exact h.currentRecord
      · intro m hm
        rcases h.client m hm with
          ⟨hnewest, other, record, hother, hstage, hepoch, hruns, hrecord⟩
        have hne : m ≠ n := by
          rintro rfl
          rw [hattempt] at hother
          cases hother
          exact hrunning hruns
        exact ⟨hnewest, other, record,
          (Function.update_of_ne hne _ _).trans hother, hstage, hepoch, hruns,
          hrecord⟩
      · intro m other hother hruns
        rcases update_cases hother with ⟨_, rfl⟩ | ⟨_, hother⟩
        · exact absurd hruns hafter
        · exact h.running m other hother hruns
      · exact hepochs _ h.epochs
      · exact hunstarted
      · exact hshutdowns

/-- A shutdown aborts the loop of the client it takes. -/
theorem abort_client {s : OnlineState P} (h : Ordered s) :
    (forall n attempt, s.core.client = some n -> s.attempts n = some attempt ->
      (s.abort s.core.renewalAbort).attempts = Function.update s.attempts n
        (some (attempt.renewTo RenewalStage.done))) ∧
      (s.core.client = none ->
        (s.abort s.core.renewalAbort).attempts = s.attempts) := by
  rw [h.renewalAbort]
  constructor
  · intro n attempt hclient hattempt
    unfold OnlineState.abort
    rw [hclient]
    simp only [Option.bind_some, hattempt, Option.map_some]
    rfl
  · intro hclient
    unfold OnlineState.abort
    rw [hclient]
    rfl

theorem Ordered.disconnect {s : OnlineState P} (h : Ordered s)
    (hfresh : FreshEpoch s) : Ordered s.disconnect := by
  have habort := abort_client h
  -- every call of before, with its loop done if it was the client
  have hattempts : forall m other, s.disconnect.attempts m = some other ->
      exists before, s.attempts m = some before ∧ other.epoch = before.epoch ∧
        (s.core.client = some m -> other.stage = PublishStage.online ∧
          other.renewal = RenewalStage.done) ∧
        (s.core.client ≠ some m -> other = before) := by
    intro m other hother
    change (s.abort s.core.renewalAbort).attempts m = some other at hother
    cases hclient : s.core.client with
    | none =>
        rw [habort.right hclient] at hother
        exact ⟨other, hother, rfl, nofun, fun _ => rfl⟩
    | some n =>
        rcases (h.client n hclient).online with
          ⟨attempt, _, hattempt, hstage, _⟩
        rw [habort.left n attempt hclient hattempt] at hother
        rcases update_cases hother with ⟨rfl, rfl⟩ | ⟨hne, hother⟩
        · exact ⟨attempt, hattempt, rfl, fun _ => ⟨hstage, rfl⟩,
            fun hne => absurd rfl hne⟩
        · refine ⟨other, hother, rfl, ?_, fun _ => rfl⟩
          intro heq
          cases heq
          exact absurd rfl hne
  have hfound : forall m before, s.attempts m = some before ->
      exists other, s.disconnect.attempts m = some other := by
    intro m before hbefore
    change exists other, (s.abort s.core.renewalAbort).attempts m = some other
    cases hclient : s.core.client with
    | none =>
        rw [habort.right hclient]
        exact ⟨before, hbefore⟩
    | some n =>
        rcases (h.client n hclient).online with ⟨attempt, _, hattempt, _⟩
        rw [habort.left n attempt hclient hattempt]
        by_cases heq : m = n
        · subst heq
          exact ⟨_, Function.update_self _ _ _⟩
        · exact ⟨before, (Function.update_of_ne heq _ _).trans hbefore⟩
  have hkept := s.abort_kept s.core.renewalAbort
  constructor
  · rfl
  · exact fun _ => rfl
  · exact nofun
  · intro m other hother hrunning
    rcases hattempts m other hother with ⟨before, hbefore, _, hclient, hsame⟩
    by_cases heq : s.core.client = some m
    · rw [(hclient heq).right] at hrunning
      exact hrunning.elim
    · rw [hsame heq] at hrunning
      exact absurd (h.running m before hbefore hrunning) heq
  · intro m other hother
    rcases hattempts m other hother with ⟨before, hbefore, hepoch, _⟩
    have hfreshEpoch := hfresh.older (h.epochs m before hbefore).left
    rw [hepoch]
    exact ⟨hfreshEpoch.left, fun heq => absurd heq hfreshEpoch.right⟩
  · intro m hm
    have hstarted : s.started ≤ m := by
      have hsame : s.disconnect.started = s.started := hkept.left
      rw [← hsame]
      exact hm
    cases hother : s.disconnect.attempts m with
    | none => rfl
    | some other =>
        rcases hattempts m other hother with ⟨before, hbefore, _⟩
        rw [h.unstarted m hstarted] at hbefore
        cases hbefore
  · intro k shutdown n hshutdown hclient
    rcases OnlineState.setShutdown_client hshutdown hclient with hcore |
      ⟨before, hbefore, hclient⟩
    · change s.core.client = some n at hcore
      rcases (h.client n hcore).online with ⟨attempt, _, hattempt, _⟩
      rcases hfound n attempt hattempt with ⟨other, hother⟩
      rcases hattempts n other hother with ⟨_, _, _, hdone, _⟩
      exact ⟨other, hother, hdone hcore⟩
    · change (s.abort s.core.renewalAbort).shutdowns k = some before at hbefore
      rw [hkept.right] at hbefore
      rcases h.shutdowns k before n hbefore hclient with
        ⟨attempt, hattempt, hstage, hrenewal⟩
      have hne : s.core.client ≠ some n := by
        intro hcore
        rcases (h.client n hcore).online with ⟨found, _, hfound, _, _, hrunning, _⟩
        rw [hattempt] at hfound
        cases hfound
        rw [hrenewal] at hrunning
        exact hrunning
      rcases hfound n attempt hattempt with ⟨other, hother⟩
      rcases hattempts n other hother with ⟨found, hbefore, _, _, hsame⟩
      rw [hattempt] at hbefore
      cases hbefore
      rw [hsame hne] at hother
      exact ⟨attempt, hother, hstage, hrenewal⟩

/-- A shutdown that goes on closes at most an endpoint. -/
theorem Ordered.closes {s t : OnlineState P} (h : Ordered s)
    (hcore : t.core = s.core) (hstarted : t.started = s.started)
    (hattempts : forall m, t.attempts m = s.attempts m ∨
      t.attempts m = (s.attempts m).map Attempt.close)
    (hshutdowns : forall k shutdown n, t.shutdowns k = some shutdown ->
      shutdown.client = some n -> exists j before,
        s.shutdowns j = some before ∧ before.client = some n) :
    Ordered t := by
  have hback : forall m other, t.attempts m = some other -> exists before,
      s.attempts m = some before ∧ other.stage = before.stage ∧
        other.epoch = before.epoch ∧ other.renewal = before.renewal := by
    intro m other hother
    rcases hattempts m with hsame | hclosed
    · exact ⟨other, hsame.symm.trans hother, rfl, rfl, rfl⟩
    · rw [hclosed, Option.map_eq_some_iff] at hother
      rcases hother with ⟨before, hbefore, rfl⟩
      exact ⟨before, hbefore, rfl, rfl, rfl⟩
  have hforth : forall m before, s.attempts m = some before -> exists other,
      t.attempts m = some other ∧ other.stage = before.stage ∧
        other.epoch = before.epoch ∧ other.renewal = before.renewal ∧
        other.log = before.log := by
    intro m before hbefore
    rcases hattempts m with hsame | hclosed
    · exact ⟨before, hsame.trans hbefore, rfl, rfl, rfl, rfl⟩
    · rw [hbefore] at hclosed
      exact ⟨before.close, hclosed, rfl, rfl, rfl, rfl⟩
  constructor
  · rw [hcore]
    exact h.renewalAbort
  · rw [hcore]
    exact h.currentRecord
  · intro m hm
    rw [hcore] at hm
    rcases h.client m hm with
      ⟨hnewest, before, record, hbefore, hstage, hepoch, hrunning, hrecord, hlog⟩
    rcases hforth m before hbefore with
      ⟨other, hother, hsameStage, hsameEpoch, hsameRenewal, hsameLog⟩
    refine ⟨hnewest.trans hstarted.symm, other, record, hother,
      hsameStage.trans hstage, ?_, ?_, ?_, ?_⟩
    · rw [hcore]
      exact hsameEpoch.trans hepoch
    · rw [hsameRenewal]
      exact hrunning
    · rw [hcore]
      exact hrecord
    · rw [hsameLog]
      exact hlog
  · intro m other hother hrunning
    rcases hback m other hother with ⟨before, hbefore, _, _, hrenewal⟩
    rw [hcore]
    rw [hrenewal] at hrunning
    exact h.running m before hbefore hrunning
  · intro m other hother
    rcases hback m other hother with ⟨before, hbefore, _, hepoch, _⟩
    rw [hcore, hstarted, hepoch]
    exact h.epochs m before hbefore
  · intro m hm
    rw [hstarted] at hm
    have hnone := h.unstarted m hm
    rcases hattempts m with hsame | hclosed
    · exact hsame.trans hnone
    · rw [hclosed, hnone]
      rfl
  · intro k shutdown n hshutdown hclient
    rcases hshutdowns k shutdown n hshutdown hclient with
      ⟨j, before, hbefore, hclient⟩
    rcases h.shutdowns j before n hbefore hclient with
      ⟨attempt, hattempt, hstage, hrenewal⟩
    rcases hforth n attempt hattempt with
      ⟨other, hother, hsameStage, _, hsameRenewal, _⟩
    exact ⟨other, hother, hsameStage.trans hstage, hsameRenewal.trans hrenewal⟩

theorem closeClient_close (s : OnlineState P) (client : Option Nat) (m : Nat) :
    (s.closeClient client).attempts m = s.attempts m ∨
      (s.closeClient client).attempts m = (s.attempts m).map Attempt.close := by
  unfold OnlineState.closeClient
  split
  · exact Or.inl rfl
  · next n attempt hfound =>
      simp only [Option.bind_eq_some_iff, Option.map_eq_some_iff,
        Prod.mk.injEq] at hfound
      rcases hfound with ⟨n, _, found, hfound, rfl, rfl⟩
      by_cases heq : m = n
      · subst heq
        right
        rw [hfound]
        exact Function.update_self _ _ _
      · exact Or.inl (Function.update_of_ne heq _ _)

/-- What a step of a shutdown does: close the client, or go on deleting. -/
inductive ShutdownStep (s : OnlineState P) (k : Nat) (shutdown : Shutdown P) :
    AwaitEvent -> OnlineState P -> Prop where
  | closed (hstage : shutdown.stage = ShutdownStage.closing) :
      ShutdownStep s k shutdown AwaitEvent.closed
        ((s.closeClient shutdown.client).setShutdown k
          { shutdown with stage := shutdown.deletion })
  | deleted {request : Request} {session : P.PublicKey}
      (hstage : shutdown.stage = ShutdownStage.deleting request)
      (hsession : shutdown.session = some session)
      (hnew : request.taken = false) :
      ShutdownStep s k shutdown AwaitEvent.taken
        ({ s with homeserver := s.homeserver.write session request.path none
          }.setShutdown k { shutdown with
            stage := ShutdownStage.deleting request.carriedOut })
  | settled {request : Request} {accepted : Bool}
      (hstage : shutdown.stage = ShutdownStage.deleting request) :
      ShutdownStep s k shutdown (AwaitEvent.answered accepted)
        (s.setShutdown k { shutdown with stage := ShutdownStage.done })

theorem OnlineState.shutdown_step {s t : OnlineState P} {k : Nat}
    {event : AwaitEvent} (h : s.next (OnlineLabel.shutdown k event) = some t) :
    exists shutdown, s.shutdowns k = some shutdown ∧
      ShutdownStep s k shutdown event t := by
  change s.shut k event = some t at h
  unfold OnlineState.shut at h
  split at h
  · cases h
  · next shutdown hshutdown =>
      refine ⟨shutdown, hshutdown, ?_⟩
      split at h
      · next hstage =>
          cases h
          exact ShutdownStep.closed hstage
      · next request session hstage hsession =>
          split at h
          · cases h
          · next hnew =>
              cases h
              exact ShutdownStep.deleted hstage hsession
                (Bool.eq_false_of_not_eq_true hnew)
      · next hstage =>
          cases h
          exact ShutdownStep.settled hstage
      · cases h

theorem Ordered.shut {s t : OnlineState P} {k : Nat} {event : AwaitEvent}
    (h : Ordered s) (hnext : s.next (OnlineLabel.shutdown k event) = some t) :
    Ordered t := by
  rcases OnlineState.shutdown_step hnext with ⟨shutdown, hshutdown, hstep⟩
  have hclients : forall (core : OnlineState P) stage j found n,
      core.shutdowns = s.shutdowns ->
      (core.setShutdown k { shutdown with stage := stage }).shutdowns j =
        some found -> found.client = some n -> exists i before,
          s.shutdowns i = some before ∧ before.client = some n := by
    intro core stage j found n hcore hfound hclient
    rcases OnlineState.setShutdown_client hfound hclient with hclient |
      ⟨other, hother, hclient⟩
    · exact ⟨k, shutdown, hshutdown, hclient⟩
    · rw [hcore] at hother
      exact ⟨j, other, hother, hclient⟩
  cases hstep with
  | closed _ =>
      have hkept := s.closeClient_kept shutdown.client
      exact h.closes hkept.left hkept.right.left
        (closeClient_close s shutdown.client)
        (fun j found n => hclients _ _ j found n hkept.right.right)
  | deleted _ _ _ =>
      exact h.closes rfl rfl (fun _ => Or.inl rfl)
        (fun j found n => hclients _ _ j found n rfl)
  | settled _ =>
      exact h.closes rfl rfl (fun _ => Or.inl rfl)
        (fun j found n => hclients _ _ j found n rfl)

theorem Ordered.next {s t : OnlineState P} {label : OnlineLabel P}
    (h : Ordered s) (hfresh : FreshEpoch s) (hnext : s.next label = some t) :
    Ordered t := by
  cases label with
  | signedIn fields =>
      cases hnext
      exact h.signedIn fields
  | publish relays allowLoopback =>
      rcases OnlineState.publish_step hnext with ⟨device, session, hempty, _, _, rfl⟩
      exact h.publish hfresh hempty device session relays allowLoopback
  | call n event => exact h.call hnext
  | renewal n event => exact h.renewal hfresh hnext
  | disconnect =>
      cases hnext
      exact h.disconnect hfresh
  | shutdown k event => exact h.shut hnext
  | late i =>
      simp only [OnlineState.next] at hnext
      split at hnext
      · cases hnext
      · cases hnext
        exact ⟨h.renewalAbort, h.currentRecord,
          fun n hn => ⟨(h.client n hn).newest, (h.client n hn).online⟩,
          h.running, h.epochs, h.unstarted, h.shutdowns⟩

theorem ordered_initial {s : OnlineState P} (h : (onlineCore P).initial s) :
    Ordered s := by
  rcases h with ⟨hcore, hstarted, hattempts, _, hshutdowns, _⟩
  constructor
  · rw [hcore]
  · intro _
    rw [hcore]
  · intro n hn
    rw [hcore] at hn
    cases hn
  · intro n attempt hattempt
    rw [hattempts n] at hattempt
    cases hattempt
  · intro n attempt hattempt
    rw [hattempts n] at hattempt
    cases hattempt
  · intro n _
    exact hattempts n
  · intro k shutdown n hshutdown
    rw [hshutdowns] at hshutdown
    cases hshutdown

/-- Only an online call has a loop, and the end of one. -/
def Looping (s : OnlineState P) : Prop :=
  forall n attempt, s.attempts n = some attempt ->
    attempt.stage = PublishStage.online ∨ attempt.renewal = RenewalStage.idle

theorem RenewalStep.looping {s after : Scope P} {event : AwaitEvent}
    (h : RenewalStep s event after) : s.attempt.renewal ≠ RenewalStage.idle := by
  intro hidle
  cases h with
  | ended hrenewal _ => cases hrenewal.symm.trans hidle
  | expired hrenewal _ => cases hrenewal.symm.trans hidle
  | woken hrenewal _ => cases hrenewal.symm.trans hidle
  | unrecorded hrenewal _ => cases hrenewal.symm.trans hidle
  | recorded hrenewal _ => cases hrenewal.symm.trans hidle
  | put hrenewal _ => cases hrenewal.symm.trans hidle
  | rejected hrenewal => cases hrenewal.symm.trans hidle
  | renewed hrenewal _ _ => cases hrenewal.symm.trans hidle
  | overtaken hrenewal _ => cases hrenewal.symm.trans hidle
  | closedEmpty hrenewal => cases hrenewal.symm.trans hidle
  | closed hrenewal => cases hrenewal.symm.trans hidle
  | deleted hrenewal _ => cases hrenewal.symm.trans hidle
  | settled hrenewal => cases hrenewal.symm.trans hidle

theorem Looping.update {s t : OnlineState P} {n : Nat} {after : Attempt P}
    (h : Looping s)
    (hattempts : t.attempts = Function.update s.attempts n (some after))
    (hafter : after.stage = PublishStage.online ∨
      after.renewal = RenewalStage.idle) : Looping t := by
  intro m other hother
  rw [hattempts] at hother
  rcases update_cases hother with ⟨_, rfl⟩ | ⟨_, hother⟩
  · exact hafter
  · exact h m other hother

theorem Looping.closeClient {s : OnlineState P} (h : Looping s)
    (client : Option Nat) : Looping (s.closeClient client) := by
  intro m other hother
  rcases closeClient_close s client m with hsame | hclosed
  · exact h m other (hsame.symm.trans hother)
  · rw [hclosed, Option.map_eq_some_iff] at hother
    rcases hother with ⟨before, hbefore, rfl⟩
    exact h m before hbefore

theorem Looping.next {s t : OnlineState P} {label : OnlineLabel P}
    (h : Looping s) (hordered : Ordered s) (hnext : s.next label = some t) :
    Looping t := by
  cases label with
  | signedIn fields =>
      cases hnext
      exact h
  | publish relays allowLoopback =>
      rcases OnlineState.publish_step hnext with ⟨device, session, _, _, _, rfl⟩
      exact h.update rfl (Or.inr rfl)
  | call n event =>
      rcases OnlineState.call_step hnext with ⟨attempt, after, hattempt, hstep, rfl⟩
      refine h.update rfl ?_
      rcases hstep.quiet_or with hquiet | ⟨request, honline⟩
      · right
        rw [hquiet.renewal]
        exact (h n attempt hattempt).resolve_left hstep.effect.before
      · left
        rw [honline.after, Scope.goOnline_eq honline.epoch]
  | renewal n event =>
      rcases OnlineState.renewal_step hnext with
        ⟨attempt, after, hattempt, hstep, rfl⟩
      refine h.update rfl (Or.inl ?_)
      rw [hstep.kept.left]
      exact (h n attempt hattempt).resolve_right hstep.looping
  | disconnect =>
      cases hnext
      have habort := abort_client hordered
      cases hclient : s.core.client with
      | none =>
          intro n attempt hattempt
          change (s.abort s.core.renewalAbort).attempts n = some attempt at hattempt
          rw [habort.right hclient] at hattempt
          exact h n attempt hattempt
      | some n =>
          rcases (hordered.client n hclient).online with
            ⟨attempt, _, hattempt, hstage, _⟩
          exact h.update (habort.left n attempt hclient hattempt) (Or.inl hstage)
  | shutdown k event =>
      rcases OnlineState.shutdown_step hnext with ⟨shutdown, _, hstep⟩
      cases hstep with
      | closed _ => exact h.closeClient shutdown.client
      | deleted _ _ _ => exact h
      | settled _ => exact h
  | late i =>
      simp only [OnlineState.next] at hnext
      split at hnext
      · cases hnext
      · cases hnext
        exact h

theorem looping_initial {s : OnlineState P} (h : (onlineCore P).initial s) :
    Looping s := by
  rcases h with ⟨_, _, hattempts, _⟩
  intro n attempt hattempt
  rw [hattempts n] at hattempt
  cases hattempt

/-!
# Shutdowns that can delete
-/

/-- A shutdown has what it needs to delete the record of the client it took. -/
structure Shutdown.Complete (shutdown : Shutdown P) : Prop where
  client : forall n, shutdown.client = some n ->
    shutdown.record ≠ none ∧ shutdown.session ≠ none
  stage : forall request, shutdown.stage = ShutdownStage.deleting request ->
    shutdown.client ≠ none
  record : shutdown.client = none -> shutdown.record = none

structure Stopping (s : OnlineState P) : Prop where
  session : forall n attempt, s.attempts n = some attempt ->
    s.core.signedIn.session ≠ none
  unstopped : forall k, s.stopped ≤ k -> s.shutdowns k = none
  complete : forall k shutdown, s.shutdowns k = some shutdown ->
    shutdown.Complete

theorem Shutdown.Complete.deletion {shutdown : Shutdown P}
    (h : shutdown.Complete) : ({ shutdown with
      stage := shutdown.deletion } : Shutdown P).Complete := by
  refine ⟨h.client, ?_, h.record⟩
  intro request hrequest hclient
  change shutdown.deletion = _ at hrequest
  unfold Shutdown.deletion at hrequest
  rw [h.record hclient] at hrequest
  cases hrequest

theorem Stopping.withAttempts {s t : OnlineState P} (h : Stopping s)
    (hsession : t.core.signedIn.session = s.core.signedIn.session)
    (hattempts : forall n attempt, t.attempts n = some attempt ->
      exists m before, s.attempts m = some before)
    (hstopped : t.stopped = s.stopped) (hshutdowns : t.shutdowns = s.shutdowns) :
    Stopping t where
  session n attempt hattempt := by
    rcases hattempts n attempt hattempt with ⟨m, before, hbefore⟩
    rw [hsession]
    exact h.session m before hbefore
  unstopped k hk := by
    rw [hstopped] at hk
    rw [hshutdowns]
    exact h.unstopped k hk
  complete k shutdown hshutdown := by
    rw [hshutdowns] at hshutdown
    exact h.complete k shutdown hshutdown

/-- A shutdown that goes on keeps its number and its client. -/
theorem Stopping.withShutdown {s t : OnlineState P} {k : Nat}
    {shutdown after : Shutdown P} (h : Stopping s)
    (hshutdown : s.shutdowns k = some shutdown)
    (hsession : t.core.signedIn.session = s.core.signedIn.session)
    (hattempts : forall n attempt, t.attempts n = some attempt ->
      exists m before, s.attempts m = some before)
    (hstopped : t.stopped = s.stopped)
    (hshutdowns : t.shutdowns = Function.update s.shutdowns k (some after))
    (hafter : after.Complete) : Stopping t where
  session n attempt hattempt := by
    rcases hattempts n attempt hattempt with ⟨m, before, hbefore⟩
    rw [hsession]
    exact h.session m before hbefore
  unstopped j hj := by
    rw [hstopped] at hj
    have hne : j ≠ k := by
      rintro rfl
      rw [h.unstopped j hj] at hshutdown
      cases hshutdown
    rw [hshutdowns, Function.update_of_ne hne]
    exact h.unstopped j hj
  complete j found hfound := by
    rw [hshutdowns] at hfound
    by_cases heq : j = k
    · subst heq
      rw [Function.update_self] at hfound
      cases hfound
      exact hafter
    · rw [Function.update_of_ne heq] at hfound
      exact h.complete j found hfound

theorem closeClient_session (s : OnlineState P) (client : Option Nat) :
    (forall n attempt, (s.closeClient client).attempts n = some attempt ->
      exists m before, s.attempts m = some before) ∧
      (s.closeClient client).stopped = s.stopped := by
  constructor
  · intro n attempt hattempt
    rcases closeClient_close s client n with hsame | hclosed
    · exact ⟨n, attempt, hsame.symm.trans hattempt⟩
    · rw [hclosed, Option.map_eq_some_iff] at hattempt
      rcases hattempt with ⟨before, hbefore, _⟩
      exact ⟨n, before, hbefore⟩
  · unfold OnlineState.closeClient
    split
    · rfl
    · rfl

theorem Stopping.next {s t : OnlineState P} {label : OnlineLabel P}
    {p : Publisher P} (h : Stopping s) (hordered : Ordered s)
    (hsame : p.SameDevice label) (hnext : s.next label = some t) :
    Stopping t := by
  cases label with
  | signedIn fields =>
      cases hnext
      refine ⟨fun _ _ _ hnone => ?_, h.unstopped, h.complete⟩
      change fields.session = none at hnone
      rw [(hsame fields rfl).right] at hnone
      cases hnone
  | publish relays allowLoopback =>
      rcases OnlineState.publish_step hnext with
        ⟨device, session, _, _, hsession, rfl⟩
      refine ⟨fun _ _ _ hnone => ?_, h.unstopped, h.complete⟩
      change s.core.signedIn.session = none at hnone
      rw [hsession] at hnone
      cases hnone
  | call n event =>
      rcases OnlineState.call_step hnext with ⟨attempt, after, hattempt, hstep, rfl⟩
      refine h.withAttempts ?_ (fun _ _ _ => ⟨n, attempt, hattempt⟩) rfl rfl
      exact congrArg SignedIn.session hstep.signedIn
  | renewal n event =>
      rcases OnlineState.renewal_step hnext with
        ⟨attempt, after, hattempt, hstep, rfl⟩
      refine h.withAttempts ?_ (fun _ _ _ => ⟨n, attempt, hattempt⟩) rfl rfl
      exact congrArg SignedIn.session hstep.signedIn
  | disconnect =>
      cases hnext
      have hkept := s.abort_kept s.core.renewalAbort
      have habort := abort_client hordered
      constructor
      · intro n attempt hattempt
        change (s.abort s.core.renewalAbort).attempts n = some attempt at hattempt
        cases hclient : s.core.client with
        | none =>
            rw [habort.right hclient] at hattempt
            exact h.session n attempt hattempt
        | some m =>
            rcases (hordered.client m hclient).online with ⟨found, _, hfound, _⟩
            exact h.session m found hfound
      · intro k hk
        have hlt : s.stopped < k := hk
        refine (Function.update_of_ne hlt.ne' _ _).trans ?_
        rw [hkept.right]
        exact h.unstopped k hlt.le
      · intro k shutdown hshutdown
        change Function.update (s.abort s.core.renewalAbort).shutdowns s.stopped _ k
          = some shutdown at hshutdown
        by_cases heq : k = s.stopped
        · subst heq
          rw [Function.update_self] at hshutdown
          cases hshutdown
          refine ⟨?_, nofun, hordered.currentRecord⟩
          intro n hclient
          rcases (hordered.client n hclient).online with
            ⟨found, record, hfound, _, _, _, hrecord, _⟩
          refine ⟨?_, h.session n found hfound⟩
          change s.core.currentRecord ≠ none
          rw [hrecord]
          nofun
        · rw [Function.update_of_ne heq, hkept.right] at hshutdown
          exact h.complete k shutdown hshutdown
  | shutdown k event =>
      rcases OnlineState.shutdown_step hnext with ⟨shutdown, hshutdown, hstep⟩
      have hcomplete := h.complete k shutdown hshutdown
      cases hstep with
      | closed _ =>
          have hkept := s.closeClient_kept shutdown.client
          have hclosed := closeClient_session s shutdown.client
          refine h.withShutdown hshutdown ?_ hclosed.left hclosed.right ?_
            hcomplete.deletion
          · change (s.closeClient shutdown.client).core.signedIn.session = _
            rw [hkept.left]
          · change Function.update (s.closeClient shutdown.client).shutdowns k _ = _
            rw [hkept.right.right]
      | deleted hstage _ _ =>
          exact h.withShutdown hshutdown rfl (fun n attempt hn => ⟨n, attempt, hn⟩)
            rfl rfl ⟨hcomplete.client, fun _ _ => hcomplete.stage _ hstage,
              hcomplete.record⟩
      | settled _ =>
          exact h.withShutdown hshutdown rfl (fun n attempt hn => ⟨n, attempt, hn⟩)
            rfl rfl ⟨hcomplete.client, nofun, hcomplete.record⟩
  | late i =>
      simp only [OnlineState.next] at hnext
      split at hnext
      · cases hnext
      · cases hnext
        exact ⟨h.session, h.unstopped, h.complete⟩

theorem stopping_initial {s : OnlineState P} (h : (onlineCore P).initial s) :
    Stopping s := by
  rcases h with ⟨_, _, hattempts, _, hshutdowns, _⟩
  constructor
  · intro n attempt hattempt
    rw [hattempts n] at hattempt
    cases hattempt
  · intro k _
    exact hshutdowns k
  · intro k shutdown hshutdown
    rw [hshutdowns] at hshutdown
    cases hshutdown

end Turns

end Browser
end Pubky2Pubky
