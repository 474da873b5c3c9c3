import Pubky2Pubky.Foundation.Lease
import Pubky2Pubky.Browser.Online

/-!
# Failing to go online

What a call that goes online leaves behind when it returns an error after its
endpoint is bound, whatever else the core does in the meantime.
-/

namespace Pubky2Pubky
namespace Browser

open Foundation Protocol Client

variable {P : Primitives}

/-!
# What a call has done
-/

namespace Attempt

/-- The endpoint is bound and `V1Client::close` has not returned. -/
def Open (self : Attempt P) : Prop :=
  exists endpoint, self.endpoint = some endpoint ∧ endpoint.closed = false

def Closed (self : Attempt P) : Prop :=
  exists endpoint, self.endpoint = some endpoint ∧ endpoint.closed = true

/-- The lifetime was computed while more than one second was left. -/
def Timely (self : Attempt P) : Prop :=
  exists now, self.log.lifetimeAt = some now ∧ LifetimeLeft self.device now

def Published (self : Attempt P) (published deleted undeleted :
    List V1DeviceRecord) : Prop :=
  self.log.published = published ∧ self.log.deleted = deleted ∧
    self.log.undeleted = undeleted

/-- A record that the homeserver has deleted, or has not. -/
def Released (self : Attempt P) : Prop :=
  exists record, self.Published [record] [record] [] ∨
    self.Published [record] [] [record]

inductive Ended (attempt : Attempt P) : Prop where
  | unbound (hlifetime : attempt.log.lifetimeAt = none) : Ended attempt
  | expired {now : UInt64} (hlifetime : attempt.log.lifetimeAt = some now)
      (hexpired : ¬ LifetimeLeft attempt.device now) (hopen : attempt.Open) :
      Ended attempt
  | unpublished (htimely : attempt.Timely) (hclosed : attempt.Closed)
      (hlog : attempt.Published [] [] []) : Ended attempt
  | released (htimely : attempt.Timely) (hclosed : attempt.Closed)
      (hlog : attempt.Released) : Ended attempt

def Shape (self : Attempt P) : PublishStage -> Prop
  | PublishStage.binding =>
      self.log.lifetimeAt = none ∧ self.Published [] [] []
  | PublishStage.allocating _ =>
      self.Timely ∧ self.Open ∧ self.Published [] [] []
  | PublishStage.putting request =>
      self.Timely ∧ self.Open ∧ self.Published [] [] [] ∧
        self.Deletes request.record
  | PublishStage.closing => self.Timely ∧ self.Open ∧ self.Published [] [] []
  | PublishStage.deleting request =>
      self.Timely ∧ self.Open ∧ self.Published [request.record] [] []
  | PublishStage.leaving => self.Timely ∧ self.Open ∧ self.Released
  | PublishStage.failed _ => self.Ended
  | PublishStage.online => True

structure Coherent (attempt : Attempt P) : Prop where
  shape : attempt.Shape attempt.stage
  setClient : attempt.stage ≠ PublishStage.online ->
    attempt.log.setClient = false

theorem coherent_start (device : V1DeviceCredential) (session : P.PublicKey)
    (relays : List Url) (allowLoopback : Bool) (epoch : UInt64) :
    (start device session relays allowLoopback epoch).Coherent :=
  ⟨⟨rfl, rfl, rfl, rfl⟩, fun _ => rfl⟩

theorem bind_open (self : Attempt P) (instanceNonce : String) (now : UInt64) :
    (self.bind instanceNonce now).Open :=
  ⟨_, rfl, rfl⟩

theorem Open.register {self : Attempt P} (h : self.Open)
    (active : ActiveRecords) : (self.register active).Open := by
  rcases h with ⟨endpoint, hendpoint, hopen⟩
  refine ⟨{ endpoint with active := active }, ?_, hopen⟩
  unfold Attempt.register
  rw [hendpoint]
  rfl

theorem Open.close {self : Attempt P} (h : self.Open) : self.close.Closed := by
  rcases h with ⟨endpoint, hendpoint, _⟩
  refine ⟨{ endpoint with closed := true }, ?_, rfl⟩
  unfold Attempt.close
  rw [hendpoint]
  rfl

theorem Open.not_closed {self : Attempt P} (h : self.Open) : ¬ self.Closed := by
  rintro ⟨other, hother, hclosed⟩
  rcases h with ⟨endpoint, hendpoint, hopen⟩
  rw [hendpoint] at hother
  cases hother
  rw [hopen] at hclosed
  cases hclosed

theorem deletion_record {self : Attempt P} {record : V1DeviceRecord}
    {request : Request} (h : self.deletion record = some request) :
    request.record = record := by
  unfold deletion at h
  split at h
  · cases h
  · cases h
    rfl

theorem Published.logDeletion {self : Attempt P} {record : V1DeviceRecord}
    (h : self.Published [record] [] []) (carriedOut : Bool) :
    (self.logDeletion record carriedOut).Released := by
  rcases h with ⟨hpublished, hdeleted, hundeleted⟩
  refine ⟨record, ?_⟩
  unfold Attempt.logDeletion
  cases carriedOut with
  | true =>
      left
      refine ⟨hpublished, ?_, hundeleted⟩
      change self.log.deleted ++ [record] = [record]
      rw [hdeleted, List.nil_append]
  | false =>
      right
      refine ⟨hpublished, hdeleted, ?_⟩
      change self.log.undeleted ++ [record] = [record]
      rw [hundeleted, List.nil_append]

theorem logDeletion_timely {self : Attempt P} (h : self.Timely)
    (record : V1DeviceRecord) (carriedOut : Bool) :
    (self.logDeletion record carriedOut).Timely := by
  unfold Attempt.logDeletion
  cases carriedOut with
  | true => exact h
  | false => exact h

theorem logDeletion_open {self : Attempt P} (h : self.Open)
    (record : V1DeviceRecord) (carriedOut : Bool) :
    (self.logDeletion record carriedOut).Open := by
  unfold Attempt.logDeletion
  cases carriedOut with
  | true => exact h
  | false => exact h

theorem logDeletion_setClient (self : Attempt P) (record : V1DeviceRecord)
    (carriedOut : Bool) :
    (self.logDeletion record carriedOut).log.setClient = self.log.setClient := by
  unfold Attempt.logDeletion
  cases carriedOut with
  | true => rfl
  | false => rfl

/-- A call that has published its record is online, or gives the record back. -/
theorem coherent_goOnline {s : Scope P} {n : Nat} {record : V1DeviceRecord}
    (htimely : s.attempt.Timely) (hopen : s.attempt.Open)
    (hlog : s.attempt.Published [] [] []) (hdeletes : s.attempt.Deletes record)
    (hclient : s.attempt.log.setClient = false) :
    (s.goOnline n record).attempt.Coherent := by
  have hpublished : (s.attempt.logPublished record).Published [record] [] [] := by
    rcases hlog with ⟨hpublished, hdeleted, hundeleted⟩
    refine ⟨?_, hdeleted, hundeleted⟩
    change s.attempt.log.published ++ [record] = [record]
    rw [hpublished, List.nil_append]
  unfold Scope.goOnline
  dsimp only
  split
  · exact ⟨trivial, fun hstage => absurd rfl hstage⟩
  · rcases hdeletes with ⟨request, hdeletion⟩
    have hafter : (s.attempt.logPublished record).deletion record =
      some request := hdeletion
    rw [hafter]
    refine ⟨⟨htimely, hopen, ?_⟩, fun _ => hclient⟩
    rw [deletion_record hdeletion]
    exact hpublished

theorem Coherent.step {s after : Scope P} {n : Nat} (h : s.attempt.Coherent)
    {event : AwaitEvent}
    (hstep : PublishStep n s event after) : after.attempt.Coherent := by
  have hshape := h.shape
  have hclient := h.setClient
  cases hstep with
  | bindFailed hstage =>
      rw [hstage] at hshape hclient
      exact ⟨Ended.unbound hshape.left, fun _ => hclient nofun⟩
  | @expired instanceNonce verifiedAt now code hstage hexpired =>
      rw [hstage] at hclient
      have hlifetime : (s.attempt.bind instanceNonce now).log.lifetimeAt =
        some now := rfl
      exact ⟨Ended.expired hlifetime hexpired (bind_open _ instanceNonce now),
        fun _ => hclient nofun⟩
  | bound hstage hleft =>
      rw [hstage] at hshape hclient
      exact ⟨⟨⟨_, rfl, hleft⟩, ⟨_, rfl, rfl⟩, hshape.right⟩,
        fun _ => hclient nofun⟩
  | unrecorded hstage hput =>
      rw [hstage] at hshape hclient
      rcases nextPut_register hput with ⟨active, rfl⟩
      exact ⟨⟨hshape.left, hshape.right.left.register _, hshape.right.right⟩,
        fun _ => hclient nofun⟩
  | recorded hstage hput =>
      rw [hstage] at hshape hclient
      have hdeletes := nextPut_deletes hput
      rcases nextPut_register hput with ⟨active, rfl⟩
      exact ⟨⟨hshape.left, hshape.right.left.register _, hshape.right.right,
        hdeletes⟩, fun _ => hclient nofun⟩
  | put hstage _ =>
      rw [hstage] at hshape hclient
      exact ⟨hshape, fun _ => hclient nofun⟩
  | rejected hstage =>
      rw [hstage] at hshape hclient
      rcases hshape with ⟨htimely, hopen, hlog, _⟩
      exact ⟨⟨htimely, hopen, hlog⟩, fun _ => hclient nofun⟩
  | published hstage _ =>
      rw [hstage] at hshape hclient
      rcases hshape with ⟨htimely, hopen, hlog, hdeletes⟩
      exact coherent_goOnline htimely hopen hlog hdeletes (hclient nofun)
  | closed hstage =>
      rw [hstage] at hshape hclient
      exact ⟨Ended.unpublished hshape.left hshape.right.left.close
        hshape.right.right, fun _ => hclient nofun⟩
  | deleted hstage _ =>
      rw [hstage] at hshape hclient
      exact ⟨hshape, fun _ => hclient nofun⟩
  | settled hstage =>
      rw [hstage] at hshape hclient
      rcases hshape with ⟨htimely, hopen, hlog⟩
      refine ⟨⟨logDeletion_timely htimely _ _, logDeletion_open hopen _ _,
        hlog.logDeletion _⟩, ?_⟩
      intro _
      exact (logDeletion_setClient _ _ _).trans (hclient nofun)
  | left hstage =>
      rw [hstage] at hshape hclient
      exact ⟨Ended.released hshape.left hshape.right.left.close
        hshape.right.right, fun _ => hclient nofun⟩

end Attempt

/-!
# What a step does to the core
-/

/-- The stages in which the flag of the call's own epoch can be set. -/
def PublishStage.SettingUp : PublishStage -> Prop
  | PublishStage.binding => True
  | PublishStage.allocating _ => True
  | PublishStage.putting _ => True
  | PublishStage.closing => True
  | _ => False

theorem CoreState.release_goingOnline {core : CoreState P} {epoch : UInt64}
    (h : (core.release epoch).goingOnline = true) :
    core.epoch ≠ epoch ∧ core.release epoch = core := by
  unfold CoreState.release at h ⊢
  split at h
  · cases h
  · next hne =>
      exact ⟨hne, if_neg hne⟩

theorem CoreState.release_handles (core : CoreState P) (epoch : UInt64) :
    (core.release epoch).client = core.client ∧
      (core.release epoch).renewalAbort = core.renewalAbort := by
  unfold CoreState.release
  split
  · exact ⟨rfl, rfl⟩
  · exact ⟨rfl, rfl⟩

/-- What the rest of the core sees of a step of the call with this number. -/
structure CallEffect (n : Nat) (s after : Scope P) : Prop where
  before : s.attempt.stage ≠ PublishStage.online
  epoch : after.attempt.epoch = s.attempt.epoch
  /-- a flag that is still set is the old one, and not left behind -/
  goingOnline : after.core.goingOnline = true ->
    s.core.goingOnline = true ∧ after.core.epoch = s.core.epoch ∧
      (s.attempt.stage.SettingUp -> s.attempt.epoch = s.core.epoch ->
        after.attempt.stage.SettingUp)
  /-- the core gets the handles of this call, when it goes online, or none -/
  handles : (after.core.client = s.core.client ∧
      after.core.renewalAbort = s.core.renewalAbort ∧
      after.attempt.renewal = s.attempt.renewal) ∨
    (after.attempt.stage = PublishStage.online ∧
      after.core.client = some n ∧ after.core.renewalAbort = some n)

theorem callEffect_moveTo {n : Nat} {s after : Scope P}
    (hbefore : s.attempt.stage ≠ PublishStage.online)
    (hcore : after.core = s.core)
    (hepoch : after.attempt.epoch = s.attempt.epoch)
    (hrenewal : after.attempt.renewal = s.attempt.renewal)
    (hsetup : s.attempt.stage.SettingUp -> after.attempt.stage.SettingUp) :
    CallEffect n s after where
  before := hbefore
  epoch := hepoch
  goingOnline hgoing := by
    rw [hcore] at hgoing ⊢
    exact ⟨hgoing, rfl, fun hstage _ => hsetup hstage⟩
  handles := Or.inl ⟨by rw [hcore], by rw [hcore], hrenewal⟩

theorem callEffect_abandon {n : Nat} {s : Scope P} {attempt : Attempt P}
    {code : Failure} (hbefore : s.attempt.stage ≠ PublishStage.online)
    (hepoch : attempt.epoch = s.attempt.epoch)
    (hrenewal : attempt.renewal = s.attempt.renewal) :
    CallEffect n s ({ s with attempt := attempt }.abandon code) where
  before := hbefore
  epoch := hepoch
  goingOnline hgoing := by
    change (s.core.release attempt.epoch).goingOnline = true at hgoing
    rcases CoreState.release_goingOnline hgoing with ⟨hne, hsame⟩
    change s.core.goingOnline = true ∧
      (s.core.release attempt.epoch).epoch = s.core.epoch ∧ _
    rw [hsame] at hgoing ⊢
    refine ⟨hgoing, rfl, ?_⟩
    intro _ heq
    exact absurd (heq.symm.trans hepoch.symm) hne
  handles := by
    left
    have hsame := CoreState.release_handles s.core attempt.epoch
    exact ⟨hsame.left, hsame.right, hrenewal⟩

theorem logDeletion_kept (attempt : Attempt P) (record : V1DeviceRecord)
    (carriedOut : Bool) :
    (attempt.logDeletion record carriedOut).epoch = attempt.epoch ∧
      (attempt.logDeletion record carriedOut).renewal = attempt.renewal := by
  unfold Attempt.logDeletion
  cases carriedOut with
  | true => exact ⟨rfl, rfl⟩
  | false => exact ⟨rfl, rfl⟩

theorem callEffect_goOnline {n : Nat} {s : Scope P} {record : V1DeviceRecord}
    (hbefore : s.attempt.stage ≠ PublishStage.online) :
    CallEffect n s (s.goOnline n record) := by
  unfold Scope.goOnline
  dsimp only
  split
  · exact ⟨hbefore, rfl, nofun, Or.inr ⟨rfl, rfl, rfl⟩⟩
  · next hne =>
      have hkept : forall attempt : Attempt P,
          attempt.epoch = s.attempt.epoch ->
          attempt.renewal = s.attempt.renewal ->
          CallEffect n s { s with attempt := attempt } := by
        intro attempt hepoch hrenewal
        refine ⟨hbefore, hepoch, ?_, Or.inl ⟨rfl, rfl, hrenewal⟩⟩
        intro hgoing
        exact ⟨hgoing, rfl, fun _ heq => absurd heq.symm hne⟩
      split
      · have hlog := logDeletion_kept (s.attempt.logPublished record) record false
        exact hkept _ hlog.left hlog.right
      · exact hkept _ rfl rfl

theorem PublishStep.effect {s after : Scope P} {n : Nat} {event : AwaitEvent}
    (h : PublishStep n s event after) : CallEffect n s after := by
  cases h with
  | bindFailed hstage =>
      exact callEffect_abandon (by rw [hstage]; nofun) rfl rfl
  | expired hstage _ =>
      exact callEffect_abandon (by rw [hstage]; nofun) rfl rfl
  | bound hstage _ =>
      exact callEffect_moveTo (by rw [hstage]; nofun) rfl rfl rfl
        (fun _ => trivial)
  | unrecorded hstage hput =>
      rcases Attempt.nextPut_register hput with ⟨active, rfl⟩
      exact callEffect_moveTo (by rw [hstage]; nofun) rfl rfl rfl
        (fun _ => trivial)
  | recorded hstage hput =>
      rcases Attempt.nextPut_register hput with ⟨active, rfl⟩
      exact callEffect_moveTo (by rw [hstage]; nofun) rfl rfl rfl
        (fun _ => trivial)
  | put hstage _ =>
      exact callEffect_moveTo (by rw [hstage]; nofun) rfl rfl rfl
        (fun _ => trivial)
  | rejected hstage =>
      exact callEffect_moveTo (by rw [hstage]; nofun) rfl rfl rfl
        (fun _ => trivial)
  | published hstage _ =>
      exact callEffect_goOnline (by rw [hstage]; nofun)
  | closed hstage =>
      exact callEffect_abandon (by rw [hstage]; nofun) rfl rfl
  | deleted hstage _ =>
      exact callEffect_moveTo (by rw [hstage]; nofun) rfl rfl rfl
        (fun hsetup => by rw [hstage] at hsetup; exact hsetup)
  | settled hstage =>
      have hlog := logDeletion_kept s.attempt
      exact callEffect_moveTo (by rw [hstage]; nofun) rfl (hlog _ _).left
        (hlog _ _).right (fun hsetup => by rw [hstage] at hsetup; exact hsetup)
  | left hstage =>
      exact callEffect_moveTo (by rw [hstage]; nofun) rfl rfl rfl
        (fun hsetup => by rw [hstage] at hsetup; exact hsetup)

/-- A core that has gone on without new handles, flags or epochs of its own. -/
structure CoreState.Fades (core after : CoreState P) : Prop where
  goingOnline : after.goingOnline = true ->
    core.goingOnline = true ∧ after.epoch = core.epoch
  client : forall n, after.client = some n -> core.client = some n
  renewalAbort : forall n,
    after.renewalAbort = some n -> core.renewalAbort = some n

theorem CoreState.fades_refl (core : CoreState P) : core.Fades core :=
  ⟨fun h => ⟨h, rfl⟩, fun _ h => h, fun _ h => h⟩

theorem CoreState.fades_leave (core : CoreState P) : core.Fades core.leave :=
  ⟨nofun, nofun, nofun⟩

structure RenewalEffect (s after : Scope P) : Prop where
  before : s.attempt.renewal ≠ RenewalStage.idle
  stage : after.attempt.stage = s.attempt.stage
  core : s.core.Fades after.core

theorem renewalEffect_fail {s : Scope P} {attempt : Attempt P}
    (hbefore : s.attempt.renewal ≠ RenewalStage.idle)
    (hstage : attempt.stage = s.attempt.stage) :
    RenewalEffect s { s with attempt := attempt }.failOnlineEndpoint := by
  unfold Scope.failOnlineEndpoint
  split
  · exact ⟨hbefore, hstage, s.core.fades_leave⟩
  · exact ⟨hbefore, hstage, s.core.fades_refl⟩

theorem renewalEffect_delete {s : Scope P} {attempt : Attempt P}
    {record : V1DeviceRecord}
    (hbefore : s.attempt.renewal ≠ RenewalStage.idle)
    (hstage : attempt.stage = s.attempt.stage) :
    RenewalEffect s ({ s with attempt := attempt }.renewalDelete record) := by
  unfold Scope.renewalDelete
  split
  · exact ⟨hbefore, hstage, s.core.fades_refl⟩
  · exact ⟨hbefore, hstage, s.core.fades_refl⟩

theorem RenewalStep.effect {s after : Scope P} {event : AwaitEvent}
    (h : RenewalStep s event after) : RenewalEffect s after := by
  have hbefore : forall {renewal : RenewalStage}, s.attempt.renewal = renewal ->
      renewal ≠ RenewalStage.idle -> s.attempt.renewal ≠ RenewalStage.idle :=
    fun hrenewal hne => hrenewal ▸ hne
  have hkept := s.core.fades_refl
  cases h with
  | ended hrenewal _ => exact ⟨hbefore hrenewal nofun, rfl, hkept⟩
  | expired hrenewal _ => exact renewalEffect_fail (hbefore hrenewal nofun) rfl
  | woken hrenewal _ => exact ⟨hbefore hrenewal nofun, rfl, hkept⟩
  | unrecorded hrenewal hput =>
      rcases Attempt.nextPut_register hput with ⟨active, rfl⟩
      exact renewalEffect_fail (hbefore hrenewal nofun) rfl
  | recorded hrenewal hput =>
      rcases Attempt.nextPut_register hput with ⟨active, rfl⟩
      exact ⟨hbefore hrenewal nofun, rfl, hkept⟩
  | put hrenewal _ => exact ⟨hbefore hrenewal nofun, rfl, hkept⟩
  | rejected hrenewal => exact renewalEffect_fail (hbefore hrenewal nofun) rfl
  | renewed hrenewal _ _ =>
      exact ⟨hbefore hrenewal nofun, rfl, fun hgoing => ⟨hgoing, rfl⟩,
        fun _ hn => hn, fun _ hn => hn⟩
  | overtaken hrenewal _ =>
      exact renewalEffect_delete (hbefore hrenewal nofun) rfl
  | closedEmpty hrenewal => exact ⟨hbefore hrenewal nofun, rfl, hkept⟩
  | closed hrenewal => exact renewalEffect_delete (hbefore hrenewal nofun) rfl
  | deleted hrenewal _ => exact ⟨hbefore hrenewal nofun, rfl, hkept⟩
  | settled hrenewal => exact ⟨hbefore hrenewal nofun, rfl, hkept⟩

/-!
# The invariant of the core
-/

namespace OnlineState

def Online (s : OnlineState P) (n : Nat) : Prop :=
  exists attempt, s.attempts n = some attempt ∧
    attempt.stage = PublishStage.online

/-- Someone outside the call may close its endpoint or abort its loop. -/
inductive Handled (s : OnlineState P) (n : Nat) : Prop where
  | client (h : s.core.client = some n) : Handled s n
  | renewalAbort (h : s.core.renewalAbort = some n) : Handled s n
  | shutdown {k : Nat} {shutdown : Shutdown P}
      (hshutdown : s.shutdowns k = some shutdown)
      (h : shutdown.client = some n) : Handled s n
  | renewal {attempt : Attempt P} (hattempt : s.attempts n = some attempt)
      (h : attempt.renewal ≠ RenewalStage.idle) : Handled s n

/-- A call that is still setting up, and whose epoch is that of the core. -/
structure SettingUp (s : OnlineState P) (n : Nat) (attempt : Attempt P) :
    Prop where
  found : s.attempts n = some attempt
  epoch : attempt.epoch = s.core.epoch
  stage : attempt.stage.SettingUp

structure Consistent (s : OnlineState P) : Prop where
  coherent : forall n attempt, s.attempts n = some attempt -> attempt.Coherent
  unstarted : forall n, s.started ≤ n -> s.attempts n = none
  handled : forall n, s.Handled n -> s.Online n
  goingOnline : s.core.goingOnline = true ->
    exists n attempt, n + 1 = s.started ∧ s.SettingUp n attempt

theorem coherent_of_online {attempt : Attempt P}
    (h : attempt.stage = PublishStage.online) : attempt.Coherent := by
  refine ⟨?_, fun hne => absurd h hne⟩
  rw [h]
  trivial

/-- Calls that are online may change, as long as they stay online. -/
structure Tends (s t : OnlineState P) : Prop where
  core : s.core.Fades t.core
  started : t.started = s.started
  attempts : forall n, t.attempts n = s.attempts n ∨
    s.Online n ∧ t.Online n
  shutdowns : forall k shutdown n, t.shutdowns k = some shutdown ->
    shutdown.client = some n -> s.Handled n

theorem Tends.online {s t : OnlineState P} (h : s.Tends t) {n : Nat}
    (honline : s.Online n) : t.Online n := by
  rcases h.attempts n with hsame | ⟨_, hafter⟩
  · rcases honline with ⟨attempt, hattempt, hstage⟩
    exact ⟨attempt, hsame.trans hattempt, hstage⟩
  · exact hafter

theorem Consistent.tend {s t : OnlineState P} (h : s.Consistent)
    (htend : s.Tends t) : t.Consistent where
  coherent n attempt hattempt := by
    rcases htend.attempts n with hsame | ⟨_, other, hother, hstage⟩
    · exact h.coherent n attempt (hsame.symm.trans hattempt)
    · rw [hattempt] at hother
      cases hother
      exact coherent_of_online hstage
  unstarted n hn := by
    rw [htend.started] at hn
    rcases htend.attempts n with hsame | ⟨⟨other, hother, _⟩, _⟩
    · exact hsame.trans (h.unstarted n hn)
    · rw [h.unstarted n hn] at hother
      cases hother
  handled n hhandled := by
    cases hhandled with
    | client hclient =>
        exact htend.online
          (h.handled n (Handled.client (htend.core.client n hclient)))
    | renewalAbort habort =>
        exact htend.online
          (h.handled n (Handled.renewalAbort (htend.core.renewalAbort n habort)))
    | shutdown hshutdown hclient =>
        exact htend.online (h.handled n (htend.shutdowns _ _ n hshutdown hclient))
    | renewal hattempt hrenewal =>
        rcases htend.attempts n with hsame | ⟨_, hafter⟩
        · exact htend.online (h.handled n
            (Handled.renewal (hsame.symm.trans hattempt) hrenewal))
        · exact hafter
  goingOnline hgoing := by
    rcases htend.core.goingOnline hgoing with ⟨hbefore, hepoch⟩
    rcases h.goingOnline hbefore with ⟨n, attempt, hn, hsetup⟩
    rcases htend.attempts n with hsame | ⟨⟨other, hother, hstage⟩, _⟩
    · exact ⟨n, attempt, hn.trans htend.started.symm, hsame.trans hsetup.found,
        hsetup.epoch.trans hepoch.symm, hsetup.stage⟩
    · rw [hsetup.found] at hother
      cases hother
      have hfalse := hsetup.stage
      rw [hstage] at hfalse
      exact hfalse.elim

theorem attempts_update {s t : OnlineState P} {n : Nat} {attempt : Attempt P}
    (h : t.attempts = Function.update s.attempts n (some attempt))
    (honline : s.Online n) (hstage : attempt.stage = PublishStage.online)
    (m : Nat) : t.attempts m = s.attempts m ∨ s.Online m ∧ t.Online m := by
  by_cases heq : m = n
  · subst heq
    refine Or.inr ⟨honline, attempt, ?_, hstage⟩
    rw [h]
    exact Function.update_self _ _ _
  · left
    rw [h]
    exact Function.update_of_ne heq _ _

theorem handled_attempt {s : OnlineState P} {handle : Option Nat} {n : Nat}
    {attempt : Attempt P} (h : forall n, handle = some n -> s.Online n)
    (hfound : (handle.bind fun n =>
      (s.attempts n).map fun attempt => (n, attempt)) = some (n, attempt)) :
    s.Online n ∧ attempt.stage = PublishStage.online := by
  simp only [Option.bind_eq_some_iff, Option.map_eq_some_iff,
    Prod.mk.injEq] at hfound
  rcases hfound with ⟨k, hk, found, hfound, rfl, rfl⟩
  rcases h k hk with ⟨other, hother, hstage⟩
  rw [hfound] at hother
  cases hother
  exact ⟨h k hk, hstage⟩

theorem abort_attempts {s : OnlineState P} {handle : Option Nat}
    (h : forall n, handle = some n -> s.Online n) (m : Nat) :
    (s.abort handle).attempts m = s.attempts m ∨
      s.Online m ∧ (s.abort handle).Online m := by
  unfold abort
  split
  · exact Or.inl rfl
  · next n attempt hfound =>
      rcases handled_attempt h hfound with ⟨honline, hstage⟩
      have hafter : (attempt.renewTo RenewalStage.done).stage =
        PublishStage.online := hstage
      exact attempts_update rfl honline hafter m

theorem closeClient_attempts {s : OnlineState P} {client : Option Nat}
    (h : forall n, client = some n -> s.Online n) (m : Nat) :
    (s.closeClient client).attempts m = s.attempts m ∨
      s.Online m ∧ (s.closeClient client).Online m := by
  unfold closeClient
  split
  · exact Or.inl rfl
  · next n attempt hfound =>
      rcases handled_attempt h hfound with ⟨honline, hstage⟩
      have hafter : attempt.close.stage = PublishStage.online := hstage
      exact attempts_update rfl honline hafter m

theorem abort_kept (s : OnlineState P) (handle : Option Nat) :
    (s.abort handle).started = s.started ∧
      (s.abort handle).shutdowns = s.shutdowns := by
  unfold abort
  split
  · exact ⟨rfl, rfl⟩
  · exact ⟨rfl, rfl⟩

theorem closeClient_kept (s : OnlineState P) (client : Option Nat) :
    (s.closeClient client).core = s.core ∧
      (s.closeClient client).started = s.started ∧
      (s.closeClient client).shutdowns = s.shutdowns := by
  unfold closeClient
  split
  · exact ⟨rfl, rfl, rfl⟩
  · exact ⟨rfl, rfl, rfl⟩

theorem setShutdown_client {s : OnlineState P} {j k n : Nat}
    {shutdown found : Shutdown P}
    (h : (s.setShutdown k shutdown).shutdowns j = some found)
    (hclient : found.client = some n) :
    shutdown.client = some n ∨
      exists other, s.shutdowns j = some other ∧ other.client = some n := by
  change Function.update s.shutdowns k (some shutdown) j = some found at h
  by_cases heq : j = k
  · subst heq
    rw [Function.update_self] at h
    cases h
    exact Or.inl hclient
  · rw [Function.update_of_ne heq] at h
    exact Or.inr ⟨found, h, hclient⟩

theorem Consistent.disconnect {s : OnlineState P} (h : s.Consistent) :
    s.disconnect.Consistent := by
  have hkept := s.abort_kept s.core.renewalAbort
  refine h.tend ⟨s.core.fades_leave, hkept.left, ?_, ?_⟩
  · exact abort_attempts fun n hn => h.handled n (Handled.renewalAbort hn)
  · intro j found n hfound hclient
    rcases setShutdown_client hfound hclient with hcore | ⟨other, hother, hclient⟩
    · exact Handled.client hcore
    · change (s.abort s.core.renewalAbort).shutdowns j = some other at hother
      rw [hkept.right] at hother
      exact Handled.shutdown hother hclient

/-- A shutdown goes on with the client it took. -/
theorem Consistent.shut {s t : OnlineState P} {k : Nat} {event : AwaitEvent}
    (h : s.Consistent) (hnext : s.shut k event = some t) : t.Consistent := by
  unfold OnlineState.shut at hnext
  split at hnext
  · cases hnext
  · next shutdown hshutdown =>
      have hsame : forall (core : OnlineState P) (stage : ShutdownStage) j found n,
          core.shutdowns = s.shutdowns ->
          (core.setShutdown k { shutdown with stage := stage }).shutdowns j =
            some found -> found.client = some n -> s.Handled n := by
        intro core stage j found n hcore hfound hclient
        rcases setShutdown_client hfound hclient with hclient |
          ⟨other, hother, hclient⟩
        · exact Handled.shutdown hshutdown hclient
        · rw [hcore] at hother
          exact Handled.shutdown hother hclient
      have hheld : forall n, shutdown.client = some n -> s.Online n :=
        fun n hn => h.handled n (Handled.shutdown hshutdown hn)
      split at hnext
      · cases hnext
        have hkept := s.closeClient_kept shutdown.client
        refine h.tend ⟨?_, hkept.right.left, closeClient_attempts hheld, ?_⟩
        · change s.core.Fades (s.closeClient shutdown.client).core
          rw [hkept.left]
          exact s.core.fades_refl
        · intro j found n hfound hclient
          exact hsame _ _ j found n hkept.right.right hfound hclient
      · split at hnext
        · cases hnext
        · cases hnext
          exact h.tend ⟨s.core.fades_refl, rfl, fun _ => Or.inl rfl,
            fun j found n hfound hclient => hsame _ _ j found n rfl hfound hclient⟩
      · cases hnext
        exact h.tend ⟨s.core.fades_refl, rfl, fun _ => Or.inl rfl,
          fun j found n hfound hclient => hsame _ _ j found n rfl hfound hclient⟩
      · cases hnext

theorem within_eq_some {s t : OnlineState P} {n : Nat}
    {step : Scope P -> Option (Scope P)} (h : s.within n step = some t) :
    exists attempt after, s.attempts n = some attempt ∧
      step
        { core := s.core
          homeserver := s.homeserver
          attempt := attempt } = some after ∧
      t = { s with
        core := after.core
        homeserver := after.homeserver }.setAttempt n after.attempt := by
  unfold within at h
  split at h
  · cases h
  · next attempt hattempt =>
      rw [Option.map_eq_some_iff] at h
      rcases h with ⟨after, hafter, rfl⟩
      exact ⟨attempt, after, hattempt, hafter, rfl⟩

theorem Consistent.renew {s t : OnlineState P} {n : Nat} {event : AwaitEvent}
    (h : s.Consistent)
    (hnext : (s.within n fun scope => scope.renew event) = some t) :
    t.Consistent := by
  rcases within_eq_some hnext with ⟨attempt, after, hattempt, hafter, rfl⟩
  have heffect := (Scope.renew_step hafter).effect
  have honline := h.handled n (Handled.renewal hattempt heffect.before)
  rcases honline with ⟨other, hother, hstage⟩
  rw [hattempt] at hother
  cases hother
  refine h.tend ⟨heffect.core, rfl, ?_, ?_⟩
  · exact attempts_update rfl ⟨attempt, hattempt, hstage⟩
      (heffect.stage.trans hstage)
  · intro k shutdown m hshutdown hclient
    exact Handled.shutdown hshutdown hclient

theorem Consistent.start {s : OnlineState P} {core : CoreState P}
    {device : V1DeviceCredential} {session : P.PublicKey} {relays : List Url}
    {allowLoopback : Bool} (h : s.Consistent)
    (hclient : core.client = s.core.client)
    (habort : core.renewalAbort = s.core.renewalAbort) :
    ({ s with core := core, started := s.started + 1 }.setAttempt s.started
      (Attempt.start device session relays allowLoopback
        core.epoch)).Consistent := by
  let attempt : Attempt P :=
    Attempt.start device session relays allowLoopback core.epoch
  let t : OnlineState P :=
    { s with core := core, started := s.started + 1 }.setAttempt s.started attempt
  have hnew : t.attempts s.started = some attempt := Function.update_self _ _ _
  have hold : forall n, n ≠ s.started -> t.attempts n = s.attempts n :=
    fun n hne => Function.update_of_ne hne _ _
  have honline : forall n, s.Online n -> t.Online n := by
    rintro n ⟨other, hother, hstage⟩
    refine ⟨other, (hold n ?_).trans hother, hstage⟩
    rintro rfl
    rw [h.unstarted s.started (Nat.le_refl _)] at hother
    cases hother
  change t.Consistent
  constructor
  · intro n other hother
    by_cases heq : n = s.started
    · subst heq
      rw [hnew] at hother
      cases hother
      exact Attempt.coherent_start _ _ _ _ _
    · exact h.coherent n other ((hold n heq).symm.trans hother)
  · intro n hn
    have hlt : s.started < n := hn
    exact (hold n hlt.ne').trans (h.unstarted n hlt.le)
  · intro n hhandled
    cases hhandled with
    | client hn =>
        exact honline n (h.handled n (Handled.client (hclient.symm.trans hn)))
    | renewalAbort hn =>
        exact honline n (h.handled n (Handled.renewalAbort (habort.symm.trans hn)))
    | shutdown hshutdown hn =>
        exact honline n (h.handled n (Handled.shutdown hshutdown hn))
    | renewal hother hrenewal =>
        by_cases heq : n = s.started
        · subst heq
          rw [hnew] at hother
          cases hother
          exact absurd rfl hrenewal
        · exact honline n (h.handled n
            (Handled.renewal ((hold n heq).symm.trans hother) hrenewal))
  · intro _
    exact ⟨s.started, attempt, rfl, hnew, rfl, trivial⟩

theorem Consistent.call {s t : OnlineState P} {n : Nat} {event : AwaitEvent}
    (h : s.Consistent)
    (hnext : (s.within n fun scope => scope.next n event) = some t) :
    t.Consistent := by
  rcases within_eq_some hnext with ⟨attempt, after, hattempt, hafter, rfl⟩
  have hstep := Scope.next_step hafter
  have heffect := hstep.effect
  let t : OnlineState P :=
    { s with
      core := after.core
      homeserver := after.homeserver }.setAttempt n after.attempt
  have hnew : t.attempts n = some after.attempt := Function.update_self _ _ _
  have hold : forall m, m ≠ n -> t.attempts m = s.attempts m :=
    fun m hne => Function.update_of_ne hne _ _
  have hoffline : ¬ s.Online n := by
    rintro ⟨other, hother, hstage⟩
    rw [hattempt] at hother
    cases hother
    exact heffect.before hstage
  -- whoever was handled before was online, so it is another call
  have honline : forall m, s.Handled m -> t.Online m := by
    intro m hhandled
    have hbefore := h.handled m hhandled
    have hne : m ≠ n := by
      rintro rfl
      exact hoffline hbefore
    rcases hbefore with ⟨other, hother, hstage⟩
    exact ⟨other, (hold m hne).trans hother, hstage⟩
  change t.Consistent
  constructor
  · intro m other hother
    by_cases heq : m = n
    · subst heq
      rw [hnew] at hother
      cases hother
      exact (h.coherent m attempt hattempt).step hstep
    · exact h.coherent m other ((hold m heq).symm.trans hother)
  · intro m hm
    have hne : m ≠ n := by
      rintro rfl
      rw [h.unstarted m hm] at hattempt
      cases hattempt
    exact (hold m hne).trans (h.unstarted m hm)
  · intro m hhandled
    rcases heffect.handles with ⟨hclient, habort, hrenewal⟩ |
      ⟨hstage, hclient, habort⟩
    · cases hhandled with
      | client hm => exact honline m (Handled.client (hclient.symm.trans hm))
      | renewalAbort hm =>
          exact honline m (Handled.renewalAbort (habort.symm.trans hm))
      | shutdown hshutdown hm => exact honline m (Handled.shutdown hshutdown hm)
      | renewal hother hne =>
          by_cases heq : m = n
          · subst heq
            rw [hnew] at hother
            cases hother
            rw [hrenewal] at hne
            exact honline m (Handled.renewal hattempt hne)
          · exact honline m (Handled.renewal ((hold m heq).symm.trans hother) hne)
    · have hself : t.Online n := ⟨after.attempt, hnew, hstage⟩
      cases hhandled with
      | client hm =>
          cases hclient.symm.trans hm
          exact hself
      | renewalAbort hm =>
          cases habort.symm.trans hm
          exact hself
      | shutdown hshutdown hm => exact honline m (Handled.shutdown hshutdown hm)
      | renewal hother hne =>
          by_cases heq : m = n
          · subst heq
            exact hself
          · exact honline m (Handled.renewal ((hold m heq).symm.trans hother) hne)
  · intro hgoing
    rcases heffect.goingOnline hgoing with ⟨hbefore, hepoch, hsetup⟩
    rcases h.goingOnline hbefore with ⟨m, newest, hm, hnewest⟩
    by_cases heq : m = n
    · subst heq
      have hfound := hnewest.found
      rw [hattempt] at hfound
      cases hfound
      exact ⟨m, after.attempt, hm, hnew,
        (heffect.epoch.trans hnewest.epoch).trans hepoch.symm,
        hsetup hnewest.stage hnewest.epoch⟩
    · exact ⟨m, newest, hm, (hold m heq).trans hnewest.found,
        hnewest.epoch.trans hepoch.symm, hnewest.stage⟩

theorem Consistent.next {s t : OnlineState P} {label : OnlineLabel P}
    (h : s.Consistent) (hnext : s.next label = some t) : t.Consistent := by
  cases label with
  | signedIn fields =>
      cases hnext
      exact h.tend ⟨⟨fun hgoing => ⟨hgoing, rfl⟩, fun _ hn => hn, fun _ hn => hn⟩,
        rfl, fun _ => Or.inl rfl,
        fun _ _ _ hshutdown hn => Handled.shutdown hshutdown hn⟩
  | publish relays allowLoopback =>
      simp only [OnlineState.next] at hnext
      split at hnext
      · cases hnext
      · next core device session henter =>
          cases hnext
          unfold CoreState.enter at henter
          simp only [bind_eq_ok, rejectIf_eq_ok, okOr_eq_ok, exists_unit,
            pure_eq_ok, Prod.mk.injEq] at henter
          rcases henter with ⟨_, _, _, _, _, _, _, rfl, _, _⟩
          exact h.start rfl rfl
  | call n event => exact h.call hnext
  | renewal n event => exact h.renew hnext
  | disconnect =>
      cases hnext
      exact h.disconnect
  | shutdown k event => exact h.shut hnext
  | late i =>
      simp only [OnlineState.next] at hnext
      split at hnext
      · cases hnext
      · cases hnext
        exact h.tend ⟨s.core.fades_refl, rfl, fun _ => Or.inl rfl,
          fun _ _ _ hshutdown hn => Handled.shutdown hshutdown hn⟩

theorem consistent_initial {s : OnlineState P}
    (h : (onlineCore P).initial s) : s.Consistent := by
  rcases h with ⟨hcore, hstarted, hattempts, _, hshutdowns, _⟩
  constructor
  · intro n attempt hattempt
    rw [hattempts n] at hattempt
    cases hattempt
  · intro n _
    exact hattempts n
  · intro n hhandled
    cases hhandled with
    | client hn =>
        rw [hcore] at hn
        cases hn
    | renewalAbort hn =>
        rw [hcore] at hn
        cases hn
    | shutdown hshutdown _ =>
        rw [hshutdowns] at hshutdown
        cases hshutdown
    | renewal hattempt _ =>
        rw [hattempts n] at hattempt
        cases hattempt
  · intro hgoing
    rw [hcore] at hgoing
    cases hgoing

theorem reachable_consistent {s : OnlineState P}
    (h : (onlineCore P).Reachable s) : s.Consistent :=
  h.invariant (fun _ => consistent_initial)
    (fun _ _ _ hconsistent _ hnext => hconsistent.next hnext)

/-!
# Nothing left running
-/

/-- What a call that failed leaves behind. -/
structure Clean (s : OnlineState P) (n : Nat) (attempt : Attempt P) : Prop where
  closed : attempt.Closed
  deleted : Lease.Settled attempt.log.published attempt.log.deleted
  client : attempt.log.setClient = false ∧ s.core.client ≠ some n
  goingOnline : s.core.goingOnline = true ->
    exists m newer, n < m ∧ s.SettingUp m newer

/-- A call that has failed never had the client, and any flag is of a newer call. -/
theorem Consistent.failed {s : OnlineState P} {n : Nat} {attempt : Attempt P}
    {code : Failure} (h : s.Consistent) (hattempt : s.attempts n = some attempt)
    (hfailed : attempt.stage = PublishStage.failed code) :
    (attempt.log.setClient = false ∧ s.core.client ≠ some n) ∧
      (s.core.goingOnline = true ->
        exists m newer, n < m ∧ s.SettingUp m newer) := by
  refine ⟨⟨?_, ?_⟩, ?_⟩
  · refine (h.coherent n attempt hattempt).setClient ?_
    rw [hfailed]
    nofun
  · intro hclient
    rcases h.handled n (Handled.client hclient) with ⟨other, hother, hstage⟩
    rw [hattempt] at hother
    cases hother
    rw [hfailed] at hstage
    cases hstage
  · intro hgoing
    rcases h.goingOnline hgoing with ⟨m, newest, hm, hnewest⟩
    refine ⟨m, newest, ?_, hnewest⟩
    have hne : n ≠ m := by
      rintro rfl
      have hfound := hnewest.found
      rw [hattempt] at hfound
      cases hfound
      have hfalse := hnewest.stage
      rw [hfailed] at hfalse
      exact hfalse.elim
    have hstarted : n < s.started := by
      by_contra hle
      rw [h.unstarted n (Nat.le_of_not_lt hle)] at hattempt
      cases hattempt
    omega

end OnlineState

/--
A call that fails after its endpoint is bound leaves nothing running exactly when
more than one second of the certificate was left when it computed the lifetime,
and the homeserver carried out the deletion the call asked for, if it did.
-/
theorem failed_publish_clean {s : OnlineState P}
    (h : (onlineCore P).Reachable s) {n : Nat} {attempt : Attempt P}
    (hattempt : s.attempts n = some attempt) {code : Failure}
    (hfailed : attempt.stage = PublishStage.failed code) {now : UInt64}
    (hbound : attempt.log.lifetimeAt = some now) :
    s.Clean n attempt <->
      now.toNat + 1 < attempt.device.certificate.claims.expiresAt.toNat ∧
        attempt.log.undeleted = [] := by
  have hconsistent := OnlineState.reachable_consistent h
  rcases hconsistent.failed hattempt hfailed with ⟨hclient, hgoing⟩
  have hshape := (hconsistent.coherent n attempt hattempt).shape
  rw [hfailed] at hshape
  have htimely : attempt.Timely <-> LifetimeLeft attempt.device now := by
    unfold Attempt.Timely
    rw [hbound]
    exact ⟨fun ⟨_, heq, hleft⟩ => by cases heq; exact hleft,
      fun hleft => ⟨now, rfl, hleft⟩⟩
  cases hshape with
  | unbound hlifetime =>
      rw [hlifetime] at hbound
      cases hbound
  | expired hlifetime hexpired hopen =>
      rw [hlifetime] at hbound
      cases hbound
      exact ⟨fun hclean => absurd hclean.closed hopen.not_closed,
        fun hleft => absurd hleft.left hexpired⟩
  | unpublished hleft hclosed hlog =>
      have hsettled :
          Lease.Settled attempt.log.published attempt.log.deleted := by
        rw [hlog.left]
        exact fun _ hmem => absurd hmem List.not_mem_nil
      exact ⟨fun _ => ⟨htimely.mp hleft, hlog.right.right⟩,
        fun _ => ⟨hclosed, hsettled, hclient, hgoing⟩⟩
  | released hleft hclosed hlog =>
      refine ⟨fun hclean => ⟨htimely.mp hleft, ?_⟩,
        fun hcarried => ⟨hclosed, ?_, hclient, hgoing⟩⟩
      · rcases hlog with ⟨record, hdeleted | hundeleted⟩
        · exact hdeleted.right.right
        · have hsettled := hclean.deleted record
            (hundeleted.left ▸ List.mem_singleton_self record)
          rw [hundeleted.right.left] at hsettled
          exact absurd hsettled List.not_mem_nil
      · rcases hlog with ⟨record, hdeleted | hundeleted⟩
        · rw [hdeleted.left, hdeleted.right.left]
          exact fun _ hmem => hmem
        · have hempty := hundeleted.right.right.symm.trans hcarried.right
          cases hempty

/-!
# The first call of a new core
-/

/-- A core that has signed in, prepared a device and started its first call. -/
def enteredCore (device : V1DeviceCredential) (session : P.PublicKey)
    (relays : List Url) : OnlineState P where
  core :=
    { signedIn :=
        { identityBusy := false
          pubky := true
          session := some session
          sequenceStore := true
          device := some device }
      goingOnline := true
      epoch := 1
      client := none
      currentRecord := none
      renewalAbort := none }
  homeserver := fun _ _ => none
  started := 1
  attempts := Function.update (fun _ => none) 0
    (some (Attempt.start device session relays false 1))
  stopped := 0
  shutdowns := fun _ => none
  orphans := []

theorem enteredCore_reachable (device : V1DeviceCredential)
    (session : P.PublicKey) (relays : List Url) :
    (onlineCore P).Reachable (enteredCore device session relays) := by
  let s : OnlineState P :=
    { core :=
        { signedIn :=
            { identityBusy := false
              pubky := false
              session := none
              sequenceStore := false
              device := none }
          goingOnline := false
          epoch := 0
          client := none
          currentRecord := none
          renewalAbort := none }
      homeserver := fun _ _ => none
      started := 0
      attempts := fun _ => none
      stopped := 0
      shutdowns := fun _ => none
      orphans := [] }
  have hinitial : (onlineCore P).initial s :=
    ⟨rfl, rfl, fun _ => rfl, rfl, fun _ => rfl, rfl⟩
  have hrun : (onlineCore P).run s
      [OnlineLabel.signedIn (enteredCore device session relays).core.signedIn,
        OnlineLabel.publish relays false] =
          some (enteredCore device session relays) := rfl
  exact Machine.Reachable.run (Machine.ReachableWhen.start hinitial) hrun

theorem OnlineState.reachable_call {s : OnlineState P} {n : Nat}
    {attempt : Attempt P} (event : AwaitEvent) {after : Scope P}
    (h : (onlineCore P).Reachable s) (hattempt : s.attempts n = some attempt)
    (hstep : Scope.next
      { core := s.core, homeserver := s.homeserver, attempt := attempt } n
        event = some after) :
    exists t, (onlineCore P).Reachable t ∧
      t.attempts n = some after.attempt := by
  let t : OnlineState P :=
    { s with
      core := after.core
      homeserver := after.homeserver }.setAttempt n after.attempt
  have hnext : (onlineCore P).next s (OnlineLabel.call n event) = some t := by
    change (s.within n fun scope => scope.next n event) = some t
    unfold OnlineState.within
    rw [hattempt]
    change Option.map _ (Scope.next _ n event) = some t
    rw [hstep]
    rfl
  exact ⟨t, Machine.ReachableWhen.step h trivial hnext,
    Function.update_self _ _ _⟩

theorem Scope.next_expired {s : Scope P} (n : Nat) (instanceNonce : String)
    {verifiedAt now : UInt64} {code : Failure}
    (hstage : s.attempt.stage = PublishStage.binding)
    (hverify : s.attempt.device.verify P verifiedAt = Except.ok ())
    (herror : boundedLocatorLifetime s.attempt.device now = Except.error code) :
    s.next n (AwaitEvent.bound instanceNonce verifiedAt now) =
      some ({ s with attempt := s.attempt.bind instanceNonce now }.abandon
        code) := by
  unfold Scope.next
  simp only [hstage, hverify, herror]

theorem Scope.next_bound {s : Scope P} (n : Nat) (instanceNonce : String)
    {verifiedAt now lifetimeSeconds : UInt64}
    (hstage : s.attempt.stage = PublishStage.binding)
    (hverify : s.attempt.device.verify P verifiedAt = Except.ok ())
    (hlifetime : boundedLocatorLifetime s.attempt.device now =
      Except.ok lifetimeSeconds) :
    s.next n (AwaitEvent.bound instanceNonce verifiedAt now) =
      some ({ s with attempt := s.attempt.bind instanceNonce now }.moveTo
        (PublishStage.allocating lifetimeSeconds)) := by
  unfold Scope.next
  simp only [hstage, hverify, hlifetime]

section FirstCall

variable {device : V1DeviceCredential} {verifiedAt now : UInt64}

def enteredScope (device : V1DeviceCredential) (session : P.PublicKey)
    (relays : List Url) : Scope P where
  core := (enteredCore device session relays).core
  homeserver := (enteredCore device session relays).homeserver
  attempt := Attempt.start device session relays false 1

theorem enteredCore_attempt (device : V1DeviceCredential)
    (session : P.PublicKey) (relays : List Url) :
    (enteredCore device session relays).attempts 0 =
      some (enteredScope device session relays).attempt :=
  rfl

theorem expired_reachable (session : P.PublicKey) (relays : List Url)
    (instanceNonce : String) {code : Failure}
    (hverify : device.verify P verifiedAt = Except.ok ())
    (herror : boundedLocatorLifetime device now = Except.error code) :
    exists s, (onlineCore P).Reachable s ∧
      s.attempts 0 = some (((Attempt.start device session relays false 1).bind
        instanceNonce now).moveTo (PublishStage.failed code)) := by
  have hstep := Scope.next_expired (s := enteredScope device session relays) 0
    instanceNonce rfl hverify herror
  exact OnlineState.reachable_call _ (enteredCore_reachable device session relays)
    (enteredCore_attempt device session relays) hstep

theorem unrecorded_reachable (session : P.PublicKey) (relays : List Url)
    (instanceNonce : String) {lifetimeSeconds : UInt64}
    (hverify : device.verify P verifiedAt = Except.ok ())
    (hlifetime : boundedLocatorLifetime device now =
      Except.ok lifetimeSeconds) :
    exists s, (onlineCore P).Reachable s ∧
      s.attempts 0 = some (((Attempt.start device session relays false 1).bind
        instanceNonce now).close.moveTo
          (PublishStage.failed "publication-failed")) := by
  let error : ClientResult UInt64 := Except.error (ClientError.state "storage")
  have hstep := Scope.next_bound (s := enteredScope device session relays) 0
    instanceNonce rfl hverify hlifetime
  rcases OnlineState.reachable_call _ (enteredCore_reachable device session relays)
    (enteredCore_attempt device session relays) hstep with
    ⟨bound, hbound, hattempt⟩
  rcases OnlineState.reachable_call (AwaitEvent.recorded error now now) hbound
    hattempt rfl with ⟨closing, hclosing, hattempt⟩
  exact OnlineState.reachable_call AwaitEvent.closed hclosing hattempt rfl

end FirstCall

/-- The sequence store fails, and the call closes its endpoint. -/
theorem failed_publish_clean_sample :
    exists s attempt, (onlineCore Reference.sample).Reachable s ∧
      s.attempts 0 = some attempt ∧
      attempt.stage = PublishStage.failed "publication-failed" ∧
      s.Clean 0 attempt := by
  have hlifetime : boundedLocatorLifetime Reference.laptop.credential 1000 =
      Except.ok 900 := by
    decide
  rcases unrecorded_reachable (Reference.keyOf 1) [Reference.DeviceKeys.relay]
    Reference.DeviceKeys.instanceNonce Reference.laptop.credential_verify
    hlifetime with ⟨s, hs, hattempt⟩
  have hleft : (1000 : UInt64).toNat + 1 <
      Reference.laptop.credential.certificate.claims.expiresAt.toNat := by
    decide
  exact ⟨s, _, hs, hattempt, rfl,
    (failed_publish_clean hs hattempt rfl rfl).mpr ⟨hleft, rfl⟩⟩

/-- A device issued ten seconds before its Grant ends. -/
def lateDevice : V1DeviceCredential :=
  V1DeviceCredential.issued Reference.sample Reference.authorization
    Reference.grantClaims (Reference.keyOf 2) Reference.laptop.deviceId 999990
    1000000 Reference.laptop.control Reference.laptop.iroh

theorem lateDevice_verify :
    lateDevice.verify Reference.sample 999990 = Except.ok () :=
  V1DeviceCredential.issued_verify
    (Reference.authorization_verify (by decide) (by decide)) rfl
    Reference.laptop.usable ⟨by decide, by decide, by decide, by decide⟩
    (by decide) (by decide) Reference.laptop.distinct

/-- The late device is bound when one second is left, and stays bound. -/
theorem late_endpoint_left_open :
    exists s attempt, (onlineCore Reference.sample).Reachable s ∧
      s.attempts 0 = some attempt ∧ attempt.device = lateDevice ∧
      attempt.stage = PublishStage.failed "device-state-invalid" ∧
      attempt.log.lifetimeAt = some 999999 ∧
      (exists endpoint, attempt.endpoint = some endpoint ∧
        endpoint.closed = false) ∧
      ¬ s.Clean 0 attempt := by
  have herror : boundedLocatorLifetime lateDevice 999999 =
      Except.error "device-state-invalid" := by
    decide
  rcases expired_reachable (Reference.keyOf 1) [Reference.DeviceKeys.relay]
    Reference.DeviceKeys.instanceNonce lateDevice_verify herror with
    ⟨s, hs, hattempt⟩
  have hopen : (((Attempt.start (P := Reference.sample) lateDevice
      (Reference.keyOf 1) [Reference.DeviceKeys.relay] false 1).bind
        Reference.DeviceKeys.instanceNonce 999999).moveTo
          (PublishStage.failed "device-state-invalid")).Open :=
    ⟨_, rfl, rfl⟩
  exact ⟨s, _, hs, hattempt, rfl, rfl, rfl, hopen,
    fun hclean => hopen.not_closed hclean.closed⟩

end Browser
end Pubky2Pubky
