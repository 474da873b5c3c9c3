import Pubky2Pubky.Browser.OnlineDevice
import Pubky2Pubky.Client.Discovery

/-!
# The published record of an online core

As long as the homeserver carries out the writes of one device in the order of the
calls they belong to, the object of the device is there exactly while the core is
online.
-/

namespace Pubky2Pubky
namespace Browser

open Foundation Protocol Client

section Turns

variable {P : Primitives}

/-!
# Following the object
-/

/-- What a running loop has left in the object, given the record of the core. -/
def RenewalStage.held (record : Option V1DeviceRecord) :
    RenewalStage -> Option V1DeviceRecord
  | RenewalStage.putting request =>
      if request.taken then some request.record else record
  | _ => record

/-- The record that the last write of a call or its loop left, while it stands. -/
def Attempt.latest (attempt : Attempt P) (core : CoreState P) (n : Nat) :
    Option V1DeviceRecord :=
  match attempt.stage with
  | PublishStage.putting request =>
      if request.taken then some request.record else none
  | PublishStage.online =>
      if core.client = some n then attempt.renewal.held core.currentRecord
      else none
  | _ => none

theorem Attempt.latest_putting {attempt : Attempt P} {request : Request}
    (hstage : attempt.stage = PublishStage.putting request)
    (htaken : request.taken = true) (core : CoreState P) (n : Nat) :
    attempt.latest core n = some request.record := by
  unfold Attempt.latest
  rw [hstage]
  exact if_pos htaken

theorem Attempt.latest_online {attempt : Attempt P} {core : CoreState P} {n : Nat}
    (hstage : attempt.stage = PublishStage.online) (hclient : core.client = some n) :
    attempt.latest core n = attempt.renewal.held core.currentRecord := by
  unfold Attempt.latest
  rw [hstage]
  exact if_pos hclient

/-- The homeserver has carried out a write of the call. -/
def Attempt.Written (attempt : Attempt P) : Prop :=
  (exists request, attempt.stage = PublishStage.putting request ∧
    request.taken = true) ∨ attempt.stage = PublishStage.online ∨
    attempt.log.published ≠ []

/-- The call or its loop is going to delete the object. -/
inductive Attempt.Owes (attempt : Attempt P) : Prop where
  | call {request : Request}
      (hstage : attempt.stage = PublishStage.deleting request)
      (hnew : request.taken = false) : Owes attempt
  | failing {record : V1DeviceRecord}
      (hrenewal : attempt.renewal = RenewalStage.closing (some record)) :
      Owes attempt
  | loop {request : Request}
      (hrenewal : attempt.renewal = RenewalStage.deleting request)
      (hnew : request.taken = false) : Owes attempt

inductive Shutdown.Owes (shutdown : Shutdown P) : Prop where
  | closing (hstage : shutdown.stage = ShutdownStage.closing) : Owes shutdown
  | deleting {request : Request}
      (hstage : shutdown.stage = ShutdownStage.deleting request)
      (hnew : request.taken = false) : Owes shutdown

namespace OnlineState

def latest (s : OnlineState P) (n : Nat) : Option V1DeviceRecord :=
  (s.attempts n).bind fun attempt => attempt.latest s.core n

def WrittenBy (s : OnlineState P) (n : Nat) : Prop :=
  exists attempt, s.attempts n = some attempt ∧ attempt.Written

/-- A call with a later number has already written. -/
def Overtaken (s : OnlineState P) (n : Nat) : Prop :=
  exists m, n < m ∧ s.WrittenBy m

inductive Owes (s : OnlineState P) (n : Nat) : Prop where
  | attempt {attempt : Attempt P} (hattempt : s.attempts n = some attempt)
      (h : attempt.Owes) : Owes s n
  | shutdown {k : Nat} {shutdown : Shutdown P}
      (hshutdown : s.shutdowns k = some shutdown)
      (hclient : shutdown.client = some n) (h : shutdown.Owes) : Owes s n

theorem writtenBy_of_latest {s : OnlineState P} {n : Nat}
    {record : V1DeviceRecord} (h : s.latest n = some record) :
    s.WrittenBy n := by
  unfold latest at h
  rw [Option.bind_eq_some_iff] at h
  rcases h with ⟨attempt, hattempt, hlatest⟩
  refine ⟨attempt, hattempt, ?_⟩
  unfold Attempt.latest at hlatest
  split at hlatest
  · next request hstage =>
      split at hlatest
      · next htaken => exact Or.inl ⟨request, hstage, htaken⟩
      · cases hlatest
  · next hstage => exact Or.inr (Or.inl hstage)
  · cases hlatest

end OnlineState

/-- The object is the one of the newest call that has written. -/
structure Tracks (p : Publisher P) (s : OnlineState P) : Prop where
  owned : forall record, p.object s = some record -> exists n,
    (s.latest n = some record ∨ s.Owes n) ∧ ¬ s.Overtaken n
  latest : forall n record, s.latest n = some record -> ¬ s.Overtaken n ->
    p.object s = some record

section Writes

variable {p : Publisher P} {s t : OnlineState P} {n : Nat}

theorem Tracks.quiet (h : Tracks p s) (hobject : p.object t = p.object s)
    (hwritten : forall n, t.WrittenBy n <-> s.WrittenBy n)
    (hlatest : forall n record, s.latest n = some record ->
      t.latest n = some record ∨ t.Owes n)
    (hnew : forall n record, t.latest n = some record ->
      s.latest n = some record)
    (howes : forall n, s.Owes n -> t.Owes n) : Tracks p t := by
  have hovertaken : forall n, t.Overtaken n <-> s.Overtaken n := by
    intro n
    exact exists_congr fun m => and_congr_right fun _ => hwritten m
  constructor
  · intro record hrecord
    rw [hobject] at hrecord
    rcases h.owned record hrecord with ⟨n, hheld, horder⟩
    refine ⟨n, ?_, fun hlate => horder ((hovertaken n).mp hlate)⟩
    rcases hheld with hbefore | hbefore
    · exact hlatest n record hbefore
    · exact Or.inr (howes n hbefore)
  · intro n record hrecord horder
    rw [hobject]
    exact h.latest n record (hnew n record hrecord)
      (fun hlate => horder ((hovertaken n).mpr hlate))

theorem Tracks.put (record : V1DeviceRecord) (horder : ¬ s.Overtaken n)
    (hobject : p.object t = some record) (hlatest : t.latest n = some record)
    (hwritten : forall m, m ≠ n -> t.WrittenBy m -> s.WrittenBy m) :
    Tracks p t := by
  have hlast : ¬ t.Overtaken n := by
    rintro ⟨m, hlt, hm⟩
    exact horder ⟨m, hlt, hwritten m hlt.ne' hm⟩
  constructor
  · intro found hfound
    rw [hobject] at hfound
    cases hfound
    exact ⟨n, Or.inl hlatest, hlast⟩
  · intro m found hfound horder
    have hm := OnlineState.writtenBy_of_latest hfound
    have hself := OnlineState.writtenBy_of_latest hlatest
    have heq : m = n := by
      by_contra hne
      rcases Nat.lt_or_gt_of_ne hne with hlt | hgt
      · exact horder ⟨n, hlt, hself⟩
      · exact hlast ⟨m, hgt, hm⟩
    subst heq
    rw [hlatest] at hfound
    rw [hobject]
    exact hfound

theorem Tracks.delete (horder : ¬ s.Overtaken n) (hobject : p.object t = none)
    (hself : t.WrittenBy n) (hlatest : t.latest n = none)
    (hwritten : forall m, m ≠ n -> t.WrittenBy m -> s.WrittenBy m) :
    Tracks p t := by
  constructor
  · intro found hfound
    rw [hobject] at hfound
    cases hfound
  · intro m found hfound hlate
    have hm := OnlineState.writtenBy_of_latest hfound
    have heq : m = n := by
      by_contra hne
      rcases Nat.lt_or_gt_of_ne hne with hlt | hgt
      · exact hlate ⟨n, hlt, hself⟩
      · exact horder ⟨m, hgt, hwritten m hne hm⟩
    subst heq
    rw [hlatest] at hfound
    cases hfound

end Writes

/-!
# Steps that write in turn
-/

/-- Every write succeeds, and is carried out before it is answered. -/
def Answers (s : OnlineState P) : OnlineLabel P -> Prop
  | OnlineLabel.call n (AwaitEvent.answered accepted) =>
      accepted = true ∧ forall attempt request, s.attempts n = some attempt ->
        attempt.stage = PublishStage.deleting request -> request.taken = true
  | OnlineLabel.renewal n (AwaitEvent.answered accepted) =>
      accepted = true ∧ forall attempt request, s.attempts n = some attempt ->
        attempt.renewal = RenewalStage.deleting request -> request.taken = true
  | OnlineLabel.shutdown k (AwaitEvent.answered accepted) =>
      accepted = true ∧ forall shutdown request,
        s.shutdowns k = some shutdown ->
        shutdown.stage = ShutdownStage.deleting request -> request.taken = true
  | _ => True

/--
The homeserver carries out no write of a call, its loop or its shutdown after a
write of a later call, and no write that was aborted.
-/
def InTurn (s : OnlineState P) : OnlineLabel P -> Prop
  | OnlineLabel.call n AwaitEvent.taken => ¬ s.Overtaken n
  | OnlineLabel.renewal n AwaitEvent.taken => ¬ s.Overtaken n
  | OnlineLabel.shutdown k AwaitEvent.taken =>
      forall shutdown n, s.shutdowns k = some shutdown ->
        shutdown.client = some n -> ¬ s.Overtaken n
  | OnlineLabel.late _ => False
  | _ => True

/-- The stages of a call whose record, if any, is not the object. -/
def PublishStage.Unwritten : PublishStage -> Prop
  | PublishStage.putting request => request.taken = false
  | PublishStage.online => False
  | _ => True

theorem latest_unwritten {attempt : Attempt P} (h : attempt.stage.Unwritten)
    (core : CoreState P) (n : Nat) : attempt.latest core n = none := by
  unfold Attempt.latest
  split
  · next request hstage =>
      rw [hstage] at h
      exact if_neg (Bool.eq_false_iff.mp h)
  · next hstage =>
      rw [hstage] at h
      exact h.elim
  · rfl

theorem written_unwritten {attempt : Attempt P} (h : attempt.stage.Unwritten) :
    attempt.Written <-> attempt.log.published ≠ [] := by
  constructor
  · rintro (⟨request, hstage, htaken⟩ | hstage | hpublished)
    · rw [hstage] at h
      rw [show request.taken = false from h] at htaken
      cases htaken
    · rw [hstage] at h
      exact h.elim
    · exact hpublished
  · intro hpublished
    exact Or.inr (Or.inr hpublished)

/-- One call goes on, and what was its object or its debt still is. -/
structure Carries (n : Nat) (core coreAfter : CoreState P)
    (attempt after : Attempt P) : Prop where
  latest : forall record, attempt.latest core n = some record ->
    after.latest coreAfter n = some record ∨ after.Owes
  new : forall record, after.latest coreAfter n = some record ->
    attempt.latest core n = some record
  written : after.Written <-> attempt.Written
  owes : attempt.Owes -> after.Owes

theorem carries_unwritten {n : Nat} {core coreAfter : CoreState P}
    {attempt after : Attempt P} (hbefore : attempt.stage.Unwritten)
    (hafter : after.stage.Unwritten)
    (hlog : after.log.published = attempt.log.published)
    (howes : attempt.Owes -> after.Owes) :
    Carries n core coreAfter attempt after where
  latest record hrecord := by
    rw [latest_unwritten hbefore] at hrecord
    cases hrecord
  new record hrecord := by
    rw [latest_unwritten hafter] at hrecord
    cases hrecord
  written := by
    rw [written_unwritten hbefore, written_unwritten hafter, hlog]
  owes := howes

theorem owes_kept {attempt after : Attempt P}
    (hrenewal : after.renewal = attempt.renewal)
    (hcall : forall request, attempt.stage = PublishStage.deleting request ->
      request.taken = true) : attempt.Owes -> after.Owes := by
  intro howes
  cases howes with
  | @call request hstage hnew =>
      rw [hcall request hstage] at hnew
      cases hnew
  | failing hbefore => exact Attempt.Owes.failing (hrenewal.trans hbefore)
  | loop hbefore hnew => exact Attempt.Owes.loop (hrenewal.trans hbefore) hnew

section Attempts

variable {p : Publisher P} {s t : OnlineState P} {n : Nat}
  {attempt after : Attempt P}

theorem writtenBy_update
    (hattempts : t.attempts = Function.update s.attempts n (some after)) (m : Nat)
    (hne : m ≠ n) : t.WrittenBy m <-> s.WrittenBy m := by
  unfold OnlineState.WrittenBy
  rw [hattempts, Function.update_of_ne hne]

theorem latest_update
    (hattempts : t.attempts = Function.update s.attempts n (some after)) :
    t.latest n = after.latest t.core n := by
  unfold OnlineState.latest
  rw [hattempts, Function.update_self]
  rfl

theorem latest_eq (hattempt : s.attempts n = some attempt) :
    s.latest n = attempt.latest s.core n := by
  unfold OnlineState.latest
  rw [hattempt]
  rfl

theorem Tracks.carry (h : Tracks p s) (hattempt : s.attempts n = some attempt)
    (hattempts : t.attempts = Function.update s.attempts n (some after))
    (hshutdowns : t.shutdowns = s.shutdowns)
    (hobject : p.object t = p.object s)
    (hothers : forall m (other : Attempt P), m ≠ n ->
      other.latest t.core m = other.latest s.core m)
    (hcarries : Carries n s.core t.core attempt after) : Tracks p t := by
  have hself : t.attempts n = some after := by
    rw [hattempts]
    exact Function.update_self _ _ _
  have hother : forall m, m ≠ n -> t.latest m = s.latest m := by
    intro m hne
    unfold OnlineState.latest
    rw [hattempts, Function.update_of_ne hne]
    exact congrArg (Option.bind (s.attempts m))
      (funext fun other => hothers m other hne)
  refine h.quiet hobject ?_ ?_ ?_ ?_
  · intro m
    by_cases heq : m = n
    · subst heq
      constructor
      · rintro ⟨found, hfound, hwritten⟩
        rw [hself] at hfound
        cases hfound
        exact ⟨attempt, hattempt, hcarries.written.mp hwritten⟩
      · rintro ⟨found, hfound, hwritten⟩
        rw [hattempt] at hfound
        cases hfound
        exact ⟨after, hself, hcarries.written.mpr hwritten⟩
    · exact writtenBy_update hattempts m heq
  · intro m record hrecord
    by_cases heq : m = n
    · subst heq
      rw [latest_eq hattempt] at hrecord
      rw [latest_update hattempts]
      rcases hcarries.latest record hrecord with hlatest | howes
      · exact Or.inl hlatest
      · exact Or.inr (OnlineState.Owes.attempt hself howes)
    · exact Or.inl ((hother m heq).trans hrecord)
  · intro m record hrecord
    by_cases heq : m = n
    · subst heq
      rw [latest_update hattempts] at hrecord
      rw [latest_eq hattempt]
      exact hcarries.new record hrecord
    · exact (hother m heq).symm.trans hrecord
  · intro m howes
    cases howes with
    | @attempt found hfound howes =>
        by_cases heq : m = n
        · subst heq
          rw [hattempt] at hfound
          cases hfound
          exact OnlineState.Owes.attempt hself (hcarries.owes howes)
        · have hkept : t.attempts m = some found := by
            rw [hattempts, Function.update_of_ne heq]
            exact hfound
          exact OnlineState.Owes.attempt hkept howes
    | shutdown hshutdown hclient howes =>
        rw [← hshutdowns] at hshutdown
        exact OnlineState.Owes.shutdown hshutdown hclient howes

theorem latest_congr {core coreAfter : CoreState P}
    (hclient : coreAfter.client = core.client)
    (hrecord : coreAfter.currentRecord = core.currentRecord)
    (attempt : Attempt P) (m : Nat) :
    attempt.latest coreAfter m = attempt.latest core m := by
  unfold Attempt.latest
  rw [hclient, hrecord]

theorem latest_others {core coreAfter : CoreState P} {m : Nat}
    (hbefore : core.client ≠ some m) (hafter : coreAfter.client ≠ some m)
    (attempt : Attempt P) :
    attempt.latest coreAfter m = attempt.latest core m := by
  unfold Attempt.latest
  rw [if_neg hbefore, if_neg hafter]

theorem object_write {homeserver : Homeserver P} {account : P.PublicKey}
    {path : String} (haccount : account = p.account) (hpath : path = p.path)
    (object : Option V1DeviceRecord) :
    homeserver.write account path object p.account p.path = object := by
  subst haccount
  subst hpath
  unfold Homeserver.write
  rw [Function.update_self, Function.update_self]

/-- A call that is overtaken after its publication owes the deletion. -/
theorem carries_overtaken {request : Request} {core : CoreState P}
    (hsession : attempt.session = p.account) (hdeletable : p.Deletable request.record)
    (hstage : attempt.stage = PublishStage.putting request)
    (htaken : request.taken = true)
    (hafter : after =
      match (attempt.logPublished request.record).deletion request.record with
      | none => ((attempt.logPublished request.record).logDeletion
          request.record false).moveTo PublishStage.leaving
      | some deletion => (attempt.logPublished request.record).moveTo
          (PublishStage.deleting deletion)) :
    Carries n core core attempt after := by
  have hdeletion : (attempt.logPublished request.record).deletion request.record =
      some { path := p.path, record := request.record, taken := false } :=
    Publisher.deletion_of_deletable hsession hdeletable
  rw [hdeletion] at hafter
  subst hafter
  constructor
  · intro record _
    exact Or.inr (Attempt.Owes.call rfl rfl)
  · intro record hrecord
    cases hrecord
  · constructor
    · intro _
      exact Or.inl ⟨request, hstage, htaken⟩
    · intro _
      right
      right
      change attempt.log.published ++ [request.record] ≠ []
      exact List.append_ne_nil_of_right_ne_nil _ (List.cons_ne_nil _ _)
  · intro _
    exact Attempt.Owes.call rfl rfl

theorem Tracks.call {event : AwaitEvent} (h : Tracks p s)
    (hconsistent : s.Consistent) (haimed : p.StateAimed s) (hordered : Ordered s)
    (hlooping : Looping s)
    (hanswers : Answers s (OnlineLabel.call n event))
    (hturn : InTurn s (OnlineLabel.call n event))
    (hnext : s.next (OnlineLabel.call n event) = some t) : Tracks p t := by
  rcases OnlineState.call_step hnext with ⟨attempt, after, hattempt, hstep, rfl⟩
  have hmine := haimed.attempts n attempt hattempt
  have hstageAimed := hmine.stage
  have hquiet := hstep.quiet_or
  -- most steps only move between stages without an object
  have hidle : forall {scope : Scope P} {stage : PublishStage},
      scope.homeserver = s.homeserver ->
      (QuietCall
          { core := s.core, homeserver := s.homeserver, attempt := attempt }
          scope ∨ exists request, GoesOnline n
            { core := s.core, homeserver := s.homeserver, attempt := attempt }
            scope request) ->
      attempt.stage = stage -> (forall request,
        stage ≠ PublishStage.putting request) ->
      (forall request, stage = PublishStage.deleting request ->
        request.taken = true) -> stage.Unwritten ->
      scope.attempt.stage.Unwritten ->
      scope.attempt.log.published = attempt.log.published ->
      Tracks p ({ s with
        core := scope.core
        homeserver := scope.homeserver }.setAttempt n scope.attempt) := by
    intro scope stage hhomeserver hquiet hstage hnot hdeleting hbefore hafter hlog
    subst hstage
    rcases hquiet with hkept | ⟨request, honline⟩
    · refine h.carry hattempt rfl rfl ?_ ?_ (carries_unwritten hbefore hafter hlog
        (owes_kept hkept.renewal hdeleting))
      · change scope.homeserver p.account p.path = _
        rw [hhomeserver]
        rfl
      · intro m other _
        exact latest_congr hkept.client hkept.currentRecord other m
    · exact absurd honline.stage (hnot request)
  have hlatest := latest_update (s := s) (n := n)
    (t := { s with
      core := after.core
      homeserver := after.homeserver }.setAttempt n after.attempt) rfl
  cases hstep with
  | bindFailed hstage => exact hidle rfl hquiet hstage nofun nofun trivial trivial rfl
  | expired hstage _ => exact hidle rfl hquiet hstage nofun nofun trivial trivial rfl
  | bound hstage _ => exact hidle rfl hquiet hstage nofun nofun trivial trivial rfl
  | unrecorded hstage hput =>
      rcases Attempt.nextPut_register hput with ⟨active, rfl⟩
      exact hidle rfl hquiet hstage nofun nofun trivial trivial rfl
  | recorded hstage hput =>
      have hnew := (Attempt.nextPut_some hput).left
      rcases Attempt.nextPut_register hput with ⟨active, rfl⟩
      exact hidle rfl hquiet hstage nofun nofun trivial hnew rfl
  | @put request hstage hnew =>
      rw [hstage] at hstageAimed
      refine Tracks.put (n := n) request.record hturn ?_ ?_ ?_
      · exact object_write hmine.session hstageAimed.path _
      · exact hlatest.trans rfl
      · intro m hne hwritten
        exact (writtenBy_update rfl m hne).mp hwritten
  | rejected hstage =>
      rcases hanswers with ⟨hfalse, _⟩
      cases hfalse
  | @published request hstage htaken =>
      rw [hstage] at hstageAimed
      have hbefore := Attempt.latest_putting hstage htaken s.core n
      by_cases hepoch : s.core.epoch = attempt.epoch
      · have hoffline : attempt.stage ≠ PublishStage.online := by
          rw [hstage]
          nofun
        have hempty := hordered.empty hattempt hoffline hepoch
        rw [Scope.goOnline_eq hepoch]
        refine h.carry hattempt rfl rfl rfl ?_ ⟨?_, ?_, ?_, ?_⟩
        · intro m other hne
          refine latest_others ?_ ?_ other
          · rw [hempty]
            nofun
          · intro heq
            cases heq
            exact hne rfl
        · intro record hrecord
          rw [hbefore] at hrecord
          left
          rw [Attempt.latest_online rfl rfl]
          exact hrecord
        · intro record hrecord
          rw [Attempt.latest_online rfl rfl] at hrecord
          rw [hbefore]
          exact hrecord
        · exact ⟨fun _ => Or.inl ⟨request, hstage, htaken⟩,
            fun _ => Or.inr (Or.inl rfl)⟩
        · intro howes
          have hidle := (hlooping n attempt hattempt).resolve_left hoffline
          cases howes with
          | call hdeleting _ => cases hstage.symm.trans hdeleting
          | failing hclosing => cases hidle.symm.trans hclosing
          | loop hdeleting _ => cases hidle.symm.trans hdeleting
      · have hne : ¬ s.core.epoch =
            (attempt.logPublished request.record).epoch := hepoch
        unfold Scope.goOnline
        dsimp only
        rw [if_neg hne]
        exact h.carry hattempt rfl rfl rfl (fun _ _ _ => rfl)
          (carries_overtaken hmine.session hstageAimed.record hstage htaken rfl)
  | closed hstage => exact hidle rfl hquiet hstage nofun nofun trivial trivial rfl
  | @deleted request hstage hnew =>
      rw [hstage] at hstageAimed
      refine Tracks.delete (n := n) hturn ?_ ?_ ?_ ?_
      · exact object_write hmine.session hstageAimed.path _
      · refine ⟨_, Function.update_self _ _ _, Or.inr (Or.inr ?_)⟩
        have hshape := (hconsistent.coherent n attempt hattempt).shape
        rw [hstage] at hshape
        change attempt.log.published ≠ []
        rw [hshape.right.right.left]
        exact List.cons_ne_nil _ _
      · exact hlatest.trans rfl
      · intro m hne hwritten
        exact (writtenBy_update rfl m hne).mp hwritten
  | @settled request accepted hstage =>
      have htaken := hanswers.right attempt request hattempt hstage
      refine hidle rfl hquiet hstage nofun ?_ trivial trivial ?_
      · intro other hother
        cases hother
        exact htaken
      · change (attempt.logDeletion request.record request.taken).log.published = _
        unfold Attempt.logDeletion
        rw [htaken]
        rfl
  | left hstage => exact hidle rfl hquiet hstage nofun nofun trivial trivial rfl

theorem latest_other (hstage : attempt.stage = PublishStage.online)
    {core : CoreState P} (hclient : core.client ≠ some n) :
    attempt.latest core n = none := by
  unfold Attempt.latest
  rw [hstage]
  exact if_neg hclient

theorem running_owes (hstage : attempt.stage = PublishStage.online)
    (hrunning : attempt.renewal.Running) : ¬ attempt.Owes := by
  intro howes
  cases howes with
  | call hdeleting _ => cases hstage.symm.trans hdeleting
  | failing hclosing =>
      rw [hclosing] at hrunning
      exact hrunning
  | loop hdeleting _ =>
      rw [hdeleting] at hrunning
      exact hrunning

theorem written_online (hstage : attempt.stage = PublishStage.online)
    (hsame : after.stage = attempt.stage) : after.Written <-> attempt.Written :=
  ⟨fun _ => Or.inr (Or.inl hstage),
    fun _ => Or.inr (Or.inl (hsame.trans hstage))⟩

theorem carries_running {core coreAfter : CoreState P}
    (hstage : attempt.stage = PublishStage.online)
    (hrunning : attempt.renewal.Running) (hclient : core.client = some n)
    (hsame : after.stage = attempt.stage) (hafter : coreAfter.client = some n)
    (hheld : after.renewal.held coreAfter.currentRecord =
      attempt.renewal.held core.currentRecord) :
    Carries n core coreAfter attempt after := by
  have hlatest : after.latest coreAfter n = attempt.latest core n := by
    rw [Attempt.latest_online hstage hclient,
      Attempt.latest_online (hsame.trans hstage) hafter]
    exact hheld
  constructor
  · intro record hrecord
    exact Or.inl (hlatest.trans hrecord)
  · intro record hrecord
    exact hlatest.symm.trans hrecord
  · exact written_online hstage hsame
  · intro howes
    exact absurd howes (running_owes hstage hrunning)

theorem carries_ended {core : CoreState P}
    (hstage : attempt.stage = PublishStage.online) (hclient : core.client ≠ some n)
    (hsame : after.stage = attempt.stage) (howes : attempt.Owes -> after.Owes) :
    Carries n core core attempt after where
  latest record hrecord := by
    rw [latest_other hstage hclient] at hrecord
    cases hrecord
  new record hrecord := by
    rw [latest_other (hsame.trans hstage) hclient] at hrecord
    cases hrecord
  written := written_online hstage hsame
  owes := howes

/-- A failing loop takes the record of the core, and is going to delete it. -/
theorem carries_fail {core coreAfter : CoreState P} {record : V1DeviceRecord}
    (hstage : attempt.stage = PublishStage.online)
    (hrecord : core.currentRecord = some record)
    (hsame : after.stage = attempt.stage) (hafter : coreAfter.client = none)
    (hclosing : after.renewal = RenewalStage.closing core.currentRecord) :
    Carries n core coreAfter attempt after := by
  have howes : after.Owes := by
    rw [hrecord] at hclosing
    exact Attempt.Owes.failing hclosing
  have hempty : coreAfter.client ≠ some n := by
    rw [hafter]
    nofun
  constructor
  · intro _ _
    exact Or.inr howes
  · intro found hfound
    rw [latest_other (hsame.trans hstage) hempty] at hfound
    cases hfound
  · exact written_online hstage hsame
  · intro _
    exact howes

theorem Tracks.renewal {event : AwaitEvent} (h : Tracks p s)
    (haimed : p.StateAimed s) (hordered : Ordered s) (hlooping : Looping s)
    (hanswers : Answers s (OnlineLabel.renewal n event))
    (hturn : InTurn s (OnlineLabel.renewal n event))
    (hnext : s.next (OnlineLabel.renewal n event) = some t) : Tracks p t := by
  rcases OnlineState.renewal_step hnext with
    ⟨attempt, after, hattempt, hstep, rfl⟩
  have hmine := haimed.attempts n attempt hattempt
  have hrenewalAimed := hmine.renewal
  have hstage := (hlooping n attempt hattempt).resolve_right hstep.looping
  have hactive : attempt.renewal.Running -> s.core.client = some n ∧
      s.core.epoch = attempt.epoch := hordered.active hattempt
  have hended : ¬ attempt.renewal.Running -> s.core.client ≠ some n := by
    intro hnot hclient
    rcases (hordered.client n hclient).online with ⟨other, _, hother, _, _, hruns, _⟩
    rw [hattempt] at hother
    cases hother
    exact hnot hruns
  have hlatest := latest_update (s := s) (n := n)
    (t := { s with
      core := after.core
      homeserver := after.homeserver }.setAttempt n after.attempt) rfl
  -- the two ways in which a step that writes nothing goes on
  have hruns : forall {other : Attempt P}, attempt.renewal.Running ->
      other.stage = attempt.stage ->
      other.renewal.held s.core.currentRecord =
        attempt.renewal.held s.core.currentRecord ->
      Tracks p (s.setAttempt n other) := by
    intro other hrunning hsame hheld
    have hclient := (hactive hrunning).left
    exact h.carry hattempt rfl rfl rfl (fun _ _ _ => rfl)
      (carries_running hstage hrunning hclient hsame hclient hheld)
  have hends : forall {other : Attempt P}, ¬ attempt.renewal.Running ->
      other.stage = attempt.stage -> (attempt.Owes -> other.Owes) ->
      Tracks p (s.setAttempt n other) := by
    intro other hnot hsame howes
    exact h.carry hattempt rfl rfl rfl (fun _ _ _ => rfl)
      (carries_ended hstage (hended hnot) hsame howes)
  have hfail : forall other : Attempt P, attempt.renewal.Running ->
      other.stage = attempt.stage -> other.epoch = attempt.epoch ->
      forall {scope : Scope P}, scope = Scope.failOnlineEndpoint
        { core := s.core, homeserver := s.homeserver, attempt := other } ->
      Tracks p ({ s with
        core := scope.core
        homeserver := scope.homeserver }.setAttempt n scope.attempt) := by
    intro other hrunning hsame hepoch scope hscope
    rcases hactive hrunning with ⟨hclient, hcore⟩
    have heq : s.core.epoch = other.epoch := hcore.trans hepoch.symm
    unfold Scope.failOnlineEndpoint at hscope
    rw [if_pos heq] at hscope
    subst hscope
    rcases (hordered.client n hclient).online with
      ⟨found, record, _, _, _, _, hrecord, _⟩
    refine h.carry hattempt rfl rfl rfl ?_
      (carries_fail hstage hrecord hsame rfl rfl)
    intro m found hne
    refine latest_others ?_ ?_ found
    · rw [hclient]
      intro heq
      cases heq
      exact hne rfl
    · intro heq
      cases heq
  cases hstep with
  | ended hrenewal hinactive =>
      have hrunning : attempt.renewal.Running := hrenewal ▸ trivial
      rcases hactive hrunning with ⟨hclient, hepoch⟩
      exact absurd ⟨hepoch, Option.isSome_iff_exists.mpr ⟨n, hclient⟩⟩ hinactive
  | expired hrenewal _ =>
      exact hfail attempt (hrenewal ▸ trivial) rfl rfl rfl
  | woken hrenewal _ =>
      have hrunning : attempt.renewal.Running := hrenewal ▸ trivial
      refine hruns hrunning rfl ?_
      rw [hrenewal]
      rfl
  | unrecorded hrenewal hput =>
      rcases Attempt.nextPut_register hput with ⟨active, rfl⟩
      exact hfail (attempt.register active) (hrenewal ▸ trivial) rfl rfl rfl
  | @recorded answer lifetimeSeconds signedAt verifiedAt other request hrenewal
      hput =>
      have hnew := (Attempt.nextPut_some hput).left
      have hrunning : attempt.renewal.Running := hrenewal ▸ trivial
      rcases Attempt.nextPut_register hput with ⟨active, rfl⟩
      refine hruns hrunning rfl ?_
      rw [hrenewal]
      exact if_neg (Bool.eq_false_iff.mp hnew)
  | @put request hrenewal hnew =>
      have hrunning : attempt.renewal.Running := hrenewal ▸ trivial
      rw [hrenewal] at hrenewalAimed
      refine Tracks.put (n := n) request.record hturn ?_ ?_ ?_
      · exact object_write hmine.session hrenewalAimed.path _
      · have honline : (attempt.renewTo
            (RenewalStage.putting request.carriedOut)).stage =
              PublishStage.online := hstage
        exact hlatest.trans (Attempt.latest_online honline
          (hactive hrunning).left)
      · intro m hne hwritten
        exact (writtenBy_update rfl m hne).mp hwritten
  | rejected hrenewal =>
      rcases hanswers with ⟨hfalse, _⟩
      cases hfalse
  | @renewed request hrenewal htaken hactive' =>
      have hrunning : attempt.renewal.Running := hrenewal ▸ trivial
      have hclient := (hactive hrunning).left
      refine h.carry hattempt rfl rfl rfl ?_
        (carries_running hstage hrunning hclient rfl hclient ?_)
      · intro m other hne
        have hother : s.core.client ≠ some m := by
          rw [hclient]
          intro heq
          cases heq
          exact hne rfl
        refine latest_others ?_ ?_ other
        · exact hother
        · exact hother
      · rw [hrenewal]
        exact (if_pos htaken).symm
  | overtaken hrenewal hinactive =>
      have hrunning : attempt.renewal.Running := hrenewal ▸ trivial
      rcases hactive hrunning with ⟨hclient, hepoch⟩
      exact absurd ⟨hepoch, Option.isSome_iff_exists.mpr ⟨n, hclient⟩⟩ hinactive
  | closedEmpty hrenewal =>
      have hnot : ¬ attempt.renewal.Running := fun hrunning => by
        rw [hrenewal] at hrunning
        exact hrunning
      refine hends hnot rfl ?_
      intro howes
      cases howes with
      | call hdeleting hnew => exact Attempt.Owes.call hdeleting hnew
      | failing hclosing => cases hrenewal.symm.trans hclosing
      | loop hdeleting _ => cases hrenewal.symm.trans hdeleting
  | @closed record hrenewal =>
      have hnot : ¬ attempt.renewal.Running := fun hrunning => by
        rw [hrenewal] at hrunning
        exact hrunning
      rw [hrenewal] at hrenewalAimed
      have hdelete : attempt.close.deletion record =
          some { path := p.path, record := record, taken := false } :=
        Publisher.deletion_of_deletable hmine.session hrenewalAimed
      unfold Scope.renewalDelete
      simp only [hdelete]
      exact hends hnot rfl (fun _ => Attempt.Owes.loop rfl rfl)
  | @deleted request hrenewal hnew =>
      have hnot : ¬ attempt.renewal.Running := fun hrunning => by
        rw [hrenewal] at hrunning
        exact hrunning
      rw [hrenewal] at hrenewalAimed
      refine Tracks.delete (n := n) hturn ?_ ?_ ?_ ?_
      · exact object_write hmine.session hrenewalAimed.path _
      · exact ⟨_, Function.update_self _ _ _, Or.inr (Or.inl hstage)⟩
      · have honline : (attempt.renewTo
            (RenewalStage.deleting request.carriedOut)).stage =
              PublishStage.online := hstage
        exact hlatest.trans (latest_other honline (hended hnot))
      · intro m hne hwritten
        exact (writtenBy_update rfl m hne).mp hwritten
  | @settled request accepted hrenewal =>
      have htaken := hanswers.right attempt request hattempt hrenewal
      have hnot : ¬ attempt.renewal.Running := fun hrunning => by
        rw [hrenewal] at hrunning
        exact hrunning
      refine hends hnot rfl ?_
      intro howes
      cases howes with
      | call hdeleting hnew => exact Attempt.Owes.call hdeleting hnew
      | failing hclosing => cases hrenewal.symm.trans hclosing
      | loop hdeleting hnew =>
          cases hrenewal.symm.trans hdeleting
          rw [htaken] at hnew
          cases hnew

/-!
# Shutdowns
-/

/-- The debts of other shutdowns stay when one of them changes. -/
theorem owes_shutdowns {k : Nat} {shutdown : Shutdown P}
    (hshutdowns : t.shutdowns = Function.update s.shutdowns k (some shutdown))
    (hattempts : forall m found, s.attempts m = some found -> found.Owes ->
      exists other, t.attempts m = some other ∧ other.Owes)
    (hmine : forall m found, s.shutdowns k = some found ->
      found.client = some m -> found.Owes -> t.Owes m) (m : Nat)
    (howes : s.Owes m) : t.Owes m := by
  cases howes with
  | attempt hfound howes =>
      rcases hattempts m _ hfound howes with ⟨other, hother, howes⟩
      exact OnlineState.Owes.attempt hother howes
  | @shutdown j found hfound hclient howes =>
      by_cases heq : j = k
      · subst heq
        exact hmine m found hfound hclient howes
      · have hkept : t.shutdowns j = some found := by
          rw [hshutdowns, Function.update_of_ne heq]
          exact hfound
        exact OnlineState.Owes.shutdown hkept hclient howes

theorem abort_homeserver (s : OnlineState P) (handle : Option Nat) :
    (s.abort handle).homeserver = s.homeserver := by
  unfold OnlineState.abort
  split
  · rfl
  · rfl

theorem closeClient_homeserver (s : OnlineState P) (client : Option Nat) :
    (s.closeClient client).homeserver = s.homeserver := by
  unfold OnlineState.closeClient
  split
  · rfl
  · rfl

/-- Disconnecting leaves the object to the shutdown that it starts. -/
theorem Tracks.disconnect (h : Tracks p s) (hordered : Ordered s)
    (hstopping : Stopping s) : Tracks p s.disconnect := by
  have habort := abort_client hordered
  have hkept := s.abort_kept s.core.renewalAbort
  have hobject : p.object s.disconnect = p.object s :=
    congrArg (fun homeserver => homeserver p.account p.path)
      (abort_homeserver s s.core.renewalAbort)
  have hshutdowns : s.disconnect.shutdowns =
      Function.update s.shutdowns s.stopped (some
        { client := s.core.client
          record := s.core.currentRecord
          session := s.core.signedIn.session
          stage := ShutdownStage.closing }) := by
    change Function.update (s.abort s.core.renewalAbort).shutdowns _ _ = _
    rw [hkept.right]
  have hunstopped : forall m found, s.shutdowns s.stopped = some found ->
      found.client = some m -> found.Owes -> s.disconnect.Owes m := by
    intro m found hfound
    rw [hstopping.unstopped s.stopped (Nat.le_refl _)] at hfound
    cases hfound
  have hempty : forall m, s.disconnect.core.client ≠ some m := by
    intro m heq
    cases heq
  cases hclient : s.core.client with
  | none =>
      have hattempts : s.disconnect.attempts = s.attempts := habort.right hclient
      have hlatest : forall m, s.disconnect.latest m = s.latest m := by
        intro m
        unfold OnlineState.latest
        rw [hattempts]
        refine congrArg (Option.bind (s.attempts m)) (funext fun other => ?_)
        refine latest_others ?_ (hempty m) other
        rw [hclient]
        nofun
      refine h.quiet hobject ?_ ?_ ?_ ?_
      · intro m
        unfold OnlineState.WrittenBy
        rw [hattempts]
      · intro m record hrecord
        exact Or.inl ((hlatest m).trans hrecord)
      · intro m record hrecord
        exact (hlatest m).symm.trans hrecord
      · refine owes_shutdowns hshutdowns ?_ hunstopped
        intro m found hfound howes
        rw [hattempts]
        exact ⟨found, hfound, howes⟩
  | some n =>
      rcases (hordered.client n hclient).online with
        ⟨attempt, record, hattempt, hstage, _, hrunning, _⟩
      have hattempts : s.disconnect.attempts = Function.update s.attempts n
          (some (attempt.renewTo RenewalStage.done)) :=
        habort.left n attempt hclient hattempt
      have hself : s.disconnect.attempts n =
          some (attempt.renewTo RenewalStage.done) := by
        rw [hattempts]
        exact Function.update_self _ _ _
      have hnone : s.disconnect.latest n = none := by
        have honline : (attempt.renewTo RenewalStage.done).stage =
          PublishStage.online := hstage
        exact (latest_update hattempts).trans (latest_other honline (hempty n))
      have hother : forall m, m ≠ n -> s.disconnect.latest m = s.latest m := by
        intro m hne
        unfold OnlineState.latest
        rw [hattempts, Function.update_of_ne hne]
        refine congrArg (Option.bind (s.attempts m)) (funext fun other => ?_)
        refine latest_others ?_ (hempty m) other
        rw [hclient]
        intro heq
        cases heq
        exact hne rfl
      refine h.quiet hobject ?_ ?_ ?_ ?_
      · intro m
        by_cases heq : m = n
        · subst heq
          exact ⟨fun _ => ⟨attempt, hattempt, Or.inr (Or.inl hstage)⟩,
            fun _ => ⟨_, hself, Or.inr (Or.inl hstage)⟩⟩
        · exact writtenBy_update hattempts m heq
      · intro m found hfound
        by_cases heq : m = n
        · subst heq
          right
          have hstopped := congrFun hshutdowns s.stopped
          rw [Function.update_self] at hstopped
          exact OnlineState.Owes.shutdown hstopped hclient
            (Shutdown.Owes.closing rfl)
        · exact Or.inl ((hother m heq).trans hfound)
      · intro m found hfound
        by_cases heq : m = n
        · subst heq
          rw [hnone] at hfound
          cases hfound
        · exact (hother m heq).symm.trans hfound
      · refine owes_shutdowns hshutdowns ?_ hunstopped
        intro m found hfound howes
        by_cases heq : m = n
        · subst heq
          rw [hattempt] at hfound
          cases hfound
          exact absurd howes (running_owes hstage hrunning)
        · refine ⟨found, ?_, howes⟩
          rw [hattempts, Function.update_of_ne heq]
          exact hfound

theorem closeClient_tracks (s : OnlineState P) (client : Option Nat) (m : Nat) :
    (s.closeClient client).latest m = s.latest m ∧
      ((s.closeClient client).WrittenBy m <-> s.WrittenBy m) ∧
      (forall found, s.attempts m = some found -> found.Owes -> exists other,
        (s.closeClient client).attempts m = some other ∧ other.Owes) := by
  have hcore := (s.closeClient_kept client).left
  unfold OnlineState.latest OnlineState.WrittenBy
  rw [hcore]
  rcases closeClient_close s client m with hsame | hclosed
  · rw [hsame]
    exact ⟨rfl, Iff.rfl, fun found hfound howes => ⟨found, hfound, howes⟩⟩
  · rw [hclosed]
    cases hattempt : s.attempts m with
    | none =>
        refine ⟨rfl, Iff.rfl, ?_⟩
        intro found hfound
        cases hfound
    | some attempt =>
        refine ⟨rfl, ?_, ?_⟩
        · constructor
          · rintro ⟨found, hfound, hwritten⟩
            cases hfound
            exact ⟨attempt, rfl, hwritten⟩
          · rintro ⟨found, hfound, hwritten⟩
            cases hfound
            exact ⟨attempt.close, rfl, hwritten⟩
        · intro found hfound howes
          cases hfound
          refine ⟨attempt.close, rfl, ?_⟩
          cases howes with
          | call hstage hnew => exact Attempt.Owes.call hstage hnew
          | failing hrenewal => exact Attempt.Owes.failing hrenewal
          | loop hrenewal hnew => exact Attempt.Owes.loop hrenewal hnew

/-- A shutdown of a client goes on to delete its record. -/
theorem deletion_complete {shutdown : Shutdown P} (haimed : p.ShutdownAimed shutdown)
    (hcomplete : shutdown.Complete) {m : Nat} (hclient : shutdown.client = some m) :
    exists record, shutdown.deletion = ShutdownStage.deleting
      { path := p.path, record := record, taken := false } := by
  rcases hcomplete.client m hclient with ⟨hrecord, hsession⟩
  rw [Option.ne_none_iff_exists'] at hrecord hsession
  rcases hrecord with ⟨record, hrecord⟩
  rcases hsession with ⟨session, hsession⟩
  refine ⟨record, ?_⟩
  have hdelete : deleteV1DeviceRecord P session record = Except.ok p.path := by
    rw [haimed.session session hsession]
    exact haimed.record record hrecord
  unfold Shutdown.deletion
  simp only [hrecord, hsession, hdelete]

theorem Tracks.shut {k : Nat} {event : AwaitEvent} (h : Tracks p s)
    (haimed : p.StateAimed s) (hordered : Ordered s) (hstopping : Stopping s)
    (hanswers : Answers s (OnlineLabel.shutdown k event))
    (hturn : InTurn s (OnlineLabel.shutdown k event))
    (hnext : s.next (OnlineLabel.shutdown k event) = some t) : Tracks p t := by
  rcases OnlineState.shutdown_step hnext with ⟨shutdown, hshutdown, hstep⟩
  have hmine := haimed.shutdowns k shutdown hshutdown
  have hcomplete := hstopping.complete k shutdown hshutdown
  cases hstep with
  | closed hstage =>
      have hkept := s.closeClient_kept shutdown.client
      have hclosed := closeClient_tracks s shutdown.client
      have hshutdowns : ((s.closeClient shutdown.client).setShutdown k
          { shutdown with stage := shutdown.deletion }).shutdowns =
            Function.update s.shutdowns k
              (some { shutdown with stage := shutdown.deletion }) := by
        change Function.update (s.closeClient shutdown.client).shutdowns k _ = _
        rw [hkept.right.right]
      have hdeleting := congrFun hshutdowns k
      rw [Function.update_self] at hdeleting
      refine h.quiet ?_ (fun m => (hclosed m).right.left) ?_ ?_ ?_
      · exact congrArg (fun homeserver => homeserver p.account p.path)
          (closeClient_homeserver s shutdown.client)
      · intro m record hrecord
        exact Or.inl ((hclosed m).left.trans hrecord)
      · intro m record hrecord
        exact (hclosed m).left.symm.trans hrecord
      · refine owes_shutdowns hshutdowns (fun m => (hclosed m).right.right) ?_
        intro m found hfound hclient _
        rw [hshutdown] at hfound
        cases hfound
        rcases deletion_complete hmine hcomplete hclient with ⟨record, hdeletion⟩
        exact OnlineState.Owes.shutdown hdeleting hclient
          (Shutdown.Owes.deleting hdeletion rfl)
  | @deleted request session hstage hsession hnew =>
      have hrequest := hmine.stage request hstage
      rcases Option.ne_none_iff_exists'.mp (hcomplete.stage request hstage) with
        ⟨n, hclient⟩
      rcases hordered.shutdowns k shutdown n hshutdown hclient with
        ⟨attempt, hattempt, honline, hdone⟩
      have hempty : s.core.client ≠ some n := by
        intro heq
        rcases (hordered.client n heq).online with ⟨other, _, hother, _, _, hruns, _⟩
        rw [hattempt] at hother
        cases hother
        rw [hdone] at hruns
        exact hruns
      refine Tracks.delete (n := n) (hturn shutdown n hshutdown hclient) ?_ ?_ ?_ ?_
      · exact object_write (hmine.session session hsession) hrequest.path _
      · exact ⟨attempt, hattempt, Or.inr (Or.inl honline)⟩
      · exact (latest_eq hattempt).trans (latest_other honline hempty)
      · exact fun m _ hwritten => hwritten
  | @settled request accepted hstage =>
      have htaken := hanswers.right shutdown request hshutdown hstage
      refine h.quiet rfl (fun _ => Iff.rfl) (fun m record => Or.inl)
        (fun _ _ hrecord => hrecord) ?_
      refine owes_shutdowns rfl (fun m found hfound howes =>
        ⟨found, hfound, howes⟩) ?_
      intro m found hfound _ howes
      rw [hshutdown] at hfound
      cases hfound
      cases howes with
      | closing hclosing => cases hstage.symm.trans hclosing
      | deleting hdeleting hnew =>
          cases hstage.symm.trans hdeleting
          rw [htaken] at hnew
          cases hnew

theorem Tracks.start (h : Tracks p s) (hnone : s.attempts n = none)
    (hattempts : t.attempts = Function.update s.attempts n (some after))
    (hafter : after.stage.Unwritten) (hlog : after.log.published = [])
    (hshutdowns : t.shutdowns = s.shutdowns) (hobject : p.object t = p.object s)
    (hothers : forall m (other : Attempt P),
      other.latest t.core m = other.latest s.core m) : Tracks p t := by
  have hkept : forall m, m ≠ n -> t.attempts m = s.attempts m := by
    intro m hne
    rw [hattempts]
    exact Function.update_of_ne hne _ _
  have hlatest : forall m, m ≠ n -> t.latest m = s.latest m := by
    intro m hne
    unfold OnlineState.latest
    rw [hkept m hne]
    exact congrArg (Option.bind (s.attempts m))
      (funext fun other => hothers m other)
  have hnew : t.latest n = none :=
    (latest_update hattempts).trans (latest_unwritten hafter t.core n)
  refine h.quiet hobject ?_ ?_ ?_ ?_
  · intro m
    by_cases heq : m = n
    · subst heq
      constructor
      · rintro ⟨found, hfound, hwritten⟩
        rw [hattempts, Function.update_self] at hfound
        cases hfound
        exact absurd hlog ((written_unwritten hafter).mp hwritten)
      · rintro ⟨found, hfound, _⟩
        rw [hnone] at hfound
        cases hfound
    · exact writtenBy_update hattempts m heq
  · intro m record hrecord
    have hne : m ≠ n := by
      rintro rfl
      unfold OnlineState.latest at hrecord
      rw [hnone] at hrecord
      cases hrecord
    exact Or.inl ((hlatest m hne).trans hrecord)
  · intro m record hrecord
    by_cases heq : m = n
    · subst heq
      rw [hnew] at hrecord
      cases hrecord
    · exact (hlatest m heq).symm.trans hrecord
  · intro m howes
    cases howes with
    | @attempt found hfound howes =>
        have hne : m ≠ n := by
          rintro rfl
          rw [hnone] at hfound
          cases hfound
        exact OnlineState.Owes.attempt ((hkept m hne).trans hfound) howes
    | shutdown hshutdown hclient howes =>
        rw [← hshutdowns] at hshutdown
        exact OnlineState.Owes.shutdown hshutdown hclient howes

variable (p) in
/--
Signing in leaves the device alone, epochs do not wrap, and the homeserver carries
out every write, in turn.
-/
structure InOrder (s : OnlineState P) (label : OnlineLabel P) : Prop where
  device : p.SameDevice label
  epoch : FreshEpoch s
  answers : Answers s label
  turn : InTurn s label

theorem Tracks.next {label : OnlineLabel P} (h : Tracks p s)
    (hconsistent : s.Consistent) (haimed : p.StateAimed s) (hordered : Ordered s)
    (hlooping : Looping s) (hstopping : Stopping s) (hallowed : InOrder p s label)
    (hnext : s.next label = some t) : Tracks p t := by
  cases label with
  | signedIn fields =>
      cases hnext
      refine h.quiet rfl (fun _ => Iff.rfl) (fun m record => Or.inl)
        (fun m record hrecord => hrecord) ?_
      intro m howes
      cases howes with
      | attempt hattempt howes => exact OnlineState.Owes.attempt hattempt howes
      | shutdown hshutdown hclient howes =>
          exact OnlineState.Owes.shutdown hshutdown hclient howes
  | publish relays allowLoopback =>
      rcases OnlineState.publish_step hnext with ⟨device, session, _, _, _, rfl⟩
      exact h.start (hordered.unstarted s.started (Nat.le_refl _)) rfl trivial rfl
        rfl rfl (fun m other => latest_congr rfl rfl other m)
  | call n event =>
      exact h.call hconsistent haimed hordered hlooping hallowed.answers
        hallowed.turn hnext
  | renewal n event =>
      exact h.renewal haimed hordered hlooping hallowed.answers hallowed.turn hnext
  | disconnect =>
      cases hnext
      exact h.disconnect hordered hstopping
  | shutdown k event =>
      exact h.shut haimed hordered hstopping hallowed.answers hallowed.turn hnext
  | late i => exact hallowed.turn.elim

end Attempts

/-!
# Nothing pending
-/

/-- No flow awaits anything but the sleep of a renewal loop. -/
structure Quiescent (s : OnlineState P) : Prop where
  calls : forall n attempt, s.attempts n = some attempt ->
    attempt.stage = PublishStage.online ∨
      exists code, attempt.stage = PublishStage.failed code
  loops : forall n attempt, s.attempts n = some attempt ->
    attempt.renewal = RenewalStage.idle ∨
      attempt.renewal = RenewalStage.sleeping ∨
      attempt.renewal = RenewalStage.done
  shutdowns : forall k shutdown, s.shutdowns k = some shutdown ->
    shutdown.stage = ShutdownStage.done

theorem Quiescent.settled {s : OnlineState P} (h : Quiescent s) (n : Nat) :
    ¬ s.Owes n := by
  intro howes
  cases howes with
  | @attempt attempt hattempt howes =>
      cases howes with
      | call hdeleting _ =>
          rcases h.calls n attempt hattempt with hstage | ⟨code, hstage⟩
          · cases hstage.symm.trans hdeleting
          · cases hstage.symm.trans hdeleting
      | failing hclosing =>
          rcases h.loops n attempt hattempt with hidle | hsleeping | hdone
          · cases hidle.symm.trans hclosing
          · cases hsleeping.symm.trans hclosing
          · cases hdone.symm.trans hclosing
      | loop hdeleting _ =>
          rcases h.loops n attempt hattempt with hidle | hsleeping | hdone
          · cases hidle.symm.trans hdeleting
          · cases hsleeping.symm.trans hdeleting
          · cases hdone.symm.trans hdeleting
  | @shutdown k shutdown hshutdown _ howes =>
      have hdone := h.shutdowns k shutdown hshutdown
      cases howes with
      | closing hclosing => cases hdone.symm.trans hclosing
      | deleting hdeleting _ => cases hdone.symm.trans hdeleting

/-- The object is the current record of the client, and of its epoch. -/
structure PublishedBy (p : Publisher P) (s : OnlineState P) (n : Nat) : Prop where
  current : exists attempt record, s.attempts n = some attempt ∧
    attempt.epoch = s.core.epoch ∧ s.core.currentRecord = some record ∧
    record ∈ attempt.log.published ++ attempt.log.renewed ∧
    p.object s = some record

/-- A core whose homeserver does not hold the object yet. -/
def deviceCore (p : Publisher P) : Machine (OnlineState P) (OnlineLabel P) where
  initial s := (onlineCore P).initial s ∧ p.object s = none
  next := OnlineState.next

/-- What holds of the calls of one device in every run in order. -/
structure Kept (p : Publisher P) (s : OnlineState P) : Prop where
  consistent : s.Consistent
  aimed : p.StateAimed s
  ordered : Ordered s
  looping : Looping s
  stopping : Stopping s
  tracks : Tracks p s

theorem Kept.next {p : Publisher P} {s t : OnlineState P} {label : OnlineLabel P}
    (h : Kept p s) (hallowed : InOrder p s label) (hnext : s.next label = some t) :
    Kept p t where
  consistent := h.consistent.next hnext
  aimed := h.aimed.next hallowed.device
    (fun i heq => by
      have hturn := hallowed.turn
      rw [heq] at hturn
      exact hturn) hnext
  ordered := h.ordered.next hallowed.epoch hnext
  looping := h.looping.next h.ordered hnext
  stopping := h.stopping.next h.ordered hallowed.device hnext
  tracks := h.tracks.next h.consistent h.aimed h.ordered h.looping h.stopping
    hallowed hnext

theorem kept_initial {p : Publisher P} {s : OnlineState P}
    (h : (deviceCore p).initial s) : Kept p s := by
  rcases h with ⟨hinitial, hobject⟩
  refine ⟨OnlineState.consistent_initial hinitial, ?_, ordered_initial hinitial,
    looping_initial hinitial, stopping_initial hinitial, ?_⟩
  · rcases hinitial with ⟨hcore, _, hattempts, _, hshutdowns, _⟩
    constructor
    · rw [hcore]
      exact nofun
    · rw [hcore]
      exact nofun
    · unfold Publisher.RecordAimed
      rw [hcore]
      exact nofun
    · intro n attempt hattempt
      rw [hattempts n] at hattempt
      cases hattempt
    · intro k shutdown hshutdown
      rw [hshutdowns k] at hshutdown
      cases hshutdown
  · rcases hinitial with ⟨_, _, hattempts, _, _, _⟩
    constructor
    · intro record hrecord
      rw [hobject] at hrecord
      cases hrecord
    · intro n record hrecord
      unfold OnlineState.latest at hrecord
      rw [hattempts n] at hrecord
      cases hrecord

theorem kept_of_reachable {p : Publisher P} {s : OnlineState P}
    (h : (deviceCore p).ReachableWhen (InOrder p) s) : Kept p s :=
  h.invariant (fun _ => kept_initial)
    (fun _ _ _ hkept hallowed hnext => hkept.next hallowed hnext)

theorem Kept.published {p : Publisher P} {s : OnlineState P} (h : Kept p s)
    (hquiescent : Quiescent s) : (s.core.client = none -> p.object s = none) ∧
      forall n, s.core.client = some n -> PublishedBy p s n := by
  constructor
  · intro hempty
    cases hobject : p.object s with
    | none => rfl
    | some record =>
        rcases h.tracks.owned record hobject with ⟨n, hlatest | howes, _⟩
        · unfold OnlineState.latest at hlatest
          rw [Option.bind_eq_some_iff] at hlatest
          rcases hlatest with ⟨attempt, hattempt, hlatest⟩
          rcases hquiescent.calls n attempt hattempt with hstage | ⟨code, hstage⟩
          · have hnone : s.core.client ≠ some n := by
              rw [hempty]
              nofun
            rw [latest_other hstage hnone] at hlatest
            cases hlatest
          · rw [latest_unwritten (by rw [hstage]; trivial)] at hlatest
            cases hlatest
        · exact absurd howes (hquiescent.settled n)
  · intro n hclient
    rcases h.ordered.client n hclient with
      ⟨hnewest, attempt, record, hattempt, hstage, hepoch, hrunning, hrecord, hlog⟩
    have hlast : ¬ s.Overtaken n := by
      rintro ⟨m, hlt, other, hother, _⟩
      have hnone := h.ordered.unstarted m (by omega)
      rw [hnone] at hother
      cases hother
    have hheld : attempt.renewal.held s.core.currentRecord = some record := by
      rcases hquiescent.loops n attempt hattempt with hidle | hsleeping | hdone
      · rw [hidle]
        exact hrecord
      · rw [hsleeping]
        exact hrecord
      · rw [hdone]
        exact hrecord
    have hlatest : s.latest n = some record := by
      rw [latest_eq hattempt, Attempt.latest_online hstage hclient]
      exact hheld
    exact ⟨attempt, record, hattempt, hepoch, hrecord, hlog,
      h.tracks.latest n record hlatest hlast⟩

/--
Whenever nothing is pending, the homeserver holds the record of the device exactly
while the core has a client, and then it is the current record of that client.
-/
theorem published_while_online {p : Publisher P} {s : OnlineState P}
    (h : (deviceCore p).ReachableWhen (InOrder p) s) (hquiescent : Quiescent s) :
    (s.core.client = none -> p.object s = none) ∧
      forall n, s.core.client = some n -> PublishedBy p s n :=
  (kept_of_reachable h).published hquiescent

end Turns

/-!
# One device that goes online twice
-/

section Advance

variable {P : Primitives} {s : Scope P} {n : Nat} {request : Request}

theorem Scope.next_recorded {answer : ClientResult UInt64}
    {lifetimeSeconds signedAt verifiedAt : UInt64} {attempt : Attempt P}
    (hstage : s.attempt.stage = PublishStage.allocating lifetimeSeconds)
    (hput : s.attempt.nextPut answer lifetimeSeconds signedAt verifiedAt =
      (attempt, some request)) :
    s.next n (AwaitEvent.recorded answer signedAt verifiedAt) =
      some ({ s with attempt := attempt }.moveTo
        (PublishStage.putting request)) := by
  unfold Scope.next
  simp only [hstage, hput]

theorem Scope.next_put
    (hstage : s.attempt.stage = PublishStage.putting request)
    (hnew : request.taken = false) :
    s.next n AwaitEvent.taken =
      some ((s.write request.path (some request.record)).moveTo
        (PublishStage.putting request.carriedOut)) := by
  unfold Scope.next
  simp only [hstage, hnew, Bool.false_eq_true, if_false]

theorem Scope.next_published
    (hstage : s.attempt.stage = PublishStage.putting request)
    (htaken : request.taken = true) :
    s.next n (AwaitEvent.answered true) = some (s.goOnline n request.record) := by
  unfold Scope.next
  simp only [hstage, htaken, if_true]

theorem OnlineState.shut_taken {s : OnlineState P} {k : Nat}
    {shutdown : Shutdown P} {session : P.PublicKey}
    (hshutdown : s.shutdowns k = some shutdown)
    (hstage : shutdown.stage = ShutdownStage.deleting request)
    (hsession : shutdown.session = some session) (hnew : request.taken = false) :
    s.shut k AwaitEvent.taken =
      some ({ s with
        homeserver := s.homeserver.write session request.path none }.setShutdown k
          { shutdown with
            stage := ShutdownStage.deleting request.carriedOut }) := by
  unfold OnlineState.shut
  simp only [hshutdown, hstage, hsession, hnew, Bool.false_eq_true, if_false]

end Advance

namespace LaptopOnline

open Protocol.Reference
open Client.Sample (active currentRecord_eq)

abbrev relays : List Url := [DeviceKeys.relay]

def publisher : Publisher sample where
  device := laptop.credential
  account := keyOf 1
  path := laptop.path
  derived := laptop.record_path

def endpoint : Endpoint where
  client :=
    { credential := laptop.credential
      trustedRelays := relays
      instanceNonce := DeviceKeys.instanceNonce
      acceptedApplications := [application]
      allowInsecureLoopbackRelay := false
      resolverAllowsLoopback := false }
  active := []
  closed := false

def allocating (epoch : UInt64) : Attempt sample :=
  ((Attempt.start laptop.credential (keyOf 1) relays false epoch).bind
    DeviceKeys.instanceNonce 1000).moveTo (PublishStage.allocating 900)

theorem record_publish {keys : DeviceKeys}
    (hkeys : keys.credential = laptop.credential) :
    publishV1DeviceRecord sample (keyOf 1) keys.record 1000 false =
      Except.ok publisher.path := by
  have hverify : keys.record.verify sample (sample.z32 (keyOf 1)) 1000 false none =
      Except.ok () := keys.record_verify (by decide) (by decide)
  have hsize : ¬ (sample.jsonToVec keys.record.toJson).length >
      v1MaxDeviceRecordBytes := by
    rw [Primitives.Lawful.jsonToVec_length, Nat.not_lt]
    exact Nat.le_trans keys.record_size (by decide)
  have hcertificate : keys.record.certificate = laptop.credential.certificate :=
    congrArg V1DeviceCredential.certificate hkeys
  have hpath : keys.record.path sample = Except.ok publisher.path := by
    unfold V1DeviceRecord.path
    rw [hcertificate]
    exact publisher.derived
  unfold publishV1DeviceRecord
  simp only [bind_eq_ok, exists_unit, fromProtocol_eq_ok, rejectIf_eq_ok]
  exact ⟨hverify, hsize, hpath⟩

theorem allocating_nextPut {keys : DeviceKeys} (epoch : UInt64)
    (hkeys : keys.credential = laptop.credential) :
    exists registered,
      (allocating epoch).nextPut (Except.ok keys.sequence) 900 1000 1000 =
        ((allocating epoch).register registered,
          some
            { path := publisher.path
              record := keys.record
              taken := false }) := by
  refine ⟨active keys, ?_⟩
  have hmade : endpoint.nextRecord sample (Except.ok keys.sequence) 900 1000 =
      Except.ok ({ endpoint with active := active keys }, keys.record) := by
    have hcurrent := currentRecord_eq keys
    unfold Client.Sample.client at hcurrent
    rw [hkeys] at hcurrent
    have hown : currentRecord sample endpoint.client endpoint.active keys.sequence
        900 1000 = _ := hcurrent
    unfold Endpoint.nextRecord
    rw [ok_bind, hown]
    rfl
  exact Attempt.nextPut_eq rfl hmade (record_publish hkeys)

/-- The newest call of a core, with the core and the homeserver as they are. -/
def inCall (s : OnlineState sample) (core : CoreState sample)
    (homeserver : Homeserver sample) (attempt : Attempt sample) :
    OnlineState sample :=
  { s with
    core := core
    homeserver := homeserver
    started := s.started + 1
    attempts := Function.update s.attempts s.started (some attempt) }

section NewestCall

variable {s : OnlineState sample} {core : CoreState sample}
  {homeserver : Homeserver sample} {attempt : Attempt sample}
  {event : AwaitEvent} {after : Scope sample}

theorem inCall_attempts : (inCall s core homeserver attempt).attempts =
    Function.update s.attempts s.started (some attempt) :=
  rfl

theorem inCall_attempt :
    (inCall s core homeserver attempt).attempts s.started = some attempt := by
  rw [inCall_attempts, Function.update_self]

theorem inCall_next
    (h : Scope.next
      { core := core, homeserver := homeserver, attempt := attempt } s.started
        event = some after) :
    (inCall s core homeserver attempt).next (OnlineLabel.call s.started event) =
      some (inCall s after.core after.homeserver after.attempt) := by
  have hwithin : (inCall s core homeserver attempt).next
      (OnlineLabel.call s.started event) =
        (inCall s core homeserver attempt).within s.started
          (fun scope => scope.next s.started event) := rfl
  rw [hwithin]
  unfold OnlineState.within
  rw [inCall_attempt]
  change Option.map _ (Scope.next
    { core := core, homeserver := homeserver, attempt := attempt } s.started
      event) = _
  rw [h]
  unfold inCall OnlineState.setAttempt
  simp only [Option.map_some, Function.update_idem]

theorem inCall_inOrder (hunstarted : forall m, s.started ≤ m -> s.attempts m = none)
    (hepoch : core.epoch.toNat + 1 < 2 ^ 64)
    (hstage : forall request, attempt.stage ≠ PublishStage.deleting request)
    (haccepted : event ≠ AwaitEvent.answered false) :
    InOrder publisher (inCall s core homeserver attempt)
      (OnlineLabel.call s.started event) := by
  refine ⟨nofun, hepoch, ?_, ?_⟩
  · cases event with
    | answered accepted =>
        cases accepted with
        | true =>
            refine ⟨rfl, ?_⟩
            intro found request hfound hdeleting
            rw [inCall_attempt] at hfound
            cases hfound
            exact absurd hdeleting (hstage request)
        | false => exact absurd rfl haccepted
    | bindFailed => trivial
    | bound instanceNonce verifiedAt now => trivial
    | recorded answer signedAt verifiedAt => trivial
    | taken => trivial
    | closed => trivial
    | slept now => trivial
  · cases event with
    | taken =>
        rintro ⟨m, hlt, found, hfound, _⟩
        rw [inCall_attempts, Function.update_of_ne hlt.ne',
          hunstarted m hlt.le] at hfound
        cases hfound
    | bindFailed => trivial
    | bound instanceNonce verifiedAt now => trivial
    | recorded answer signedAt verifiedAt => trivial
    | answered accepted => trivial
    | closed => trivial
    | slept now => trivial

theorem inCall_step
    {allowed : OnlineState sample -> OnlineLabel sample -> Prop}
    (hallowed : forall t label, InOrder publisher t label -> allowed t label)
    (hunstarted : forall m, s.started ≤ m -> s.attempts m = none)
    (h : (deviceCore publisher).ReachableWhen allowed
      (inCall s core homeserver attempt))
    (hstep : Scope.next
      { core := core, homeserver := homeserver, attempt := attempt } s.started
        event = some after)
    (hepoch : core.epoch.toNat + 1 < 2 ^ 64)
    (hstage : forall request, attempt.stage ≠ PublishStage.deleting request)
    (haccepted : event ≠ AwaitEvent.answered false) :
    (deviceCore publisher).ReachableWhen allowed
      (inCall s after.core after.homeserver after.attempt) :=
  Machine.ReachableWhen.step h
    (hallowed _ _ (inCall_inOrder hunstarted hepoch hstage haccepted))
    (inCall_next hstep)

end NewestCall

/-- A core that has signed in with the device. -/
def signedIn : SignedIn sample where
  identityBusy := false
  pubky := true
  session := some (keyOf 1)
  sequenceStore := true
  device := some laptop.credential

theorem enter_signedIn {core : CoreState sample}
    (hsignedIn : core.signedIn = signedIn) (hfree : core.goingOnline = false)
    (hempty : core.client = none) :
    core.enter = Except.ok
      ({ core with goingOnline := true, epoch := core.epoch + 1 },
        laptop.credential, keyOf 1) := by
  cases core
  subst hsignedIn hfree hempty
  rfl

def onlineCoreState (core : CoreState sample) (n : Nat) (record : V1DeviceRecord) :
    CoreState sample :=
  { core with
    goingOnline := false
    epoch := core.epoch + 1
    client := some n
    currentRecord := some record
    renewalAbort := some n }

/-- From an empty core, the next call can go online. -/
theorem goes_online {s : OnlineState sample} (keys : DeviceKeys)
    (hkeys : keys.credential = laptop.credential)
    {allowed : OnlineState sample -> OnlineLabel sample -> Prop}
    (hallowed : forall t label, InOrder publisher t label -> allowed t label)
    (h : (deviceCore publisher).ReachableWhen allowed s)
    (hunstarted : forall m, s.started ≤ m -> s.attempts m = none)
    (hsignedIn : s.core.signedIn = signedIn) (hfree : s.core.goingOnline = false)
    (hempty : s.core.client = none) (hepoch : s.core.epoch.toNat + 2 < 2 ^ 64) :
    exists homeserver attempt, attempt.stage = PublishStage.online ∧
      attempt.renewal = RenewalStage.sleeping ∧
      (deviceCore publisher).ReachableWhen allowed
        (inCall s (onlineCoreState s.core s.started keys.record) homeserver
          attempt) := by
  let core : CoreState sample :=
    { s.core with goingOnline := true, epoch := s.core.epoch + 1 }
  have henter : s.core.enter = Except.ok
      (core, laptop.credential, keyOf 1) :=
    enter_signedIn hsignedIn hfree hempty
  have hnext : core.epoch.toNat + 1 < 2 ^ 64 := by
    change (s.core.epoch + 1).toNat + 1 < 2 ^ 64
    rw [UInt64.toNat_add, UInt64.toNat_one, Nat.mod_eq_of_lt (by omega)]
    omega
  have hpublish : s.next (OnlineLabel.publish relays false) =
      some (inCall s core s.homeserver (Attempt.start laptop.credential
        (keyOf 1) relays false core.epoch)) := by
    unfold OnlineState.next
    simp only [henter]
    rfl
  have hfresh : FreshEpoch s := by
    unfold FreshEpoch
    omega
  have horder : InOrder publisher s (OnlineLabel.publish relays false) :=
    ⟨nofun, hfresh, trivial, trivial⟩
  have hentered := Machine.ReachableWhen.step h (hallowed _ _ horder) hpublish
  rcases allocating_nextPut core.epoch hkeys with ⟨registered, hput⟩
  have hlifetime : boundedLocatorLifetime laptop.credential 1000 =
      Except.ok 900 := by
    decide
  have hbound := Scope.next_bound
    (s := { core := core
            homeserver := s.homeserver
            attempt := Attempt.start laptop.credential (keyOf 1) relays
              false core.epoch }) s.started DeviceKeys.instanceNonce rfl
    laptop.credential_verify hlifetime
  have hrecorded := Scope.next_recorded
    (s := { core := core
            homeserver := s.homeserver
            attempt := allocating core.epoch }) (n := s.started) rfl hput
  have hallocating := inCall_step hallowed hunstarted hentered hbound hnext nofun
    nofun
  have hputting := inCall_step hallowed hunstarted hallocating hrecorded hnext
    nofun nofun
  have htaken := inCall_step hallowed hunstarted hputting (Scope.next_put rfl rfl)
    hnext nofun nofun
  have honline := inCall_step hallowed hunstarted htaken
    ((Scope.next_published rfl rfl).trans (congrArg some (Scope.goOnline_eq rfl)))
    hnext nofun nofun
  exact ⟨_, _, rfl, rfl, honline⟩

def initial : OnlineState sample where
  core :=
    { signedIn :=
        { identityBusy := false
          pubky := false
          session := none
          sequenceStore := false
          device := none }
      goingOnline := false
      epoch := 0
      client := none
      currentRecord := none
      renewalAbort := none }
  homeserver := fun _ _ => none
  started := 0
  attempts := fun _ => none
  stopped := 0
  shutdowns := fun _ => none
  orphans := []

def signedInCore : OnlineState sample :=
  { initial with core := { initial.core with signedIn := signedIn } }

theorem signedInCore_reachable :
    (deviceCore publisher).ReachableWhen (InOrder publisher) signedInCore := by
  have hinitial : (deviceCore publisher).initial initial :=
    ⟨⟨rfl, rfl, fun _ => rfl, rfl, fun _ => rfl, rfl⟩, rfl⟩
  have hepoch : FreshEpoch initial :=
    show (0 : UInt64).toNat + 1 < 2 ^ 64 by decide
  have horder : InOrder publisher initial (OnlineLabel.signedIn signedIn) := by
    refine ⟨?_, hepoch, trivial, trivial⟩
    intro fields heq
    cases heq
    exact ⟨rfl, rfl⟩
  exact Machine.ReachableWhen.step (Machine.ReachableWhen.start hinitial) horder
    rfl

/-- Nothing is pending while the first call is online and its loop sleeps. -/
theorem quiescent_inCall {core : CoreState sample} {homeserver : Homeserver sample}
    {attempt : Attempt sample} (hstage : attempt.stage = PublishStage.online)
    (hrenewal : attempt.renewal = RenewalStage.sleeping) :
    Quiescent (inCall signedInCore core homeserver attempt) := by
  refine ⟨?_, ?_, ?_⟩
  · intro n other hother
    rcases update_cases hother with ⟨_, rfl⟩ | ⟨_, hother⟩
    · exact Or.inl hstage
    · cases hother
  · intro n other hother
    rcases update_cases hother with ⟨_, rfl⟩ | ⟨_, hother⟩
    · exact Or.inr (Or.inl hrenewal)
    · cases hother
  · intro k shutdown hshutdown
    cases hshutdown

/-- The device goes online, and its record is the object. -/
theorem published_while_online_sample :
    exists s, (deviceCore publisher).ReachableWhen (InOrder publisher) s ∧
      Quiescent s ∧ s.core.client = some 0 ∧ PublishedBy publisher s 0 := by
  rcases goes_online (s := signedInCore) laptop rfl (fun _ _ h => h)
    signedInCore_reachable (fun _ _ => rfl) rfl rfl rfl (by decide) with ⟨homeserver, attempt, hstage, hrenewal, hreachable⟩
  have hquiescent : Quiescent (inCall signedInCore
      (onlineCoreState signedInCore.core 0 laptop.record) homeserver attempt) :=
    quiescent_inCall hstage hrenewal
  exact ⟨_, hreachable, hquiescent, rfl,
    (published_while_online hreachable hquiescent).right 0 rfl⟩

/-- The deletion of the record of the first call. -/
def deletion : Request where
  path := publisher.path
  record := laptop.record
  taken := false

def stopping (stage : ShutdownStage) : Shutdown sample where
  client := some 0
  record := some laptop.record
  session := some (keyOf 1)
  stage := stage

theorem stopping_deletion (stage : ShutdownStage) :
    (stopping stage).deletion = ShutdownStage.deleting deletion := by
  have hdelete : deleteV1DeviceRecord sample (keyOf 1) laptop.record =
      Except.ok publisher.path :=
    deleteV1DeviceRecord_of_publish (record_publish rfl)
  unfold Shutdown.deletion stopping
  simp only [hdelete]
  rfl

/-- The first call is offline again, and its shutdown is about to delete. -/
structure Stopped (s : OnlineState sample) : Prop where
  reachable : (deviceCore publisher).Reachable s
  signedIn : s.core.signedIn = signedIn
  free : s.core.goingOnline = false
  empty : s.core.client = none
  epoch : s.core.epoch = 2
  started : s.started = 1
  calls : forall n attempt, s.attempts n = some attempt ->
    attempt.stage = PublishStage.online ∧ attempt.renewal = RenewalStage.done
  unstarted : forall m, s.started ≤ m -> s.attempts m = none
  shutdown : s.shutdowns 0 =
    some (stopping (ShutdownStage.deleting deletion))
  others : forall k, k ≠ 0 -> s.shutdowns k = none

theorem stopped_reachable : exists s, Stopped s := by
  have hanything : forall (t : OnlineState sample) (label : OnlineLabel sample),
      InOrder publisher t label -> True := fun _ _ _ => trivial
  rcases goes_online (s := signedInCore) laptop rfl hanything
    (signedInCore_reachable.mono hanything) (fun _ _ => rfl) rfl rfl rfl
    (by decide) with ⟨homeserver, attempt, hstage, hrenewal, honline⟩
  have hdisconnected := Machine.ReachableWhen.step (a := OnlineLabel.disconnect)
    honline trivial rfl
  have hclosed := Machine.ReachableWhen.step
    (a := OnlineLabel.shutdown 0 AwaitEvent.closed) hdisconnected trivial rfl
  refine ⟨_, hclosed, rfl, rfl, rfl, rfl, rfl, ?_, ?_, ?_, ?_⟩
  · intro n other hother
    rcases update_cases hother with ⟨_, rfl⟩ | ⟨hne, hother⟩
    · exact ⟨hstage, rfl⟩
    · rcases update_cases hother with ⟨heq, _⟩ | ⟨_, hother⟩
      · exact absurd heq hne
      · rcases update_cases hother with ⟨heq, _⟩ | ⟨_, hother⟩
        · exact absurd heq hne
        · cases hother
  · intro m hm
    cases m with
    | zero =>
        have hstarted : 1 ≤ 0 := hm
        omega
    | succ m => rfl
  · exact congrArg (fun stage => some (stopping stage))
      (stopping_deletion ShutdownStage.closing)
  · intro k hne
    cases k with
    | zero => exact absurd rfl hne
    | succ k => rfl

/-- The deletion of an older session can remove the record of a newer one. -/
theorem late_deletion_unpublishes :
    exists s, (deviceCore publisher).Reachable s ∧ Quiescent s ∧
      s.core.client = some 1 ∧ publisher.object s = none := by
  rcases stopped_reachable with ⟨s, hs⟩
  have hepoch : s.core.epoch.toNat + 2 < 2 ^ 64 := by
    rw [hs.epoch]
    decide
  rcases goes_online laterLaptop rfl (fun _ _ _ => trivial) hs.reachable
    hs.unstarted hs.signedIn hs.free hs.empty hepoch with
    ⟨homeserver, attempt, hstage, hrenewal, honline⟩
  have htaken := Machine.ReachableWhen.step
    (a := OnlineLabel.shutdown 0 AwaitEvent.taken) honline trivial
    (OnlineState.shut_taken hs.shutdown rfl rfl rfl)
  have hdone := Machine.ReachableWhen.step
    (a := OnlineLabel.shutdown 0 (AwaitEvent.answered true)) htaken trivial rfl
  refine ⟨_, hdone, ⟨?_, ?_, ?_⟩, ?_, ?_⟩
  · intro n other hother
    rcases update_cases hother with ⟨_, rfl⟩ | ⟨_, hother⟩
    · exact Or.inl hstage
    · exact Or.inl (hs.calls n other hother).left
  · intro n other hother
    rcases update_cases hother with ⟨_, rfl⟩ | ⟨_, hother⟩
    · exact Or.inr (Or.inl hrenewal)
    · exact Or.inr (Or.inr (hs.calls n other hother).right)
  · intro k shutdown hshutdown
    cases k with
    | zero =>
        cases hshutdown
        rfl
    | succ k =>
        have hnone : s.shutdowns (k + 1) = some shutdown := hshutdown
        rw [hs.others (k + 1) (Nat.succ_ne_zero k)] at hnone
        cases hnone
  · exact congrArg some hs.started
  · exact @object_write sample publisher homeserver (keyOf 1) deletion.path rfl
      rfl none

end LaptopOnline

end Browser
end Pubky2Pubky
