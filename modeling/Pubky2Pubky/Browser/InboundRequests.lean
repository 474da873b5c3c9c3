import Pubky2Pubky.Browser.ConnectedPeers

/-!
# Inbound requests

A request is announced, and then it is accepted, rejected, dropped with its epoch, or
told to have expired. What is told of one request never contradicts itself, and nothing
more is told of it once it has been decided.
-/

namespace Pubky2Pubky
namespace Browser

open Foundation Protocol Client

theorem requestName_injective : Function.Injective requestName := by
  intro number other heq
  unfold requestName at heq
  have hdigits : Nat.toDigits 10 number.toNat = Nat.toDigits 10 other.toNat := by
    rw [← Nat.toList_repr, ← Nat.toList_repr]
    exact congrArg String.toList ((String.append_right_inj "request-").mp heq)
  apply UInt64.toNat.inj
  calc number.toNat
      = Nat.ofDigitChars 10 (Nat.toDigits 10 number.toNat) 0 :=
        Nat.ofDigitChars_ten_toDigits.symm
    _ = Nat.ofDigitChars 10 (Nat.toDigits 10 other.toNat) 0 := by rw [hdigits]
    _ = other.toNat := Nat.ofDigitChars_ten_toDigits

/-!
# What is told of a request
-/

inductive RequestStory where
  | unannounced
  | announced
  | expired
  deriving DecidableEq

/--
What an event tells of this request; there is no answer when it is announced twice, or
expires without having been announced or a second time.
-/
def tellRequest (id : String) (story : RequestStory) : CoreEvent -> Option RequestStory
  | CoreEvent.inboundRequest name _ _ _ _ =>
      if name = id then
        (if story = RequestStory.unannounced then some RequestStory.announced else none)
      else some story
  | CoreEvent.inboundRequestExpired name =>
      if name = id then
        (if story = RequestStory.announced then some RequestStory.expired else none)
      else some story
  | _ => some story

def requestTold (id : String) (events : List Emission) : Option RequestStory :=
  (events.map Emission.event).foldlM (tellRequest id) RequestStory.unannounced

/-- An event that is not about this request. -/
def CoreEvent.Unasked (id : String) (event : CoreEvent) : Prop :=
  forall story, tellRequest id story event = some story

theorem CoreEvent.Quiet.unasked {event : CoreEvent} (h : event.Quiet)
    (requestId : String) : event.Unasked requestId := by
  intro story
  cases event with
  | message _ _ _ => rfl
  | error _ => rfl
  | onlineState _ => rfl
  | inboundRequest _ _ _ _ _ => exact absurd h id
  | inboundRequestExpired _ => exact absurd h id
  | peerVerified _ _ => rfl
  | peerDisconnected _ => rfl

section Telling

variable {id : String} {events : List Emission} {later : List CoreEvent}
variable {epoch : UInt64}

theorem requestTold_append :
    requestTold id (events ++ later.map fun event => { epoch := epoch, event := event }) =
      (requestTold id events).bind fun story => later.foldlM (tellRequest id) story := by
  have hlater : (later.map fun event => Emission.mk epoch event).map Emission.event =
      later := by
    rw [List.map_map]
    exact List.map_id _
  unfold requestTold
  rw [List.map_append, List.foldlM_append, hlater]
  rfl

theorem requestTold_unasked (h : forall event, event ∈ later -> event.Unasked id) :
    requestTold id (events ++ later.map fun event =>
      { epoch := epoch, event := event }) = requestTold id events := by
  have hsame : forall story, later.foldlM (tellRequest id) story = some story := by
    intro story
    induction later with
    | nil => rfl
    | cons event rest ih =>
        rw [List.foldlM_cons, h event List.mem_cons_self story]
        exact ih fun found hfound => h found (List.mem_cons_of_mem event hfound)
  rw [requestTold_append]
  cases requestTold id events with
  | none => rfl
  | some story => exact hsame story

theorem requestTold_one {event : CoreEvent} :
    requestTold id (events ++ [event].map fun event =>
      { epoch := epoch, event := event }) =
        (requestTold id events).bind fun story => tellRequest id story event := by
  rw [requestTold_append]
  congr 1
  funext story
  rw [List.foldlM_cons]
  exact bind_pure _

end Telling

/-!
# The steps of a request
-/

section Steps

variable {P : Primitives} {s t : NetworkState P}

/-- What a step does to the queue, and what it tells of it. -/
inductive RequestStep (s t : NetworkState P) : Prop where
  | kept {epoch : UInt64} (later : List CoreEvent)
      (hevents : t.events = s.events ++ later.map fun event =>
        { epoch := epoch, event := event })
      (hlater : forall id event, event ∈ later -> event.Unasked id)
      (hpending : forall (id : String) (incoming : IncomingV1),
        t.pendingInbound[id]? = some incoming ->
          t.epoch = s.epoch ∧ s.pendingInbound[id]? = some incoming)
      (hnext : t.nextRequestId = s.nextRequestId)
  | queued (incoming : IncomingV1) (now : Nat) (hepoch : t.epoch = s.epoch)
      (hevents : t.events = s.events ++
        [CoreEvent.inboundRequest (requestName s.newRequestId) incoming.identity
          incoming.deviceId incoming.application now].map fun event =>
            { epoch := s.epoch, event := event })
      (hpending : t.pendingInbound =
        s.pendingInbound.insert (requestName s.newRequestId) incoming)
      (hnext : t.nextRequestId = s.newRequestId)
  | timedOut {epoch : UInt64} (id : String) (hepoch : t.epoch = s.epoch)
      (hcontains : s.pendingInbound.contains id = true)
      (hevents : t.events = s.events ++
        [CoreEvent.inboundRequestExpired id].map fun event =>
          { epoch := epoch, event := event })
      (hpending : t.pendingInbound = s.pendingInbound.erase id)
      (hnext : t.nextRequestId = s.nextRequestId)

/-- A step that tells nothing. -/
theorem RequestStep.silent (hevents : t.events = s.events)
    (hpending : forall (id : String) (incoming : IncomingV1),
      t.pendingInbound[id]? = some incoming ->
        t.epoch = s.epoch ∧ s.pendingInbound[id]? = some incoming)
    (hnext : t.nextRequestId = s.nextRequestId) : RequestStep s t := by
  refine @RequestStep.kept P s t s.epoch [] ?_ nofun hpending hnext
  rw [hevents, List.map_nil, List.append_nil]

theorem getElem?_of_erase {table : Table IncomingV1} {id other : String}
    {incoming : IncomingV1} (h : (table.erase id)[other]? = some incoming) :
    table[other]? = some incoming := by
  rw [Std.ExtTreeMap.getElem?_erase] at h
  split at h
  · cases h
  · exact h

theorem requestStep_of_step (htied : Tied s) (hstep : NetworkStep s t) :
    RequestStep s t := by
  have hsame : forall {epoch : UInt64}, epoch = s.epoch ->
      forall (id : String) (incoming : IncomingV1),
        s.pendingInbound[id]? = some incoming ->
          epoch = s.epoch ∧ s.pendingInbound[id]? = some incoming :=
    fun heq _ _ hpending => ⟨heq, hpending⟩
  have hcleared : forall {epoch : UInt64} (id : String) (incoming : IncomingV1),
      (∅ : Table IncomingV1)[id]? = some incoming ->
        epoch = s.epoch ∧ s.pendingInbound[id]? = some incoming := by
    intro epoch id incoming hpending
    rw [Std.ExtTreeMap.getElem?_empty] at hpending
    cases hpending
  cases hstep with
  | kept _ hepoch _ _ => exact RequestStep.silent rfl (hsame hepoch) rfl
  | entered hclient _ _ =>
      refine RequestStep.silent rfl ?_ rfl
      intro id incoming hpending
      have hempty := htied.offline.pending hclient
      change s.pendingInbound[id]? = some incoming at hpending
      rw [hempty, Std.ExtTreeMap.getElem?_empty] at hpending
      cases hpending
  | disconnected _ _ _ => exact RequestStep.silent rfl hcleared rfl
  | failed _ _ _ _ => exact RequestStep.silent rfl hcleared rfl
  | told hepoch _ _ _ _ =>
      refine RequestStep.kept _ rfl ?_ (hsame hepoch) rfl
      intro id event hevent
      rcases List.mem_append.mp hevent with hclosed | hrest
      · rcases List.mem_map.mp hclosed with ⟨entry, _, rfl⟩
        exact fun _ => rfl
      · rcases List.mem_cons.mp hrest with rfl | hlast
        · exact fun _ => rfl
        · rw [List.mem_singleton.mp hlast]
          exact fun _ => rfl
  | accepts _ =>
      exact RequestStep.silent rfl (fun _ _ hpending => ⟨rfl, getElem?_of_erase hpending⟩)
        rfl
  | moved _ _ hquiet =>
      exact RequestStep.kept _ rfl
        (fun id event hevent => (hquiet event hevent).unasked id) (hsame rfl) rfl
  | activated _ _ _ _ _ =>
      refine RequestStep.kept _ rfl ?_ (hsame rfl) rfl
      intro id event hevent
      rw [List.mem_singleton.mp hevent]
      exact fun _ => rfl
  | removed _ _ _ =>
      refine RequestStep.kept _ rfl ?_ (hsame rfl) rfl
      intro id event hevent
      rw [List.mem_singleton.mp hevent]
      exact fun _ => rfl
  | declined _ =>
      exact RequestStep.silent rfl (fun _ _ hpending => ⟨rfl, getElem?_of_erase hpending⟩)
        rfl
  | queued incoming now hcurrent _ _ =>
      have hepoch := (isCurrent_iff.mp hcurrent).left
      subst hepoch
      exact RequestStep.queued incoming now rfl rfl rfl rfl
  | @timedOut k timer _ _ hpending =>
      exact RequestStep.timedOut timer.requestId rfl hpending rfl rfl rfl
  | shutPeer _ =>
      rename_i entry _
      rcases closeContact_cases s entry.2 with heq | ⟨contact, _, heq⟩
      · rw [heq]
        exact RequestStep.silent rfl (hsame rfl) rfl
      · rw [heq]
        exact RequestStep.silent rfl (hsame rfl) rfl
  | failPeer _ _ =>
      rename_i entry _ _
      rcases closeContact_cases s entry.2 with heq | ⟨contact, _, heq⟩
      · rw [heq]
        exact RequestStep.silent rfl (hsame rfl) rfl
      · rw [heq]
        exact RequestStep.silent rfl (hsame rfl) rfl
  | _ => exact RequestStep.silent rfl (hsame rfl) rfl

/-!
# Announced requests
-/

/-- The counter is one ahead when it does not wrap. -/
theorem newRequestId_toNat (hfresh : s.nextRequestId.toNat + 1 < 2 ^ 64) :
    s.newRequestId.toNat = s.nextRequestId.toNat + 1 := by
  have hnext : (s.nextRequestId + 1).toNat = s.nextRequestId.toNat + 1 := by
    rw [UInt64.toNat_add, UInt64.toNat_one, Nat.mod_eq_of_lt hfresh]
  unfold NetworkState.newRequestId
  rw [if_neg]
  · exact hnext
  · intro hzero
    rw [hzero] at hnext
    exact absurd hnext (Nat.succ_ne_zero _).symm

/--
What is told of the requests so far: nothing of the numbers to come, and of a queued
request that it has been announced, with the data it came with.
-/
structure Announced (s : NetworkState P) : Prop where
  consistent (id : String) : (requestTold id s.events).isSome = true
  future (number : UInt64) : s.nextRequestId < number ->
    requestTold (requestName number) s.events = some RequestStory.unannounced
  pending (id : String) (incoming : IncomingV1) : s.pendingInbound[id]? = some incoming ->
    requestTold id s.events = some RequestStory.announced ∧
      exists now, Emission.mk s.epoch (CoreEvent.inboundRequest id incoming.identity
        incoming.deviceId incoming.application now) ∈ s.events

theorem Announced.told_new (h : Announced s)
    (hfresh : s.nextRequestId.toNat + 1 < 2 ^ 64) :
    requestTold (requestName s.newRequestId) s.events =
      some RequestStory.unannounced := by
  refine h.future _ ?_
  rw [UInt64.lt_iff_toNat_lt, newRequestId_toNat hfresh]
  exact Nat.lt_succ_self _

theorem requestTold_announce {id name : String} {events : List Emission}
    {epoch : UInt64} {peerId peerDeviceId application : String} {now : Nat}
    (hnew : requestTold name events = some RequestStory.unannounced) :
    requestTold id (events ++ [CoreEvent.inboundRequest name peerId peerDeviceId
      application now].map fun event => { epoch := epoch, event := event }) =
        if name = id then some RequestStory.announced else requestTold id events := by
  rw [requestTold_one]
  split
  · next heq =>
      rw [← heq, hnew]
      exact if_pos rfl
  · next hne =>
      cases requestTold id events with
      | none => rfl
      | some story => exact if_neg hne

theorem requestTold_expire {id name : String} {events : List Emission} {epoch : UInt64}
    (hold : requestTold name events = some RequestStory.announced) :
    requestTold id (events ++ [CoreEvent.inboundRequestExpired name].map fun event =>
      { epoch := epoch, event := event }) =
        if name = id then some RequestStory.expired else requestTold id events := by
  rw [requestTold_one]
  split
  · next heq =>
      rw [← heq, hold]
      exact if_pos rfl
  · next hne =>
      cases requestTold id events with
      | none => rfl
      | some story => exact if_neg hne

theorem Announced.next (h : Announced s) (hfresh : s.nextRequestId.toNat + 1 < 2 ^ 64)
    (hstep : RequestStep s t) : Announced t := by
  cases hstep with
  | @kept epoch later hevents hlater hpending hnext =>
      have hsame : forall id, requestTold id t.events = requestTold id s.events := by
        intro id
        rw [hevents]
        exact requestTold_unasked (hlater id)
      constructor
      case consistent =>
        intro id
        rw [hsame]
        exact h.consistent id
      case future =>
        intro number hnumber
        rw [hsame]
        exact h.future number (hnext ▸ hnumber)
      case pending =>
        intro id incoming hfound
        rcases hpending id incoming hfound with ⟨hepoch, hbefore⟩
        rcases h.pending id incoming hbefore with ⟨htold, now, hmem⟩
        rw [hsame, hepoch, hevents]
        exact ⟨htold, now, List.mem_append_left _ hmem⟩
  | queued incoming now hepoch hevents hpending hnext =>
      have htold : forall id, requestTold id t.events =
          if requestName s.newRequestId = id then some RequestStory.announced
          else requestTold id s.events := by
        intro id
        rw [hevents]
        exact requestTold_announce (h.told_new hfresh)
      constructor
      case consistent =>
        intro id
        rw [htold]
        split
        · rfl
        · exact h.consistent id
      case future =>
        intro number hnumber
        rw [hnext, UInt64.lt_iff_toNat_lt, newRequestId_toNat hfresh] at hnumber
        have hne : ¬ requestName s.newRequestId = requestName number := by
          intro heq
          rw [← requestName_injective heq, newRequestId_toNat hfresh] at hnumber
          exact absurd hnumber (Nat.lt_irrefl _)
        rw [htold, if_neg hne]
        exact h.future number (UInt64.lt_iff_toNat_lt.mpr (Nat.lt_of_succ_lt hnumber))
      case pending =>
        intro id found hfound
        rw [hpending, Std.ExtTreeMap.getElem?_insert] at hfound
        rw [htold, hepoch, hevents]
        split at hfound
        · next heq =>
            cases hfound
            rw [← Std.LawfulEqCmp.eq_of_compare heq, if_pos rfl]
            exact ⟨rfl, now, List.mem_append_right _ List.mem_cons_self⟩
        · next hcompare =>
            have hne : ¬ requestName s.newRequestId = id := by
              rintro rfl
              exact hcompare Std.ReflCmp.compare_self
            rcases h.pending id found hfound with ⟨hannounced, received, hmem⟩
            rw [if_neg hne]
            exact ⟨hannounced, received, List.mem_append_left _ hmem⟩
  | @timedOut epoch name hepoch hcontains hevents hpending hnext =>
      have hannounced : requestTold name s.events = some RequestStory.announced := by
        rw [Std.ExtTreeMap.contains_eq_isSome_getElem?] at hcontains
        rcases Option.isSome_iff_exists.mp hcontains with ⟨incoming, hincoming⟩
        exact (h.pending name incoming hincoming).left
      have htold : forall id, requestTold id t.events =
          if name = id then some RequestStory.expired else requestTold id s.events := by
        intro id
        rw [hevents]
        exact requestTold_expire hannounced
      constructor
      case consistent =>
        intro id
        rw [htold]
        split
        · rfl
        · exact h.consistent id
      case future =>
        intro number hnumber
        rw [hnext] at hnumber
        have hfuture := h.future number hnumber
        rw [htold, if_neg]
        · exact hfuture
        · rintro rfl
          rw [hannounced] at hfuture
          cases hfuture
      case pending =>
        intro id found hfound
        rw [hpending, Std.ExtTreeMap.getElem?_erase] at hfound
        split at hfound
        · cases hfound
        · next hcompare =>
            have hne : ¬ name = id := by
              rintro rfl
              exact hcompare Std.ReflCmp.compare_self
            rcases h.pending id found hfound with ⟨hold, received, hmem⟩
            rw [htold, if_neg hne, hepoch, hevents]
            exact ⟨hold, received, List.mem_append_left _ hmem⟩

/-!
# Decided requests
-/

/-- The request has been announced, and has left the queue. -/
structure Decided (id : String) (story : RequestStory) (s : NetworkState P) : Prop where
  told : requestTold id s.events = some story
  begun : story ≠ RequestStory.unannounced
  gone : s.pendingInbound[id]? = none

theorem Decided.next {id : String} {story : RequestStory} (h : Decided id story s)
    (hannounced : Announced s) (hfresh : s.nextRequestId.toNat + 1 < 2 ^ 64)
    (hstep : RequestStep s t) : Decided id story t := by
  cases hstep with
  | @kept epoch later hevents hlater hpending hnext =>
      refine ⟨?_, h.begun, ?_⟩
      · rw [hevents, requestTold_unasked (hlater id)]
        exact h.told
      · cases hfound : t.pendingInbound[id]? with
        | none => rfl
        | some incoming =>
            have hbefore := (hpending id incoming hfound).right
            rw [h.gone] at hbefore
            cases hbefore
  | queued incoming now hepoch hevents hpending hnext =>
      have hne : ¬ requestName s.newRequestId = id := by
        rintro rfl
        have htold := h.told
        rw [hannounced.told_new hfresh] at htold
        exact h.begun (Option.some.inj htold).symm
      refine ⟨?_, h.begun, ?_⟩
      · rw [hevents, requestTold_announce (hannounced.told_new hfresh), if_neg hne]
        exact h.told
      · rw [hpending, Std.ExtTreeMap.getElem?_insert, if_neg]
        · exact h.gone
        · exact fun heq => hne (Std.LawfulEqCmp.eq_of_compare heq)
  | @timedOut epoch name hepoch hcontains hevents hpending hnext =>
      rw [Std.ExtTreeMap.contains_eq_isSome_getElem?] at hcontains
      rcases Option.isSome_iff_exists.mp hcontains with ⟨incoming, hincoming⟩
      have hne : ¬ name = id := by
        rintro rfl
        rw [h.gone] at hincoming
        cases hincoming
      refine ⟨?_, h.begun, ?_⟩
      · rw [hevents, requestTold_expire (hannounced.pending name incoming hincoming).left,
          if_neg hne]
        exact h.told
      · rw [hpending, Std.ExtTreeMap.getElem?_erase, h.gone, ite_self]

/-- The calls that take a request out of the queue. -/
def NetworkState.Answers (s t : NetworkState P) (id : String) : Prop :=
  s.acceptInbound id = Except.ok t ∨ s.rejectInbound id = Except.ok t

theorem decided_of_answer {id : String} (h : Announced s) (hanswer : s.Answers t id) :
    Decided id RequestStory.announced t := by
  have hafter : (exists incoming, s.pendingInbound[id]? = some incoming) ∧
      t.events = s.events ∧ t.pendingInbound = s.pendingInbound.erase id := by
    unfold NetworkState.Answers NetworkState.acceptInbound NetworkState.rejectInbound
      at hanswer
    cases hpending : s.pendingInbound[id]? with
    | none =>
        rw [hpending] at hanswer
        rcases hanswer with hanswer | hanswer
        · cases hanswer
        · cases hanswer
    | some incoming =>
        rw [hpending] at hanswer
        rcases hanswer with hanswer | hanswer
        · cases hanswer
          exact ⟨⟨incoming, rfl⟩, rfl, rfl⟩
        · cases hanswer
          exact ⟨⟨incoming, rfl⟩, rfl, rfl⟩
  rcases hafter with ⟨⟨incoming, hincoming⟩, hevents, hpending⟩
  refine ⟨?_, nofun, ?_⟩
  · rw [hevents]
    exact (h.pending id incoming hincoming).left
  · rw [hpending]
    exact Std.ExtTreeMap.getElem?_erase_self

variable [DiscoveryReaders P]

theorem announced_initial (h : (networkCore P).initial s) : Announced s := by
  rcases h with ⟨_, _, _, hpending, _, _, _, _, _, _, _, _, _, hevents⟩
  constructor
  case consistent =>
    intro id
    rw [hevents]
    rfl
  case future =>
    intro number _
    rw [hevents]
    rfl
  case pending =>
    intro id incoming hfound
    rw [hpending, Std.ExtTreeMap.getElem?_empty] at hfound
    cases hfound

theorem announced_next {label : NetworkLabel P} (h : Tied s ∧ Announced s)
    (hfresh : NoWrap s) (hnext : (networkCore P).next s label = some t) :
    Tied t ∧ Announced t := by
  have hstep := networkStep_of_next h.left.ordered hfresh.epoch hnext
  exact ⟨h.left.next hfresh.epoch hstep,
    h.right.next hfresh.requestId (requestStep_of_step h.left hstep)⟩

theorem announced_of_reachable (h : Unwrapped s) : Tied s ∧ Announced s :=
  Machine.ReachableWhen.invariant (I := fun state => Tied state ∧ Announced state)
    (fun _ hstart => ⟨tied_initial hstart, announced_initial hstart⟩)
    (fun _ _ _ hboth hfresh hnext => announced_next hboth hfresh hnext) h

/-- What the core may become from here on. -/
def Later (s t : NetworkState P) : Prop :=
  Machine.ReachableWhen { networkCore P with initial := fun start => start = s }
    (fun state _ => NoWrap state) t

theorem Decided.later {id : String} {story : RequestStory} (h : Decided id story s)
    (hbefore : Tied s ∧ Announced s) (hlater : Later s t) : Decided id story t := by
  have hall : (Tied t ∧ Announced t) ∧ Decided id story t := by
    refine Machine.ReachableWhen.invariant
      (I := fun state => (Tied state ∧ Announced state) ∧ Decided id story state)
      ?_ ?_ hlater
    · rintro start rfl
      exact ⟨hbefore, h⟩
    · rintro state label after ⟨hboth, hdecided⟩ hfresh hnext
      refine ⟨announced_next hboth hfresh hnext, ?_⟩
      have hstep := networkStep_of_next hboth.left.ordered hfresh.epoch hnext
      exact hdecided.next hboth.right hfresh.requestId
        (requestStep_of_step hboth.left hstep)
  exact hall.right

/--
Whatever is interleaved, a request is announced once and expires at most once, and only
after it has been announced. A queued request has been announced with the data it came
with. Once a request has left the queue nothing more is ever told of it; in particular,
one that has been accepted or rejected never expires.
-/
theorem requests_decided_once (h : Unwrapped s) :
    (forall id, (requestTold id s.events).isSome = true) ∧
    (forall (id : String) (incoming : IncomingV1), s.pendingInbound[id]? = some incoming ->
      requestTold id s.events = some RequestStory.announced ∧
        exists now, Emission.mk s.epoch (CoreEvent.inboundRequest id incoming.identity
          incoming.deviceId incoming.application now) ∈ s.events) ∧
    (forall id story t, Decided id story s -> Later s t -> Decided id story t) ∧
    forall id after t, NoWrap s -> s.Answers after id -> Later after t ->
      Decided id RequestStory.announced t := by
  have hboth := announced_of_reachable h
  refine ⟨hboth.right.consistent, hboth.right.pending, ?_, ?_⟩
  · intro id story t hdecided hlater
    exact hdecided.later hboth hlater
  · intro id after t hfresh hanswer hlater
    refine (decided_of_answer hboth.right hanswer).later ?_ hlater
    have hnext : (networkCore P).next s (NetworkLabel.acceptInbound id) = some after ∨
        (networkCore P).next s (NetworkLabel.rejectInbound id) = some after := by
      rcases hanswer with hanswer | hanswer
      · exact Or.inl (congrArg (fun result => some (s.afterGuard result)) hanswer)
      · exact Or.inr (congrArg (fun result => some (s.afterGuard result)) hanswer)
    rcases hnext with hnext | hnext
    · exact announced_next hboth hfresh hnext
    · exact announced_next hboth hfresh hnext

/-- The request of the sample run is rejected, and its timer tells nothing of it. -/
theorem requests_decided_once_sample :
    exists s after t : NetworkState Reference.sample,
      s.pendingInbound[requestName 1]? = some (sampleRequest 10) ∧
        requestTold (requestName 1) s.events = some RequestStory.announced ∧
        s.Answers after (requestName 1) ∧ after.timers 0 ≠ t.timers 0 ∧ Later after t ∧
        Decided (requestName 1) RequestStory.announced t := by
  rcases OneContact.Meeting.exists_met with ⟨m, hmet, hfresh, _⟩
  have hpending : m.asked.pendingInbound[requestName 1]? = some (sampleRequest 10) :=
    Std.ExtTreeMap.getElem?_insert_self
  have hdecided := requests_decided_once (unwrapped_of_within hmet)
  have hwrap : (1 : UInt64).toNat + 1 < 2 ^ 64 := by decide
  have hanswers : m.asked.Answers m.answered (requestName 1) :=
    Or.inr m.asked_rejectInbound
  have hlater : Later m.answered m.timedOut :=
    Machine.ReachableWhen.step (a := NetworkLabel.expired 0)
      (Machine.ReachableWhen.start rfl) ⟨hfresh, hwrap⟩ m.answered_next
  refine ⟨m.asked, m.answered, m.timedOut, hpending,
    (hdecided.right.left _ _ hpending).left, hanswers, ?_, hlater, ?_⟩
  · intro hsame
    cases hsame
  · exact hdecided.right.right.right _ _ _ ⟨hfresh, hwrap⟩ hanswers hlater

end Steps

end Browser
end Pubky2Pubky
