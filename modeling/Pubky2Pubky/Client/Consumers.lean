import Pubky2Pubky.Foundation.Notify
import Pubky2Pubky.Client.PendingQueue

/-!
# Consumers of the consent queue

Any number of callers wait for the next request. A caller creates its future,
looks at the queue under the lock, and polls the future afterwards; an insertion,
an expiry and a close change the queue under the lock and send their wake-up
after releasing it.
-/

namespace Pubky2Pubky
namespace Client

open Foundation

/--
Where a call of `next` stands: it looks at the queue with a future that was
created after some number of broadcasts, or it has found nothing and polls it.
-/
inductive Consumer where
  | checking (calls : Nat)
  | awaiting (notified : Notified)
  | returned (result : ClientResult IncomingV1)

structure ConsumerState where
  instant : Instant
  queue : PendingQueueState
  notify : Notify
  consumers : List Consumer
  singles : Nat
  broadcasts : Nat

inductive ConsumerLabel where
  | tick (instant : Instant)
  | call
  | check (consumer : Nat)
  | poll (consumer : Nat)
  | insert (key : String) (incoming : IncomingV1)
  | notifyOne (woken : Option Nat)
  | expire (key : String)
  | prune
  | close
  | notifyWaiters

namespace Consumer

/-- The call waits for a wake-up. -/
def parked : Consumer -> Bool
  | awaiting Notified.waiting => true
  | _ => false

/-- The call has looked at the queue and not yet polled its future. -/
def window (notify : Notify) : Consumer -> Bool
  | awaiting (Notified.created calls) => !notify.completed calls
  | _ => false

/-- The same, with a future that a broadcast has completed. -/
def passing (notify : Notify) : Consumer -> Bool
  | awaiting (Notified.created calls) => notify.completed calls
  | _ => false

/-- The call will look at the queue before it waits. -/
def looks (notify : Notify) : Consumer -> Bool
  | checking _ => true
  | awaiting (Notified.created calls) => notify.completed calls
  | awaiting Notified.woken => true
  | _ => false

def outstanding : Consumer -> Bool
  | returned _ => false
  | _ => true

def wake : Consumer -> Consumer
  | awaiting notified => awaiting notified.wake
  | other => other

end Consumer

namespace ConsumerState

def start : ConsumerState :=
  { instant := 0
    queue := PendingQueueState.new
    notify := Notify.new
    consumers := []
    singles := 0
    broadcasts := 0 }

def set (s : ConsumerState) (i : Nat) (consumer : Consumer) : ConsumerState :=
  { s with consumers := s.consumers.set i consumer }

/-- One turn of the loop of `next`, under the lock. -/
def check (s : ConsumerState) (i calls : Nat) : ConsumerState :=
  match s.queue.next s.instant with
  | (queue, some result) =>
      ({ s with queue := queue } : ConsumerState).set i (Consumer.returned result)
  | (queue, none) =>
      ({ s with queue := queue } : ConsumerState).set i
        (Consumer.awaiting (Notified.created calls))

/-- Poll the future; a ready one starts the next turn of the loop. -/
def poll (s : ConsumerState) (i : Nat) (notified : Notified) : ConsumerState :=
  match s.notify.poll notified with
  | (notify, some future) =>
      ({ s with notify := notify } : ConsumerState).set i
        (Consumer.awaiting future)
  | (notify, none) =>
      ({ s with notify := notify } : ConsumerState).set i
        (Consumer.checking notify.calls)

/-- The part of an insertion under the lock; a rejection sends no wake-up. -/
def insert (limits : QueueLimits) (s : ConsumerState) (key : String)
    (incoming : IncomingV1) : ConsumerState :=
  match s.queue.insert limits s.instant key incoming with
  | (queue, Except.ok _) => { s with queue := queue, singles := s.singles + 1 }
  | (queue, Except.error _) => { s with queue := queue }

def next (limits : QueueLimits) (s : ConsumerState) :
    ConsumerLabel -> Option ConsumerState
  | ConsumerLabel.tick instant =>
      if s.instant ≤ instant then some { s with instant := instant } else none
  | ConsumerLabel.call =>
      some { s with
        consumers := s.consumers ++ [Consumer.checking s.notify.calls] }
  | ConsumerLabel.check i =>
      match s.consumers[i]? with
      | some (Consumer.checking calls) => some (s.check i calls)
      | _ => none
  | ConsumerLabel.poll i =>
      match s.consumers[i]? with
      | some (Consumer.awaiting notified) => some (s.poll i notified)
      | _ => none
  | ConsumerLabel.insert key incoming => some (s.insert limits key incoming)
  | ConsumerLabel.notifyOne (some i) =>
      match s.singles, s.consumers[i]? with
      | singles + 1, some (Consumer.awaiting Notified.waiting) =>
          some (({ s with singles := singles } : ConsumerState).set i
            (Consumer.awaiting Notified.woken))
      | _, _ => none
  | ConsumerLabel.notifyOne none =>
      match s.singles with
      | 0 => none
      | singles + 1 =>
          if s.consumers.any Consumer.parked then none
          else
            some { s with notify := s.notify.storePermit, singles := singles }
  | ConsumerLabel.expire key =>
      some { s with
        queue := s.queue.expire key
        broadcasts := s.broadcasts + 1 }
  | ConsumerLabel.prune =>
      some { s with queue := s.queue.pruneExpired s.instant }
  | ConsumerLabel.close =>
      some { s with
        queue := s.queue.close
        broadcasts := s.broadcasts + 1 }
  | ConsumerLabel.notifyWaiters =>
      match s.broadcasts with
      | 0 => none
      | broadcasts + 1 =>
          some { s with
            notify := s.notify.notifyWaiters
            consumers := s.consumers.map Consumer.wake
            broadcasts := broadcasts }

def live (s : ConsumerState) : Nat :=
  (s.queue.pruneExpired s.instant).order.length

def census (s : ConsumerState) : Census :=
  { items := s.live
    lookers := s.consumers.countP (Consumer.looks s.notify)
    completed := s.consumers.countP (Consumer.passing s.notify)
    window := s.consumers.countP (Consumer.window s.notify)
    parked := s.consumers.countP Consumer.parked
    singles := s.singles
    broadcasts := s.broadcasts
    permit := s.notify.permit
    closed := s.queue.closed }

end ConsumerState

def consumerMachine (limits : QueueLimits) :
    Machine ConsumerState ConsumerLabel :=
  { initial := fun s => s = ConsumerState.start
    next := ConsumerState.next limits }

/-!
# The live requests

How each operation changes the number of requests that have not expired.
-/

section Live

def PendingBook.alive (book : PendingBook) (now : Instant) : Nat :=
  book.book.queued.countP fun ticket => !ticket.item.expired now

theorem PendingBook.length_live (book : PendingBook) (now : Instant) :
    (book.live now).book.queued.length = book.alive now :=
  List.countP_eq_length_filter.symm

theorem PendingBook.alive_le_of_sublist {book after : PendingBook}
    (h : after.book.queued.Sublist book.book.queued) (now : Instant) :
    after.alive now ≤ book.alive now :=
  h.countP_le

theorem PendingBook.alive_le_length (book : PendingBook) (now : Instant) :
    book.alive now ≤ book.book.queued.length :=
  List.countP_le_length

theorem IncomingV1.expired_mono (incoming : IncomingV1) {now later : Instant}
    (hle : now ≤ later) (h : incoming.expired now = true) :
    incoming.expired later = true := by
  unfold IncomingV1.expired at h ⊢
  cases hpending : incoming.pending with
  | none => rfl
  | some pending =>
      rw [hpending] at h
      have hdeadline : pending.deadline ≤ now := of_decide_eq_true h
      exact decide_eq_true (hdeadline.trans hle)

theorem PendingBook.alive_anti (book : PendingBook) {now later : Instant}
    (hle : now ≤ later) : book.alive later ≤ book.alive now := by
  apply List.countP_mono_left
  intro ticket _ hlive
  rw [Bool.not_eq_true'] at hlive ⊢
  rw [Bool.eq_false_iff] at hlive ⊢
  intro hexpired
  exact hlive (ticket.item.expired_mono hle hexpired)

theorem PendingBook.alive_insert (limits : QueueLimits) (book : PendingBook)
    (now : Instant) (key : String) (incoming : IncomingV1) :
    (exists error, (book.insert limits now key incoming).2 =
        Except.error error ∧
      (book.insert limits now key incoming).1.alive now ≤ book.alive now) ∨
      ((book.insert limits now key incoming).2 = Except.ok () ∧
        (book.insert limits now key incoming).1.alive now ≤
          book.alive now + 1) := by
  have hlive : (book.live now).alive now ≤ book.alive now :=
    PendingBook.alive_le_of_sublist List.filter_sublist now
  have hissue : ((book.live now).issue key incoming).alive now ≤
      book.alive now + 1 := by
    have hone : ((book.live now).issue key incoming).alive now =
        (book.live now).alive now + List.countP
          (fun ticket : Ticket String IncomingV1 => !ticket.item.expired now)
          [_] := List.countP_append
    have hmost := List.countP_le_length
      (p := fun ticket : Ticket String IncomingV1 => !ticket.item.expired now)
      (l := [⟨(book.live now).book.issued, key, incoming⟩])
    rw [List.length_singleton] at hmost
    omega
  rcases book.insert_cases limits now key incoming with
    ⟨error, hinsert⟩ | ⟨_, _, _, _, hinsert⟩
  · rw [hinsert]
    exact Or.inl ⟨error, rfl, hlive⟩
  · rw [hinsert]
    exact Or.inr ⟨rfl, hissue⟩

theorem PendingBook.insert_closed (limits : QueueLimits) (book : PendingBook)
    (now : Instant) (key : String) (incoming : IncomingV1) :
    (book.insert limits now key incoming).1.closed = book.closed := by
  rcases book.insert_cases limits now key incoming with
    ⟨error, hinsert⟩ | ⟨_, _, _, _, hinsert⟩
  · rw [hinsert]
    rfl
  · rw [hinsert]
    rfl

/-- A turn of `next` takes a live request, or there is none. -/
theorem PendingBook.alive_next (book : PendingBook) (now : Instant) :
    (exists incoming, (book.next now).2 = some (Except.ok incoming) ∧
        (book.next now).1.alive now + 1 ≤ book.alive now) ∨
      ((book.next now).1.alive now = 0 ∧
        ((book.next now).2 = none -> book.closed = false)) := by
  have htail : (book.next now).1.alive now ≤
      (book.live now).book.queued.length - 1 := by
    have hlength := (book.next now).1.alive_le_length now
    rw [book.next_queued, List.length_tail] at hlength
    exact hlength
  rw [book.length_live] at htail
  cases hqueued : (book.live now).book.queued with
  | nil =>
      right
      have hnone : book.alive now = 0 := by
        rw [← book.length_live, hqueued]
        rfl
      refine ⟨by omega, ?_⟩
      unfold PendingBook.next
      dsimp only
      rw [hqueued]
      intro hresult
      cases hclosed : book.closed with
      | false => rfl
      | true =>
          dsimp only at hresult
          rw [hclosed] at hresult
          cases hresult
  | cons ticket rest =>
      left
      have hsome : 0 < book.alive now := by
        rw [← book.length_live, hqueued]
        exact Nat.succ_pos _
      refine ⟨ticket.item, ?_, by omega⟩
      unfold PendingBook.next
      dsimp only
      rw [hqueued]

variable {s : ConsumerState} {book : PendingBook}

theorem ConsumerState.live_eq (h : Refines s.queue book) :
    s.live = book.alive s.instant := by
  unfold ConsumerState.live
  rw [(h.live s.instant).represents.order, List.length_map, book.length_live]

end Live

/-!
# The steps of the consumers
-/

section Counts

variable {A : Type} {l : List A} {i : Nat} {old new : A}

theorem countP_set_add (p : A -> Bool) (h : l[i]? = some old) :
    (l.set i new).countP p + (p old).toNat = l.countP p + (p new).toNat := by
  rcases List.getElem?_eq_some_iff.mp h with ⟨hi, hold⟩
  rw [List.countP_set hi, hold]
  have hcounted : (p old).toNat ≤ l.countP p := by
    cases hp : p old with
    | false => exact Nat.zero_le _
    | true =>
        exact List.countP_pos_iff.mpr ⟨old, List.mem_of_getElem? h, hp⟩
  cases hp : p old with
  | false =>
      cases p new with
      | false => rfl
      | true => rfl
  | true =>
      rw [hp] at hcounted
      have hone : 1 ≤ l.countP p := hcounted
      cases p new with
      | false =>
          change l.countP p - 1 + 0 + 1 = l.countP p + 0
          omega
      | true =>
          change l.countP p - 1 + 1 + 1 = l.countP p + 1
          omega

end Counts

namespace ConsumerState

variable {limits : QueueLimits} {s after : ConsumerState} {i : Nat}

/-- Every future was created before now. -/
def Dated (s : ConsumerState) : Prop :=
  forall consumer, consumer ∈ s.consumers -> forall calls,
    (consumer = Consumer.checking calls ∨
      consumer = Consumer.awaiting (Notified.created calls)) ->
    calls ≤ s.notify.calls

structure Served (s : ConsumerState) : Prop where
  represented : exists book, Refines s.queue book
  dated : s.Dated
  covered : s.census.Covered

/--
The condition on a single notification that finds nobody waiting. All other
steps are free.
-/
def Heard (s : ConsumerState) : ConsumerLabel -> Prop
  | ConsumerLabel.notifyOne none => s.census.Heard
  | _ => True

theorem Dated.set (h : s.Dated) {consumer : Consumer}
    (hconsumers : after.consumers = s.consumers.set i consumer)
    (hcalls : after.notify.calls = s.notify.calls)
    (hconsumer : forall calls,
      (consumer = Consumer.checking calls ∨
        consumer = Consumer.awaiting (Notified.created calls)) ->
      calls ≤ s.notify.calls) : after.Dated := by
  intro other hother calls hcreated
  rw [hconsumers] at hother
  rw [hcalls]
  rcases List.mem_or_eq_of_mem_set hother with hmem | rfl
  · exact h other hmem calls hcreated
  · exact hconsumer calls hcreated

theorem Dated.of_consumers (h : s.Dated)
    (hconsumers : after.consumers = s.consumers)
    (hcalls : after.notify.calls = s.notify.calls) : after.Dated := by
  intro other hother calls hcreated
  rw [hconsumers] at hother
  rw [hcalls]
  exact h other hother calls hcreated

/-- The queue changes, and its users owe wake-ups for what they add. -/
theorem Served.queue (h : s.Served)
    (hrepresented : exists book, Refines after.queue book)
    (hlive : after.live + s.singles ≤ s.live + after.singles)
    (hconsumers : after.consumers = s.consumers)
    (hnotify : after.notify = s.notify)
    (hbroadcasts : s.broadcasts ≤ after.broadcasts)
    (hclosed : after.queue.closed = true ->
      s.queue.closed = true ∨ 0 < after.broadcasts) : after.Served := by
  refine ⟨hrepresented, h.dated.of_consumers hconsumers
    (congrArg Notify.calls hnotify), ?_⟩
  apply h.covered.grow
  case hitems => exact hlive
  case hlookers =>
    unfold census
    rw [hconsumers, hnotify]
  case hcompleted =>
    unfold census
    rw [hconsumers, hnotify]
  case hwindow =>
    unfold census
    rw [hconsumers, hnotify]
  case hparked =>
    unfold census
    rw [hconsumers]
  case hbroadcasts => exact hbroadcasts
  case hpermit => exact congrArg Notify.permit hnotify
  case hclosed => exact hclosed

/-- What the census says when one consumer moves. -/
structure Recount (s after : ConsumerState) (old new : Consumer) : Prop where
  lookers : after.census.lookers + (old.looks s.notify).toNat =
    s.census.lookers + (new.looks s.notify).toNat
  completed : after.census.completed + (old.passing s.notify).toNat =
    s.census.completed + (new.passing s.notify).toNat
  window : after.census.window + (old.window s.notify).toNat =
    s.census.window + (new.window s.notify).toNat
  parked : after.census.parked + old.parked.toNat =
    s.census.parked + new.parked.toNat

theorem recount {old new : Consumer} (hconsumer : s.consumers[i]? = some old)
    (hconsumers : after.consumers = s.consumers.set i new)
    (hcalls : after.notify.calls = s.notify.calls) :
    Recount s after old new := by
  have hcompleted : after.notify.completed = s.notify.completed := by
    unfold Notify.completed
    rw [hcalls]
  constructor
  case lookers =>
    have hlooks : Consumer.looks after.notify = Consumer.looks s.notify := by
      unfold Consumer.looks
      rw [hcompleted]
    unfold census
    rw [hconsumers, hlooks]
    exact countP_set_add _ hconsumer
  case completed =>
    have hpassing : Consumer.passing after.notify =
        Consumer.passing s.notify := by
      unfold Consumer.passing
      rw [hcompleted]
    unfold census
    rw [hconsumers, hpassing]
    exact countP_set_add _ hconsumer
  case window =>
    have hwindow : Consumer.window after.notify = Consumer.window s.notify := by
      unfold Consumer.window
      rw [hcompleted]
    unfold census
    rw [hconsumers, hwindow]
    exact countP_set_add _ hconsumer
  case parked =>
    unfold census
    rw [hconsumers]
    exact countP_set_add _ hconsumer

theorem Served.check (h : s.Served) {calls : Nat}
    (hconsumer : s.consumers[i]? = some (Consumer.checking calls)) :
    (s.check i calls).Served := by
  rcases h.represented with ⟨book, hrefines⟩
  rcases hrefines.next s.instant with ⟨hresult, hafter⟩
  have hclosed : (s.queue.next s.instant).1.closed = s.queue.closed := by
    rw [hafter.closed, book.next_closed, hrefines.closed]
  have hbefore := live_eq hrefines
  unfold ConsumerState.check
  generalize s.queue.next s.instant = turn at hresult hafter hclosed ⊢
  rcases turn with ⟨queue, result⟩
  dsimp only at hresult hafter hclosed ⊢
  have hlive : forall consumer, (({ s with queue := queue } :
      ConsumerState).set i consumer).live =
        (book.next s.instant).1.alive s.instant := fun consumer =>
    live_eq (s := ({ s with queue := queue } : ConsumerState).set i consumer)
      hafter
  cases result with
  | some result =>
      have hcount : Recount s (({ s with queue := queue } : ConsumerState).set i
          (Consumer.returned result)) _ _ := recount hconsumer rfl rfl
      refine ⟨⟨_, hafter⟩, h.dated.set rfl rfl ?_, ?_⟩
      · rintro created (hcreated | hcreated)
        · cases hcreated
        · cases hcreated
      · apply h.covered.look
        case hitems =>
          rcases book.alive_next s.instant with ⟨_, _, htaken⟩ | ⟨hnone, _⟩
          · right
            refine ⟨?_, Nat.le_of_eq hcount.lookers.symm, hcount.completed,
              hcount.window⟩
            exact le_of_eq_of_le (congrArg (· + 1) (hlive _))
              (htaken.trans (Nat.le_of_eq hbefore.symm))
          · left
            exact (hlive _).trans hnone
        case hparked => exact hcount.parked
        case hsingles => rfl
        case hbroadcasts => rfl
        case hpermit => rfl
        case hclosed =>
          intro hshut
          exact ⟨hclosed.symm.trans hshut, hcount.window⟩
  | none =>
      have hcount : Recount s (({ s with queue := queue } : ConsumerState).set i
          (Consumer.awaiting (Notified.created calls))) _ _ :=
        recount hconsumer rfl rfl
      have hopen : book.closed = false ∧
          (book.next s.instant).1.alive s.instant = 0 := by
        rcases book.alive_next s.instant with ⟨incoming, htaken, _⟩ |
          ⟨hnone, hopen⟩
        · rw [← hresult] at htaken
          cases htaken
        · exact ⟨hopen hresult.symm, hnone⟩
      refine ⟨⟨_, hafter⟩, h.dated.set rfl rfl ?_, ?_⟩
      · rintro created (hcreated | hcreated)
        · cases hcreated
        · injection hcreated with hcreated
          injection hcreated with hcreated
          rw [← hcreated]
          exact h.dated _ (List.mem_of_getElem? hconsumer) calls (Or.inl rfl)
      · apply h.covered.look
        case hitems => exact Or.inl ((hlive _).trans hopen.right)
        case hparked => exact hcount.parked
        case hsingles => rfl
        case hbroadcasts => rfl
        case hpermit => rfl
        case hclosed =>
          intro hshut
          have htrue : s.queue.closed = true := hclosed.symm.trans hshut
          rw [hrefines.closed, hopen.left] at htrue
          cases htrue

theorem poll_of_ready {notify : Notify} {notified : Notified}
    (h : s.notify.poll notified = (notify, none)) :
    s.poll i notified = ({ s with notify := notify } : ConsumerState).set i
      (Consumer.checking notify.calls) := by
  unfold ConsumerState.poll
  rw [h]

theorem poll_of_pending {notify : Notify} {notified future : Notified}
    (h : s.notify.poll notified = (notify, some future)) :
    s.poll i notified = ({ s with notify := notify } : ConsumerState).set i
      (Consumer.awaiting future) := by
  unfold ConsumerState.poll
  rw [h]

theorem Dated.checking (h : s.Dated)
    (hconsumers : after.consumers =
      s.consumers.set i (Consumer.checking s.notify.calls))
    (hcalls : after.notify.calls = s.notify.calls) : after.Dated := by
  apply h.set hconsumers hcalls
  rintro created (hcreated | hcreated)
  · injection hcreated with hcreated
    exact Nat.le_of_eq hcreated.symm
  · cases hcreated

theorem Dated.awaiting (h : s.Dated) {notified : Notified}
    (hconsumers : after.consumers =
      s.consumers.set i (Consumer.awaiting notified))
    (hcalls : after.notify.calls = s.notify.calls)
    (hnotified : notified = Notified.waiting ∨ notified = Notified.woken) :
    after.Dated := by
  apply h.set hconsumers hcalls
  rintro created (hcreated | hcreated)
  · cases hcreated
  · injection hcreated with hcreated
    rcases hnotified with hwaiting | hwoken
    · rw [hwaiting] at hcreated
      cases hcreated
    · rw [hwoken] at hcreated
      cases hcreated

theorem Served.pollCreated (h : s.Served) {calls : Nat}
    (hconsumer : s.consumers[i]? =
      some (Consumer.awaiting (Notified.created calls))) :
    (s.poll i (Notified.created calls)).Served := by
  have hlooks : Consumer.looks s.notify
      (Consumer.awaiting (Notified.created calls)) =
        s.notify.completed calls := rfl
  have hpassing : Consumer.passing s.notify
      (Consumer.awaiting (Notified.created calls)) =
        s.notify.completed calls := rfl
  have hwindow : Consumer.window s.notify
      (Consumer.awaiting (Notified.created calls)) =
        !s.notify.completed calls := rfl
  cases hpermit : s.notify.permit with
  | true =>
      rw [poll_of_ready (Notify.poll_of_permit hpermit)]
      have hcount : Recount s
          (({ s with notify := { s.notify with permit := false } } :
            ConsumerState).set i (Consumer.checking s.notify.calls)) _ _ :=
        recount hconsumer rfl rfl
      refine ⟨h.represented, h.dated.checking rfl rfl, ?_⟩
      cases hdone : s.notify.completed calls with
      | true =>
          rw [hdone] at hlooks hpassing hwindow
          have hlookers := hcount.lookers
          have hcompleted := hcount.completed
          have hwaiting := hcount.window
          rw [hlooks] at hlookers
          rw [hpassing] at hcompleted
          rw [hwindow] at hwaiting
          exact h.covered.pass rfl (Nat.succ_injective hlookers) hcompleted
            hwaiting hcount.parked rfl rfl rfl rfl
      | false =>
          rw [hdone] at hlooks hpassing hwindow
          have hlookers := hcount.lookers
          have hcompleted := hcount.completed
          have hwaiting := hcount.window
          rw [hlooks] at hlookers
          rw [hpassing] at hcompleted
          rw [hwindow] at hwaiting
          exact h.covered.takePermit rfl hlookers hwaiting hcount.parked rfl
            rfl rfl rfl
  | false =>
      cases hdone : s.notify.completed calls with
      | true =>
          rw [poll_of_ready (Notify.poll_of_completed hpermit hdone)]
          have hcount : Recount s (s.set i (Consumer.checking s.notify.calls))
              _ _ := recount hconsumer rfl rfl
          refine ⟨h.represented, h.dated.checking rfl rfl, ?_⟩
          rw [hdone] at hlooks hpassing hwindow
          have hlookers := hcount.lookers
          have hcompleted := hcount.completed
          have hwaiting := hcount.window
          rw [hlooks] at hlookers
          rw [hpassing] at hcompleted
          rw [hwindow] at hwaiting
          exact h.covered.pass rfl (Nat.succ_injective hlookers) hcompleted
            hwaiting hcount.parked rfl rfl hpermit rfl
      | false =>
          rw [poll_of_pending (Notify.poll_of_fresh hpermit hdone)]
          have hcount : Recount s
              (s.set i (Consumer.awaiting Notified.waiting)) _ _ :=
            recount hconsumer rfl rfl
          refine ⟨h.represented, h.dated.awaiting rfl rfl (Or.inl rfl), ?_⟩
          rw [hdone] at hlooks hwindow
          have hlookers := hcount.lookers
          have hwaiting := hcount.window
          rw [hlooks] at hlookers
          rw [hwindow] at hwaiting
          exact h.covered.park rfl hlookers hwaiting hcount.parked rfl rfl
            hpermit hpermit rfl

theorem Served.poll (h : s.Served) {notified : Notified}
    (hconsumer : s.consumers[i]? = some (Consumer.awaiting notified)) :
    (s.poll i notified).Served := by
  cases notified with
  | created calls => exact h.pollCreated hconsumer
  | waiting =>
      rw [poll_of_pending rfl]
      have hsame : s.set i (Consumer.awaiting Notified.waiting) = s := by
        rcases List.getElem?_eq_some_iff.mp hconsumer with ⟨hi, hold⟩
        unfold ConsumerState.set
        rw [← hold, List.set_getElem_self]
      change (s.set i (Consumer.awaiting Notified.waiting)).Served
      rw [hsame]
      exact h
  | woken =>
      rw [poll_of_ready rfl]
      have hcount : Recount s (s.set i (Consumer.checking s.notify.calls)) _ _ :=
        recount hconsumer rfl rfl
      refine ⟨h.represented, h.dated.checking rfl rfl, ?_⟩
      have hlookers := Nat.succ_injective hcount.lookers
      exact h.covered.grow (Nat.le_refl _) (Nat.le_of_eq hlookers.symm)
        hcount.completed hcount.window hcount.parked (Nat.le_refl _) rfl
        Or.inl

theorem Served.insert (h : s.Served) (key : String) (incoming : IncomingV1) :
    (s.insert limits key incoming).Served := by
  rcases h.represented with ⟨book, hrefines⟩
  rcases hrefines.insert limits s.instant key incoming with ⟨hresult, hafter⟩
  have hbefore := live_eq hrefines
  have hclosed : (s.queue.insert limits s.instant key incoming).1.closed =
      s.queue.closed := by
    rw [hafter.closed, hrefines.closed]
    exact book.insert_closed limits s.instant key incoming
  unfold ConsumerState.insert
  generalize s.queue.insert limits s.instant key incoming = turn
    at hresult hafter hclosed ⊢
  rcases turn with ⟨queue, result⟩
  dsimp only at hresult hafter hclosed ⊢
  rcases book.alive_insert limits s.instant key incoming with
    ⟨error, hrejected, hlive⟩ | ⟨haccepted, hlive⟩
  · rw [hresult, hrejected]
    have hcount := live_eq (s := { s with queue := queue }) hafter
    apply h.queue ⟨_, hafter⟩
    case hlive =>
      change ConsumerState.live { s with queue := queue } + s.singles ≤
        s.live + s.singles
      rw [hcount, hbefore]
      exact Nat.add_le_add_right hlive _
    case hconsumers => rfl
    case hnotify => rfl
    case hbroadcasts => exact Nat.le_refl _
    case hclosed =>
      intro hshut
      exact Or.inl (hclosed.symm.trans hshut)
  · rw [hresult, haccepted]
    have hcount := live_eq (s := { s with
      queue := queue, singles := s.singles + 1 }) hafter
    apply h.queue ⟨_, hafter⟩
    case hlive =>
      rw [hcount, hbefore]
      calc (book.insert limits s.instant key incoming).1.alive s.instant +
            s.singles
          ≤ book.alive s.instant + 1 + s.singles :=
            Nat.add_le_add_right hlive _
        _ = book.alive s.instant + (s.singles + 1) := by omega
    case hconsumers => rfl
    case hnotify => rfl
    case hbroadcasts => exact Nat.le_refl _
    case hclosed =>
      intro hshut
      exact Or.inl (hclosed.symm.trans hshut)

/-- A notification wakes one of the consumers that wait. -/
theorem Served.wake (h : s.Served) {singles : Nat}
    (hsingles : s.singles = singles + 1)
    (hconsumer : s.consumers[i]? = some (Consumer.awaiting Notified.waiting)) :
    (({ s with singles := singles } : ConsumerState).set i
      (Consumer.awaiting Notified.woken)).Served := by
  have hcount : Recount s (({ s with singles := singles } : ConsumerState).set i
      (Consumer.awaiting Notified.woken)) _ _ := recount hconsumer rfl rfl
  refine ⟨h.represented, h.dated.awaiting rfl rfl (Or.inr rfl), ?_⟩
  exact h.covered.wake rfl hcount.lookers hcount.completed hcount.window
    hcount.parked hsingles.symm rfl rfl rfl

theorem Served.store (h : s.Served) (hheard : s.census.Heard) {singles : Nat}
    (hsingles : s.singles = singles + 1)
    (hnobody : ¬ s.consumers.any Consumer.parked = true) :
    ({ s with notify := s.notify.storePermit, singles := singles } :
      ConsumerState).Served := by
  have hparked : s.census.parked = 0 := by
    apply List.countP_eq_zero.mpr
    intro consumer hmem hwaits
    exact hnobody (List.any_eq_true.mpr ⟨consumer, hmem, hwaits⟩)
  refine ⟨h.represented, h.dated.of_consumers rfl rfl, ?_⟩
  exact h.covered.store hheard rfl rfl rfl rfl hparked hparked hsingles.symm rfl
    rfl rfl

theorem Served.broadcast (h : s.Served) {broadcasts : Nat} :
    ({ s with
      notify := s.notify.notifyWaiters
      consumers := s.consumers.map Consumer.wake
      broadcasts := broadcasts } : ConsumerState).Served := by
  refine ⟨h.represented, ?_, ?_⟩
  · intro other hother calls hcreated
    rcases List.mem_map.mp hother with ⟨consumer, hmem, rfl⟩
    have hearlier : consumer = Consumer.checking calls ∨
        consumer = Consumer.awaiting (Notified.created calls) := by
      cases consumer with
      | checking created => exact hcreated
      | awaiting notified =>
          cases notified with
          | created created => exact hcreated
          | waiting =>
              rcases hcreated with hcreated | hcreated
              · cases hcreated
              · cases hcreated
          | woken =>
              rcases hcreated with hcreated | hcreated
              · cases hcreated
              · cases hcreated
      | returned result => exact hcreated
    exact Nat.le_succ_of_le (h.dated consumer hmem calls hearlier)
  · apply Census.Covered.broadcast
    case hwindow =>
      apply List.countP_eq_zero.mpr
      intro other hother
      rcases List.mem_map.mp hother with ⟨consumer, hmem, rfl⟩
      cases consumer with
      | checking created => exact Bool.false_ne_true
      | awaiting notified =>
          cases notified with
          | created created =>
              have hdated := h.dated _ hmem created (Or.inr rfl)
              have hdone : s.notify.notifyWaiters.completed created = true := by
                apply decide_eq_true
                exact Nat.ne_of_lt (Nat.lt_succ_of_le hdated)
              change ¬ (!s.notify.notifyWaiters.completed created) = true
              rw [hdone]
              exact Bool.false_ne_true
          | waiting => exact Bool.false_ne_true
          | woken => exact Bool.false_ne_true
      | returned result => exact Bool.false_ne_true
    case hparked =>
      apply List.countP_eq_zero.mpr
      intro other hother
      rcases List.mem_map.mp hother with ⟨consumer, hmem, rfl⟩
      cases consumer with
      | checking created => exact Bool.false_ne_true
      | awaiting notified =>
          cases notified with
          | created created => exact Bool.false_ne_true
          | waiting => exact Bool.false_ne_true
          | woken => exact Bool.false_ne_true
      | returned result => exact Bool.false_ne_true

theorem Served.call (h : s.Served) :
    ({ s with
      consumers := s.consumers ++ [Consumer.checking s.notify.calls] } :
      ConsumerState).Served := by
  refine ⟨h.represented, ?_, ?_⟩
  · intro consumer hmem calls hcreated
    rcases List.mem_append.mp hmem with hearlier | hnew
    · exact h.dated consumer hearlier calls hcreated
    · rw [List.mem_singleton] at hnew
      subst hnew
      rcases hcreated with hcreated | hcreated
      · injection hcreated with hcreated
        exact Nat.le_of_eq hcreated.symm
      · cases hcreated
  · apply h.covered.grow
    case hitems => exact Nat.le_refl _
    case hlookers =>
      unfold census
      dsimp only
      rw [List.countP_append]
      exact Nat.le_add_right _ _
    case hcompleted =>
      unfold census
      dsimp only
      rw [List.countP_append]
      rfl
    case hwindow =>
      unfold census
      dsimp only
      rw [List.countP_append]
      rfl
    case hparked =>
      unfold census
      dsimp only
      rw [List.countP_append]
      rfl
    case hbroadcasts => exact Nat.le_refl _
    case hpermit => rfl
    case hclosed => exact Or.inl

theorem start_served : start.Served := by
  refine ⟨⟨PendingBook.empty, represents_nil false, rfl⟩, ?_, ?_⟩
  · intro consumer hmem
    cases hmem
  · apply Census.Covered.broadcast
    case hwindow => rfl
    case hparked => rfl

theorem Served.next (h : s.Served) {label : ConsumerLabel}
    (hheard : s.Heard label) (hnext : s.next limits label = some after) :
    after.Served := by
  rcases h.represented with ⟨book, hrefines⟩
  have hbefore := live_eq hrefines
  unfold ConsumerState.next at hnext
  cases label with
  | tick instant =>
      dsimp only at hnext
      split at hnext
      · rename_i hle
        injection hnext with hnext
        rw [← hnext]
        apply h.queue
        case hrepresented => exact h.represented
        case hlive =>
          have hafter := live_eq (s := { s with instant := instant }) hrefines
          rw [hafter, hbefore]
          exact Nat.add_le_add_right (book.alive_anti hle) _
        case hconsumers => rfl
        case hnotify => rfl
        case hbroadcasts => exact Nat.le_refl _
        case hclosed => exact Or.inl
      · cases hnext
  | call =>
      injection hnext with hnext
      rw [← hnext]
      exact h.call
  | check i =>
      dsimp only at hnext
      split at hnext
      · rename_i calls hconsumer
        injection hnext with hnext
        rw [← hnext]
        exact h.check hconsumer
      · cases hnext
  | poll i =>
      dsimp only at hnext
      split at hnext
      · rename_i notified hconsumer
        injection hnext with hnext
        rw [← hnext]
        exact h.poll hconsumer
      · cases hnext
  | insert key incoming =>
      injection hnext with hnext
      rw [← hnext]
      exact h.insert key incoming
  | notifyOne woken =>
      cases woken with
      | some i =>
          dsimp only at hnext
          split at hnext
          · rename_i singles hsingles hconsumer
            injection hnext with hnext
            rw [← hnext]
            exact h.wake hsingles hconsumer
          · cases hnext
      | none =>
          dsimp only at hnext
          split at hnext
          · cases hnext
          · rename_i singles hsingles
            split at hnext
            · cases hnext
            · rename_i hnobody
              injection hnext with hnext
              rw [← hnext]
              exact h.store hheard hsingles hnobody
  | expire key =>
      injection hnext with hnext
      rw [← hnext]
      apply h.queue
      case hrepresented => exact ⟨_, hrefines.expire key⟩
      case hlive =>
        have hafter := live_eq (s := { s with
          queue := s.queue.expire key, broadcasts := s.broadcasts + 1 })
          (hrefines.expire key)
        rw [hafter, hbefore]
        exact Nat.add_le_add_right
          (PendingBook.alive_le_of_sublist List.filter_sublist _) _
      case hconsumers => rfl
      case hnotify => rfl
      case hbroadcasts => exact Nat.le_succ _
      case hclosed => exact fun _ => Or.inr (Nat.succ_pos _)
  | prune =>
      injection hnext with hnext
      rw [← hnext]
      apply h.queue
      case hrepresented => exact ⟨_, hrefines.live s.instant⟩
      case hlive =>
        have hafter := live_eq (s := { s with
          queue := s.queue.pruneExpired s.instant }) (hrefines.live s.instant)
        rw [hafter, hbefore]
        exact Nat.add_le_add_right
          (PendingBook.alive_le_of_sublist List.filter_sublist _) _
      case hconsumers => rfl
      case hnotify => rfl
      case hbroadcasts => exact Nat.le_refl _
      case hclosed =>
        intro hshut
        exact Or.inl ((pruneExpired_closed s.queue s.instant).symm.trans hshut)
  | close =>
      injection hnext with hnext
      rw [← hnext]
      apply h.queue
      case hrepresented => exact ⟨_, refines_close s.queue book⟩
      case hlive =>
        have hafter := live_eq (s := { s with
          queue := s.queue.close, broadcasts := s.broadcasts + 1 })
          (refines_close s.queue book)
        rw [hafter, hbefore]
        exact Nat.add_le_add_right
          (PendingBook.alive_le_of_sublist List.filter_sublist _) _
      case hconsumers => rfl
      case hnotify => rfl
      case hbroadcasts => exact Nat.le_succ _
      case hclosed => exact fun _ => Or.inr (Nat.succ_pos _)
  | notifyWaiters =>
      dsimp only at hnext
      split at hnext
      · cases hnext
      · injection hnext with hnext
        rw [← hnext]
        exact h.broadcast

/--
A request is queued, or the queue is closed, and every call that has not
returned waits with no wake-up on its way.
-/
structure Sleeping (s : ConsumerState) : Prop where
  waited : 0 < s.live ∨ s.queue.closed = true
  someone : exists consumer, consumer ∈ s.consumers ∧
    consumer.outstanding = true
  everyone (consumer : Consumer) :
    consumer ∈ s.consumers -> consumer.outstanding = true ->
      consumer.parked = true
  permit : s.notify.permit = false
  singles : s.singles = 0
  broadcasts : s.broadcasts = 0

/-- Nobody is in a state in which a call has not returned and does not wait. -/
theorem Sleeping.countP_eq_zero (h : s.Sleeping) (p : Consumer -> Bool)
    (hp : forall consumer, p consumer = true ->
      consumer.outstanding = true ∧ consumer.parked = false) :
    s.consumers.countP p = 0 := by
  apply List.countP_eq_zero.mpr
  intro consumer hmem hholds
  rcases hp consumer hholds with ⟨hopen, hawake⟩
  rw [h.everyone consumer hmem hopen] at hawake
  cases hawake

theorem awake_of_looks (notify : Notify) (consumer : Consumer)
    (h : consumer.looks notify = true) :
    consumer.outstanding = true ∧ consumer.parked = false := by
  cases consumer with
  | checking calls => exact ⟨rfl, rfl⟩
  | awaiting notified =>
      cases notified with
      | created calls => exact ⟨rfl, rfl⟩
      | waiting => cases h
      | woken => exact ⟨rfl, rfl⟩
  | returned result => cases h

theorem awake_of_created (consumer : Consumer) (kept : Nat -> Bool)
    (h : (match consumer with
      | Consumer.awaiting (Notified.created calls) => kept calls
      | _ => false) = true) :
    consumer.outstanding = true ∧ consumer.parked = false := by
  cases consumer with
  | checking calls => cases h
  | awaiting notified =>
      cases notified with
      | created calls => exact ⟨rfl, rfl⟩
      | waiting => cases h
      | woken => cases h
  | returned result => cases h

theorem Sleeping.asleep (h : s.Sleeping) : s.census.Asleep := by
  constructor
  case lookers => exact h.countP_eq_zero _ (awake_of_looks s.notify)
  case completed =>
    exact h.countP_eq_zero _ fun consumer => awake_of_created consumer _
  case window =>
    exact h.countP_eq_zero _ fun consumer => awake_of_created consumer _
  case parked =>
    rcases h.someone with ⟨consumer, hmem, hopen⟩
    exact List.countP_pos_iff.mpr ⟨consumer, hmem, h.everyone consumer hmem hopen⟩
  case singles => exact h.singles
  case broadcasts => exact h.broadcasts
  case permit => exact h.permit

end ConsumerState

/--
In a run in which every single notification that finds nobody waiting is heard,
no request sleeps in the queue.
-/
theorem no_request_sleeps {limits : QueueLimits} {s : ConsumerState}
    (h : (consumerMachine limits).ReachableWhen ConsumerState.Heard s) :
    ¬ s.Sleeping := by
  have hserved : s.Served := by
    apply Machine.ReachableWhen.invariant (I := ConsumerState.Served) _ _ h
    · rintro s rfl
      exact ConsumerState.start_served
    · intro s label after hserved hheard hnext
      exact hserved.next hheard hnext
  intro hsleeping
  rcases hserved.covered.awake hsleeping.asleep with ⟨hitems, hopen⟩
  rcases hsleeping.waited with hwaited | hclosed
  · exact Nat.ne_of_gt hwaited hitems
  · rw [show s.queue.closed = false from hopen] at hclosed
    cases hclosed

/-!
# Two consumers and two requests
-/

/-- A request is admitted when there is room for it. -/
theorem PendingBook.insert_of_room {limits : QueueLimits} {book : PendingBook}
    {now : Instant} {key : String} (incoming : IncomingV1)
    (hopen : book.closed = false)
    (hroom : (book.live now).book.queued.length < limits.capacity)
    (hidentity : (book.live now).book.queued.length <
      limits.perIdentityCapacity)
    (hkey : key ∉ (book.live now).book.queued.map Ticket.key) :
    book.insert limits now key incoming =
      ((book.live now).issue key incoming, Except.ok ()) := by
  have hshare : ¬ limits.perIdentityCapacity ≤
      Queued.share (book.live now).book.queued incoming.identity :=
    Nat.not_le_of_lt (lt_of_le_of_lt List.countP_le_length hidentity)
  unfold PendingBook.insert
  dsimp only
  rw [hopen, if_neg Bool.false_ne_true,
    if_neg (not_or.mpr ⟨Nat.not_le_of_lt hroom, hkey⟩), if_neg hshare]

namespace Sample

def consumerLimits : QueueLimits :=
  { capacity := 2, perIdentityCapacity := 2 }

def waiting (queue : PendingQueueState) (permit : Bool)
    (consumers : List Consumer) (singles : Nat) : ConsumerState :=
  { instant := 0
    queue := queue
    notify := { permit := permit, calls := 0 }
    consumers := consumers
    singles := singles
    broadcasts := 0 }

/-- Two turns have found nothing, and then a request has come in. -/
def held : PendingBook :=
  (((PendingBook.empty.next 0).1.next 0).1.insert consumerLimits 0 "first"
    (sampleRequest 10)).1

def turned : Option (ClientResult IncomingV1) -> Consumer
  | some result => Consumer.returned result
  | none => Consumer.awaiting (Notified.created 0)

section Runs

variable {allowed : ConsumerState -> ConsumerLabel -> Prop}
variable {queue : PendingQueueState} {book : PendingBook}

theorem waiting_step {s after : ConsumerState}
    (h : (consumerMachine consumerLimits).ReachableWhen allowed s)
    (label : ConsumerLabel) (hallowed : allowed s label)
    (hnext : s.next consumerLimits label = some after) :
    (consumerMachine consumerLimits).ReachableWhen allowed after :=
  Machine.ReachableWhen.step h hallowed hnext

theorem waiting_insert (hrefines : Refines queue book) (key : String)
    (incoming : IncomingV1)
    (hinsert : (book.insert consumerLimits 0 key incoming).2 = Except.ok ())
    (permit : Bool) (consumers : List Consumer) (singles : Nat) :
    exists after, Refines after (book.insert consumerLimits 0 key incoming).1 ∧
      (waiting queue permit consumers singles).next consumerLimits
          (ConsumerLabel.insert key incoming) =
        some (waiting after permit consumers (singles + 1)) := by
  rcases hrefines.insert consumerLimits 0 key incoming with ⟨hresult, hafter⟩
  rw [hinsert] at hresult
  refine ⟨_, hafter, ?_⟩
  change some (ConsumerState.insert consumerLimits _ key incoming) = _
  unfold ConsumerState.insert waiting
  dsimp only
  generalize queue.insert consumerLimits 0 key incoming = turn at hresult ⊢
  rcases turn with ⟨after, result⟩
  dsimp only at hresult
  subst hresult
  rfl

theorem waiting_check (hrefines : Refines queue book) (i : Nat)
    (permit : Bool) (consumers : List Consumer) (singles : Nat)
    (hconsumer : consumers[i]? = some (Consumer.checking 0)) :
    exists after, Refines after (book.next 0).1 ∧
      (waiting queue permit consumers singles).next consumerLimits
          (ConsumerLabel.check i) =
        some (waiting after permit (consumers.set i (turned (book.next 0).2))
          singles) := by
  rcases hrefines.next 0 with ⟨hresult, hafter⟩
  refine ⟨_, hafter, ?_⟩
  have hlabel : (waiting queue permit consumers singles).next consumerLimits
      (ConsumerLabel.check i) =
        some ((waiting queue permit consumers singles).check i 0) := by
    unfold ConsumerState.next waiting
    dsimp only
    rw [hconsumer]
  rw [hlabel, ← hresult]
  unfold ConsumerState.check waiting
  dsimp only
  generalize queue.next 0 = turn
  rcases turn with ⟨after, result⟩
  cases result with
  | some result => rfl
  | none => rfl

theorem empty_refines : Refines PendingQueueState.new PendingBook.empty :=
  ⟨represents_nil false, rfl⟩

theorem empty_reachable :
    (consumerMachine consumerLimits).ReachableWhen allowed
      (waiting PendingQueueState.new false [] 0) :=
  Machine.ReachableWhen.start rfl

end Runs

end Sample

/-- A consumer waits, a request comes in, and the consumer is woken. -/
theorem no_request_sleeps_sample :
    exists s : ConsumerState, 0 < s.live ∧
      s.consumers = [Consumer.awaiting Notified.woken] ∧ ¬ s.Sleeping := by
  have hstart : (consumerMachine Sample.consumerLimits).ReachableWhen
      ConsumerState.Heard (Sample.waiting PendingQueueState.new false [] 0) :=
    Sample.empty_reachable
  have hcalled := Sample.waiting_step hstart ConsumerLabel.call trivial rfl
  rcases Sample.waiting_check Sample.empty_refines 0 false
    [Consumer.checking 0] 0 rfl with ⟨queue, hlooked, hcheck⟩
  have hchecked := Sample.waiting_step hcalled (ConsumerLabel.check 0) trivial
    hcheck
  have hparked := Sample.waiting_step hchecked (ConsumerLabel.poll 0) trivial rfl
  rcases Sample.waiting_insert hlooked "first" (sampleRequest 10) rfl false
    [Consumer.awaiting Notified.waiting] 0 with ⟨queue', hheld, hinsert⟩
  have hinserted := Sample.waiting_step hparked
    (ConsumerLabel.insert "first" (sampleRequest 10)) trivial hinsert
  have hwoken := Sample.waiting_step hinserted
    (ConsumerLabel.notifyOne (some 0)) trivial rfl
  refine ⟨_, ?_, rfl, no_request_sleeps hwoken⟩
  rw [ConsumerState.live_eq hheld]
  exact Nat.one_pos

/--
Two consumers look at the empty queue. Two requests come in, and their wake-ups
make one permit: the second consumer waits for a request that is queued.
-/
theorem request_sleeps :
    exists s : ConsumerState,
      (consumerMachine Sample.consumerLimits).Reachable s ∧ s.Sleeping := by
  have hstart : (consumerMachine Sample.consumerLimits).Reachable
      (Sample.waiting PendingQueueState.new false [] 0) :=
    Sample.empty_reachable
  have hcalled := Sample.waiting_step
    (Sample.waiting_step hstart ConsumerLabel.call trivial rfl)
    ConsumerLabel.call trivial rfl
  rcases Sample.waiting_check Sample.empty_refines 0 false
    [Consumer.checking 0, Consumer.checking 0] 0 rfl with ⟨_, hone, hcheckOne⟩
  have hlooked := Sample.waiting_step hcalled (ConsumerLabel.check 0) trivial
    hcheckOne
  rcases Sample.waiting_check hone 1 false
    [Consumer.awaiting (Notified.created 0), Consumer.checking 0] 0 rfl with
    ⟨_, htwo, hcheckTwo⟩
  have hboth := Sample.waiting_step hlooked (ConsumerLabel.check 1) trivial
    hcheckTwo
  let window := [Consumer.awaiting (Notified.created 0),
    Consumer.awaiting (Notified.created 0)]
  rcases Sample.waiting_insert htwo "first" (sampleRequest 10) rfl false window
    0 with ⟨_, hfirst, hinsertFirst⟩
  have hqueued := Sample.waiting_step hboth
    (ConsumerLabel.insert "first" (sampleRequest 10)) trivial hinsertFirst
  have hroom : Sample.held.insert Sample.consumerLimits 0 "second"
      (sampleRequest 10) =
        ((Sample.held.live 0).issue "second" (sampleRequest 10),
          Except.ok ()) := by
    apply PendingBook.insert_of_room
    case hopen => rfl
    case hroom => exact Nat.one_lt_two
    case hidentity => exact Nat.one_lt_two
    case hkey =>
      have hkeys : (Sample.held.live 0).book.queued.map Ticket.key =
          ["first"] := rfl
      rw [hkeys]
      decide
  rcases Sample.waiting_insert hfirst "second" (sampleRequest 10)
    (congrArg Prod.snd hroom) false window 1 with ⟨_, hsecond, hinsertSecond⟩
  have hfull := Sample.waiting_step hqueued
    (ConsumerLabel.insert "second" (sampleRequest 10)) trivial hinsertSecond
  have hnotified := Sample.waiting_step
    (Sample.waiting_step hfull (ConsumerLabel.notifyOne none) trivial rfl)
    (ConsumerLabel.notifyOne none) trivial rfl
  have hpolled := Sample.waiting_step hnotified (ConsumerLabel.poll 0) trivial rfl
  change Refines _ (Sample.held.insert Sample.consumerLimits 0 "second"
    (sampleRequest 10)).1 at hsecond
  rw [hroom] at hsecond
  rcases Sample.waiting_check hsecond 0 false
    [Consumer.checking 0, Consumer.awaiting (Notified.created 0)] 0 rfl with
    ⟨_, hleft, hcheckThree⟩
  have htaken := Sample.waiting_step hpolled (ConsumerLabel.check 0) trivial
    hcheckThree
  have hparked := Sample.waiting_step htaken (ConsumerLabel.poll 1) trivial rfl
  refine ⟨_, hparked, ?_⟩
  constructor
  case waited =>
    left
    rw [ConsumerState.live_eq hleft]
    exact Nat.one_pos
  case someone =>
    exact ⟨Consumer.awaiting Notified.waiting,
      List.mem_cons_of_mem _ (List.mem_singleton_self _), rfl⟩
  case everyone =>
    intro consumer hmem hopen
    rcases List.mem_cons.mp hmem with hreturned | hlast
    · subst hreturned
      cases hopen
    · rw [List.mem_singleton.mp hlast]
      rfl
  case permit => rfl
  case singles => rfl
  case broadcasts => rfl

end Client
end Pubky2Pubky
