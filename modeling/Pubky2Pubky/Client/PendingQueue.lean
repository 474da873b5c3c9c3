import Pubky2Pubky.Foundation.Book
import Pubky2Pubky.Foundation.Machine
import Pubky2Pubky.Protocol.Reference
import Pubky2Pubky.Client.Handshake

/-!
# The consent queue

Authenticated requests wait for a decision of the application. The queue keeps
three collections that say the same thing: the order of the keys, the entries,
and the number of entries of each identity.
-/

namespace Pubky2Pubky
namespace Client

open Foundation Protocol

/-- A reading of the monotonic clock. -/
abbrev Instant := Nat

/-- A request that has been admitted until its deadline. -/
structure AdmittedV1 extends PendingV1 where
  deadline : Instant

/-- A request; its parts are gone once it has been accepted or rejected. -/
structure IncomingV1 where
  pending : Option AdmittedV1

def IncomingV1.identity (self : IncomingV1) : String :=
  match self.pending with
  | none => ""
  | some pending => pending.hello.claims.fromIdentity

def IncomingV1.deviceId (self : IncomingV1) : String :=
  match self.pending with
  | none => ""
  | some pending => pending.hello.claims.fromDeviceId

def IncomingV1.application (self : IncomingV1) : String :=
  match self.pending with
  | none => ""
  | some pending => pending.hello.claims.application

def IncomingV1.expired (self : IncomingV1) (now : Instant) : Bool :=
  self.pending.all fun pending => decide (pending.deadline ≤ now)

/-- The limits a queue is made with. -/
structure QueueLimits where
  capacity : Nat
  perIdentityCapacity : Nat

structure PendingQueueState where
  order : List String
  entries : Std.ExtTreeMap String IncomingV1 compare
  perIdentity : Std.ExtTreeMap String Nat compare
  closed : Bool

namespace PendingQueueState

def new : PendingQueueState :=
  { order := [], entries := ∅, perIdentity := ∅, closed := false }

def releaseIdentity (perIdentity : Std.ExtTreeMap String Nat compare)
    (identity : String) : Std.ExtTreeMap String Nat compare :=
  match perIdentity[identity]? with
  | none => perIdentity
  | some count =>
      if count - 1 = 0 then perIdentity.erase identity
      else perIdentity.insert identity (count - 1)

def remove (s : PendingQueueState) (key : String) :
    PendingQueueState × Option IncomingV1 :=
  match s.entries[key]? with
  | none => (s, none)
  | some incoming =>
      ({ s with
        entries := s.entries.erase key
        order := s.order.filter fun queued => decide (queued ≠ key)
        perIdentity := releaseIdentity s.perIdentity incoming.identity },
        some incoming)

def removeAll (s : PendingQueueState) : List String -> PendingQueueState
  | [] => s
  | key :: rest => (s.remove key).1.removeAll rest

def pruneExpired (s : PendingQueueState) (now : Instant) : PendingQueueState :=
  s.removeAll ((s.entries.toList.filter fun entry =>
    entry.2.expired now).map Prod.fst)

def queueFull : ClientError :=
  ClientError.iroh "authenticated v1 peer queue is full"

def identityFull : ClientError :=
  ClientError.iroh "authenticated v1 identity pending limit reached"

def insert (limits : QueueLimits) (s : PendingQueueState) (now : Instant)
    (key : String) (incoming : IncomingV1) :
    PendingQueueState × ClientResult Unit :=
  let state := s.pruneExpired now
  if state.closed then (state, Except.error ClientError.channelClosed)
  else if state.entries.size ≥ limits.capacity ∨
      state.entries.contains key = true then
    (state, Except.error queueFull)
  else
    let identity := incoming.identity
    let count := (state.perIdentity[identity]?).getD 0
    if count ≥ limits.perIdentityCapacity then
      (state, Except.error identityFull)
    else
      ({ state with
        perIdentity := state.perIdentity.insert identity (count + 1)
        order := state.order ++ [key]
        entries := state.entries.insert key incoming }, Except.ok ())

def expire (s : PendingQueueState) (key : String) : PendingQueueState :=
  (s.remove key).1

/-- Pop keys off the front until one has an entry. -/
def popEntry (s : PendingQueueState) :
    List String -> PendingQueueState × Option IncomingV1
  | [] => ({ s with order := [] }, none)
  | key :: rest =>
      match ({ s with order := rest } : PendingQueueState).remove key with
      | (after, some incoming) => (after, some incoming)
      | (after, none) => after.popEntry rest

/-- One turn of the loop; without a result the caller waits. -/
def next (s : PendingQueueState) (now : Instant) :
    PendingQueueState × Option (ClientResult IncomingV1) :=
  let state := s.pruneExpired now
  match state.popEntry state.order with
  | (after, some incoming) => (after, some (Except.ok incoming))
  | (after, none) =>
      if after.closed then
        (after, some (Except.error ClientError.channelClosed))
      else (after, none)

def close (_ : PendingQueueState) : PendingQueueState :=
  { order := [], entries := ∅, perIdentity := ∅, closed := true }

end PendingQueueState

/-!
# What the queue is for

A list of tickets, oldest first. Every operation first drops what has expired,
where the queue looks at the clock.
-/

abbrev Queued := List (Ticket String IncomingV1)

/-- The queued requests of an identity. -/
def Queued.share (queued : Queued) (identity : String) : Nat :=
  queued.countP fun ticket => decide (ticket.item.identity = identity)

/-- The tickets whose deadline has not passed. -/
def Queued.live (queued : Queued) (now : Instant) : Queued :=
  queued.filter fun ticket => !ticket.item.expired now

structure PendingBook where
  book : Book String IncomingV1
  closed : Bool

namespace PendingBook

def empty : PendingBook :=
  { book := Book.empty, closed := false }

def live (self : PendingBook) (now : Instant) : PendingBook :=
  { self with
    book := self.book.keep fun ticket => !ticket.item.expired now }

def issue (self : PendingBook) (key : String) (incoming : IncomingV1) :
    PendingBook :=
  { self with book := self.book.issue key incoming }

def take (self : PendingBook) : PendingBook :=
  { self with book := self.book.take }

def insert (limits : QueueLimits) (self : PendingBook) (now : Instant)
    (key : String) (incoming : IncomingV1) :
    PendingBook × ClientResult Unit :=
  let live := self.live now
  let queued := live.book.queued
  if self.closed then (live, Except.error ClientError.channelClosed)
  else if limits.capacity ≤ queued.length ∨ key ∈ queued.map Ticket.key then
    (live, Except.error PendingQueueState.queueFull)
  else if limits.perIdentityCapacity ≤ Queued.share queued incoming.identity then
    (live, Except.error PendingQueueState.identityFull)
  else (live.issue key incoming, Except.ok ())

def expire (self : PendingBook) (key : String) : PendingBook :=
  { self with
    book := self.book.keep fun ticket => decide (ticket.key ≠ key) }

def next (self : PendingBook) (now : Instant) :
    PendingBook × Option (ClientResult IncomingV1) :=
  let live := self.live now
  match live.book.queued with
  | ticket :: _ => (live.take, some (Except.ok ticket.item))
  | [] =>
      if self.closed then
        (live, some (Except.error ClientError.channelClosed))
      else (live, none)

def close (self : PendingBook) : PendingBook :=
  { book := self.book.keep fun _ => false, closed := true }

end PendingBook

/-!
# The collections of the queue

The three collections represent a list of tickets with different keys.
-/

section Representation

structure Represents (s : PendingQueueState) (queued : Queued) : Prop where
  order : s.order = queued.map Ticket.key
  held (ticket : Ticket String IncomingV1) :
    ticket ∈ queued -> s.entries[ticket.key]? = some ticket.item
  only (key : String) (incoming : IncomingV1) :
    s.entries[key]? = some incoming ->
      exists ticket, ticket ∈ queued ∧ ticket.key = key ∧
        ticket.item = incoming
  size : s.entries.size = queued.length
  counts (identity : String) :
    s.perIdentity[identity]? =
      if queued.share identity = 0 then none else some (queued.share identity)
  distinct : (queued.map Ticket.key).Nodup

variable {s : PendingQueueState} {queued : Queued}

theorem represents_nil (closed : Bool) :
    Represents { order := [], entries := ∅, perIdentity := ∅, closed := closed }
      [] := by
  constructor
  case order => rfl
  case held =>
    intro ticket hmem
    cases hmem
  case only =>
    intro key incoming h
    rw [Std.ExtTreeMap.getElem?_empty] at h
    cases h
  case size => rfl
  case counts =>
    intro identity
    rw [Std.ExtTreeMap.getElem?_empty]
    rfl
  case distinct => exact List.nodup_nil

/-- Without the tickets of one key. -/
def Queued.without (queued : Queued) (key : String) : Queued :=
  queued.filter fun ticket => decide (ticket.key ≠ key)

theorem Queued.without_of_not_mem {key : String}
    (h : forall ticket, ticket ∈ queued -> ticket.key ≠ key) :
    queued.without key = queued := by
  apply List.filter_eq_self.mpr
  intro ticket hmem
  exact decide_eq_true (h ticket hmem)

/-- A key has one ticket, so removing it splits the list there. -/
theorem Queued.split {ticket : Ticket String IncomingV1}
    (hdistinct : (queued.map Ticket.key).Nodup) (hmem : ticket ∈ queued) :
    exists before after, queued = before ++ ticket :: after ∧
      queued.without ticket.key = before ++ after := by
  rcases List.append_of_mem hmem with ⟨before, after, rfl⟩
  refine ⟨before, after, rfl, ?_⟩
  rw [List.map_append, List.map_cons, List.nodup_append] at hdistinct
  rcases hdistinct with ⟨_, hafter, hdisjoint⟩
  unfold without
  rw [List.filter_append, List.filter_cons_of_neg]
  · have hbefore : Queued.without before ticket.key = before := by
      apply Queued.without_of_not_mem
      intro other hother hkey
      exact hdisjoint _ (List.mem_map_of_mem hother) _ List.mem_cons_self hkey
    have hlast : Queued.without after ticket.key = after := by
      apply Queued.without_of_not_mem
      intro other hother hkey
      apply (List.nodup_cons.mp hafter).left
      rw [← hkey]
      exact List.mem_map_of_mem hother
    exact congr (congrArg _ hbefore) hlast
  · simp only [ne_eq, not_true_eq_false, decide_false, Bool.false_eq_true,
      not_false_eq_true]

theorem getElem_erase_entries (entries : Std.ExtTreeMap String IncomingV1 compare)
    (key other : String) :
    (entries.erase key)[other]? = if key = other then none else entries[other]? := by
  simp only [Std.ExtTreeMap.getElem?_erase, Std.LawfulEqCmp.compare_eq_iff_eq]

theorem getElem_releaseIdentity {counts : Std.ExtTreeMap String Nat compare}
    {identity other : String} :
    (PendingQueueState.releaseIdentity counts identity)[other]? =
      if identity = other then
        match counts[identity]? with
        | none => none
        | some count => if count - 1 = 0 then none else some (count - 1)
      else counts[other]? := by
  unfold PendingQueueState.releaseIdentity
  by_cases hsame : identity = other
  · subst hsame
    rw [if_pos rfl]
    cases hcount : counts[identity]? with
    | none => exact hcount
    | some count =>
        dsimp only
        split
        · simp only [Std.ExtTreeMap.getElem?_erase_self]
        · simp only [Std.ExtTreeMap.getElem?_insert_self]
  · rw [if_neg hsame]
    cases counts[identity]? with
    | none => rfl
    | some count =>
        dsimp only
        split
        · simp only [Std.ExtTreeMap.getElem?_erase,
            Std.LawfulEqCmp.compare_eq_iff_eq, if_neg hsame]
        · simp only [Std.ExtTreeMap.getElem?_insert,
            Std.LawfulEqCmp.compare_eq_iff_eq, if_neg hsame]

/-- The collections after the entry of a ticket has been removed. -/
theorem Represents.remove_ticket (h : Represents s queued)
    {ticket : Ticket String IncomingV1} (hmem : ticket ∈ queued) :
    (s.remove ticket.key).2 = some ticket.item ∧
      Represents (s.remove ticket.key).1 (queued.without ticket.key) := by
  have hentry := h.held ticket hmem
  have hremove : s.remove ticket.key =
      ({ s with
        entries := s.entries.erase ticket.key
        order := s.order.filter fun queued => decide (queued ≠ ticket.key)
        perIdentity := PendingQueueState.releaseIdentity s.perIdentity
          ticket.item.identity }, some ticket.item) := by
    unfold PendingQueueState.remove
    rw [hentry]
  rw [hremove]
  refine ⟨rfl, ?_⟩
  rcases Queued.split h.distinct hmem with ⟨before, after, hsplit, hwithout⟩
  constructor
  case order =>
    dsimp only
    rw [h.order]
    exact List.filter_map
  case held =>
    intro other hother
    rcases List.mem_filter.mp hother with ⟨hqueued, hkey⟩
    dsimp only
    rw [getElem_erase_entries, if_neg (Ne.symm (of_decide_eq_true hkey))]
    exact h.held other hqueued
  case only =>
    intro key incoming hfound
    dsimp only at hfound
    rw [getElem_erase_entries] at hfound
    split at hfound
    · cases hfound
    · rename_i hkey
      rcases h.only key incoming hfound with ⟨other, hother, rfl, hitem⟩
      exact ⟨other, List.mem_filter.mpr
        ⟨hother, decide_eq_true (Ne.symm hkey)⟩, rfl, hitem⟩
  case size =>
    have hcontains : s.entries.contains ticket.key = true := by
      rw [Std.ExtTreeMap.contains_eq_isSome_getElem?, hentry]
      rfl
    dsimp only
    rw [Std.ExtTreeMap.size_erase, if_pos hcontains, h.size, hwithout, hsplit,
      List.length_append, List.length_append, List.length_cons]
    rfl
  case counts =>
    intro identity
    dsimp only
    have hshare : queued.share identity =
        (queued.without ticket.key).share identity +
          if ticket.item.identity = identity then 1 else 0 := by
      rw [hwithout, hsplit]
      unfold Queued.share
      rw [List.countP_append, List.countP_cons, List.countP_append]
      by_cases hsame : ticket.item.identity = identity
      · rw [if_pos hsame, if_pos (decide_eq_true hsame), Nat.add_assoc]
      · rw [if_neg hsame, if_neg (by simpa using hsame)]
        rfl
    rw [getElem_releaseIdentity]
    by_cases hsame : ticket.item.identity = identity
    · rw [if_pos hsame, hsame, h.counts, hshare, if_pos hsame,
        if_neg (Nat.succ_ne_zero _)]
      rfl
    · rw [if_neg hsame, h.counts, hshare, if_neg hsame]
      rfl
  case distinct =>
    exact h.distinct.sublist (List.filter_sublist.map Ticket.key)

theorem Represents.remove_absent (h : Represents s queued) {key : String}
    (habsent : forall ticket, ticket ∈ queued -> ticket.key ≠ key) :
    s.remove key = (s, none) := by
  unfold PendingQueueState.remove
  cases hentry : s.entries[key]? with
  | none => rfl
  | some incoming =>
      rcases h.only key incoming hentry with ⟨ticket, hmem, hkey, _⟩
      exact absurd hkey (habsent ticket hmem)

theorem Represents.remove (h : Represents s queued) (key : String) :
    Represents (s.remove key).1 (queued.without key) := by
  by_cases hmem : exists ticket, ticket ∈ queued ∧ ticket.key = key
  · rcases hmem with ⟨ticket, hmem, rfl⟩
    exact (h.remove_ticket hmem).right
  · have habsent : forall ticket, ticket ∈ queued -> ticket.key ≠ key :=
      fun ticket hticket hkey => hmem ⟨ticket, hticket, hkey⟩
    rw [h.remove_absent habsent, Queued.without_of_not_mem habsent]
    exact h

theorem remove_closed (s : PendingQueueState) (key : String) :
    (s.remove key).1.closed = s.closed := by
  unfold PendingQueueState.remove
  cases s.entries[key]? with
  | none => rfl
  | some incoming => rfl

theorem Represents.removeAll (h : Represents s queued) (keys : List String) :
    Represents (s.removeAll keys)
      (queued.filter fun ticket => decide (ticket.key ∉ keys)) := by
  induction keys generalizing s queued with
  | nil =>
      have hall : queued.filter (fun ticket =>
          decide (ticket.key ∉ ([] : List String))) = queued := by
        apply List.filter_eq_self.mpr
        intro ticket _
        exact decide_eq_true List.not_mem_nil
      rw [hall]
      exact h
  | cons key rest ih =>
      have hrest := ih (h.remove key)
      unfold Queued.without at hrest
      rw [List.filter_filter] at hrest
      have hpredicate : (fun ticket : Ticket String IncomingV1 =>
            decide (ticket.key ∉ rest) && decide (ticket.key ≠ key)) =
          fun ticket => decide (ticket.key ∉ key :: rest) := by
        funext ticket
        rw [← Bool.decide_and]
        apply decide_eq_decide.mpr
        rw [List.mem_cons, not_or]
        exact And.comm
      rw [hpredicate] at hrest
      exact hrest

theorem removeAll_closed (s : PendingQueueState) (keys : List String) :
    (s.removeAll keys).closed = s.closed := by
  induction keys generalizing s with
  | nil => rfl
  | cons key rest ih =>
      unfold PendingQueueState.removeAll
      rw [ih, remove_closed]

theorem Represents.pruneExpired (h : Represents s queued) (now : Instant) :
    Represents (s.pruneExpired now) (queued.live now) := by
  have hkeys : forall ticket, ticket ∈ queued ->
      (ticket.key ∈ (s.entries.toList.filter fun entry =>
          entry.2.expired now).map Prod.fst <->
        ticket.item.expired now = true) := by
    intro ticket hmem
    constructor
    · intro hkey
      rcases List.mem_map.mp hkey with ⟨⟨key, incoming⟩, hentry, rfl⟩
      rcases List.mem_filter.mp hentry with ⟨hlisted, hexpired⟩
      rw [Std.ExtTreeMap.mem_toList_iff_getElem?_eq_some] at hlisted
      have hheld := h.held ticket hmem
      rw [hlisted] at hheld
      injection hheld with hheld
      rw [← hheld]
      exact hexpired
    · intro hexpired
      refine List.mem_map.mpr ⟨(ticket.key, ticket.item), ?_, rfl⟩
      apply List.mem_filter.mpr
      refine ⟨?_, hexpired⟩
      rw [Std.ExtTreeMap.mem_toList_iff_getElem?_eq_some]
      exact h.held ticket hmem
  have hlive : queued.filter (fun ticket => decide (ticket.key ∉
      (s.entries.toList.filter fun entry => entry.2.expired now).map
        Prod.fst)) = queued.live now := by
    apply List.filter_congr
    intro ticket hmem
    by_cases hexpired : ticket.item.expired now = true
    · rw [hexpired, decide_eq_false (not_not.mpr ((hkeys ticket hmem).mpr hexpired))]
      rfl
    · rw [decide_eq_true ((hkeys ticket hmem).not.mpr hexpired),
        Bool.eq_false_iff.mpr hexpired]
      rfl
  unfold PendingQueueState.pruneExpired
  rw [← hlive]
  exact h.removeAll _

theorem pruneExpired_closed (s : PendingQueueState) (now : Instant) :
    (s.pruneExpired now).closed = s.closed :=
  removeAll_closed s _

/-- The front of the order is the oldest ticket. -/
theorem Represents.popEntry_cons {ticket : Ticket String IncomingV1}
    {rest : Queued} (h : Represents s (ticket :: rest)) :
    (s.popEntry s.order).2 = some ticket.item ∧
      Represents (s.popEntry s.order).1 rest ∧
      (s.popEntry s.order).1.closed = s.closed := by
  have hwithout : Queued.without (ticket :: rest) ticket.key = rest := by
    rcases Queued.split h.distinct List.mem_cons_self with
      ⟨before, after, hsplit, hwithout⟩
    cases before with
    | nil =>
        injection hsplit with _ hrest
        rw [hwithout, hrest]
        rfl
    | cons other before =>
        injection hsplit with hother hrest
        have hdistinct := h.distinct
        rw [hrest, List.map_cons, List.nodup_cons] at hdistinct
        exact absurd (List.mem_map_of_mem (List.mem_append_right before
          List.mem_cons_self)) hdistinct.left
  rcases h.remove_ticket List.mem_cons_self with ⟨hfound, hrepresents⟩
  rw [hwithout] at hrepresents
  have horder : s.order = ticket.key :: rest.map Ticket.key := h.order
  -- The popped key is filtered out of the order in any case.
  have hpop : s.popEntry s.order = s.remove ticket.key := by
    rw [horder]
    unfold PendingQueueState.popEntry PendingQueueState.remove
    rw [h.held ticket List.mem_cons_self]
    dsimp only
    rw [horder, List.filter_cons_of_neg (by
      simp only [ne_eq, not_true_eq_false, decide_false, Bool.false_eq_true,
        not_false_eq_true])]
  rw [hpop]
  exact ⟨hfound, hrepresents, remove_closed s _⟩

theorem Represents.popEntry_nil (h : Represents s []) :
    s.popEntry s.order = (s, none) := by
  have horder : s.order = [] := h.order
  rw [horder]
  unfold PendingQueueState.popEntry
  rw [← horder]

/-- A new request goes to the back. -/
theorem Represents.admit (h : Represents s queued) {key : String}
    (incoming : IncomingV1) (number : Nat)
    (hfresh : forall ticket, ticket ∈ queued -> ticket.key ≠ key) :
    Represents { s with
      perIdentity := s.perIdentity.insert incoming.identity
        ((s.perIdentity[incoming.identity]?).getD 0 + 1)
      order := s.order ++ [key]
      entries := s.entries.insert key incoming }
      (queued ++ [{ number := number, key := key, item := incoming }]) := by
  have habsent : s.entries[key]? = none := by
    cases hentry : s.entries[key]? with
    | none => rfl
    | some found =>
        rcases h.only key found hentry with ⟨ticket, hmem, hkey, _⟩
        exact absurd hkey (hfresh ticket hmem)
  have hget : forall other, (s.entries.insert key incoming)[other]? =
      if key = other then some incoming else s.entries[other]? := by
    intro other
    simp only [Std.ExtTreeMap.getElem?_insert, Std.LawfulEqCmp.compare_eq_iff_eq]
  constructor
  case order =>
    dsimp only
    rw [h.order, List.map_append]
    rfl
  case held =>
    intro ticket hmem
    dsimp only
    rw [hget]
    rcases List.mem_append.mp hmem with hold | hnew
    · rw [if_neg (Ne.symm (hfresh ticket hold))]
      exact h.held ticket hold
    · rw [List.mem_singleton.mp hnew, if_pos rfl]
  case only =>
    intro other found hfound
    dsimp only at hfound
    rw [hget] at hfound
    split at hfound
    · rename_i hkey
      injection hfound with hfound
      exact ⟨_, List.mem_append_right _ List.mem_cons_self, hkey, hfound⟩
    · rcases h.only other found hfound with ⟨ticket, hmem, hkey, hitem⟩
      exact ⟨ticket, List.mem_append_left _ hmem, hkey, hitem⟩
  case size =>
    have hnot : ¬ s.entries.contains key = true := by
      rw [Std.ExtTreeMap.contains_eq_isSome_getElem?, habsent]
      exact Bool.false_ne_true
    dsimp only
    rw [Std.ExtTreeMap.size_insert, if_neg hnot, h.size, List.length_append]
    rfl
  case counts =>
    intro identity
    have hcount : (s.perIdentity[incoming.identity]?).getD 0 =
        queued.share incoming.identity := by
      rw [h.counts]
      split
      · rename_i hzero
        exact hzero.symm
      · rfl
    have hshare : Queued.share (queued ++
          [{ number := number, key := key, item := incoming }]) identity =
        queued.share identity +
          if incoming.identity = identity then 1 else 0 := by
      unfold Queued.share
      rw [List.countP_append, List.countP_singleton]
      by_cases hsame : incoming.identity = identity
      · rw [if_pos hsame, if_pos (decide_eq_true hsame)]
      · rw [if_neg hsame, if_neg (by simpa using hsame)]
    dsimp only
    rw [Std.ExtTreeMap.getElem?_insert, hshare, hcount]
    by_cases hsame : incoming.identity = identity
    · rw [if_pos (Std.LawfulEqCmp.compare_eq_iff_eq.mpr hsame), if_pos hsame,
        if_neg (Nat.succ_ne_zero _), hsame]
    · rw [if_neg (fun heq => hsame (Std.LawfulEqCmp.compare_eq_iff_eq.mp heq)),
        if_neg hsame, h.counts]
      rfl
  case distinct =>
    rw [List.map_append]
    apply h.distinct.append (List.nodup_singleton _)
    intro found hfound hkey
    rcases List.mem_map.mp hfound with ⟨ticket, hticket, rfl⟩
    exact hfresh ticket hticket (List.mem_singleton.mp hkey)

/-!
# The queue refines its purpose
-/

structure Refines (s : PendingQueueState) (book : PendingBook) : Prop where
  represents : Represents s book.book.queued
  closed : s.closed = book.closed

variable {book : PendingBook}

theorem Refines.live (h : Refines s book) (now : Instant) :
    Refines (s.pruneExpired now) (book.live now) :=
  ⟨h.represents.pruneExpired now, (pruneExpired_closed s now).trans h.closed⟩

theorem Represents.contains_iff (h : Represents s queued) (key : String) :
    s.entries.contains key = true <-> key ∈ queued.map Ticket.key := by
  rw [Std.ExtTreeMap.contains_eq_isSome_getElem?]
  constructor
  · intro hsome
    rcases Option.isSome_iff_exists.mp hsome with ⟨incoming, hentry⟩
    rcases h.only key incoming hentry with ⟨ticket, hmem, rfl, _⟩
    exact List.mem_map_of_mem hmem
  · intro hkey
    rcases List.mem_map.mp hkey with ⟨ticket, hmem, rfl⟩
    rw [h.held ticket hmem]
    rfl

theorem Represents.getD_counts (h : Represents s queued) (identity : String) :
    (s.perIdentity[identity]?).getD 0 = queued.share identity := by
  rw [h.counts]
  split
  · rename_i hzero
    exact hzero.symm
  · rfl

theorem Refines.insert (h : Refines s book) (limits : QueueLimits)
    (now : Instant) (key : String) (incoming : IncomingV1) :
    (s.insert limits now key incoming).2 =
        (book.insert limits now key incoming).2 ∧
      Refines (s.insert limits now key incoming).1
        (book.insert limits now key incoming).1 := by
  have hlive := h.live now
  unfold PendingQueueState.insert PendingBook.insert
  dsimp only
  have hsame : (s.pruneExpired now).closed = book.closed := hlive.closed
  by_cases hclosed : book.closed = true
  · rw [if_pos hclosed, if_pos (hsame.trans hclosed)]
    exact ⟨rfl, hlive⟩
  · rw [if_neg hclosed, if_neg (fun heq => hclosed (hsame.symm.trans heq)),
      hlive.represents.size]
    have hfull : ((book.live now).book.queued.length ≥ limits.capacity ∨
          (s.pruneExpired now).entries.contains key = true) <->
        (limits.capacity ≤ (book.live now).book.queued.length ∨
          key ∈ (book.live now).book.queued.map Ticket.key) :=
      or_congr Iff.rfl (hlive.represents.contains_iff key)
    by_cases hreject : limits.capacity ≤ (book.live now).book.queued.length ∨
        key ∈ (book.live now).book.queued.map Ticket.key
    · rw [if_pos hreject, if_pos (hfull.mpr hreject)]
      exact ⟨rfl, hlive⟩
    · rw [if_neg hreject, if_neg (hfull.not.mpr hreject),
        hlive.represents.getD_counts]
      by_cases hshare : limits.perIdentityCapacity ≤
          Queued.share (book.live now).book.queued incoming.identity
      · rw [if_pos hshare, if_pos hshare]
        exact ⟨rfl, hlive⟩
      · rw [if_neg hshare, if_neg hshare]
        refine ⟨rfl, ?_, hlive.closed⟩
        have hfresh : forall ticket, ticket ∈ (book.live now).book.queued ->
            ticket.key ≠ key := by
          intro ticket hmem hkey
          exact hreject (Or.inr (hkey ▸ List.mem_map_of_mem hmem))
        have hadmit := hlive.represents.admit incoming
          (book.live now).book.issued hfresh
        rw [hlive.represents.getD_counts] at hadmit
        exact hadmit

theorem Refines.next (h : Refines s book) (now : Instant) :
    (s.next now).2 = (book.next now).2 ∧
      Refines (s.next now).1 (book.next now).1 := by
  have hlive := h.live now
  have hrepresents := hlive.represents
  unfold PendingQueueState.next PendingBook.next
  dsimp only
  cases hqueued : (book.live now).book.queued with
  | nil =>
      rw [hqueued] at hrepresents
      rw [hrepresents.popEntry_nil]
      dsimp only
      rw [hlive.closed, show (book.live now).closed = book.closed from rfl]
      split
      · exact ⟨rfl, hlive⟩
      · exact ⟨rfl, hlive⟩
  | cons ticket rest =>
      rw [hqueued] at hrepresents
      rcases hrepresents.popEntry_cons with ⟨hfound, hrest, hclosed⟩
      generalize (s.pruneExpired now).popEntry (s.pruneExpired now).order =
        popped at hfound hrest hclosed ⊢
      rcases popped with ⟨after, found⟩
      dsimp only at hfound hrest hclosed
      subst hfound
      refine ⟨rfl, ?_, hclosed.trans hlive.closed⟩
      have htake : (book.live now).take.book.queued = rest := by
        unfold PendingBook.take Book.take
        rw [hqueued]
      rw [htake]
      exact hrest

theorem PendingBook.next_queued (book : PendingBook) (now : Instant) :
    (book.next now).1.book.queued = (book.live now).book.queued.tail := by
  unfold PendingBook.next
  dsimp only
  cases hqueued : (book.live now).book.queued with
  | nil =>
      cases book.closed with
      | false => exact hqueued
      | true => exact hqueued
  | cons ticket rest =>
      unfold PendingBook.take Book.take
      rw [hqueued]
      rfl

theorem PendingBook.next_closed (book : PendingBook) (now : Instant) :
    (book.next now).1.closed = book.closed := by
  unfold PendingBook.next
  dsimp only
  cases (book.live now).book.queued with
  | nil =>
      cases hclosed : book.closed with
      | false => exact hclosed
      | true => exact hclosed
  | cons ticket rest => rfl

theorem Refines.expire (h : Refines s book) (key : String) :
    Refines (s.expire key) (book.expire key) :=
  ⟨h.represents.remove key, (remove_closed s key).trans h.closed⟩

theorem refines_close (s : PendingQueueState) (book : PendingBook) :
    Refines s.close book.close := by
  refine ⟨?_, rfl⟩
  have hnone : book.close.book.queued = [] :=
    List.filter_eq_nil_iff.mpr fun _ _ => Bool.false_ne_true
  rw [hnone]
  exact represents_nil true

end Representation

/-!
# Runs of the queue

A run performs operations on the queue, and on the book beside it, which follows
the requests.
-/

inductive QueueOperation where
  | insert (now : Instant) (key : String) (incoming : IncomingV1)
  | next (now : Instant)
  | expire (key : String)
  | prune (now : Instant)
  | close

structure QueueRun where
  queue : PendingQueueState
  pending : PendingBook

def QueueRun.start : QueueRun :=
  { queue := PendingQueueState.new, pending := PendingBook.empty }

def QueueRun.step (limits : QueueLimits) (s : QueueRun) :
    QueueOperation -> QueueRun
  | QueueOperation.insert now key incoming =>
      { queue := (s.queue.insert limits now key incoming).1
        pending := (s.pending.insert limits now key incoming).1 }
  | QueueOperation.next now =>
      { queue := (s.queue.next now).1, pending := (s.pending.next now).1 }
  | QueueOperation.expire key =>
      { queue := s.queue.expire key, pending := s.pending.expire key }
  | QueueOperation.prune now =>
      { queue := s.queue.pruneExpired now, pending := s.pending.live now }
  | QueueOperation.close =>
      { queue := s.queue.close, pending := s.pending.close }

def queueMachine (limits : QueueLimits) : Machine QueueRun QueueOperation :=
  { initial := fun s => s = QueueRun.start
    next := fun s operation => some (s.step limits operation) }

section Runs

variable {limits : QueueLimits}

/-- The requests of a book are few, and a closed book has none. -/
structure PendingBook.Bounded (limits : QueueLimits) (pending : PendingBook) :
    Prop where
  sound : pending.book.Sound
  total : pending.book.queued.length ≤ limits.capacity
  share (identity : String) :
    Queued.share pending.book.queued identity ≤ limits.perIdentityCapacity
  closed : pending.closed = true -> pending.book.queued = []

variable {book : PendingBook}

theorem PendingBook.bounded_empty (limits : QueueLimits) :
    PendingBook.empty.Bounded limits :=
  ⟨Book.sound_empty, Nat.zero_le _, fun _ => Nat.zero_le _, fun _ => rfl⟩

theorem PendingBook.Bounded.keep (h : book.Bounded limits)
    (kept : Ticket String IncomingV1 -> Bool) :
    PendingBook.Bounded limits { book with book := book.book.keep kept } := by
  constructor
  · exact h.sound.keep kept
  · exact Nat.le_trans (List.length_filter_le _ _) h.total
  · intro identity
    exact Nat.le_trans (List.filter_sublist.countP_le) (h.share identity)
  · intro hclosed
    change book.book.queued.filter kept = []
    rw [h.closed hclosed]
    rfl

theorem PendingBook.Bounded.close (h : book.Bounded limits) :
    book.close.Bounded limits := by
  have hnone : book.close.book.queued = [] :=
    List.filter_eq_nil_iff.mpr fun _ _ => Bool.false_ne_true
  have hkept := h.keep fun _ => false
  exact ⟨hkept.sound, hkept.total, hkept.share, fun _ => hnone⟩

theorem PendingBook.Bounded.take (h : book.Bounded limits) :
    book.take.Bounded limits := by
  have hsublist : List.Sublist book.book.take.queued book.book.queued := by
    unfold Book.take
    cases hqueued : book.book.queued with
    | nil =>
        dsimp only
        rw [hqueued]
    | cons ticket rest => exact List.sublist_cons_self ticket rest
  constructor
  · exact h.sound.take
  · exact Nat.le_trans hsublist.length_le h.total
  · intro identity
    exact Nat.le_trans (hsublist.countP_le) (h.share identity)
  · intro hclosed
    have hnone := h.closed hclosed
    rw [hnone] at hsublist
    exact List.sublist_nil.mp hsublist

/-- What an insertion into a book can do. -/
theorem PendingBook.insert_cases (limits : QueueLimits) (book : PendingBook)
    (now : Instant) (key : String) (incoming : IncomingV1) :
    (exists error,
      book.insert limits now key incoming = (book.live now, Except.error error)) ∨
    (book.closed = false ∧
      (book.live now).book.queued.length < limits.capacity ∧
      key ∉ (book.live now).book.queued.map Ticket.key ∧
      Queued.share (book.live now).book.queued incoming.identity <
        limits.perIdentityCapacity ∧
      book.insert limits now key incoming =
        ((book.live now).issue key incoming, Except.ok ())) := by
  unfold PendingBook.insert
  dsimp only
  split
  · exact Or.inl ⟨_, rfl⟩
  · rename_i hclosed
    split
    · exact Or.inl ⟨_, rfl⟩
    · rename_i hfull
      split
      · exact Or.inl ⟨_, rfl⟩
      · rename_i hshare
        rw [not_or] at hfull
        exact Or.inr ⟨Bool.eq_false_iff.mpr hclosed, Nat.lt_of_not_le hfull.left,
          hfull.right, Nat.lt_of_not_le hshare, rfl⟩

theorem PendingBook.Bounded.insert (h : book.Bounded limits) (now : Instant)
    (key : String) (incoming : IncomingV1) :
    (book.insert limits now key incoming).1.Bounded limits := by
  have hlive : (book.live now).Bounded limits := h.keep _
  rcases PendingBook.insert_cases limits book now key incoming with
    ⟨error, hinsert⟩ | ⟨hopen, htotal, hfresh, hshare, hinsert⟩
  · rw [hinsert]
    exact hlive
  · rw [hinsert]
    constructor
    · apply hlive.sound.issue
      intro ticket hmem hkey
      exact hfresh (hkey ▸ List.mem_map_of_mem hmem)
    · change ((book.live now).book.queued ++ [_]).length ≤ _
      rw [List.length_append]
      exact htotal
    · intro identity
      change Queued.share ((book.live now).book.queued ++ [_]) identity ≤ _
      unfold Queued.share
      rw [List.countP_append, List.countP_singleton]
      dsimp only
      split
      · rename_i hsame
        rw [← of_decide_eq_true hsame]
        exact hshare
      · exact hlive.share identity
    · intro hclosed
      have hsame : book.closed = true := hclosed
      rw [hopen] at hsame
      cases hsame

theorem PendingBook.Bounded.next (h : book.Bounded limits) (now : Instant) :
    (book.next now).1.Bounded limits := by
  have hlive : (book.live now).Bounded limits := h.keep _
  unfold PendingBook.next
  dsimp only
  split
  · exact hlive.take
  · split
    · exact hlive
    · exact hlive

/-- The queue and the book agree, and the book is within its limits. -/
structure QueueRun.Agrees (limits : QueueLimits) (s : QueueRun) : Prop where
  refines : Refines s.queue s.pending
  bounded : s.pending.Bounded limits

theorem QueueRun.Agrees.step {s : QueueRun} (h : s.Agrees limits)
    (operation : QueueOperation) : (s.step limits operation).Agrees limits := by
  cases operation with
  | insert now key incoming =>
      exact ⟨(h.refines.insert limits now key incoming).right,
        h.bounded.insert now key incoming⟩
  | next now => exact ⟨(h.refines.next now).right, h.bounded.next now⟩
  | expire key => exact ⟨h.refines.expire key, h.bounded.keep _⟩
  | prune now => exact ⟨h.refines.live now, h.bounded.keep _⟩
  | close => exact ⟨refines_close s.queue s.pending, h.bounded.close⟩

theorem queueMachine_agrees {s : QueueRun}
    (h : (queueMachine limits).Reachable s) : s.Agrees limits := by
  apply Machine.ReachableWhen.invariant (I := QueueRun.Agrees limits) _ _ h
  · intro s hstart
    rw [hstart]
    exact ⟨⟨represents_nil false, rfl⟩, PendingBook.bounded_empty limits⟩
  · intro s operation after hagrees _ hnext
    injection hnext with hnext
    rw [← hnext]
    exact hagrees.step operation

/-!
# Conservation
-/

/-- The number of entries of an identity. -/
def PendingQueueState.held (s : PendingQueueState) (identity : String) : Nat :=
  s.entries.toList.countP fun entry => decide (entry.2.identity = identity)

/-- The representation invariant, with the place of every request. -/
structure QueueRun.Represented (limits : QueueLimits) (s : QueueRun) :
    Prop where
  order : s.queue.order = s.pending.book.queued.map Ticket.key
  distinct : s.queue.order.Nodup
  keys (key : String) :
    key ∈ s.queue.order <-> s.queue.entries.contains key = true
  held (ticket : Ticket String IncomingV1) :
    ticket ∈ s.pending.book.queued ->
      s.queue.entries[ticket.key]? = some ticket.item
  insertionOrder :
    s.pending.book.queued.Pairwise fun a b => a.number < b.number
  onePlace : (s.pending.book.tickets.map Ticket.number).Perm
    (List.range s.pending.book.issued)
  counts (identity : String) :
    s.queue.perIdentity[identity]? =
      if s.queue.held identity = 0 then none
      else some (s.queue.held identity)
  total : s.queue.entries.size ≤ limits.capacity
  share (identity : String) (count : Nat) :
    s.queue.perIdentity[identity]? = some count ->
      count ≤ limits.perIdentityCapacity
  closed : s.queue.closed = true ->
    s.queue.order = [] ∧ s.queue.entries.size = 0 ∧
      forall identity : String, s.queue.perIdentity[identity]? = none

/-- What each operation does to the requests. -/
structure QueueRun.Conserved (limits : QueueLimits) (s : QueueRun) : Prop where
  inserted (now : Instant) (key : String) (incoming : IncomingV1) :
    (s.queue.insert limits now key incoming).2 = Except.ok () ->
      s.queue.closed = false ∧
      (s.step limits (QueueOperation.insert now key incoming)).pending =
        (s.pending.live now).issue key incoming
  refused (now : Instant) (key : String) (incoming : IncomingV1) :
    (s.queue.insert limits now key incoming).2 ≠ Except.ok () ->
      (s.queue.insert limits now key incoming).1 = s.queue.pruneExpired now ∧
      (s.step limits (QueueOperation.insert now key incoming)).pending =
        s.pending.live now
  returned (now : Instant) :
    match Queued.live s.pending.book.queued now with
    | ticket :: _ =>
        (s.queue.next now).2 = some (Except.ok ticket.item) ∧
        (s.step limits (QueueOperation.next now)).pending =
          (s.pending.live now).take
    | [] =>
        (s.queue.next now).2 =
          (if s.queue.closed then
            some (Except.error ClientError.channelClosed)
          else none) ∧
        (s.step limits (QueueOperation.next now)).pending =
          s.pending.live now

theorem Represents.held_eq {s : PendingQueueState} {queued : Queued}
    (h : Represents s queued) (identity : String) :
    s.held identity = queued.share identity := by
  have hperm : s.entries.toList.Perm
      (queued.map fun ticket => (ticket.key, ticket.item)) := by
    apply (List.perm_ext_iff_of_nodup _ _).mpr
    · rintro ⟨key, incoming⟩
      rw [Std.ExtTreeMap.mem_toList_iff_getElem?_eq_some, List.mem_map]
      constructor
      · intro hentry
        rcases h.only key incoming hentry with ⟨ticket, hmem, rfl, rfl⟩
        exact ⟨ticket, hmem, rfl⟩
      · rintro ⟨ticket, hmem, hpair⟩
        injection hpair with hkey hitem
        rw [← hkey, ← hitem]
        exact h.held ticket hmem
    · have hkeys := Std.ExtTreeMap.distinct_keys_toList (t := s.entries)
      apply hkeys.imp
      intro a b hdiffer heq
      apply hdiffer
      rw [heq]
      exact Std.LawfulEqCmp.compare_eq_iff_eq.mpr rfl
    · apply List.Nodup.of_map Prod.fst
      rw [List.map_map]
      exact h.distinct
  unfold PendingQueueState.held Queued.share
  rw [hperm.countP_eq, List.countP_map]
  rfl

theorem QueueRun.Agrees.represented {s : QueueRun} (h : s.Agrees limits) :
    s.Represented limits := by
  have hrep := h.refines.represents
  constructor
  case order => exact hrep.order
  case distinct =>
    rw [hrep.order]
    exact hrep.distinct
  case keys =>
    intro key
    rw [hrep.order, hrep.contains_iff]
  case held => exact hrep.held
  case insertionOrder => exact h.bounded.sound.ordered
  case onePlace => exact h.bounded.sound.numbers
  case counts =>
    intro identity
    rw [hrep.held_eq]
    exact hrep.counts identity
  case total =>
    rw [hrep.size]
    exact h.bounded.total
  case share =>
    intro identity count hcount
    rw [hrep.counts] at hcount
    split at hcount
    · cases hcount
    · injection hcount with hcount
      rw [← hcount]
      exact h.bounded.share identity
  case closed =>
    intro hclosed
    rw [h.refines.closed] at hclosed
    have hnone := h.bounded.closed hclosed
    rw [hnone] at hrep
    exact ⟨hrep.order, hrep.size, hrep.counts⟩

theorem QueueRun.Agrees.conserved {s : QueueRun} (h : s.Agrees limits) :
    s.Conserved limits := by
  constructor
  case inserted =>
    intro now key incoming hok
    rw [(h.refines.insert limits now key incoming).left] at hok
    unfold QueueRun.step
    dsimp only
    rcases PendingBook.insert_cases limits s.pending now key incoming with
      ⟨error, hinsert⟩ | ⟨hopen, _, _, _, hinsert⟩
    · rw [hinsert] at hok
      cases hok
    · rw [hinsert]
      exact ⟨h.refines.closed.trans hopen, rfl⟩
  case refused =>
    intro now key incoming hfails
    constructor
    · unfold PendingQueueState.insert at hfails ⊢
      dsimp only at hfails ⊢
      split
      · rfl
      · rename_i hopen
        rw [if_neg hopen] at hfails
        split
        · rfl
        · rename_i hroom
          rw [if_neg hroom] at hfails
          split
          · rfl
          · rename_i hshare
            rw [if_neg hshare] at hfails
            exact absurd rfl hfails
    · rw [(h.refines.insert limits now key incoming).left] at hfails
      unfold QueueRun.step
      dsimp only
      rcases PendingBook.insert_cases limits s.pending now key incoming with
        ⟨error, hinsert⟩ | ⟨_, _, _, _, hinsert⟩
      · rw [hinsert]
      · rw [hinsert] at hfails
        exact absurd rfl hfails
  case returned =>
    intro now
    have hnext := (h.refines.next now).left
    unfold QueueRun.step
    dsimp only
    rw [hnext, h.refines.closed]
    unfold PendingBook.next
    dsimp only
    change match (s.pending.live now).book.queued with
      | ticket :: _ => _
      | [] => _
    cases (s.pending.live now).book.queued with
    | nil =>
        dsimp only
        split
        · exact ⟨rfl, rfl⟩
        · exact ⟨rfl, rfl⟩
    | cons ticket rest => exact ⟨rfl, rfl⟩

/-- In every run, with any clock readings. -/
theorem pending_queue_conserves {s : QueueRun}
    (h : (queueMachine limits).Reachable s) :
    s.Represented limits ∧ s.Conserved limits :=
  ⟨(queueMachine_agrees h).represented, (queueMachine_agrees h).conserved⟩

/-- The Hello of the sample session, to be decided on before a deadline. -/
def sampleRequest (deadline : Instant) : IncomingV1 :=
  { pending := some
      { localCredential := Reference.phone.credential
        sender := { path := "", record := Reference.laptop.record }
        target := { path := "", record := Reference.phone.record }
        hello := Reference.hello
        allowInsecureLoopbackRelay := false
        deadline := deadline } }

def sampleLimits : QueueLimits :=
  { capacity := 2, perIdentityCapacity := 1 }

/-- The first request is returned, the second expires, and the third waits. -/
def sampleOperations : List QueueOperation :=
  [QueueOperation.insert 0 "first" (sampleRequest 10), QueueOperation.next 5,
    QueueOperation.insert 6 "second" (sampleRequest 8), QueueOperation.prune 8,
    QueueOperation.insert 9 "third" (sampleRequest 20)]

def eachOnce (s : QueueRun) : Bool :=
  s.queue.order == ["third"] &&
    s.pending.book.returned.map Ticket.key == ["first"] &&
    s.pending.book.dropped.map Ticket.key == ["second"]

theorem sampleOperations_run :
    (((queueMachine sampleLimits).run QueueRun.start sampleOperations).any
      eachOnce) = true := by
  decide +kernel

theorem pending_queue_conserves_sample :
    exists s, eachOnce s = true ∧ s.Represented sampleLimits ∧
      s.Conserved sampleLimits := by
  rcases (Option.any_eq_true _ _).mp sampleOperations_run with ⟨s, hrun, hqueue⟩
  have hstart : (queueMachine sampleLimits).Reachable QueueRun.start :=
    Machine.ReachableWhen.start rfl
  exact ⟨s, hqueue, pending_queue_conserves (hstart.run hrun)⟩

end Runs

end Client
end Pubky2Pubky
