import Mathlib.Data.List.Nodup
import Mathlib.Data.List.Range

/-!
# Books of tickets

A book follows every item that was ever put into a queue. An item gets a ticket
when it comes in, and its ticket is queued until it is either returned or
dropped.
-/

namespace Pubky2Pubky
namespace Foundation

universe u v

structure Ticket (K : Type u) (A : Type v) where
  number : Nat
  key : K
  item : A

structure Book (K : Type u) (A : Type v) where
  queued : List (Ticket K A)
  returned : List (Ticket K A)
  dropped : List (Ticket K A)
  issued : Nat

namespace Book

variable {K : Type u} {A : Type v} {book : Book K A}

def empty : Book K A :=
  { queued := [], returned := [], dropped := [], issued := 0 }

/-- Drop the queued tickets that are not to be kept. -/
def keep (book : Book K A) (kept : Ticket K A -> Bool) : Book K A :=
  { book with
    queued := book.queued.filter kept
    dropped := book.dropped ++ book.queued.filter fun ticket => !kept ticket }

def issue (book : Book K A) (key : K) (item : A) : Book K A :=
  { book with
    queued := book.queued ++ [{ number := book.issued, key := key, item := item }]
    issued := book.issued + 1 }

/-- Return the oldest queued ticket. -/
def take (book : Book K A) : Book K A :=
  match book.queued with
  | [] => book
  | ticket :: rest =>
      { book with queued := rest, returned := book.returned ++ [ticket] }

def tickets (book : Book K A) : List (Ticket K A) :=
  book.queued ++ (book.returned ++ book.dropped)

/--
Every ticket that was issued is in one place, once, and the queued ones are in
the order of their numbers, with different keys.
-/
structure Sound (book : Book K A) : Prop where
  numbers : (book.tickets.map Ticket.number).Perm (List.range book.issued)
  ordered : book.queued.Pairwise fun a b => a.number < b.number
  distinct : (book.queued.map Ticket.key).Nodup

theorem sound_empty : (empty : Book K A).Sound :=
  ⟨List.Perm.nil, List.Pairwise.nil, List.nodup_nil⟩

theorem keep_tickets (book : Book K A) (kept : Ticket K A -> Bool) :
    (book.keep kept).tickets.Perm book.tickets := by
  have hsplit : (book.queued.filter kept ++
      book.queued.filter fun ticket => !kept ticket).Perm book.queued :=
    List.filter_append_perm kept book.queued
  unfold tickets keep
  dsimp only
  have hswap : (book.queued.filter kept ++ (book.returned ++ (book.dropped ++
        book.queued.filter fun ticket => !kept ticket))).Perm
      ((book.queued.filter kept ++
        book.queued.filter fun ticket => !kept ticket) ++
          (book.returned ++ book.dropped)) := by
    rw [List.append_assoc, ← List.append_assoc book.returned]
    exact List.Perm.append_left _ List.perm_append_comm
  exact hswap.trans (hsplit.append_right _)

theorem Sound.keep (h : book.Sound) (kept : Ticket K A -> Bool) :
    (book.keep kept).Sound := by
  constructor
  · exact ((keep_tickets book kept).map Ticket.number).trans h.numbers
  · exact h.ordered.filter kept
  · exact h.distinct.sublist (List.filter_sublist.map Ticket.key)

/-- The numbers of all tickets are below the number of the next one. -/
theorem Sound.number_lt (h : book.Sound) {ticket : Ticket K A}
    (hmem : ticket ∈ book.queued) : ticket.number < book.issued := by
  have hnumber : ticket.number ∈ book.tickets.map Ticket.number :=
    List.mem_map_of_mem (List.mem_append_left _ hmem)
  exact List.mem_range.mp (h.numbers.mem_iff.mp hnumber)

theorem Sound.issue (h : book.Sound) {key : K} (item : A)
    (hfresh : forall ticket, ticket ∈ book.queued -> ticket.key ≠ key) :
    (book.issue key item).Sound := by
  constructor
  · have hperm : (book.issue key item).tickets.Perm
        (book.tickets ++ [{ number := book.issued, key := key, item := item }]) := by
      unfold Book.issue tickets
      dsimp only
      rw [List.append_assoc, List.append_assoc]
      exact List.Perm.append_left _ List.perm_append_comm
    have hrange : ((book.tickets ++
        [(⟨book.issued, key, item⟩ : Ticket K A)]).map Ticket.number).Perm
          (List.range (book.issued + 1)) := by
      rw [List.map_append, List.range_succ]
      exact h.numbers.append_right _
    exact (hperm.map Ticket.number).trans hrange
  · apply List.pairwise_append.mpr
    refine ⟨h.ordered, List.pairwise_singleton _ _, ?_⟩
    intro a ha b hb
    rw [List.mem_singleton.mp hb]
    exact h.number_lt ha
  · unfold Book.issue
    rw [List.map_append]
    apply h.distinct.append (List.nodup_singleton _)
    intro found hfound hkey
    rcases List.mem_map.mp hfound with ⟨ticket, hticket, rfl⟩
    exact hfresh ticket hticket (List.mem_singleton.mp hkey)

theorem Sound.take (h : book.Sound) : book.take.Sound := by
  unfold Book.take
  cases hqueued : book.queued with
  | nil => exact h
  | cons ticket rest =>
      have hordered := h.ordered
      have hdistinct := h.distinct
      rw [hqueued] at hordered hdistinct
      constructor
      · have hperm : (rest ++ ((book.returned ++ [ticket]) ++ book.dropped)).Perm
            book.tickets := by
          have hmiddle : ((rest ++ book.returned) ++ ticket :: book.dropped).Perm
              (ticket :: ((rest ++ book.returned) ++ book.dropped)) :=
            List.perm_middle
          unfold tickets
          rw [hqueued, List.append_assoc book.returned, ← List.append_assoc rest]
          rw [List.append_assoc rest book.returned book.dropped] at hmiddle
          exact hmiddle
        exact (hperm.map Ticket.number).trans h.numbers
      · exact (List.pairwise_cons.mp hordered).right
      · exact (List.nodup_cons.mp hdistinct).right

end Book

end Foundation
end Pubky2Pubky
