import Pubky2Pubky.Browser.ConnectedPeers

/-!
# What becomes of peers and requests

No connection is forgotten: a peer that was obtained is connected, or some flow is
about to close it, or it is closed. And the events of the core tell a consistent story
of each peer and of each request.
-/

namespace Pubky2Pubky
namespace Browser

open Foundation Protocol Client

/-!
# Closing
-/

section Closing

variable {P : Primitives} {s t : NetworkState P}

/-- A shutdown or a failed renewal is about to close this contact. -/
def Drained (shutdownPeers : Nat -> List (String × Nat))
    (failedPeers : Nat -> Option Drain) (n : Nat) : Prop :=
  (exists k entry, entry ∈ shutdownPeers k ∧ entry.2 = n) ∨
    exists m drain entry, failedPeers m = some drain ∧ entry ∈ drain.left ∧ entry.2 = n

/-- A contact that has ended is closed, and one that receives is not forgotten. -/
structure Custody (epoch : UInt64) (contacts : Nat -> Option Contact)
    (drained : Nat -> Prop) : Prop where
  ended (n : Nat) (contact : Contact) (peer : Peer) : contacts n = some contact ->
    contact.stage = ContactStage.ended (some peer) -> contact.closed = true
  receiving (n : Nat) (contact : Contact) (peerId : String) (peer : Peer) :
    contacts n = some contact -> contact.stage = ContactStage.receiving peerId peer ->
      contact.closed = true ∨ contact.epoch = epoch ∨ drained n

/-- Nothing is left to close in a shutdown that has not begun. -/
def Unstopped (s : NetworkState P) : Prop :=
  forall k, s.online.stopped ≤ k -> s.shutdownPeers k = []

theorem Custody.mono {epoch : UInt64} {contacts : Nat -> Option Contact}
    {drained drained' : Nat -> Prop} (h : Custody epoch contacts drained)
    (hmono : forall n, drained n -> drained' n) : Custody epoch contacts drained' where
  ended := h.ended
  receiving n contact peerId peer hcontact hstage :=
    (h.receiving n contact peerId peer hcontact hstage).imp_right
      (Or.imp_right (hmono n))

theorem Custody.update {epoch : UInt64} {contacts : Nat -> Option Contact}
    {drained drained' : Nat -> Prop} {n : Nat} {after : Contact}
    (h : Custody epoch contacts drained)
    (hended : forall peer, after.stage = ContactStage.ended (some peer) ->
      after.closed = true)
    (hreceiving : forall peerId peer,
      after.stage = ContactStage.receiving peerId peer ->
        after.closed = true ∨ after.epoch = epoch ∨ drained' n)
    (hmono : forall m, m ≠ n -> drained m -> drained' m) :
    Custody epoch (Function.update contacts n (some after)) drained' := by
  constructor
  case ended =>
    intro m contact peer hcontact hstage
    by_cases heq : m = n
    · rw [heq, Function.update_self] at hcontact
      cases hcontact
      exact hended peer hstage
    · rw [Function.update_of_ne heq] at hcontact
      exact h.ended m contact peer hcontact hstage
  case receiving =>
    intro m contact peerId peer hcontact hstage
    by_cases heq : m = n
    · rw [heq, Function.update_self] at hcontact
      cases hcontact
      rw [heq]
      exact hreceiving peerId peer hstage
    · rw [Function.update_of_ne heq] at hcontact
      exact (h.receiving m contact peerId peer hcontact hstage).imp_right
        (Or.imp_right (hmono m heq))

/-- An epoch ends, and everything that was connected is drained. -/
theorem Custody.enter {epoch epoch' : UInt64} {contacts : Nat -> Option Contact}
    {peers : Table Nat} {drained drained' : Nat -> Prop}
    (h : Custody epoch contacts drained) (hconnected : Connected epoch contacts peers)
    (hpeers : forall (peerId : String) (n : Nat), peers[peerId]? = some n -> drained' n)
    (hmono : forall n, drained n -> drained' n) : Custody epoch' contacts drained' := by
  refine ⟨h.ended, ?_⟩
  intro n contact peerId peer hcontact hstage
  rcases h.receiving n contact peerId peer hcontact hstage with hclosed | hepoch | hdrained
  · exact Or.inl hclosed
  · refine Or.inr (Or.inr (hpeers peerId n ((hconnected peerId n).mpr ?_)))
    refine ⟨contact, hcontact, hepoch, ?_⟩
    unfold Contact.connects
    rw [hstage]
  · exact Or.inr (Or.inr (hmono n hdrained))

theorem Custody.close {contacts : Nat -> Option Contact} {epoch : UInt64} {n : Nat}
    {drained drained' : Nat -> Prop} (h : Custody epoch contacts drained)
    (hclosed : forall contact, contacts n = some contact -> contact.closed = true)
    (hmono : forall m, m ≠ n -> drained m -> drained' m) :
    Custody epoch contacts drained' := by
  refine ⟨h.ended, ?_⟩
  intro m contact peerId peer hcontact hstage
  by_cases heq : m = n
  · rw [heq] at hcontact
    exact Or.inl (hclosed contact hcontact)
  · exact (h.receiving m contact peerId peer hcontact hstage).imp_right
      (Or.imp_right (hmono m heq))

theorem closeContact_custody {epoch : UInt64} {drained drained' : Nat -> Prop} (n : Nat)
    (h : Custody epoch s.contacts drained)
    (hmono : forall m, m ≠ n -> drained m -> drained' m) :
    Custody epoch (s.closeContact n).contacts drained' := by
  unfold NetworkState.closeContact
  split
  · next hnone =>
      refine h.close (fun contact hcontact => ?_) hmono
      rw [hnone] at hcontact
      cases hcontact
  · exact h.update (fun _ _ => rfl) (fun _ _ _ => Or.inl rfl) hmono

theorem mem_eraseIdx_of_ne {entries : List (String × Nat)} {i : Nat}
    {entry other : String × Nat} (hentry : entries[i]? = some entry)
    (hne : other.2 ≠ entry.2) (hmem : other ∈ entries) : other ∈ entries.eraseIdx i := by
  rcases List.mem_iff_getElem?.mp hmem with ⟨j, hj⟩
  rw [List.mem_eraseIdx_iff_getElem?]
  refine ⟨j, ?_, hj⟩
  rintro rfl
  rw [hentry] at hj
  cases hj
  exact hne rfl

theorem unstopped_next (h : Unstopped s) (hstep : NetworkStep s t) : Unstopped t := by
  have hsame : forall {after : OnlineState P}, after.stopped = s.online.stopped ->
      forall k, after.stopped ≤ k -> s.shutdownPeers k = [] := by
    intro after hstopped k hk
    rw [hstopped] at hk
    exact h k hk
  cases hstep with
  | kept _ _ _ hafter => exact hsame hafter.stopped
  | entered _ _ hafter => exact hsame hafter.stopped
  | failed _ _ _ hafter => exact hsame hafter.stopped
  | told _ _ _ _ hafter => exact hsame hafter.stopped
  | disconnected _ _ hstopped =>
      intro k hk
      dsimp only at hk
      rw [hstopped] at hk
      exact (Function.update_of_ne (Nat.ne_of_gt hk) _ _).trans
        (h k (Nat.le_of_succ_le hk))
  | @shutPeer k i entry hentry =>
      intro m hm
      have honline : (s.closeContact entry.2).online = s.online := by
        rcases closeContact_cases s entry.2 with heq | ⟨_, _, heq⟩
        · rw [heq]
        · rw [heq]
          rfl
      dsimp only at hm
      rw [honline] at hm
      refine (Function.update_of_ne ?_ _ _).trans (h m hm)
      rintro rfl
      rw [h m hm] at hentry
      cases hentry
  | @failPeer n i drain entry _ _ =>
      intro m hm
      have hsame : (s.closeContact entry.2).online = s.online ∧
          (s.closeContact entry.2).shutdownPeers = s.shutdownPeers := by
        rcases closeContact_cases s entry.2 with heq | ⟨_, _, heq⟩
        · rw [heq]
          exact ⟨rfl, rfl⟩
        · rw [heq]
          exact ⟨rfl, rfl⟩
      dsimp only at hm ⊢
      rw [hsame.left] at hm
      rw [hsame.right]
      exact h m hm
  | _ => exact h

theorem custody_next (h : Custody s.epoch s.contacts
      (Drained s.shutdownPeers s.failedPeers))
    (htied : Tied s) (hunstopped : Unstopped s) (hstep : NetworkStep s t) :
    Custody t.epoch t.contacts (Drained t.shutdownPeers t.failedPeers) := by
  have hentered : forall {epoch : UInt64} {drained : Nat -> Prop},
      (forall (peerId : String) (n : Nat), s.peers[peerId]? = some n -> drained n) ->
      (forall n, Drained s.shutdownPeers s.failedPeers n -> drained n) ->
        Custody epoch s.contacts drained :=
    fun hpeers hmono => h.enter htied.connected hpeers hmono
  have hkept : forall {epoch : UInt64}, epoch = s.epoch ->
      Custody epoch s.contacts (Drained s.shutdownPeers s.failedPeers) := by
    rintro epoch rfl
    exact h
  cases hstep with
  | kept _ hepoch _ _ => exact hkept hepoch
  | entered hempty _ _ =>
      refine hentered ?_ fun _ hdrained => hdrained
      intro peerId n hpeer
      rw [htied.offline.connected hempty, Std.ExtTreeMap.getElem?_empty] at hpeer
      cases hpeer
  | disconnected _ _ _ =>
      refine hentered ?_ ?_
      · intro peerId n hpeer
        refine Or.inl ⟨s.online.stopped, (peerId, n), ?_, rfl⟩
        dsimp only
        rw [Function.update_self, Std.ExtTreeMap.mem_toList_iff_getElem?_eq_some]
        exact hpeer
      · rintro n (⟨k, entry, hmem, hentry⟩ | hfailed)
        · refine Or.inl ⟨k, entry, ?_, hentry⟩
          dsimp only
          rw [Function.update_of_ne]
          · exact hmem
          · rintro rfl
            rw [hunstopped _ (Nat.le_refl _)] at hmem
            cases hmem
        · exact Or.inr hfailed
  | failed n _ hleft _ =>
      refine hentered ?_ ?_
      · intro peerId m hpeer
        refine Or.inr ⟨n, _, (peerId, m), Function.update_self _ _ _, ?_, rfl⟩
        rw [Std.ExtTreeMap.mem_toList_iff_getElem?_eq_some]
        exact hpeer
      · rintro m (hstopped | ⟨k, drain, entry, hdrain, hmem, hentry⟩)
        · exact Or.inl hstopped
        · refine Or.inr ⟨k, drain, entry, ?_, hmem, hentry⟩
          dsimp only
          rw [Function.update_of_ne]
          · exact hdrain
          · rintro rfl
            rw [hleft drain hdrain] at hmem
            cases hmem
  | @told after n drain hepoch _ hdrain hleft _ =>
      refine Custody.mono (hkept hepoch) ?_
      rintro m (hstopped | ⟨k, other, entry, hother, hmem, hentry⟩)
      · exact Or.inl hstopped
      · refine Or.inr ⟨k, other, entry, ?_, hmem, hentry⟩
        refine (Function.update_of_ne ?_ _ _).trans hother
        rintro rfl
        rw [hdrain] at hother
        cases hother
        rw [hleft] at hmem
        cases hmem
  | dials _ _ _ => exact h.update nofun nofun fun _ _ hdrained => hdrained
  | @undialed n contact after identity _ _ _ hafter =>
      refine h.update ?_ ?_ fun _ _ hdrained => hdrained
      · intro peer hstage
        rcases hafter with hended | ⟨_, hverifying⟩
        · rw [hended] at hstage
          cases hstage
        · rw [hverifying] at hstage
          cases hstage
      · intro peerId peer hstage
        rcases hafter with hended | ⟨_, hverifying⟩
        · rw [hended] at hstage
          cases hstage
        · rw [hverifying] at hstage
          cases hstage
  | accepts _ => exact h.update nofun nofun fun _ _ hdrained => hdrained
  | moved hcontact hmoves _ =>
      refine h.update hmoves.ended ?_ fun _ _ hdrained => hdrained
      intro peerId peer hstage
      rcases hmoves.receiving peerId peer hstage with ⟨hbefore, hclosed⟩
      rw [hmoves.epoch]
      exact (h.receiving _ _ peerId peer hcontact hbefore).imp_left hclosed
  | activated _ _ hcurrent _ _ =>
      refine h.update nofun ?_ fun _ _ hdrained => hdrained
      intro _ _ _
      exact Or.inr (Or.inl (isCurrent_iff.mp hcurrent).left.symm)
  | removed _ _ _ => exact h.update (fun _ _ => rfl) nofun fun _ _ hdrained => hdrained
  | gone _ _ _ => exact h.update (fun _ _ => rfl) nofun fun _ _ hdrained => hdrained
  | @shutPeer k i entry hentry =>
      have hsame : (s.closeContact entry.2).epoch = s.epoch ∧
          (s.closeContact entry.2).failedPeers = s.failedPeers := by
        rcases closeContact_cases s entry.2 with heq | ⟨_, _, heq⟩
        · rw [heq]
          exact ⟨rfl, rfl⟩
        · rw [heq]
          exact ⟨rfl, rfl⟩
      change Custody (s.closeContact entry.2).epoch _
        (Drained _ (s.closeContact entry.2).failedPeers)
      rw [hsame.left, hsame.right]
      refine closeContact_custody entry.2 h ?_
      rintro m hne (⟨j, other, hmem, rfl⟩ | hfailed)
      · refine Or.inl ⟨j, other, ?_, rfl⟩
        dsimp only
        by_cases heq : j = k
        · rw [heq, Function.update_self]
          rw [heq] at hmem
          exact mem_eraseIdx_of_ne hentry hne hmem
        · rw [Function.update_of_ne heq]
          exact hmem
      · exact Or.inr hfailed
  | @failPeer n i drain entry hdrain hentry =>
      have hsame : (s.closeContact entry.2).epoch = s.epoch ∧
          (s.closeContact entry.2).shutdownPeers = s.shutdownPeers := by
        rcases closeContact_cases s entry.2 with heq | ⟨_, _, heq⟩
        · rw [heq]
          exact ⟨rfl, rfl⟩
        · rw [heq]
          exact ⟨rfl, rfl⟩
      change Custody (s.closeContact entry.2).epoch _
        (Drained (s.closeContact entry.2).shutdownPeers _)
      rw [hsame.left, hsame.right]
      refine closeContact_custody entry.2 h ?_
      rintro m hne (hstopped | ⟨j, other, found, hother, hmem, rfl⟩)
      · exact Or.inl hstopped
      · by_cases heq : j = n
        · rw [heq, hdrain] at hother
          cases hother
          exact Or.inr ⟨n, _, found, Function.update_self _ _ _,
            mem_eraseIdx_of_ne hentry hne hmem, rfl⟩
        · exact Or.inr ⟨j, other, found, (Function.update_of_ne heq _ _).trans hother,
            hmem, rfl⟩
  | _ => exact h

structure Accounted (s : NetworkState P) : Prop where
  tied : Tied s
  custody : Custody s.epoch s.contacts (Drained s.shutdownPeers s.failedPeers)
  unstopped : Unstopped s

/-- A call or a loop holds the peer of this contact, and is going to close it. -/
inductive ContactStage.Holds : ContactStage -> Prop where
  | verifying (peer : Peer) : Holds (verifying peer)
  | refusing (peer : Peer) (code : Failure) : Holds (refusing peer code)
  | leaving (peerId : String) (peer : Peer) : Holds (leaving peerId peer)

variable [DiscoveryReaders P]

theorem accounted_of_reachable (h : Unwrapped s) : Accounted s := by
  refine Machine.ReachableWhen.invariant (I := Accounted) ?_ ?_ h
  · intro state hstart
    have htied := tied_initial hstart
    rcases hstart with ⟨_, _, _, _, _, _, _, hcontacts, _, _, _, hshutdown, _⟩
    refine ⟨htied, ⟨?_, ?_⟩, fun k _ => hshutdown k⟩
    · intro n contact peer hcontact
      rw [hcontacts n] at hcontact
      cases hcontact
    · intro n contact peerId peer hcontact
      rw [hcontacts n] at hcontact
      cases hcontact
  · intro state label after haccounted hfresh hnext
    have hstep := networkStep_of_next haccounted.tied.ordered hfresh.epoch hnext
    exact
      { tied := haccounted.tied.next hfresh.epoch hstep
        custody := custody_next haccounted.custody haccounted.tied haccounted.unstopped
          hstep
        unstopped := unstopped_next haccounted.unstopped hstep }

/--
No connection is forgotten, whatever is interleaved: a peer that the core has obtained
is closed, or connected, or taken by a shutdown or a failed renewal that is going to
close it, or in the hands of its own call or receive loop.
-/
theorem no_peer_forgotten (h : Unwrapped s) {n : Nat} {contact : Contact} {peer : Peer}
    (hcontact : s.contacts n = some contact) (hpeer : contact.stage.peer = some peer) :
    contact.closed = true ∨ (exists peerId : String, s.peers[peerId]? = some n) ∨
      Drained s.shutdownPeers s.failedPeers n ∨ contact.stage.Holds := by
  have haccounted := accounted_of_reachable h
  cases hstage : contact.stage with
  | dialing identity =>
      rw [hstage] at hpeer
      cases hpeer
  | accepting incoming =>
      rw [hstage] at hpeer
      cases hpeer
  | verifying found => exact Or.inr (Or.inr (Or.inr (ContactStage.Holds.verifying found)))
  | refusing found code =>
      exact Or.inr (Or.inr (Or.inr (ContactStage.Holds.refusing found code)))
  | receiving peerId found =>
      rcases haccounted.custody.receiving n contact peerId found hcontact hstage with
        hclosed | hepoch | hdrained
      · exact Or.inl hclosed
      · refine Or.inr (Or.inl ⟨peerId, ?_⟩)
        refine (haccounted.tied.connected peerId n).mpr
          ⟨contact, hcontact, hepoch, ?_⟩
        unfold Contact.connects
        rw [hstage]
      · exact Or.inr (Or.inr (Or.inl hdrained))
  | leaving peerId found =>
      exact Or.inr (Or.inr (Or.inr (ContactStage.Holds.leaving peerId found)))
  | ended found =>
      rw [hstage] at hpeer
      have hfound : found = some peer := hpeer
      rw [hfound] at hstage
      exact Or.inl (haccounted.custody.ended n contact peer hcontact hstage)

/-- The peer that is connected in the sample run. -/
theorem no_peer_forgotten_sample :
    exists (s : NetworkState Reference.sample) (contact : Contact),
      s.contacts 0 = some contact ∧ contact.closed = false ∧
        (contact.closed = true ∨ (exists peerId : String, s.peers[peerId]? = some 0) ∨
          Drained s.shutdownPeers s.failedPeers 0 ∨ contact.stage.Holds) := by
  rcases OneContact.Meeting.exists_met with ⟨m, hmet, _⟩
  have hcontact : m.asked.contacts 0 = some m.activated := rfl
  exact ⟨m.asked, m.activated, hcontact, rfl,
    no_peer_forgotten (unwrapped_of_within hmet) hcontact rfl⟩

end Closing

/-!
# What is told of a peer
-/

/--
Whether a peer is connected, as far as the events tell; there is no answer when they
connect it twice or disconnect what is not connected.
-/
def tellPeer (peerId : String) (connected : Bool) : CoreEvent -> Option Bool
  | CoreEvent.peerVerified name _ =>
      if name = peerId then (if connected then none else some true) else some connected
  | CoreEvent.peerDisconnected name =>
      if name = peerId then (if connected then some false else none) else some connected
  | _ => some connected

def toldOf (peerId : String) (events : List CoreEvent) : Option Bool :=
  events.foldlM (tellPeer peerId) false

def eventsOf (epoch : UInt64) (events : List Emission) : List CoreEvent :=
  (events.filter fun emission => decide (emission.epoch = epoch)).map Emission.event

/-- An event that connects and disconnects nobody. -/
def CoreEvent.Unrelated (event : CoreEvent) : Prop :=
  forall peerId connected, tellPeer peerId connected event = some connected

theorem CoreEvent.Quiet.unrelated {event : CoreEvent} (h : event.Quiet) :
    event.Unrelated := by
  intro peerId connected
  cases event with
  | message _ _ _ => rfl
  | error _ => rfl
  | onlineState _ => rfl
  | inboundRequest _ _ _ _ _ => exact absurd h id
  | inboundRequestExpired _ => exact absurd h id
  | peerVerified _ _ => exact absurd h id
  | peerDisconnected _ => exact absurd h id

section Telling

variable {peerId : String} {connected : Bool} {events later : List CoreEvent}
variable {epoch other : UInt64} {emissions : List Emission}

theorem toldOf_append :
    toldOf peerId (events ++ later) = (toldOf peerId events).bind fun connected =>
      later.foldlM (tellPeer peerId) connected :=
  List.foldlM_append

theorem foldlM_unrelated (h : forall event, event ∈ events -> event.Unrelated) :
    events.foldlM (tellPeer peerId) connected = some connected := by
  induction events with
  | nil => rfl
  | cons event rest ih =>
      rw [List.foldlM_cons, h event List.mem_cons_self peerId connected]
      exact ih fun found hfound => h found (List.mem_cons_of_mem event hfound)

/-- Peers with different names are disconnected one after the other. -/
theorem foldlM_disconnected {names : List String} (hnodup : names.Nodup)
    (hmem : peerId ∈ names -> connected = true) :
    (names.map CoreEvent.peerDisconnected).foldlM (tellPeer peerId) connected =
      some (connected && !names.contains peerId) := by
  induction names generalizing connected with
  | nil =>
      rw [List.contains_nil, Bool.not_false, Bool.and_true]
      rfl
  | cons name rest ih =>
      rw [List.nodup_cons] at hnodup
      rw [List.map_cons, List.foldlM_cons, List.contains_cons]
      unfold tellPeer
      dsimp only
      by_cases heq : name = peerId
      · have hrest : peerId ∉ rest := heq ▸ hnodup.left
        rw [if_pos heq, hmem (heq ▸ List.mem_cons_self), if_pos rfl, heq, beq_self_eq_true,
          Bool.true_or, Bool.not_true, Bool.and_false]
        have hfalse : (rest.map CoreEvent.peerDisconnected).foldlM (tellPeer peerId)
            false = some (false && !rest.contains peerId) :=
          ih hnodup.right fun hin => absurd hin hrest
        rw [Bool.false_and] at hfalse
        exact hfalse
      · rw [if_neg heq, beq_eq_false_iff_ne.mpr (Ne.symm heq), Bool.false_or]
        exact ih hnodup.right fun hin => hmem (List.mem_cons_of_mem name hin)

theorem eventsOf_append (hepoch : epoch = other) :
    eventsOf epoch (emissions ++ later.map fun event =>
      { epoch := other, event := event }) = eventsOf epoch emissions ++ later := by
  have hall : (later.map fun event => Emission.mk other event).filter
      (fun emission => decide (emission.epoch = epoch)) =
        later.map fun event => Emission.mk other event := by
    rw [List.filter_eq_self]
    intro emission hmem
    rcases List.mem_map.mp hmem with ⟨event, _, rfl⟩
    exact decide_eq_true hepoch.symm
  unfold eventsOf
  rw [List.filter_append, hall, List.map_append, List.map_map]
  congr 1
  exact List.map_id _

theorem eventsOf_append_other (hepoch : epoch ≠ other) :
    eventsOf epoch (emissions ++ later.map fun event =>
      { epoch := other, event := event }) = eventsOf epoch emissions := by
  have hnone : (later.map fun event => Emission.mk other event).filter
      (fun emission => decide (emission.epoch = epoch)) = [] := by
    rw [List.filter_eq_nil_iff]
    intro emission hmem
    rcases List.mem_map.mp hmem with ⟨event, _, rfl⟩
    rw [decide_eq_true_eq]
    exact Ne.symm hepoch
  unfold eventsOf
  rw [List.filter_append, hnone, List.append_nil]

/-- The names of the peers that a failed renewal has taken. -/
def Drain.names (drain : Drain) : List String :=
  (drain.left ++ drain.closed).map Prod.fst

/--
The events of each epoch connect and disconnect every peer in turn. What they tell of
the current epoch is what the core holds, and the peers of a failed epoch stay connected
until they are told to be disconnected.
-/
structure Told (epoch : UInt64) (peers : Table Nat) (failedPeers : Nat -> Option Drain)
    (emissions : List Emission) : Prop where
  current (peerId : String) :
    toldOf peerId (eventsOf epoch emissions) = some (peers.contains peerId)
  turns (other : UInt64) (peerId : String) :
    (toldOf peerId (eventsOf other emissions)).isSome = true
  future (other : UInt64) : epoch < other -> eventsOf other emissions = []
  failed (n : Nat) (drain : Drain) : failedPeers n = some drain ->
    drain.epoch < epoch ∧ drain.names.Nodup ∧
      forall name, name ∈ drain.names ->
        toldOf name (eventsOf drain.epoch emissions) = some true
  distinct (n m : Nat) (drain found : Drain) : failedPeers n = some drain ->
    failedPeers m = some found -> drain.epoch = found.epoch -> n = m

variable {peers : Table Nat} {failedPeers : Nat -> Option Drain}

theorem Told.unrelated (h : Told epoch peers failedPeers emissions)
    (hother : other ≤ epoch) (hlater : forall event, event ∈ later -> event.Unrelated) :
    Told epoch peers failedPeers (emissions ++ later.map fun event =>
      { epoch := other, event := event }) := by
  have hsame : forall found peerId,
      toldOf peerId (eventsOf found (emissions ++ later.map fun event =>
        { epoch := other, event := event })) = toldOf peerId (eventsOf found emissions) := by
    intro found peerId
    by_cases heq : found = other
    · rw [eventsOf_append heq, toldOf_append]
      cases toldOf peerId (eventsOf found emissions) with
      | none => rfl
      | some connected => exact foldlM_unrelated hlater
    · rw [eventsOf_append_other heq]
  constructor
  case current =>
    intro peerId
    rw [hsame]
    exact h.current peerId
  case turns =>
    intro found peerId
    rw [hsame]
    exact h.turns found peerId
  case future =>
    intro found hfound
    rw [eventsOf_append_other]
    · exact h.future found hfound
    · rintro rfl
      exact absurd (UInt64.lt_of_le_of_lt hother hfound) (UInt64.lt_irrefl _)
  case failed =>
    intro n drain hdrain
    rcases h.failed n drain hdrain with ⟨hepoch, hnodup, htold⟩
    refine ⟨hepoch, hnodup, fun name hname => ?_⟩
    rw [hsame]
    exact htold name hname
  case distinct => exact h.distinct

/-- Events of the current epoch tell what happens to the table. -/
theorem Told.step {peers' : Table Nat} (h : Told epoch peers failedPeers emissions)
    (hother : epoch = other)
    (hlater : forall peerId, later.foldlM (tellPeer peerId) (peers.contains peerId) =
      some (peers'.contains peerId)) :
    Told epoch peers' failedPeers (emissions ++ later.map fun event =>
      { epoch := other, event := event }) := by
  have hold : forall {found : UInt64}, found ≠ epoch ->
      eventsOf found (emissions ++ later.map fun event =>
        { epoch := other, event := event }) = eventsOf found emissions :=
    fun hne => eventsOf_append_other (hother ▸ hne)
  have hnew : forall peerId, toldOf peerId (eventsOf epoch
      (emissions ++ later.map fun event => { epoch := other, event := event })) =
        some (peers'.contains peerId) := by
    intro peerId
    rw [eventsOf_append hother, toldOf_append, h.current peerId]
    exact hlater peerId
  constructor
  case current => exact hnew
  case turns =>
    intro found peerId
    by_cases heq : found = epoch
    · rw [heq, hnew]
      rfl
    · rw [hold heq]
      exact h.turns found peerId
  case future =>
    intro found hfound
    rw [hold (UInt64.ne_of_lt hfound).symm]
    exact h.future found hfound
  case failed =>
    intro n drain hdrain
    rcases h.failed n drain hdrain with ⟨hepoch, hnodup, htold⟩
    refine ⟨hepoch, hnodup, fun name hname => ?_⟩
    rw [hold (UInt64.ne_of_lt hepoch)]
    exact htold name hname
  case distinct => exact h.distinct

theorem Told.enter (h : Told epoch peers failedPeers emissions)
    (hfresh : epoch.toNat + 1 < 2 ^ 64) :
    Told (epoch + 1) ∅ failedPeers emissions := by
  have hlt : epoch < epoch + 1 := by
    rw [UInt64.lt_iff_toNat_lt, UInt64.toNat_add, UInt64.toNat_one,
      Nat.mod_eq_of_lt hfresh]
    exact Nat.lt_succ_self _
  constructor
  case current =>
    intro peerId
    rw [h.future _ hlt, Std.ExtTreeMap.contains_empty]
    rfl
  case turns => exact h.turns
  case future =>
    intro found hfound
    exact h.future found (UInt64.lt_trans hlt hfound)
  case failed =>
    intro n drain hdrain
    rcases h.failed n drain hdrain with ⟨hepoch, hrest⟩
    exact ⟨UInt64.lt_trans hepoch hlt, hrest⟩
  case distinct => exact h.distinct

theorem toList_names_nodup (table : Table Nat) : (table.toList.map Prod.fst).Nodup := by
  rw [List.Nodup, List.pairwise_map]
  refine table.distinct_keys_toList.imp ?_
  rintro entry found hne heq
  rw [heq] at hne
  exact hne Std.ReflCmp.compare_self

theorem Told.fail (h : Told epoch peers failedPeers emissions)
    (hfresh : epoch.toNat + 1 < 2 ^ 64) (n : Nat) :
    Told (epoch + 1) ∅ (Function.update failedPeers n
      (some { epoch := epoch, left := peers.toList, closed := [] })) emissions := by
  have hlt : epoch < epoch + 1 := by
    rw [UInt64.lt_iff_toNat_lt, UInt64.toNat_add, UInt64.toNat_one,
      Nat.mod_eq_of_lt hfresh]
    exact Nat.lt_succ_self _
  refine { h.enter hfresh with failed := ?_, distinct := ?_ }
  · intro m drain hdrain
    by_cases heq : m = n
    · rw [heq, Function.update_self] at hdrain
      cases hdrain
      unfold Drain.names
      rw [List.append_nil]
      refine ⟨hlt, toList_names_nodup peers, ?_⟩
      intro name hname
      rcases List.mem_map.mp hname with ⟨entry, hentry, rfl⟩
      rw [Std.ExtTreeMap.mem_toList_iff_getElem?_eq_some] at hentry
      rw [h.current, Std.ExtTreeMap.contains_eq_isSome_getElem?, hentry]
      rfl
    · rw [Function.update_of_ne heq] at hdrain
      exact (h.enter hfresh).failed m drain hdrain
  · intro m k drain found hdrain hfound hepoch
    by_cases hm : m = n
    · by_cases hk : k = n
      · rw [hm, hk]
      · rw [hm, Function.update_self] at hdrain
        rw [Function.update_of_ne hk] at hfound
        cases hdrain
        have hearlier := (h.failed k found hfound).left
        rw [← hepoch] at hearlier
        exact absurd hearlier (UInt64.lt_irrefl _)
    · rw [Function.update_of_ne hm] at hdrain
      by_cases hk : k = n
      · rw [hk, Function.update_self] at hfound
        cases hfound
        have hearlier := (h.failed m drain hdrain).left
        rw [hepoch] at hearlier
        exact absurd hearlier (UInt64.lt_irrefl _)
      · rw [Function.update_of_ne hk] at hfound
        exact h.distinct m k drain found hdrain hfound hepoch

/-- The peers of a failed epoch are told to be disconnected, each of them once. -/
theorem Told.tell (h : Told epoch peers failedPeers emissions) {n : Nat} {drain : Drain}
    (hdrain : failedPeers n = some drain) (hleft : drain.left = [])
    (hlater : forall event, event ∈ later -> event.Unrelated) :
    Told epoch peers (Function.update failedPeers n none) (emissions ++
      (drain.closed.map (CoreEvent.peerDisconnected ∘ Prod.fst) ++ later).map
        fun event => { epoch := drain.epoch, event := event }) := by
  rcases h.failed n drain hdrain with ⟨hearlier, hnodup, htold⟩
  have hnames : drain.closed.map (CoreEvent.peerDisconnected ∘ Prod.fst) =
      drain.names.map CoreEvent.peerDisconnected := by
    unfold Drain.names
    rw [hleft, List.nil_append, List.map_map]
  have hothers : forall m found, Function.update failedPeers n none m = some found ->
      m ≠ n ∧ failedPeers m = some found := by
    intro m found hfound
    by_cases heq : m = n
    · rw [heq, Function.update_self] at hfound
      cases hfound
    · rw [Function.update_of_ne heq] at hfound
      exact ⟨heq, hfound⟩
  rw [hnames]
  constructor
  case current =>
    intro peerId
    rw [eventsOf_append_other (UInt64.ne_of_lt hearlier).symm]
    exact h.current peerId
  case turns =>
    intro found peerId
    by_cases heq : found = drain.epoch
    · have hbefore := h.turns found peerId
      rw [eventsOf_append heq, toldOf_append]
      cases hconnected : toldOf peerId (eventsOf found emissions) with
      | none =>
          rw [hconnected] at hbefore
          cases hbefore
      | some connected =>
          have hmem : peerId ∈ drain.names -> connected = true := by
            intro hname
            have htrue := htold peerId hname
            rw [← heq, hconnected] at htrue
            exact Option.some.inj htrue
          rw [Option.bind_some, List.foldlM_append, foldlM_disconnected hnodup hmem]
          exact congrArg Option.isSome (foldlM_unrelated hlater)
    · rw [eventsOf_append_other heq]
      exact h.turns found peerId
  case future =>
    intro found hfound
    rw [eventsOf_append_other (UInt64.ne_of_lt (UInt64.lt_trans hearlier hfound)).symm]
    exact h.future found hfound
  case failed =>
    intro m other hother
    rcases hothers m other hother with ⟨hne, hfound⟩
    have hepoch : other.epoch ≠ drain.epoch :=
      fun heq => hne (h.distinct m n other drain hfound hdrain heq)
    rw [eventsOf_append_other hepoch]
    exact h.failed m other hfound
  case distinct =>
    intro m k drained found hdrained hfound
    exact h.distinct m k drained found (hothers m drained hdrained).right
      (hothers k found hfound).right

theorem Told.drain (h : Told epoch peers failedPeers emissions) {n : Nat}
    {before after : Drain} (hbefore : failedPeers n = some before)
    (hnames : after.names.Perm before.names) (hepoch : after.epoch = before.epoch) :
    Told epoch peers (Function.update failedPeers n (some after)) emissions := by
  have hsame : forall m found, Function.update failedPeers n (some after) m =
      some found -> exists other, failedPeers m = some other ∧
        found.epoch = other.epoch ∧ found.names.Perm other.names := by
    intro m found hfound
    by_cases heq : m = n
    · rw [heq, Function.update_self] at hfound
      cases hfound
      exact ⟨before, heq ▸ hbefore, hepoch, hnames⟩
    · rw [Function.update_of_ne heq] at hfound
      exact ⟨found, hfound, rfl, List.Perm.refl _⟩
  refine { h with failed := ?_, distinct := ?_ }
  · intro m found hfound
    rcases hsame m found hfound with ⟨other, hother, hsameEpoch, hperm⟩
    rcases h.failed m other hother with ⟨hearlier, hnodup, htold⟩
    rw [hsameEpoch]
    exact ⟨hearlier, hperm.nodup_iff.mpr hnodup,
      fun name hname => htold name (hperm.mem_iff.mp hname)⟩
  · intro m k drained found hdrained hfound heq
    rcases hsame m drained hdrained with ⟨first, hfirst, hfirstEpoch, _⟩
    rcases hsame k found hfound with ⟨second, hsecond, hsecondEpoch, _⟩
    refine h.distinct m k first second hfirst hsecond ?_
    rw [← hfirstEpoch, heq, hsecondEpoch]

theorem names_perm {drain : Drain} {i : Nat} {entry : String × Nat}
    (hentry : drain.left[i]? = some entry) :
    (Drain.names { drain with
      left := drain.left.eraseIdx i
      closed := drain.closed ++ [entry] }).Perm drain.names := by
  rcases List.getElem?_eq_some_iff.mp hentry with ⟨hi, hget⟩
  unfold Drain.names
  refine List.Perm.map Prod.fst ?_
  have hleft : (entry :: drain.left.eraseIdx i).Perm drain.left :=
    hget ▸ List.getElem_cons_eraseIdx_perm hi
  calc drain.left.eraseIdx i ++ (drain.closed ++ [entry])
      = (drain.left.eraseIdx i ++ drain.closed) ++ [entry] :=
        (List.append_assoc _ _ _).symm
    _ |>.Perm (entry :: (drain.left.eraseIdx i ++ drain.closed)) :=
        List.perm_append_singleton entry _
    _ |>.Perm (drain.left ++ drain.closed) := hleft.append_right drain.closed

end Telling

section Stories

variable {P : Primitives} {s t : NetworkState P}

theorem told_next (h : Told s.epoch s.peers s.failedPeers s.events) (htied : Tied s)
    (hfresh : FreshEpoch s.online) (hstep : NetworkStep s t) :
    Told t.epoch t.peers t.failedPeers t.events := by
  have hkept : forall {epoch : UInt64}, epoch = s.epoch ->
      Told epoch s.peers s.failedPeers s.events := by
    rintro epoch rfl
    exact h
  cases hstep with
  | kept _ hepoch _ _ => exact hkept hepoch
  | entered hempty hepoch _ =>
      change Told _ s.peers s.failedPeers s.events
      unfold NetworkState.epoch
      dsimp only
      rw [hepoch, htied.offline.connected hempty]
      exact h.enter hfresh
  | disconnected hcore _ _ =>
      unfold NetworkState.epoch
      dsimp only
      rw [hcore]
      exact h.enter hfresh
  | failed n hcore _ _ =>
      unfold NetworkState.epoch
      dsimp only
      rw [hcore]
      exact h.fail hfresh n
  | told hepoch _ hdrain hleft _ =>
      refine Told.tell (hkept hepoch) hdrain hleft ?_
      intro event hevent
      rcases List.mem_cons.mp hevent with rfl | hlast
      · exact CoreEvent.Quiet.unrelated trivial
      · rw [List.mem_singleton.mp hlast]
        exact CoreEvent.Quiet.unrelated trivial
  | moved hcontact _ hquiet =>
      exact h.unrelated (htied.obtained.past _ _ hcontact)
        fun event hevent => (hquiet event hevent).unrelated
  | @activated n contact peer name _ _ hcurrent _ hfree =>
      refine h.step (isCurrent_iff.mp hcurrent).left ?_
      intro peerId
      have hself : compare name name = Ordering.eq := Std.ReflCmp.compare_self
      change _ = some ((s.peers.insert name n).contains peerId)
      rw [List.foldlM_cons, Std.ExtTreeMap.contains_insert]
      unfold tellPeer
      dsimp only
      by_cases heq : name = peerId
      · rw [if_pos heq, ← heq, hfree, hself]
        rfl
      · have hne : ¬ compare name peerId = Ordering.eq :=
          fun hcompare => heq (Std.LawfulEqCmp.eq_of_compare hcompare)
        rw [if_neg heq, beq_eq_false_iff_ne.mpr hne, Bool.false_or]
        rfl
  | @removed n contact peer name hcontact hstage hepoch =>
      have hconnects : contact.connects = some name := by
        unfold Contact.connects
        rw [hstage]
      have hown : s.peers[name]? = some n :=
        (htied.connected name n).mpr ⟨contact, hcontact, hepoch.symm, hconnects⟩
      refine h.step hepoch ?_
      intro peerId
      have hself : compare name name = Ordering.eq := Std.ReflCmp.compare_self
      change _ = some ((s.peers.erase name).contains peerId)
      rw [List.foldlM_cons, Std.ExtTreeMap.contains_erase]
      unfold tellPeer
      dsimp only
      by_cases heq : name = peerId
      · rw [if_pos heq, ← heq, Std.ExtTreeMap.contains_eq_isSome_getElem?, hown, hself]
        rfl
      · have hne : ¬ compare name peerId = Ordering.eq :=
          fun hcompare => heq (Std.LawfulEqCmp.eq_of_compare hcompare)
        rw [if_neg heq, bne_iff_ne.mpr hne, Bool.true_and]
        rfl
  | queued incoming now hcurrent _ _ =>
      refine h.unrelated ?_ ?_
      · rw [(isCurrent_iff.mp hcurrent).left]
        exact UInt64.le_refl _
      · intro event hevent
        rw [List.mem_singleton.mp hevent]
        exact fun _ _ => rfl
  | timedOut _ hepoch _ =>
      refine h.unrelated ?_ ?_
      · rw [hepoch]
        exact UInt64.le_refl _
      · intro event hevent
        rw [List.mem_singleton.mp hevent]
        exact fun _ _ => rfl
  | @shutPeer k i entry hentry =>
      rcases closeContact_cases s entry.2 with heq | ⟨contact, _, heq⟩
      · rw [heq]
        exact h
      · rw [heq]
        exact h
  | @failPeer n i drain entry hdrain hentry =>
      have hafter := h.drain hdrain (names_perm hentry) rfl
      rcases closeContact_cases s entry.2 with heq | ⟨contact, _, heq⟩
      · rw [heq]
        exact hafter
      · rw [heq]
        exact hafter
  | _ => exact h

theorem told_initial [DiscoveryReaders P] (h : (networkCore P).initial s) :
    Told s.epoch s.peers s.failedPeers s.events := by
  rcases h with ⟨_, _, hpeers, _, _, _, _, _, _, _, _, _, hfailed, hevents⟩
  have hnone : forall {n : Nat} {drain : Drain}, ¬ s.failedPeers n = some drain := by
    intro n drain hdrain
    rw [hfailed n] at hdrain
    cases hdrain
  rw [hevents, hpeers]
  constructor
  case current =>
    intro peerId
    rw [Std.ExtTreeMap.contains_empty]
    rfl
  case turns => exact fun _ _ => rfl
  case future => exact fun _ _ => rfl
  case failed => exact fun n drain hdrain => absurd hdrain hnone
  case distinct => exact fun n m drain found hdrain => absurd hdrain hnone

variable [DiscoveryReaders P]

theorem told_of_reachable (h : Unwrapped s) :
    Told s.epoch s.peers s.failedPeers s.events := by
  have hboth : Tied s ∧ Told s.epoch s.peers s.failedPeers s.events := by
    refine Machine.ReachableWhen.invariant
      (I := fun state =>
        Tied state ∧ Told state.epoch state.peers state.failedPeers state.events)
      (fun state hstart => ⟨tied_initial hstart, told_initial hstart⟩) ?_ h
    rintro state label after ⟨htied, htold⟩ hfresh hnext
    have hstep := networkStep_of_next htied.ordered hfresh.epoch hnext
    exact ⟨htied.next hfresh.epoch hstep, told_next htold htied hfresh.epoch hstep⟩
  exact hboth.right

/--
The events of one epoch never connect a peer twice nor disconnect one that is not
connected, in whatever order the flows emit them. What they tell of the current epoch is
exactly who is connected. A peer that a failed renewal has taken is told to be connected
until the renewal has closed them all and tells of each.
-/
theorem events_take_turns (h : Unwrapped s) :
    (forall peerId, toldOf peerId (eventsOf s.epoch s.events) =
      some (s.peers.contains peerId)) ∧
    (forall epoch peerId, (toldOf peerId (eventsOf epoch s.events)).isSome = true) ∧
    forall n drain, s.failedPeers n = some drain ->
      drain.epoch < s.epoch ∧ drain.names.Nodup ∧ forall name, name ∈ drain.names ->
        toldOf name (eventsOf drain.epoch s.events) = some true := by
  have htold := told_of_reachable h
  exact ⟨htold.current, htold.turns, htold.failed⟩

/-- The peer of the sample run has been connected, and has left again. -/
theorem events_take_turns_sample :
    exists s : NetworkState Reference.sample,
      { epoch := s.epoch, event := CoreEvent.peerDisconnected OneContact.remote } ∈
          s.events ∧
        toldOf OneContact.remote (eventsOf s.epoch s.events) = some false := by
  rcases OneContact.Meeting.exists_met with ⟨m, hmet, hfresh, _⟩
  have htold := (events_take_turns (unwrapped_of_within
    (OneContact.Meeting.met_parted hmet hfresh))).left OneContact.remote
  have hleft : m.parted.peers.contains OneContact.remote = false := by
    unfold OneContact.Meeting.parted NetworkState.emit
    dsimp only
    rw [Std.ExtTreeMap.contains_eq_isSome_getElem?, Std.ExtTreeMap.getElem?_erase_self]
    rfl
  exact ⟨m.parted, List.mem_append_right _ List.mem_cons_self,
    htold.trans (congrArg some hleft)⟩

end Stories

end Browser
end Pubky2Pubky
