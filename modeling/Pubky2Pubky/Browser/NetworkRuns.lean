import Pubky2Pubky.Browser.NetworkSteps
import Pubky2Pubky.Browser.OnlineRecord

/-!
# Runs of the core

Without its contacts a run of the network core is a run of the flows that go online and
offline, and each such run is that of a core which nobody contacts. What holds of the
flows therefore holds of the whole core.
-/

namespace Pubky2Pubky
namespace Browser

open Foundation Protocol Client

/-!
# Runs of the flows
-/

section Runs

variable {P : Primitives} [DiscoveryReaders P]

/-- Neither the epoch nor the request number wraps. -/
structure NoWrap (s : NetworkState P) : Prop where
  epoch : FreshEpoch s.online
  requestId : s.nextRequestId.toNat + 1 < 2 ^ 64

/-- The runs in which neither the epoch nor the request number wraps. -/
abbrev Unwrapped (s : NetworkState P) : Prop :=
  (networkCore P).ReachableWhen (fun state _ => NoWrap state) s

/-- A core whose homeserver does not hold the object of its device yet. -/
def deviceNetwork (p : Publisher P) : Machine (NetworkState P) (NetworkLabel P) where
  initial s := (networkCore P).initial s ∧ p.object s.online = none
  next := NetworkState.next

/-- An assumption on the steps of going online and offline. -/
structure Within (allowed : OnlineState P -> OnlineLabel P -> Prop) (s : NetworkState P)
    (label : NetworkLabel P) : Prop where
  noWrap : NoWrap s
  online (step : OnlineLabel P) : label = NetworkLabel.online step ->
    allowed s.online step

variable {p : Publisher P} {allowed : OnlineState P -> OnlineLabel P -> Prop}
variable {s t : NetworkState P}

theorem unwrapped_of_within (h : (deviceNetwork p).ReachableWhen (Within allowed) s) :
    Unwrapped s := by
  induction h with
  | start hinitial => exact Machine.ReachableWhen.start hinitial.left
  | step _ hwithin hnext ih => exact Machine.ReachableWhen.step ih hwithin.noWrap hnext

omit [DiscoveryReaders P] in
theorem online_activatePeer [DiscoveryReaders P] (n : Nat) (contact : Contact)
    (peer : Peer) (path : ConnectionPath) :
    (s.activatePeer n contact peer path).online = s.online := by
  unfold NetworkState.activatePeer
  split
  · rfl
  · split
    · rfl
    · split
      · rfl
      · rfl

omit [DiscoveryReaders P] in
theorem online_follow (after : OnlineState P) (label : OnlineLabel P) :
    (s.follow after label).online = after := by
  have hcall : forall n, ({ s with online := after }.afterCall n).online = after := by
    intro n
    unfold NetworkState.afterCall
    split
    · rfl
    · split
      · rfl
      · rfl
  have hrenewal : forall n,
      ({ s with online := after }.afterRenewal n).online = after := by
    intro n
    unfold NetworkState.afterRenewal NetworkState.tell
    split
    · rfl
    · split
      · split
        · rfl
        · rfl
      · rfl
  unfold NetworkState.follow
  split
  · exact hcall _
  · split
    · rfl
    · exact hrenewal _
  · rfl
  · rfl

omit [DiscoveryReaders P] in
theorem online_closeContact (n : Nat) : (s.closeContact n).online = s.online := by
  rcases closeContact_cases s n with heq | ⟨contact, _, heq⟩
  · rw [heq]
  · rw [heq]
    rfl

/-- Only the flows that go online and offline change the core they share. -/
theorem online_of_next {label : NetworkLabel P}
    (h : (networkCore P).next s label = some t) :
    (exists step, label = NetworkLabel.online step ∧
      s.online.next step = some t.online) ∨ t.online = s.online := by
  change s.next label = some t at h
  cases label with
  | online step =>
      unfold NetworkState.next at h
      dsimp only at h
      split at h
      · cases h
      · rcases Option.map_eq_some_iff.mp h with ⟨after, hafter, rfl⟩
        refine Or.inl ⟨step, rfl, ?_⟩
        rw [online_follow]
        exact hafter
  | identified identity =>
      cases h
      exact Or.inr rfl
  | requestPeer peerIdentity =>
      cases h
      unfold NetworkState.afterGuard NetworkState.requestPeer
      right
      split
      · rfl
      · next after hafter =>
          simp only [bind_eq_ok, rejectIf_eq_ok, exists_unit, pure_eq_ok] at hafter
          rcases hafter with ⟨identity, _, _, rfl⟩
          rfl
  | dialed n result =>
      unfold NetworkState.next NetworkState.dialed at h
      dsimp only at h
      split at h
      · cases h
      · split at h
        · cases h
          right
          split
          · rfl
          · rfl
        · cases h
  | acceptInbound requestId =>
      cases h
      unfold NetworkState.afterGuard NetworkState.acceptInbound
      right
      split
      · rfl
      · next after hafter =>
          simp only [bind_eq_ok, pure_eq_ok] at hafter
          rcases hafter with ⟨incoming, _, rfl⟩
          rfl
  | accepted n result =>
      unfold NetworkState.next NetworkState.accepted at h
      dsimp only at h
      split at h
      · cases h
      · split at h
        · cases h
          exact Or.inr rfl
        · cases h
  | rejectInbound requestId =>
      cases h
      unfold NetworkState.afterGuard NetworkState.rejectInbound
      right
      split
      · rfl
      · next after hafter =>
          simp only [bind_eq_ok, pure_eq_ok] at hafter
          rcases hafter with ⟨_, _, rfl⟩
          rfl
  | pathFound n path =>
      unfold NetworkState.next NetworkState.pathFound at h
      dsimp only at h
      split at h
      · cases h
      · split at h
        · cases h
          exact Or.inr (online_activatePeer _ _ _ _)
        · cases h
  | refused n =>
      unfold NetworkState.next NetworkState.refused at h
      dsimp only at h
      split at h
      · cases h
      · split at h
        · cases h
          exact Or.inr rfl
        · cases h
  | received n result now =>
      unfold NetworkState.next NetworkState.received at h
      dsimp only at h
      split at h
      · cases h
      · split at h
        · split at h
          · cases h
            exact Or.inr rfl
          · split at h
            · cases h
              exact Or.inr rfl
            · cases h
              exact Or.inr rfl
        · cases h
  | left n =>
      unfold NetworkState.next NetworkState.left at h
      dsimp only at h
      split at h
      · cases h
      · split at h
        · split at h
          · cases h
            exact Or.inr rfl
          · cases h
            exact Or.inr rfl
        · cases h
  | incoming n result now =>
      unfold NetworkState.next NetworkState.incoming at h
      dsimp only at h
      split at h
      · cases h
      · split at h
        · cases h
          exact Or.inr rfl
        · split at h
          · cases h
            exact Or.inr rfl
          · split at h
            · cases h
              exact Or.inr rfl
            · cases h
              exact Or.inr rfl
  | expired k =>
      unfold NetworkState.next NetworkState.expired at h
      dsimp only at h
      split at h
      · cases h
      · split at h
        · split at h
          · cases h
            exact Or.inr rfl
          · cases h
            exact Or.inr rfl
        · cases h
  | shutdownPeer k i =>
      unfold NetworkState.next NetworkState.shutdownPeer at h
      dsimp only at h
      split at h
      · cases h
      · cases h
        exact Or.inr (online_closeContact _)
  | failedPeer n i =>
      unfold NetworkState.next NetworkState.failedPeer at h
      dsimp only at h
      rcases Option.bind_eq_some_iff.mp h with ⟨drain, _, hdrain⟩
      rcases Option.bind_eq_some_iff.mp hdrain with ⟨entry, _, hentry⟩
      cases hentry
      exact Or.inr (online_closeContact _)

theorem deviceCore_of_within (h : (deviceNetwork p).ReachableWhen (Within allowed) s) :
    (deviceCore p).ReachableWhen allowed s.online := by
  induction h with
  | start hinitial =>
      exact Machine.ReachableWhen.start ⟨hinitial.left.left, hinitial.right⟩
  | step _ hwithin hnext ih =>
      rcases online_of_next hnext with ⟨step, hlabel, hstep⟩ | hsame
      · exact Machine.ReachableWhen.step ih (hwithin.online step hlabel) hstep
      · rw [hsame]
        exact ih

end Runs

/-!
# A core that nobody contacts
-/

section Idle

variable {P : Primitives}

def idle (online : OnlineState P) (incomingLoops : Nat -> Option UInt64)
    (failedPeers : Nat -> Option Drain) (events : List Emission) : NetworkState P where
  online := online
  identity := none
  peers := ∅
  pendingInbound := ∅
  dialing := ∅
  nextRequestId := 0
  obtained := 0
  contacts := fun _ => none
  queued := 0
  timers := fun _ => none
  incomingLoops := incomingLoops
  shutdownPeers := fun _ => []
  failedPeers := failedPeers
  events := events

/-- Each call that is online has its incoming loop, and no failure waits for a peer. -/
structure Listening (online : OnlineState P) (incomingLoops : Nat -> Option UInt64)
    (failedPeers : Nat -> Option Drain) : Prop where
  loops (n : Nat) (attempt : Attempt P) : online.attempts n = some attempt ->
    attempt.stage.isOnline = true -> incomingLoops n = some attempt.epoch
  failed (n : Nat) (drain : Drain) : failedPeers n = some drain -> drain.left = []

/-- Only its own call takes an attempt online. -/
theorem online_before {s t : OnlineState P} {label : OnlineLabel P}
    (hnext : s.next label = some t) {n : Nat} {attempt : Attempt P}
    (hattempt : t.attempts n = some attempt) (honline : attempt.stage.isOnline = true) :
    (exists event, label = OnlineLabel.call n event) ∨
      exists before, s.attempts n = some before ∧ before.stage.isOnline = true ∧
        before.epoch = attempt.epoch := by
  have hsame : t.attempts n = s.attempts n -> exists before,
      s.attempts n = some before ∧ before.stage.isOnline = true ∧
        before.epoch = attempt.epoch := by
    intro heq
    exact ⟨attempt, heq ▸ hattempt, honline, rfl⟩
  cases label with
  | signedIn fields =>
      cases hnext
      exact Or.inr (hsame rfl)
  | publish relays allowLoopback =>
      rcases OnlineState.publish_step hnext with ⟨_, _, _, _, _, rfl⟩
      rcases update_cases hattempt with ⟨_, rfl⟩ | ⟨_, hbefore⟩
      · cases honline
      · exact Or.inr ⟨attempt, hbefore, honline, rfl⟩
  | call m event =>
      rcases OnlineState.call_step hnext with ⟨_, _, _, _, rfl⟩
      rcases update_cases hattempt with ⟨rfl, _⟩ | ⟨_, hbefore⟩
      · exact Or.inl ⟨event, rfl⟩
      · exact Or.inr ⟨attempt, hbefore, honline, rfl⟩
  | renewal m event =>
      rcases OnlineState.renewal_step hnext with ⟨before, after, hbefore, hstep, rfl⟩
      rcases update_cases hattempt with ⟨rfl, rfl⟩ | ⟨_, hother⟩
      · rw [hstep.kept.left] at honline
        exact Or.inr ⟨before, hbefore, honline, hstep.kept.right.symm⟩
      · exact Or.inr ⟨attempt, hother, honline, rfl⟩
  | disconnect =>
      cases hnext
      change (s.abort s.core.renewalAbort).attempts n = some attempt at hattempt
      unfold OnlineState.abort at hattempt
      split at hattempt
      · exact Or.inr ⟨attempt, hattempt, honline, rfl⟩
      · next m before hfound =>
          rcases update_cases hattempt with ⟨rfl, rfl⟩ | ⟨_, hother⟩
          · rcases Option.bind_eq_some_iff.mp hfound with ⟨k, _, hmap⟩
            rcases Option.map_eq_some_iff.mp hmap with ⟨found, hfound, heq⟩
            cases heq
            exact Or.inr ⟨before, hfound, honline, rfl⟩
          · exact Or.inr ⟨attempt, hother, honline, rfl⟩
  | shutdown k event =>
      rcases OnlineState.shutdown_step hnext with ⟨shutdown, _, hstep⟩
      cases hstep with
      | closed _ =>
          change (s.closeClient shutdown.client).attempts n = some attempt at hattempt
          unfold OnlineState.closeClient at hattempt
          split at hattempt
          · exact Or.inr ⟨attempt, hattempt, honline, rfl⟩
          · next m before hfound =>
              rcases update_cases hattempt with ⟨rfl, rfl⟩ | ⟨_, hother⟩
              · rcases Option.bind_eq_some_iff.mp hfound with ⟨k, _, hmap⟩
                rcases Option.map_eq_some_iff.mp hmap with ⟨found, hfound, heq⟩
                cases heq
                exact Or.inr ⟨before, hfound, honline, rfl⟩
              · exact Or.inr ⟨attempt, hother, honline, rfl⟩
      | deleted _ _ _ => exact Or.inr (hsame rfl)
      | settled _ => exact Or.inr (hsame rfl)
  | late i =>
      rcases late_step hnext with ⟨_, _, rfl⟩
      exact Or.inr (hsame rfl)

variable {s t : OnlineState P} {incomingLoops : Nat -> Option UInt64}
variable {failedPeers : Nat -> Option Drain} {events : List Emission}
variable {label : OnlineLabel P}

theorem Listening.kept (h : Listening s incomingLoops failedPeers)
    (hnext : s.next label = some t) (hlabel : forall n event, label ≠ OnlineLabel.call n event)
    {failedPeers' : Nat -> Option Drain}
    (hfailed : forall n drain, failedPeers' n = some drain -> drain.left = []) :
    Listening t incomingLoops failedPeers' := by
  refine ⟨?_, hfailed⟩
  intro n attempt hattempt honline
  rcases online_before hnext hattempt honline with ⟨event, heq⟩ |
    ⟨before, hbefore, hstage, hepoch⟩
  · exact absurd heq (hlabel n event)
  · rw [← hepoch]
    exact h.loops n before hbefore hstage

theorem Listening.call {n : Nat} {event : AwaitEvent}
    (h : Listening s incomingLoops failedPeers)
    (hnext : s.next (OnlineLabel.call n event) = some t)
    {incomingLoops' : Nat -> Option UInt64}
    (hother : forall m, m ≠ n -> incomingLoops' m = incomingLoops m)
    (hown : forall attempt, t.attempts n = some attempt ->
      attempt.stage.isOnline = true -> incomingLoops' n = some attempt.epoch) :
    Listening t incomingLoops' failedPeers := by
  refine ⟨?_, h.failed⟩
  intro m attempt hattempt honline
  by_cases heq : m = n
  · subst heq
    exact hown attempt hattempt honline
  · rw [hother m heq]
    rcases online_before hnext hattempt honline with ⟨_, hlabel⟩ |
      ⟨before, hbefore, hstage, hepoch⟩
    · cases hlabel
      exact absurd rfl heq
    · rw [← hepoch]
      exact h.loops m before hbefore hstage

theorem idle_blocks (h : Listening s incomingLoops failedPeers) :
    (idle s incomingLoops failedPeers events).blocks label = false := by
  unfold NetworkState.blocks
  split
  · rfl
  · next n _ =>
      change (failedPeers n).any (fun drain => !drain.left.isEmpty) = false
      cases hdrain : failedPeers n with
      | none => rfl
      | some drain =>
          rw [Option.any_some, h.failed n drain hdrain]
          rfl
  · rfl

theorem idle_follow (events : List Emission)
    (h : Listening s incomingLoops failedPeers) (hnext : s.next label = some t) :
    exists incomingLoops' failedPeers' events',
      (idle s incomingLoops failedPeers events).follow t label =
        idle t incomingLoops' failedPeers' events' ∧
          Listening t incomingLoops' failedPeers' := by
  have hcleared : (∅ : Table Nat).toList = [] := rfl
  have hsame : (forall n event, label ≠ OnlineLabel.call n event) ->
      (idle s incomingLoops failedPeers events).follow t label =
        idle t incomingLoops failedPeers events ->
      exists incomingLoops' failedPeers' events',
        (idle s incomingLoops failedPeers events).follow t label =
          idle t incomingLoops' failedPeers' events' ∧
            Listening t incomingLoops' failedPeers' :=
    fun hlabel heq => ⟨_, _, _, heq, h.kept hnext hlabel h.failed⟩
  cases label with
  | signedIn fields => exact hsame nofun rfl
  | publish relays allowLoopback => exact hsame nofun rfl
  | shutdown k event => exact hsame nofun rfl
  | late i => exact hsame nofun rfl
  | disconnect =>
      refine hsame nofun ?_
      unfold NetworkState.follow
      dsimp only
      unfold idle NetworkState.clear
      dsimp only
      rw [hcleared]
      congr 1
      exact Function.update_eq_self _ _
  | call n event =>
      unfold NetworkState.follow NetworkState.afterCall
      dsimp only
      cases hattempt : t.attempts n with
      | none =>
          refine ⟨_, _, _, rfl, h.call hnext (fun _ _ => rfl) ?_⟩
          intro attempt hfound
          rw [hattempt] at hfound
          cases hfound
      | some attempt =>
          dsimp only
          cases honline : attempt.stage.isOnline with
          | false =>
              refine ⟨_, _, _, rfl, h.call hnext (fun _ _ => rfl) ?_⟩
              intro found hfound hstage
              rw [hattempt] at hfound
              cases hfound
              rw [honline] at hstage
              cases hstage
          | true =>
              refine ⟨Function.update incomingLoops n (some attempt.epoch), _, _, rfl,
                h.call hnext (fun m hne => Function.update_of_ne hne _ _) ?_⟩
              intro found hfound _
              rw [hattempt] at hfound
              cases hfound
              exact Function.update_self _ _ _
  | renewal n event =>
      have hkept : forall {failed}, (forall m drain, failed m = some drain ->
          drain.left = []) -> Listening t incomingLoops failed :=
        fun hfailed => h.kept hnext nofun hfailed
      unfold NetworkState.follow
      dsimp only
      split
      · refine ⟨_, Function.update failedPeers n
          (some { epoch := s.core.epoch, left := [], closed := [] }), _, rfl, hkept ?_⟩
        intro m drain hdrain
        by_cases heq : m = n
        · rw [heq, Function.update_self] at hdrain
          cases hdrain
          rfl
        · rw [Function.update_of_ne heq] at hdrain
          exact h.failed m drain hdrain
      · unfold NetworkState.afterRenewal NetworkState.tell
        split
        · exact ⟨_, _, _, rfl, hkept h.failed⟩
        · split
          · dsimp only
            split
            · exact ⟨_, _, _, rfl, hkept h.failed⟩
            · refine ⟨_, Function.update failedPeers n none, _, rfl, hkept ?_⟩
              intro m drain hdrain
              by_cases heq : m = n
              · rw [heq, Function.update_self] at hdrain
                cases hdrain
              · rw [Function.update_of_ne heq] at hdrain
                exact h.failed m drain hdrain
          · exact ⟨_, _, _, rfl, hkept h.failed⟩

/-- Each run of the flows is that of a core which nobody contacts. -/
theorem idle_reachable [DiscoveryReaders P] {p : Publisher P}
    {allowed : OnlineState P -> OnlineLabel P -> Prop}
    (hfresh : forall state label, allowed state label -> FreshEpoch state)
    (h : (deviceCore p).ReachableWhen allowed s) :
    exists incomingLoops failedPeers events,
      (deviceNetwork p).ReachableWhen (Within allowed)
        (idle s incomingLoops failedPeers events) ∧
          Listening s incomingLoops failedPeers := by
  induction h with
  | @start s hinitial =>
      refine ⟨fun _ => none, fun _ => none, [], ?_, ?_, fun _ _ => nofun⟩
      · exact Machine.ReachableWhen.start ⟨⟨hinitial.left, rfl, rfl, rfl, rfl, rfl, rfl,
          fun _ => rfl, rfl, fun _ => rfl, fun _ => rfl, fun _ => rfl, fun _ => rfl, rfl⟩,
          hinitial.right⟩
      · intro n attempt hattempt
        rcases hinitial.left with ⟨_, _, hattempts, _⟩
        rw [hattempts n] at hattempt
        cases hattempt
  | @step state after label _ hallowed hnext ih =>
      rcases ih with ⟨incomingLoops, failedPeers, events, hreachable, hlistening⟩
      rcases idle_follow events hlistening hnext with
        ⟨loops, failed, told, hfollow, hafter⟩
      have hstep : (idle state incomingLoops failedPeers events).next
          (NetworkLabel.online label) = some (idle after loops failed told) := by
        have honline : (idle state incomingLoops failedPeers events).online.next label =
            some after := hnext
        unfold NetworkState.next
        dsimp only
        rw [idle_blocks hlistening, if_neg Bool.false_ne_true, honline, Option.map_some,
          hfollow]
      refine ⟨loops, failed, told, Machine.ReachableWhen.step
        (a := NetworkLabel.online label) hreachable ?_ hstep, hafter⟩
      have hrequest : (0 : UInt64).toNat + 1 < 2 ^ 64 := by decide
      refine ⟨⟨hfresh state label hallowed, hrequest⟩, ?_⟩
      rintro step heq
      cases heq
      exact hallowed

end Idle

/-!
# A core with one contact
-/

namespace OneContact

open Protocol.Reference LaptopOnline

abbrev remote : String := sample.z32 (keyOf 1)

def peer : Peer where
  sessionId := [7]
  remoteIdentity := remote
  remoteDeviceId := "phone"

theorem canonicalIdentity_remote : canonicalIdentity sample remote = Except.ok remote := by
  have hparse : DiscoveryReaders.parsePublicKey (P := sample) remote =
      some (keyOf 1) :=
    Primitives.Lawful.tryFromZ32_z32 (P := sample) (keyOf 1)
  have hkey : canonicalPublicKey sample remote = Except.ok (keyOf 1) := by
    unfold canonicalPublicKey
    rw [hparse]
    change (rejectIf (remote ≠ remote) "invalid-pubky" >>= fun _ =>
      (pure (keyOf 1) : StoreResult sample.PublicKey)) = _
    unfold rejectIf
    rw [if_neg (not_not.mpr rfl)]
    rfl
  unfold canonicalIdentity
  rw [hkey]
  rfl

/-- A core that is online and has met nobody. -/
structure Meeting where
  online : OnlineState sample
  incomingLoops : Nat -> Option UInt64
  failedPeers : Nat -> Option Drain
  events : List Emission
  client : online.core.client.isSome = true
  loop : incomingLoops 0 = some online.core.epoch

namespace Meeting

variable (m : Meeting)

def start : NetworkState sample :=
  idle m.online m.incomingLoops m.failedPeers m.events

def dialing : NetworkState sample :=
  { m.start with dialing := insert remote ∅ }.begin (ContactStage.dialing remote)

def dialed : Contact where
  epoch := m.online.core.epoch
  stage := ContactStage.verifying peer
  closed := false
  result := none

def verifying : NetworkState sample :=
  { m.dialing with dialing := (insert remote ∅ : Finset String).erase remote }.setContact 0
    m.dialed

def activated : Contact :=
  (m.dialed.moveTo (ContactStage.receiving remote peer)).answer
    (Except.ok { peerId := remote, peerDeviceId := peer.remoteDeviceId })

def connected : NetworkState sample :=
  ({ m.verifying with peers := m.verifying.peers.insert remote 0 }.setContact 0
    m.activated).emit m.online.core.epoch
      [CoreEvent.peerVerified remote peer.remoteDeviceId]

def asked : NetworkState sample :=
  m.connected.queue m.online.core.epoch (sampleRequest 10) 1000

theorem start_next :
    m.start.next (NetworkLabel.requestPeer remote) = some m.dialing := by
  have hclient : m.start.online.core.client.isSome = true := m.client
  have hrequest : m.start.requestPeer remote = Except.ok m.dialing := by
    unfold NetworkState.requestPeer
    simp only [bind_eq_ok, rejectIf_eq_ok, exists_unit, pure_eq_ok]
    refine ⟨remote, canonicalIdentity_remote, ?_, rfl⟩
    rw [hclient]
    rintro (hsame | hnone | hfull | hconnected | hdialing)
    · cases hsame
    · cases hnone
    · exact absurd hfull (Nat.not_succ_le_zero 15)
    · change (∅ : Table Nat).contains remote = true at hconnected
      rw [Std.ExtTreeMap.contains_empty] at hconnected
      cases hconnected
    · exact absurd hdialing (Finset.notMem_empty _)
  exact congrArg (fun result => some (m.start.afterGuard result)) hrequest

theorem dialing_next :
    m.dialing.next (NetworkLabel.dialed 0 (some peer)) = some m.verifying := by
  have hcontact : m.dialing.contacts 0 = some
      { epoch := m.online.core.epoch
        stage := ContactStage.dialing remote
        closed := false
        result := none } := rfl
  unfold NetworkState.next NetworkState.dialed
  dsimp only
  rw [hcontact]
  dsimp only
  rw [if_pos]
  · rfl
  · rfl

theorem verifying_next :
    m.verifying.next (NetworkLabel.pathFound 0 ConnectionPath.relayed) =
      some m.connected := by
  have hcontact : m.verifying.contacts 0 = some m.dialed := rfl
  have hcurrent : m.verifying.isCurrent m.dialed.epoch = true := by
    unfold NetworkState.isCurrent
    rw [Bool.and_eq_true, decide_eq_true_eq]
    exact ⟨rfl, m.client⟩
  have hnone : m.verifying.activationError m.dialed.epoch remote = none := by
    unfold NetworkState.activationError
    rw [hcurrent, if_neg Bool.noConfusion, if_neg]
    rintro (hfull | hconnected)
    · exact absurd hfull (Nat.not_succ_le_zero 15)
    · change (∅ : Table Nat).contains remote = true at hconnected
      rw [Std.ExtTreeMap.contains_empty] at hconnected
      cases hconnected
  have hidentity : canonicalIdentity sample peer.remoteIdentity = Except.ok remote :=
    canonicalIdentity_remote
  unfold NetworkState.next NetworkState.pathFound
  dsimp only
  rw [hcontact]
  change some (m.verifying.activatePeer 0 m.dialed peer ConnectionPath.relayed) = _
  unfold NetworkState.activatePeer
  rw [if_neg (not_not.mpr rfl), hidentity]
  dsimp only
  rw [hnone]
  rfl

theorem connected_next :
    m.connected.next (NetworkLabel.incoming 0 (some (sampleRequest 10)) 1000) =
      some m.asked := by
  have hloop : m.connected.incomingLoops 0 = some m.online.core.epoch := m.loop
  have hcurrent : m.connected.isCurrent m.online.core.epoch = true := by
    unfold NetworkState.isCurrent
    rw [Bool.and_eq_true, decide_eq_true_eq]
    exact ⟨rfl, m.client⟩
  unfold NetworkState.next NetworkState.incoming
  dsimp only
  rw [hloop]
  dsimp only
  rw [hcurrent, if_neg Bool.noConfusion, if_neg]
  · rfl
  · rintro (hfull | hmany)
    · exact absurd hfull (Nat.not_succ_le_zero 15)
    · exact absurd hmany (Nat.not_succ_le_zero 1)

/-- The request is rejected. -/
def answered : NetworkState sample :=
  { m.asked with pendingInbound := m.asked.pendingInbound.erase (requestName 1) }

/-- Its timer ends after that. -/
def timedOut : NetworkState sample :=
  { m.answered with
    timers := Function.update m.answered.timers 0
      (some
        { requestId := requestName 1
          epoch := m.online.core.epoch
          running := false }) }

/-- The remote closes the connection. -/
def leaving : NetworkState sample :=
  m.asked.setContact 0 (m.activated.moveTo (ContactStage.leaving remote peer))

def parted : NetworkState sample :=
  { m.leaving.setContact 0
      (m.activated.moveTo (ContactStage.ended (some peer))).close with
    peers := m.leaving.peers.erase remote }.emit m.online.core.epoch
    [CoreEvent.peerDisconnected remote]

theorem asked_rejectInbound :
    m.asked.rejectInbound (requestName 1) = Except.ok m.answered := by
  have hpending : m.asked.pendingInbound[requestName 1]? = some (sampleRequest 10) :=
    Std.ExtTreeMap.getElem?_insert_self
  unfold NetworkState.rejectInbound
  rw [hpending]
  rfl

theorem answered_next :
    m.answered.next (NetworkLabel.expired 0) = some m.timedOut := by
  have htimer : m.answered.timers 0 = some
      { requestId := requestName 1
        epoch := m.online.core.epoch
        running := true } := rfl
  have hgone : m.answered.pendingInbound.contains (requestName 1) = false := by
    unfold answered
    dsimp only
    rw [Std.ExtTreeMap.contains_eq_isSome_getElem?, Std.ExtTreeMap.getElem?_erase_self]
    rfl
  unfold NetworkState.next NetworkState.expired
  dsimp only
  rw [htimer]
  dsimp only
  rw [if_pos rfl, hgone, if_neg (fun h => Bool.noConfusion h.right)]
  rfl

theorem asked_next :
    m.asked.next (NetworkLabel.received 0 none 1100) = some m.leaving := by
  have hcontact : m.asked.contacts 0 = some m.activated := rfl
  unfold NetworkState.next NetworkState.received
  dsimp only
  rw [hcontact]
  rfl

theorem leaving_next : m.leaving.next (NetworkLabel.left 0) = some m.parted := by
  have hcontact : m.leaving.contacts 0 =
      some (m.activated.moveTo (ContactStage.leaving remote peer)) := rfl
  have hpeer : m.leaving.peers[remote]? = some 0 :=
    Std.ExtTreeMap.getElem?_insert_self
  have hactive : m.leaving.activeSession remote = some peer.sessionId := by
    unfold NetworkState.activeSession
    rw [hpeer]
    rfl
  unfold NetworkState.next NetworkState.left
  dsimp only
  rw [hcontact]
  dsimp only [Contact.moveTo]
  rw [hactive, if_pos ⟨rfl, rfl⟩]
  rfl

abbrev Met (s : NetworkState sample) : Prop :=
  (deviceNetwork publisher).ReachableWhen (Within (InOrder publisher)) s

variable {m}

theorem met_step {s t : NetworkState sample} {label : NetworkLabel sample}
    (h : Met s) (hfresh : NoWrap s) (hnext : s.next label = some t)
    (hlabel : forall step, label ≠ NetworkLabel.online step) : Met t :=
  Machine.ReachableWhen.step h
    ⟨hfresh, fun step heq => absurd heq (hlabel step)⟩ hnext

/-- The core dials a peer, connects it, and is asked by another one. -/
theorem met_asked (h : Met m.start) (hfresh : FreshEpoch m.online) : Met m.asked := by
  have hnoWrap : (0 : UInt64).toNat + 1 < 2 ^ 64 := by decide
  have hdialing := met_step h ⟨hfresh, hnoWrap⟩ m.start_next nofun
  have hverifying := met_step hdialing ⟨hfresh, hnoWrap⟩ m.dialing_next nofun
  have hconnected := met_step hverifying ⟨hfresh, hnoWrap⟩ m.verifying_next nofun
  exact met_step hconnected ⟨hfresh, hnoWrap⟩ m.connected_next nofun

/-- The peer leaves again. -/
theorem met_parted (h : Met m.asked) (hfresh : FreshEpoch m.online) : Met m.parted := by
  have hnoWrap : (1 : UInt64).toNat + 1 < 2 ^ 64 := by decide
  have hleaving := met_step h ⟨hfresh, hnoWrap⟩ m.asked_next nofun
  exact met_step hleaving ⟨hfresh, hnoWrap⟩ m.leaving_next nofun

theorem exists_met :
    exists m : Meeting, Met m.asked ∧ FreshEpoch m.online ∧ Quiescent m.online := by
  rcases goes_online (s := signedInCore) laptop rfl (fun _ _ h => h)
    signedInCore_reachable (fun _ _ => rfl) rfl rfl rfl (by decide)
    with ⟨homeserver, attempt, hstage, hrenewal, hreachable⟩
  rcases idle_reachable (fun _ _ horder => horder.epoch) hreachable with
    ⟨incomingLoops, failedPeers, events, hmet, hlistening⟩
  rcases ((kept_of_reachable hreachable).ordered.client 0 rfl).online with
    ⟨found, record, hfound, _, hepoch, _⟩
  have hattempt : found = attempt := by
    have hown : (inCall signedInCore
        (onlineCoreState signedInCore.core 0 laptop.record) homeserver
          attempt).attempts 0 = some attempt := inCall_attempt
    exact Option.some.inj (hfound.symm.trans hown)
  subst hattempt
  have hloop := hlistening.loops 0 found hfound (hstage ▸ rfl)
  rw [hepoch] at hloop
  have hfresh : ((0 : UInt64) + 1).toNat + 1 < 2 ^ 64 := by decide
  exact ⟨⟨_, incomingLoops, failedPeers, events, rfl, hloop⟩, met_asked hmet hfresh,
    hfresh, quiescent_inCall hstage hrenewal⟩

end Meeting

end OneContact

end Browser
end Pubky2Pubky
