import Pubky2Pubky.Browser.NetworkCore

/-!
# Steps of the core

A step of the network core is one of a list of cases. Each of them names what the
guards of the source have checked, and what changes.
-/

namespace Pubky2Pubky
namespace Browser

open Foundation Protocol Client

/-!
# What a step does to the core
-/

section CoreEffects

variable {P : Primitives} {s t : OnlineState P}

/-- The epoch and the client after a step of going online or offline. -/
inductive CoreEffect (s t : OnlineState P) : OnlineLabel P -> Prop where
  | kept {label : OnlineLabel P} (hlabel : label ≠ OnlineLabel.disconnect)
      (hepoch : t.core.epoch = s.core.epoch)
      (hclient : s.core.client.isSome = true -> t.core.client.isSome = true) :
      CoreEffect s t label
  | entered (relays : List Url) (allowLoopback : Bool) (hempty : s.core.client = none)
      (hclient : t.core.client = none) (hepoch : t.core.epoch = s.core.epoch + 1) :
      CoreEffect s t (OnlineLabel.publish relays allowLoopback)
  | failed (n : Nat) (event : AwaitEvent) (hcore : t.core = s.core.leave) :
      CoreEffect s t (OnlineLabel.renewal n event)
  | disconnected (hcore : t.core = s.core.leave) :
      CoreEffect s t OnlineLabel.disconnect

theorem late_step {i : Nat} (hnext : s.next (OnlineLabel.late i) = some t) :
    exists orphan, s.orphans[i]? = some orphan ∧
      t =
        { s with
          homeserver := s.homeserver.write orphan.account orphan.path orphan.object
          orphans := s.orphans.eraseIdx i } := by
  unfold OnlineState.next at hnext
  dsimp only at hnext
  cases horphan : s.orphans[i]? with
  | none =>
      rw [horphan] at hnext
      cases hnext
  | some orphan =>
      rw [horphan] at hnext
      exact ⟨orphan, rfl, (Option.some.inj hnext).symm⟩

theorem coreEffect_of_next {label : OnlineLabel P} (h : Ordered s)
    (hnext : s.next label = some t) : CoreEffect s t label := by
  cases label with
  | signedIn fields =>
      cases hnext
      exact CoreEffect.kept nofun rfl id
  | publish relays allowLoopback =>
      rcases OnlineState.publish_step hnext with ⟨_, _, hempty, _, _, rfl⟩
      exact CoreEffect.entered relays allowLoopback hempty hempty rfl
  | call n event =>
      rcases OnlineState.call_step hnext with ⟨attempt, after, _, hstep, rfl⟩
      rcases hstep.quiet_or with hquiet | ⟨request, honline⟩
      · refine CoreEffect.kept nofun hquiet.coreEpoch fun hclient => ?_
        change after.core.client.isSome = true
        rw [hquiet.client]
        exact hclient
      · have hafter := honline.after
        rw [Scope.goOnline_eq honline.epoch] at hafter
        rw [hafter]
        exact CoreEffect.kept nofun rfl fun _ => rfl
  | renewal n event =>
      rcases OnlineState.renewal_step hnext with ⟨attempt, after, hattempt, hstep, rfl⟩
      have hactive : attempt.renewal.Running ->
          Scope.Active
            { core := s.core, homeserver := s.homeserver, attempt := attempt } := by
        intro hrunning
        rcases h.active hattempt hrunning with ⟨hclient, hepoch⟩
        exact ⟨hepoch, Option.isSome_iff_exists.mpr ⟨n, hclient⟩⟩
      have hkept : forall core : CoreState P, after.core = core ->
          core.epoch = s.core.epoch -> core.client = s.core.client ->
          CoreEffect s
            ({ s with core := after.core, homeserver := after.homeserver }.setAttempt n
              after.attempt) (OnlineLabel.renewal n event) := by
        rintro core rfl hepoch hclient
        exact CoreEffect.kept nofun hepoch fun hsome => hclient.symm ▸ hsome
      cases hstep.loop hactive with
      | runs _ hcore _ _ => exact hkept _ hcore rfl rfl
      | renews _ hcore _ _ => exact hkept _ hcore rfl rfl
      | fails _ hcore _ => exact CoreEffect.failed n event hcore
      | ends _ _ hcore _ => exact hkept _ hcore rfl rfl
  | disconnect =>
      cases hnext
      exact CoreEffect.disconnected rfl
  | shutdown k event =>
      rcases OnlineState.shutdown_step hnext with ⟨shutdown, _, hstep⟩
      cases hstep with
      | closed _ =>
          have hcore := (s.closeClient_kept shutdown.client).left
          refine CoreEffect.kept nofun (congrArg CoreState.epoch hcore) fun hsome => ?_
          exact (congrArg CoreState.client hcore).symm ▸ hsome
      | deleted _ _ _ => exact CoreEffect.kept nofun rfl id
      | settled _ => exact CoreEffect.kept nofun rfl id
  | late i =>
      rcases late_step hnext with ⟨_, _, rfl⟩
      refine CoreEffect.kept ?_ rfl id
      intro heq
      cases heq

/-- Only a disconnect starts another shutdown. -/
theorem stopped_of_next {label : OnlineLabel P} (hnext : s.next label = some t)
    (hlabel : label ≠ OnlineLabel.disconnect) : t.stopped = s.stopped := by
  cases label with
  | signedIn fields =>
      cases hnext
      rfl
  | publish relays allowLoopback =>
      rcases OnlineState.publish_step hnext with ⟨_, _, _, _, _, rfl⟩
      rfl
  | call n event =>
      rcases OnlineState.call_step hnext with ⟨_, _, _, _, rfl⟩
      rfl
  | renewal n event =>
      rcases OnlineState.renewal_step hnext with ⟨_, _, _, _, rfl⟩
      rfl
  | disconnect => exact absurd rfl hlabel
  | shutdown k event =>
      rcases OnlineState.shutdown_step hnext with ⟨shutdown, _, hstep⟩
      cases hstep with
      | closed _ =>
          change (s.closeClient shutdown.client).stopped = s.stopped
          unfold OnlineState.closeClient
          split <;> rfl
      | deleted _ _ _ => rfl
      | settled _ => rfl
  | late i =>
      rcases late_step hnext with ⟨_, _, rfl⟩
      rfl

/-- A step of going online or offline that starts no shutdown. -/
structure Continues (s t : OnlineState P) : Prop where
  ordered : Ordered t
  stopped : t.stopped = s.stopped

end CoreEffects

/-!
# What a step does to the contacts
-/

def Contact.dials (self : Contact) : Option String :=
  match self.stage with
  | ContactStage.dialing identity => some identity
  | _ => none

def Contact.connects (self : Contact) : Option String :=
  match self.stage with
  | ContactStage.receiving peerId _ => some peerId
  | ContactStage.leaving peerId _ => some peerId
  | _ => none

/-- A change of one contact that no table has to follow. -/
structure Contact.Moves (before after : Contact) : Prop where
  epoch : after.epoch = before.epoch
  dials : after.dials = before.dials
  connects : after.connects = before.connects
  ended (peer : Peer) : after.stage = ContactStage.ended (some peer) ->
    after.closed = true
  receiving (peerId : String) (peer : Peer) :
    after.stage = ContactStage.receiving peerId peer ->
      before.stage = ContactStage.receiving peerId peer ∧
        (before.closed = true -> after.closed = true)

/-- An event that is about no connection and no request. -/
def CoreEvent.Quiet : CoreEvent -> Prop
  | message _ _ _ => True
  | error _ => True
  | onlineState _ => True
  | _ => False

section Steps

variable {P : Primitives} {s t : NetworkState P}

/-- A step of the core, with what its guards have checked. -/
inductive NetworkStep (s : NetworkState P) : NetworkState P -> Prop where
  | same : NetworkStep s s
  | identified (identity : Option String) :
      NetworkStep s { s with identity := identity }
  | kept {after : OnlineState P} (loops : Nat -> Option UInt64)
      (hepoch : after.core.epoch = s.epoch)
      (hclient : s.online.core.client.isSome = true ->
        after.core.client.isSome = true) (hafter : Continues s.online after) :
      NetworkStep s { s with online := after, incomingLoops := loops }
  | entered {after : OnlineState P} (hempty : s.online.core.client = none)
      (hepoch : after.core.epoch = s.epoch + 1) (hafter : Continues s.online after) :
      NetworkStep s { s with online := after }
  | disconnected {after : OnlineState P} (hcore : after.core = s.online.core.leave)
      (hordered : Ordered after) (hstopped : after.stopped = s.online.stopped + 1) :
      NetworkStep s
        { s.clear with
          online := after
          shutdownPeers := Function.update s.shutdownPeers s.online.stopped
            s.peers.toList }
  | failed {after : OnlineState P} (n : Nat)
      (hcore : after.core = s.online.core.leave)
      (hleft : forall drain, s.failedPeers n = some drain -> drain.left = [])
      (hafter : Continues s.online after) :
      NetworkStep s
        { s.clear with
          online := after
          failedPeers := Function.update s.failedPeers n
            (some { epoch := s.epoch, left := s.peers.toList, closed := [] }) }
  | told {after : OnlineState P} {n : Nat} {drain : Drain}
      (hepoch : after.core.epoch = s.epoch)
      (hclient : s.online.core.client.isSome = true ->
        after.core.client.isSome = true)
      (hdrain : s.failedPeers n = some drain) (hleft : drain.left = [])
      (hafter : Continues s.online after) :
      NetworkStep s ({ s with
        online := after
        failedPeers := Function.update s.failedPeers n none }.emit drain.epoch
          (drain.closed.map (CoreEvent.peerDisconnected ∘ Prod.fst) ++
            [CoreEvent.error "publication-failed", CoreEvent.onlineState false]))
  | dials {identity : String} (hclient : s.online.core.client.isSome = true)
      (hfew : s.peers.size + s.dialing.card < maxConnectedPeers)
      (hfree : identity ∉ s.dialing) :
      NetworkStep s ({ s with dialing := insert identity s.dialing }.begin
        (ContactStage.dialing identity))
  | undialed {n : Nat} {contact after : Contact} {identity : String}
      (hcontact : s.contacts n = some contact)
      (hstage : contact.stage = ContactStage.dialing identity)
      (hepoch : after.epoch = contact.epoch)
      (hafter : after.stage = ContactStage.ended none ∨
        exists peer, after.stage = ContactStage.verifying peer) :
      NetworkStep s ({ s with
        dialing := if s.epoch = contact.epoch then s.dialing.erase identity
          else s.dialing }.setContact n after)
  | accepts {requestId : String} (incoming : IncomingV1) :
      NetworkStep s ({ s with
        pendingInbound := s.pendingInbound.erase requestId }.begin
          (ContactStage.accepting incoming))
  | moved {n : Nat} {contact after : Contact} {events : List CoreEvent}
      (hcontact : s.contacts n = some contact) (hmoves : contact.Moves after)
      (hquiet : forall event, event ∈ events -> event.Quiet) :
      NetworkStep s ((s.setContact n after).emit contact.epoch events)
  | activated {n : Nat} {contact : Contact} {peer : Peer} {peerId : String}
      (hcontact : s.contacts n = some contact)
      (hstage : contact.stage = ContactStage.verifying peer)
      (hcurrent : s.isCurrent contact.epoch = true)
      (hfew : s.peers.size < maxConnectedPeers)
      (hfree : s.peers.contains peerId = false) :
      NetworkStep s (({ s with peers := s.peers.insert peerId n }.setContact n
        ((contact.moveTo (ContactStage.receiving peerId peer)).answer
          (Except.ok { peerId := peerId, peerDeviceId := peer.remoteDeviceId }))).emit
        contact.epoch [CoreEvent.peerVerified peerId peer.remoteDeviceId])
  | removed {n : Nat} {contact : Contact} {peer : Peer} {peerId : String}
      (hcontact : s.contacts n = some contact)
      (hstage : contact.stage = ContactStage.leaving peerId peer)
      (hepoch : s.epoch = contact.epoch) :
      NetworkStep s ({ s.setContact n
          (contact.moveTo (ContactStage.ended (some peer))).close with
        peers := s.peers.erase peerId }.emit contact.epoch
          [CoreEvent.peerDisconnected peerId])
  | gone {n : Nat} {contact : Contact} {peer : Peer} {peerId : String}
      (hcontact : s.contacts n = some contact)
      (hstage : contact.stage = ContactStage.leaving peerId peer)
      (hgone : ¬ (s.epoch = contact.epoch ∧
        s.activeSession peerId = some peer.sessionId)) :
      NetworkStep s (s.setContact n
        (contact.moveTo (ContactStage.ended (some peer))).close)
  | declined (requestId : String) :
      NetworkStep s { s with pendingInbound := s.pendingInbound.erase requestId }
  | queued {epoch : UInt64} (incoming : IncomingV1) (now : Nat)
      (hcurrent : s.isCurrent epoch = true)
      (hfew : s.pendingInbound.size < maxPendingInbound)
      (hfewer : s.pendingFor incoming.identity < maxPendingPerIdentity) :
      NetworkStep s (s.queue epoch incoming now)
  | stopped (loops : Nat -> Option UInt64) :
      NetworkStep s { s with incomingLoops := loops }
  | timedOut {k : Nat} {timer : InboundExpiry} (htimer : s.timers k = some timer)
      (hepoch : s.epoch = timer.epoch)
      (hpending : s.pendingInbound.contains timer.requestId = true) :
      NetworkStep s ({ s with
        timers := Function.update s.timers k (some { timer with running := false })
        pendingInbound := s.pendingInbound.erase timer.requestId }.emit timer.epoch
          [CoreEvent.inboundRequestExpired timer.requestId])
  | slept {k : Nat} {timer : InboundExpiry} (htimer : s.timers k = some timer)
      (hgone : ¬ (s.epoch = timer.epoch ∧
        s.pendingInbound.contains timer.requestId = true)) :
      NetworkStep s { s with
        timers := Function.update s.timers k (some { timer with running := false }) }
  | shutPeer {k i : Nat} {entry : String × Nat}
      (hentry : (s.shutdownPeers k)[i]? = some entry) :
      NetworkStep s { s.closeContact entry.2 with
        shutdownPeers := Function.update s.shutdownPeers k
          ((s.shutdownPeers k).eraseIdx i) }
  | failPeer {n i : Nat} {drain : Drain} {entry : String × Nat}
      (hdrain : s.failedPeers n = some drain) (hentry : drain.left[i]? = some entry) :
      NetworkStep s { s.closeContact entry.2 with
        failedPeers := Function.update s.failedPeers n
          (some { drain with
            left := drain.left.eraseIdx i
            closed := drain.closed ++ [entry] }) }

@[simp] theorem NetworkState.emit_nil (s : NetworkState P) (epoch : UInt64) :
    s.emit epoch [] = s := by
  unfold NetworkState.emit
  rw [List.map_nil, List.append_nil]

/-- A contact that answers, or closes, or goes on to a stage of its own. -/
theorem moves_of_stage {before after : Contact} (hepoch : after.epoch = before.epoch)
    (hdials : before.dials = none) (hconnects : after.connects = before.connects)
    (hafter : (exists peer, after.stage = ContactStage.verifying peer) ∨
      (exists peer code, after.stage = ContactStage.refusing peer code) ∨
      (exists peerId peer, after.stage = ContactStage.leaving peerId peer) ∨
      after.stage = ContactStage.ended none ∨
      (exists peer, after.stage = ContactStage.ended (some peer)) ∧
        after.closed = true) :
    before.Moves after := by
  refine ⟨hepoch, ?_, hconnects, ?_, ?_⟩
  · rw [hdials]
    unfold Contact.dials
    rcases hafter with ⟨_, h⟩ | ⟨_, _, h⟩ | ⟨_, _, h⟩ | h | ⟨⟨_, h⟩, _⟩
    all_goals rw [h]
  · intro peer hended
    rcases hafter with ⟨_, h⟩ | ⟨_, _, h⟩ | ⟨_, _, h⟩ | h | ⟨_, hclosed⟩
    · rw [h] at hended
      cases hended
    · rw [h] at hended
      cases hended
    · rw [h] at hended
      cases hended
    · rw [h] at hended
      cases hended
    · exact hclosed
  · intro peerId peer hreceiving
    rcases hafter with ⟨_, h⟩ | ⟨_, _, h⟩ | ⟨_, _, h⟩ | h | ⟨⟨_, h⟩, _⟩
    all_goals
      rw [h] at hreceiving
      cases hreceiving

theorem closeContact_cases (s : NetworkState P) (n : Nat) :
    s.closeContact n = s ∨ exists contact, s.contacts n = some contact ∧
      s.closeContact n = s.setContact n contact.close := by
  unfold NetworkState.closeContact
  split
  · exact Or.inl rfl
  · next contact hcontact => exact Or.inr ⟨contact, hcontact, rfl⟩

theorem epoch_leave_ne (core : CoreState P) : core.leave.epoch ≠ core.epoch := by
  intro heq
  have hsucc : core.epoch + 1 = core.epoch := heq
  rw [UInt64.add_eq_left] at hsucc
  exact absurd hsucc (by decide)

theorem step_afterCall {after : OnlineState P} (n : Nat)
    (hafter : Continues s.online after) (hepoch : after.core.epoch = s.epoch)
    (hclient : s.online.core.client.isSome = true ->
      after.core.client.isSome = true) :
    NetworkStep s ({ s with online := after }.afterCall n) := by
  unfold NetworkState.afterCall
  split
  · exact NetworkStep.kept s.incomingLoops hepoch hclient hafter
  · split
    · exact NetworkStep.kept _ hepoch hclient hafter
    · exact NetworkStep.kept s.incomingLoops hepoch hclient hafter

theorem step_afterRenewal {after : OnlineState P} {n : Nat}
    (hafter : Continues s.online after)
    (hleft : forall drain, s.failedPeers n = some drain -> drain.left = [])
    (hepoch : after.core.epoch = s.epoch)
    (hclient : s.online.core.client.isSome = true ->
      after.core.client.isSome = true) :
    NetworkStep s ({ s with online := after }.afterRenewal n) := by
  unfold NetworkState.afterRenewal NetworkState.tell
  split
  · exact NetworkStep.kept s.incomingLoops hepoch hclient hafter
  · split
    · dsimp only
      split
      · exact NetworkStep.kept s.incomingLoops hepoch hclient hafter
      · next drain hdrain =>
          exact NetworkStep.told hepoch hclient hdrain (hleft drain hdrain) hafter
    · exact NetworkStep.kept s.incomingLoops hepoch hclient hafter

theorem step_online {label : OnlineLabel P} {after : OnlineState P}
    (h : Ordered s.online) (hfresh : FreshEpoch s.online)
    (hfree : s.blocks label = false) (hnext : s.online.next label = some after) :
    NetworkStep s (s.follow after label) := by
  have hordered := h.next hfresh hnext
  have hafter : label ≠ OnlineLabel.disconnect -> Continues s.online after :=
    fun hlabel => ⟨hordered, stopped_of_next hnext hlabel⟩
  have hleft : forall n event drain, s.blocks (OnlineLabel.renewal n event) = false ->
      s.failedPeers n = some drain -> drain.left = [] := by
    intro n event drain hblocks hdrain
    change (s.failedPeers n).any (fun drain => !drain.left.isEmpty) = false at hblocks
    rw [hdrain, Option.any_some, Bool.not_eq_false', List.isEmpty_iff] at hblocks
    exact hblocks
  cases coreEffect_of_next h hnext with
  | kept hlabel hepoch hclient =>
      cases label with
      | signedIn _ => exact NetworkStep.kept s.incomingLoops hepoch hclient (hafter nofun)
      | publish _ _ =>
          exact NetworkStep.kept s.incomingLoops hepoch hclient (hafter nofun)
      | call n _ => exact step_afterCall n (hafter nofun) hepoch hclient
      | renewal n event =>
          change NetworkStep s (if after.core.epoch ≠ s.epoch then _ else _)
          have hsame : ¬ after.core.epoch ≠ s.epoch := not_not.mpr hepoch
          rw [if_neg hsame]
          exact step_afterRenewal (hafter nofun) (fun drain => hleft n event drain hfree)
            hepoch hclient
      | disconnect => exact absurd rfl hlabel
      | shutdown _ _ =>
          exact NetworkStep.kept s.incomingLoops hepoch hclient (hafter nofun)
      | late _ => exact NetworkStep.kept s.incomingLoops hepoch hclient (hafter nofun)
  | entered relays allowLoopback hempty _ hepoch =>
      exact NetworkStep.entered hempty hepoch (hafter nofun)
  | failed n event hcore =>
      change NetworkStep s (if after.core.epoch ≠ s.epoch then _ else _)
      rw [if_pos]
      · exact NetworkStep.failed n hcore (fun drain => hleft n event drain hfree)
          (hafter nofun)
      · rw [hcore]
        exact epoch_leave_ne s.online.core
  | disconnected hcore =>
      have hstopped : after.stopped = s.online.stopped + 1 := by
        cases hnext
        rfl
      exact NetworkStep.disconnected hcore hordered hstopped

theorem step_requestPeer [DiscoveryReaders P] {peerIdentity : String}
    (h : s.requestPeer peerIdentity = Except.ok t) : NetworkStep s t := by
  unfold NetworkState.requestPeer at h
  simp only [bind_eq_ok, rejectIf_eq_ok, exists_unit, pure_eq_ok, not_or, ge_iff_le,
    Nat.not_le, Bool.not_eq_false] at h
  rcases h with ⟨identity, _, ⟨_, hclient, hfew, _, hfree⟩, rfl⟩
  exact NetworkStep.dials hclient hfew hfree

theorem step_dialed {n : Nat} {result : Option Peer} (h : s.dialed n result = some t) :
    NetworkStep s t := by
  unfold NetworkState.dialed at h
  split at h
  · cases h
  · next contact hcontact =>
      split at h
      · next identity hstage =>
          cases h
          have hdialing : (if s.epoch = contact.epoch then
                { s with dialing := s.dialing.erase identity } else s) =
              { s with
                dialing := if s.epoch = contact.epoch then s.dialing.erase identity
                  else s.dialing } := by
            split <;> rfl
          rw [hdialing]
          refine NetworkStep.undialed hcontact hstage ?_ ?_
          · cases result <;> rfl
          · cases result with
            | none => exact Or.inl rfl
            | some peer => exact Or.inr ⟨peer, rfl⟩
      · cases h

theorem step_acceptInbound {requestId : String}
    (h : s.acceptInbound requestId = Except.ok t) : NetworkStep s t := by
  unfold NetworkState.acceptInbound at h
  simp only [bind_eq_ok, pure_eq_ok] at h
  rcases h with ⟨incoming, _, rfl⟩
  exact NetworkStep.accepts incoming

theorem step_rejectInbound {requestId : String}
    (h : s.rejectInbound requestId = Except.ok t) : NetworkStep s t := by
  unfold NetworkState.rejectInbound at h
  simp only [bind_eq_ok, pure_eq_ok] at h
  rcases h with ⟨_, _, rfl⟩
  exact NetworkStep.declined requestId

/-- A step that changes one contact and tells nobody. -/
theorem step_moved {n : Nat} {contact after : Contact}
    (hcontact : s.contacts n = some contact) (hmoves : contact.Moves after) :
    NetworkStep s (s.setContact n after) := by
  have hstep := @NetworkStep.moved P s n contact after [] hcontact hmoves
    (fun _ hmem => absurd hmem List.not_mem_nil)
  rw [NetworkState.emit_nil] at hstep
  exact hstep

theorem step_accepted {n : Nat} {result : Option Peer}
    (h : s.accepted n result = some t) : NetworkStep s t := by
  unfold NetworkState.accepted at h
  split at h
  · cases h
  · next contact hcontact =>
      split at h
      · next incoming hstage =>
          cases h
          refine step_moved hcontact ?_
          have hdials : contact.dials = none := by
            unfold Contact.dials
            rw [hstage]
          have hconnects : contact.connects = none := by
            unfold Contact.connects
            rw [hstage]
          cases result with
          | none =>
              exact moves_of_stage rfl hdials hconnects.symm
                (Or.inr (Or.inr (Or.inr (Or.inl rfl))))
          | some peer =>
              exact moves_of_stage rfl hdials hconnects.symm (Or.inl ⟨peer, rfl⟩)
      · cases h

theorem step_pathFound [DiscoveryReaders P] {n : Nat} {path : ConnectionPath}
    (h : s.pathFound n path = some t) : NetworkStep s t := by
  unfold NetworkState.pathFound at h
  split at h
  · cases h
  · next contact hcontact =>
      split at h
      · next peer hstage =>
          cases h
          have hdials : contact.dials = none := by
            unfold Contact.dials
            rw [hstage]
          have hconnects : contact.connects = none := by
            unfold Contact.connects
            rw [hstage]
          have hrefusing : forall code, NetworkStep s (s.setContact n
              (contact.moveTo (ContactStage.refusing peer code))) := fun code =>
            step_moved hcontact (moves_of_stage rfl hdials hconnects.symm
              (Or.inr (Or.inl ⟨peer, code, rfl⟩)))
          unfold NetworkState.activatePeer
          split
          · exact hrefusing _
          · split
            · refine step_moved hcontact (moves_of_stage rfl hdials hconnects.symm ?_)
              exact Or.inr (Or.inr (Or.inr (Or.inr ⟨⟨peer, rfl⟩, rfl⟩)))
            · next peerId _ =>
                unfold NetworkState.activationError
                split
                · exact hrefusing _
                · next hok =>
                    split at hok
                    · cases hok
                    · next hcurrent =>
                        split at hok
                        · cases hok
                        · next hfree =>
                            rw [not_or, ge_iff_le, Nat.not_le, Bool.not_eq_true] at hfree
                            exact NetworkStep.activated hcontact hstage
                              (Bool.eq_true_of_not_eq_false hcurrent) hfree.left
                              hfree.right
      · cases h

theorem step_refused {n : Nat} (h : s.refused n = some t) : NetworkStep s t := by
  unfold NetworkState.refused at h
  split at h
  · cases h
  · next contact hcontact =>
      split at h
      · next peer code hstage =>
          cases h
          have hdials : contact.dials = none := by
            unfold Contact.dials
            rw [hstage]
          have hconnects : contact.connects = none := by
            unfold Contact.connects
            rw [hstage]
          refine step_moved hcontact (moves_of_stage rfl hdials hconnects.symm ?_)
          exact Or.inr (Or.inr (Or.inr (Or.inr ⟨⟨peer, rfl⟩, rfl⟩)))
      · cases h

theorem step_received {n : Nat} {result : Option Bytes} {now : Nat}
    (h : s.received n result now = some t) : NetworkStep s t := by
  unfold NetworkState.received at h
  split at h
  · cases h
  · next contact hcontact =>
      split at h
      · next peerId peer hstage =>
          have hleaving : contact.Moves
              (contact.moveTo (ContactStage.leaving peerId peer)) := by
            refine moves_of_stage rfl ?_ ?_ (Or.inr (Or.inr (Or.inl ⟨peerId, peer, rfl⟩)))
            · unfold Contact.dials
              rw [hstage]
            · unfold Contact.connects
              rw [hstage]
              rfl
          have hkept : contact.Moves contact :=
            { epoch := rfl
              dials := rfl
              connects := rfl
              ended := fun other hended => by rw [hstage] at hended; cases hended
              receiving := fun _ _ hreceiving => ⟨hreceiving, id⟩ }
          split at h
          · cases h
            exact step_moved hcontact hleaving
          · next bytes =>
              split at h
              · cases h
                have hsame : s.setContact n contact = s := by
                  unfold NetworkState.setContact
                  rw [← hcontact, Function.update_eq_self]
                have hstep := @NetworkStep.moved P s n contact contact
                  [CoreEvent.message peerId bytes now] hcontact hkept
                  (fun event hmem => List.eq_of_mem_singleton hmem ▸ trivial)
                rw [hsame] at hstep
                exact hstep
              · cases h
                exact NetworkStep.moved hcontact hleaving
                  (fun event hmem => List.eq_of_mem_singleton hmem ▸ trivial)
      · cases h

theorem step_left {n : Nat} (h : s.left n = some t) : NetworkStep s t := by
  unfold NetworkState.left at h
  split at h
  · cases h
  · next contact hcontact =>
      split at h
      · next peerId peer hstage =>
          dsimp only at h
          split at h
          · next hactive =>
              cases h
              exact NetworkStep.removed hcontact hstage hactive.left
          · next hgone =>
              cases h
              exact NetworkStep.gone hcontact hstage hgone
      · cases h

theorem step_incoming {n : Nat} {result : Option IncomingV1} {now : Nat}
    (h : s.incoming n result now = some t) : NetworkStep s t := by
  unfold NetworkState.incoming at h
  split at h
  · cases h
  · next epoch hloop =>
      dsimp only at h
      split at h
      · cases h
        exact NetworkStep.stopped _
      · next incoming =>
          split at h
          · cases h
            exact NetworkStep.stopped _
          · next hcurrent =>
              split at h
              · cases h
                exact NetworkStep.same
              · next hfew =>
                  cases h
                  rw [not_or, ge_iff_le, ge_iff_le, Nat.not_le, Nat.not_le] at hfew
                  exact NetworkStep.queued incoming now
                    (Bool.eq_true_of_not_eq_false hcurrent) hfew.left hfew.right

theorem step_expired {k : Nat} (h : s.expired k = some t) : NetworkStep s t := by
  unfold NetworkState.expired at h
  split at h
  · cases h
  · next timer htimer =>
      split at h
      · dsimp only at h
        split at h
        · next hpending =>
            cases h
            exact NetworkStep.timedOut htimer hpending.left hpending.right
        · next hgone =>
            cases h
            exact NetworkStep.slept htimer hgone
      · cases h

/-- Every step is one of the listed ones. -/
theorem networkStep_of_next [DiscoveryReaders P] {label : NetworkLabel P}
    (h : Ordered s.online) (hfresh : FreshEpoch s.online)
    (hnext : s.next label = some t) : NetworkStep s t := by
  have hguard : forall {result : StoreResult (NetworkState P)},
      (forall after, result = Except.ok after -> NetworkStep s after) ->
        NetworkStep s (s.afterGuard result) := by
    intro result hresult
    cases result with
    | error _ => exact NetworkStep.same
    | ok after => exact hresult after rfl
  cases label with
  | online label =>
      change (if s.blocks label = true then none else _) = some t at hnext
      split at hnext
      · cases hnext
      · next hfree =>
          rcases Option.map_eq_some_iff.mp hnext with ⟨after, hafter, rfl⟩
          exact step_online h hfresh (Bool.eq_false_of_not_eq_true hfree) hafter
  | identified identity =>
      cases hnext
      exact NetworkStep.identified identity
  | requestPeer peerIdentity =>
      cases hnext
      exact hguard fun _ => step_requestPeer
  | dialed n result => exact step_dialed hnext
  | acceptInbound requestId =>
      cases hnext
      exact hguard fun _ => step_acceptInbound
  | accepted n result => exact step_accepted hnext
  | rejectInbound requestId =>
      cases hnext
      exact hguard fun _ => step_rejectInbound
  | pathFound n path => exact step_pathFound hnext
  | refused n => exact step_refused hnext
  | received n result now => exact step_received hnext
  | left n => exact step_left hnext
  | incoming n result now => exact step_incoming hnext
  | expired k => exact step_expired hnext
  | shutdownPeer k i =>
      change s.shutdownPeer k i = some t at hnext
      unfold NetworkState.shutdownPeer at hnext
      split at hnext
      · cases hnext
      · next entry hentry =>
          cases hnext
          exact NetworkStep.shutPeer hentry
  | failedPeer n i =>
      change s.failedPeer n i = some t at hnext
      unfold NetworkState.failedPeer at hnext
      simp only [Option.bind_eq_bind, Option.bind_eq_some_iff, Option.pure_def,
        Option.some.injEq] at hnext
      rcases hnext with ⟨drain, hdrain, entry, hentry, rfl⟩
      exact NetworkStep.failPeer hdrain hentry

end Steps

end Browser
end Pubky2Pubky
