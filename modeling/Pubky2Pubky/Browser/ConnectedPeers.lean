import Pubky2Pubky.Foundation.Tables
import Pubky2Pubky.Browser.NetworkRuns

/-!
# Connected peers

Every entry in the tables of the core belongs to a flow of the current epoch: a name
that is dialed to its call, a connected peer to its receive loop, and a queued request
to its timer. The tables are bounded, and empty while the core has no client.
-/

namespace Pubky2Pubky
namespace Browser

open Foundation Protocol Client

/-!
# Contacts of the current epoch
-/

section Contacts

variable {contacts : Nat -> Option Contact} {epoch : UInt64}
variable {f : Contact -> Option String} {n m : Nat} {name : String}
variable {contact after : Contact}

/-- A contact of the epoch that shows this name. -/
def Shows (f : Contact -> Option String) (epoch : UInt64)
    (contacts : Nat -> Option Contact) (n : Nat) (name : String) : Prop :=
  exists contact, contacts n = some contact ∧ contact.epoch = epoch ∧
    f contact = some name

theorem shows_update :
    Shows f epoch (Function.update contacts n (some after)) m name <->
      (m = n ∧ after.epoch = epoch ∧ f after = some name) ∨
        (m ≠ n ∧ Shows f epoch contacts m name) := by
  unfold Shows
  by_cases heq : m = n
  · rw [heq, Function.update_self]
    constructor
    · rintro ⟨found, hfound, hepoch, hname⟩
      cases hfound
      exact Or.inl ⟨rfl, hepoch, hname⟩
    · rintro (⟨_, hepoch, hname⟩ | ⟨hne, _⟩)
      · exact ⟨after, rfl, hepoch, hname⟩
      · exact absurd rfl hne
  · rw [Function.update_of_ne heq]
    constructor
    · exact fun h => Or.inr ⟨heq, h⟩
    · rintro (⟨hn, _⟩ | ⟨_, h⟩)
      · exact absurd hn heq
      · exact h

theorem shows_of_same (hcontact : contacts n = some contact)
    (hepoch : after.epoch = contact.epoch) (hf : f after = f contact) :
    Shows f epoch (Function.update contacts n (some after)) m name <->
      Shows f epoch contacts m name := by
  rw [shows_update, hepoch, hf]
  constructor
  · rintro (⟨rfl, h⟩ | ⟨_, h⟩)
    · exact ⟨contact, hcontact, h⟩
    · exact h
  · intro h
    by_cases heq : m = n
    · rcases h with ⟨found, hfound, hshows⟩
      rw [heq, hcontact] at hfound
      cases hfound
      exact Or.inl ⟨heq, hshows⟩
    · exact Or.inr ⟨heq, h⟩

/-- A contact that stops showing its name, or never showed one. -/
theorem shows_of_none (hf : f after = none) :
    Shows f epoch (Function.update contacts n (some after)) m name <->
      m ≠ n ∧ Shows f epoch contacts m name := by
  rw [shows_update, hf]
  constructor
  · rintro (⟨_, _, hname⟩ | h)
    · cases hname
    · exact h
  · exact Or.inr

/-- No contact is of a later epoch, and the next one has a new number. -/
structure Obtained (epoch : UInt64) (obtained : Nat)
    (contacts : Nat -> Option Contact) : Prop where
  past (n : Nat) (contact : Contact) :
    contacts n = some contact -> contact.epoch ≤ epoch
  fresh (n : Nat) : obtained ≤ n -> contacts n = none

theorem Obtained.update {obtained : Nat} (h : Obtained epoch obtained contacts)
    (hcontact : contacts n = some contact) (hepoch : after.epoch = contact.epoch) :
    Obtained epoch obtained (Function.update contacts n (some after)) := by
  constructor
  case past =>
    intro m found hfound
    by_cases heq : m = n
    · rw [heq, Function.update_self] at hfound
      cases hfound
      rw [hepoch]
      exact h.past n contact hcontact
    · rw [Function.update_of_ne heq] at hfound
      exact h.past m found hfound
  case fresh =>
    intro m hm
    rw [Function.update_of_ne]
    · exact h.fresh m hm
    · rintro rfl
      rw [h.fresh m hm] at hcontact
      cases hcontact

theorem Obtained.begin {obtained : Nat} (h : Obtained epoch obtained contacts)
    (hepoch : after.epoch = epoch) :
    Obtained epoch (obtained + 1) (Function.update contacts obtained (some after)) := by
  constructor
  case past =>
    intro m found hfound
    by_cases heq : m = obtained
    · rw [heq, Function.update_self] at hfound
      cases hfound
      rw [hepoch]
      exact UInt64.le_refl epoch
    · rw [Function.update_of_ne heq] at hfound
      exact h.past m found hfound
  case fresh =>
    intro m hm
    rw [Function.update_of_ne (Nat.ne_of_gt hm)]
    exact h.fresh m (Nat.le_of_succ_le hm)

/-- Nothing is shown for an epoch that has not been used. -/
theorem Obtained.not_shows {obtained : Nat} (h : Obtained epoch obtained contacts)
    (hfresh : epoch.toNat + 1 < 2 ^ 64) : ¬ Shows f (epoch + 1) contacts n name := by
  rintro ⟨found, hfound, hepoch, _⟩
  have hle := h.past n found hfound
  rw [hepoch, UInt64.le_iff_toNat_le, UInt64.toNat_add, UInt64.toNat_one,
    Nat.mod_eq_of_lt hfresh] at hle
  exact Nat.not_succ_le_self epoch.toNat hle

theorem Obtained.enter {obtained : Nat} (h : Obtained epoch obtained contacts)
    (hfresh : epoch.toNat + 1 < 2 ^ 64) : Obtained (epoch + 1) obtained contacts := by
  refine ⟨?_, h.fresh⟩
  intro n contact hcontact
  have hle := h.past n contact hcontact
  rw [UInt64.le_iff_toNat_le] at hle ⊢
  rw [UInt64.toNat_add, UInt64.toNat_one, Nat.mod_eq_of_lt hfresh]
  exact Nat.le_succ_of_le hle

end Contacts

/-!
# The tables
-/

section Tables

/-- How many names are held at once. -/
structure Bounded (peers : Table Nat) (dialing : Finset String)
    (pendingInbound : Table IncomingV1) : Prop where
  connected : peers.size ≤ maxConnectedPeers
  dialed : dialing.card ≤ maxConnectedPeers
  pending : pendingInbound.size ≤ maxPendingInbound
  perIdentity (identity : String) :
    pendingInbound.toList.countP (fun entry => entry.2.identity == identity) ≤
      maxPendingPerIdentity

/-- A core without a client holds nothing. -/
structure Offline (client : Option Nat) (peers : Table Nat) (dialing : Finset String)
    (pendingInbound : Table IncomingV1) : Prop where
  connected : client = none -> peers = ∅
  dialed : client = none -> dialing = ∅
  pending : client = none -> pendingInbound = ∅

/-- The names in `dialing` are those of the dials of this epoch, one for each. -/
structure Dialing (epoch : UInt64) (contacts : Nat -> Option Contact)
    (dialing : Finset String) : Prop where
  names (identity : String) :
    identity ∈ dialing <-> exists n, Shows Contact.dials epoch contacts n identity
  once (n m : Nat) (identity : String) : Shows Contact.dials epoch contacts n identity ->
    Shows Contact.dials epoch contacts m identity -> n = m

/-- The connected peers are those with a receive loop of this epoch. -/
def Connected (epoch : UInt64) (contacts : Nat -> Option Contact) (peers : Table Nat) :
    Prop :=
  forall peerId n, peers[peerId]? = some n <->
    Shows Contact.connects epoch contacts n peerId

/-- Each queued request has a running timer of this epoch. -/
structure Timed (epoch : UInt64) (queued : Nat) (timers : Nat -> Option InboundExpiry)
    (pendingInbound : Table IncomingV1) : Prop where
  fresh (k : Nat) : queued ≤ k -> timers k = none
  running (id : String) (incoming : IncomingV1) :
    pendingInbound[id]? = some incoming ->
      exists k timer, timers k = some timer ∧ timer.requestId = id ∧
        timer.epoch = epoch ∧ timer.running = true

structure Tied {P : Primitives} (s : NetworkState P) : Prop where
  ordered : Ordered s.online
  obtained : Obtained s.epoch s.obtained s.contacts
  bounded : Bounded s.peers s.dialing s.pendingInbound
  offline : Offline s.online.core.client s.peers s.dialing s.pendingInbound
  dialing : Dialing s.epoch s.contacts s.dialing
  connected : Connected s.epoch s.contacts s.peers
  timed : Timed s.epoch s.queued s.timers s.pendingInbound

variable {P : Primitives} {s t : NetworkState P}

theorem Tied.obtained_next (h : Tied s) (hfresh : FreshEpoch s.online)
    (hstep : NetworkStep s t) : Obtained t.epoch t.obtained t.contacts := by
  cases hstep with
  | same => exact h.obtained
  | identified _ => exact h.obtained
  | kept _ hepoch _ _ =>
      unfold NetworkState.epoch
      rw [hepoch]
      exact h.obtained
  | entered _ hepoch _ =>
      unfold NetworkState.epoch
      rw [hepoch]
      exact h.obtained.enter hfresh
  | disconnected hcore _ _ =>
      unfold NetworkState.epoch
      rw [hcore]
      exact h.obtained.enter hfresh
  | failed _ hcore _ _ =>
      unfold NetworkState.epoch
      rw [hcore]
      exact h.obtained.enter hfresh
  | told hepoch _ _ _ _ =>
      unfold NetworkState.epoch
      rw [NetworkState.emit]
      dsimp only
      rw [hepoch]
      exact h.obtained
  | dials _ _ _ => exact h.obtained.begin rfl
  | undialed hcontact _ hepoch _ => exact h.obtained.update hcontact hepoch
  | accepts _ => exact h.obtained.begin rfl
  | moved hcontact hmoves _ => exact h.obtained.update hcontact hmoves.epoch
  | activated hcontact _ _ _ _ => exact h.obtained.update hcontact rfl
  | removed hcontact _ _ => exact h.obtained.update hcontact rfl
  | gone hcontact _ _ => exact h.obtained.update hcontact rfl
  | declined _ => exact h.obtained
  | queued _ _ _ _ _ => exact h.obtained
  | stopped _ => exact h.obtained
  | timedOut _ _ _ => exact h.obtained
  | slept _ _ => exact h.obtained
  | @shutPeer _ _ entry _ =>
      rcases closeContact_cases s entry.2 with heq | ⟨contact, hcontact, heq⟩
      · rw [heq]
        exact h.obtained
      · rw [heq]
        exact h.obtained.update hcontact rfl
  | @failPeer _ _ _ entry _ _ =>
      rcases closeContact_cases s entry.2 with heq | ⟨contact, hcontact, heq⟩
      · rw [heq]
        exact h.obtained
      · rw [heq]
        exact h.obtained.update hcontact rfl

theorem bounded_empty : Bounded ∅ ∅ ∅ where
  connected := Nat.zero_le _
  dialed := Nat.zero_le _
  pending := Nat.zero_le _
  perIdentity identity := by
    have hempty : (∅ : Table IncomingV1).toList = [] := rfl
    rw [hempty]
    exact Nat.zero_le _

theorem Bounded.erasePending {peers : Table Nat} {dialing : Finset String}
    {pendingInbound : Table IncomingV1} (h : Bounded peers dialing pendingInbound)
    (id : String) : Bounded peers dialing (pendingInbound.erase id) :=
  { h with
    pending := Nat.le_trans Std.ExtTreeMap.size_erase_le h.pending
    perIdentity := fun identity =>
      Nat.le_trans (countP_toList_erase_le pendingInbound id _) (h.perIdentity identity) }

theorem Tied.bounded_next (h : Tied s) (hstep : NetworkStep s t) :
    Bounded t.peers t.dialing t.pendingInbound := by
  cases hstep with
  | disconnected _ _ _ => exact bounded_empty
  | failed _ _ _ _ => exact bounded_empty
  | dials _ hfew _ =>
      refine { h.bounded with dialed := ?_ }
      refine Nat.le_trans (Finset.card_insert_le _ _) ?_
      exact Nat.lt_of_le_of_lt (Nat.le_add_left _ _) hfew
  | undialed _ _ _ _ =>
      refine { h.bounded with dialed := ?_ }
      change Finset.card (if _ then _ else _) ≤ _
      split
      · exact Nat.le_trans Finset.card_erase_le h.bounded.dialed
      · exact h.bounded.dialed
  | accepts _ => exact h.bounded.erasePending _
  | activated _ _ _ hfew _ =>
      exact { h.bounded with
        connected := Nat.le_trans Std.ExtTreeMap.size_insert_le hfew }
  | removed _ _ _ =>
      exact { h.bounded with
        connected := Nat.le_trans Std.ExtTreeMap.size_erase_le h.bounded.connected }
  | declined _ => exact h.bounded.erasePending _
  | queued incoming now _ hfew hfewer =>
      refine { h.bounded with pending := ?_, perIdentity := ?_ }
      · exact Nat.le_trans Std.ExtTreeMap.size_insert_le hfew
      · intro identity
        refine Nat.le_trans (countP_toList_insert_le s.pendingInbound _ incoming _) ?_
        split
        · next heq =>
            rw [← beq_iff_eq.mp heq]
            exact hfewer
        · exact h.bounded.perIdentity identity
  | timedOut _ _ _ => exact h.bounded.erasePending _
  | shutPeer _ =>
      rename_i entry _
      rcases closeContact_cases s entry.2 with heq | ⟨contact, _, heq⟩
      · rw [heq]
        exact h.bounded
      · rw [heq]
        exact h.bounded
  | failPeer _ _ =>
      rename_i entry _ _
      rcases closeContact_cases s entry.2 with heq | ⟨contact, _, heq⟩
      · rw [heq]
        exact h.bounded
      · rw [heq]
        exact h.bounded
  | _ => exact h.bounded

theorem isCurrent_iff {epoch : UInt64} :
    s.isCurrent epoch = true <->
      s.epoch = epoch ∧ s.online.core.client.isSome = true := by
  unfold NetworkState.isCurrent
  rw [Bool.and_eq_true, decide_eq_true_eq]

theorem Offline.erasePending {client : Option Nat} {peers : Table Nat}
    {dialing : Finset String} {pendingInbound : Table IncomingV1}
    (h : Offline client peers dialing pendingInbound) (id : String) :
    Offline client peers dialing (pendingInbound.erase id) := by
  refine { h with pending := ?_ }
  intro hclient
  rw [h.pending hclient]
  exact Std.ExtTreeMap.erase_empty

/-- A step that needs a client. -/
theorem offline_of_client {client : Option Nat} {peers : Table Nat}
    {dialing : Finset String} {pendingInbound : Table IncomingV1}
    (h : client.isSome = true) : Offline client peers dialing pendingInbound := by
  refine ⟨?_, ?_, ?_⟩
  all_goals
    intro hnone
    rw [hnone] at h
    cases h

theorem Tied.offline_next (h : Tied s) (hstep : NetworkStep s t) :
    Offline t.online.core.client t.peers t.dialing t.pendingInbound := by
  have hkept : forall {client : Option Nat},
      (s.online.core.client.isSome = true -> client.isSome = true) ->
        Offline client s.peers s.dialing s.pendingInbound := by
    intro client hclient
    have hnone : client = none -> s.online.core.client = none := by
      intro heq
      cases hsome : s.online.core.client with
      | none => rfl
      | some n =>
          have hafter := hclient (hsome ▸ rfl)
          rw [heq] at hafter
          cases hafter
    exact ⟨fun heq => h.offline.connected (hnone heq),
      fun heq => h.offline.dialed (hnone heq),
      fun heq => h.offline.pending (hnone heq)⟩
  cases hstep with
  | kept _ _ hclient _ => exact hkept hclient
  | told _ hclient _ _ _ => exact hkept hclient
  | entered hempty _ _ =>
      exact ⟨fun _ => h.offline.connected hempty, fun _ => h.offline.dialed hempty,
        fun _ => h.offline.pending hempty⟩
  | disconnected _ _ _ => exact ⟨fun _ => rfl, fun _ => rfl, fun _ => rfl⟩
  | failed _ _ _ _ => exact ⟨fun _ => rfl, fun _ => rfl, fun _ => rfl⟩
  | dials hclient _ _ => exact offline_of_client hclient
  | undialed _ _ _ _ =>
      refine { h.offline with dialed := ?_ }
      intro hclient
      have hempty := h.offline.dialed hclient
      change (if _ then s.dialing.erase _ else s.dialing) = ∅
      rw [hempty, Finset.erase_empty, ite_self]
  | accepts _ => exact h.offline.erasePending _
  | activated _ _ hcurrent _ _ =>
      exact offline_of_client (isCurrent_iff.mp hcurrent).right
  | removed _ _ _ =>
      refine { h.offline with connected := ?_ }
      intro hclient
      change s.peers.erase _ = ∅
      rw [h.offline.connected hclient]
      exact Std.ExtTreeMap.erase_empty
  | declined _ => exact h.offline.erasePending _
  | queued _ _ hcurrent _ _ =>
      exact offline_of_client (isCurrent_iff.mp hcurrent).right
  | timedOut _ _ _ => exact h.offline.erasePending _
  | shutPeer _ =>
      rename_i entry _
      rcases closeContact_cases s entry.2 with heq | ⟨contact, _, heq⟩
      · rw [heq]
        exact h.offline
      · rw [heq]
        exact h.offline
  | failPeer _ _ =>
      rename_i entry _ _
      rcases closeContact_cases s entry.2 with heq | ⟨contact, _, heq⟩
      · rw [heq]
        exact h.offline
      · rw [heq]
        exact h.offline
  | _ => exact h.offline

theorem Dialing.congr {epoch epoch' : UInt64} {contacts contacts' : Nat -> Option Contact}
    {dialing : Finset String} (h : Dialing epoch contacts dialing)
    (hsame : forall n identity, Shows Contact.dials epoch' contacts' n identity <->
      Shows Contact.dials epoch contacts n identity) :
    Dialing epoch' contacts' dialing where
  names identity := by
    rw [h.names identity]
    exact (exists_congr fun n => hsame n identity).symm
  once n m identity hn hm :=
    h.once n m identity ((hsame n identity).mp hn) ((hsame m identity).mp hm)

theorem dialing_empty {epoch : UInt64} {contacts : Nat -> Option Contact}
    (h : forall n identity, ¬ Shows Contact.dials epoch contacts n identity) :
    Dialing epoch contacts ∅ where
  names identity := by
    constructor
    · exact fun hmem => absurd hmem (Finset.notMem_empty identity)
    · rintro ⟨n, hshows⟩
      exact absurd hshows (h n identity)
  once n m identity hshows := absurd hshows (h n identity)

/-- A fresh contact that shows nothing. -/
theorem Obtained.shows_begin {epoch now : UInt64} {obtained n : Nat} {name : String}
    {contacts : Nat -> Option Contact} {f : Contact -> Option String}
    {contact : Contact} (h : Obtained now obtained contacts) (hf : f contact = none) :
    Shows f epoch (Function.update contacts obtained (some contact)) n name <->
      Shows f epoch contacts n name := by
  rw [shows_of_none hf, and_iff_right_iff_imp]
  rintro ⟨found, hfound, _⟩ rfl
  rw [h.fresh _ (Nat.le_refl _)] at hfound
  cases hfound

theorem Tied.dialing_dials (h : Tied s) {identity : String}
    (hfree : identity ∉ s.dialing) :
    Dialing s.epoch (s.begin (ContactStage.dialing identity)).contacts
      (insert identity s.dialing) := by
  have hshows : forall m name, Shows Contact.dials s.epoch
      (s.begin (ContactStage.dialing identity)).contacts m name <->
        (m = s.obtained ∧ identity = name) ∨ Shows Contact.dials s.epoch s.contacts m name := by
    intro m name
    refine shows_update.trans ?_
    constructor
    · rintro (⟨hm, _, hname⟩ | ⟨_, hm⟩)
      · exact Or.inl ⟨hm, Option.some.inj hname⟩
      · exact Or.inr hm
    · rintro (⟨hm, hname⟩ | hm)
      · exact Or.inl ⟨hm, rfl, congrArg some hname⟩
      · refine Or.inr ⟨?_, hm⟩
        rintro rfl
        rcases hm with ⟨found, hfound, _⟩
        rw [h.obtained.fresh _ (Nat.le_refl _)] at hfound
        cases hfound
  constructor
  case names =>
    intro name
    rw [Finset.mem_insert, h.dialing.names name]
    simp only [hshows]
    constructor
    · rintro (rfl | ⟨n, hn⟩)
      · exact ⟨_, Or.inl ⟨rfl, rfl⟩⟩
      · exact ⟨n, Or.inr hn⟩
    · rintro ⟨n, ⟨_, rfl⟩ | hn⟩
      · exact Or.inl rfl
      · exact Or.inr ⟨n, hn⟩
  case once =>
    have hnone : forall n, ¬ Shows Contact.dials s.epoch s.contacts n identity :=
      fun n hn => hfree ((h.dialing.names identity).mpr ⟨n, hn⟩)
    intro n m name hn hm
    rcases (hshows n name).mp hn with ⟨hnew, rfl⟩ | hold
    · rcases (hshows m identity).mp hm with ⟨hother, _⟩ | hother
      · rw [hnew, hother]
      · exact absurd hother (hnone m)
    · rcases (hshows m name).mp hm with ⟨_, rfl⟩ | hother
      · exact absurd hold (hnone n)
      · exact h.dialing.once n m name hold hother

/-- A dial that has returned gives its name back, if it is of this epoch. -/
theorem Tied.dialing_undialed (h : Tied s) {n : Nat} {contact after : Contact}
    {identity : String} (hcontact : s.contacts n = some contact)
    (hstage : contact.stage = ContactStage.dialing identity)
    (hafter : after.dials = none) :
    Dialing s.epoch (Function.update s.contacts n (some after))
      (if s.epoch = contact.epoch then s.dialing.erase identity else s.dialing) := by
  have hdials : contact.dials = some identity := by
    unfold Contact.dials
    rw [hstage]
  split
  · next hepoch =>
      have hown : Shows Contact.dials s.epoch s.contacts n identity :=
        ⟨contact, hcontact, hepoch.symm, hdials⟩
      constructor
      case names =>
        intro name
        rw [Finset.mem_erase, h.dialing.names name]
        simp only [shows_of_none hafter]
        constructor
        · rintro ⟨hne, m, hm⟩
          refine ⟨m, ?_, hm⟩
          rintro rfl
          rcases hm with ⟨found, hfound, _, hname⟩
          rw [hcontact] at hfound
          cases hfound
          rw [hdials] at hname
          exact hne (Option.some.inj hname).symm
        · rintro ⟨m, hne, hm⟩
          refine ⟨?_, m, hm⟩
          rintro rfl
          exact hne (h.dialing.once m n name hm hown)
      case once =>
        intro m k name hm hk
        exact h.dialing.once m k name ((shows_of_none hafter).mp hm).right
          ((shows_of_none hafter).mp hk).right
  · next hepoch =>
      refine h.dialing.congr fun m name => ?_
      rw [shows_of_none hafter, and_iff_right_iff_imp]
      rintro ⟨found, hfound, hfoundEpoch, _⟩ rfl
      rw [hcontact] at hfound
      cases hfound
      exact hepoch hfoundEpoch.symm

theorem Tied.dialing_next (h : Tied s) (hfresh : FreshEpoch s.online)
    (hstep : NetworkStep s t) : Dialing t.epoch t.contacts t.dialing := by
  have hmoved : forall {n : Nat} {contact after : Contact},
      s.contacts n = some contact -> after.epoch = contact.epoch ->
      after.dials = contact.dials ->
        Dialing s.epoch (Function.update s.contacts n (some after)) s.dialing :=
    fun hcontact hepoch hdials =>
      h.dialing.congr fun _ _ => shows_of_same hcontact hepoch hdials
  have hcleared : forall {after : OnlineState P}, after.core.epoch = s.epoch + 1 ->
      Dialing after.core.epoch s.contacts ∅ := by
    intro after hepoch
    rw [hepoch]
    exact dialing_empty fun _ _ => h.obtained.not_shows hfresh
  cases hstep with
  | kept _ hepoch _ _ =>
      unfold NetworkState.epoch
      rw [hepoch]
      exact h.dialing
  | told hepoch _ _ _ _ =>
      unfold NetworkState.epoch NetworkState.emit
      dsimp only
      rw [hepoch]
      exact h.dialing
  | entered hempty hepoch _ =>
      change Dialing _ s.contacts s.dialing
      rw [h.offline.dialed hempty]
      exact hcleared hepoch
  | disconnected hcore _ _ => exact hcleared (congrArg CoreState.epoch hcore)
  | failed _ hcore _ _ => exact hcleared (congrArg CoreState.epoch hcore)
  | dials _ _ hfree => exact h.dialing_dials hfree
  | undialed hcontact hstage _ hafter =>
      refine h.dialing_undialed hcontact hstage ?_
      unfold Contact.dials
      rcases hafter with hended | ⟨_, hverifying⟩
      · rw [hended]
      · rw [hverifying]
  | accepts _ => exact h.dialing.congr fun _ _ => h.obtained.shows_begin rfl
  | moved hcontact hmoves _ => exact hmoved hcontact hmoves.epoch hmoves.dials
  | activated hcontact hstage _ _ _ =>
      refine hmoved hcontact rfl ?_
      unfold Contact.dials
      rw [hstage]
      rfl
  | removed hcontact hstage _ =>
      refine hmoved hcontact rfl ?_
      unfold Contact.dials
      rw [hstage]
      rfl
  | gone hcontact hstage _ =>
      refine hmoved hcontact rfl ?_
      unfold Contact.dials
      rw [hstage]
      rfl
  | shutPeer _ =>
      rename_i entry _
      rcases closeContact_cases s entry.2 with heq | ⟨contact, hcontact, heq⟩
      · rw [heq]
        exact h.dialing
      · rw [heq]
        exact hmoved hcontact rfl rfl
  | failPeer _ _ =>
      rename_i entry _ _
      rcases closeContact_cases s entry.2 with heq | ⟨contact, hcontact, heq⟩
      · rw [heq]
        exact h.dialing
      · rw [heq]
        exact hmoved hcontact rfl rfl
  | _ => exact h.dialing

theorem Connected.congr {epoch epoch' : UInt64}
    {contacts contacts' : Nat -> Option Contact} {peers : Table Nat}
    (h : Connected epoch contacts peers)
    (hsame : forall n peerId, Shows Contact.connects epoch' contacts' n peerId <->
      Shows Contact.connects epoch contacts n peerId) :
    Connected epoch' contacts' peers :=
  fun peerId n => (h peerId n).trans (hsame n peerId).symm

theorem Tied.connected_activated (h : Tied s) {n : Nat} {contact after : Contact}
    {peerId : String} (hcontact : s.contacts n = some contact)
    (hbefore : contact.connects = none) (hafter : after.connects = some peerId)
    (hepoch : after.epoch = s.epoch) (hfree : s.peers.contains peerId = false) :
    Connected s.epoch (Function.update s.contacts n (some after))
      (s.peers.insert peerId n) := by
  have hother : forall name, ¬ Shows Contact.connects s.epoch s.contacts n name := by
    rintro name ⟨found, hfound, _, hname⟩
    rw [hcontact] at hfound
    cases hfound
    rw [hbefore] at hname
    cases hname
  intro name m
  rw [shows_update, hafter, Std.ExtTreeMap.getElem?_insert]
  split
  · next heq =>
      have hname := Std.LawfulEqCmp.eq_of_compare heq
      subst hname
      constructor
      · intro hm
        exact Or.inl ⟨(Option.some.inj hm).symm, hepoch, rfl⟩
      · rintro (⟨rfl, _⟩ | ⟨_, hm⟩)
        · rfl
        · rw [← h.connected, Std.ExtTreeMap.getElem?_eq_none_of_contains_eq_false hfree]
            at hm
          cases hm
  · next hne =>
      rw [h.connected name m]
      constructor
      · intro hm
        refine Or.inr ⟨?_, hm⟩
        rintro rfl
        exact hother name hm
      · rintro (⟨_, _, hname⟩ | ⟨_, hm⟩)
        · rw [Option.some.inj hname] at hne
          exact absurd Std.ReflCmp.compare_self hne
        · exact hm

/-- A receive loop of this epoch finds its own peer and takes it out. -/
theorem Tied.connected_removed (h : Tied s) {n : Nat} {contact after : Contact}
    {peerId : String} (hcontact : s.contacts n = some contact)
    (hbefore : contact.connects = some peerId) (hafter : after.connects = none)
    (hepoch : s.epoch = contact.epoch) :
    Connected s.epoch (Function.update s.contacts n (some after))
      (s.peers.erase peerId) := by
  have hown : s.peers[peerId]? = some n :=
    (h.connected peerId n).mpr ⟨contact, hcontact, hepoch.symm, hbefore⟩
  intro name m
  rw [shows_of_none hafter, Std.ExtTreeMap.getElem?_erase, ← h.connected name m]
  split
  · next heq =>
      rw [← Std.LawfulEqCmp.eq_of_compare heq, hown]
      constructor
      · nofun
      · rintro ⟨hne, hm⟩
        exact absurd (Option.some.inj hm).symm hne
  · next hne =>
      rw [iff_and_self]
      rintro hm rfl
      rcases (h.connected name m).mp hm with ⟨found, hfound, _, hname⟩
      rw [hcontact] at hfound
      cases hfound
      rw [hbefore] at hname
      rw [Option.some.inj hname] at hne
      exact hne Std.ReflCmp.compare_self

/-- The session that a receive loop of this epoch looks for is its own. -/
theorem Tied.activeSession (h : Tied s) {n : Nat} {contact : Contact} {peer : Peer}
    {peerId : String} (hcontact : s.contacts n = some contact)
    (hstage : contact.stage = ContactStage.leaving peerId peer)
    (hepoch : s.epoch = contact.epoch) :
    s.activeSession peerId = some peer.sessionId := by
  have hconnects : contact.connects = some peerId := by
    unfold Contact.connects
    rw [hstage]
  have hown : s.peers[peerId]? = some n :=
    (h.connected peerId n).mpr ⟨contact, hcontact, hepoch.symm, hconnects⟩
  unfold NetworkState.activeSession
  rw [hown]
  simp only [Option.bind_eq_bind, Option.bind_some, hcontact, hstage]
  rfl

theorem Tied.connected_next (h : Tied s) (hfresh : FreshEpoch s.online)
    (hstep : NetworkStep s t) : Connected t.epoch t.contacts t.peers := by
  have hmoved : forall {n : Nat} {contact after : Contact},
      s.contacts n = some contact -> after.epoch = contact.epoch ->
      after.connects = contact.connects ->
        Connected s.epoch (Function.update s.contacts n (some after)) s.peers :=
    fun hcontact hepoch hconnects =>
      h.connected.congr fun _ _ => shows_of_same hcontact hepoch hconnects
  have hcleared : forall {after : OnlineState P}, after.core.epoch = s.epoch + 1 ->
      Connected after.core.epoch s.contacts ∅ := by
    intro after hepoch peerId n
    rw [hepoch, Std.ExtTreeMap.getElem?_empty]
    exact iff_of_false nofun (h.obtained.not_shows hfresh)
  cases hstep with
  | kept _ hepoch _ _ =>
      unfold NetworkState.epoch
      rw [hepoch]
      exact h.connected
  | told hepoch _ _ _ _ =>
      unfold NetworkState.epoch NetworkState.emit
      dsimp only
      rw [hepoch]
      exact h.connected
  | entered hempty hepoch _ =>
      change Connected _ s.contacts s.peers
      rw [h.offline.connected hempty]
      exact hcleared hepoch
  | disconnected hcore _ _ => exact hcleared (congrArg CoreState.epoch hcore)
  | failed _ hcore _ _ => exact hcleared (congrArg CoreState.epoch hcore)
  | dials _ _ _ => exact h.connected.congr fun _ _ => h.obtained.shows_begin rfl
  | undialed hcontact hstage hepoch hafter =>
      refine hmoved hcontact hepoch ?_
      unfold Contact.connects
      rcases hafter with hended | ⟨_, hverifying⟩
      · rw [hstage, hended]
      · rw [hstage, hverifying]
  | accepts _ => exact h.connected.congr fun _ _ => h.obtained.shows_begin rfl
  | moved hcontact hmoves _ => exact hmoved hcontact hmoves.epoch hmoves.connects
  | activated hcontact hstage hcurrent _ hfree =>
      refine h.connected_activated hcontact ?_ rfl
        (isCurrent_iff.mp hcurrent).left.symm hfree
      unfold Contact.connects
      rw [hstage]
  | removed hcontact hstage hepoch =>
      refine h.connected_removed hcontact ?_ rfl hepoch
      unfold Contact.connects
      rw [hstage]
  | gone hcontact hstage hgone =>
      refine h.connected.congr fun m name => ?_
      refine (shows_of_none rfl).trans (and_iff_right_iff_imp.mpr ?_)
      rintro ⟨found, hfound, hepoch, _⟩ rfl
      rw [hcontact] at hfound
      cases hfound
      exact hgone ⟨hepoch.symm, h.activeSession hcontact hstage hepoch.symm⟩
  | shutPeer _ =>
      rename_i entry _
      rcases closeContact_cases s entry.2 with heq | ⟨contact, hcontact, heq⟩
      · rw [heq]
        exact h.connected
      · rw [heq]
        exact hmoved hcontact rfl rfl
  | failPeer _ _ =>
      rename_i entry _ _
      rcases closeContact_cases s entry.2 with heq | ⟨contact, hcontact, heq⟩
      · rw [heq]
        exact h.connected
      · rw [heq]
        exact hmoved hcontact rfl rfl
  | _ => exact h.connected

theorem Timed.erasePending {epoch : UInt64} {queued : Nat}
    {timers : Nat -> Option InboundExpiry} {pendingInbound : Table IncomingV1}
    (h : Timed epoch queued timers pendingInbound) (id : String) :
    Timed epoch queued timers (pendingInbound.erase id) := by
  refine { h with running := ?_ }
  intro name incoming hpending
  rw [Std.ExtTreeMap.getElem?_erase] at hpending
  split at hpending
  · cases hpending
  · exact h.running name incoming hpending

/-- The timer of no queued request stops. -/
theorem Timed.stop {epoch : UInt64} {queued k : Nat}
    {timers : Nat -> Option InboundExpiry} {pendingInbound : Table IncomingV1}
    {timer : InboundExpiry} (h : Timed epoch queued timers pendingInbound)
    (htimer : timers k = some timer)
    (hgone : ¬ (epoch = timer.epoch ∧
      pendingInbound.contains timer.requestId = true)) :
    Timed epoch queued
      (Function.update timers k (some { timer with running := false }))
      pendingInbound := by
  constructor
  case fresh =>
    intro m hm
    rw [Function.update_of_ne]
    · exact h.fresh m hm
    · rintro rfl
      rw [h.fresh m hm] at htimer
      cases htimer
  case running =>
    intro id incoming hpending
    rcases h.running id incoming hpending with ⟨m, other, hother, hid, hepoch, hrunning⟩
    refine ⟨m, other, ?_, hid, hepoch, hrunning⟩
    rw [Function.update_of_ne]
    · exact hother
    · rintro rfl
      rw [htimer] at hother
      cases hother
      refine hgone ⟨hepoch.symm, ?_⟩
      rw [hid, Std.ExtTreeMap.contains_eq_isSome_getElem?, hpending]
      rfl

theorem Timed.queue {epoch : UInt64} {queued : Nat}
    {timers : Nat -> Option InboundExpiry} {pendingInbound : Table IncomingV1}
    (h : Timed epoch queued timers pendingInbound) (id : String)
    (incoming : IncomingV1) :
    Timed epoch (queued + 1)
      (Function.update timers queued
        (some { requestId := id, epoch := epoch, running := true }))
      (pendingInbound.insert id incoming) := by
  constructor
  case fresh =>
    intro m hm
    rw [Function.update_of_ne (Nat.ne_of_gt hm)]
    exact h.fresh m (Nat.le_of_succ_le hm)
  case running =>
    intro name found hpending
    rw [Std.ExtTreeMap.getElem?_insert] at hpending
    split at hpending
    · next heq =>
        exact ⟨queued, _, Function.update_self _ _ _,
          Std.LawfulEqCmp.eq_of_compare heq, rfl, rfl⟩
    · rcases h.running name found hpending with ⟨m, other, hother, hrest⟩
      refine ⟨m, other, ?_, hrest⟩
      rw [Function.update_of_ne]
      · exact hother
      · rintro rfl
        rw [h.fresh _ (Nat.le_refl _)] at hother
        cases hother

theorem Tied.timed_next (h : Tied s) (hstep : NetworkStep s t) :
    Timed t.epoch t.queued t.timers t.pendingInbound := by
  have hempty : forall epoch, Timed epoch s.queued s.timers ∅ := by
    refine fun epoch => ⟨h.timed.fresh, ?_⟩
    intro id incoming hpending
    rw [Std.ExtTreeMap.getElem?_empty] at hpending
    cases hpending
  cases hstep with
  | kept _ hepoch _ _ =>
      unfold NetworkState.epoch
      rw [hepoch]
      exact h.timed
  | told hepoch _ _ _ _ =>
      unfold NetworkState.epoch NetworkState.emit
      dsimp only
      rw [hepoch]
      exact h.timed
  | entered hclient _ _ =>
      change Timed _ s.queued s.timers s.pendingInbound
      rw [h.offline.pending hclient]
      exact hempty _
  | disconnected _ _ _ => exact hempty _
  | failed _ _ _ _ => exact hempty _
  | accepts _ => exact h.timed.erasePending _
  | declined _ => exact h.timed.erasePending _
  | queued incoming now hcurrent _ _ =>
      rw [← (isCurrent_iff.mp hcurrent).left]
      exact h.timed.queue _ incoming
  | @timedOut k timer htimer hepoch _ =>
      refine (h.timed.erasePending timer.requestId).stop htimer ?_
      rintro ⟨_, hcontains⟩
      rw [Std.ExtTreeMap.contains_eq_isSome_getElem?,
        Std.ExtTreeMap.getElem?_erase_self] at hcontains
      cases hcontains
  | slept htimer hgone => exact h.timed.stop htimer hgone
  | shutPeer _ =>
      rename_i entry _
      rcases closeContact_cases s entry.2 with heq | ⟨contact, _, heq⟩
      · rw [heq]
        exact h.timed
      · rw [heq]
        exact h.timed
  | failPeer _ _ =>
      rename_i entry _ _
      rcases closeContact_cases s entry.2 with heq | ⟨contact, _, heq⟩
      · rw [heq]
        exact h.timed
      · rw [heq]
        exact h.timed
  | _ => exact h.timed

theorem Tied.ordered_next (h : Tied s) (hstep : NetworkStep s t) : Ordered t.online := by
  cases hstep with
  | kept _ _ _ hafter => exact hafter.ordered
  | entered _ _ hafter => exact hafter.ordered
  | disconnected _ hordered _ => exact hordered
  | failed _ _ _ hafter => exact hafter.ordered
  | told _ _ _ _ hafter => exact hafter.ordered
  | shutPeer _ =>
      rename_i entry _
      rcases closeContact_cases s entry.2 with heq | ⟨contact, _, heq⟩
      · rw [heq]
        exact h.ordered
      · rw [heq]
        exact h.ordered
  | failPeer _ _ =>
      rename_i entry _ _
      rcases closeContact_cases s entry.2 with heq | ⟨contact, _, heq⟩
      · rw [heq]
        exact h.ordered
      · rw [heq]
        exact h.ordered
  | _ => exact h.ordered

theorem Tied.next (h : Tied s) (hfresh : FreshEpoch s.online)
    (hstep : NetworkStep s t) : Tied t where
  ordered := h.ordered_next hstep
  obtained := h.obtained_next hfresh hstep
  bounded := h.bounded_next hstep
  offline := h.offline_next hstep
  dialing := h.dialing_next hfresh hstep
  connected := h.connected_next hfresh hstep
  timed := h.timed_next hstep

theorem tied_initial [DiscoveryReaders P] (h : (networkCore P).initial s) : Tied s := by
  rcases h with ⟨honline, _, hpeers, hpending, hdialing, _, hobtained, hcontacts, hqueued,
    htimers, _⟩
  have hnone : forall {f : Contact -> Option String} {epoch : UInt64} {n name},
      ¬ Shows f epoch s.contacts n name := by
    rintro f epoch n name ⟨found, hfound, _⟩
    rw [hcontacts n] at hfound
    cases hfound
  constructor
  case ordered => exact ordered_initial honline
  case obtained =>
    refine ⟨?_, fun n _ => hcontacts n⟩
    intro n contact hcontact
    rw [hcontacts n] at hcontact
    cases hcontact
  case bounded =>
    rw [hpeers, hdialing, hpending]
    exact bounded_empty
  case offline => exact ⟨fun _ => hpeers, fun _ => hdialing, fun _ => hpending⟩
  case dialing =>
    rw [hdialing]
    exact dialing_empty fun _ _ => hnone
  case connected =>
    intro peerId n
    rw [hpeers, Std.ExtTreeMap.getElem?_empty]
    exact iff_of_false nofun hnone
  case timed =>
    refine ⟨fun k _ => htimers k, ?_⟩
    intro id incoming hfound
    rw [hpending, Std.ExtTreeMap.getElem?_empty] at hfound
    cases hfound

variable [DiscoveryReaders P]

theorem tied_of_reachable (h : Unwrapped s) : Tied s := by
  refine Machine.ReachableWhen.invariant (I := Tied) (fun _ => tied_initial) ?_ h
  intro state label after htied hfresh hnext
  exact htied.next hfresh.epoch (networkStep_of_next htied.ordered hfresh.epoch hnext)

/--
In every interleaving of the calls and loops of one core the tables are bounded, and
empty while the core has no client; and what they hold is what the flows of the current
epoch are about. A name in `dialing` has exactly one dial, a name in `peers` is that of
the contact whose receive loop runs, and a queued request has a running timer.
-/
theorem tables_follow_flows (h : Unwrapped s) :
    Bounded s.peers s.dialing s.pendingInbound ∧
      Offline s.online.core.client s.peers s.dialing s.pendingInbound ∧
      Dialing s.epoch s.contacts s.dialing ∧ Connected s.epoch s.contacts s.peers ∧
      Timed s.epoch s.queued s.timers s.pendingInbound := by
  have htied := tied_of_reachable h
  exact ⟨htied.bounded, htied.offline, htied.dialing, htied.connected, htied.timed⟩

/-- A core with a connected peer and a queued request. -/
theorem tables_follow_flows_sample :
    exists s : NetworkState Reference.sample, s.peers[OneContact.remote]? = some 0 ∧
      s.pendingInbound[requestName 1]? = some (sampleRequest 10) ∧
      Connected s.epoch s.contacts s.peers := by
  rcases OneContact.Meeting.exists_met with ⟨m, hmet, _⟩
  have htables := tables_follow_flows (unwrapped_of_within hmet)
  refine ⟨m.asked, ?_, ?_, htables.right.right.right.left⟩
  · exact Std.ExtTreeMap.getElem?_insert_self
  · exact Std.ExtTreeMap.getElem?_insert_self

/--
While a peer is connected or a request is queued, and no write or deletion is pending,
the record of the device is the object on its homeserver.
-/
theorem published_while_connected {p : Publisher P}
    (h : (deviceNetwork p).ReachableWhen (Within (InOrder p)) s)
    (hquiescent : Quiescent s.online)
    (hused : s.peers ≠ ∅ ∨ s.pendingInbound ≠ ∅ ∨ s.dialing ≠ ∅) :
    exists n, s.online.core.client = some n ∧ PublishedBy p s.online n := by
  have hoffline := (tied_of_reachable (unwrapped_of_within h)).offline
  cases hclient : s.online.core.client with
  | none =>
      rcases hused with hpeers | hpending | hdialing
      · exact absurd (hoffline.connected hclient) hpeers
      · exact absurd (hoffline.pending hclient) hpending
      · exact absurd (hoffline.dialed hclient) hdialing
  | some n =>
      have hkept := kept_of_reachable (deviceCore_of_within h)
      exact ⟨n, rfl, (hkept.published hquiescent).right n hclient⟩

theorem published_while_connected_sample :
    exists s : NetworkState Reference.sample, s.peers ≠ ∅ ∧
      exists n, PublishedBy LaptopOnline.publisher s.online n := by
  rcases OneContact.Meeting.exists_met with ⟨m, hmet, _, hquiescent⟩
  have hpeers : m.asked.peers ≠ ∅ := Std.ExtTreeMap.insert_ne_empty
  rcases published_while_connected hmet hquiescent (Or.inl hpeers) with ⟨n, _, hpublished⟩
  exact ⟨m.asked, hpeers, n, hpublished⟩

end Tables

end Browser
end Pubky2Pubky
