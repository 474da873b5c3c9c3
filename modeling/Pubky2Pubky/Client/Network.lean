import Pubky2Pubky.Client.AntiRollback

/-!
# The network

Any number of honest clients over connections between endpoint keys. An end that
is not an honest client is the adversary's. The adversary also schedules every
step, answers for the homeservers, and hands out the records to dial.
-/

namespace Pubky2Pubky
namespace Client

open Foundation Protocol

/-- A bound client: its endpoint is the one its certificate names. -/
structure HonestClient (P : Primitives) where
  client : V1Client
  endpoint : P.PublicKey
  certified : P.z32 endpoint =
    client.credential.certificate.claims.irohEndpointId

/-- The honest clients, each with a store of its own kind. -/
structure Fleet (P : Primitives) (ι : Type) where
  member : ι -> HonestClient P
  kind : ι -> StoreKind

abbrev Fleet.store {P : Primitives} {ι : Type} (fleet : Fleet P ι) (i : ι) :
    SequenceStore P :=
  sequenceStore P (fleet.kind i)

inductive Party (P : Primitives) (ι : Type) where
  | honest (i : ι)
  | adversary (endpoint : P.PublicKey)

/-- A QUIC connection; the dialer's stream may have come as early data. -/
structure Link (P : Primitives) (ι : Type) where
  dialer : Party P ι
  acceptor : Party P ι
  zeroRtt : Bool

structure NetworkState {P : Primitives} {ι : Type} (fleet : Fleet P ι) where
  clients : (i : ι) -> ClientState (fleet.store i)
  links : Nat -> Option (Link P ι)
  drawn : List String

inductive NetworkLabel {P : Primitives} {ι : Type} (fleet : Fleet P ι) where
  | link (connection : Nat) (link : Link P ι)
  | act (i : ι) (label : ClientLabel (fleet.store i))

section Steps

variable {P : Primitives} {ι : Type} {fleet : Fleet P ι}

def Fleet.endpoint (fleet : Fleet P ι) : Party P ι -> P.PublicKey
  | Party.honest i => (fleet.member i).endpoint
  | Party.adversary endpoint => endpoint

def Party.isHonest [DecidableEq ι] (i : ι) : Party P ι -> Bool
  | Party.honest k => decide (k = i)
  | Party.adversary _ => false

def ClientLabel.draws {S : SequenceStore P} : ClientLabel S -> List String
  | ClientLabel.dial _ (DialEvent.greet _ random) =>
      [v1RandomChallenge P random]
  | ClientLabel.accept _ (AcceptEvent.consent _ random) =>
      [v1RandomChallenge P random]
  | _ => []

namespace NetworkState

/--
A client opens runs on connections it is an end of, and the connection tells it
the key of the other end. It refuses a Hello that came as early data.
-/
def carries [DecidableEq ι] (s : NetworkState fleet) (i : ι) :
    ClientLabel (fleet.store i) -> Bool
  | ClientLabel.incoming connection remoteEndpoint _ _ _ _ =>
      match s.links connection with
      | none => false
      | some link => link.acceptor.isHonest i &&
          decide (fleet.endpoint link.dialer = remoteEndpoint) && !link.zeroRtt
  | ClientLabel.connect connection remoteEndpoint _ _ _ =>
      match s.links connection with
      | none => false
      | some link => link.dialer.isHonest i &&
          decide (fleet.endpoint link.acceptor = remoteEndpoint)
  | _ => true

def next [DecidableEq ι] (s : NetworkState fleet) :
    NetworkLabel fleet -> Option (NetworkState fleet)
  | NetworkLabel.link connection link =>
      match s.links connection with
      | some _ => none
      | none =>
          some { s with
            links := Function.update s.links connection (some link) }
  | NetworkLabel.act i label =>
      if s.carries i label then
        match (s.clients i).next (fleet.member i).client label with
        | none => none
        | some after =>
            some { s with
              clients := Function.update s.clients i after
              drawn := s.drawn ++ label.draws }
      else none

structure Initial (s : NetworkState fleet) : Prop where
  clients (i : ι) : (s.clients i).Initial
  links : s.links = fun _ => none
  drawn : s.drawn = []

/-!
# What the environment does not do
-/

def dialed (s : NetworkState fleet) (i : ι) (connection : Nat) : List Frame :=
  match (s.clients i).dials connection with
  | none => []
  | some run => run.trail.filterMap Milestone.frame

def accepted (s : NetworkState fleet) (i : ι) (connection : Nat) : List Frame :=
  match (s.clients i).accepts connection with
  | none => []
  | some run => run.trail.filterMap Milestone.frame

/-- The frame an honest dialer has written at a position of its stream. -/
def FromDialer (s : NetworkState fleet) (connection position : Nat)
    (frame : Frame) : Prop :=
  forall link k, s.links connection = some link ->
    link.dialer = Party.honest k ->
    (s.dialed k connection)[position]? = some frame

def FromAcceptor (s : NetworkState fleet) (connection position : Nat)
    (frame : Frame) : Prop :=
  forall link k, s.links connection = some link ->
    link.acceptor = Party.honest k ->
    (s.accepted k connection)[position]? = some frame

/--
An authenticated and ordered channel: the frames a run reads from an honest end
are the ones that end has written, from the first one on. Early data may be
replayed, so it is not covered.
-/
def Delivers (s : NetworkState fleet) {i : ι} :
    ClientLabel (fleet.store i) -> Prop
  | ClientLabel.incoming connection _ hello _ _ _ =>
      (forall link, s.links connection = some link -> link.zeroRtt = false) ->
        s.FromDialer connection 0 (Frame.hello hello)
  | ClientLabel.accept connection (AcceptEvent.received ready) =>
      s.FromDialer connection 1 (Frame.control ready)
  | ClientLabel.dial connection (DialEvent.acknowledged ack _) =>
      s.FromAcceptor connection 0 (Frame.ack ack)
  | ClientLabel.dial connection (DialEvent.confirmed control) =>
      s.FromAcceptor connection 1 (Frame.control control)
  | _ => True

/-- The adversary has no endpoint key of an honest client. -/
def Outside (fleet : Fleet P ι) (party : Party P ι) : Prop :=
  forall endpoint, party = Party.adversary endpoint ->
    forall i, (fleet.member i).endpoint ≠ endpoint

/-- The assumptions on keys, channels and random values. -/
def Environment (s : NetworkState fleet) : NetworkLabel fleet -> Prop
  | NetworkLabel.link _ link =>
      Outside fleet link.dialer ∧ Outside fleet link.acceptor
  | NetworkLabel.act _ label =>
      s.Delivers label ∧ forall value, value ∈ label.draws -> value ∉ s.drawn

variable {s : NetworkState fleet}

theorem dialed_of_some {i : ι} {connection : Nat} {run : Dial P}
    (h : (s.clients i).dials connection = some run) :
    s.dialed i connection = run.trail.filterMap Milestone.frame := by
  unfold dialed
  rw [h]

theorem accepted_of_some {i : ι} {connection : Nat} {run : Accept P}
    (h : (s.clients i).accepts connection = some run) :
    s.accepted i connection = run.trail.filterMap Milestone.frame := by
  unfold accepted
  rw [h]

theorem dialed_exists {i : ι} {connection position : Nat} {frame : Frame}
    (h : (s.dialed i connection)[position]? = some frame) :
    exists run, (s.clients i).dials connection = some run ∧
      (run.trail.filterMap Milestone.frame)[position]? = some frame := by
  cases hrun : (s.clients i).dials connection with
  | none =>
      unfold dialed at h
      rw [hrun] at h
      cases h
  | some run =>
      rw [dialed_of_some hrun] at h
      exact ⟨run, rfl, h⟩

theorem accepted_exists {i : ι} {connection position : Nat} {frame : Frame}
    (h : (s.accepted i connection)[position]? = some frame) :
    exists run, (s.clients i).accepts connection = some run ∧
      (run.trail.filterMap Milestone.frame)[position]? = some frame := by
  cases hrun : (s.clients i).accepts connection with
  | none =>
      unfold accepted at h
      rw [hrun] at h
      cases h
  | some run =>
      rw [accepted_of_some hrun] at h
      exact ⟨run, rfl, h⟩

end NetworkState

def network [DecidableEq ι] (fleet : Fleet P ι) :
    Machine (NetworkState fleet) (NetworkLabel fleet) :=
  { initial := NetworkState.Initial
    next := NetworkState.next }

namespace NetworkState

variable [DecidableEq ι] {s after : NetworkState fleet}

theorem next_link {connection : Nat} {link : Link P ι}
    (h : s.next (NetworkLabel.link connection link) = some after) :
    s.links connection = none ∧
      after = { s with
        links := Function.update s.links connection (some link) } := by
  unfold next at h
  dsimp only at h
  split at h
  · cases h
  · rename_i hnone
    injection h with h
    exact ⟨hnone, h.symm⟩

theorem next_act {i : ι} {label : ClientLabel (fleet.store i)}
    (h : s.next (NetworkLabel.act i label) = some after) :
    s.carries i label = true ∧ exists stepped,
      (s.clients i).next (fleet.member i).client label = some stepped ∧
        after = { s with
          clients := Function.update s.clients i stepped
          drawn := s.drawn ++ label.draws } := by
  unfold next at h
  dsimp only at h
  split at h
  · rename_i hcarries
    split at h
    · cases h
    · rename_i stepped hstepped
      injection h with h
      exact ⟨hcarries, stepped, hstepped, h.symm⟩
  · cases h

theorem act_of_some {i : ι} {label : ClientLabel (fleet.store i)}
    {stepped : ClientState (fleet.store i)} (hcarries : s.carries i label = true)
    (hnext : (s.clients i).next (fleet.member i).client label = some stepped) :
    s.next (NetworkLabel.act i label) =
      some { s with
        clients := Function.update s.clients i stepped
        drawn := s.drawn ++ label.draws } := by
  unfold next
  dsimp only
  rw [if_pos hcarries, hnext]

theorem isHonest_eq {i : ι} {party : Party P ι}
    (h : party.isHonest i = true) : party = Party.honest i := by
  cases party with
  | honest k => rw [of_decide_eq_true h]
  | adversary endpoint => cases h

theorem carries_incoming {i : ι} {connection : Nat}
    {remoteEndpoint : P.PublicKey} {hello : V1SignedHello}
    {lookupAt verifyAt queuedAt : UInt64}
    (h : s.carries i (ClientLabel.incoming connection remoteEndpoint hello
      lookupAt verifyAt queuedAt) = true) :
    exists link, s.links connection = some link ∧
      link.acceptor = Party.honest i ∧
      fleet.endpoint link.dialer = remoteEndpoint ∧ link.zeroRtt = false := by
  unfold carries at h
  dsimp only at h
  split at h
  · cases h
  · rename_i link hlink
    simp only [Bool.and_eq_true, decide_eq_true_eq, Bool.not_eq_true'] at h
    rcases h with ⟨⟨hacceptor, hremote⟩, hearly⟩
    exact ⟨link, hlink, isHonest_eq hacceptor, hremote, hearly⟩

theorem carries_connect {i : ι} {connection : Nat}
    {remoteEndpoint : P.PublicKey} {target : ResolvedV1Device}
    {application : String} {now : UInt64}
    (h : s.carries i (ClientLabel.connect connection remoteEndpoint target
      application now) = true) :
    exists link, s.links connection = some link ∧
      link.dialer = Party.honest i ∧
      fleet.endpoint link.acceptor = remoteEndpoint := by
  unfold carries at h
  dsimp only at h
  split at h
  · cases h
  · rename_i link hlink
    simp only [Bool.and_eq_true, decide_eq_true_eq] at h
    exact ⟨link, hlink, isHonest_eq h.left, h.right⟩

end NetworkState

end Steps

end Client
end Pubky2Pubky
