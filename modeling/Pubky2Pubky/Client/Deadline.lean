import Pubky2Pubky.Foundation.Timed
import Pubky2Pubky.Client.Admission
import Pubky2Pubky.Client.Cleanup

/-!
# The consent deadline

An admitted request has a deadline. Accepting it reads the time that is left,
publishes a proof and only then starts the exchange, whose timeout is that time.
Here each await lasts as long as a schedule says, on a clock in nanoseconds.
-/

namespace Pubky2Pubky
namespace Client

open Foundation Protocol

/-- How long an await lasts and what it returns. -/
structure Awaited (α : Type) where
  duration : Nat
  result : ClientResult α

/-- The awaits of `accept_pending`, with the wall clock where it is read. -/
structure AcceptSchedule (P : Primitives) where
  now : UInt64
  random : P.Keypair
  publish : Awaited Unit
  writeAck : Awaited Unit
  readReady : Awaited ProofControl
  fetch : Awaited V1SignedCurrentnessProof
  verifyAt : UInt64
  commit : Awaited Unit
  writeConfirmed : Awaited Unit
  delete : Awaited Unit

inductive AcceptMark where
  | committing
  | confirming

abbrev Accepting (α : Type) := Timed ClientError AcceptMark α

def Awaited.run {α : Type} (self : Awaited α) : Accepting α :=
  Timed.lasting self.duration self.result

section Operations

variable (P : Primitives)

/-- The operation of `accept_pending` that runs under the timeout. -/
def acceptExchange (pending : PendingV1) (answer : Answer)
    (schedule : AcceptSchedule P) : Accepting Unit := do
  schedule.writeAck.run
  let ready <- schedule.readReady.run
  Timed.instantly (validateProofControl P ready answer.challenge pending.hello
    pending.sender.record pending.target.record)
  let initiatorProof <- schedule.fetch.run
  Timed.instantly (fromProtocol (initiatorProof.verify P pending.sender.record
    pending.target.record pending.hello V1CurrentnessRole.initiator
    answer.challenge schedule.verifyAt pending.allowInsecureLoopbackRelay))
  Timed.start AcceptMark.committing
  schedule.commit.run
  Timed.start AcceptMark.confirming
  schedule.writeConfirmed.run

def acceptPending (pending : PendingV1) (deadline : Instant)
    (schedule : AcceptSchedule P) : Accepting Peer := do
  let instant <- Timed.now
  Timed.instantly (rejectIf (deadline < instant)
    (ClientError.timeout "accepting inbound v1 peer"))
  let answer <- Timed.instantly
    (signAnswer P pending schedule.now schedule.random)
  schedule.publish.run
  let exchange <- Timed.timeout (deadline - instant)
    (ClientError.timeout "completing accepted v1 currentness exchange")
    (acceptExchange P pending answer schedule)
  -- the result of the deletion is ignored
  Timed.lasting schedule.delete.duration (Except.ok ())
  Timed.instantly exchange
  Timed.instantly (releasePeer P pending.sender pending.hello)

end Operations

/-!
# Keeping to the deadline
-/

/--
The commit and the confirmation start by the deadline, and a run that is busy after
it returns an error.
-/
structure RespectsDeadline (deadline : Nat)
    (run : TimedRun ClientError AcceptMark Peer) : Prop where
  commit : forall instant, (instant, AcceptMark.committing) ∈ run.marks ->
    instant ≤ deadline
  confirm : forall instant, (instant, AcceptMark.confirming) ∈ run.marks ->
    instant ≤ deadline
  busy : deadline < run.clock -> exists error, run.result = Except.error error

namespace AcceptSchedule

variable {P : Primitives}

/-- From the start of the exchange to the start of the commit. -/
def toCommit (self : AcceptSchedule P) : Nat :=
  self.writeAck.duration + self.readReady.duration + self.fetch.duration

def toConfirm (self : AcceptSchedule P) : Nat :=
  self.toCommit + self.commit.duration

def toEnd (self : AcceptSchedule P) : Nat :=
  self.toConfirm + self.writeConfirmed.duration

/-- The awaits before the commit answer what the exchange expects of them. -/
def ReachesCommit (self : AcceptSchedule P) (pending : PendingV1)
    (answer : Answer) : Prop :=
  self.writeAck.result = Except.ok () ∧
    exists ready proof, self.readReady.result = Except.ok ready ∧
      validateProofControl P ready answer.challenge pending.hello
        pending.sender.record pending.target.record = Except.ok () ∧
      self.fetch.result = Except.ok proof ∧
      fromProtocol (proof.verify P pending.sender.record pending.target.record
        pending.hello V1CurrentnessRole.initiator answer.challenge self.verifyAt
        pending.allowInsecureLoopbackRelay) = Except.ok ()

def ReachesConfirm (self : AcceptSchedule P) (pending : PendingV1)
    (answer : Answer) : Prop :=
  self.ReachesCommit pending answer ∧ self.commit.result = Except.ok ()

def ReachesEnd (self : AcceptSchedule P) (pending : PendingV1)
    (answer : Answer) : Prop :=
  self.ReachesConfirm pending answer ∧ self.writeConfirmed.result = Except.ok ()

/-- The exchange starts: the Ack is signed and the proof is published. -/
def Starts (self : AcceptSchedule P) (pending : PendingV1) (answer : Answer) :
    Prop :=
  signAnswer P pending self.now self.random = Except.ok answer ∧
    self.publish.result = Except.ok ()

/--
Where the exchange gets within its timeout, the publication before it leaves
enough of the time, and so does the cleanup after it.
-/
structure Fits (schedule : AcceptSchedule P) (pending : PendingV1) (answer : Answer)
    (remaining : Nat) : Prop where
  commit : schedule.ReachesCommit pending answer -> schedule.toCommit < remaining ->
    schedule.publish.duration + schedule.toCommit ≤ remaining
  confirm : schedule.ReachesConfirm pending answer -> schedule.toConfirm < remaining ->
    schedule.publish.duration + schedule.toConfirm ≤ remaining
  release : schedule.ReachesEnd pending answer -> schedule.toEnd < remaining ->
    (exists peer, releasePeer P pending.sender pending.hello = Except.ok peer) ->
    schedule.publish.duration + schedule.toEnd + schedule.delete.duration ≤ remaining

end AcceptSchedule

section Instants

variable {P : Primitives} {pending : PendingV1} {answer : Answer}
  {schedule : AcceptSchedule P} {clock instant : Nat}

theorem acceptExchange_forward :
    (acceptExchange P pending answer schedule).Forward := by
  unfold acceptExchange
  refine Timed.Forward.bind (Timed.forward_lasting _ _) fun _ => ?_
  refine Timed.Forward.bind (Timed.forward_lasting _ _) fun _ => ?_
  refine Timed.Forward.bind (Timed.forward_instantly _) fun _ => ?_
  refine Timed.Forward.bind (Timed.forward_lasting _ _) fun _ => ?_
  refine Timed.Forward.bind (Timed.forward_instantly _) fun _ => ?_
  refine Timed.Forward.bind (Timed.forward_start _) fun _ => ?_
  refine Timed.Forward.bind (Timed.forward_lasting _ _) fun _ => ?_
  refine Timed.Forward.bind (Timed.forward_start _) fun _ => ?_
  exact Timed.forward_lasting _ _

theorem mem_acceptExchange {mark : Nat × AcceptMark} :
    mark ∈ (acceptExchange P pending answer schedule clock).marks <->
      schedule.ReachesCommit pending answer ∧
        (mark = (clock + schedule.toCommit, AcceptMark.committing) ∨
          schedule.commit.result = Except.ok () ∧
            mark = (clock + schedule.toConfirm, AcceptMark.confirming)) := by
  unfold acceptExchange Awaited.run
  simp only [Timed.mem_marks_lasting_bind, Timed.mem_marks_instantly_bind,
    Timed.mem_marks_start_bind, Timed.marks_lasting, List.not_mem_nil, or_false,
    exists_unit]
  unfold AcceptSchedule.ReachesCommit AcceptSchedule.toConfirm AcceptSchedule.toCommit
  simp only [Nat.add_assoc]
  constructor
  · rintro ⟨hack, ready, hready, hvalid, proof, hproof, hverify, hmark⟩
    exact ⟨⟨hack, ready, proof, hready, hvalid, hproof, hverify⟩, hmark⟩
  · rintro ⟨⟨hack, ready, proof, hready, hvalid, hproof, hverify⟩, hmark⟩
    exact ⟨hack, ready, hready, hvalid, proof, hproof, hverify, hmark⟩

theorem acceptExchange_ok (pending : PendingV1) (answer : Answer)
    (schedule : AcceptSchedule P) (clock : Nat) :
    ((acceptExchange P pending answer schedule clock).result = Except.ok () <->
      schedule.ReachesEnd pending answer) ∧
    (schedule.ReachesEnd pending answer ->
      (acceptExchange P pending answer schedule clock).clock =
        clock + schedule.toEnd) := by
  constructor
  · unfold acceptExchange Awaited.run
    simp only [Timed.bind_result_eq_ok, Timed.result_lasting,
      Timed.result_instantly, Timed.result_start, exists_unit, true_and]
    unfold AcceptSchedule.ReachesEnd AcceptSchedule.ReachesConfirm
      AcceptSchedule.ReachesCommit
    constructor
    · rintro ⟨hack, ready, hready, hvalid, proof, hproof, hverify, hcommit, hwrite⟩
      exact ⟨⟨⟨hack, ready, proof, hready, hvalid, hproof, hverify⟩, hcommit⟩, hwrite⟩
    · rintro ⟨⟨⟨hack, ready, proof, hready, hvalid, hproof, hverify⟩, hcommit⟩, hwrite⟩
      exact ⟨hack, ready, hready, hvalid, proof, hproof, hverify, hcommit, hwrite⟩
  · rintro ⟨⟨⟨hack, ready, proof, hready, hvalid, hproof, hverify⟩, hcommit⟩, hwrite⟩
    unfold acceptExchange Awaited.run
    rw [Timed.bind_of_ok hack, Timed.bind_of_ok hready, Timed.bind_of_ok hvalid,
      Timed.bind_of_ok hproof, Timed.bind_of_ok hverify,
      Timed.bind_of_ok (Timed.result_start _ _), Timed.bind_of_ok hcommit,
      Timed.bind_of_ok (Timed.result_start _ _)]
    unfold AcceptSchedule.toEnd AcceptSchedule.toConfirm AcceptSchedule.toCommit
    change clock + schedule.writeAck.duration + schedule.readReady.duration +
      schedule.fetch.duration + schedule.commit.duration +
      schedule.writeConfirmed.duration = _
    omega

theorem mem_acceptPending {deadline : Nat} {mark : Nat × AcceptMark} :
    mark ∈ (acceptPending P pending deadline schedule instant).marks <->
      instant ≤ deadline ∧ exists answer, schedule.Starts pending answer ∧
        mark ∈ (acceptExchange P pending answer schedule
          (instant + schedule.publish.duration)).marks ∧
        mark.1 < instant + schedule.publish.duration + (deadline - instant) := by
  unfold acceptPending Awaited.run AcceptSchedule.Starts
  simp only [Timed.mem_marks_now_bind, Timed.mem_marks_lasting_bind,
    Timed.mem_marks_instantly_bind, rejectIf_eq_ok, exists_unit, not_lt]
  refine and_congr_right fun _ => exists_congr fun answer => ?_
  rw [and_assoc]
  refine and_congr_right fun _ => and_congr_right fun _ => ?_
  rw [Timed.mem_marks_bind, Timed.mem_marks_timeout acceptExchange_forward]
  refine or_iff_left ?_
  rintro ⟨exchange, _, htail⟩
  simp only [Timed.mem_marks_lasting_bind, Timed.mem_marks_instantly_bind,
    Timed.marks_instantly, List.not_mem_nil, and_false, exists_false] at htail

/-- A peer is released when the exchange succeeds within its timeout. -/
theorem acceptPending_ok {deadline : Nat} {peer : Peer} :
    (acceptPending P pending deadline schedule instant).result =
        Except.ok peer <->
      instant ≤ deadline ∧ exists answer, schedule.Starts pending answer ∧
        schedule.ReachesEnd pending answer ∧
        schedule.toEnd < deadline - instant ∧
        releasePeer P pending.sender pending.hello = Except.ok peer := by
  unfold acceptPending Awaited.run AcceptSchedule.Starts
  simp only [Timed.bind_result_eq_ok, Timed.result_lasting, Timed.result_instantly,
    Timed.result_now, Timed.clock_now, Timed.clock_instantly, Timed.clock_lasting,
    Timed.timeout_result_eq_ok, rejectIf_eq_ok, exists_unit, not_lt, true_and,
    Except.ok.injEq, exists_eq_left']
  refine and_congr_right fun _ => exists_congr fun answer => ?_
  rw [and_assoc]
  refine and_congr_right fun _ => and_congr_right fun _ => ?_
  have hexchange := acceptExchange_ok pending answer schedule
    (instant + schedule.publish.duration)
  constructor
  · rintro ⟨result, ⟨htime, rfl⟩, hok, hpeer⟩
    have hend := hexchange.left.mp hok
    rw [hexchange.right hend] at htime
    exact ⟨hend, by omega, hpeer⟩
  · rintro ⟨hend, htime, hpeer⟩
    refine ⟨_, ⟨?_, rfl⟩, hexchange.left.mpr hend, hpeer⟩
    rw [hexchange.right hend]
    omega

theorem acceptPending_clock {deadline : Nat}
    (hinstant : instant ≤ deadline) (hstarts : schedule.Starts pending answer)
    (hend : schedule.ReachesEnd pending answer)
    (htime : schedule.toEnd < deadline - instant) :
    (acceptPending P pending deadline schedule instant).clock =
      instant + schedule.publish.duration + schedule.toEnd +
        schedule.delete.duration := by
  have hexchange := acceptExchange_ok pending answer schedule
    (instant + schedule.publish.duration)
  have hclock := hexchange.right hend
  have hreturned : (Timed.timeout (deadline - instant)
      (ClientError.timeout "completing accepted v1 currentness exchange")
      (acceptExchange P pending answer schedule)
      (instant + schedule.publish.duration)).result =
        Except.ok (Except.ok ()) := by
    rw [Timed.timeout_result_eq_ok, hclock]
    exact ⟨by omega, hexchange.left.mpr hend⟩
  unfold acceptPending Awaited.run
  rw [Timed.bind_clock (Timed.result_now _), Timed.clock_now,
    Timed.bind_clock (rejectIf_of_not (Nat.not_lt.mpr hinstant)),
    Timed.bind_clock hstarts.left, Timed.bind_clock hstarts.right]
  change ((Timed.timeout _ _ _ >>= _) (instant + schedule.publish.duration)).clock = _
  rw [Timed.bind_clock hreturned, Timed.timeout_clock (by rw [hclock]; omega), hclock]
  rfl

theorem committing_mem {deadline : Nat} (hinstant : instant ≤ deadline)
    (hstarts : schedule.Starts pending answer)
    (hreaches : schedule.ReachesCommit pending answer)
    (htime : schedule.toCommit < deadline - instant) :
    (instant + schedule.publish.duration + schedule.toCommit,
        AcceptMark.committing) ∈
      (acceptPending P pending deadline schedule instant).marks := by
  refine mem_acceptPending.mpr ⟨hinstant, answer, hstarts,
    mem_acceptExchange.mpr ⟨hreaches, Or.inl rfl⟩, ?_⟩
  dsimp only
  omega

theorem confirming_mem {deadline : Nat} (hinstant : instant ≤ deadline)
    (hstarts : schedule.Starts pending answer)
    (hreaches : schedule.ReachesConfirm pending answer)
    (htime : schedule.toConfirm < deadline - instant) :
    (instant + schedule.publish.duration + schedule.toConfirm,
        AcceptMark.confirming) ∈
      (acceptPending P pending deadline schedule instant).marks := by
  refine mem_acceptPending.mpr ⟨hinstant, answer, hstarts,
    mem_acceptExchange.mpr ⟨hreaches.left, Or.inr ⟨hreaches.right, rfl⟩⟩, ?_⟩
  dsimp only
  omega

theorem RespectsDeadline.fits {deadline : Nat}
    (h : RespectsDeadline deadline
      (acceptPending P pending deadline schedule instant))
    (hinstant : instant ≤ deadline) (hstarts : schedule.Starts pending answer) :
    schedule.Fits pending answer (deadline - instant) := by
  refine ⟨fun hreaches htime => ?_, fun hreaches htime => ?_,
    fun hend htime hpeer => ?_⟩
  · have hcommit := h.commit _ (committing_mem hinstant hstarts hreaches htime)
    omega
  · have hconfirm := h.confirm _ (confirming_mem hinstant hstarts hreaches htime)
    omega
  · by_contra hlate
    rcases hpeer with ⟨peer, hpeer⟩
    have hbusy : deadline <
        (acceptPending P pending deadline schedule instant).clock := by
      rw [acceptPending_clock hinstant hstarts hend htime]
      omega
    rcases h.busy hbusy with ⟨error, herror⟩
    rw [acceptPending_ok.mpr ⟨hinstant, answer, hstarts, hend, htime, hpeer⟩]
      at herror
    cases herror

theorem respectsDeadline_of_fits {deadline : Nat}
    (h : instant ≤ deadline -> forall answer, schedule.Starts pending answer ->
      schedule.Fits pending answer (deadline - instant)) :
    RespectsDeadline deadline
      (acceptPending P pending deadline schedule instant) := by
  refine ⟨fun t hmark => ?_, fun t hmark => ?_, fun hlate => ?_⟩
  · rcases mem_acceptPending.mp hmark with ⟨hinstant, answer, hstarts, hmark, htime⟩
    rcases mem_acceptExchange.mp hmark with ⟨hreaches, heq | ⟨_, heq⟩⟩
    · injection heq with heq
      have hfits := (h hinstant answer hstarts).commit hreaches
      dsimp only at htime
      omega
    · injection heq with _ heq
      cases heq
  · rcases mem_acceptPending.mp hmark with ⟨hinstant, answer, hstarts, hmark, htime⟩
    rcases mem_acceptExchange.mp hmark with ⟨hreaches, heq | ⟨hcommit, heq⟩⟩
    · injection heq with _ heq
      cases heq
    · injection heq with heq
      have hfits := (h hinstant answer hstarts).confirm
        ⟨hreaches, hcommit⟩
      dsimp only at htime
      omega
  · cases hresult : (acceptPending P pending deadline schedule instant).result with
    | error error => exact ⟨error, rfl⟩
    | ok peer =>
        rcases acceptPending_ok.mp hresult with
          ⟨hinstant, answer, hstarts, hend, htime, hpeer⟩
        have hfits := (h hinstant answer hstarts).release hend htime ⟨peer, hpeer⟩
        have hclock := acceptPending_clock hinstant hstarts hend htime
        rw [hclock] at hlate
        omega

end Instants

/--
Accepting a request respects its deadline exactly when the schedule lets the
publication, the exchange as far as it gets and the cleanup fit in the time that is
left at consent.
-/
theorem acceptance_within_deadline {P : Primitives} {pending : PendingV1}
    {schedule : AcceptSchedule P} {deadline instant : Nat} :
    RespectsDeadline deadline
        (acceptPending P pending deadline schedule instant) <->
      (instant ≤ deadline -> forall answer, schedule.Starts pending answer ->
        schedule.Fits pending answer (deadline - instant)) :=
  ⟨fun h hinstant _ hstarts => h.fits hinstant hstarts, respectsDeadline_of_fits⟩

theorem releasePeer_exists {P : Primitives} [P.Lawful] {remote : ResolvedV1Device}
    {hello : V1SignedHello} {random : P.Keypair}
    (h : hello.claims.sessionNonce = v1RandomChallenge P random) :
    exists peer, releasePeer P remote hello = Except.ok peer := by
  have hdecoded : P.base64Decode hello.claims.sessionNonce =
      some (P.secret random) := by
    rw [h]
    exact Primitives.Lawful.base64Decode_encode _
  have hlength : ¬ (P.secret random).length < 16 := by
    rw [Primitives.Lawful.secret_length]
    decide
  unfold releasePeer nonceUuid
  rw [okOr_eq_ok.mpr hdecoded, ok_bind, rejectIf_of_not hlength, ok_bind]
  exact ⟨_, rfl⟩

/-!
# A slow publication
-/

namespace Sample

open Protocol.Reference

theorem initiator_proof :
    exists proof, V1SignedCurrentnessProof.verify sample proof laptop.record
      phone.record hello V1CurrentnessRole.initiator challenge 1075 false =
        Except.ok () := by
  rcases laptop_caller.answer_sign with ⟨proof, hsign⟩
  rcases V1SignedCurrentnessProof.sign_verify hsign with ⟨hissued, hexpires, hverify⟩
  rcases V1SignedCurrentnessProof.verify_eq_ok.mp hverify with
    ⟨hbounded, _, hbound, hsigned, _⟩
  refine ⟨proof, V1SignedCurrentnessProof.verify_eq_ok.mpr
    ⟨hbounded, hello_verify (by decide) (by decide), hbound, hsigned, ?_⟩⟩
  rw [hissued, hexpires]
  exact ⟨by decide, by decide, by decide⟩

theorem sample_ready :
    exists ready, validateProofControl sample ready challenge hello laptop.record
      phone.record = Except.ok () := by
  have hchallenge : validateChallenge sample challenge "v1 currentness challenge" =
      Except.ok () :=
    validateChallenge_v1RandomChallenge _ _
  rcases currentnessPath_exists hchallenge V1CurrentnessRole.initiator hello
    laptop.record with ⟨initiatorPath, hinitiator⟩
  rcases currentnessPath_exists hchallenge V1CurrentnessRole.responder hello
    phone.record with ⟨responderPath, hresponder⟩
  refine ⟨{ version := v1ProtocolVersion
            challenge := challenge
            initiatorProofPath := initiatorPath
            responderProofPath := responderPath }, ?_⟩
  unfold validateProofControl
  rw [rejectIf_of_not (by simp), ok_bind, hinitiator, ok_bind,
    rejectIf_of_not (by simp), ok_bind, hresponder, ok_bind]
  exact rejectIf_of_not (by simp)

theorem sample_peer :
    exists peer, releasePeer sample pendingHello.sender hello = Except.ok peer :=
  releasePeer_exists (P := sample) rfl

def seconds (count : Nat) : Nat :=
  count * nanosPerSecond

/-- The publication takes twelve seconds and every other await takes one. -/
def slowSchedule (ready : ProofControl) (proof : V1SignedCurrentnessProof) :
    AcceptSchedule sample :=
  { now := 1060
    random := keyOf 8
    publish := { duration := seconds 12, result := Except.ok () }
    writeAck := { duration := seconds 1, result := Except.ok () }
    readReady := { duration := seconds 1, result := Except.ok ready }
    fetch := { duration := seconds 1, result := Except.ok proof }
    verifyAt := 1075
    commit := { duration := seconds 1, result := Except.ok () }
    writeConfirmed := { duration := seconds 1, result := Except.ok () }
    delete := { duration := seconds 1, result := Except.ok () } }

theorem slowSchedule_instants {ready : ProofControl}
    {proof : V1SignedCurrentnessProof} :
    0 + (slowSchedule ready proof).publish.duration +
        (slowSchedule ready proof).toCommit = seconds 15 ∧
      0 + (slowSchedule ready proof).publish.duration +
        (slowSchedule ready proof).toConfirm = seconds 16 ∧
      0 + (slowSchedule ready proof).publish.duration +
        (slowSchedule ready proof).toEnd +
        (slowSchedule ready proof).delete.duration = seconds 18 := by
  unfold AcceptSchedule.toEnd AcceptSchedule.toConfirm AcceptSchedule.toCommit
    slowSchedule seconds
  dsimp only
  omega

end Sample

open Sample Protocol.Reference in
/--
The deadline is ten seconds away at consent. The commit starts after fifteen, the
confirmation after sixteen, and the peer is released after eighteen.
-/
theorem slow_publication_passes_deadline :
    pendingDeadline hello.claims.expiresAt (seconds 10) 1060 0 =
        Except.ok (seconds 10) ∧
      exists ready proof,
        (seconds 15, AcceptMark.committing) ∈ (acceptPending sample pendingHello
          (seconds 10) (slowSchedule ready proof) 0).marks ∧
        (seconds 16, AcceptMark.confirming) ∈ (acceptPending sample pendingHello
          (seconds 10) (slowSchedule ready proof) 0).marks ∧
        (exists peer, (acceptPending sample pendingHello (seconds 10)
          (slowSchedule ready proof) 0).result = Except.ok peer) ∧
        (acceptPending sample pendingHello (seconds 10)
          (slowSchedule ready proof) 0).clock = seconds 18 ∧
        ¬ RespectsDeadline (seconds 10) (acceptPending sample pendingHello
          (seconds 10) (slowSchedule ready proof) 0) := by
  rcases sample_answer with ⟨answer, hanswer, hchallenge⟩
  rcases initiator_proof with ⟨proof, hproof⟩
  rcases sample_ready with ⟨ready, hready⟩
  rcases sample_peer with ⟨peer, hpeer⟩
  have hstarts : (slowSchedule ready proof).Starts pendingHello answer :=
    ⟨hanswer, rfl⟩
  have hcommit : (slowSchedule ready proof).ReachesCommit pendingHello answer := by
    refine ⟨rfl, ready, proof, rfl, ?_, rfl, ?_⟩
    · rw [hchallenge]
      exact hready
    · rw [hchallenge]
      exact fromProtocol_eq_ok.mpr hproof
  have hend : (slowSchedule ready proof).ReachesEnd pendingHello answer :=
    ⟨⟨hcommit, rfl⟩, rfl⟩
  have hlasts : (slowSchedule ready proof).toEnd < seconds 10 - 0 :=
    show seconds 1 + seconds 1 + seconds 1 + seconds 1 + seconds 1 < seconds 10 - 0 by
      decide
  have hconfirms : (slowSchedule ready proof).toConfirm < seconds 10 - 0 :=
    show seconds 1 + seconds 1 + seconds 1 + seconds 1 < seconds 10 - 0 by
      decide
  have hcommits : (slowSchedule ready proof).toCommit < seconds 10 - 0 :=
    show seconds 1 + seconds 1 + seconds 1 < seconds 10 - 0 by
      decide
  have hcommitting := committing_mem (Nat.zero_le _) hstarts hcommit hcommits
  have hconfirming := confirming_mem (Nat.zero_le _) hstarts hend.left hconfirms
  have hclock := acceptPending_clock (Nat.zero_le _) hstarts hend hlasts
  rw [slowSchedule_instants.left] at hcommitting
  rw [slowSchedule_instants.right.left] at hconfirming
  rw [slowSchedule_instants.right.right] at hclock
  refine ⟨?_, ready, proof, hcommitting, hconfirming,
    ⟨peer, acceptPending_ok.mpr ⟨Nat.zero_le _, answer, hstarts, hend, hlasts,
      hpeer⟩⟩, hclock, ?_⟩
  · have hlifetime : min (seconds 10)
        ((saturatingSub 1090 1060).toNat * nanosPerSecond) = seconds 10 := by
      rw [show (saturatingSub 1090 1060).toNat = 30 by decide]
      exact Nat.min_eq_left (Nat.mul_le_mul_right nanosPerSecond (by decide))
    unfold pendingDeadline
    rw [show hello.claims.expiresAt = 1090 from rfl, hlifetime]
    dsimp only
    rw [rejectIf_of_not (by decide), ok_bind, Nat.zero_add]
    rfl
  · intro hrespects
    exact absurd (hrespects.commit _ hcommitting) (by decide)

end Client
end Pubky2Pubky
