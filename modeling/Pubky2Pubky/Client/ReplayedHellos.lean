import Pubky2Pubky.Client.Admission
import Pubky2Pubky.Client.Guarantees

/-!
# Replayed Hellos

The replay cache forgets a Hello when it expires, so a Hello is admitted at most
once only as long as no connection that carries it is still being admitted then.
-/

namespace Pubky2Pubky
namespace Client

open Foundation Protocol

/--
A Hello reaches the queue at most once in every run that reserves and rolls back
before the Hello it is about has expired.
-/
theorem admitted_at_most_once {P : Primitives} {client : V1Client}
    {config : AdmissionConfig} {s : AdmissionState P}
    (h : (admissionMachine client config).ReachableWhen AdmissionState.Timely s) :
    s.admitted.Nodup :=
  (admissionMachine_guarded h).once

namespace Sample

open Protocol.Reference

def config : AdmissionConfig :=
  { peerHandshakeTimeout := 10 * nanosPerSecond
    replay := { capacity := 4, perIdentityCapacity := 2 }
    queue := { capacity := 4, perIdentityCapacity := 2 } }

def admission (stage : AdmissionStage) : Admission sample :=
  { remoteEndpoint := laptop.iroh
    hello := hello
    stage := stage }

/-- The phone at a time, with nothing admitted so far. -/
def opening (wall : UInt64) (runs : Nat -> Option (Admission sample)) :
    AdmissionState sample :=
  { wall := wall
    instant := 0
    active := active phone
    replay := ∅
    queue := PendingQueueState.new
    runs := runs
    admitted := [] }

section Admitting

variable {wall : UInt64} {runs : Nat -> Option (Admission sample)} {run : Nat}

theorem targetRecord_eq (hstop : wall < (1090 : UInt64)) :
    targetRecord (client phone) (active phone) hello wall =
      Except.ok phone.record := by
  unfold targetRecord
  rw [rejectIf_of_not (by decide), ok_bind, retainCurrent_active phone hstop]
  have hlookup : (active phone).lookup
      hello.claims.targetDeviceRecordDigest = some phone.record := by
    change [(phone.record.digest sample, phone.record)].lookup
      (phone.record.digest sample) = _
    exact List.lookup_cons_self
  rw [hlookup]
  rfl

theorem verifyIncoming_eq (hstart : (1000 : UInt64) ≤ wall)
    (hstop : wall < (1090 : UInt64)) :
    verifyIncoming sample (client phone) laptop.iroh hello phone.record wall =
      Except.ok () := by
  have hverify : hello.verify sample hello.claims.fromDeviceRecord phone.record
      hello.claims.application wall
      (client phone).allowInsecureLoopbackRelay = Except.ok () :=
    hello_verify hstart hstop
  have hown : ¬ (phone.record.certificate ≠
        (client phone).credential.certificate ∨
      phone.record.authorization ≠ (client phone).credential.authorization ∨
      phone.record.certificate.claims.identity ≠
        (client phone).credential.identity) := by
    simp only [not_or, not_not]
    exact ⟨rfl, rfl, rfl⟩
  have hcertified : sample.tryFromZ32
      hello.claims.fromDeviceRecord.certificate.claims.irohEndpointId =
        some laptop.iroh := irohEndpointId_eq laptop
  exact verifyIncoming_of hverify hown hcertified

theorem incomingRequest_exists (deadline : Instant) :
    exists incoming, incomingRequest sample (client phone) hello phone.record
      deadline = Except.ok incoming :=
  incomingRequest_of laptop.record_path phone.record_path

theorem pendingDeadline_exists (hstop : wall < (1090 : UInt64)) :
    exists deadline, pendingDeadline hello.claims.expiresAt
      config.peerHandshakeTimeout wall 0 = Except.ok deadline := by
  have hleft : (saturatingSub hello.claims.expiresAt wall).toNat ≠ 0 := by
    rw [toNat_saturatingSub]
    have hexpires : hello.claims.expiresAt.toNat = 1090 := rfl
    have hwall : wall.toNat < 1090 := UInt64.lt_iff_toNat_lt.mp hstop
    omega
  have hlifetime : ¬ min config.peerHandshakeTimeout
      ((saturatingSub hello.claims.expiresAt wall).toNat * nanosPerSecond) =
        0 := by
    change ¬ min (10 * 1000000000) (_ * 1000000000) = 0
    omega
  unfold pendingDeadline
  dsimp only
  rw [rejectIf_of_not hlifetime]
  exact ⟨_, rfl⟩

theorem opening_receive (hfree : runs run = none) :
    (opening wall runs).next (client phone) config
        (AdmissionLabel.receive run laptop.iroh hello) =
      some (opening wall (Function.update runs run
        (some (admission AdmissionStage.received)))) := by
  unfold AdmissionState.next
  dsimp only
  rw [show (opening wall runs).runs run = none from hfree]
  rfl

theorem opening_lookup (hstop : wall < (1090 : UInt64))
    (hrun : runs run = some (admission AdmissionStage.received)) :
    (opening wall runs).next (client phone) config
        (AdmissionLabel.advance run) =
      some (opening wall (Function.update runs run
        (some (admission (AdmissionStage.found phone.record))))) := by
  have htarget : targetRecord (client phone) (opening wall runs).active
      (admission AdmissionStage.received).hello (opening wall runs).wall =
        Except.ok phone.record := targetRecord_eq hstop
  have hactive : retainCurrent (opening wall runs).active
      (opening wall runs).wall = active phone :=
    retainCurrent_active phone hstop
  change (opening wall runs).advance (client phone) config run = _
  rw [AdmissionState.advance_eq (s := opening wall runs) hrun rfl]
  change some ((opening wall runs).lookup (client phone) run _) = _
  rw [AdmissionState.lookup_of_ok htarget, hactive]
  rfl

theorem opening_verify (hstart : (1000 : UInt64) ≤ wall)
    (hstop : wall < (1090 : UInt64))
    (hrun : runs run = some (admission (AdmissionStage.found phone.record))) :
    (opening wall runs).next (client phone) config
        (AdmissionLabel.advance run) =
      some (opening wall (Function.update runs run
        (some (admission (AdmissionStage.verified phone.record))))) := by
  have hverify : verifyIncoming sample (client phone)
      (admission (AdmissionStage.found phone.record)).remoteEndpoint
      (admission (AdmissionStage.found phone.record)).hello phone.record
      (opening wall runs).wall = Except.ok () :=
    verifyIncoming_eq hstart hstop
  change (opening wall runs).advance (client phone) config run = _
  rw [AdmissionState.advance_eq (s := opening wall runs) hrun rfl]
  change some ((opening wall runs).verify (client phone) run _ _) = _
  rw [AdmissionState.verify_of_ok hverify]
  rfl

theorem opening_deadline (hstop : wall < (1090 : UInt64))
    (hrun : runs run = some (admission (AdmissionStage.verified phone.record))) :
    exists deadline, (opening wall runs).next (client phone) config
        (AdmissionLabel.advance run) =
      some (opening wall (Function.update runs run
        (some (admission (AdmissionStage.timed phone.record deadline))))) := by
  rcases pendingDeadline_exists hstop with ⟨deadline, hdeadline⟩
  refine ⟨deadline, ?_⟩
  have htimed : pendingDeadline
      (admission (AdmissionStage.verified phone.record)).hello.claims.expiresAt
      config.peerHandshakeTimeout (opening wall runs).wall
      (opening wall runs).instant = Except.ok deadline := hdeadline
  change (opening wall runs).advance (client phone) config run = _
  rw [AdmissionState.advance_eq (s := opening wall runs) hrun rfl]
  change some ((opening wall runs).setDeadline config run _ _) = _
  rw [AdmissionState.setDeadline_of_ok htimed]
  rfl

theorem opening_timed (wall : UInt64) (run : Nat)
    (hstart : (1000 : UInt64) ≤ wall) (hstop : wall < (1090 : UInt64)) (hfree : runs run = none)
    (h : (admissionMachine (client phone) config).ReachableWhen
      AdmissionState.Timely (opening wall runs)) :
    exists deadline, (admissionMachine (client phone) config).ReachableWhen
      AdmissionState.Timely (opening wall (Function.update runs run
        (some (admission (AdmissionStage.timed phone.record deadline))))) := by
  have harrived : (opening wall runs).Timely
      (AdmissionLabel.receive run laptop.iroh hello) := trivial
  have hreceived := admissionMachine_step h harrived (opening_receive hfree)
  have hfound := admissionMachine_step hreceived
    (AdmissionState.timely_advance (Function.update_self _ _ _) trivial)
    (opening_lookup hstop (Function.update_self _ _ _))
  rw [Function.update_idem] at hfound
  have hverified := admissionMachine_step hfound
    (AdmissionState.timely_advance (Function.update_self _ _ _) trivial)
    (opening_verify hstart hstop (Function.update_self _ _ _))
  rw [Function.update_idem] at hverified
  rcases opening_deadline hstop (Function.update_self _ _ _) with
    ⟨deadline, hdeadline⟩
  have htimed := admissionMachine_step hverified
    (AdmissionState.timely_advance (Function.update_self _ _ _) trivial) hdeadline
  rw [Function.update_idem] at htimed
  exact ⟨deadline, htimed⟩

def reservations : ReplayCache :=
  Std.ExtTreeMap.insert (∅ : ReplayCache) (replayKey hello)
    { identity := hello.claims.fromIdentity
      expiresAt := hello.claims.expiresAt }

/-- Nothing is queued and nothing is reserved that has not expired. -/
structure Free (s : AdmissionState sample) : Prop where
  replay : s.replay.retain s.wall = ∅
  queue : exists book : PendingBook, Refines s.queue book ∧
    book.closed = false ∧ (book.live s.instant).book.queued = []

theorem opening_free (wall : UInt64) (runs : Nat -> Option (Admission sample)) :
    Free (opening wall runs) := by
  constructor
  · rfl
  · exact ⟨PendingBook.empty, ⟨represents_nil false, rfl⟩, rfl, rfl⟩

/-- The state of a phone that has admitted the Hello with one request queued. -/
structure Admitted (s after : AdmissionState sample) (run : Nat) : Prop where
  admitted : after.admitted = s.admitted ++ [hello]
  wall : after.wall = s.wall
  others (other : Nat) : other ≠ run -> after.runs other = s.runs other
  replay : after.replay = reservations
  queue : exists (book : PendingBook) (ticket : Ticket String IncomingV1),
    Refines after.queue book ∧ book.closed = false ∧
      book.book.queued = [ticket]

/-- A run that has its deadline puts the Hello into a free queue. -/
theorem Free.admits {s : AdmissionState sample} {deadline : Instant}
    (hfree : Free s)
    (hrun : s.runs run =
      some (admission (AdmissionStage.timed phone.record deadline))) :
    exists (incoming : IncomingV1) (middle after : AdmissionState sample),
      s.next (client phone) config (AdmissionLabel.advance run) = some middle ∧
      middle.runs run = some (admission
        (AdmissionStage.reserved (replayKey hello) incoming)) ∧
      middle.next (client phone) config (AdmissionLabel.advance run) =
        some after ∧
      Admitted s after run := by
  rcases incomingRequest_exists deadline with ⟨incoming, hincoming⟩
  have hreplay : s.replay.insert config.replay (replayKey hello)
      hello.claims.fromIdentity hello.claims.expiresAt s.wall =
        (reservations, Except.ok ()) := by
    unfold ReplayCache.insert
    rw [hfree.replay]
    rfl
  rcases hfree.queue with ⟨book, hrefines, hopen, hempty⟩
  rcases hrefines.insert config.queue s.instant (replayKey hello) incoming with
    ⟨hresult, hafter⟩
  have hinsert : book.insert config.queue s.instant (replayKey hello) incoming =
      ((book.live s.instant).issue (replayKey hello) incoming,
        Except.ok ()) := by
    unfold PendingBook.insert
    dsimp only
    rw [hopen, hempty]
    rfl
  rw [hinsert] at hresult hafter
  have hpair : s.queue.insert config.queue s.instant (replayKey hello)
      incoming = ((s.queue.insert config.queue s.instant (replayKey hello)
        incoming).1, Except.ok ()) := Prod.ext rfl hresult
  have hmiddle := AdmissionState.next_reserved (client phone) config
    hrun rfl hreplay hincoming
  let middle := ({ s with replay := reservations } : AdmissionState sample).move
    run (admission (AdmissionStage.timed phone.record deadline))
    (AdmissionStage.reserved (replayKey hello) incoming)
  have hmoved : middle.runs run = some (admission
      (AdmissionStage.reserved (replayKey hello) incoming)) :=
    Function.update_self _ _ _
  have hlast := AdmissionState.next_enqueued (client phone) config hmoved rfl
    hpair
  refine ⟨incoming, middle, _, hmiddle, hmoved, hlast, ?_⟩
  constructor
  case admitted => rfl
  case wall => rfl
  case others =>
    intro other hother
    exact (Function.update_of_ne hother _ _).trans
      (Function.update_of_ne hother _ _)
  case replay => rfl
  case queue =>
    have hqueued : ((book.live s.instant).issue (replayKey hello)
        incoming).book.queued = (book.live s.instant).book.queued ++ [_] := rfl
    rw [hempty] at hqueued
    exact ⟨_, _, hafter, hopen, hqueued⟩

theorem opening_reachable (wall : UInt64) :
    (admissionMachine (client phone) config).ReachableWhen
      AdmissionState.Timely (opening wall fun _ => none) :=
  Machine.ReachableWhen.start ⟨rfl, rfl, rfl, rfl⟩

theorem opening_runs (wall : UInt64) (runs : Nat -> Option (Admission sample))
    (run : Nat) (stage : AdmissionStage) :
    (opening wall (Function.update runs run (some (admission stage)))).runs run =
      some (admission stage) :=
  Function.update_self _ _ _

theorem hello_expiresAt : hello.claims.expiresAt = 1090 := rfl

/-- The application takes the only request. -/
theorem Admitted.free {s after : AdmissionState sample} {run : Nat}
    (h : Admitted s after run) (hlate : (1090 : UInt64) ≤ after.wall) :
    Free { after with queue := (after.queue.next after.instant).1 } := by
  constructor
  case replay =>
    apply Std.ExtTreeMap.ext_getElem?
    intro key
    rw [Std.ExtTreeMap.getElem?_empty]
    change (after.replay.retain after.wall)[key]? = none
    rw [ReplayCache.getElem_retain, h.replay]
    unfold reservations
    rw [Std.ExtTreeMap.getElem?_insert]
    split
    · rw [Option.filter_some, if_neg]
      simp only [decide_eq_true_eq, hello_expiresAt, gt_iff_lt,
        UInt64.not_lt]
      exact hlate
    · rw [Std.ExtTreeMap.getElem?_empty, Option.filter_none]
  case queue =>
    rcases h.queue with ⟨book, ticket, hrefines, hopen, hqueued⟩
    refine ⟨_, (hrefines.next after.instant).2,
      (book.next_closed after.instant).trans hopen, ?_⟩
    have hkept : (book.live after.instant).book.queued.length ≤ 1 := by
      have hbound := List.length_filter_le
        (fun ticket : Ticket String IncomingV1 =>
          !ticket.item.expired after.instant) book.book.queued
      exact hbound.trans (Nat.le_of_eq (congrArg List.length hqueued))
    have hnone : (book.next after.instant).1.book.queued = [] := by
      rw [book.next_queued, ← List.length_eq_zero_iff, List.length_tail]
      omega
    change (book.next after.instant).1.book.queued.filter _ = []
    rw [hnone]
    rfl

end Admitting

def bothTimed (first second : Instant) : Nat -> Option (Admission sample) :=
  Function.update
    (Function.update (fun _ => none) 0
      (some (admission (AdmissionStage.timed phone.record first))))
    1 (some (admission (AdmissionStage.timed phone.record second)))

end Sample

/-- The Hello of a laptop, admitted half a minute before it expires. -/
theorem admitted_at_most_once_sample :
    exists s : AdmissionState Reference.sample,
      s.admitted = [Reference.hello] ∧ s.admitted.Nodup := by
  rcases Sample.opening_timed 1060 0 (by decide) (by decide) rfl
    (Sample.opening_reachable 1060) with ⟨deadline, htimed⟩
  have htaken := Sample.opening_runs 1060 (fun _ => none) 0
    (AdmissionStage.timed Reference.phone.record deadline)
  rcases (Sample.opening_free 1060 _).admits htaken with
    ⟨incoming, middle, after, hmiddle, hmoved, hafter, hadmitted⟩
  have hlive : (1060 : UInt64) < Reference.hello.claims.expiresAt := by
    change (1060 : UInt64) < 1090
    decide
  have hreserved := admissionMachine_step htimed
    (AdmissionState.timely_advance htaken hlive) hmiddle
  have hqueued := admissionMachine_step hreserved
    (AdmissionState.timely_advance hmoved trivial) hafter
  exact ⟨after, hadmitted.admitted, admitted_at_most_once hqueued⟩

/--
Two connections carry the Hello of a laptop and have their deadlines one second
before it expires. Then it expires, and both are admitted.
-/
theorem admitted_twice :
    exists s : AdmissionState Reference.sample,
      (admissionMachine (Sample.client Reference.phone)
        Sample.config).Reachable s ∧
      s.admitted = [Reference.hello, Reference.hello] := by
  rcases Sample.opening_timed 1089 0 (by decide) (by decide) rfl
    (Sample.opening_reachable 1089) with ⟨first, hfirst⟩
  rcases Sample.opening_timed 1089 1 (by decide) (by decide) rfl
    hfirst with ⟨second, hsecond⟩
  let both := Sample.bothTimed first second
  have htimed : (admissionMachine (Sample.client Reference.phone)
      Sample.config).Reachable (Sample.opening 1089 both) :=
    hsecond.mono fun _ _ _ => trivial
  have htick : (Sample.opening 1089 both).next (Sample.client Reference.phone)
      Sample.config (AdmissionLabel.tick 1090 0) =
        some (Sample.opening 1090 both) := rfl
  have hlate := admissionMachine_step htimed trivial htick
  have hzero : (Sample.opening 1090 both).runs 0 = some (Sample.admission
      (AdmissionStage.timed Reference.phone.record first)) := rfl
  rcases (Sample.opening_free 1090 both).admits hzero with
    ⟨_, middle, after, hmiddle, _, hafter, hadmitted⟩
  have htaken : after.next (Sample.client Reference.phone) Sample.config
      AdmissionLabel.next = some { after with
        queue := (after.queue.next after.instant).1 } := rfl
  have hopened := admissionMachine_step (admissionMachine_step
    (admissionMachine_step hlate trivial hmiddle) trivial hafter) trivial htaken
  have hone : after.runs 1 = some (Sample.admission
      (AdmissionStage.timed Reference.phone.record second)) :=
    hadmitted.others 1 Nat.one_ne_zero
  rcases (hadmitted.free (UInt64.le_of_eq hadmitted.wall.symm)).admits hone with
    ⟨_, last, final, hlast, _, hfinal, hagain⟩
  refine ⟨final, admissionMachine_step
    (admissionMachine_step hopened trivial hlast) trivial hfinal, ?_⟩
  rw [hagain.admitted]
  exact congrArg (fun admitted => admitted ++ [Reference.hello])
    hadmitted.admitted

end Client
end Pubky2Pubky
