import Pubky2Pubky.Client.Framing

/-!
# Control messages

The frames of a handshake are of three kinds, each with its reader and its limit.
The readers belong to the JSON package, so what they take back is a hypothesis.
-/

namespace Pubky2Pubky
namespace Client

open Foundation Protocol

section Messages

variable (P : Primitives) [ControlReaders P]

namespace ControlMessage

def toJson : ControlMessage -> Json
  | hello message => message.toJson
  | ack message => message.toJson
  | proof control => control.toJson

def frame : ControlMessage -> ControlFrame ControlMessage
  | hello message => helloFrame P message
  | ack message => ackFrame P message
  | proof control => proofFrame P control

/-- A message of the same kind, whatever it says. -/
def SameKind : ControlMessage -> ControlMessage -> Prop
  | hello _, hello _ => True
  | ack _, ack _ => True
  | proof _, proof _ => True
  | _, _ => False

/-- The reader of its kind takes the message back from its own text. -/
def ReadBack (message : ControlMessage) : Prop :=
  (message.frame P).fromSlice (P.jsonToVec message.toJson) = some message

end ControlMessage

/-- The payload of a frame that was read as the message. -/
structure ReadFrom (expected message : ControlMessage) (payload : Bytes) : Prop where
  kind : expected.SameKind message
  bounded : payload.length ≤ (message.frame P).max
  parsed : (message.frame P).fromSlice payload = some message

variable {P}

theorem ControlMessage.readBack_hello {hello : V1SignedHello}
    (h : ControlReaders.helloFromSlice P (P.jsonToVec hello.toJson) =
      some hello) : (ControlMessage.hello hello).ReadBack P :=
  congrArg (Option.map ControlMessage.hello) h

theorem ControlMessage.readBack_proof {control : ProofControl}
    (h : ControlReaders.controlFromSlice P (P.jsonToVec control.toJson) =
      some control) : (ControlMessage.proof control).ReadBack P :=
  congrArg (Option.map ControlMessage.proof) h

theorem ControlMessage.frame_value (message : ControlMessage) :
    (message.frame P).value = message.toJson := by
  cases message with
  | hello message => rfl
  | ack message => rfl
  | proof control => rfl

/-- Whatever a side expects, it reads a message of that kind with its reader. -/
theorem readFrom_of_fromSlice {expected message : ControlMessage} {payload : Bytes}
    (hbounded : payload.length ≤ (expected.frame P).max)
    (h : (expected.frame P).fromSlice payload = some message) :
    ReadFrom P expected message payload := by
  cases expected with
  | hello hello =>
      rcases Option.map_eq_some_iff.mp h with ⟨found, hfound, rfl⟩
      exact ⟨trivial, hbounded, h⟩
  | ack ack =>
      rcases Option.map_eq_some_iff.mp h with ⟨found, hfound, rfl⟩
      exact ⟨trivial, hbounded, h⟩
  | proof control =>
      rcases Option.map_eq_some_iff.mp h with ⟨found, hfound, rfl⟩
      exact ⟨trivial, hbounded, h⟩

/-- A control message is read off a frame within its limit. -/
theorem readJson_payload {α : Type} {fromSlice : Bytes -> Option α}
    {stream left : RecvStream} {max : Nat} {value : α}
    (h : readJson fromSlice stream max = (Except.ok value, left)) :
    exists payload, fromSlice payload = some value ∧ payload.length ≤ max ∧
      stream.chunks.flatten = Frames.frame payload ++ left.chunks.flatten := by
  unfold readJson Control.readBytes at h
  rw [readFrame_eq] at h
  rcases hread : Frames.readFrame max stream.chunks with ⟨read, rest⟩
  rw [hread] at h
  cases read with
  | payload bytes =>
      injection h with hvalue hleft
      subst hleft
      rcases Frames.readFrame_payload hread with ⟨hmax, hstream⟩
      exact ⟨bytes, okOr_eq_ok.mp hvalue, hmax, hstream⟩
  | oversized => cases h
  | ended => cases h

theorem readControls_frames {messages : List ControlMessage}
    {stream : RecvStream} {written tail : Bytes}
    (hback : forall message, message ∈ messages -> message.ReadBack P)
    (hwritten : writeControls P [] (messages.map (ControlMessage.frame P)) =
      Except.ok written)
    (hstream : stream.chunks.flatten = written ++ tail) :
    exists left,
      readControls (messages.map (ControlMessage.frame P)) stream =
        (Except.ok messages, left) ∧ left.chunks.flatten = tail := by
  rcases writeControls_eq_ok.mp hwritten with ⟨hsizes, htexts⟩
  rw [List.nil_append] at htexts
  subst htexts
  clear hwritten
  induction messages generalizing stream with
  | nil => exact ⟨stream, rfl, hstream⟩
  | cons message rest ih =>
      rw [List.forall_mem_cons] at hback
      rw [List.map_cons, List.forall_mem_cons] at hsizes
      unfold controlTexts at hstream
      rw [List.map_cons, List.map_cons, List.map_cons, List.flatten_cons,
        List.append_assoc] at hstream
      have hvalue : (message.frame P).fromSlice
          (P.jsonToVec (message.frame P).value) = some message := by
        rw [message.frame_value]
        exact hback.left
      rcases readJson_of_whole hsizes.left.left hsizes.left.right hvalue hstream with
        ⟨next, hread, hnext⟩
      rcases ih hback.right hsizes.right hnext with ⟨left, hvalues, htail⟩
      refine ⟨left, ?_, htail⟩
      rw [List.map_cons]
      unfold readControls
      rw [hread]
      dsimp only
      rw [hvalues]

theorem readControls_payloads {expected values : List ControlMessage}
    {stream left : RecvStream}
    (h : readControls (expected.map (ControlMessage.frame P)) stream =
      (Except.ok values, left)) :
    exists payloads : List Bytes,
      stream.chunks.flatten =
        (payloads.map Frames.frame).flatten ++ left.chunks.flatten ∧
      List.Forall₂ (fun pair payload => ReadFrom P pair.1 pair.2 payload)
        (expected.zip values) payloads ∧ values.length = expected.length := by
  induction expected generalizing stream values with
  | nil =>
      cases h
      exact ⟨[], rfl, List.Forall₂.nil, rfl⟩
  | cons message rest ih =>
      rw [List.map_cons] at h
      unfold readControls at h
      rcases hread : readJson (message.frame P).fromSlice stream
        (message.frame P).max with ⟨_ | value, next⟩
      · rw [hread] at h
        cases h
      · rw [hread] at h
        dsimp only at h
        rcases readJson_payload hread with ⟨payload, hvalue, hmax, hstream⟩
        rcases hrest : readControls (rest.map (ControlMessage.frame P)) next with
          ⟨_ | others, last⟩
        · rw [hrest] at h
          cases h
        · rw [hrest] at h
          cases h
          rcases ih hrest with ⟨payloads, hpayloads, hall, hlength⟩
          refine ⟨payload :: payloads, ?_, List.Forall₂.cons
            (readFrom_of_fromSlice hmax hvalue) hall, congrArg Nat.succ hlength⟩
          rw [hstream, hpayloads, List.map_cons, List.flatten_cons,
            List.append_assoc]

/--
Control messages cross a connection. Those that one side writes are what the other
side reads, wherever the transport cuts the bytes, and what follows them is left on
the stream. Conversely a side that reads the messages it expects has taken whole
frames off the stream, each within its limit and read as its message.
-/
theorem control_messages_cross :
    (forall (messages : List ControlMessage) (stream : RecvStream)
        (written tail : Bytes),
      (forall message, message ∈ messages -> message.ReadBack P) ->
      writeControls P [] (messages.map (ControlMessage.frame P)) =
        Except.ok written ->
      stream.chunks.flatten = written ++ tail ->
      exists left,
        readControls (messages.map (ControlMessage.frame P)) stream =
          (Except.ok messages, left) ∧ left.chunks.flatten = tail) ∧
    forall (expected values : List ControlMessage) (stream left : RecvStream),
      readControls (expected.map (ControlMessage.frame P)) stream =
        (Except.ok values, left) ->
      values.length = expected.length ∧
      exists payloads : List Bytes,
        stream.chunks.flatten =
          (payloads.map Frames.frame).flatten ++ left.chunks.flatten ∧
        List.Forall₂ (fun pair payload => ReadFrom P pair.1 pair.2 payload)
          (expected.zip values) payloads := by
  refine ⟨fun messages stream written tail => readControls_frames, ?_⟩
  intro expected values stream left h
  rcases readControls_payloads h with ⟨payloads, hstream, hall, hlength⟩
  exact ⟨hlength, payloads, hstream, hall⟩

end Messages

open Sample Protocol.Reference in
/-- The messages of the initiator arrive when each byte comes in a chunk of its own. -/
theorem control_messages_cross_sample :
    exists written left,
      writeControls sample [] (initiatorFrames sample hello readyControl) =
        Except.ok written ∧
      readControls (initiatorFrames sample hello readyControl)
        { chunks := written.map fun byte => [byte], failure := "closed" } =
          (Except.ok [ControlMessage.hello hello, ControlMessage.proof readyControl],
           left) ∧
      left.chunks.flatten = [] := by
  have hsizes : forall frame, frame ∈ initiatorFrames sample hello readyControl ->
      (sample.jsonToVec frame.value).length ≤ frame.max ∧
        (sample.jsonToVec frame.value).length < 2 ^ 32 := by
    intro frame hframe
    rcases List.mem_cons.mp hframe with rfl | hframe
    · exact ⟨hello_bounded, Nat.lt_of_le_of_lt hello_bounded (by decide)⟩
    · rw [List.mem_singleton.mp hframe]
      exact ⟨readyControl_bounded,
        Nat.lt_of_le_of_lt readyControl_bounded (by decide)⟩
  have hwritten := writeControls_eq_ok.mpr ⟨hsizes, List.nil_append _⟩
  have hflat : forall written : Bytes,
      (written.map fun byte => [byte]).flatten = written ++ [] := by
    intro written
    rw [List.append_nil, ← List.flatMap_def, List.flatMap_singleton']
  have hback : forall message,
      message ∈ [ControlMessage.hello hello, ControlMessage.proof readyControl] ->
        message.ReadBack sample := by
    intro message hmessage
    rcases List.mem_cons.mp hmessage with rfl | hmessage
    · exact ControlMessage.readBack_hello helloFromSlice_hello
    · rw [List.mem_singleton.mp hmessage]
      exact ControlMessage.readBack_proof controlFromSlice_readyControl
  rcases control_messages_cross.left _
    { chunks := _, failure := "closed" } _ [] hback hwritten (hflat _) with
    ⟨left, hread, hleft⟩
  exact ⟨_, left, hwritten, hread, hleft⟩

end Client
end Pubky2Pubky
