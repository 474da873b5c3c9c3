import Pubky2Pubky.Foundation.Frames
import Pubky2Pubky.Client.Handshake

/-!
# Frames of a connection

Each direction of a connection carries the control frames of the handshake and
then the messages of the peer. Both sides put the same limit on a control frame,
and each side has its own limit for messages.
-/

namespace Pubky2Pubky
namespace Client

open Foundation Protocol

def maxProofControlBytes : Nat := 4 * 1024

/-- The chunks that a stream still delivers, and the error that ends it. -/
structure RecvStream where
  chunks : List Bytes
  failure : String

def RecvStream.readExact (self : RecvStream) (n : Nat) :
    ClientResult Bytes × RecvStream :=
  match Frames.readExact n self.chunks with
  | (none, left) =>
      (Except.error (ClientError.iroh self.failure), { self with chunks := left })
  | (some bytes, left) => (Except.ok bytes, { self with chunks := left })

def writeFrame (tooLarge : String) (stream bytes : Bytes) : ClientResult Bytes := do
  rejectIf (2 ^ 32 ≤ bytes.length) (ClientError.iroh tooLarge)
  pure (stream ++ Frames.toBeBytes bytes.length ++ bytes)

/-- A length above the limit is refused before the payload is read. -/
def readFrame (exceeds : Nat -> String) (stream : RecvStream) (max : Nat) :
    ClientResult Bytes × RecvStream :=
  match stream.readExact 4 with
  | (Except.error error, stream) => (Except.error error, stream)
  | (Except.ok encodedLength, stream) =>
      if Frames.fromBeBytes encodedLength > max then
        (Except.error (ClientError.iroh (exceeds max)), stream)
      else stream.readExact (Frames.fromBeBytes encodedLength)

/-!
# Control frames
-/

namespace Control

def writeBytes (stream bytes : Bytes) : ClientResult Bytes :=
  writeFrame "v1 QUIC frame is too large" stream bytes

def readBytes (stream : RecvStream) (max : Nat) : ClientResult Bytes × RecvStream :=
  readFrame (fun max => s!"v1 peer frame exceeds the {max} byte limit") stream max

end Control

def writeJson (P : Primitives) (stream : Bytes) (value : Json) (max : Nat) :
    ClientResult Bytes := do
  rejectIf ((P.jsonToVec value).length > max)
    (ClientError.iroh "v1 QUIC control message exceeds byte limit")
  Control.writeBytes stream (P.jsonToVec value)

def readJson {α : Type} (fromSlice : Bytes -> Option α) (stream : RecvStream)
    (max : Nat) : ClientResult α × RecvStream :=
  match Control.readBytes stream max with
  | (Except.error error, stream) => (Except.error error, stream)
  | (Except.ok bytes, stream) =>
      (okOr (fromSlice bytes)
        (ClientError.iroh "malformed v1 QUIC control message"), stream)

/-- What one side writes and how the other side reads it. -/
structure ControlFrame (α : Type) where
  value : Json
  fromSlice : Bytes -> Option α
  max : Nat

def writeControls (P : Primitives) {α : Type} :
    Bytes -> List (ControlFrame α) -> ClientResult Bytes
  | stream, [] => pure stream
  | stream, frame :: rest => do
      let stream <- writeJson P stream frame.value frame.max
      writeControls P stream rest

def readControls {α : Type} :
    List (ControlFrame α) -> RecvStream -> ClientResult (List α) × RecvStream
  | [], stream => (Except.ok [], stream)
  | frame :: rest, stream =>
      match readJson frame.fromSlice stream frame.max with
      | (Except.error error, stream) => (Except.error error, stream)
      | (Except.ok value, stream) =>
          match readControls rest stream with
          | (Except.error error, stream) => (Except.error error, stream)
          | (Except.ok values, stream) => (Except.ok (value :: values), stream)

def ProofControl.toJson (self : ProofControl) : Json :=
  Json.object
    [("version", Json.number self.version.toNat),
     ("challenge", Json.string self.challenge),
     ("initiator_proof_path", Json.string self.initiatorProofPath),
     ("responder_proof_path", Json.string self.responderProofPath)]

inductive ControlMessage where
  | hello (hello : V1SignedHello)
  | ack (ack : V1SignedAck)
  | proof (control : ProofControl)

class ControlReaders (P : Primitives) where
  helloFromSlice : Bytes -> Option V1SignedHello
  ackFromSlice : Bytes -> Option V1SignedAck
  controlFromSlice : Bytes -> Option ProofControl

section Handshakes

variable (P : Primitives) [ControlReaders P]

def helloFrame (hello : V1SignedHello) : ControlFrame ControlMessage :=
  { value := hello.toJson
    fromSlice := fun bytes =>
      (ControlReaders.helloFromSlice P bytes).map ControlMessage.hello
    max := v1MaxHelloBytes }

def ackFrame (ack : V1SignedAck) : ControlFrame ControlMessage :=
  { value := ack.toJson
    fromSlice := fun bytes =>
      (ControlReaders.ackFromSlice P bytes).map ControlMessage.ack
    max := v1MaxAckBytes }

def proofFrame (control : ProofControl) : ControlFrame ControlMessage :=
  { value := control.toJson
    fromSlice := fun bytes =>
      (ControlReaders.controlFromSlice P bytes).map ControlMessage.proof
    max := maxProofControlBytes }

/-- The initiator writes its Hello and `ProofReady`. -/
def initiatorFrames (hello : V1SignedHello) (ready : ProofControl) :
    List (ControlFrame ControlMessage) :=
  [helloFrame P hello, proofFrame P ready]

end Handshakes

/-!
# Messages
-/

/-- The streams of a peer; the sending one is gone once the peer is closed. -/
structure PeerStreams where
  sendStream : Option Bytes
  recvStream : RecvStream
  maxMessageBytes : Nat

namespace PeerStreams

def writeBytes (stream bytes : Bytes) : ClientResult Bytes :=
  writeFrame "QUIC message is too large" stream bytes

def readBytes (stream : RecvStream) (max : Nat) : ClientResult Bytes × RecvStream :=
  readFrame (fun max => s!"peer message exceeds the {max} byte limit") stream max

def send (self : PeerStreams) (data : Bytes) : ClientResult PeerStreams := do
  rejectIf (data.length > self.maxMessageBytes)
    (ClientError.iroh s!"message exceeds the {self.maxMessageBytes} byte limit")
  let stream <- okOr self.sendStream ClientError.channelClosed
  let written <- writeBytes stream data
  pure { self with sendStream := some written }

def recv (self : PeerStreams) : ClientResult Bytes × PeerStreams :=
  match readBytes self.recvStream self.maxMessageBytes with
  | (result, stream) => (result, { self with recvStream := stream })

def sendAll : PeerStreams -> List Bytes -> ClientResult PeerStreams
  | self, [] => pure self
  | self, data :: rest => do
      let self <- self.send data
      self.sendAll rest

/-- The results of successive calls that each run to their end. -/
def recvAll : Nat -> PeerStreams -> List (ClientResult Bytes)
  | 0, _ => []
  | calls + 1, self => self.recv.1 :: recvAll calls self.recv.2

end PeerStreams

def received (results : List (ClientResult Bytes)) : List Bytes :=
  results.filterMap Except.toOption

/-!
# The frames behind the calls
-/

/-- The client's words for a read of the frame format. -/
def frameResult (exceeds failure : String) : Frames.FrameRead -> ClientResult Bytes
  | Frames.FrameRead.payload bytes => Except.ok bytes
  | Frames.FrameRead.oversized => Except.error (ClientError.iroh exceeds)
  | Frames.FrameRead.ended => Except.error (ClientError.iroh failure)

theorem toOption_frameResult (exceeds failure : String) (read : Frames.FrameRead) :
    (frameResult exceeds failure read).toOption = read.payload? := by
  cases read <;> rfl

theorem readFrame_eq (exceeds : Nat -> String) (stream : RecvStream) (max : Nat) :
    readFrame exceeds stream max =
      (frameResult (exceeds max) stream.failure
        (Frames.readFrame max stream.chunks).1,
       { stream with chunks := (Frames.readFrame max stream.chunks).2 }) := by
  unfold readFrame Frames.readFrame RecvStream.readExact
  rcases Frames.readExact 4 stream.chunks with ⟨_ | header, left⟩
  · rfl
  · dsimp only
    by_cases hmax : Frames.fromBeBytes header > max
    · rw [if_pos hmax, if_pos hmax]
      rfl
    · rw [if_neg hmax, if_neg hmax]
      rcases Frames.readExact (Frames.fromBeBytes header) left with ⟨_ | bytes, last⟩
      · rfl
      · rfl

theorem writeFrame_eq_ok {tooLarge : String} {stream bytes written : Bytes} :
    writeFrame tooLarge stream bytes = Except.ok written <->
      bytes.length < 2 ^ 32 ∧ stream ++ Frames.frame bytes = written := by
  unfold writeFrame Frames.frame
  simp only [bind_eq_ok, rejectIf_eq_ok, exists_unit, pure_eq_ok, not_le,
    List.append_assoc]

namespace PeerStreams

theorem recvAll_eq (calls : Nat) (self : PeerStreams) :
    self.recvAll calls =
      (Frames.readFrames self.maxMessageBytes calls self.recvStream.chunks).map
        (frameResult s!"peer message exceeds the {self.maxMessageBytes} byte limit"
          self.recvStream.failure) := by
  induction calls generalizing self with
  | zero => rfl
  | succ calls ih =>
      unfold recvAll Frames.readFrames
      rw [ih, List.map_cons]
      unfold recv readBytes
      rw [readFrame_eq]

theorem received_recvAll (calls : Nat) (self : PeerStreams) :
    received (self.recvAll calls) =
      (Frames.readFrames self.maxMessageBytes calls
        self.recvStream.chunks).filterMap Frames.FrameRead.payload? := by
  rw [recvAll_eq]
  unfold received
  rw [List.filterMap_map]
  congr 1
  funext read
  exact toOption_frameResult _ _ read

theorem send_eq_ok {self sent : PeerStreams} {data : Bytes} :
    self.send data = Except.ok sent <->
      data.length ≤ self.maxMessageBytes ∧ data.length < 2 ^ 32 ∧
      exists stream, self.sendStream = some stream ∧
        { self with sendStream := some (stream ++ Frames.frame data) } = sent := by
  unfold send writeBytes
  simp only [bind_eq_ok, okOr_eq_ok, rejectIf_eq_ok, exists_unit, pure_eq_ok,
    writeFrame_eq_ok, gt_iff_lt, not_lt]
  constructor
  · rintro ⟨hmax, stream, hstream, written, ⟨hsize, rfl⟩, rfl⟩
    exact ⟨hmax, hsize, stream, hstream, rfl⟩
  · rintro ⟨hmax, hsize, stream, hstream, rfl⟩
    exact ⟨hmax, stream, hstream, _, ⟨hsize, rfl⟩, rfl⟩

theorem sendAll_eq_ok {self sent : PeerStreams} {stream : Bytes}
    {messages : List Bytes} (hstream : self.sendStream = some stream) :
    self.sendAll messages = Except.ok sent <->
      (forall message, message ∈ messages ->
        message.length ≤ self.maxMessageBytes ∧ message.length < 2 ^ 32) ∧
      { self with
        sendStream := some (stream ++ (messages.map Frames.frame).flatten) } =
          sent := by
  induction messages generalizing self stream with
  | nil =>
      unfold sendAll
      rw [List.map_nil, List.flatten_nil, List.append_nil, ← hstream, pure_eq_ok]
      exact ⟨fun h => ⟨fun _ hmem => absurd hmem List.not_mem_nil, h⟩,
        fun h => h.right⟩
  | cons data rest ih =>
      unfold sendAll
      rw [bind_eq_ok, List.forall_mem_cons, List.map_cons, List.flatten_cons,
        ← List.append_assoc]
      constructor
      · rintro ⟨next, hsend, hrest⟩
        rcases send_eq_ok.mp hsend with ⟨hmax, hsize, before, hbefore, rfl⟩
        cases hstream.symm.trans hbefore
        rcases (ih rfl).mp hrest with ⟨hall, heq⟩
        exact ⟨⟨⟨hmax, hsize⟩, hall⟩, heq⟩
      · rintro ⟨⟨hdata, hall⟩, heq⟩
        exact ⟨_, send_eq_ok.mpr ⟨hdata.left, hdata.right, stream, hstream, rfl⟩,
          (ih rfl).mpr ⟨hall, heq⟩⟩

end PeerStreams

section Controls

variable {P : Primitives} {α : Type}

def controlTexts (P : Primitives) (frames : List (ControlFrame α)) : List Bytes :=
  frames.map fun frame => P.jsonToVec frame.value

theorem writeJson_eq_ok {stream written : Bytes} {value : Json} {max : Nat} :
    writeJson P stream value max = Except.ok written <->
      (P.jsonToVec value).length ≤ max ∧ (P.jsonToVec value).length < 2 ^ 32 ∧
        stream ++ Frames.frame (P.jsonToVec value) = written := by
  unfold writeJson Control.writeBytes
  simp only [bind_eq_ok, rejectIf_eq_ok, exists_unit, writeFrame_eq_ok, gt_iff_lt,
    not_lt]

theorem writeControls_eq_ok {stream written : Bytes}
    {frames : List (ControlFrame α)} :
    writeControls P stream frames = Except.ok written <->
      (forall frame, frame ∈ frames ->
        (P.jsonToVec frame.value).length ≤ frame.max ∧
          (P.jsonToVec frame.value).length < 2 ^ 32) ∧
      stream ++ ((controlTexts P frames).map Frames.frame).flatten = written := by
  unfold controlTexts
  induction frames generalizing stream with
  | nil =>
      unfold writeControls
      rw [List.map_nil, List.map_nil, List.flatten_nil, List.append_nil, pure_eq_ok]
      exact ⟨fun h => ⟨fun _ hmem => absurd hmem List.not_mem_nil, h⟩,
        fun h => h.right⟩
  | cons frame rest ih =>
      unfold writeControls
      rw [bind_eq_ok, List.forall_mem_cons, List.map_cons, List.map_cons,
        List.flatten_cons, ← List.append_assoc]
      constructor
      · rintro ⟨next, hwrite, hrest⟩
        rcases writeJson_eq_ok.mp hwrite with ⟨hmax, hsize, rfl⟩
        rcases ih.mp hrest with ⟨hall, heq⟩
        exact ⟨⟨⟨hmax, hsize⟩, hall⟩, heq⟩
      · rintro ⟨⟨hframe, hall⟩, heq⟩
        exact ⟨_, writeJson_eq_ok.mpr ⟨hframe.left, hframe.right, rfl⟩,
          ih.mpr ⟨hall, heq⟩⟩

theorem readJson_eq_ok {frame : ControlFrame α} {stream left : RecvStream}
    {value : α} {rest : List Bytes}
    (hmax : (P.jsonToVec frame.value).length ≤ frame.max)
    (hsize : (P.jsonToVec frame.value).length < 2 ^ 32)
    (hstream : stream.chunks.flatten <+:
      ((P.jsonToVec frame.value :: rest).map Frames.frame).flatten)
    (h : readJson frame.fromSlice stream frame.max = (Except.ok value, left)) :
    frame.fromSlice (P.jsonToVec frame.value) = some value ∧
      stream.chunks.flatten =
        Frames.frame (P.jsonToVec frame.value) ++ left.chunks.flatten ∧
      left.chunks.flatten <+: (rest.map Frames.frame).flatten := by
  unfold readJson Control.readBytes at h
  rw [readFrame_eq] at h
  rcases Frames.readFrame_prefix hstream hsize hmax with
    ⟨chunks, hread, hwhole, hrest⟩ | hread
  · rw [hread] at h
    dsimp only [frameResult] at h
    injection h with hvalue hleft
    subst hleft
    exact ⟨okOr_eq_ok.mp hvalue, hwhole, hrest⟩
  · rw [hread] at h
    cases h

theorem readJson_of_whole {frame : ControlFrame α} {stream : RecvStream}
    {value : α} {tail : Bytes}
    (hmax : (P.jsonToVec frame.value).length ≤ frame.max)
    (hsize : (P.jsonToVec frame.value).length < 2 ^ 32)
    (hvalue : frame.fromSlice (P.jsonToVec frame.value) = some value)
    (hstream : stream.chunks.flatten =
      Frames.frame (P.jsonToVec frame.value) ++ tail) :
    exists left, readJson frame.fromSlice stream frame.max =
      (Except.ok value, left) ∧ left.chunks.flatten = tail := by
  rcases Frames.readFrame_frame hstream hsize hmax with ⟨chunks, hread, htail⟩
  refine ⟨{ stream with chunks := chunks }, ?_, htail⟩
  unfold readJson Control.readBytes
  rw [readFrame_eq, hread]
  dsimp only [frameResult]
  rw [hvalue]
  rfl

def ControlFrame.Readable (P : Primitives) (self : ControlFrame α) : Prop :=
  (P.jsonToVec self.value).length ≤ self.max ∧
    (P.jsonToVec self.value).length < 2 ^ 32 ∧
    exists value, self.fromSlice (P.jsonToVec self.value) = some value

theorem initiatorFrames_readable [ControlReaders P] {hello : V1SignedHello}
    {ready : ProofControl}
    (hhello : (P.jsonToVec hello.toJson).length ≤ v1MaxHelloBytes)
    (hreadHello : ControlReaders.helloFromSlice P (P.jsonToVec hello.toJson) =
      some hello)
    (hready : (P.jsonToVec ready.toJson).length ≤ maxProofControlBytes)
    (hreadReady : ControlReaders.controlFromSlice P (P.jsonToVec ready.toJson) =
      some ready)
    (frame : ControlFrame ControlMessage) (h : frame ∈ initiatorFrames P hello ready) :
    frame.Readable P := by
  rcases List.mem_cons.mp h with rfl | h
  · exact ⟨hhello, Nat.lt_of_le_of_lt hhello (by decide), ControlMessage.hello hello,
      congrArg (Option.map ControlMessage.hello) hreadHello⟩
  · rw [List.mem_singleton.mp h]
    exact ⟨hready, Nat.lt_of_le_of_lt hready (by decide), ControlMessage.proof ready,
      congrArg (Option.map ControlMessage.proof) hreadReady⟩

theorem readControls_of_whole {frames : List (ControlFrame α)}
    {stream : RecvStream} {tail : Bytes}
    (hframes : forall frame, frame ∈ frames -> frame.Readable P)
    (hstream : stream.chunks.flatten =
      ((controlTexts P frames).map Frames.frame).flatten ++ tail) :
    exists values left, readControls frames stream = (Except.ok values, left) ∧
      left.chunks.flatten = tail := by
  induction frames generalizing stream with
  | nil => exact ⟨[], stream, rfl, hstream⟩
  | cons frame rest ih =>
      rw [List.forall_mem_cons] at hframes
      rcases hframes with ⟨⟨hmax, hsize, value, hvalue⟩, hrest⟩
      unfold controlTexts at hstream
      rw [List.map_cons, List.map_cons, List.flatten_cons, List.append_assoc]
        at hstream
      rcases readJson_of_whole hmax hsize hvalue hstream with ⟨next, hread, hnext⟩
      rcases ih hrest hnext with ⟨values, left, hvalues, htail⟩
      refine ⟨value :: values, left, ?_, htail⟩
      unfold readControls
      rw [hread]
      dsimp only
      rw [hvalues]

theorem readControls_eq_ok {frames : List (ControlFrame α)}
    {stream left : RecvStream} {values : List α} {messages : List Bytes}
    (hframes : forall frame, frame ∈ frames ->
      (P.jsonToVec frame.value).length ≤ frame.max ∧
        (P.jsonToVec frame.value).length < 2 ^ 32)
    (hstream : stream.chunks.flatten <+:
      ((controlTexts P frames ++ messages).map Frames.frame).flatten)
    (h : readControls frames stream = (Except.ok values, left)) :
    List.Forall₂ (fun frame value =>
        frame.fromSlice (P.jsonToVec frame.value) = some value) frames values ∧
      stream.chunks.flatten =
        ((controlTexts P frames).map Frames.frame).flatten ++ left.chunks.flatten ∧
      left.chunks.flatten <+: (messages.map Frames.frame).flatten := by
  induction frames generalizing stream values with
  | nil =>
      unfold readControls at h
      injection h with hvalues hleft
      injection hvalues with hvalues
      subst hvalues hleft
      exact ⟨List.Forall₂.nil, rfl, hstream⟩
  | cons frame rest ih =>
      rw [List.forall_mem_cons] at hframes
      unfold readControls at h
      rcases hread : readJson frame.fromSlice stream frame.max with
        ⟨_ | value, next⟩
      · rw [hread] at h
        cases h
      · rw [hread] at h
        dsimp only at h
        rcases readJson_eq_ok hframes.left.left hframes.left.right hstream hread
          with ⟨hvalue, hwhole, hnext⟩
        rcases hrest : readControls rest next with ⟨_ | others, last⟩
        · rw [hrest] at h
          cases h
        · rw [hrest] at h
          injection h with hvalues hleft
          injection hvalues with hvalues
          subst hvalues hleft
          rcases ih hframes.right hnext hrest with ⟨hothers, hbytes, htail⟩
          refine ⟨List.Forall₂.cons hvalue hothers, ?_, htail⟩
          rw [hwhole, hbytes]
          unfold controlTexts
          rw [List.map_cons, List.map_cons, List.flatten_cons, List.append_assoc]

end Controls

/-!
# Staying in sync
-/

/-- The bytes of a direction: the control frames and then the messages. -/
def sentStream (P : Primitives) {α : Type} (frames : List (ControlFrame α))
    (sendMax : Nat) (messages : List Bytes) : ClientResult Bytes := do
  let handshake <- writeControls P [] frames
  let peer <- PeerStreams.sendAll
    { sendStream := some handshake
      recvStream := { chunks := [], failure := "" }
      maxMessageBytes := sendMax } messages
  okOr peer.sendStream ClientError.channelClosed

/-- The stream delivers some of the bytes of a direction, in any chunks. -/
def Delivered (P : Primitives) {α : Type} (frames : List (ControlFrame α))
    (sendMax : Nat) (messages : List Bytes) (stream : RecvStream) : Prop :=
  exists wire, sentStream P frames sendMax messages = Except.ok wire ∧
    stream.chunks.flatten <+: wire

structure Released (P : Primitives) {α : Type} (frames : List (ControlFrame α))
    (sendMax recvMax : Nat) (messages : List Bytes) (stream : RecvStream)
    (values : List α) (peer : PeerStreams) : Prop where
  delivered : Delivered P frames sendMax messages stream
  read : readControls frames stream = (Except.ok values, peer.recvStream)
  limit : peer.maxMessageBytes = recvMax

/--
The reads of the handshake use up exactly its frames, and the calls of `recv`
return messages that were sent, in order and each at most once. A message above
the limit fails the call that reaches it, and a stream without one is read whole.
-/
structure InSync (P : Primitives) {α : Type} (frames : List (ControlFrame α))
    (sendMax recvMax : Nat) : Prop where
  handshake {messages : List Bytes} {stream : RecvStream} {values : List α}
    {peer : PeerStreams} :
    Released P frames sendMax recvMax messages stream values peer ->
    List.Forall₂ (fun frame value =>
        frame.fromSlice (P.jsonToVec frame.value) = some value) frames values ∧
      exists handshake, writeControls P [] frames = Except.ok handshake ∧
        stream.chunks.flatten = handshake ++ peer.recvStream.chunks.flatten
  messages {messages : List Bytes} {stream : RecvStream} {values : List α}
    {peer : PeerStreams} :
    Released P frames sendMax recvMax messages stream values peer ->
    forall calls, (received (peer.recvAll calls)).Sublist messages
  oversized {before after : List Bytes} {big : Bytes} {stream : RecvStream}
    {values : List α} {peer : PeerStreams} {calls : Nat}
    {result : ClientResult Bytes} :
    Released P frames sendMax recvMax (before ++ big :: after) stream values peer ->
    (forall message, message ∈ before -> message.length ≤ recvMax) ->
    recvMax < big.length ->
    (peer.recvAll calls)[before.length]? = some result ->
    exists error, result = Except.error error
  whole {messages : List Bytes} {stream : RecvStream} {values : List α}
    {peer : PeerStreams} :
    Released P frames sendMax recvMax messages stream values peer ->
    sentStream P frames sendMax messages = Except.ok stream.chunks.flatten ->
    (forall message, message ∈ messages -> message.length ≤ recvMax) ->
    peer.recvAll messages.length = messages.map Except.ok

section Sync

variable {P : Primitives} {α : Type} {frames : List (ControlFrame α)}
  {sendMax recvMax : Nat} {messages : List Bytes} {stream : RecvStream}
  {values : List α} {peer : PeerStreams}

theorem sentStream_eq_ok {wire : Bytes} :
    sentStream P frames sendMax messages = Except.ok wire <->
      (forall frame, frame ∈ frames ->
        (P.jsonToVec frame.value).length ≤ frame.max ∧
          (P.jsonToVec frame.value).length < 2 ^ 32) ∧
      (forall message, message ∈ messages ->
        message.length ≤ sendMax ∧ message.length < 2 ^ 32) ∧
      ((controlTexts P frames ++ messages).map Frames.frame).flatten = wire := by
  unfold sentStream
  simp only [bind_eq_ok, okOr_eq_ok, writeControls_eq_ok, List.nil_append]
  rw [List.map_append, List.flatten_append]
  constructor
  · rintro ⟨handshake, ⟨hframes, rfl⟩, sent, hsent, hwire⟩
    rcases (PeerStreams.sendAll_eq_ok rfl).mp hsent with ⟨hmessages, rfl⟩
    injection hwire with hwire
    exact ⟨hframes, hmessages, hwire⟩
  · rintro ⟨hframes, hmessages, rfl⟩
    exact ⟨_, ⟨hframes, rfl⟩, _,
      (PeerStreams.sendAll_eq_ok rfl).mpr ⟨hmessages, rfl⟩, rfl⟩

theorem Released.rest
    (h : Released P frames sendMax recvMax messages stream values peer) :
    (forall message, message ∈ messages ->
      message.length ≤ sendMax ∧ message.length < 2 ^ 32) ∧
    List.Forall₂ (fun frame value =>
      frame.fromSlice (P.jsonToVec frame.value) = some value) frames values ∧
    writeControls P [] frames =
      Except.ok ((controlTexts P frames).map Frames.frame).flatten ∧
    stream.chunks.flatten = ((controlTexts P frames).map Frames.frame).flatten ++
      peer.recvStream.chunks.flatten ∧
    peer.recvStream.chunks.flatten <+: (messages.map Frames.frame).flatten := by
  rcases h.delivered with ⟨wire, hsent, hstream⟩
  rcases sentStream_eq_ok.mp hsent with ⟨hframes, hmessages, rfl⟩
  rcases readControls_eq_ok hframes hstream h.read with ⟨hvalues, hwhole, hrest⟩
  exact ⟨hmessages, hvalues, writeControls_eq_ok.mpr ⟨hframes, List.nil_append _⟩,
    hwhole, hrest⟩

theorem inSync_of_le (h : min sendMax (2 ^ 32 - 1) ≤ recvMax) :
    InSync P frames sendMax recvMax := by
  refine ⟨?_, ?_, ?_, ?_⟩
  · intro messages stream values peer hreleased
    rcases hreleased.rest with ⟨_, hvalues, hwritten, hwhole, _⟩
    exact ⟨hvalues, _, hwritten, hwhole⟩
  · intro messages stream values peer hreleased calls
    rcases hreleased.rest with ⟨hmessages, _, _, _, hrest⟩
    rw [PeerStreams.received_recvAll, hreleased.limit]
    refine Frames.readFrames_sublist (fun message hmem =>
      (hmessages message hmem).right) (fun message hmem => ?_) hrest
    rcases hmessages message hmem with ⟨hmax, hsize⟩
    omega
  · intro before after big stream values peer calls result hreleased hbefore hbig hat
    rcases hreleased.rest with ⟨hmessages, _, _, _, hrest⟩
    rw [PeerStreams.recvAll_eq, hreleased.limit, List.getElem?_map,
      Option.map_eq_some_iff] at hat
    rcases hat with ⟨read, hread, rfl⟩
    have hnone := Frames.readFrames_refused (fun message hmem =>
      (hmessages message hmem).right) hbefore hbig hrest hread
    cases read with
    | payload bytes => cases hnone
    | oversized => exact ⟨_, rfl⟩
    | ended => exact ⟨_, rfl⟩
  · intro messages stream values peer hreleased hall hmax
    rcases hreleased.rest with ⟨hmessages, _, _, hwhole, _⟩
    rcases sentStream_eq_ok.mp hall with ⟨_, _, hwire⟩
    rw [hwhole, List.map_append, List.flatten_append,
      List.append_cancel_left_eq] at hwire
    rw [PeerStreams.recvAll_eq, hreleased.limit,
      Frames.readFrames_whole (fun message hmem => (hmessages message hmem).right)
        hmax hwire.symm, List.map_map]
    rfl

def aboveLimit (recvMax : Nat) : List Bytes :=
  [List.replicate (recvMax + 1) 0, List.replicate (recvMax + 1) 0]

/-- The second call returns an empty message, which nobody sent. -/
theorem recv_out_of_step
    (hframes : forall frame, frame ∈ frames -> frame.Readable P)
    (h : recvMax < min sendMax (2 ^ 32 - 1)) :
    exists stream values peer,
      Released P frames sendMax recvMax (aboveLimit recvMax) stream values peer ∧
      peer.recvAll 2 =
        [Except.error (ClientError.iroh
           s!"peer message exceeds the {recvMax} byte limit"),
         Except.ok []] := by
  have hlength : (List.replicate (recvMax + 1) (0 : UInt8)).length = recvMax + 1 :=
    List.length_replicate
  have hsent : sentStream P frames sendMax (aboveLimit recvMax) =
      Except.ok ((controlTexts P frames ++ aboveLimit recvMax).map
        Frames.frame).flatten := by
    refine sentStream_eq_ok.mpr ⟨fun frame hframe => ?_, fun message hmem => ?_, rfl⟩
    · exact ⟨(hframes frame hframe).left, (hframes frame hframe).right.left⟩
    · have hmessage : message = List.replicate (recvMax + 1) 0 := by
        unfold aboveLimit at hmem
        simpa using hmem
      rw [hmessage, hlength]
      omega
  have hwhole : ([((controlTexts P frames ++ aboveLimit recvMax).map
      Frames.frame).flatten] : List Bytes).flatten =
        ((controlTexts P frames).map Frames.frame).flatten ++
          ((aboveLimit recvMax).map Frames.frame).flatten := by
    rw [List.flatten_cons, List.flatten_nil, List.append_nil, List.map_append,
      List.flatten_append]
  let received : RecvStream :=
    { chunks := [((controlTexts P frames ++ aboveLimit recvMax).map
        Frames.frame).flatten]
      failure := "" }
  have hreceived : received.chunks.flatten = _ := hwhole
  rcases readControls_of_whole hframes hreceived with ⟨values, left, hread, hleft⟩
  refine ⟨_, values, { sendStream := none
                       recvStream := left
                       maxMessageBytes := recvMax }, ⟨⟨_, hsent, ?_⟩, hread, rfl⟩, ?_⟩
  · rw [List.flatten_cons, List.flatten_nil, List.append_nil]
  · rw [PeerStreams.recvAll_eq,
      Frames.readFrames_out_of_step (by omega) (Nat.lt_succ_self recvMax) hleft]
    rfl

theorem nil_not_mem_aboveLimit : [] ∉ aboveLimit recvMax := by
  unfold aboveLimit
  simp

theorem not_inSync_of_lt
    (hframes : forall frame, frame ∈ frames -> frame.Readable P)
    (h : recvMax < min sendMax (2 ^ 32 - 1)) :
    ¬ InSync P frames sendMax recvMax := by
  intro hsync
  rcases recv_out_of_step hframes h with ⟨stream, values, peer, hreleased, hresults⟩
  have hmessages := hsync.messages hreleased 2
  rw [hresults] at hmessages
  exact nil_not_mem_aboveLimit (hmessages.subset List.mem_cons_self)

end Sync

/--
The two sides stay in sync exactly when the receiver's limit is at least the
sender's, or as large as a length can be.
-/
theorem framing_in_sync {P : Primitives} {α : Type} {frames : List (ControlFrame α)}
    {sendMax recvMax : Nat}
    (hframes : forall frame, frame ∈ frames -> frame.Readable P) :
    InSync P frames sendMax recvMax <-> min sendMax (2 ^ 32 - 1) ≤ recvMax := by
  constructor
  · intro hsync
    by_contra hlimit
    exact not_inSync_of_lt hframes (Nat.not_le.mp hlimit) hsync
  · exact inSync_of_le

/-!
# A native sender and a browser
-/

namespace Sample

open Protocol.Reference

def readyControl : ProofControl :=
  { version := v1ProtocolVersion
    challenge := String.ofList (List.replicate 43 'c')
    initiatorProofPath :=
      v1CurrentnessPathPrefix ++ String.ofList (List.replicate 43 'i') ++ ".json"
    responderProofPath :=
      v1CurrentnessPathPrefix ++ String.ofList (List.replicate 43 'r') ++ ".json" }

instance : ControlReaders sample where
  helloFromSlice bytes := if bytes = sample.jsonToVec hello.toJson then some hello else none
  ackFromSlice _ := none
  controlFromSlice bytes :=
    if bytes = sample.jsonToVec readyControl.toJson then some readyControl else none

theorem hello_bounded : (sample.jsonToVec hello.toJson).length ≤ v1MaxHelloBytes := by
  rcases V1SignedHello.verify_eq_ok.mp hello_verify_start with ⟨_, _, hauth, _⟩
  exact Nat.not_lt.mp (rejectIf_eq_ok.mp hauth.bounded)

theorem readyControl_bounded :
    (sample.jsonToVec readyControl.toJson).length ≤ maxProofControlBytes := by
  decide +kernel

theorem helloFromSlice_hello :
    ControlReaders.helloFromSlice sample (sample.jsonToVec hello.toJson) =
      some hello := by
  unfold ControlReaders.helloFromSlice
  exact if_pos rfl

theorem controlFromSlice_readyControl :
    ControlReaders.controlFromSlice sample (sample.jsonToVec readyControl.toJson) =
      some readyControl := by
  unfold ControlReaders.controlFromSlice
  exact if_pos rfl

theorem sample_readable (frame : ControlFrame ControlMessage)
    (h : frame ∈ initiatorFrames sample hello readyControl) :
    frame.Readable sample :=
  initiatorFrames_readable hello_bounded helloFromSlice_hello
    readyControl_bounded controlFromSlice_readyControl frame h

end Sample

open Sample Protocol.Reference in
theorem framing_in_sync_sample :
    InSync sample (initiatorFrames sample hello readyControl) 4096 4096 :=
  (framing_in_sync sample_readable).mpr (by decide)

open Sample Protocol.Reference in
/--
A native sender keeps to its sixteen mebibytes. The browser refuses a message of
4097 bytes, and its next call returns an empty message that was not sent.
-/
theorem refused_message_read_as_frames :
    (exists stream values peer,
      Released sample (initiatorFrames sample hello readyControl) (16 * 1024 * 1024)
        4096 [List.replicate 4097 0, List.replicate 4097 0] stream values peer ∧
      peer.recvAll 2 =
        [Except.error (ClientError.iroh "peer message exceeds the 4096 byte limit"),
         Except.ok []]) ∧
    ¬ InSync sample (initiatorFrames sample hello readyControl) (16 * 1024 * 1024)
      4096 := by
  have hlimit : 4096 < min (16 * 1024 * 1024) (2 ^ 32 - 1) := by
    decide
  exact ⟨recv_out_of_step sample_readable hlimit,
    not_inSync_of_lt sample_readable hlimit⟩

end Client
end Pubky2Pubky
