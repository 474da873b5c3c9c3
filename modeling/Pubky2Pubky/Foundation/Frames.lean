import Mathlib.Data.List.Basic
import Mathlib.Tactic.IntervalCases
import Pubky2Pubky.Foundation.Json

/-!
# Length-prefixed frames

A frame is a payload behind its length in four bytes, most significant first.
Frames follow one another on a byte stream, which the transport delivers in
chunks of its own choice. A reader that keeps to the lengths gets the payloads
back in order, until it refuses one and leaves its bytes on the stream.
-/

namespace Pubky2Pubky
namespace Foundation
namespace Frames

/-!
# The stream
-/

/-- Take so many bytes off the chunks; a stream that ends early is used up. -/
def readExact (n : Nat) : List Bytes -> Option Bytes × List Bytes
  | [] => (if n = 0 then some [] else none, [])
  | chunk :: rest =>
      if n = 0 then (some [], chunk :: rest)
      else if n < chunk.length then (some (chunk.take n), chunk.drop n :: rest)
      else
        match readExact (n - chunk.length) rest with
        | (none, left) => (none, left)
        | (some more, left) => (some (chunk ++ more), left)

theorem readExact_append {n : Nat} {stream : List Bytes} {bytes tail : Bytes}
    (hstream : stream.flatten = bytes ++ tail) (hlength : bytes.length = n) :
    exists left, readExact n stream = (some bytes, left) ∧ left.flatten = tail := by
  induction stream generalizing n bytes with
  | nil =>
      rw [List.flatten_nil, eq_comm, List.append_eq_nil_iff] at hstream
      rcases hstream with ⟨rfl, rfl⟩
      subst hlength
      exact ⟨[], rfl, rfl⟩
  | cons chunk rest ih =>
      rw [List.flatten_cons] at hstream
      unfold readExact
      by_cases hzero : n = 0
      · rw [if_pos hzero]
        have hnil : bytes = [] := List.length_eq_zero_iff.mp (hlength.trans hzero)
        rw [hnil] at hstream ⊢
        exact ⟨chunk :: rest, rfl, hstream⟩
      · rw [if_neg hzero]
        by_cases hshort : n < chunk.length
        · rw [if_pos hshort]
          refine ⟨chunk.drop n :: rest, ?_, ?_⟩
          · have htake := congrArg (List.take n) hstream
            rw [List.take_append_of_le_length (Nat.le_of_lt hshort), ← hlength,
              List.take_left, hlength] at htake
            rw [htake]
          · have hdrop := congrArg (List.drop n) hstream
            rw [List.drop_append_of_le_length (Nat.le_of_lt hshort), ← hlength,
              List.drop_left, hlength] at hdrop
            exact hdrop
        · rw [if_neg hshort]
          have hchunk : chunk <+: bytes := by
            refine List.prefix_of_prefix_length_le (List.prefix_append chunk _)
              (hstream ▸ List.prefix_append bytes tail) ?_
            omega
          rcases hchunk with ⟨more, rfl⟩
          rw [List.append_assoc, List.append_cancel_left_eq] at hstream
          rw [List.length_append] at hlength
          rcases ih hstream (show more.length = n - chunk.length by omega) with
            ⟨left, hread, hleft⟩
          rw [hread]
          exact ⟨left, rfl, hleft⟩

/-- A read that runs out of bytes leaves nothing behind. -/
theorem readExact_short {n : Nat} {stream : List Bytes}
    (h : stream.flatten.length < n) : readExact n stream = (none, []) := by
  induction stream generalizing n with
  | nil =>
      exact Prod.ext (if_neg (Nat.ne_of_gt h)) rfl
  | cons chunk rest ih =>
      rw [List.flatten_cons, List.length_append] at h
      unfold readExact
      rw [if_neg (by omega), if_neg (by omega), ih (by omega)]

/-!
# Lengths
-/

/-- `u32::to_be_bytes`. -/
def toBeBytes (length : Nat) : Bytes :=
  [UInt8.ofNat (length / 2 ^ 24), UInt8.ofNat (length / 2 ^ 16),
    UInt8.ofNat (length / 2 ^ 8), UInt8.ofNat length]

/-- `u32::from_be_bytes`. -/
def fromBeBytes (bytes : Bytes) : Nat :=
  bytes.foldl (fun value byte => value * 256 + byte.toNat) 0

theorem fromBeBytes_toBeBytes {length : Nat} (h : length < 2 ^ 32) :
    fromBeBytes (toBeBytes length) = length := by
  have hbyte : forall n : Nat, (UInt8.ofNat n).toNat = n % 256 := fun n =>
    UInt8.toNat_ofNat'
  simp only [fromBeBytes, toBeBytes, List.foldl_cons, List.foldl_nil, hbyte]
  omega

/-!
# Frames
-/

def frame (payload : Bytes) : Bytes :=
  toBeBytes payload.length ++ payload

inductive FrameRead where
  | payload (bytes : Bytes)
  | oversized
  | ended

/-- Read one frame whose payload is at most `max` bytes long. -/
def readFrame (max : Nat) (stream : List Bytes) : FrameRead × List Bytes :=
  match readExact 4 stream with
  | (none, left) => (FrameRead.ended, left)
  | (some header, left) =>
      if fromBeBytes header > max then (FrameRead.oversized, left)
      else
        match readExact (fromBeBytes header) left with
        | (none, left) => (FrameRead.ended, left)
        | (some bytes, left) => (FrameRead.payload bytes, left)

section Reading

variable {max : Nat} {stream : List Bytes} {payload tail : Bytes}

theorem readExact_header
    (hstream : stream.flatten = frame payload ++ tail) :
    exists left, readExact 4 stream = (some (toBeBytes payload.length), left) ∧
      left.flatten = payload ++ tail := by
  unfold frame at hstream
  rw [List.append_assoc] at hstream
  exact readExact_append hstream rfl

theorem readFrame_frame (hstream : stream.flatten = frame payload ++ tail)
    (hsize : payload.length < 2 ^ 32) (hmax : payload.length ≤ max) :
    exists left, readFrame max stream = (FrameRead.payload payload, left) ∧
      left.flatten = tail := by
  rcases readExact_header hstream with ⟨rest, hheader, hrest⟩
  rcases readExact_append hrest rfl with ⟨left, hpayload, hleft⟩
  refine ⟨left, ?_, hleft⟩
  unfold readFrame
  rw [hheader]
  dsimp only
  rw [fromBeBytes_toBeBytes hsize, if_neg (Nat.not_lt.mpr hmax), hpayload]

/-- A frame that is refused leaves its payload where the next header is expected. -/
theorem readFrame_oversized (hstream : stream.flatten = frame payload ++ tail)
    (hsize : payload.length < 2 ^ 32) (hmax : max < payload.length) :
    exists left, readFrame max stream = (FrameRead.oversized, left) ∧
      left.flatten = payload ++ tail := by
  rcases readExact_header hstream with ⟨left, hheader, hleft⟩
  refine ⟨left, ?_, hleft⟩
  unfold readFrame
  rw [hheader]
  dsimp only
  rw [fromBeBytes_toBeBytes hsize, if_pos hmax]

/-- A stream that ends inside a frame is used up. -/
theorem readFrame_partial (max : Nat)
    (hstream : stream.flatten <+: frame payload)
    (hshort : stream.flatten.length < (frame payload).length)
    (hsize : payload.length < 2 ^ 32) :
    (readFrame max stream).1 = FrameRead.ended ∧ (readFrame max stream).2 = [] ∨
      (readFrame max stream).1 = FrameRead.oversized ∧ max < payload.length := by
  unfold readFrame
  by_cases hheader : stream.flatten.length < 4
  · rw [readExact_short hheader]
    exact Or.inl ⟨rfl, rfl⟩
  · have hbegin : toBeBytes payload.length <+: stream.flatten :=
      List.prefix_of_prefix_length_le (List.prefix_append _ _) hstream
        (Nat.not_lt.mp hheader)
    rcases hbegin with ⟨more, hmore⟩
    rcases readExact_append hmore.symm rfl with ⟨left, hread, hleft⟩
    change readExact 4 stream = _ at hread
    rw [hread]
    dsimp only
    rw [fromBeBytes_toBeBytes hsize]
    by_cases hmax : payload.length > max
    · rw [if_pos hmax]
      exact Or.inr ⟨rfl, hmax⟩
    · rw [if_neg hmax]
      have hrest : left.flatten.length < payload.length := by
        unfold frame at hshort
        rw [← hmore, List.length_append, List.length_append] at hshort
        rw [hleft]
        omega
      rw [readExact_short hrest]
      exact Or.inl ⟨rfl, rfl⟩

/-- Within the bound, a read returns the next payload or finds the stream ended. -/
theorem readFrame_prefix {rest : List Bytes}
    (hstream : stream.flatten <+: ((payload :: rest).map frame).flatten)
    (hsize : payload.length < 2 ^ 32) (hmax : payload.length ≤ max) :
    (exists left, readFrame max stream = (FrameRead.payload payload, left) ∧
      stream.flatten = frame payload ++ left.flatten ∧
      left.flatten <+: (rest.map frame).flatten) ∨
    readFrame max stream = (FrameRead.ended, []) := by
  rw [List.map_cons, List.flatten_cons] at hstream
  by_cases hwhole : (frame payload).length ≤ stream.flatten.length
  · rcases List.prefix_of_prefix_length_le (List.prefix_append _ _) hstream hwhole
      with ⟨tail, htail⟩
    rw [← htail, List.prefix_append_right_inj] at hstream
    rcases readFrame_frame htail.symm hsize hmax with ⟨left, hread, hleft⟩
    exact Or.inl ⟨left, hread, hleft.symm ▸ htail.symm, hleft ▸ hstream⟩
  · have hshort := Nat.not_le.mp hwhole
    have hinside : stream.flatten <+: frame payload :=
      List.prefix_of_prefix_length_le hstream (List.prefix_append _ _)
        (Nat.le_of_lt hshort)
    rcases readFrame_partial max hinside hshort hsize with h | h
    · exact Or.inr (Prod.ext h.left h.right)
    · exact absurd h.right (Nat.not_lt.mpr hmax)

end Reading

/-!
# Successive reads
-/

def readFrames (max : Nat) : Nat -> List Bytes -> List FrameRead
  | 0, _ => []
  | n + 1, stream =>
      (readFrame max stream).1 :: readFrames max n (readFrame max stream).2

def FrameRead.payload? : FrameRead -> Option Bytes
  | FrameRead.payload bytes => some bytes
  | FrameRead.oversized => none
  | FrameRead.ended => none

/-- The payloads that can be framed. -/
def Framed (payloads : List Bytes) : Prop :=
  forall payload, payload ∈ payloads -> payload.length < 2 ^ 32

section Runs

variable {max n : Nat} {stream : List Bytes} {payloads : List Bytes}

theorem readFrames_nil (max n : Nat) :
    readFrames max n [] = List.replicate n FrameRead.ended := by
  induction n with
  | zero => rfl
  | succ n ih =>
      change FrameRead.ended :: readFrames max n [] = _
      rw [ih, List.replicate_succ]

theorem mem_readFrames_nil {read : FrameRead} (h : read ∈ readFrames max n []) :
    read = FrameRead.ended := by
  rw [readFrames_nil] at h
  exact List.eq_of_mem_replicate h

/-- Within the bound, the reads return payloads in order, each at most once. -/
theorem readFrames_sublist (hframed : Framed payloads)
    (hmax : forall payload, payload ∈ payloads -> payload.length ≤ max)
    (hstream : stream.flatten <+: (payloads.map frame).flatten) :
    ((readFrames max n stream).filterMap FrameRead.payload?).Sublist payloads := by
  induction n generalizing stream payloads with
  | zero =>
      exact List.nil_sublist payloads
  | succ n ih =>
      unfold readFrames
      cases payloads with
      | nil =>
          have hempty : stream.flatten.length < 4 := by
            rw [List.prefix_nil.mp hstream]
            decide
          unfold readFrame
          rw [readExact_short hempty]
          have hnone : (readFrames max n []).filterMap FrameRead.payload? = [] := by
            rw [List.filterMap_eq_nil_iff]
            intro read hread
            rw [mem_readFrames_nil hread]
            rfl
          dsimp only
          rw [List.filterMap_cons_none rfl, hnone]
      | cons payload rest =>
          rcases readFrame_prefix hstream (hframed payload List.mem_cons_self)
            (hmax payload List.mem_cons_self) with ⟨left, hread, _, hleft⟩ | hread
          · have hsome : FrameRead.payload? (FrameRead.payload payload) =
                some payload := rfl
            rw [hread, List.filterMap_cons_some hsome]
            exact (ih (fun other hother => hframed other (List.mem_cons_of_mem _ hother))
              (fun other hother => hmax other (List.mem_cons_of_mem _ hother))
              hleft).cons_cons payload
          · rw [hread, List.filterMap_cons_none rfl]
            exact ih hframed hmax (List.nil_prefix)

theorem readFrames_whole (hframed : Framed payloads)
    (hmax : forall payload, payload ∈ payloads -> payload.length ≤ max)
    (hstream : stream.flatten = (payloads.map frame).flatten) :
    readFrames max payloads.length stream = payloads.map FrameRead.payload := by
  induction payloads generalizing stream with
  | nil => rfl
  | cons payload rest ih =>
      rw [List.map_cons, List.flatten_cons] at hstream
      rcases readFrame_frame hstream (hframed payload List.mem_cons_self)
        (hmax payload List.mem_cons_self) with ⟨left, hread, hleft⟩
      rw [List.length_cons]
      unfold readFrames
      rw [hread, List.map_cons]
      dsimp only
      rw [ih (fun other hother => hframed other (List.mem_cons_of_mem _ hother))
        (fun other hother => hmax other (List.mem_cons_of_mem _ hother)) hleft]

/-- The read that reaches a payload above the bound does not return a payload. -/
theorem readFrames_refused {before after : List Bytes} {big : Bytes}
    (hframed : Framed (before ++ big :: after))
    (hmax : forall payload, payload ∈ before -> payload.length ≤ max)
    (hbig : max < big.length)
    (hstream : stream.flatten <+: ((before ++ big :: after).map frame).flatten)
    {read : FrameRead} (hread : (readFrames max n stream)[before.length]? = some read) :
    read.payload? = none := by
  induction before generalizing n stream with
  | nil =>
      cases n with
      | zero => cases hread
      | succ n =>
          injection hread with hread
          subst hread
          rw [List.nil_append, List.map_cons, List.flatten_cons] at hstream
          have hsize := hframed big List.mem_cons_self
          by_cases hwhole : (frame big).length ≤ stream.flatten.length
          · rcases List.prefix_of_prefix_length_le (List.prefix_append _ _) hstream
              hwhole with ⟨tail, htail⟩
            rcases readFrame_oversized htail.symm hsize hbig with ⟨left, hleft, _⟩
            rw [hleft]
            rfl
          · have hshort := Nat.not_le.mp hwhole
            have hinside : stream.flatten <+: frame big :=
              List.prefix_of_prefix_length_le hstream (List.prefix_append _ _)
                (Nat.le_of_lt hshort)
            rcases readFrame_partial max hinside hshort hsize with h | h
            · rw [h.left]
              rfl
            · rw [h.left]
              rfl
  | cons payload rest ih =>
      cases n with
      | zero => cases hread
      | succ n =>
          rw [List.cons_append] at hstream hframed
          rw [List.length_cons] at hread
          unfold readFrames at hread
          rw [List.getElem?_cons_succ] at hread
          rcases readFrame_prefix hstream (hframed payload List.mem_cons_self)
            (hmax payload List.mem_cons_self) with ⟨left, hnext, _, hleft⟩ | hnext
          · rw [hnext] at hread
            exact ih (fun other hother => hframed other (List.mem_cons_of_mem _ hother))
              (fun other hother => hmax other (List.mem_cons_of_mem _ hother)) hleft
              hread
          · rw [hnext] at hread
            rw [mem_readFrames_nil (List.mem_of_getElem? hread)]
            rfl

/--
The bytes of a refused payload are taken for the next header: two payloads of zero
bytes give an empty payload that nobody sent.
-/
theorem readFrames_out_of_step {length : Nat} (hsize : length < 2 ^ 32)
    (hmax : max < length) {stream : List Bytes}
    (hstream : stream.flatten =
      ([List.replicate length 0, List.replicate length 0].map frame).flatten) :
    readFrames max 2 stream = [FrameRead.oversized, FrameRead.payload []] := by
  have hlength : (List.replicate length (0 : UInt8)).length = length :=
    List.length_replicate
  rw [List.map_cons, List.flatten_cons] at hstream
  rcases readFrame_oversized hstream (hlength.symm ▸ hsize) (hlength.symm ▸ hmax) with
    ⟨left, hread, hleft⟩
  have hzeros : exists tail, left.flatten = frame [] ++ tail := by
    have hempty : frame [] = [0, 0, 0, 0] := by decide
    rw [hempty, hleft]
    by_cases hfour : 4 ≤ length
    · rcases Nat.exists_eq_add_of_le hfour with ⟨more, rfl⟩
      rw [List.replicate_add, List.append_assoc]
      exact ⟨_, rfl⟩
    · -- a shorter payload is completed by the header that follows it
      interval_cases length
      · exact absurd hmax (Nat.not_lt_zero max)
      · exact ⟨_, rfl⟩
      · exact ⟨_, rfl⟩
      · exact ⟨_, rfl⟩
  rcases hzeros with ⟨tail, htail⟩
  rcases readFrame_frame htail (by decide) (Nat.zero_le max) with ⟨last, hlast, _⟩
  unfold readFrames readFrames readFrames
  rw [hread]
  dsimp only
  rw [hlast]

end Runs

section Reads

variable {n max : Nat} {stream left : List Bytes} {bytes : Bytes}

theorem readExact_eq_some (h : readExact n stream = (some bytes, left)) :
    bytes.length = n ∧ stream.flatten = bytes ++ left.flatten := by
  induction stream generalizing n bytes with
  | nil =>
      unfold readExact at h
      by_cases hzero : n = 0
      · rw [if_pos hzero] at h
        cases h
        exact ⟨hzero.symm, rfl⟩
      · rw [if_neg hzero] at h
        cases h
  | cons chunk rest ih =>
      unfold readExact at h
      by_cases hzero : n = 0
      · rw [if_pos hzero] at h
        cases h
        exact ⟨hzero.symm, rfl⟩
      · rw [if_neg hzero] at h
        by_cases hshort : n < chunk.length
        · rw [if_pos hshort] at h
          cases h
          refine ⟨List.length_take_of_le (Nat.le_of_lt hshort), ?_⟩
          rw [List.flatten_cons, List.flatten_cons, ← List.append_assoc,
            List.take_append_drop]
        · rw [if_neg hshort] at h
          rcases hmore : readExact (n - chunk.length) rest with ⟨_ | more, last⟩
          · rw [hmore] at h
            cases h
          · rw [hmore] at h
            cases h
            rcases ih hmore with ⟨hlength, hrest⟩
            rw [List.length_append, hlength, List.flatten_cons, hrest,
              List.append_assoc]
            exact ⟨Nat.add_sub_of_le (Nat.not_lt.mp hshort), rfl⟩

theorem toBeBytes_fromBeBytes {header : Bytes} (h : header.length = 4) :
    toBeBytes (fromBeBytes header) = header := by
  match header, h with
  | [a, b, c, d], _ =>
      have ha := a.toNat_lt
      have hb := b.toNat_lt
      have hc := c.toNat_lt
      have hd := d.toNat_lt
      have hsum : fromBeBytes [a, b, c, d] =
          a.toNat * 2 ^ 24 + b.toNat * 2 ^ 16 + c.toNat * 2 ^ 8 + d.toNat := by
        simp only [fromBeBytes, List.foldl_cons, List.foldl_nil]
        omega
      have hbyte : forall (x : UInt8) (k : Nat), k % 256 = x.toNat ->
          UInt8.ofNat k = x := by
        intro x k hk
        apply UInt8.toNat_inj.mp
        rw [UInt8.toNat_ofNat']
        exact hk
      rw [hsum]
      unfold toBeBytes
      rw [hbyte a _ (by omega), hbyte b _ (by omega), hbyte c _ (by omega),
        hbyte d _ (by omega)]

/-- A payload that is read is within the bound and stands in its frame. -/
theorem readFrame_payload
    (h : readFrame max stream = (FrameRead.payload bytes, left)) :
    bytes.length ≤ max ∧ stream.flatten = frame bytes ++ left.flatten := by
  unfold readFrame at h
  rcases hheader : readExact 4 stream with ⟨_ | header, rest⟩
  · rw [hheader] at h
    cases h
  · rw [hheader] at h
    dsimp only at h
    by_cases hmax : fromBeBytes header > max
    · rw [if_pos hmax] at h
      cases h
    · rw [if_neg hmax] at h
      rcases hbody : readExact (fromBeBytes header) rest with ⟨_ | body, last⟩
      · rw [hbody] at h
        cases h
      · rw [hbody] at h
        cases h
        rcases readExact_eq_some hheader with ⟨hfour, hstream⟩
        rcases readExact_eq_some hbody with ⟨hlength, hrest⟩
        refine ⟨hlength ▸ Nat.not_lt.mp hmax, ?_⟩
        unfold frame
        rw [hlength, toBeBytes_fromBeBytes hfour, hstream, hrest,
          List.append_assoc]

end Reads

end Frames
end Foundation
end Pubky2Pubky
