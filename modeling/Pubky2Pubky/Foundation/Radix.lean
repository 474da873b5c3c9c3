import Mathlib.Data.List.GetD
import Mathlib.Data.List.Induction
import Pubky2Pubky.Foundation.Json

/-!
# Radix encodings of bytes

A byte string is read as one string of bits, most significant bit first, and cut
into groups of a fixed width. Each group selects one character of an alphabet.
The last group is padded with zero bits.
-/

namespace Pubky2Pubky
namespace Foundation
namespace Radix

/-!
# Bits and values
-/

def valueOf : List Bool -> Nat :=
  List.foldl (fun value bit => 2 * value + bit.toNat) 0

/-- The bits of a value, most significant first. -/
def bitsOf : Nat -> Nat -> List Bool
  | 0, _ => []
  | width + 1, value => bitsOf width (value / 2) ++ [value % 2 == 1]

@[simp] theorem bitsOf_length (width value : Nat) :
    (bitsOf width value).length = width := by
  induction width generalizing value with
  | zero =>
      rfl
  | succ width ih =>
      simp [bitsOf, ih]

theorem valueOf_append (bits : List Bool) (bit : Bool) :
    valueOf (bits ++ [bit]) = 2 * valueOf bits + bit.toNat := by
  simp [valueOf]

theorem bitsOf_valueOf (bits : List Bool) :
    bitsOf bits.length (valueOf bits) = bits := by
  induction bits using List.reverseRecOn with
  | nil =>
      rfl
  | append_singleton bits bit ih =>
      rw [valueOf_append, List.length_append, List.length_singleton, bitsOf]
      have hhalf : (2 * valueOf bits + bit.toNat) / 2 = valueOf bits := by
        cases bit with
        | false =>
            simp
        | true =>
            simp only [Bool.toNat_true]
            omega
      have hlast : ((2 * valueOf bits + bit.toNat) % 2 == 1) = bit := by
        cases bit with
        | false =>
            simp
        | true =>
            simp only [Bool.toNat_true, beq_iff_eq]
            omega
      rw [hhalf, hlast, ih]

theorem valueOf_lt (bits : List Bool) : valueOf bits < 2 ^ bits.length := by
  induction bits using List.reverseRecOn with
  | nil =>
      decide
  | append_singleton bits bit ih =>
      have hbit : bit.toNat ≤ 1 := Bool.toNat_le bit
      rw [valueOf_append, List.length_append, List.length_singleton,
        Nat.pow_succ]
      omega

theorem valueOf_bitsOf (width value : Nat) :
    valueOf (bitsOf width value) = value % 2 ^ width := by
  induction width generalizing value with
  | zero =>
      simp [bitsOf, valueOf, Nat.mod_one]
  | succ width ih =>
      have hlast : (value % 2 == 1).toNat = value % 2 := by
        rcases Nat.mod_two_eq_zero_or_one value with h | h
        · simp [h]
        · simp [h]
      rw [bitsOf, valueOf_append, ih, hlast, Nat.pow_succ, Nat.mul_comm (2 ^ width),
        Nat.mod_mul]
      omega

/-!
# Bytes
-/

def byteBits (byte : UInt8) : List Bool :=
  bitsOf 8 byte.toNat

def toBits (bytes : Bytes) : List Bool :=
  bytes.flatMap byteBits

/-- Whole bytes of a string of bits; fewer than eight remaining bits are dropped. -/
def toBytes : List Bool -> Bytes
  | a :: b :: c :: d :: e :: f :: g :: h :: rest =>
      UInt8.ofNat (valueOf [a, b, c, d, e, f, g, h]) :: toBytes rest
  | _ => []

theorem toBits_length (bytes : Bytes) : (toBits bytes).length = 8 * bytes.length := by
  induction bytes with
  | nil =>
      rfl
  | cons byte rest ih =>
      have hcons : toBits (byte :: rest) = byteBits byte ++ toBits rest := rfl
      rw [hcons, List.length_append, ih, byteBits, bitsOf_length,
        List.length_cons]
      omega

theorem toBytes_byteBits (byte : UInt8) (rest : List Bool) :
    toBytes (byteBits byte ++ rest) = byte :: toBytes rest := by
  have hvalue : valueOf (byteBits byte) = byte.toNat := by
    rw [byteBits, valueOf_bitsOf, Nat.mod_eq_of_lt byte.toNat_lt]
  have hlength : (byteBits byte).length = 8 := bitsOf_length 8 byte.toNat
  match hbits : byteBits byte, hlength with
  | [a, b, c, d, e, f, g, h], _ =>
      rw [hbits] at hvalue
      simp only [List.cons_append, List.nil_append, toBytes, hvalue,
        UInt8.ofNat_toNat]

theorem toBytes_short {bits : List Bool} (h : bits.length < 8) :
    toBytes bits = [] := by
  match bits, h with
  | [], _ | [_], _ | [_, _], _ | [_, _, _], _ | [_, _, _, _], _
  | [_, _, _, _, _], _ | [_, _, _, _, _, _], _ | [_, _, _, _, _, _, _], _ =>
      rfl

theorem toBytes_toBits (bytes : Bytes) {extra : List Bool}
    (h : extra.length < 8) : toBytes (toBits bytes ++ extra) = bytes := by
  induction bytes with
  | nil =>
      exact toBytes_short h
  | cons byte rest ih =>
      have hcons : toBits (byte :: rest) = byteBits byte ++ toBits rest := rfl
      rw [hcons, List.append_assoc, toBytes_byteBits, ih]

/-!
# Groups of a fixed width
-/

/-- Groups of `n + 1` bits. -/
def groups (n : Nat) : List Bool -> List (List Bool)
  | [] => []
  | bit :: rest =>
      let group := bit :: rest.take n
      (group ++ List.replicate (n + 1 - group.length) false) ::
        groups n (rest.drop n)
  termination_by bits => bits.length

theorem groups_width (n : Nat) (bits : List Bool) :
    forall group, group ∈ groups n bits -> group.length = n + 1 := by
  induction bits using groups.induct (n := n) with
  | case1 =>
      simp [groups]
  | case2 bit rest ih =>
      intro group hgroup
      rw [groups, List.mem_cons] at hgroup
      rcases hgroup with rfl | hgroup
      · simp only [List.length_append, List.length_cons, List.length_take,
          List.length_replicate]
        omega
      · exact ih group hgroup

theorem groups_length (n : Nat) (bits : List Bool) :
    (groups n bits).length = (bits.length + n) / (n + 1) := by
  induction bits using groups.induct (n := n) with
  | case1 =>
      simp [groups, Nat.div_eq_of_lt]
  | case2 bit rest ih =>
      rw [groups, List.length_cons, ih, List.length_drop, List.length_cons]
      by_cases hshort : rest.length ≤ n
      · rw [Nat.sub_eq_zero_of_le hshort, Nat.zero_add,
          Nat.div_eq_of_lt (Nat.lt_succ_self n)]
        have hone : (rest.length + 1 + n) / (n + 1) = 1 := by
          apply Nat.div_eq_of_lt_le
          · omega
          · omega
        rw [hone]
      · have hsplit : rest.length + 1 + n =
            (rest.length - n + n) + (n + 1) := by
          omega
        rw [hsplit, Nat.add_div_right _ (Nat.succ_pos n)]

/-- Joining the groups restores the bits, followed by at most `n` padding bits. -/
theorem groups_flatten (n : Nat) (bits : List Bool) :
    exists padding : List Bool, padding.length ≤ n ∧
      (groups n bits).flatten = bits ++ padding := by
  induction bits using groups.induct (n := n) with
  | case1 =>
      exact ⟨[], Nat.zero_le n, by simp [groups]⟩
  | case2 bit rest ih =>
      rcases ih with ⟨padding, hlength, hflatten⟩
      rw [groups, List.flatten_cons, hflatten]
      by_cases hshort : rest.length ≤ n
      · have hdrop : rest.drop n = [] := List.drop_eq_nil_of_le hshort
        have hnone : (groups n (rest.drop n)).flatten = [] := by
          rw [hdrop]
          simp [groups]
        have hpadding : rest.drop n ++ padding = [] := by
          rw [← hflatten, hnone]
        rw [hpadding, List.append_nil, List.take_of_length_le hshort]
        refine ⟨_, ?_, rfl⟩
        simp only [List.length_replicate, List.length_cons]
        omega
      · have hfull : n + 1 - (bit :: rest.take n).length = 0 := by
          simp only [List.length_cons, List.length_take]
          omega
        refine ⟨padding, hlength, ?_⟩
        rw [hfull, List.replicate_zero, List.append_nil, List.cons_append,
          ← List.append_assoc, List.take_append_drop, List.cons_append]

/-!
# Alphabets
-/

/-- One character for each group of bits of the given width. -/
structure Alphabet (width : Nat) where
  chars : List Char
  size : chars.length = 2 ^ width
  nodup : chars.Nodup

namespace Alphabet

variable {n : Nat}

def symbol (A : Alphabet (n + 1)) (value : Nat) : Char :=
  A.chars.getD value ' '

def index (A : Alphabet (n + 1)) (c : Char) : Option Nat :=
  if A.chars.idxOf c < A.chars.length then some (A.chars.idxOf c) else none

def encode (A : Alphabet (n + 1)) (bytes : Bytes) : List Char :=
  (groups n (toBits bytes)).map fun group => A.symbol (valueOf group)

/-- Only the exact encoding of the bytes it stands for is accepted. -/
def decode (A : Alphabet (n + 1)) (text : List Char) : Option Bytes :=
  match text.mapM A.index with
  | none => none
  | some values =>
      let bytes := toBytes (values.flatMap (bitsOf (n + 1)))
      if A.encode bytes = text then some bytes else none

theorem symbol_mem (A : Alphabet (n + 1)) {value : Nat}
    (h : value < 2 ^ (n + 1)) : A.symbol value ∈ A.chars := by
  rw [← A.size] at h
  unfold symbol
  rw [List.getD_eq_getElem _ _ h]
  exact List.getElem_mem h

theorem index_symbol (A : Alphabet (n + 1)) {value : Nat}
    (h : value < 2 ^ (n + 1)) : A.index (A.symbol value) = some value := by
  rw [← A.size] at h
  unfold index symbol
  rw [List.getD_eq_getElem _ _ h, A.nodup.idxOf_getElem value h, if_pos h]

theorem encode_length (A : Alphabet (n + 1)) (bytes : Bytes) :
    (A.encode bytes).length = (8 * bytes.length + n) / (n + 1) := by
  unfold encode
  rw [List.length_map, groups_length, toBits_length]

theorem mem_of_mem_encode (A : Alphabet (n + 1)) {bytes : Bytes} {c : Char}
    (h : c ∈ A.encode bytes) : c ∈ A.chars := by
  unfold encode at h
  rw [List.mem_map] at h
  rcases h with ⟨group, hgroup, rfl⟩
  apply A.symbol_mem
  rw [← groups_width n _ group hgroup]
  exact valueOf_lt group

/-- Reading the characters of an encoding restores the groups of bits. -/
theorem mapM_index_encode (A : Alphabet (n + 1)) (bytes : Bytes) :
    (A.encode bytes).mapM A.index =
      some ((groups n (toBits bytes)).map valueOf) := by
  have hwidth := groups_width n (toBits bytes)
  unfold encode
  generalize groups n (toBits bytes) = parts at hwidth
  induction parts with
  | nil =>
      rfl
  | cons group rest ih =>
      have hlt : valueOf group < 2 ^ (n + 1) := by
        rw [← hwidth group List.mem_cons_self]
        exact valueOf_lt group
      have hrest := ih fun other hother =>
        hwidth other (List.mem_cons_of_mem group hother)
      rw [List.map_cons, List.mapM_cons, A.index_symbol hlt, hrest]
      rfl

theorem flatMap_bitsOf_values (bytes : Bytes) :
    ((groups n (toBits bytes)).map valueOf).flatMap (bitsOf (n + 1)) =
      (groups n (toBits bytes)).flatten := by
  have hwidth := groups_width n (toBits bytes)
  generalize groups n (toBits bytes) = parts at hwidth
  induction parts with
  | nil =>
      rfl
  | cons group rest ih =>
      have hgroup : bitsOf (n + 1) (valueOf group) = group := by
        rw [← hwidth group List.mem_cons_self]
        exact bitsOf_valueOf group
      rw [List.map_cons, List.flatMap_cons, List.flatten_cons, hgroup,
        ih fun other hother => hwidth other (List.mem_cons_of_mem group hother)]

/-- Decoding inverts encoding as long as the padding is shorter than a byte. -/
theorem decode_encode (A : Alphabet (n + 1)) (hn : n < 8) (bytes : Bytes) :
    A.decode (A.encode bytes) = some bytes := by
  rcases groups_flatten n (toBits bytes) with ⟨padding, hlength, hflatten⟩
  have hbytes : toBytes (((groups n (toBits bytes)).map valueOf).flatMap
      (bitsOf (n + 1))) = bytes := by
    rw [flatMap_bitsOf_values, hflatten]
    exact toBytes_toBits bytes (Nat.lt_of_le_of_lt hlength hn)
  unfold decode
  rw [A.mapM_index_encode]
  simp only [hbytes, if_true]

end Alphabet

end Radix
end Foundation
end Pubky2Pubky
