import Mathlib.Data.List.Basic

/-!
# UTF-16 text

Scripts keep texts as lists of 16-bit code units, in which a surrogate may stand
alone. Converting such a list to Unicode text joins the surrogates that form
pairs and replaces the others.
-/

namespace Pubky2Pubky
namespace Foundation

abbrev Utf16 := List UInt16

namespace Utf16

def replacement : Char :=
  Char.ofNat 0xfffd

def isHigh (unit : UInt16) : Bool :=
  decide (0xd800 ≤ unit.toNat) && decide (unit.toNat < 0xdc00)

def isLow (unit : UInt16) : Bool :=
  decide (0xdc00 ≤ unit.toNat) && decide (unit.toNat < 0xe000)

/-- The character of a surrogate pair. -/
def join (high low : UInt16) : Char :=
  Char.ofNat
    (0x10000 + (high.toNat - 0xd800) * 0x400 + (low.toNat - 0xdc00))

def decode : Utf16 -> List Char
  | [] => []
  | [unit] =>
      if isHigh unit || isLow unit then [replacement]
      else [Char.ofNat unit.toNat]
  | unit :: next :: rest =>
      if isHigh unit then
        if isLow next then join unit next :: decode rest
        else replacement :: decode (next :: rest)
      else if isLow unit then replacement :: decode (next :: rest)
      else Char.ofNat unit.toNat :: decode (next :: rest)

def toText (units : Utf16) : String :=
  String.ofList (decode units)

/-- The code units of a text in the basic plane. -/
def ofText (text : String) : Utf16 :=
  text.toList.map fun c => UInt16.ofNat c.toNat

/-!
# Characters of converted text
-/

/-- Where a character of a converted text comes from. -/
inductive Source (units : Utf16) (c : Char) : Prop where
  | unit (unit : UInt16) : unit ∈ units -> c.toNat = unit.toNat -> Source units c
  | replaced : c = replacement -> Source units c
  | pair : 0x10000 ≤ c.toNat -> Source units c

theorem Source.mono {units more : Utf16} {c : Char} (h : Source units c)
    (hsub : forall unit, unit ∈ units -> unit ∈ more) : Source more c := by
  cases h with
  | unit unit hmem heq => exact Source.unit unit (hsub unit hmem) heq
  | replaced heq => exact Source.replaced heq
  | pair hbound => exact Source.pair hbound

theorem toNat_ofNat_unit {unit : UInt16} (hhigh : isHigh unit = false)
    (hlow : isLow unit = false) : (Char.ofNat unit.toNat).toNat = unit.toNat := by
  have hbound := UInt16.toNat_lt unit
  unfold isHigh at hhigh
  unfold isLow at hlow
  simp only [Bool.and_eq_false_iff, decide_eq_false_iff_not] at hhigh hlow
  have hvalid : unit.toNat.isValidChar := by
    unfold Nat.isValidChar
    omega
  unfold Char.ofNat
  rw [dif_pos hvalid]
  rfl

theorem le_toNat_join {high low : UInt16} (hhigh : isHigh high = true)
    (hlow : isLow low = true) : 0x10000 ≤ (join high low).toNat := by
  unfold isHigh at hhigh
  unfold isLow at hlow
  simp only [Bool.and_eq_true, decide_eq_true_eq] at hhigh hlow
  have hvalid : (0x10000 + (high.toNat - 0xd800) * 0x400 +
      (low.toNat - 0xdc00)).isValidChar := by
    unfold Nat.isValidChar
    omega
  unfold join Char.ofNat
  rw [dif_pos hvalid]
  change 0x10000 ≤ 0x10000 + (high.toNat - 0xd800) * 0x400 +
    (low.toNat - 0xdc00)
  omega

theorem source_of_mem_decode (units : Utf16) :
    forall c, c ∈ decode units -> Source units c := by
  induction units using decode.induct with
  | case1 =>
      intro c hc
      cases hc
  | case2 unit hsurrogate =>
      intro c hc
      unfold decode at hc
      rw [if_pos hsurrogate, List.mem_singleton] at hc
      exact Source.replaced hc
  | case3 unit hplain =>
      intro c hc
      unfold decode at hc
      rw [if_neg hplain, List.mem_singleton] at hc
      simp only [Bool.or_eq_true, not_or, Bool.not_eq_true] at hplain
      refine Source.unit unit List.mem_cons_self ?_
      rw [hc]
      exact toNat_ofNat_unit hplain.left hplain.right
  | case4 unit next rest hhigh hlow ih =>
      intro c hc
      unfold decode at hc
      rw [if_pos hhigh, if_pos hlow] at hc
      rcases List.mem_cons.mp hc with heq | hc
      · have hbound := le_toNat_join hhigh hlow
        rw [← heq] at hbound
        exact Source.pair hbound
      · exact (ih c hc).mono fun found hfound =>
          List.mem_cons_of_mem _ (List.mem_cons_of_mem _ hfound)
  | case5 unit next rest hhigh hnot ih =>
      intro c hc
      unfold decode at hc
      rw [if_pos hhigh, if_neg hnot] at hc
      rcases List.mem_cons.mp hc with rfl | hc
      · exact Source.replaced rfl
      · exact (ih c hc).mono fun found hfound => List.mem_cons_of_mem _ hfound
  | case6 unit next rest hnot hlow ih =>
      intro c hc
      unfold decode at hc
      rw [if_neg hnot, if_pos hlow] at hc
      rcases List.mem_cons.mp hc with rfl | hc
      · exact Source.replaced rfl
      · exact (ih c hc).mono fun found hfound => List.mem_cons_of_mem _ hfound
  | case7 unit next rest hhigh hlow ih =>
      intro c hc
      unfold decode at hc
      rw [if_neg hhigh, if_neg hlow] at hc
      rcases List.mem_cons.mp hc with rfl | hc
      · exact Source.unit unit List.mem_cons_self
          (toNat_ofNat_unit (Bool.not_eq_true _ ▸ hhigh)
            (Bool.not_eq_true _ ▸ hlow))
      · exact (ih c hc).mono fun found hfound => List.mem_cons_of_mem _ hfound

theorem decode_eq_nil {units : Utf16} : decode units = [] <-> units = [] := by
  constructor
  · intro h
    induction units using decode.induct with
    | case1 => rfl
    | case2 unit hsurrogate =>
        unfold decode at h
        rw [if_pos hsurrogate] at h
        cases h
    | case3 unit hplain =>
        unfold decode at h
        rw [if_neg hplain] at h
        cases h
    | case4 unit next rest hhigh hlow ih =>
        unfold decode at h
        rw [if_pos hhigh, if_pos hlow] at h
        cases h
    | case5 unit next rest hhigh hnot ih =>
        unfold decode at h
        rw [if_pos hhigh, if_neg hnot] at h
        cases h
    | case6 unit next rest hnot hlow ih =>
        unfold decode at h
        rw [if_neg hnot, if_pos hlow] at h
        cases h
    | case7 unit next rest hhigh hlow ih =>
        unfold decode at h
        rw [if_neg hhigh, if_neg hlow] at h
        cases h
  · intro h
    rw [h]
    rfl

/-- A mark that no unit has, and no other character can have, is nowhere. -/
theorem not_mark_of_units {units : Utf16} {mark : Nat -> Bool}
    (hunits : units.any (fun unit => mark unit.toNat) = false)
    (hreplaced : mark replacement.toNat = false)
    (hpair : forall n, 0x10000 ≤ n -> mark n = false) :
    forall c, c ∈ (toText units).toList -> mark c.toNat = false := by
  intro c hc
  unfold toText at hc
  rw [String.toList_ofList] at hc
  cases source_of_mem_decode units c hc with
  | unit unit hmem heq =>
      rw [heq]
      exact Bool.not_eq_true _ ▸ List.any_eq_false.mp hunits unit hmem
  | replaced heq =>
      rw [heq]
      exact hreplaced
  | pair hbound => exact hpair _ hbound

/-- A converted text is empty only when there was nothing to convert. -/
theorem toText_eq_empty {units : Utf16} : toText units = "" <-> units = [] := by
  unfold toText
  rw [← decode_eq_nil]
  constructor
  · intro h
    have hlist := congrArg String.toList h
    rw [String.toList_ofList] at hlist
    exact hlist
  · intro h
    rw [h]

end Utf16

end Foundation
end Pubky2Pubky
