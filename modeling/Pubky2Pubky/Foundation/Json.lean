import Mathlib.Data.List.Basic
import Mathlib.Data.Nat.Digits.Defs

/-!
# Compact JSON text

The JSON values that derived serializers produce, their compact text, and the
number of UTF-8 bytes of that text. Object fields keep the order in which the
serializer visits them.
-/

namespace Pubky2Pubky
namespace Foundation

abbrev Bytes := List UInt8

/-- UTF-8 encoding of a text. -/
def utf8 (text : List Char) : Bytes :=
  text.flatMap String.utf8EncodeChar

@[simp] theorem utf8_nil : utf8 [] = [] := rfl

@[simp] theorem utf8_append (xs ys : List Char) :
    utf8 (xs ++ ys) = utf8 xs ++ utf8 ys := by
  simp [utf8]

@[simp] theorem utf8_cons_length (c : Char) (rest : List Char) :
    (utf8 (c :: rest)).length = c.utf8Size + (utf8 rest).length := by
  simp [utf8]

theorem utf8_toList_length (s : String) :
    (utf8 s.toList).length = s.utf8ByteSize := by
  have hbytes : s.toByteArray = s.toList.utf8Encode := by
    rw [← String.toByteArray_ofList, String.ofList_toList]
  rw [← String.size_toByteArray, hbytes]
  unfold utf8 List.utf8Encode
  rw [List.size_toByteArray]

inductive Json where
  | null
  | string (value : String)
  | number (value : Nat)
  | array (items : List Json)
  | object (fields : List (String × Json))

namespace Json

/-!
# Text
-/

def hexDigit (n : Nat) : Char :=
  if n < 10 then Char.ofNat (48 + n) else Char.ofNat (87 + n)

/-- One character of a string literal; only what JSON requires is escaped. -/
def escapeChar (c : Char) : List Char :=
  if c = '"' then ['\\', '"']
  else if c = '\\' then ['\\', '\\']
  else if c = '\n' then ['\\', 'n']
  else if c = '\r' then ['\\', 'r']
  else if c = '\t' then ['\\', 't']
  else if c.toNat = 8 then ['\\', 'b']
  else if c.toNat = 12 then ['\\', 'f']
  else if c.toNat < 32 then
    ['\\', 'u', '0', '0', hexDigit (c.toNat / 16), hexDigit (c.toNat % 16)]
  else [c]

def quote (s : String) : List Char :=
  '"' :: s.toList.flatMap escapeChar ++ ['"']

mutual

def render : Json -> List Char
  | null => ['n', 'u', 'l', 'l']
  | string value => quote value
  | number value => Nat.toDigits 10 value
  | array items => '[' :: renderItems items ++ [']']
  | object fields => '{' :: renderFields fields ++ ['}']

def renderItems : List Json -> List Char
  | [] => []
  | [item] => render item
  | item :: rest => render item ++ ',' :: renderItems rest

def renderFields : List (String × Json) -> List Char
  | [] => []
  | [(key, value)] => quote key ++ ':' :: render value
  | (key, value) :: rest =>
      quote key ++ ':' :: render value ++ ',' :: renderFields rest

end

/-!
# Encoded size
-/

/-- Bytes of the compact encoding. -/
def size (value : Json) : Nat :=
  (utf8 value.render).length

def quotedSize (s : String) : Nat :=
  (utf8 (quote s)).length

theorem size_string (s : String) : size (string s) = quotedSize s := by
  simp [size, render, quotedSize]

/-- Bytes of the keys of an object, with the colon and the comma of each field. -/
def keysSize (keys : List String) : Nat :=
  (keys.map fun key => quotedSize key + 2).sum

/-- Bytes of the values of an object. -/
def valuesSize (fields : List (String × Json)) : Nat :=
  (fields.map fun field => size field.2).sum

@[simp] theorem valuesSize_nil : valuesSize [] = 0 := rfl

@[simp] theorem valuesSize_cons (key : String) (value : Json)
    (rest : List (String × Json)) :
    valuesSize ((key, value) :: rest) = size value + valuesSize rest := by
  simp [valuesSize]

theorem renderFields_length_le (fields : List (String × Json)) :
    (utf8 (renderFields fields)).length ≤
      keysSize (fields.map Prod.fst) + valuesSize fields := by
  induction fields with
  | nil =>
      simp [renderFields, keysSize]
  | cons field rest ih =>
      rcases field with ⟨key, value⟩
      have hcolon : (':' : Char).utf8Size = 1 := by decide
      have hcomma : (',' : Char).utf8Size = 1 := by decide
      have hkeys : keysSize (((key, value) :: rest).map Prod.fst) =
          quotedSize key + 2 + keysSize (rest.map Prod.fst) := by
        simp [keysSize]
      rw [hkeys, valuesSize_cons]
      cases rest with
      | nil =>
          simp only [renderFields, utf8_append, List.length_append,
            utf8_cons_length, hcolon, quotedSize, size]
          omega
      | cons next more =>
          simp only [renderFields, utf8_append, List.length_append,
            utf8_cons_length, hcolon, hcomma, quotedSize, size] at ih ⊢
          omega

theorem size_object_le (fields : List (String × Json)) :
    size (object fields) ≤
      keysSize (fields.map Prod.fst) + valuesSize fields + 2 := by
  have hopen : ('{' : Char).utf8Size = 1 := by decide
  have hclose : ('}' : Char).utf8Size = 1 := by decide
  have hfields := renderFields_length_le fields
  simp only [size, render, List.cons_append, utf8_cons_length, utf8_append,
    List.length_append, utf8_nil, List.length_nil, hopen, hclose]
  omega

theorem renderItems_length_le {items : List Json} {bound : Nat}
    (h : forall item, item ∈ items -> size item ≤ bound) :
    (utf8 (renderItems items)).length ≤ items.length * (bound + 1) := by
  induction items with
  | nil =>
      simp [renderItems]
  | cons item rest ih =>
      have hcomma : (',' : Char).utf8Size = 1 := by decide
      have hitem : (utf8 item.render).length ≤ bound := h item List.mem_cons_self
      have hrest := ih fun other hother => h other (List.mem_cons_of_mem _ hother)
      rw [List.length_cons, Nat.succ_mul]
      cases rest with
      | nil =>
          simp only [renderItems]
          omega
      | cons next more =>
          simp only [renderItems, utf8_append, List.length_append,
            utf8_cons_length, hcomma] at hrest ⊢
          omega

theorem size_array_le {items : List Json} {bound : Nat}
    (h : forall item, item ∈ items -> size item ≤ bound) :
    size (array items) ≤ items.length * (bound + 1) + 2 := by
  have hopen : ('[' : Char).utf8Size = 1 := by decide
  have hclose : (']' : Char).utf8Size = 1 := by decide
  have hitems := renderItems_length_le h
  simp only [size, render, List.cons_append, utf8_cons_length, utf8_append,
    List.length_append, utf8_nil, List.length_nil, hopen, hclose]
  omega

/-!
# Sizes of strings and numbers

An escape doubles a character at most, unless the character is a control
character. Text that needs no escape has one byte a character.
-/

/-- Printable ASCII other than the two characters that are escaped. -/
def plainChar (c : Char) : Bool :=
  decide (32 ≤ c.toNat) && decide (c.toNat < 127) && c != '"' && c != '\\'

theorem utf8Size_of_ascii {c : Char} (h : c.toNat < 128) : c.utf8Size = 1 := by
  rw [Char.utf8Size_eq_one_iff, UInt32.le_iff_toNat_le]
  exact Nat.le_of_lt_succ h

/-- Besides the quotation mark and the backslash, only controls are escaped. -/
theorem escapeChar_of_printable {c : Char} (h : 32 ≤ c.toNat)
    (hquote : c ≠ '"') (hslash : c ≠ '\\') : escapeChar c = [c] := by
  have hcontrol : forall d : Char, d.toNat < 32 -> c ≠ d := by
    intro d hd heq
    rw [heq] at h
    omega
  unfold escapeChar
  rw [if_neg hquote, if_neg hslash, if_neg (hcontrol '\n' (by decide)),
    if_neg (hcontrol '\r' (by decide)), if_neg (hcontrol '\t' (by decide)),
    if_neg (by omega), if_neg (by omega), if_neg (by omega)]

theorem escapeChar_size_le {c : Char} (h : 32 ≤ c.toNat) :
    (utf8 (escapeChar c)).length ≤ 2 * c.utf8Size := by
  by_cases hquote : c = '"'
  · subst c
    decide
  by_cases hslash : c = '\\'
  · subst c
    decide
  rw [escapeChar_of_printable h hquote hslash, utf8_cons_length, utf8_nil,
    List.length_nil]
  omega

theorem quotedSize_eq (s : String) :
    quotedSize s = (utf8 (s.toList.flatMap escapeChar)).length + 2 := by
  have hquote : ('"' : Char).utf8Size = 1 := by decide
  simp only [quotedSize, quote, List.cons_append, utf8_cons_length, utf8_append,
    List.length_append, utf8_nil, List.length_nil, hquote]
  omega

theorem escaped_length_plain {text : List Char}
    (h : text.all plainChar = true) :
    (utf8 (text.flatMap escapeChar)).length = text.length := by
  induction text with
  | nil =>
      rfl
  | cons c rest ih =>
      simp only [List.all_cons, Bool.and_eq_true] at h
      rcases h with ⟨hc, hrest⟩
      simp only [plainChar, Bool.and_eq_true, decide_eq_true_eq,
        bne_iff_ne] at hc
      rcases hc with ⟨⟨⟨hlow, hhigh⟩, hquote⟩, hslash⟩
      rw [List.flatMap_cons, escapeChar_of_printable hlow hquote hslash,
        utf8_append, List.length_append, ih hrest, utf8_cons_length,
        utf8Size_of_ascii (by omega), utf8_nil, List.length_nil,
        List.length_cons]
      omega

theorem escaped_length_le {text : List Char}
    (h : forall c, c ∈ text -> 32 ≤ c.toNat) :
    (utf8 (text.flatMap escapeChar)).length ≤ 2 * (utf8 text).length := by
  induction text with
  | nil =>
      exact Nat.le_refl 0
  | cons c rest ih =>
      have hc := escapeChar_size_le (h c List.mem_cons_self)
      have hrest := ih fun d hd => h d (List.mem_cons_of_mem c hd)
      rw [List.flatMap_cons, utf8_append, List.length_append, utf8_cons_length]
      omega

theorem quotedSize_plain {s : String} (h : s.toList.all plainChar = true) :
    quotedSize s = s.toList.length + 2 := by
  rw [quotedSize_eq, escaped_length_plain h]

theorem quotedSize_le {s : String} (h : forall c, c ∈ s.toList -> 32 ≤ c.toNat) :
    quotedSize s ≤ 2 * s.utf8ByteSize + 2 := by
  have hescaped := escaped_length_le h
  rw [utf8_toList_length] at hescaped
  rw [quotedSize_eq]
  omega

theorem utf8_length_ascii {text : List Char}
    (h : forall c, c ∈ text -> c.toNat < 128) :
    (utf8 text).length = text.length := by
  induction text with
  | nil =>
      rfl
  | cons c rest ih =>
      rw [utf8_cons_length, utf8Size_of_ascii (h c List.mem_cons_self),
        ih fun d hd => h d (List.mem_cons_of_mem c hd), List.length_cons]
      omega

theorem size_number_le {n digits : Nat} (hpos : 0 < digits)
    (h : n < 10 ^ digits) : size (number n) ≤ digits := by
  have hascii : forall c, c ∈ Nat.toDigits 10 n -> c.toNat < 128 := by
    intro c hc
    have hdigit : c.isDigit = true :=
      Nat.isDigit_of_mem_toDigits (by decide) (by decide) hc
    simp only [Char.isDigit, Bool.and_eq_true, decide_eq_true_eq,
      UInt32.le_iff_toNat_le] at hdigit
    have hnine : ('9' : Char).val.toNat = 57 := by decide
    change c.val.toNat < 128
    omega
  unfold size render
  rw [utf8_length_ascii hascii]
  exact Nat.toDigits_length 10 n digits hpos h

end Json

end Foundation
end Pubky2Pubky
