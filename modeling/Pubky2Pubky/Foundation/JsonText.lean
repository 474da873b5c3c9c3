import Pubky2Pubky.Foundation.Json

/-!
# Texts of the JSON writer

A left inverse of the writer: it takes back the tokens and the escapes that the
writer emits, so two values with one text are equal. It stands for no reader of a
JSON package.
-/

namespace Pubky2Pubky
namespace Foundation

namespace Json

/-!
# Tokens
-/

def hexValue (c : Char) : Option Nat :=
  if '0' ≤ c ∧ c ≤ '9' then some (c.toNat - 48)
  else if 'a' ≤ c ∧ c ≤ 'f' then some (c.toNat - 87)
  else none

/-- The control character of a long escape. -/
def controlOf (a b : Char) : Option Char := do
  let a <- hexValue a
  let b <- hexValue b
  some (Char.ofNat (16 * a + b))

def unescape (c : Char) : Option Char :=
  if c = '"' ∨ c = '\\' then some c
  else if c = 'b' then some (Char.ofNat 8)
  else if c = 'f' then some (Char.ofNat 12)
  else if c = 'n' then some '\n'
  else if c = 'r' then some '\r'
  else if c = 't' then some '\t'
  else none

/-- The rest of a string literal and the text after it. -/
def readString : List Char -> Option (List Char × List Char)
  | [] => none
  | c :: rest =>
      if c = '"' then some ([], rest)
      else if c = '\\' then
        match rest with
        | [] => none
        | e :: more =>
            if e = 'u' then
              match more with
              | '0' :: '0' :: a :: b :: tail => do
                  let c <- controlOf a b
                  let (text, left) <- readString tail
                  some (c :: text, left)
              | _ => none
            else do
              let c <- unescape e
              let (text, left) <- readString more
              some (c :: text, left)
      else if c.toNat < 32 then none
      else do
        let (text, left) <- readString rest
        some (c :: text, left)

/-- A decimal number without a leading zero. -/
def readNumber (text : List Char) : Option (Nat × List Char) :=
  let digits := text.takeWhile Char.isDigit
  let value := Nat.ofDigitChars 10 digits 0
  if digits = Nat.toDigits 10 value then some (value, text.dropWhile Char.isDigit)
  else none

/-!
# Values

Every call reads at least one token, so the length of the text bounds the calls.
-/

mutual

def readValue : Nat -> List Char -> Option (Json × List Char)
  | 0, _ => none
  | fuel + 1, text =>
      match text with
      | [] => none
      | c :: rest =>
          if c = '"' then do
            let (value, left) <- readString rest
            some (string (String.ofList value), left)
          else if c = '[' then
            match rest with
            | ']' :: left => some (array [], left)
            | _ => do
                let (items, left) <- readItems fuel rest
                some (array items, left)
          else if c = '{' then
            match rest with
            | '}' :: left => some (object [], left)
            | _ => do
                let (fields, left) <- readFields fuel rest
                some (object fields, left)
          else if c = 'n' then
            match rest with
            | 'u' :: 'l' :: 'l' :: left => some (null, left)
            | _ => none
          else do
            let (value, left) <- readNumber (c :: rest)
            some (number value, left)

/-- The items of an array up to its closing bracket. -/
def readItems : Nat -> List Char -> Option (List Json × List Char)
  | 0, _ => none
  | fuel + 1, text => do
      let (item, rest) <- readValue fuel text
      match rest with
      | ']' :: left => some ([item], left)
      | ',' :: more => do
          let (items, left) <- readItems fuel more
          some (item :: items, left)
      | _ => none

/-- The fields of an object up to its closing brace. -/
def readFields : Nat -> List Char -> Option (List (String × Json) × List Char)
  | 0, _ => none
  | fuel + 1, text =>
      match text with
      | '"' :: begun => do
          let (key, rest) <- readString begun
          match rest with
          | ':' :: valued => do
              let (value, rest) <- readValue fuel valued
              match rest with
              | '}' :: left => some ([(String.ofList key, value)], left)
              | ',' :: more => do
                  let (fields, left) <- readFields fuel more
                  some ((String.ofList key, value) :: fields, left)
              | _ => none
          | _ => none
      | _ => none

end

/-- The value that the writer spells so. -/
def ofText (text : List Char) : Option Json := do
  let (value, rest) <- readValue text.length text
  if rest = [] then some value else none

/-!
# Reading back what was written
-/

theorem hexValue_hexDigit : forall n, n < 16 -> hexValue (hexDigit n) = some n := by
  decide

theorem controlOf_hexDigit {n : Nat} (h : n < 256) :
    controlOf (hexDigit (n / 16)) (hexDigit (n % 16)) = some (Char.ofNat n) := by
  have hcode : 16 * (n / 16) + n % 16 = n := by omega
  unfold controlOf
  rw [hexValue_hexDigit _ (by omega), hexValue_hexDigit _ (by omega)]
  simp only [Option.bind_eq_bind, Option.bind_some, hcode]

/-- An escape that is one character long is read as that character. -/
theorem readString_unescape {e c : Char} (rest : List Char) (hu : e ≠ 'u')
    (h : unescape e = some c) :
    readString ('\\' :: e :: rest) =
      (readString rest).map fun found => (c :: found.1, found.2) := by
  rw [readString.eq_def]
  dsimp only
  rw [if_neg (by decide), if_pos rfl]
  simp only [if_neg hu, h]
  cases readString rest with
  | none => rfl
  | some found => rfl

theorem readString_escapeChar (c : Char) (rest : List Char) :
    readString (escapeChar c ++ rest) =
      (readString rest).map fun found => (c :: found.1, found.2) := by
  by_cases hquote : c = '"'
  · subst hquote
    exact readString_unescape rest (by decide) rfl
  by_cases hslash : c = '\\'
  · subst hslash
    exact readString_unescape rest (by decide) rfl
  by_cases hline : c = '\n'
  · subst hline
    exact readString_unescape rest (by decide) rfl
  by_cases hreturn : c = '\r'
  · subst hreturn
    exact readString_unescape rest (by decide) rfl
  by_cases htab : c = '\t'
  · subst htab
    exact readString_unescape rest (by decide) rfl
  unfold escapeChar
  rw [if_neg hquote, if_neg hslash, if_neg hline, if_neg hreturn, if_neg htab]
  by_cases hback : c.toNat = 8
  · have hc : c = Char.ofNat 8 := by rw [← hback, Char.ofNat_toNat]
    rw [if_pos hback]
    exact readString_unescape rest (by decide) (hc ▸ rfl)
  by_cases hfeed : c.toNat = 12
  · have hc : c = Char.ofNat 12 := by rw [← hfeed, Char.ofNat_toNat]
    rw [if_neg hback, if_pos hfeed]
    exact readString_unescape rest (by decide) (hc ▸ rfl)
  rw [if_neg hback, if_neg hfeed]
  by_cases hcontrol : c.toNat < 32
  · have hread := controlOf_hexDigit (Nat.lt_trans hcontrol (by decide : 32 < 256))
    rw [Char.ofNat_toNat] at hread
    rw [if_pos hcontrol, List.cons_append, readString.eq_def]
    dsimp only
    rw [if_neg (by decide), if_pos rfl]
    simp only [List.cons_append, List.nil_append, if_true, hread]
    cases readString rest with
    | none => rfl
    | some found => rfl
  · rw [if_neg hcontrol, List.singleton_append, readString.eq_def]
    dsimp only
    rw [if_neg hquote, if_neg hslash, if_neg hcontrol]
    cases readString rest with
    | none => rfl
    | some found => rfl

theorem readString_quoted (text rest : List Char) :
    readString (text.flatMap escapeChar ++ '"' :: rest) = some (text, rest) := by
  induction text with
  | nil =>
      rw [List.flatMap_nil, List.nil_append, readString.eq_def]
      dsimp only
      rw [if_pos rfl]
  | cons c text ih =>
      rw [List.flatMap_cons, List.append_assoc, readString_escapeChar, ih]
      rfl

/-- A number ends where no digit follows. -/
def EndsNumber (rest : List Char) : Prop :=
  forall c, rest.head? = some c -> c.isDigit = false

theorem endsNumber_cons {c : Char} (rest : List Char) (h : c.isDigit = false) :
    EndsNumber (c :: rest) := by
  intro d hd
  rw [List.head?_cons, Option.some.injEq] at hd
  rw [← hd, h]

theorem readNumber_toDigits (n : Nat) {rest : List Char} (h : EndsNumber rest) :
    readNumber (Nat.toDigits 10 n ++ rest) = some (n, rest) := by
  have hdigits : forall c, c ∈ Nat.toDigits 10 n -> c.isDigit = true := fun c hc =>
    Nat.isDigit_of_mem_toDigits (by decide) (by decide) hc
  have htake : rest.takeWhile Char.isDigit = [] := by
    cases rest with
    | nil => rfl
    | cons c rest => rw [List.takeWhile_cons, h c rfl]; rfl
  have hdrop : rest.dropWhile Char.isDigit = rest := by
    cases rest with
    | nil => rfl
    | cons c rest => rw [List.dropWhile_cons, h c rfl]; rfl
  unfold readNumber
  dsimp only
  rw [List.takeWhile_append_of_pos hdigits, List.dropWhile_append_of_pos hdigits,
    htake, hdrop, List.append_nil, Nat.ofDigitChars_ten_toDigits, if_pos rfl]

/-- No value begins with a closing bracket. -/
theorem render_cons (value : Json) :
    exists c rest, value.render = c :: rest ∧ c ≠ ']' := by
  cases value with
  | null => exact ⟨'n', _, rfl, by decide⟩
  | string value => exact ⟨'"', _, rfl, by decide⟩
  | number value =>
      have hpos : Nat.toDigits 10 value ≠ [] := Nat.toDigits_ne_nil
      rcases List.exists_cons_of_ne_nil hpos with ⟨c, rest, htext⟩
      have hdigit : c.isDigit = true :=
        Nat.isDigit_of_mem_toDigits (by decide) (by decide)
          (htext ▸ List.mem_cons_self)
      refine ⟨c, rest, htext, ?_⟩
      rintro rfl
      cases hdigit
  | array items => exact ⟨'[', _, rfl, by decide⟩
  | object fields => exact ⟨'{', _, rfl, by decide⟩

section Steps

variable {fuel : Nat} {rest left : List Char}

theorem readValue_string (text : List Char) :
    readValue (fuel + 1) ('"' :: (text.flatMap escapeChar ++ '"' :: rest)) =
      some (string (String.ofList text), rest) := by
  rw [readValue.eq_def]
  dsimp only
  rw [if_pos rfl, readString_quoted]
  rfl

theorem readValue_array {c : Char} {items : List Json} (hclose : c ≠ ']')
    (h : readItems fuel (c :: rest) = some (items, left)) :
    readValue (fuel + 1) ('[' :: c :: rest) = some (array items, left) := by
  rw [readValue.eq_def]
  dsimp only
  rw [if_neg (by decide), if_pos rfl]
  split
  · rename_i hfound
    injection hfound with hfound
    exact absurd hfound hclose
  · rw [h]
    rfl

theorem readValue_object {fields : List (String × Json)}
    (h : readFields fuel ('"' :: rest) = some (fields, left)) :
    readValue (fuel + 1) ('{' :: '"' :: rest) = some (object fields, left) := by
  rw [readValue.eq_def]
  dsimp only
  rw [if_neg (by decide), if_neg (by decide), if_pos rfl]
  change (readFields fuel ('"' :: rest) >>= _) = _
  rw [h]
  rfl

theorem readValue_number (n : Nat) (h : EndsNumber rest) :
    readValue (fuel + 1) (Nat.toDigits 10 n ++ rest) = some (number n, rest) := by
  have hne : Nat.toDigits 10 n ≠ [] := Nat.toDigits_ne_nil
  rcases List.exists_cons_of_ne_nil hne with ⟨c, digits, htext⟩
  have hdigit : c.isDigit = true :=
    Nat.isDigit_of_mem_toDigits (by decide) (by decide) (htext ▸ List.mem_cons_self)
  have hother : forall d : Char, d.isDigit = false -> c ≠ d := by
    rintro d hd rfl
    rw [hdigit] at hd
    cases hd
  rw [readValue.eq_def, htext, List.cons_append]
  dsimp only
  rw [if_neg (hother _ (by decide)), if_neg (hother _ (by decide)),
    if_neg (hother _ (by decide)), if_neg (hother _ (by decide)),
    ← List.cons_append, ← htext, readNumber_toDigits n h]
  rfl

theorem readItems_last {text : List Char} {item : Json}
    (h : readValue fuel text = some (item, ']' :: left)) :
    readItems (fuel + 1) text = some ([item], left) := by
  rw [readItems, h]
  rfl

theorem readItems_cons {text : List Char} {item : Json} {items : List Json}
    (h : readValue fuel text = some (item, ',' :: rest))
    (hitems : readItems fuel rest = some (items, left)) :
    readItems (fuel + 1) text = some (item :: items, left) := by
  rw [readItems, h]
  change (readItems fuel rest >>= _) = _
  rw [hitems]
  rfl

theorem readFields_last {value : Json} (key text : List Char)
    (h : readValue fuel text = some (value, '}' :: left)) :
    readFields (fuel + 1) ('"' :: (key.flatMap escapeChar ++ '"' :: ':' :: text)) =
      some ([(String.ofList key, value)], left) := by
  rw [readFields]
  rw [readString_quoted]
  change (readValue fuel text >>= _) = _
  rw [h]
  rfl

theorem readFields_cons {value : Json} {fields : List (String × Json)}
    (key text : List Char) (h : readValue fuel text = some (value, ',' :: rest))
    (hfields : readFields fuel rest = some (fields, left)) :
    readFields (fuel + 1) ('"' :: (key.flatMap escapeChar ++ '"' :: ':' :: text)) =
      some ((String.ofList key, value) :: fields, left) := by
  rw [readFields]
  rw [readString_quoted]
  change (readValue fuel text >>= _) = _
  rw [h]
  change (readFields fuel rest >>= _) = _
  rw [hfields]
  rfl

end Steps

theorem quote_append (text : String) (rest : List Char) :
    quote text ++ rest = '"' :: (text.toList.flatMap escapeChar ++ '"' :: rest) := by
  unfold quote
  rw [List.cons_append, List.cons_append, List.append_assoc, List.singleton_append]

theorem renderItems_cons (item next : Json) (rest : List Json) :
    renderItems (item :: next :: rest) =
      item.render ++ ',' :: renderItems (next :: rest) := rfl

theorem renderFields_cons (key : String) (value : Json) (next : String × Json)
    (rest : List (String × Json)) :
    renderFields ((key, value) :: next :: rest) =
      quote key ++ ':' :: value.render ++ ',' :: renderFields (next :: rest) := rfl

theorem renderItems_head (item : Json) (items : List Json) :
    exists c rest, renderItems (item :: items) = c :: rest ∧ c ≠ ']' := by
  rcases render_cons item with ⟨c, rest, htext, hclose⟩
  cases items with
  | nil => exact ⟨c, rest, htext, hclose⟩
  | cons next items =>
      refine ⟨c, rest ++ ',' :: renderItems (next :: items), ?_, hclose⟩
      rw [renderItems_cons, htext, List.cons_append]

theorem renderFields_head (key : String) (value : Json)
    (fields : List (String × Json)) :
    exists rest, renderFields ((key, value) :: fields) = '"' :: rest := by
  cases fields with
  | nil => exact ⟨_, rfl⟩
  | cons next fields => exact ⟨_, rfl⟩

mutual

/-- A written value is read back, whatever follows it. -/
theorem readValue_render : forall (value : Json) {fuel : Nat} {rest : List Char},
    value.render.length ≤ fuel -> EndsNumber rest ->
    readValue fuel (value.render ++ rest) = some (value, rest)
  | value, 0, _, hfuel, _ => by
      rcases render_cons value with ⟨c, text, htext, _⟩
      rw [htext, List.length_cons] at hfuel
      cases hfuel
  | null, fuel + 1, rest, _, _ => rfl
  | string value, fuel + 1, rest, _, _ => by
      have hread : readValue (fuel + 1) _ = some (string _, rest) :=
        readValue_string value.toList
      rw [String.ofList_toList, ← quote_append] at hread
      exact hread
  | number value, fuel + 1, rest, _, hends => readValue_number value hends
  | array [], fuel + 1, rest, _, _ => rfl
  | array (item :: items), fuel + 1, rest, hfuel, _ => by
      rw [render, List.cons_append, List.length_cons, List.length_append,
        List.length_singleton] at hfuel
      have hitems := readItems_render item items (Nat.le_of_succ_le_succ hfuel) rest
      rcases renderItems_head item items with ⟨c, text, htext, hclose⟩
      rw [render, List.cons_append, List.cons_append, List.append_assoc,
        List.singleton_append]
      rw [htext, List.cons_append] at hitems ⊢
      exact readValue_array hclose hitems
  | object [], fuel + 1, rest, _, _ => rfl
  | object ((key, value) :: fields), fuel + 1, rest, hfuel, _ => by
      rw [render, List.cons_append, List.length_cons, List.length_append,
        List.length_singleton] at hfuel
      have hfields := readFields_render key value fields
        (Nat.le_of_succ_le_succ hfuel) rest
      rcases renderFields_head key value fields with ⟨text, htext⟩
      rw [render, List.cons_append, List.cons_append, List.append_assoc,
        List.singleton_append]
      rw [htext, List.cons_append] at hfields ⊢
      exact readValue_object hfields

theorem readItems_render : forall (item : Json) (items : List Json) {fuel : Nat},
    (renderItems (item :: items)).length + 1 ≤ fuel -> forall rest : List Char,
    readItems fuel (renderItems (item :: items) ++ ']' :: rest) =
      some (item :: items, rest)
  | item, [], fuel + 1, hfuel, rest => by
      have hitem := readValue_render item (Nat.le_of_succ_le_succ hfuel)
        (endsNumber_cons rest (by decide : ']'.isDigit = false))
      exact readItems_last hitem
  | item, next :: items, fuel + 1, hfuel, rest => by
      rw [renderItems_cons, List.length_append, List.length_cons] at hfuel
      have hitem := readValue_render item (by omega : item.render.length ≤ fuel)
        (endsNumber_cons (renderItems (next :: items) ++ ']' :: rest)
          (by decide : ','.isDigit = false))
      have hitems := readItems_render next items
        (by omega : (renderItems (next :: items)).length + 1 ≤ fuel) rest
      rw [renderItems_cons, List.append_assoc, List.cons_append]
      exact readItems_cons hitem hitems

theorem readFields_render : forall (key : String) (value : Json)
    (fields : List (String × Json)) {fuel : Nat},
    (renderFields ((key, value) :: fields)).length + 1 ≤ fuel ->
    forall rest : List Char,
    readFields fuel (renderFields ((key, value) :: fields) ++ '}' :: rest) =
      some ((key, value) :: fields, rest)
  | key, value, [], fuel + 1, hfuel, rest => by
      rw [renderFields, List.length_append, List.length_cons] at hfuel
      have hvalue := readValue_render value (by omega : value.render.length ≤ fuel)
        (endsNumber_cons rest (by decide : '}'.isDigit = false))
      have hread := readFields_last key.toList _ hvalue
      rw [String.ofList_toList] at hread
      rw [renderFields, List.append_assoc, List.cons_append, quote_append]
      exact hread
  | key, value, next :: fields, fuel + 1, hfuel, rest => by
      rcases next with ⟨nextKey, nextValue⟩
      rw [renderFields_cons, List.length_append, List.length_append,
        List.length_cons, List.length_cons] at hfuel
      have hvalue := readValue_render value (by omega : value.render.length ≤ fuel)
        (endsNumber_cons (renderFields ((nextKey, nextValue) :: fields) ++ '}' :: rest)
          (by decide : ','.isDigit = false))
      have hfields := readFields_render nextKey nextValue fields
        (by omega : (renderFields ((nextKey, nextValue) :: fields)).length + 1 ≤ fuel)
        rest
      have hread := readFields_cons key.toList _ hvalue hfields
      rw [String.ofList_toList] at hread
      rw [renderFields_cons, List.append_assoc, List.append_assoc, List.cons_append,
        List.cons_append, quote_append]
      exact hread

end

theorem ofText_render (value : Json) : ofText value.render = some value := by
  have hvalue : readValue value.render.length (value.render ++ []) = some (value, []) :=
    readValue_render value (Nat.le_refl _) (fun c hc => by cases hc)
  rw [List.append_nil] at hvalue
  unfold ofText
  rw [hvalue]
  rfl

theorem render_injective {a b : Json} (h : a.render = b.render) : a = b := by
  have ha := ofText_render a
  rw [h, ofText_render b, Option.some.injEq] at ha
  exact ha.symm

end Json
end Foundation
end Pubky2Pubky
