import Mathlib.Data.List.Basic
import Mathlib.Tactic.IntervalCases

/-! JSON as text: how values are written without blanks, and how such a text is read.

    Numbers are kept as they are written, digit by digit, so nothing is rounded on the way. What is
    written holds no control character, and is read back as it was.

        value ──dumps──▶ text ──parse──▶ value -/

/-- A number as it is written. -/
structure JsonNumber where
  negative : Bool
  whole : List (Fin 10)
  fraction : List (Fin 10)
  exponent : Option (Bool × List (Fin 10))
  canonical : whole ≠ [] ∧ (whole.head? = some 0 → whole = [0])
  raised : ∀ e ∈ exponent, e.2 ≠ []
  deriving DecidableEq

inductive JsonText where
  | null
  | bool (b : Bool)
  | number (n : JsonNumber)
  | str (s : String)
  | array (elements : List JsonText)
  | object (fields : List (String × JsonText))

namespace JsonText

/-! ### Writing -/

def digit (d : Fin 10) : Char := Char.ofNat (48 + d)

def digits (ds : List (Fin 10)) : List Char := ds.map digit

def fractionText (ds : List (Fin 10)) : List Char := if ds = [] then [] else '.' :: digits ds

def exponentText : Option (Bool × List (Fin 10)) → List Char
  | none => []
  | some (negative, ds) => 'e' :: (if negative then '-' else '+') :: digits ds

def numberText (n : JsonNumber) : List Char :=
  (if n.negative then ['-'] else []) ++ digits n.whole ++ fractionText n.fraction ++
    exponentText n.exponent

/-- The hexadecimal digits. -/
def hexDigits : List Char := "0123456789abcdef".toList

def hexDigit (n : Nat) : Char := hexDigits.getD n '0'

/-- A character of a string, escaped where it has to be. -/
def escape (c : Char) : List Char :=
  if c = '"' then ['\\', '"']
  else if c = '\\' then ['\\', '\\']
  else if c = '\n' then ['\\', 'n']
  else if c = '\r' then ['\\', 'r']
  else if c = '\t' then ['\\', 't']
  else if c = '\x0c' then ['\\', 'f']
  else if c = '\x08' then ['\\', 'b']
  else if c.toNat < 0x20 then
    ['\\', 'u', '0', '0', hexDigit (c.toNat / 16), hexDigit (c.toNat % 16)]
  else [c]

def stringText (s : String) : List Char := '"' :: s.toList.flatMap escape ++ ['"']

mutual

/-- `json.dumps` with `ensure_ascii=False` and without blanks. -/
def dumps : JsonText → List Char
  | .null => "null".toList
  | .bool true => "true".toList
  | .bool false => "false".toList
  | .number n => numberText n
  | .str s => stringText s
  | .array elements => '[' :: elementsText elements ++ [']']
  | .object fields => '\x7b' :: fieldsText fields ++ ['\x7d']

def elementsText : List JsonText → List Char
  | [] => []
  | [v] => dumps v
  | v :: w :: vs => dumps v ++ ',' :: elementsText (w :: vs)

def fieldsText : List (String × JsonText) → List Char
  | [] => []
  | [(k, v)] => stringText k ++ ':' :: dumps v
  | (k, v) :: f :: fs => stringText k ++ ':' :: (dumps v ++ ',' :: fieldsText (f :: fs))

end

/-! ### Reading -/

def isBlank (c : Char) : Bool := c = ' ' || c = '\t' || c = '\n' || c = '\r'

def skipBlanks (text : List Char) : List Char := text.dropWhile isBlank

def digitOf (c : Char) : Option (Fin 10) :=
  if h : 48 ≤ c.toNat ∧ c.toNat < 58 then some ⟨c.toNat - 48, by omega⟩ else none

def scanDigits : List Char → List (Fin 10) × List Char
  | [] => ([], [])
  | c :: text =>
    match digitOf c with
    | some d => (d :: (scanDigits text).1, (scanDigits text).2)
    | none => ([], c :: text)

def scanFraction : List Char → Option (List (Fin 10) × List Char)
  | '.' :: text =>
    let scanned := scanDigits text
    if scanned.1 = [] then none else some scanned
  | text => some ([], text)

def scanSign : List Char → Bool × List Char
  | '-' :: text => (true, text)
  | '+' :: text => (false, text)
  | text => (false, text)

def scanExponent : List Char → Option (Option (Bool × List (Fin 10)) × List Char)
  | c :: text =>
    if c = 'e' ∨ c = 'E' then
      let scanned := scanDigits (scanSign text).2
      if scanned.1 = [] then none else some (some ((scanSign text).1, scanned.1), scanned.2)
    else some (none, c :: text)
  | [] => some (none, [])

def scanMinus : List Char → Bool × List Char
  | '-' :: text => (true, text)
  | text => (false, text)

/-- A number from its parts, if they are those of one. -/
def numberOf (negative : Bool) (whole fraction : List (Fin 10))
    (exponent : Option (Bool × List (Fin 10))) : Option JsonNumber :=
  if h : (whole ≠ [] ∧ (whole.head? = some 0 → whole = [0])) ∧ ∀ e ∈ exponent, e.2 ≠ [] then
    some ⟨negative, whole, fraction, exponent, h.1, h.2⟩
  else none

def parseNumber (text : List Char) : Option (JsonNumber × List Char) := do
  let sign := scanMinus text
  let whole := scanDigits sign.2
  let fraction ← scanFraction whole.2
  let exponent ← scanExponent fraction.2
  let n ← numberOf sign.1 whole.1 fraction.1 exponent.1
  return (n, exponent.2)

def hexValue (c : Char) : Option Nat := hexDigits.findIdx? (· = c.toLower)

def hexValues (a b c d : Char) : Option Nat := do
  return (((← hexValue a) * 16 + (← hexValue b)) * 16 + (← hexValue c)) * 16 + (← hexValue d)

/-- The character that an escape of one letter stands for. -/
def unescape (c : Char) : Option Char :=
  if c = '"' ∨ c = '\\' ∨ c = '/' then some c
  else if c = 'n' then some '\n'
  else if c = 'r' then some '\r'
  else if c = 't' then some '\t'
  else if c = 'f' then some '\x0c'
  else if c = 'b' then some '\x08'
  else none

/-- The rest of a string after its opening quote, as code units. -/
def scanString : List Char → Option (List Nat × List Char)
  | [] => none
  | c :: text =>
    if c = '"' then some ([], text)
    else if c = '\\' then
      match text with
      | 'u' :: a :: b :: c :: d :: text =>
        match hexValues a b c d with
        | some n => (scanString text).map fun parts => (n :: parts.1, parts.2)
        | none => none
      | c :: text =>
        match unescape c with
        | some c' => (scanString text).map fun parts => (c'.toNat :: parts.1, parts.2)
        | none => none
      | [] => none
    else if c.toNat < 0x20 then none
    else (scanString text).map fun parts => (c.toNat :: parts.1, parts.2)

/-- The characters of code units. A surrogate is half of one, and none without its other half. -/
def joinUnits : List Nat → Option (List Char)
  | [] => some []
  | n :: units =>
    if 0xD800 ≤ n ∧ n < 0xDC00 then
      match units with
      | low :: units =>
        if 0xDC00 ≤ low ∧ low < 0xE000 then
          (joinUnits units).map (Char.ofNat (0x10000 + (n - 0xD800) * 1024 + (low - 0xDC00)) :: ·)
        else none
      | [] => none
    else if 0xDC00 ≤ n ∧ n < 0xE000 then none
    else (joinUnits units).map (Char.ofNat n :: ·)

def parseString (text : List Char) : Option (String × List Char) := do
  let parts ← scanString text
  return (String.ofList (← joinUnits parts.1), parts.2)

mutual

/-- A value at the beginning of a text, and the text after it. -/
def parseValue : Nat → List Char → Option (JsonText × List Char)
  | 0, _ => none
  | fuel + 1, text =>
    match skipBlanks text with
    | 'n' :: 'u' :: 'l' :: 'l' :: rest => some (.null, rest)
    | 't' :: 'r' :: 'u' :: 'e' :: rest => some (.bool true, rest)
    | 'f' :: 'a' :: 'l' :: 's' :: 'e' :: rest => some (.bool false, rest)
    | '"' :: rest => (parseString rest).map fun parts => (.str parts.1, parts.2)
    | '[' :: rest =>
      match skipBlanks rest with
      | ']' :: later => some (.array [], later)
      | _ => (parseElements fuel rest).map fun parts => (.array parts.1, parts.2)
    | '\x7b' :: rest =>
      match skipBlanks rest with
      | '\x7d' :: later => some (.object [], later)
      | _ => (parseFields fuel rest).map fun parts => (.object parts.1, parts.2)
    | rest => (parseNumber rest).map fun parts => (.number parts.1, parts.2)

def parseElements : Nat → List Char → Option (List JsonText × List Char)
  | 0, _ => none
  | fuel + 1, text => do
    let v ← parseValue fuel text
    match skipBlanks v.2 with
    | ',' :: rest =>
      let vs ← parseElements fuel rest
      return (v.1 :: vs.1, vs.2)
    | ']' :: rest => return ([v.1], rest)
    | _ => none

def parseFields : Nat → List Char → Option (List (String × JsonText) × List Char)
  | 0, _ => none
  | fuel + 1, text => do
    match skipBlanks text with
    | '"' :: rest =>
      let k ← parseString rest
      match skipBlanks k.2 with
      | ':' :: rest =>
        let v ← parseValue fuel rest
        match skipBlanks v.2 with
        | ',' :: rest =>
          let fs ← parseFields fuel rest
          return ((k.1, v.1) :: fs.1, fs.2)
        | '\x7d' :: rest => return ([(k.1, v.1)], rest)
        | _ => none
      | _ => none
    | _ => none

end

/-- `JSON.parse`: one value, and blanks around it. -/
def parse (text : List Char) : Option JsonText :=
  match parseValue (text.length + 1) text with
  | some (v, rest) => if skipBlanks rest = [] then some v else none
  | none => none

/-- The value of a field; of fields of one name the last counts. -/
def get (key : String) : JsonText → Option JsonText
  | .object fields => fields.reverse.lookup key
  | _ => none

/-! ### Strings -/

theorem hexValue_hexDigit {n : Nat} (h : n < 16) : hexValue (hexDigit n) = some n := by
  interval_cases n <;> decide

/-- An escaped character is read as itself. -/
theorem scanString_escape (c : Char) (text : List Char) : scanString (escape c ++ text) =
    (scanString text).map fun parts => (c.toNat :: parts.1, parts.2) := by
  by_cases hplain : c = '"' ∨ c = '\\' ∨ c = '\n' ∨ c = '\r' ∨ c = '\t' ∨ c = '\x0c' ∨ c = '\x08'
  · rcases hplain with rfl | rfl | rfl | rfl | rfl | rfl | rfl <;> rfl
  · simp only [not_or] at hplain
    obtain ⟨hquote, hslash, hn, hr, ht, hf, hb⟩ := hplain
    rw [escape, if_neg hquote, if_neg hslash, if_neg hn, if_neg hr, if_neg ht, if_neg hf, if_neg hb]
    split_ifs with hcontrol
    · have hhex : hexValues '0' '0' (hexDigit (c.toNat / 16)) (hexDigit (c.toNat % 16))
          = some c.toNat := by
        rw [hexValues, hexValue_hexDigit (by omega), hexValue_hexDigit (by omega),
          show hexValue '0' = some 0 from by decide]
        simp only [Option.pure_def, Option.bind_eq_bind, Option.bind_some, Option.some.injEq]
        omega
      simp only [List.cons_append, List.nil_append, scanString]
      rw [if_neg (by decide), if_pos trivial, hhex]
    · rw [List.singleton_append, scanString.eq_def]
      simp only [if_neg hquote, if_neg hslash, if_neg hcontrol]

theorem joinUnits_toNat (text : List Char) : joinUnits (text.map Char.toNat) = some text := by
  induction text with
  | nil => rfl
  | cons c text ih =>
    have hvalid : c.toNat < 0xD800 ∨ 0xDFFF < c.toNat := c.valid.imp_right (·.1)
    rw [List.map_cons, joinUnits.eq_def]
    simp only
    rw [if_neg (by omega), if_neg (by omega), ih, Option.map_some, Char.ofNat_toNat]

theorem scanString_quote (text : List Char) : scanString ('"' :: text) = some ([], text) := by
  rw [scanString.eq_def]
  rfl

theorem scanString_escaped (s rest : List Char) :
    scanString (s.flatMap escape ++ '"' :: rest) = some (s.map Char.toNat, rest) := by
  induction s with
  | nil => exact scanString_quote rest
  | cons c s ih =>
    rw [List.flatMap_cons, List.append_assoc, scanString_escape, ih]
    rfl

/-- A string is read back. -/
theorem parseString_escaped (s : String) (rest : List Char) :
    parseString (s.toList.flatMap escape ++ '"' :: rest) = some (s, rest) := by
  rw [parseString, scanString_escaped]
  simp only [Option.pure_def, Option.bind_eq_bind, Option.bind_some, joinUnits_toNat,
    String.ofList_toList]

/-! ### Numbers -/

theorem digitOf_digit : ∀ d, digitOf (digit d) = some d := by decide

theorem digit_ne_minus : ∀ d, digit d ≠ '-' := by decide

/-- What ends a value: the text does, or the array or object it is in goes on or ends. -/
def Ends (rest : List Char) : Prop := ∀ c ∈ rest.head?, c = ',' ∨ c = ']' ∨ c = '\x7d'

theorem Ends.nil : Ends [] := by simp [Ends]

theorem Ends.cons {c : Char} {rest : List Char} (h : c = ',' ∨ c = ']' ∨ c = '\x7d') :
    Ends (c :: rest) := by simpa [Ends] using h

/-- Digits are read up to the first character that is none. -/
theorem scanDigits_digits (ds : List (Fin 10)) {rest : List Char}
    (h : ∀ c ∈ rest.head?, digitOf c = none) : scanDigits (digits ds ++ rest) = (ds, rest) := by
  induction ds with
  | nil =>
    cases rest with
    | nil => rfl
    | cons c rest =>
      rw [digits, List.map_nil, List.nil_append, scanDigits, h c rfl]
  | cons d ds ih =>
    have hread : scanDigits (ds.map digit ++ rest) = (ds, rest) := ih
    rw [digits, List.map_cons, List.cons_append, scanDigits, digitOf_digit, hread]

theorem scanFraction_text (ds : List (Fin 10)) {rest : List Char}
    (h : ∀ c ∈ rest.head?, digitOf c = none ∧ c ≠ '.') :
    scanFraction (fractionText ds ++ rest) = some (ds, rest) := by
  rw [fractionText]
  split_ifs with hds
  · subst hds
    cases rest with
    | nil => rfl
    | cons c rest =>
      have hpoint := (h c rfl).2
      rw [List.nil_append, scanFraction]
      intro text htext
      exact hpoint (List.cons.inj htext).1
  · rw [List.cons_append, scanFraction, scanDigits_digits ds fun c hc => (h c hc).1, if_neg hds]

theorem scanSign_text (negative : Bool) (text : List Char) :
    scanSign ((if negative then '-' else '+') :: text) = (negative, text) := by
  cases negative <;> rfl

theorem scanExponent_text {exponent : Option (Bool × List (Fin 10))} {rest : List Char}
    (hraised : ∀ e ∈ exponent, e.2 ≠ []) (h : Ends rest) :
    scanExponent (exponentText exponent ++ rest) = some (exponent, rest) := by
  have hends : ∀ c ∈ rest.head?, digitOf c = none ∧ ¬ (c = 'e' ∨ c = 'E') := by
    intro c hc
    rcases h c hc with rfl | rfl | rfl <;> decide
  cases exponent with
  | none =>
    rw [exponentText, List.nil_append]
    cases rest with
    | nil => rfl
    | cons c rest => rw [scanExponent, if_neg (hends c rfl).2]
  | some e =>
    obtain ⟨negative, ds⟩ := e
    rw [exponentText, List.cons_append, List.cons_append, scanExponent, if_pos (Or.inl rfl)]
    simp only [scanSign_text, scanDigits_digits ds fun c hc => (hends c hc).1]
    rw [if_neg (hraised _ rfl)]

theorem scanMinus_text (negative : Bool) {text : List Char} (h : text.head? ≠ some '-') :
    scanMinus ((if negative then ['-'] else []) ++ text) = (negative, text) := by
  cases negative with
  | true => rfl
  | false =>
    cases text with
    | nil => rfl
    | cons c text =>
      have hc : c ≠ '-' := by simpa using h
      show scanMinus (c :: text) = _
      rw [scanMinus]
      intro rest hrest
      exact hc (List.cons.inj hrest).1

theorem digits_head {ds : List (Fin 10)} (h : ds ≠ []) (text : List Char) :
    ∃ d, (digits ds ++ text).head? = some (digit d) := by
  obtain ⟨d, ds, rfl⟩ := List.exists_cons_of_ne_nil h
  exact ⟨d, rfl⟩

/-- A number is read back. -/
theorem parseNumber_text (n : JsonNumber) {rest : List Char} (h : Ends rest) :
    parseNumber (numberText n ++ rest) = some (n, rest) := by
  have hexponent : ∀ c ∈ (exponentText n.exponent ++ rest).head?, digitOf c = none ∧ c ≠ '.' := by
    cases n.exponent with
    | none =>
      intro c hc
      rcases h c hc with rfl | rfl | rfl <;> decide
    | some e =>
      rintro c ⟨⟩
      decide
  have hfraction : ∀ c ∈ (fractionText n.fraction ++ (exponentText n.exponent ++ rest)).head?,
      digitOf c = none := by
    rw [fractionText]
    split_ifs
    · exact fun c hc => (hexponent c hc).1
    · rintro c ⟨⟩
      decide
  have hminus : (digits n.whole ++ (fractionText n.fraction ++
      (exponentText n.exponent ++ rest))).head? ≠ some '-' := by
    obtain ⟨d, hd⟩ := digits_head n.canonical.1
      (fractionText n.fraction ++ (exponentText n.exponent ++ rest))
    rw [hd]
    exact fun e => digit_ne_minus d (Option.some.inj e)
  have hnumber : numberOf n.negative n.whole n.fraction n.exponent = some n :=
    dif_pos ⟨n.canonical, n.raised⟩
  simp only [parseNumber, numberText, List.append_assoc, scanMinus_text n.negative hminus,
    scanDigits_digits n.whole hfraction, scanFraction_text n.fraction hexponent,
    scanExponent_text n.raised h, Option.bind_eq_bind, Option.bind_some, hnumber, Option.pure_def]

/-! ### Values -/

/-- How a value begins: no blank, and nothing that ends an array or an object. -/
def Begins (c : Char) : Prop := isBlank c = false ∧ c ≠ ']' ∧ c ≠ '\x7d'

theorem skipBlanks_cons {c : Char} (h : isBlank c = false) (text : List Char) :
    skipBlanks (c :: text) = c :: text := by
  rw [skipBlanks, List.dropWhile_cons, h]
  rfl

theorem numberText_head (n : JsonNumber) :
    ∃ c text, numberText n = c :: text ∧ (c = '-' ∨ ∃ d, c = digit d) := by
  obtain ⟨d, ds, hwhole⟩ := List.exists_cons_of_ne_nil n.canonical.1
  rw [numberText, hwhole]
  cases n.negative with
  | true => exact ⟨'-', _, rfl, Or.inl rfl⟩
  | false => exact ⟨digit d, _, rfl, Or.inr ⟨d, rfl⟩⟩

theorem digit_begins : ∀ d, Begins (digit d) := by
  unfold Begins
  decide

theorem dumps_head (v : JsonText) : ∃ c text, dumps v = c :: text ∧ Begins c := by
  cases v with
  | null => exact ⟨'n', _, rfl, by unfold Begins; decide⟩
  | bool b => cases b <;> exact ⟨_, _, rfl, by unfold Begins; decide⟩
  | number n =>
    obtain ⟨c, text, htext, rfl | ⟨d, rfl⟩⟩ := numberText_head n
    · exact ⟨_, _, htext, by unfold Begins; decide⟩
    · exact ⟨_, _, htext, digit_begins d⟩
  | str s => exact ⟨_, _, rfl, by unfold Begins; decide⟩
  | array elements => exact ⟨_, _, rfl, by unfold Begins; decide⟩
  | object fields => exact ⟨_, _, rfl, by unfold Begins; decide⟩

theorem skipBlanks_dumps (v : JsonText) (rest : List Char) :
    skipBlanks (dumps v ++ rest) = dumps v ++ rest := by
  obtain ⟨c, text, htext, hc⟩ := dumps_head v
  rw [htext]
  exact skipBlanks_cons hc.1 _

theorem elementsText_cons (v : JsonText) (vs : List JsonText) : elementsText (v :: vs) =
    dumps v ++ (if vs = [] then [] else ',' :: elementsText vs) := by
  cases vs with
  | nil => simp [elementsText]
  | cons w vs => simp [elementsText]

theorem fieldsText_cons (k : String) (v : JsonText) (fs : List (String × JsonText)) :
    fieldsText ((k, v) :: fs) = stringText k ++ ':' :: (dumps v ++
      (if fs = [] then [] else ',' :: fieldsText fs)) := by
  cases fs with
  | nil => simp [fieldsText]
  | cons f fs => simp [fieldsText]

theorem digit_other : ∀ d, isBlank (digit d) = false ∧ digit d ≠ 'n' ∧ digit d ≠ 't' ∧
    digit d ≠ 'f' ∧ digit d ≠ '"' ∧ digit d ≠ '[' ∧ digit d ≠ '\x7b' := by
  decide

/-- A number is read where no other value begins. -/
theorem parseValue_number (n : JsonNumber) (fuel : Nat) {rest : List Char} (h : Ends rest) :
    parseValue (fuel + 1) (numberText n ++ rest) = some (.number n, rest) := by
  have hread := parseNumber_text n h
  obtain ⟨c, text, htext, hc⟩ := numberText_head n
  rw [htext, List.cons_append] at hread ⊢
  have hother : isBlank c = false ∧ c ≠ 'n' ∧ c ≠ 't' ∧ c ≠ 'f' ∧ c ≠ '"' ∧ c ≠ '[' ∧
      c ≠ '\x7b' := by
    rcases hc with rfl | ⟨d, rfl⟩
    · decide
    · exact digit_other d
  obtain ⟨hblank, hn, ht, hf, hquote, harray, hobject⟩ := hother
  rw [parseValue, skipBlanks_cons hblank]
  split
  · exact absurd (List.cons.inj ‹_›).1 hn
  · exact absurd (List.cons.inj ‹_›).1 ht
  · exact absurd (List.cons.inj ‹_›).1 hf
  · exact absurd (List.cons.inj ‹_›).1 hquote
  · exact absurd (List.cons.inj ‹_›).1 harray
  · exact absurd (List.cons.inj ‹_›).1 hobject
  · rw [hread]
    rfl

theorem parseValue_array {fuel : Nat} {text : List Char}
    (h : ∃ c rest, skipBlanks text = c :: rest ∧ c ≠ ']') : parseValue (fuel + 1) ('[' :: text) =
      (parseElements fuel text).map fun parts => (.array parts.1, parts.2) := by
  obtain ⟨c, rest, htext, hc⟩ := h
  rw [parseValue, skipBlanks_cons (by decide)]
  simp only [htext]
  split
  · exact absurd (List.cons.inj ‹_›).1 hc
  · rfl

theorem parseValue_object {fuel : Nat} {text : List Char}
    (h : ∃ c rest, skipBlanks text = c :: rest ∧ c ≠ '\x7d') :
    parseValue (fuel + 1) ('\x7b' :: text) =
      (parseFields fuel text).map fun parts => (.object parts.1, parts.2) := by
  obtain ⟨c, rest, htext, hc⟩ := h
  rw [parseValue, skipBlanks_cons (by decide)]
  simp only [htext]
  split
  · exact absurd (List.cons.inj ‹_›).1 hc
  · rfl

theorem parseValue_string (s : String) (fuel : Nat) (rest : List Char) :
    parseValue (fuel + 1) (stringText s ++ rest) = some (.str s, rest) := by
  rw [stringText, List.cons_append, List.cons_append, List.append_assoc, List.singleton_append,
    parseValue, skipBlanks_cons (by decide)]
  simp only [parseString_escaped, Option.map_some]

theorem elementsText_head (v : JsonText) (vs : List JsonText) (rest : List Char) :
    ∃ c later, skipBlanks (elementsText (v :: vs) ++ rest) = c :: later ∧ c ≠ ']' := by
  obtain ⟨c, text, htext, hblank, hc, -⟩ := dumps_head v
  rw [elementsText_cons, htext, List.append_assoc, List.cons_append, skipBlanks_cons hblank]
  exact ⟨c, _, rfl, hc⟩

theorem fieldsText_head (f : String × JsonText) (fs : List (String × JsonText)) (rest : List Char) :
    ∃ c later, skipBlanks (fieldsText (f :: fs) ++ rest) = c :: later ∧ c ≠ '\x7d' := by
  rw [fieldsText_cons, stringText]
  exact ⟨'"', _, skipBlanks_cons (by decide) _, by decide⟩

mutual

/-- A value is read back, -/
theorem parseValue_dumps : ∀ (v : JsonText) (fuel : Nat) (rest : List Char),
    (dumps v).length ≤ fuel + 1 → Ends rest →
      parseValue (fuel + 1) (dumps v ++ rest) = some (v, rest)
  | .null, fuel, rest, _, _ => by
    rw [parseValue, skipBlanks_dumps]
    rfl
  | .bool b, fuel, rest, _, _ => by
    rw [parseValue, skipBlanks_dumps]
    cases b <;> rfl
  | .number n, fuel, rest, _, hrest => by
    rw [dumps]
    exact parseValue_number n fuel hrest
  | .str s, fuel, rest, _, _ => by
    rw [dumps]
    exact parseValue_string s fuel rest
  | .array [], fuel, rest, _, _ => by
    rw [parseValue, skipBlanks_dumps]
    rfl
  | .array (v :: vs), fuel, rest, hfuel, _ => by
    simp only [dumps, List.length_append, List.length_cons, List.length_nil] at hfuel
    rw [dumps, List.cons_append, List.cons_append, List.append_assoc,
      parseValue_array (elementsText_head v vs _), List.singleton_append,
      parseElements_text v vs fuel rest (by omega)]
    rfl
  | .object [], fuel, rest, _, _ => by
    rw [parseValue, skipBlanks_dumps]
    rfl
  | .object (f :: fs), fuel, rest, hfuel, _ => by
    simp only [dumps, List.length_append, List.length_cons, List.length_nil] at hfuel
    rw [dumps, List.cons_append, List.cons_append, List.append_assoc,
      parseValue_object (fieldsText_head f fs _), List.singleton_append,
      parseFields_text f fs fuel rest (by omega)]
    rfl

/-- and so are the elements of an array, -/
theorem parseElements_text : ∀ (v : JsonText) (vs : List JsonText) (fuel : Nat) (rest : List Char),
    (elementsText (v :: vs)).length < fuel →
      parseElements fuel (elementsText (v :: vs) ++ ']' :: rest) = some (v :: vs, rest)
  | v, vs, 0, rest, hfuel => by omega
  | v, vs, 1, rest, hfuel => by
    obtain ⟨c, text, htext, -⟩ := dumps_head v
    rw [elementsText_cons, htext, List.length_append, List.length_cons] at hfuel
    omega
  | v, [], fuel + 2, rest, hfuel => by
    rw [elementsText] at hfuel ⊢
    rw [parseElements, parseValue_dumps v fuel _ (by omega) (.cons (by simp))]
    rfl
  | v, w :: vs, fuel + 2, rest, hfuel => by
    rw [elementsText, List.length_append, List.length_cons] at hfuel
    have hread := parseElements_text w vs (fuel + 1) rest (by omega)
    rw [elementsText, List.append_assoc, List.cons_append, parseElements,
      parseValue_dumps v fuel _ (by omega) (.cons (by simp))]
    simp only [Option.bind_eq_bind, Option.bind_some]
    rw [skipBlanks_cons (by decide)]
    simp only [hread, Option.bind_some, Option.pure_def]

/-- and the fields of an object. -/
theorem parseFields_text : ∀ (f : String × JsonText) (fs : List (String × JsonText)) (fuel : Nat)
    (rest : List Char), (fieldsText (f :: fs)).length < fuel →
      parseFields fuel (fieldsText (f :: fs) ++ '\x7d' :: rest) = some (f :: fs, rest)
  | (k, v), fs, 0, rest, hfuel => by omega
  | (k, v), fs, 1, rest, hfuel => by
    rw [fieldsText_cons, stringText, List.length_append] at hfuel
    simp at hfuel
  | (k, v), [], fuel + 2, rest, hfuel => by
    rw [fieldsText, stringText] at hfuel ⊢
    simp only [List.length_append, List.length_cons] at hfuel
    simp only [List.cons_append, List.append_assoc, List.nil_append]
    rw [parseFields, skipBlanks_cons (by decide)]
    simp only [parseString_escaped, Option.bind_eq_bind, Option.bind_some]
    rw [skipBlanks_cons (by decide)]
    simp only [parseValue_dumps v fuel _ (by omega) (.cons (Or.inr (Or.inr rfl))), Option.bind_some]
    rfl
  | (k, v), f :: fs, fuel + 2, rest, hfuel => by
    rw [fieldsText, stringText] at hfuel ⊢
    simp only [List.length_append, List.length_cons] at hfuel
    have hread := parseFields_text f fs (fuel + 1) rest (by omega)
    simp only [List.cons_append, List.append_assoc, List.nil_append]
    rw [parseFields, skipBlanks_cons (by decide)]
    simp only [parseString_escaped, Option.bind_eq_bind, Option.bind_some]
    rw [skipBlanks_cons (by decide)]
    simp only [parseValue_dumps v fuel _ (by omega) (.cons (Or.inl rfl)), Option.bind_some]
    rw [skipBlanks_cons (by decide)]
    simp only [hread, Option.bind_some, Option.pure_def]

end

/-- What is written is read back. -/
theorem parse_dumps (v : JsonText) : parse (dumps v) = some v := by
  have hread := parseValue_dumps v (dumps v).length [] (Nat.le_succ _) .nil
  rw [List.append_nil] at hread
  rw [parse, hread]
  rfl

/-! ### No control characters -/

/-- A character that is shown, or a blank. -/
def Printable (c : Char) : Prop := 0x20 ≤ c.toNat

instance (c : Char) : Decidable (Printable c) := by
  unfold Printable
  infer_instance

theorem hexDigit_printable {n : Nat} (h : n < 16) : Printable (hexDigit n) := by
  interval_cases n <;> decide

theorem printable_of_all {text : List Char} (h : text.all (decide <| Printable ·) = true) :
    ∀ c ∈ text, Printable c :=
  fun c hc => of_decide_eq_true (List.all_eq_true.mp h c hc)

theorem escape_printable (c : Char) : ∀ c' ∈ escape c, Printable c' := by
  by_cases hplain : c = '"' ∨ c = '\\' ∨ c = '\n' ∨ c = '\r' ∨ c = '\t' ∨ c = '\x0c' ∨ c = '\x08'
  · rcases hplain with rfl | rfl | rfl | rfl | rfl | rfl | rfl <;>
      exact printable_of_all (by decide)
  · simp only [not_or] at hplain
    obtain ⟨hquote, hslash, hn, hr, ht, hf, hb⟩ := hplain
    rw [escape, if_neg hquote, if_neg hslash, if_neg hn, if_neg hr, if_neg ht, if_neg hf, if_neg hb]
    split_ifs with hcontrol
    · have hhigh := hexDigit_printable (n := c.toNat / 16) (by omega)
      have hlow := hexDigit_printable (n := c.toNat % 16) (by omega)
      simp only [List.forall_mem_cons, List.not_mem_nil, false_implies, implies_true, hhigh, hlow,
        and_true]
      decide
    · intro c' hc'
      rw [List.mem_singleton.mp hc']
      exact Nat.le_of_not_lt hcontrol

theorem stringText_printable (s : String) : ∀ c ∈ stringText s, Printable c := by
  intro c hc
  simp only [stringText, List.mem_append, List.mem_cons, List.mem_flatMap, List.not_mem_nil,
    or_false] at hc
  rcases hc with (rfl | ⟨c', -, hc⟩) | rfl
  · decide
  · exact escape_printable c' c hc
  · decide

theorem digit_printable : ∀ d, Printable (digit d) := by decide

theorem digits_printable (ds : List (Fin 10)) : ∀ c ∈ digits ds, Printable c := by
  intro c hc
  obtain ⟨d, -, rfl⟩ := List.mem_map.mp hc
  exact digit_printable d

theorem numberText_printable (n : JsonNumber) : ∀ c ∈ numberText n, Printable c := by
  intro c hc
  simp only [numberText, List.mem_append] at hc
  rcases hc with ((hc | hc) | hc) | hc
  · split_ifs at hc
    · rw [List.mem_singleton.mp hc]
      decide
    · cases hc
  · exact digits_printable _ c hc
  · rw [fractionText] at hc
    split_ifs at hc
    · cases hc
    · rcases List.mem_cons.mp hc with rfl | hc
      · decide
      · exact digits_printable _ c hc
  · cases hexponent : n.exponent with
    | none =>
      rw [hexponent, exponentText] at hc
      cases hc
    | some e =>
      rw [hexponent, exponentText] at hc
      rcases List.mem_cons.mp hc with rfl | hc
      · decide
      · rcases List.mem_cons.mp hc with rfl | hc
        · split_ifs <;> decide
        · exact digits_printable _ c hc

theorem printable_append {as bs : List Char} (has : ∀ c ∈ as, Printable c)
    (hbs : ∀ c ∈ bs, Printable c) : ∀ c ∈ as ++ bs, Printable c := fun c hc =>
  (List.mem_append.mp hc).elim (has c) (hbs c)

mutual

/-- What is written holds no control character. -/
theorem dumps_printable : ∀ (v : JsonText), ∀ c ∈ dumps v, Printable c
  | .null => printable_of_all (by decide)
  | .bool true => printable_of_all (by decide)
  | .bool false => printable_of_all (by decide)
  | .number n => by
    rw [dumps]
    exact numberText_printable n
  | .str s => by
    rw [dumps]
    exact stringText_printable s
  | .array elements => by
    rw [dumps]
    exact printable_append (List.forall_mem_cons.mpr ⟨by decide, elementsText_printable elements⟩)
      (printable_of_all (by decide))
  | .object fields => by
    rw [dumps]
    exact printable_append (List.forall_mem_cons.mpr ⟨by decide, fieldsText_printable fields⟩)
      (printable_of_all (by decide))

theorem elementsText_printable : ∀ (vs : List JsonText), ∀ c ∈ elementsText vs, Printable c
  | [] => printable_of_all (by decide)
  | [v] => by
    rw [elementsText]
    exact dumps_printable v
  | v :: w :: vs => by
    rw [elementsText]
    exact printable_append (dumps_printable v)
      (List.forall_mem_cons.mpr ⟨by decide, elementsText_printable (w :: vs)⟩)

theorem fieldsText_printable : ∀ (fs : List (String × JsonText)),
    ∀ c ∈ fieldsText fs, Printable c
  | [] => printable_of_all (by decide)
  | [(k, v)] => by
    rw [fieldsText]
    exact printable_append (stringText_printable k)
      (List.forall_mem_cons.mpr ⟨by decide, dumps_printable v⟩)
  | (k, v) :: f :: fs => by
    rw [fieldsText]
    refine printable_append (stringText_printable k) (List.forall_mem_cons.mpr ⟨by decide, ?_⟩)
    exact printable_append (dumps_printable v)
      (List.forall_mem_cons.mpr ⟨by decide, fieldsText_printable (f :: fs)⟩)

end

end JsonText

/-! ### Whole numbers -/

namespace JsonNumber

/-- The digits of a whole number. -/
def digitsOf (n : Nat) : List (Fin 10) :=
  if h : n < 10 then [⟨n, h⟩] else digitsOf (n / 10) ++ [⟨n % 10, by omega⟩]

def valueOf (ds : List (Fin 10)) : Nat := ds.foldl (fun value (d : Fin 10) => value * 10 + d.val) 0

theorem valueOf_digitsOf (n : Nat) : valueOf (digitsOf n) = n := by
  induction n using Nat.strongRecOn with
  | ind n ih =>
    rw [digitsOf]
    split_ifs with h
    · simp [valueOf]
    · have hrest := ih (n / 10) (by omega)
      rw [valueOf] at hrest ⊢
      rw [List.foldl_append, hrest, List.foldl_cons, List.foldl_nil]
      show n / 10 * 10 + n % 10 = n
      omega

theorem digitsOf_canonical (n : Nat) :
    digitsOf n ≠ [] ∧ ((digitsOf n).head? = some 0 → digitsOf n = [0]) := by
  induction n using Nat.strongRecOn with
  | ind n ih =>
    rw [digitsOf]
    split_ifs with h
    · exact ⟨by simp, fun hzero => by simpa using hzero⟩
    · obtain ⟨hne, hhead⟩ := ih (n / 10) (by omega)
      refine ⟨by simp, fun hzero => ?_⟩
      rw [List.head?_append_of_ne_nil _ hne] at hzero
      have hvalue := valueOf_digitsOf (n / 10)
      rw [hhead hzero] at hvalue
      have hten : n / 10 = 0 := hvalue.symm
      omega

def ofNat (n : Nat) : JsonNumber where
  negative := false
  whole := digitsOf n
  fraction := []
  exponent := none
  canonical := digitsOf_canonical n
  raised := by simp

/-- The whole number that is written without a sign, a fraction or an exponent. -/
def nat? (n : JsonNumber) : Option Nat :=
  if n.negative = false ∧ n.fraction = [] ∧ n.exponent = none then some (valueOf n.whole) else none

theorem nat?_ofNat (n : Nat) : (ofNat n).nat? = some n := by
  rw [nat?, if_pos ⟨rfl, rfl, rfl⟩]
  exact congrArg some (valueOf_digitsOf n)

end JsonNumber

/-- The whole number that a value is. -/
def JsonText.nat? : JsonText → Option Nat
  | .number n => n.nat?
  | _ => none
