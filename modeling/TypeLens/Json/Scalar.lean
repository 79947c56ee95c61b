import TypeLens.Json.Reading

/-! Strings, numbers and the three words of JSON. -/
namespace TypeLens.Json

def hexDigitValue (c : Char) : Option Nat :=
  if '0' ≤ c ∧ c ≤ '9' then some (c.toNat - '0'.toNat)
  else if 'a' ≤ c ∧ c ≤ 'f' then some (c.toNat - 'a'.toNat + 10)
  else if 'A' ≤ c ∧ c ≤ 'F' then some (c.toNat - 'A'.toNat + 10)
  else none

def fourDigits? : Text → Option (Nat × Text)
  | a :: b :: c :: d :: rest => do
    let a ← hexDigitValue a
    let b ← hexDigitValue b
    let c ← hexDigitValue c
    let d ← hexDigitValue d
    some (((a * 16 + b) * 16 + c) * 16 + d, rest)
  | _ => none

def fourDigits (text : Text) : Except Failure (Nat × Text) :=
  match fourDigits? text with
  | some result => .ok result
  | none =>
    if text.byteSize < 4 then .error (.atEnd .string)
    else .error ⟨.syntaxFault .invalidEscape, text.byteSize - 4⟩

def secondMark : Text → Text → Except Failure Text
  | [], text => .ok text
  | _ :: _, [] => .error (.atEnd .string)
  | letter :: letters, c :: rest =>
    if c = letter then secondMark letters rest else .error (.ofSyntax .brokenSurrogatePair (c :: rest))

def isHighSurrogate (unit : Nat) : Bool := 0xD800 ≤ unit && unit ≤ 0xDBFF

def isLowSurrogate (unit : Nat) : Bool := 0xDC00 ≤ unit && unit ≤ 0xDFFF

def unicodeEscape (text : Text) : Except Failure (Char × Text) := do
  let (unit, rest) ← fourDigits text
  if isLowSurrogate unit then .error (.before (.syntaxFault .loneSurrogate) rest)
  else if isHighSurrogate unit then
    let rest ← secondMark "\\u" rest
    let (low, rest) ← fourDigits rest
    if isLowSurrogate low then
      .ok (Char.ofNat (0x10000 + (unit - 0xD800) * 0x400 + (low - 0xDC00)), rest)
    else .error (.before (.syntaxFault .loneSurrogate) rest)
  else .ok (Char.ofNat unit, rest)

def shortEscape : Char → Option Char
  | '"' => some '"'
  | '\\' => some '\\'
  | '/' => some '/'
  | 'b' => some '\x08'
  | 'f' => some '\x0c'
  | 'n' => some '\n'
  | 'r' => some '\r'
  | 't' => some '\t'
  | _ => none

def escape : Text → Except Failure (Char × Text)
  | [] => .error (.atEnd .string)
  | letter :: rest =>
    if letter = 'u' then unicodeEscape rest
    else match shortEscape letter with
      | some c => .ok (c, rest)
      | none => .error (.ofSyntax .invalidEscape (letter :: rest))

theorem fourDigitsLe {text rest : Text} {unit : Nat} (h : fourDigits text = .ok (unit, rest)) :
    rest.length ≤ text.length := by
  unfold fourDigits at h
  split at h
  · next result found =>
    cases h
    unfold fourDigits? at found
    split at found
    · simp only [bind, Option.bind_eq_some_iff, Option.some.injEq, Prod.mk.injEq] at found
      obtain ⟨_, _, _, _, _, _, _, _, _, rfl⟩ := found
      simp only [List.length_cons]; omega
    · cases found
  · split at h <;> cases h

theorem secondMarkLe {letters text rest : Text} (h : secondMark letters text = .ok rest) :
    rest.length ≤ text.length := by
  induction letters generalizing text with
  | nil => cases h; exact Nat.le_refl _
  | cons letter letters ih =>
    cases text with
    | nil => cases h
    | cons c text =>
      simp only [secondMark] at h
      split at h
      · exact Nat.le_succ_of_le (ih h)
      · cases h

theorem unicodeEscapeLe {text rest : Text} {c : Char} (h : unicodeEscape text = .ok (c, rest)) :
    rest.length ≤ text.length := by
  unfold unicodeEscape at h
  obtain ⟨⟨unit, afterUnit⟩, first, h⟩ := bindOk h
  have le := fourDigitsLe first
  simp only at h
  split at h
  · cases h
  · split at h
    · obtain ⟨afterMark, mark, h⟩ := bindOk h
      have leMark := secondMarkLe mark
      obtain ⟨⟨low, afterLow⟩, second, h⟩ := bindOk h
      have leLow := fourDigitsLe second
      simp only at h
      split at h
      · simp only [Except.ok.injEq, Prod.mk.injEq] at h
        obtain ⟨_, rfl⟩ := h
        exact Nat.le_trans leLow (Nat.le_trans leMark le)
      · cases h
    · simp only [Except.ok.injEq, Prod.mk.injEq] at h
      obtain ⟨_, rfl⟩ := h
      exact le

theorem escapeLe {text rest : Text} {c : Char} (h : escape text = .ok (c, rest)) :
    rest.length ≤ text.length := by
  cases text with
  | nil => cases h
  | cons letter text =>
    simp only [escape] at h
    split at h
    · exact Nat.le_succ_of_le (unicodeEscapeLe h)
    · split at h
      · cases h; exact Nat.le_succ _
      · cases h

def characters (text : Text) : Except Failure (Text × Text) :=
  match text with
  | [] => .error (.atEnd .string)
  | c :: rest =>
    if c = '"' then .ok ([], rest)
    else if c = '\\' then
      match _found : escape rest with
      | .error failure => .error failure
      | .ok (value, left) => (characters left).map fun (values, left) => (value :: values, left)
    else if c.toNat < 0x20 then .error (.ofSyntax .controlCharacter (c :: rest))
    else (characters rest).map fun (values, left) => (c :: values, left)
termination_by text.length
decreasing_by
  · have := escapeLe _found; simp only [List.length_cons]; omega
  · simp

theorem charactersLt {text rest values : Text} (h : characters text = .ok (values, rest)) :
    rest.length < text.length := by
  fun_induction characters text generalizing values with
  | case1 => cases h
  | case2 => cases h; simp
  | case3 => cases h
  | case4 tail value left found _ ih =>
    obtain ⟨⟨deeper, left'⟩, read, same⟩ := mapOk h
    cases same
    have le := escapeLe found
    have := ih read
    simp only [List.length_cons]
    omega
  | case5 => cases h
  | case6 c tail _ _ _ ih =>
    obtain ⟨⟨deeper, left'⟩, read, same⟩ := mapOk h
    cases same
    have := ih read
    simp only [List.length_cons]
    omega

structure Exponent where
  negative : Bool
  digits : Text

structure Numeral where
  negative : Bool
  whole : Text
  fraction : Option Text
  exponent : Option Exponent

def digitsValue (digits : Text) : Nat := Nat.ofDigitChars 10 digits 0

def appendDigits (limit n : Nat) : Text → Nat × Text
  | [] => (n, [])
  | c :: rest =>
    let next := n * 10 + (c.toNat - '0'.toNat)
    if next < limit then appendDigits limit next rest else (n, c :: rest)

namespace Exponent

/-- An exponent is held in 31 bits. A longer one is cut, which still leaves it beyond all numbers. -/
def read (exponent : Exponent) : Nat × Text := appendDigits (Nat.pow 2 31) 0 exponent.digits

def value (exponent : Exponent) : Int :=
  if exponent.negative then -(exponent.read.1 : Int) else exponent.read.1

end Exponent

namespace Numeral

def integer? (numeral : Numeral) : Option Int :=
  if numeral.fraction.isSome || numeral.exponent.isSome then none
  else
    let n := digitsValue numeral.whole
    if numeral.negative then
      if 0 < n ∧ n ≤ Nat.pow 2 63 then some (-n) else none
    else if n < Nat.pow 2 64 then some n else none

/-- The digits that 64 bits can hold are the significand; further digits of the whole part only raise
the exponent, and further ones of the fraction do not count. -/
def real? (numeral : Numeral) : Option Binary :=
  let fraction := numeral.fraction.getD []
  let (significand, surplus) := appendDigits (Nat.pow 2 64) 0 numeral.whole
  let (significand, ignored) := appendDigits (Nat.pow 2 64) significand fraction
  let exponent := (numeral.exponent.map (·.value)).getD 0
  Binary.scientific numeral.negative significand (exponent + surplus.length - (fraction.length - ignored.length : Nat))

def overrun (numeral : Numeral) : Text :=
  match numeral.exponent with
  | none => []
  | some exponent => exponent.read.2.drop 1

end Numeral

def digits (cut : Failure) (text : Text) : Except Failure (Text × Text) :=
  match text with
  | [] => .error cut
  | c :: _ =>
    if c.isDigit then .ok (text.takeWhile Char.isDigit, text.dropWhile Char.isDigit)
    else .error (.ofSyntax .invalidNumber text)

def wholePart (cut : Failure) (text : Text) : Except Failure (Text × Text) :=
  match text with
  | '0' :: rest =>
    match rest with
    | c :: _ => if c.isDigit then .error (.ofSyntax .invalidNumber rest) else .ok (['0'], rest)
    | [] => .ok (['0'], rest)
  | _ => digits cut text

def fractionPart (cut : Failure) : Text → Except Failure (Option Text × Text)
  | '.' :: rest => (digits cut rest).map fun (digits, rest) => (some digits, rest)
  | text => .ok (none, text)

def exponentPart (cut : Failure) (text : Text) : Except Failure (Option Exponent × Text) :=
  match text with
  | c :: rest =>
    if c = 'e' ∨ c = 'E' then
      let (negative, rest) : Bool × Text := match rest with
        | '-' :: rest => (true, rest)
        | '+' :: rest => (false, rest)
        | rest => (false, rest)
      (digits cut rest).map fun (digits, rest) => (some ⟨negative, digits⟩, rest)
    else .ok (none, text)
  | [] => .ok (none, text)

def numeral (cut : Failure) (text : Text) : Except Failure (Numeral × Text) := do
  let (negative, text) : Bool × Text := match text with
    | '-' :: rest => (true, rest)
    | text => (false, text)
  let (whole, text) ← wholePart cut text
  let (fraction, text) ← fractionPart cut text
  let (exponent, text) ← exponentPart cut text
  .ok (⟨negative, whole, fraction, exponent⟩, text)

def number (text : Text) : Except Failure (Value × Text) := do
  let (numeral, rest) ← numeral (.atEnd .value) text
  match numeral.integer? with
  | some value => .ok (.integer value, rest)
  | none => match numeral.real? with
    | some value => .ok (.real value, rest)
    | none => .error (.before (.syntaxFault .numberTooLarge) (numeral.overrun ++ rest))

def startsNumber (c : Char) : Bool := c == '-' || c.isDigit

def scalar (text : Text) : Except Failure (Value × Text) :=
  match text with
  | [] => .error (.atEnd .value)
  | c :: rest =>
    if c = 'n' then (spell "ull" rest).map fun rest => (.null, rest)
    else if c = 't' then (spell "rue" rest).map fun rest => (.boolean true, rest)
    else if c = 'f' then (spell "alse" rest).map fun rest => (.boolean false, rest)
    else if c = '"' then (characters rest).map fun (text, rest) => (.string text, rest)
    else if startsNumber c then number text
    else .error (.ofSyntax .noValue text)

theorem digitsLt {cut : Failure} {text rest : Text} {found} (h : digits cut text = .ok (found, rest)) :
    rest.length < text.length := by
  unfold digits at h
  split at h
  · cases h
  · next c tail =>
    split at h
    · next digit =>
      cases h
      rw [List.dropWhile_cons_of_pos digit, List.length_cons]
      exact Nat.lt_succ_of_le (List.dropWhile_sublist _).length_le
    · cases h

theorem wholePartLt {cut : Failure} {text rest : Text} {found} (h : wholePart cut text = .ok (found, rest)) :
    rest.length < text.length := by
  unfold wholePart at h
  split at h
  · split at h
    · split at h
      · cases h
      · cases h; simp
    · cases h; simp
  · exact digitsLt h

theorem fractionPartLe {cut : Failure} {text rest : Text} {found}
    (h : fractionPart cut text = .ok (found, rest)) : rest.length ≤ text.length := by
  unfold fractionPart at h
  split at h
  · obtain ⟨_, read, same⟩ := mapOk h
    cases same
    exact Nat.le_succ_of_le (Nat.le_of_lt (digitsLt read))
  · cases h; exact Nat.le_refl _

theorem exponentPartLe {cut : Failure} {text rest : Text} {found}
    (h : exponentPart cut text = .ok (found, rest)) : rest.length ≤ text.length := by
  unfold exponentPart at h
  split at h
  · split at h
    · obtain ⟨_, read, same⟩ := mapOk h
      cases same
      have lt := digitsLt read
      simp only [List.length_cons]
      split at lt <;> simp only [List.length_cons] at * <;> omega
    · cases h; exact Nat.le_refl _
  · cases h; exact Nat.le_refl _

theorem numeralLt {cut : Failure} {text rest : Text} {value} (h : numeral cut text = .ok (value, rest)) :
    rest.length < text.length := by
  unfold numeral at h
  split at h
  next negative start signed =>
    obtain ⟨⟨_, afterWhole⟩, whole, h⟩ := bindOk h
    obtain ⟨⟨_, afterFraction⟩, fraction, h⟩ := bindOk h
    obtain ⟨⟨_, afterExponent⟩, exponent, h⟩ := bindOk h
    cases h
    have := wholePartLt whole
    have := fractionPartLe fraction
    have := exponentPartLe exponent
    have : start.length ≤ text.length := by
      split at signed <;> cases signed <;> simp
    omega

theorem numberLt {text rest : Text} {value} (h : number text = .ok (value, rest)) :
    rest.length < text.length := by
  unfold number at h
  obtain ⟨⟨_, left⟩, read, h⟩ := bindOk h
  have lt := numeralLt read
  simp only at h
  split at h
  · cases h; exact lt
  · split at h
    · cases h; exact lt
    · cases h

theorem scalarLt {text rest : Text} {value} (h : scalar text = .ok (value, rest)) :
    rest.length < text.length := by
  unfold scalar at h
  split at h
  · cases h
  · simp only [List.length_cons]
    split at h
    · obtain ⟨_, read, same⟩ := mapOk h
      cases same; exact Nat.lt_succ_of_le (spellLe read)
    · split at h
      · obtain ⟨_, read, same⟩ := mapOk h
        cases same; exact Nat.lt_succ_of_le (spellLe read)
      · split at h
        · obtain ⟨_, read, same⟩ := mapOk h
          cases same; exact Nat.lt_succ_of_le (spellLe read)
        · split at h
          · obtain ⟨_, read, same⟩ := mapOk h
            cases same; exact Nat.lt_succ_of_lt (charactersLt read)
          · split at h
            · exact numberLt h
            · cases h

end TypeLens.Json
