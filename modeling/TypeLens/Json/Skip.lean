import TypeLens.Json.Bracket

/-! Passing over a value that nobody asked for. Its open brackets are kept in a list of their
own, so it may nest to any depth; escapes and numbers are checked for their form alone. -/
namespace TypeLens.Json

inductive Frame where
  | list | object
  deriving DecidableEq

namespace Frame

def closing : Frame → Char
  | .list => ']'
  | .object => '\x7d'

def unfinished : Frame → Unfinished
  | .list => .list
  | .object => .object

def noComma : Frame → SyntaxFault
  | .list => .noCommaInList
  | .object => .noCommaInObject

end Frame

def skipCharacters (text : Text) : Except Failure Text :=
  match text with
  | [] => .error (.atEnd .string)
  | c :: rest =>
    if c = '"' then .ok rest
    else if c = '\\' then
      match rest with
      | [] => .error (.atEnd .string)
      | letter :: tail =>
        if letter = 'u' then
          match _found : fourDigits tail with
          | .error failure => .error failure
          | .ok (_, left) => skipCharacters left
        else if (shortEscape letter).isSome then skipCharacters tail
        else .error (.ofSyntax .invalidEscape (letter :: tail))
    else if c.toNat < 0x20 then .error (.before (.syntaxFault .controlCharacter) (c :: rest))
    else skipCharacters rest
termination_by text.length
decreasing_by
  · have := fourDigitsLe _found; simp only [List.length_cons]; omega
  · simp only [List.length_cons]; omega
  · simp

def skipScalar (text : Text) : Except Failure Text :=
  match text with
  | [] => .error (.atEnd .value)
  | c :: rest =>
    if c = 'n' then spell "ull" rest
    else if c = 't' then spell "rue" rest
    else if c = 'f' then spell "alse" rest
    else if c = '"' then skipCharacters rest
    else if startsNumber c then (numeral ⟨.syntaxFault .invalidNumber, 0⟩ text).map (·.2)
    else .error (.ofSyntax .noValue text)

def skipName (frame : Frame) (text : Text) : Except Failure Text :=
  match frame with
  | .list => .ok text
  | .object =>
    match skipBlanks text with
    | [] => .error (.atEnd .object)
    | c :: rest =>
      if c = '"' then skipCharacters rest >>= colon
      else .error (.ofSyntax .keyNoString (c :: rest))

inductive Awaited where
  | value
  | next (comma : Bool)

def Awaited.rank : Awaited → Nat
  | .value => 0
  | .next _ => 1

theorem skipCharactersLt {text rest : Text} (h : skipCharacters text = .ok rest) : rest.length < text.length := by
  fun_induction skipCharacters text with
  | case1 => cases h
  | case2 => cases h; simp
  | case3 => cases h
  | case4 => cases h
  | case5 tail _ left found _ ih =>
    have := fourDigitsLe found
    have := ih h
    simp only [List.length_cons]; omega
  | case6 letter tail _ _ _ ih =>
    have := ih h
    simp only [List.length_cons]; omega
  | case7 => cases h
  | case8 => cases h
  | case9 c tail _ _ _ ih =>
    have := ih h
    simp only [List.length_cons]; omega

theorem skipScalarLt {text rest : Text} (h : skipScalar text = .ok rest) : rest.length < text.length := by
  unfold skipScalar at h
  split at h
  · cases h
  · simp only [List.length_cons]
    split at h
    · exact Nat.lt_succ_of_le (spellLe h)
    · split at h
      · exact Nat.lt_succ_of_le (spellLe h)
      · split at h
        · exact Nat.lt_succ_of_le (spellLe h)
        · split at h
          · exact Nat.lt_succ_of_lt (skipCharactersLt h)
          · split at h
            · obtain ⟨_, read, same⟩ := mapOk h
              cases same; exact numeralLt read
            · cases h

theorem skipNameLe {frame : Frame} {text rest : Text} (h : skipName frame text = .ok rest) :
    rest.length ≤ text.length := by
  unfold skipName at h
  split at h
  · cases h; exact Nat.le_refl _
  · split at h
    · cases h
    · next c tail blank =>
      have le := skipBlanksLe text
      rw [blank, List.length_cons] at le
      split at h
      · obtain ⟨_, read, next⟩ := bindOk h
        have := skipCharactersLt read
        have := colonLt next
        omega
      · cases h

def skip : List Frame → Awaited → Text → Except Failure Text
  | opened, .value, text =>
    match _blank : skipBlanks text with
    | [] => .error (.atEnd .value)
    | c :: rest =>
      if c = '[' then skip (.list :: opened) (.next false) rest
      else if c = '\x7b' then skip (.object :: opened) (.next false) rest
      else match _scalar : skipScalar (c :: rest) with
        | .error failure => .error failure
        | .ok left => skip opened (.next true) left
  | [], .next _, text => .ok text
  | frame :: outer, .next comma, text =>
    match _blank : skipBlanks text with
    | [] => .error (.atEnd frame.unfinished)
    | c :: rest =>
      if c = ',' ∧ comma = true then
        match _name : skipName frame rest with
        | .error failure => .error failure
        | .ok start => skip (frame :: outer) .value start
      else if c = frame.closing then skip outer (.next true) rest
      else if comma then .error (.ofSyntax frame.noComma (c :: rest))
      else match _name : skipName frame (c :: rest) with
        | .error failure => .error failure
        | .ok start => skip (frame :: outer) .value start
termination_by _ awaited text => (text.length, awaited.rank)
decreasing_by
  all_goals
    have le := skipBlanksLe text
    rw [_blank, List.length_cons] at le
    simp only [Awaited.rank]
  · left; omega
  · left; omega
  · have := skipScalarLt _scalar; simp only [List.length_cons] at this; left; omega
  · have := skipNameLe _name; left; omega
  · left; omega
  · have := skipNameLe _name
    simp only [List.length_cons] at this
    apply Prod.Lex.right'
    · omega
    · omega

theorem skipLe {opened : List Frame} {awaited : Awaited} {text rest : Text}
    (h : skip opened awaited text = .ok rest) : rest.length + (1 - awaited.rank) ≤ text.length := by
  revert h
  fun_induction skip opened awaited text with (intro h; simp only [Awaited.rank] at *)
  | case1 => cases h
  | case2 opened text tail blank ih => have := skipBlanksCons blank; have := ih h; omega
  | case3 opened text tail blank _ ih => have := skipBlanksCons blank; have := ih h; omega
  | case4 => cases h
  | case5 opened text c tail blank _ _ left scalar ih =>
    have := skipBlanksLe text
    rw [blank] at this
    have := skipScalarLt scalar; have := ih h; omega
  | case6 => cases h; simp
  | case7 => cases h
  | case8 => cases h
  | case9 frame outer comma text c tail blank _ start name ih =>
    have := skipBlanksCons blank; have := skipNameLe name; have := ih h; omega
  | case10 frame outer comma text tail blank _ ih =>
    have := skipBlanksCons blank; have := ih h; omega
  | case11 => cases h
  | case12 => cases h
  | case13 frame outer comma text c tail blank _ _ _ start name ih =>
    have := skipBlanksLe text
    rw [blank] at this
    have := skipNameLe name; have := ih h; omega

def skipped : Reader Unit where
  read text := match skip [] .value text with
    | .ok rest => .ok () rest
    | .error failure => .failed failure
  consumes {text value rest} h := by
    split at h
    · next left found => cases h; exact skipLe found
    · cases h

end TypeLens.Json
