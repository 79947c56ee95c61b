import TypeLens.Proofs.Json.Plain
import TypeLens.Proofs.Json.Spelled
import Mathlib.Data.List.TakeWhile

/-! Strings and numbers are read exactly as they are spelled. -/
namespace TypeLens.Json

theorem fourDigitsMore {digits : Text} {unit : Nat} (four : fourDigits? digits = some (unit, [])) (rest : Text) :
    fourDigits (digits ++ rest) = .ok (unit, rest) := by
  have more : fourDigits? (digits ++ rest) = some (unit, rest) := by
    unfold fourDigits? at four
    split at four
    · next a b c d left =>
      simp only [bind, Option.bind_eq_some_iff, Option.some.injEq, Prod.mk.injEq] at four
      obtain ⟨a', read, b', read', c', read'', d', read''', rfl, rfl⟩ := four
      simp [fourDigits?, read, read', read'', read''']
    · cases four
  rw [fourDigits, more]

theorem fourDigitsSpelled {text rest : Text} {unit : Nat} (read : fourDigits text = .ok (unit, rest)) :
    ∃ digits, text = digits ++ rest ∧ fourDigits? digits = some (unit, []) := by
  unfold fourDigits at read
  split at read
  · next found =>
    cases read
    unfold fourDigits? at found
    split at found
    · next a b c d left =>
      simp only [bind, Option.bind_eq_some_iff, Option.some.injEq, Prod.mk.injEq] at found
      obtain ⟨a', read, b', read', c', read'', d', read''', rfl, rfl⟩ := found
      exact ⟨[a, b, c, d], rfl, by simp [fourDigits?, read, read', read'', read''']⟩
    · cases found
  · split at read <;> cases read

theorem secondMarkIff {letters text rest : Text} : secondMark letters text = .ok rest ↔ text = letters ++ rest := by
  induction letters generalizing text with
  | nil => simp [secondMark, eq_comm]
  | cons letter letters ih =>
    cases text with
    | nil => simp [secondMark]
    | cons c text =>
      simp only [secondMark]
      split
      · next same => simp [same, ih]
      · next other => simp [other]

theorem escapeIff {text rest : Text} {c : Char} :
    escape text = .ok (c, rest) ↔ ∃ letters, SpellsCharacter ('\\' :: letters) c ∧ text = letters ++ rest := by
  constructor
  · intro read
    cases text with
    | nil => cases read
    | cons letter text =>
      simp only [escape] at read
      split at read
      · next unicode =>
        subst unicode
        unfold unicodeEscape at read
        obtain ⟨⟨unit, left⟩, first, behind⟩ := bindOk read
        obtain ⟨digits, rfl, four⟩ := fourDigitsSpelled first
        simp only at behind
        split at behind
        · cases behind
        · next low =>
          split at behind
          · next high =>
            obtain ⟨_, mark, behindMark⟩ := bindOk behind
            obtain rfl := secondMarkIff.mp mark
            obtain ⟨⟨second, _⟩, last, made⟩ := bindOk behindMark
            obtain ⟨lowDigits, rfl, fourLow⟩ := fourDigitsSpelled last
            simp only at made
            split at made
            · next second =>
              simp only [Except.ok.injEq, Prod.mk.injEq] at made
              obtain ⟨rfl, rfl⟩ := made
              exact ⟨'u' :: (digits ++ '\\' :: 'u' :: lowDigits), .pair four fourLow high second, by simp⟩
            · cases made
          · next high => cases behind; exact ⟨_, .unit four (by simpa using low) (by simpa using high), rfl⟩
      · split at read
        · next known => cases read; exact ⟨_, .short known, rfl⟩
        · cases read
  · rintro ⟨letters, spelled, rfl⟩
    cases spelled with
    | plain _ backslash => exact absurd rfl backslash
    | @short letter _ known =>
      have letters : letter ≠ 'u' := by rintro rfl; cases known
      simp [escape, letters, known]
    | unit four low high =>
      simp [escape, unicodeEscape, fourDigitsMore four, bind, Except.bind, low, high]
    | @pair digits lowDigits unit low four fourLow high second =>
      have notLow : isLowSurrogate unit = false := by
        simp only [isHighSurrogate, isLowSurrogate, Bool.and_eq_true, decide_eq_true_eq] at high ⊢
        simp
        omega
      have mark : secondMark "\\u" ('\\' :: 'u' :: (lowDigits ++ rest)) = .ok (lowDigits ++ rest) :=
        secondMarkIff.mpr rfl
      have first := fourDigitsMore four ('\\' :: 'u' :: (lowDigits ++ rest))
      have further := fourDigitsMore fourLow rest
      simp only [escape, unicodeEscape, List.cons_append, List.append_assoc, if_true, first, bind, Except.bind,
        notLow, Bool.false_eq_true, if_false, high, mark, further, second]

theorem characterForm {piece : Text} {c : Char} (spelled : SpellsCharacter piece c) :
    (piece = [c] ∧ c ≠ '"' ∧ c ≠ '\\' ∧ ¬c.toNat < 0x20) ∨ ∃ letters, piece = '\\' :: letters := by
  cases spelled with
  | plain quote backslash visible => exact .inl ⟨rfl, quote, backslash, visible⟩
  | short | unit | pair => exact .inr ⟨_, rfl⟩

theorem charactersIff {text value rest : Text} : characters text = .ok (value, rest) ↔
    ∃ body, SpellsCharacters body value ∧ text = body ++ '"' :: rest := by
  constructor
  · intro read
    fun_induction characters text generalizing value with
    | case1 => cases read
    | case2 => cases read; exact ⟨[], .nil, rfl⟩
    | case3 => cases read
    | case4 tail c left found _ ih =>
      obtain ⟨⟨further, _⟩, read, same⟩ := mapOk read
      cases same
      obtain ⟨body, later, rfl⟩ := ih read
      obtain ⟨letters, first, rfl⟩ := escapeIff.mp found
      exact ⟨_, .cons first later, by simp⟩
    | case5 => cases read
    | case6 c tail quote backslash visible ih =>
      obtain ⟨⟨further, _⟩, read, same⟩ := mapOk read
      cases same
      obtain ⟨body, later, rfl⟩ := ih read
      exact ⟨_, .cons (.plain quote backslash visible) later, rfl⟩
  · rintro ⟨body, spelled, rfl⟩
    induction spelled with
    | nil => rw [List.nil_append, characters]; rfl
    | @cons piece body c text first later ih =>
      rw [List.append_assoc]
      rcases characterForm first with ⟨rfl, quote, backslash, visible⟩ | ⟨letters, rfl⟩
      · rw [List.singleton_append, characters, if_neg quote, if_neg backslash, if_neg visible, ih]
        rfl
      · have read (rest : Text) : escape (letters ++ rest) = .ok (c, rest) := escapeIff.mpr ⟨letters, first, rfl⟩
        rw [List.cons_append, characters, if_neg (by decide), if_pos rfl]
        split
        · next failure found => rw [read] at found; cases found
        · next value left found =>
          rw [read] at found
          cases found
          rw [ih]
          rfl

/- Numbers. Their end is seen only by what follows. -/

def Ended (rest : Text) : Prop := ∀ c ∈ rest.head?, ¬c.isDigit ∧ c ≠ '.' ∧ c ≠ 'e' ∧ c ≠ 'E'

theorem endedNil : Ended [] := by simp [Ended]

theorem endedCons {c : Char} (rest : Text) (ends : ¬c.isDigit ∧ c ≠ '.' ∧ c ≠ 'e' ∧ c ≠ 'E') : Ended (c :: rest) := by
  rintro _ ⟨⟩
  exact ends

theorem digitsRead (cut : Failure) {found : Text} (all : Digits found) {rest : Text}
    (ended : ∀ c ∈ rest.head?, c.isDigit = false) : digits cut (found ++ rest) = .ok (found, rest) := by
  have stops : rest.takeWhile Char.isDigit = [] ∧ rest.dropWhile Char.isDigit = rest := by
    cases rest with
    | nil => exact ⟨rfl, rfl⟩
    | cons d rest => simp [ended d rfl]
  obtain ⟨some_, each⟩ := all
  cases found with
  | nil => exact absurd rfl some_
  | cons c found =>
    rw [List.cons_append, digits, if_pos (each c List.mem_cons_self), ← List.cons_append,
      List.takeWhile_append_of_pos each, List.dropWhile_append_of_pos each, stops.1, stops.2, List.append_nil]

theorem digitsUnsigned {found : Text} (all : Digits found) {sign : Char} (noDigit : sign.isDigit = false)
    (rest tail : Text) : found ++ rest ≠ sign :: tail := by
  obtain ⟨some_, each⟩ := all
  cases found with
  | nil => exact absurd rfl some_
  | cons c found =>
    rintro ⟨⟩
    exact absurd (each sign List.mem_cons_self) (by simp [noDigit])

theorem digitsSpelled {cut : Failure} {text found rest : Text} (read : digits cut text = .ok (found, rest)) :
    Digits found ∧ text = found ++ rest := by
  unfold digits at read
  split at read
  · cases read
  · next c tail =>
    split at read
    · next digit =>
      cases read
      refine ⟨⟨by simp [digit], fun c member => List.mem_takeWhile_imp member⟩, List.takeWhile_append_dropWhile.symm⟩
    · cases read

theorem wholeRead (cut : Failure) {whole : Text} (starts : Whole whole) {rest : Text}
    (ended : ∀ c ∈ rest.head?, c.isDigit = false) : wholePart cut (whole ++ rest) = .ok (whole, rest) := by
  rcases starts with rfl | ⟨all, leads⟩
  · cases rest with
    | nil => rfl
    | cons c rest =>
      have other : c.isDigit = false := ended c rfl
      simp [wholePart, other]
  · rw [← digitsRead cut all ended]
    unfold wholePart
    split
    · next same =>
      cases whole with
      | nil => exact absurd rfl all.1
      | cons c whole => cases same; exact absurd rfl leads
    · rfl

theorem wholeSpelled {cut : Failure} {text found rest : Text} (read : wholePart cut text = .ok (found, rest)) :
    Whole found ∧ text = found ++ rest := by
  unfold wholePart at read
  split at read
  · split at read
    · split at read <;> cases read
      exact ⟨.inl rfl, rfl⟩
    · cases read
      exact ⟨.inl rfl, rfl⟩
  · next other =>
    obtain ⟨all, rfl⟩ := digitsSpelled read
    refine ⟨.inr ⟨all, fun leads => ?_⟩, rfl⟩
    cases found with
    | nil => cases leads
    | cons c found => cases leads; exact other _ rfl

theorem fractionRead (cut : Failure) {text : Text} {fraction : Option Text} (spelled : SpellsFraction text fraction)
    {rest : Text} (ended : ∀ c ∈ rest.head?, c.isDigit = false ∧ c ≠ '.') :
    fractionPart cut (text ++ rest) = .ok (fraction, rest) := by
  cases spelled with
  | none =>
    unfold fractionPart
    split
    · next same => exact absurd rfl (ended '.' (by rw [List.nil_append] at same; rw [same]; rfl)).2
    · rfl
  | some all =>
    rw [List.cons_append, fractionPart, digitsRead cut all fun c first => (ended c first).1]
    rfl

theorem fractionSpelled {cut : Failure} {text rest : Text} {fraction : Option Text}
    (read : fractionPart cut text = .ok (fraction, rest)) :
    ∃ piece, SpellsFraction piece fraction ∧ text = piece ++ rest := by
  unfold fractionPart at read
  split at read
  · obtain ⟨⟨found, _⟩, read, same⟩ := mapOk read
    cases same
    obtain ⟨all, rfl⟩ := digitsSpelled read
    exact ⟨_, .some all, rfl⟩
  · cases read
    exact ⟨[], .none, rfl⟩

theorem exponentRead (cut : Failure) {text : Text} {exponent : Option Exponent}
    (spelled : SpellsExponent text exponent) {rest : Text} (ended : Ended rest) :
    exponentPart cut (text ++ rest) = .ok (exponent, rest) := by
  cases spelled with
  | none =>
    cases rest with
    | nil => rfl
    | cons c rest => simp [exponentPart, (ended c rfl).2.2]
  | @some mark sign found known signed all =>
    have read := digitsRead cut all fun c first => by simpa using (ended c first).1
    rcases signed with rfl | rfl | rfl
    · rw [List.nil_append, List.cons_append, exponentPart, if_pos known, read]
      · rfl
      · exact fun tail => digitsUnsigned all rfl rest tail
      · exact fun tail => digitsUnsigned all rfl rest tail
    · simp [exponentPart, known, read, Except.map]
    · simp [exponentPart, known, read, Except.map]

theorem exponentSpelled {cut : Failure} {text rest : Text} {exponent : Option Exponent}
    (read : exponentPart cut text = .ok (exponent, rest)) :
    ∃ piece, SpellsExponent piece exponent ∧ text = piece ++ rest := by
  unfold exponentPart at read
  split at read
  · next mark tail =>
    split at read
    · next known =>
      obtain ⟨⟨found, _⟩, behind, same⟩ := mapOk read
      cases same
      split at behind <;> obtain ⟨all, rfl⟩ := digitsSpelled behind
      · exact ⟨_, .some known (.inr (.inr rfl)) all, rfl⟩
      · exact ⟨_, .some known (.inr (.inl rfl)) all, rfl⟩
      · exact ⟨_, .some known (.inl rfl) all, rfl⟩
    · cases read
      exact ⟨[], .none, rfl⟩
  · cases read
    exact ⟨[], .none, rfl⟩

theorem exponentEnded {text rest : Text} {exponent : Option Exponent} (spelled : SpellsExponent text exponent)
    (ended : Ended rest) : ∀ c ∈ (text ++ rest).head?, c.isDigit = false ∧ c ≠ '.' := by
  cases spelled with
  | none => exact fun c first => ⟨by simpa using (ended c first).1, (ended c first).2.1⟩
  | some known =>
    rintro c ⟨⟩
    rcases known with rfl | rfl <;> decide

theorem fractionEnded {text rest : Text} {fraction : Option Text} (spelled : SpellsFraction text fraction)
    (ended : ∀ c ∈ rest.head?, c.isDigit = false) : ∀ c ∈ (text ++ rest).head?, c.isDigit = false := by
  cases spelled with
  | none => exact ended
  | some => rintro c ⟨⟩; rfl

theorem numeralRead (cut : Failure) {text : Text} {found : Numeral} (spelled : SpellsNumeral text found) {rest : Text}
    (ended : Ended rest) : numeral cut (text ++ rest) = .ok (found, rest) := by
  cases spelled with
  | @numeral negative whole fractionText fraction exponentText exponent starts goesOn ends =>
    have behind := exponentEnded ends ended
    have readExponent := exponentRead cut ends ended
    have readFraction := fractionRead cut goesOn behind
    have readWhole := wholeRead cut starts (fractionEnded goesOn fun c first => (behind c first).1)
    cases negative with
    | true =>
      simp only [if_true, List.nil_append, List.append_assoc, List.cons_append, numeral, readWhole, readFraction,
        readExponent, bind, Except.bind]
    | false =>
      simp only [Bool.false_eq_true, if_false, List.nil_append, List.append_assoc]
      obtain ⟨c, digits, rfl, digit⟩ := wholeStarts starts
      unfold numeral
      split
      next negative unsigned same =>
      split at same
      · next same' => cases same'; cases digit
      · cases same
        simp only [readWhole, readFraction, readExponent, bind, Except.bind]

theorem numeralSpelled {cut : Failure} {text rest : Text} {found : Numeral}
    (read : numeral cut text = .ok (found, rest)) : ∃ piece, SpellsNumeral piece found ∧ text = piece ++ rest := by
  unfold numeral at read
  split at read
  next negative unsigned signed =>
  obtain ⟨⟨whole, _⟩, readWhole, read⟩ := bindOk read
  obtain ⟨⟨fraction, _⟩, readFraction, read⟩ := bindOk read
  obtain ⟨⟨exponent, _⟩, readExponent, read⟩ := bindOk read
  cases read
  obtain ⟨starts, rfl⟩ := wholeSpelled readWhole
  obtain ⟨fractionText, goesOn, rfl⟩ := fractionSpelled readFraction
  obtain ⟨exponentText, ends, rfl⟩ := exponentSpelled readExponent
  refine ⟨_, .numeral starts goesOn ends, ?_⟩
  split at signed <;> cases signed <;> simp

theorem spellSpelled {letters text rest : Text} : spell letters text = .ok rest ↔ text = letters ++ rest := by
  induction letters generalizing text with
  | nil => simp [spell, eq_comm]
  | cons letter letters ih =>
    cases text with
    | nil => simp [spell]
    | cons c text =>
      simp only [spell]
      split
      · next same => simp [same, ih]
      · next other => simp [other]

theorem numberRead {text : Text} {found : Numeral} {value : Value} (spelled : SpellsNumeral text found)
    (names : found.Names value) {rest : Text} (ended : Ended rest) :
    number (text ++ rest) = .ok (value, rest) := by
  simp only [number, numeralRead _ spelled ended, bind, Except.bind]
  cases names with
  | integer exact_ => rw [exact_]
  | real inexact near => simp only [inexact, near]

theorem numberStops {text : Text} {found : Numeral} (spelled : SpellsNumeral text found)
    (noInteger : found.integer? = none) (noReal : found.real? = none) {rest : Text} (ended : Ended rest) :
    ∃ left, number (text ++ rest) = .error ⟨.syntaxFault .numberTooLarge, left⟩ := by
  simp only [number, numeralRead _ spelled ended, bind, Except.bind, noInteger, noReal]
  exact ⟨_, rfl⟩

theorem numberSpelled {text rest : Text} {value : Value} (read : number text = .ok (value, rest)) :
    ∃ piece found, SpellsNumeral piece found ∧ found.Names value ∧ text = piece ++ rest := by
  unfold number at read
  obtain ⟨⟨found, _⟩, readNumeral, made⟩ := bindOk read
  obtain ⟨piece, spelled, rfl⟩ := numeralSpelled readNumeral
  simp only at made
  split at made
  · next exact_ => cases made; exact ⟨piece, found, spelled, .integer exact_, rfl⟩
  · next inexact =>
    split at made
    · next near => cases made; exact ⟨piece, found, spelled, .real inexact near, rfl⟩
    · cases made

theorem scalarNumber {c : Char} (starts : startsNumber c) (text : Text) : scalar (c :: text) = number (c :: text) := by
  have noWord : c ≠ 'n' ∧ c ≠ 't' ∧ c ≠ 'f' ∧ c ≠ '"' := by
    refine ⟨?_, ?_, ?_, ?_⟩ <;> rintro rfl <;> simp [startsNumber] at starts
  simp only [scalar, noWord, if_false, starts, if_true]

theorem scalarRead {text : Text} {value : Value} (spelled : Spells text value) (flat : value.depth = 0) {rest : Text}
    (ended : Ended rest) : scalar (text ++ rest) = .ok (value, rest) := by
  cases spelled with
  | null | false | true => rfl
  | number spelled names =>
    have read := numberRead spelled names ended
    obtain ⟨c, digits, rfl, starts⟩ := numeralStarts spelled
    rw [List.cons_append] at *
    rw [scalarNumber starts, read]
  | @string body text all =>
    have read : characters (body ++ '"' :: rest) = .ok (text, rest) := charactersIff.mpr ⟨body, all, rfl⟩
    rw [List.cons_append, List.append_assoc, List.singleton_append, scalar, if_neg (by decide), if_neg (by decide),
      if_neg (by decide), if_pos rfl, read]
    rfl
  | array | object => simp [Value.depth] at flat

theorem scalarSpelled {text rest : Text} {value : Value} (read : scalar text = .ok (value, rest)) :
    ∃ piece, Spells piece value ∧ value.depth = 0 ∧ text = piece ++ rest := by
  unfold scalar at read
  split at read
  · cases read
  · split at read
    · next null =>
      obtain ⟨_, spelled, same⟩ := mapOk read
      cases same
      obtain rfl := spellSpelled.mp spelled
      exact ⟨_, .null, by simp [Value.depth], by rw [null]; rfl⟩
    split at read
    · next yes =>
      obtain ⟨_, spelled, same⟩ := mapOk read
      cases same
      obtain rfl := spellSpelled.mp spelled
      exact ⟨_, .true, by simp [Value.depth], by rw [yes]; rfl⟩
    split at read
    · next no =>
      obtain ⟨_, spelled, same⟩ := mapOk read
      cases same
      obtain rfl := spellSpelled.mp spelled
      exact ⟨_, .false, by simp [Value.depth], by rw [no]; rfl⟩
    split at read
    · next quote =>
      obtain ⟨_, found, same⟩ := mapOk read
      cases same
      obtain ⟨body, all, rfl⟩ := charactersIff.mp found
      exact ⟨_, .string all, by simp [Value.depth], by simp [quote]⟩
    split at read
    · obtain ⟨piece, found, spelled, names, same⟩ := numberSpelled read
      refine ⟨piece, .number spelled names, ?_, same⟩
      cases names <;> simp [Value.depth]
    · cases read

end TypeLens.Json
