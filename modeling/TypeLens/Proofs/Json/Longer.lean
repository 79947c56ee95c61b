import TypeLens.Json.Bracket
import TypeLens.Proofs.Json.Scanned

/-! Texts that go on. A scan that ends before the end of its text ends alike in every longer one. What it says at
the end of the text may change. -/
namespace TypeLens.Json

variable {α β : Type}

inductive Longer (grow : α → α) (Loose : α → Prop) : Except Failure α → Except Failure α → Prop where
  | ok (value : α) : Longer grow Loose (.ok value) (.ok (grow value))
  | loose {value : α} (is : Loose value) (long : Except Failure α) : Longer grow Loose (.ok value) long
  | ended (what : Unfinished) (long : Except Failure α) : Longer grow Loose (.error (.atEnd what)) long
  | stopped (failure failure' : Failure) : Longer grow Loose (.error failure) (.error failure')

def Never : α → Prop := fun _ => False

def goesOn (more : Text) (found : α × Text) : α × Text := (found.1, found.2 ++ more)

def UpToEnd (found : α × Text) : Prop := found.2 = []

namespace Longer

variable {grow : α → α} {grow' : β → β} {Loose : α → Prop} {Loose' : β → Prop} {short long : Except Failure α}

theorem map (longer : Longer grow Loose short long) {f : α → β} (grown : ∀ value, f (grow value) = grow' (f value))
    (loose : ∀ value, Loose value → Loose' (f value)) : Longer grow' Loose' (short.map f) (long.map f) := by
  cases longer with
  | ok value =>
    rw [Except.map, Except.map, grown]
    exact .ok (f value)
  | loose is => exact .loose (loose _ is) _
  | ended => exact .ended _ _
  | stopped => exact .stopped _ _

theorem bind (longer : Longer grow Loose short long) {next : α → Except Failure β}
    (further : ∀ value, ¬Loose value → Longer grow' Loose' (next value) (next (grow value)))
    (atEnd : ∀ value, Loose value → ∀ long, Longer grow' Loose' (next value) long) :
    Longer grow' Loose' (short.bind next) (long.bind next) := by
  cases longer with
  | ok value =>
    by_cases is : Loose value
    · exact atEnd value is _
    · exact further value is
  | loose is => exact atEnd _ is _
  | ended => exact .ended _ _
  | stopped => exact .stopped _ _

theorem upToEnd {more : Text} (value : α) {rest : Text} (atEnd : rest = []) (long : Except Failure (α × Text)) :
    Longer (goesOn more) UpToEnd (.ok (value, rest)) long :=
  @loose _ _ _ (value, rest) atEnd long

theorem mapFound {more : Text} {short long : Except Failure (α × Text)}
    (longer : Longer (goesOn more) UpToEnd short long) (f : α → β) :
    Longer (goesOn more) UpToEnd (short.map fun (found, rest) => (f found, rest))
      (long.map fun (found, rest) => (f found, rest)) :=
  longer.map (fun _ => rfl) fun _ atEnd => atEnd

end Longer

theorem skipLonger (text more : Text) : skipBlanks text = [] ∨
    ∃ c rest, skipBlanks text = c :: rest ∧ skipBlanks (text ++ more) = c :: (rest ++ more) := by
  cases found : skipBlanks text with
  | nil => exact .inl rfl
  | cons c rest =>
    refine .inr ⟨c, rest, rfl, ?_⟩
    rw [skipBlanks] at found ⊢
    rw [List.dropWhile_append, found]
    rfl

section
variable (text more : Text)

theorem spellLonger (letters : Text) :
    Longer (· ++ more) Never (spell letters text) (spell letters (text ++ more)) := by
  induction letters generalizing text with
  | nil => exact .ok text
  | cons letter letters ih =>
    cases text with
    | nil => exact .ended _ _
    | cons c text =>
      simp only [spell, List.cons_append]
      split
      · exact ih text
      · exact .stopped _ _

theorem secondMarkLonger (letters : Text) :
    Longer (· ++ more) Never (secondMark letters text) (secondMark letters (text ++ more)) := by
  induction letters generalizing text with
  | nil => exact .ok text
  | cons letter letters ih =>
    cases text with
    | nil => exact .ended _ _
    | cons c text =>
      simp only [secondMark, List.cons_append]
      split
      · exact ih text
      · exact .stopped _ _

theorem hexDigitSize {c : Char} {n : Nat} (digit : hexDigitValue c = some n) : c.utf8Size = 1 := by
  have ascii {high : Char} (upTo : high.val ≤ 127) (below : c ≤ high) : c.utf8Size = 1 :=
    Char.utf8Size_eq_one_iff.mpr (UInt32.le_trans below upTo)
  unfold hexDigitValue at digit
  split at digit
  · next within => exact ascii (by decide) within.2
  · split at digit
    · next within => exact ascii (by decide) within.2
    · split at digit
      · next within => exact ascii (by decide) within.2
      · cases digit

theorem fourDigitsSize {digits : Text} {unit : Nat} (four : fourDigits? digits = some (unit, [])) :
    digits.byteSize = 4 := by
  unfold fourDigits? at four
  split at four
  · simp only [bind, Option.bind_eq_some_iff, Option.some.injEq, Prod.mk.injEq] at four
    obtain ⟨_, first, _, second, _, third, _, fourth, _, rfl⟩ := four
    simp [hexDigitSize first, hexDigitSize second, hexDigitSize third, hexDigitSize fourth]
  · cases four

theorem fourDigitsLonger : Longer (goesOn more) Never (fourDigits text) (fourDigits (text ++ more)) := by
  cases short : fourDigits text with
  | ok found =>
    obtain ⟨digits, rfl, four⟩ := fourDigitsSpelled short
    rw [List.append_assoc, fourDigitsMore four]
    exact .ok found
  | error failure =>
    cases long : fourDigits (text ++ more) with
    | error failure' => exact .stopped _ _
    | ok found =>
      -- Four digits are in the longer text, so the end is within them.
      obtain ⟨digits, parted, four⟩ := fourDigitsSpelled long
      rcases List.append_eq_append_iff.mp parted with ⟨missing, rfl, _⟩ | ⟨left, rfl, _⟩
      · have size := fourDigitsSize four
        rw [Text.byteSizeAppend] at size
        unfold fourDigits at short
        split at short
        · cases short
        · next none =>
          split at short
          · cases short
            exact .ended _ _
          · cases missing with
            | nil =>
              rw [List.append_nil] at four
              cases four.symm.trans none
            | cons c missing =>
              have some_ := c.utf8Size_pos
              rw [Text.byteSizeCons] at size
              omega
      · cases (fourDigitsMore four left).symm.trans short

theorem unicodeEscapeLonger : Longer (goesOn more) Never (unicodeEscape text) (unicodeEscape (text ++ more)) := by
  refine (fourDigitsLonger text more).bind (fun (unit, rest) _ => ?_) (fun _ never => never.elim)
  show Longer _ _ (if isLowSurrogate unit then _ else _) (if isLowSurrogate unit then _ else _)
  split
  · exact .stopped _ _
  · show Longer _ _ (if isHighSurrogate unit then _ else _) (if isHighSurrogate unit then _ else _)
    split
    · refine (secondMarkLonger rest more _).bind (fun rest _ => ?_) (fun _ never => never.elim)
      refine (fourDigitsLonger rest more).bind (fun (low, rest) _ => ?_) (fun _ never => never.elim)
      show Longer _ _ (if isLowSurrogate low then _ else _) (if isLowSurrogate low then _ else _)
      split
      · generalize Char.ofNat _ = c
        exact .ok (c, rest)
      · exact .stopped _ _
    · exact .ok (_, _)

theorem escapeLonger : Longer (goesOn more) Never (escape text) (escape (text ++ more)) := by
  cases text with
  | nil => exact .ended _ _
  | cons letter text =>
    simp only [escape, List.cons_append]
    split
    · exact unicodeEscapeLonger text more
    · split
      · exact .ok (_, _)
      · exact .stopped _ _

theorem charactersEscaped {rest left : Text} {c : Char} (found : escape rest = .ok (c, left)) :
    characters ('\\' :: rest) = (characters left).map fun (values, left) => (c :: values, left) := by
  rw [characters, if_neg (by decide), if_pos rfl]
  split
  · next failed => cases failed.symm.trans found
  · next found' =>
    cases found'.symm.trans found
    rfl

theorem charactersStopped {rest : Text} {failure : Failure} (failed : escape rest = .error failure) :
    characters ('\\' :: rest) = .error failure := by
  rw [characters, if_neg (by decide), if_pos rfl]
  split
  · next failed' =>
    cases failed'.symm.trans failed
    rfl
  · next found => cases found.symm.trans failed

theorem charactersLonger : Longer (goesOn more) Never (characters text) (characters (text ++ more)) := by
  fun_induction characters text with
  | case1 => exact .ended _ _
  | case2 rest =>
    rw [List.cons_append, characters, if_pos rfl]
    exact .ok ([], rest)
  | case3 rest failure found _ =>
    have longer := escapeLonger rest more
    generalize long : escape (rest ++ more) = scan at longer
    rw [found] at longer
    cases longer with
    | ended => exact .ended _ _
    | stopped _ failure' =>
      rw [List.cons_append, charactersStopped long]
      exact .stopped _ _
  | case4 rest c left found _ ih =>
    have longer := escapeLonger rest more
    generalize long : escape (rest ++ more) = scan at longer
    rw [found] at longer
    cases longer with
    | ok =>
      rw [List.cons_append, charactersEscaped long]
      exact ih.map (fun _ => rfl) fun _ never => never
    | loose never => exact never.elim
  | case5 c rest quote backslash control =>
    rw [List.cons_append, characters, if_neg quote, if_neg backslash, if_pos control]
    exact .stopped _ _
  | case6 c rest quote backslash visible ih =>
    rw [List.cons_append, characters, if_neg quote, if_neg backslash, if_neg visible]
    exact ih.map (fun _ => rfl) fun _ never => never

theorem digitsLonger : Longer (goesOn more) UpToEnd (digits (.atEnd .value) text)
    (digits (.atEnd .value) (text ++ more)) := by
  cases text with
  | nil => exact .ended _ _
  | cons c text =>
    rw [List.cons_append, digits, digits]
    split
    · rw [← List.cons_append]
      by_cases all : (c :: text).dropWhile Char.isDigit = []
      · exact .upToEnd _ all _
      · have stops : (c :: text ++ more).takeWhile Char.isDigit = (c :: text).takeWhile Char.isDigit := by
          rw [List.takeWhile_append, if_neg]
          intro full
          have parted := congrArg List.length (List.takeWhile_append_dropWhile (p := Char.isDigit) (l := c :: text))
          rw [List.length_append, full, Nat.add_eq_left, List.length_eq_zero_iff] at parted
          exact all parted
        have left : (c :: text ++ more).dropWhile Char.isDigit = (c :: text).dropWhile Char.isDigit ++ more := by
          rw [List.dropWhile_append, if_neg (by simpa using all)]
        rw [stops, left]
        exact .ok (_, _)
    · exact .stopped _ _

theorem wholeLonger : Longer (goesOn more) UpToEnd (wholePart (.atEnd .value) text)
    (wholePart (.atEnd .value) (text ++ more)) := by
  cases text with
  | nil => exact .ended _ _
  | cons c text =>
    by_cases zero : c = '0'
    · subst zero
      cases text with
      | nil => exact .upToEnd _ rfl _
      | cons d text =>
        simp only [wholePart, List.cons_append]
        split
        · exact .stopped _ _
        · exact .ok (_, _)
    · have whole (rest : Text) : wholePart (.atEnd .value) (c :: rest) = digits (.atEnd .value) (c :: rest) := by
        unfold wholePart
        split
        · next same => exact absurd (List.cons.inj same).1 zero
        · rfl
      rw [List.cons_append, whole, whole]
      exact digitsLonger (c :: text) more

theorem fractionLonger : Longer (goesOn more) UpToEnd (fractionPart (.atEnd .value) text)
    (fractionPart (.atEnd .value) (text ++ more)) := by
  cases text with
  | nil => exact .upToEnd _ rfl _
  | cons c text =>
    by_cases point : c = '.'
    · subst point
      exact (digitsLonger text more).map (fun _ => rfl) fun _ upToEnd => upToEnd
    · have none (rest : Text) : fractionPart (.atEnd .value) (c :: rest) = .ok (none, c :: rest) := by
        unfold fractionPart
        split
        · next same => exact absurd (List.cons.inj same).1 point
        · rfl
      rw [List.cons_append, none, none]
      exact .ok (_, _)

theorem exponentUnmarked (cut : Failure) {c : Char} (unmarked : ¬(c = 'e' ∨ c = 'E')) (rest : Text) :
    exponentPart cut (c :: rest) = .ok (none, c :: rest) := by
  unfold exponentPart
  exact if_neg unmarked

theorem exponentSigned (cut : Failure) {c sign : Char} (mark : c = 'e' ∨ c = 'E') (signed : sign = '-' ∨ sign = '+')
    (rest : Text) : exponentPart cut (c :: sign :: rest) =
      (digits cut rest).map fun (found, rest) => (some ⟨sign = '-', found⟩, rest) := by
  unfold exponentPart
  simp only [if_pos mark]
  rcases signed with rfl | rfl <;> rfl

theorem exponentUnsigned (cut : Failure) {c : Char} (mark : c = 'e' ∨ c = 'E') {rest : Text}
    (unsigned : ¬∃ sign tail, rest = sign :: tail ∧ (sign = '-' ∨ sign = '+')) : exponentPart cut (c :: rest) =
      (digits cut rest).map fun (found, rest) => (some ⟨false, found⟩, rest) := by
  unfold exponentPart
  simp only [if_pos mark]
  split
  · exact absurd ⟨_, _, rfl, .inl rfl⟩ unsigned
  · exact absurd ⟨_, _, rfl, .inr rfl⟩ unsigned
  · rfl

theorem exponentLonger : Longer (goesOn more) UpToEnd (exponentPart (.atEnd .value) text)
    (exponentPart (.atEnd .value) (text ++ more)) := by
  cases text with
  | nil => exact .upToEnd _ rfl _
  | cons c text =>
    by_cases mark : c = 'e' ∨ c = 'E'
    · cases text with
      | nil =>
        rw [exponentUnsigned _ mark (by simp)]
        exact .ended _ _
      | cons d text =>
        rw [List.cons_append, List.cons_append]
        by_cases signed : d = '-' ∨ d = '+'
        · rw [exponentSigned _ mark signed, exponentSigned _ mark signed]
          exact (digitsLonger text more).mapFound fun found => some (Exponent.mk (d = '-') found)
        · rw [exponentUnsigned _ mark (by simp [signed]), exponentUnsigned _ mark (by simp [signed])]
          exact (digitsLonger (d :: text) more).mapFound fun found => some (Exponent.mk false found)
    · rw [List.cons_append, exponentUnmarked _ mark, exponentUnmarked _ mark]
      exact .ok (_, _)

def numeralBehind (cut : Failure) (negative : Bool) (text : Text) : Except Failure (Numeral × Text) := do
  let (whole, text) ← wholePart cut text
  let (fraction, text) ← fractionPart cut text
  let (exponent, text) ← exponentPart cut text
  .ok (⟨negative, whole, fraction, exponent⟩, text)

theorem numeralForm (cut : Failure) (c : Char) (rest : Text) : numeral cut (c :: rest) =
    if c = '-' then numeralBehind cut true rest else numeralBehind cut false (c :: rest) := by
  unfold numeral
  split
  next signed =>
    split at signed
    · next same =>
      cases signed
      cases same
      exact (if_pos rfl).symm
    · next other =>
      cases signed
      have unsigned : c ≠ '-' := by
        rintro rfl
        exact other rest rfl
      rw [if_neg unsigned]
      rfl

theorem numeralLonger : Longer (goesOn more) UpToEnd (numeral (.atEnd .value) text)
    (numeral (.atEnd .value) (text ++ more)) := by
  have behind (negative : Bool) (text : Text) : Longer (goesOn more) UpToEnd
      (numeralBehind (.atEnd .value) negative text) (numeralBehind (.atEnd .value) negative (text ++ more)) := by
    -- Behind a part that ends with the text there is no further one.
    refine (wholeLonger text more).bind (fun (whole, rest) _ => ?_) fun (whole, rest) atEnd long => ?_
    · refine (fractionLonger rest more).bind (fun (fraction, rest) _ => ?_) fun (fraction, rest) atEnd long => ?_
      · exact (exponentLonger rest more).mapFound fun exponent => Numeral.mk negative whole fraction exponent
      · cases atEnd
        exact .upToEnd _ rfl _
    · cases atEnd
      exact .upToEnd _ rfl _
  cases text with
  | nil => exact .ended _ _
  | cons c text =>
    rw [List.cons_append, numeralForm, numeralForm]
    split
    · exact behind true text
    · exact behind false (c :: text)

end

def NextItem.goesOn (more : Text) : NextItem → NextItem
  | .close rest => .close (rest ++ more)
  | .item text => .item (text ++ more)

def NextMember.goesOn (more : Text) : NextMember → NextMember
  | .close rest => .close (rest ++ more)
  | .member name rest => .member name (rest ++ more)

section
variable (text more : Text)

theorem colonLonger : Longer (· ++ more) Never (colon text) (colon (text ++ more)) := by
  rw [colon, colon]
  obtain none | ⟨c, rest, short, long⟩ := skipLonger text more
  · rw [none]
    exact .ended _ _
  · simp only [short, long]
    split
    · exact .ok rest
    · exact .stopped _ _

theorem nextItemLonger (first : Bool) :
    Longer (NextItem.goesOn more) Never (nextItem first text) (nextItem first (text ++ more)) := by
  rw [nextItem, nextItem]
  obtain none | ⟨c, rest, short, long⟩ := skipLonger text more
  · rw [none]
    exact .ended _ _
  · simp only [short, long]
    split
    · exact .ok (NextItem.close rest)
    · split
      · exact .ok (NextItem.item (c :: rest))
      · split
        · obtain none | ⟨d, tail, short, long⟩ := skipLonger rest more
          · rw [none]
            exact .ended _ _
          · simp only [short, long]
            split
            · exact .stopped _ _
            · exact .ok (NextItem.item (d :: tail))
        · exact .stopped _ _

theorem memberNameLonger (c : Char) :
    Longer (NextMember.goesOn more) Never (memberName (c :: text)) (memberName (c :: (text ++ more))) := by
  rw [memberName, memberName]
  split
  · exact (charactersLonger text more).map (fun _ => rfl) fun _ never => never
  · exact .stopped _ _

theorem nextMemberLonger (first : Bool) :
    Longer (NextMember.goesOn more) Never (nextMember first text) (nextMember first (text ++ more)) := by
  rw [nextMember, nextMember]
  obtain none | ⟨c, rest, short, long⟩ := skipLonger text more
  · rw [none]
    exact .ended _ _
  · simp only [short, long]
    split
    · exact .ok (NextMember.close rest)
    · split
      · exact memberNameLonger rest more c
      · split
        · obtain none | ⟨d, tail, short, long⟩ := skipLonger rest more
          · rw [none]
            exact .ended _ _
          · simp only [short, long]
            split
            · exact .stopped _ _
            · exact memberNameLonger tail more d
        · exact .stopped _ _

end

end TypeLens.Json
