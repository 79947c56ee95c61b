import TypeLens.Proofs.Json.Longer

/-! Numbers that have been cut. An integer that a reader can hold is one also when digits at its end are missing, since
it is smaller then. Not so a number with an exponent, which may have been made small by its last digits. -/
namespace TypeLens.Json

theorem wholeStops {cut : Failure} {text found rest : Text} (read : wholePart cut text = .ok (found, rest)) :
    ∀ c ∈ rest.head?, c.isDigit = false := by
  unfold wholePart at read
  split at read
  · split at read
    · split at read
      · cases read
      · next c _ noDigit =>
        cases read
        rintro _ ⟨⟩
        simpa using noDigit
    · cases read
      exact fun _ none => nomatch none
  · unfold digits at read
    split at read
    · cases read
    · next c tail _ =>
      split at read
      · cases read
        intro d first
        have stops := List.head?_dropWhile_not Char.isDigit (c :: tail)
        rwa [first] at stops
      · cases read

theorem fractionStops {cut : Failure} {text rest : Text} (read : fractionPart cut text = .ok (none, rest)) :
    rest = text ∧ ∀ c ∈ text.head?, c ≠ '.' := by
  unfold fractionPart at read
  split at read
  · obtain ⟨_, _, same⟩ := mapOk read
    cases same
  · next other =>
    cases read
    refine ⟨rfl, fun c first => ?_⟩
    rintro rfl
    cases text with
    | nil => cases first
    | cons d text =>
      cases first
      exact other text rfl

theorem exponentStops {cut : Failure} {text rest : Text} (read : exponentPart cut text = .ok (none, rest)) :
    rest = text ∧ ∀ c ∈ text.head?, ¬(c = 'e' ∨ c = 'E') := by
  cases text with
  | nil =>
    cases read
    exact ⟨rfl, fun _ none => nomatch none⟩
  | cons c text =>
    by_cases mark : c = 'e' ∨ c = 'E'
    · unfold exponentPart at read
      simp only [if_pos mark] at read
      obtain ⟨_, _, same⟩ := mapOk read
      cases same
    · rw [exponentUnmarked cut mark] at read
      cases read
      refine ⟨rfl, ?_⟩
      rintro _ ⟨⟩
      exact mark

theorem integerParts {numeral : Numeral} {n : Int} (exact_ : numeral.integer? = some n) :
    numeral.fraction = none ∧ numeral.exponent = none := by
  unfold Numeral.integer? at exact_
  split at exact_
  · cases exact_
  · next parts => simpa using parts

theorem integerEnded {text rest : Text} {n : Int} (read : number text = .ok (.integer n, rest)) : Ended rest := by
  obtain ⟨⟨found, left⟩, numeral, made⟩ := bindOk read
  have exact_ : found.integer? = some n ∧ left = rest := by
    simp only at made
    split at made
    · next exact_ =>
      cases made
      exact ⟨exact_, rfl⟩
    · split at made <;> cases made
  obtain ⟨exact_, rfl⟩ := exact_
  obtain ⟨noFraction, noExponent⟩ := integerParts exact_
  have behind {negative : Bool} {text : Text} (read : numeralBehind (.atEnd .value) negative text = .ok (found, left)) :
      Ended left := by
    obtain ⟨⟨whole, afterWhole⟩, readWhole, read⟩ := bindOk read
    obtain ⟨⟨fraction, afterFraction⟩, readFraction, read⟩ := bindOk read
    obtain ⟨⟨exponent, _⟩, readExponent, read⟩ := bindOk read
    cases read
    cases noFraction
    cases noExponent
    obtain ⟨rfl, noMark⟩ := exponentStops readExponent
    obtain ⟨rfl, noPoint⟩ := fractionStops readFraction
    intro c first
    exact ⟨by simp [wholeStops readWhole c first], noPoint c first, not_or.mp (noMark c first)⟩
  cases text with
  | nil => cases numeral
  | cons c text =>
    rw [numeralForm] at numeral
    split at numeral
    · exact behind numeral
    · exact behind numeral

theorem digitsValueMore (digits more : Text) : digitsValue digits ≤ digitsValue (digits ++ more) := by
  rw [digitsValue, digitsValue, Nat.ofDigitChars_append, @Nat.ofDigitChars_eq_ofDigitChars_zero more]
  exact Nat.le_add_right_of_le (Nat.le_mul_of_pos_left _ (Nat.pow_pos (show 0 < 10 by decide)))

theorem wholeDigits {whole : Text} (starts : Whole whole) : ∀ c ∈ whole, c.isDigit := by
  rcases starts with rfl | ⟨all, _⟩
  · simp
  · exact all.2

theorem wholePositive {whole : Text} (starts : Whole whole) (notZero : whole ≠ ['0']) : 0 < digitsValue whole := by
  obtain ⟨all, leads⟩ := starts.resolve_left notZero
  cases whole with
  | nil => exact absurd rfl all.1
  | cons c rest =>
    have digit := all.2 c List.mem_cons_self
    have other : c ≠ '0' := fun zero => leads (zero ▸ rfl)
    have first : 0 < digitsValue [c] := by
      have above : '0'.toNat ≤ c.toNat := (Char.isDigit_iff_toNat.mp digit).1
      have apart : c.toNat ≠ '0'.toNat := fun same => other (Char.toNat_inj.mp same)
      have value : digitsValue [c] = c.toNat - '0'.toNat := by simp [digitsValue, Nat.ofDigitChars_cons]
      omega
    exact Nat.lt_of_lt_of_le first (digitsValueMore [c] rest)

theorem integerSmaller {negative : Bool} {whole less : Text} {n : Int}
    (exact_ : (Numeral.mk negative whole none none).integer? = some n) (smaller : digitsValue less ≤ digitsValue whole)
    (positive : 0 < digitsValue whole → 0 < digitsValue less) :
    ∃ m, (Numeral.mk negative less none none).integer? = some m := by
  simp only [Numeral.integer?, Option.isSome_none, Bool.or_self, Bool.false_eq_true, if_false] at exact_ ⊢
  cases negative with
  | true =>
    simp only [if_true] at exact_ ⊢
    split at exact_
    · next bounds => exact ⟨_, if_pos ⟨positive bounds.1, smaller.trans bounds.2⟩⟩
    · cases exact_
  | false =>
    simp only [Bool.false_eq_true, if_false] at exact_ ⊢
    split at exact_
    · next bound => exact ⟨_, if_pos (Nat.lt_of_le_of_lt smaller bound)⟩
    · cases exact_

theorem integerSpelled {text : Text} {found : Numeral} {n : Int} (spelled : SpellsNumeral text found)
    (exact_ : found.integer? = some n) : ∃ negative whole, Whole whole ∧ found = ⟨negative, whole, none, none⟩ ∧
      text = (if negative then ['-'] else []) ++ whole := by
  obtain ⟨noFraction, noExponent⟩ := integerParts exact_
  cases spelled with
  | @numeral negative whole _ _ _ _ starts goesOn ends =>
    cases noFraction
    cases noExponent
    cases goesOn
    cases ends
    exact ⟨negative, whole, starts, rfl, by simp⟩

theorem integerCut {negative negative' : Bool} {whole less missing fractionText exponentText : Text}
    {fraction : Option Text} {exponent : Option Exponent} (starts : Whole whole) (startsLess : Whole less)
    (goesOn : SpellsFraction fractionText fraction) (ends : SpellsExponent exponentText exponent)
    (same : (if negative' then ['-'] else []) ++ (less ++ (fractionText ++ exponentText)) ++ missing =
      (if negative then ['-'] else []) ++ whole) :
    negative' = negative ∧ fraction = none ∧ exponent = none ∧ whole = less ++ missing := by
  have all := wholeDigits starts
  have parts (same : less ++ (fractionText ++ exponentText) ++ missing = whole) :
      fraction = none ∧ exponent = none ∧ whole = less ++ missing := by
    subst same
    cases goesOn with
    | some => exact absurd (all '.' (by simp)) (by decide)
    | none =>
      cases ends with
      | @some mark _ _ known =>
        exact absurd (all mark (by simp)) (by rcases known with rfl | rfl <;> decide)
      | none => exact ⟨rfl, rfl, by simp⟩
  obtain ⟨c, rest, rfl, digit⟩ := wholeStarts startsLess
  cases negative' <;> cases negative
  · exact ⟨rfl, parts (by simpa using same)⟩
  · cases same
    cases digit
  · have minus : whole = '-' :: (c :: rest ++ (fractionText ++ exponentText) ++ missing) := same.symm
    exact absurd (all '-' (minus ▸ List.mem_cons_self)) (by decide)
  · exact ⟨rfl, parts (by simpa using same)⟩

theorem wholeSmaller {less missing : Text} (starts : Whole (less ++ missing)) (startsLess : Whole less)
    (positive : 0 < digitsValue (less ++ missing)) : 0 < digitsValue less := by
  by_cases zero : less = ['0']
  · rcases starts with alone | ⟨_, leads⟩
    · rw [alone] at positive
      cases positive
    · exact absurd (by rw [zero]; rfl) leads
  · exact wholePositive startsLess zero

theorem integerUncut {text more rest : Text} {n : Int} {found : Numeral}
    (long : number (text ++ more) = .ok (.integer n, rest)) (short : numeral (.atEnd .value) text = .ok (found, [])) :
    ∃ value, number text = .ok (value, []) := by
  obtain ⟨piece, full, spelled, names, parted⟩ := numberSpelled long
  rcases List.append_eq_append_iff.mp parted with ⟨missing, rfl, _⟩ | ⟨left, rfl, rfl⟩
  · cases names with
    | integer exact_ =>
      obtain ⟨negative, whole, starts, rfl, same⟩ := integerSpelled spelled exact_
      obtain ⟨piece, spelledShort, rfl⟩ := numeralSpelled short
      rw [List.append_nil] at *
      cases spelledShort with
      | numeral startsLess goesOn ends =>
        obtain ⟨rfl, rfl, rfl, rfl⟩ := integerCut starts startsLess goesOn ends same
        obtain ⟨m, smaller⟩ := integerSmaller exact_ (digitsValueMore _ missing) (wholeSmaller starts startsLess)
        refine ⟨.integer m, ?_⟩
        simp only [number, short, bind, Except.bind, smaller]
  · have ended : Ended left := by
      have ended := integerEnded long
      cases left with
      | nil => exact endedNil
      | cons c left => exact ended
    cases (numeralRead _ spelled ended).symm.trans short
    exact ⟨_, numberRead spelled names endedNil⟩

end TypeLens.Json
