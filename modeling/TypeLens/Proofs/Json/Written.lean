import TypeLens.Proofs.Json.Plain
import TypeLens.Proofs.Json.Spelled
import TypeLens.Proofs.Key

/-! The text that is written for a value spells it. -/
namespace TypeLens.Json

theorem hexDigitValueHexDigit : ∀ n < 16, hexDigitValue (hexDigit n) = some n := by decide

theorem controlSpelled {c : Char} (control : c.toNat < 0x20) :
    SpellsCharacter ('\\' :: 'u' :: ['0', '0', hexDigit (c.toNat / 16), hexDigit (c.toNat % 16)]) c := by
  have zero : hexDigitValue '0' = some 0 := by decide
  have high := hexDigitValueHexDigit (c.toNat / 16) (by omega)
  have low := hexDigitValueHexDigit (c.toNat % 16) (by omega)
  have unit : ((0 * 16 + 0) * 16 + c.toNat / 16) * 16 + c.toNat % 16 = c.toNat := by omega
  have four : fourDigits? ['0', '0', hexDigit (c.toNat / 16), hexDigit (c.toNat % 16)] = some (c.toNat, []) := by
    simp only [fourDigits?, zero, high, low, bind, Option.bind, unit]
  have noLow : isLowSurrogate c.toNat = false := by simp [isLowSurrogate]; omega
  have noHigh : isHighSurrogate c.toNat = false := by simp [isHighSurrogate]; omega
  have spelled := SpellsCharacter.unit four noLow noHigh
  rwa [Char.ofNat_toNat] at spelled

theorem escapedSpelled (c : Char) : SpellsCharacter (escaped c) c := by
  unfold escaped
  iterate 7
    split
    · next same => subst same; exact .short rfl
  split
  · next control => exact controlSpelled control
  · next quote backslash _ _ _ _ _ visible => exact .plain quote backslash visible

theorem textSpelled (text : Text) : SpellsCharacters (text.flatMap escaped) text := by
  induction text with
  | nil => exact .nil
  | cons c text ih => exact .cons (escapedSpelled c) ih

theorem leadingDigit {n : Nat} (positive : 0 < n) : ∃ c digits, Text.ofNat n = c :: digits ∧ c ≠ '0' := by
  induction n using Nat.strongRecOn with
  | ind n ih =>
    by_cases small : n < 10
    · refine ⟨n.digitChar, [], Nat.toDigits_of_lt_base small, ?_⟩
      have : ∀ n < 10, 0 < n → n.digitChar ≠ '0' := by decide
      exact this n small positive
    · obtain ⟨c, digits, spelled, leads⟩ := ih (n / 10) (by omega) (by omega)
      refine ⟨c, digits ++ [(n % 10).digitChar], ?_, leads⟩
      rw [Text.ofNat, Nat.toDigits_of_base_le (by decide) (by omega), ← Text.ofNat, spelled, List.cons_append]

theorem ofNatWhole (n : Nat) : Whole (Text.ofNat n) := by
  rcases Nat.eq_zero_or_pos n with rfl | positive
  · exact .inl rfl
  · obtain ⟨c, digits, spelled, leads⟩ := leadingDigit positive
    refine .inr ⟨⟨by simp [spelled], fun d member => Text.digitOfNat member⟩, ?_⟩
    simpa [spelled] using leads

theorem ofIntSpelled (value : Int) :
    SpellsNumeral (Text.ofInt value) ⟨value < 0, Text.ofNat value.natAbs, none, none⟩ := by
  have spelled := @SpellsNumeral.numeral (value < 0) _ _ _ _ _ (ofNatWhole value.natAbs) .none .none
  have text : Text.ofInt value =
      (if decide (value < 0) = true then ['-'] else []) ++ (Text.ofNat value.natAbs ++ ([] ++ [])) := by
    unfold Text.ofInt
    split <;> simp_all
  rwa [text]

theorem ofIntNames {value : Int} (low : -2 ^ 63 ≤ value) (high : value < 2 ^ 64) :
    (⟨value < 0, Text.ofNat value.natAbs, none, none⟩ : Numeral).Names (.integer value) := by
  have digits : digitsValue (Text.ofNat value.natAbs) = value.natAbs := Nat.ofDigitChars_ten_toDigits
  refine .integer ?_
  by_cases negative : value < 0
  · have fits : 0 < value.natAbs ∧ value.natAbs ≤ Nat.pow 2 63 := by
      rw [Nat.pow_eq]
      omega
    have same : -(value.natAbs : Int) = value := by omega
    simp only [Numeral.integer?, Option.isSome_none, Bool.or_self, Bool.false_eq_true, if_false, digits, negative,
      decide_true, if_true, if_pos fits, same]
  · have fits : value.natAbs < Nat.pow 2 64 := by
      rw [Nat.pow_eq]
      omega
    have same : (value.natAbs : Int) = value := by omega
    simp only [Numeral.integer?, Option.isSome_none, Bool.or_self, Bool.false_eq_true, if_false, digits, negative,
      decide_false, if_pos fits, same]

def Item.bare (value : Value) : Item := ⟨[], value.text, [], value, blankNil, blankNil⟩

def Entry.bare (member : Member) : Entry :=
  ⟨[], member.name.flatMap escaped, [], member.name, .bare member.value, blankNil, blankNil, textSpelled member.name⟩

theorem itemsBare (items : List Value) :
    (items.map Item.bare).map (·.whole) = items.map (·.text) ∧ (items.map Item.bare).map (·.value) = items := by
  simp [Item.bare, Item.whole, Function.comp_def]

theorem entriesBare (members : List Member) : (members.map Entry.bare).map (·.whole) = members.map (·.text) ∧
    (members.map Entry.bare).map (·.member) = members := by
  have member : Entry.member ∘ Entry.bare = id := funext fun member => by cases member; rfl
  refine ⟨?_, by rw [List.map_map, member, List.map_id]⟩
  simp [Entry.bare, Entry.whole, Item.bare, Item.whole, memberText]

theorem plainSpelled {value : Value} (plain : value.Plain) : Spells value.text value := by
  induction value using Value.induct with
  | step value ih =>
    have inner : ∀ item ∈ value.inner, Spells item.text item := fun item inside =>
      ih item inside (Value.plainInner plain item inside)
    cases plain with
    | null => rw [Value.text]; exact .null
    | boolean value => cases value <;> rw [Value.text]; exacts [.false, .true]
    | integer low high => rw [Value.text]; exact .number (ofIntSpelled _) (ofIntNames low high)
    | string text => rw [Value.stringText]; exact .string (textSpelled text)
    | @array items =>
      have spelled := @Spells.array (items.map Item.bare) [] (by simpa [Item.bare, Value.inner] using inner) blankNil
      rw [(itemsBare items).1, (itemsBare items).2] at spelled
      rwa [Value.arrayText]
    | @object members =>
      have spelled := @Spells.object (members.map Entry.bare) []
        (by simpa [Entry.bare, Item.bare, Value.inner] using inner) blankNil
      rw [(entriesBare members).1, (entriesBare members).2] at spelled
      rwa [Value.objectText]

end TypeLens.Json
