import TypeLens.Json.Scalar
import TypeLens.Proofs.Text

/-! The texts of JSON values. A value is spelled by many texts: blanks may stand around whatever is inside of a
bracket, and each character and each number has several forms. The grammar knows nothing of the readers, of how
deep a value nests or of what stands behind it. -/
namespace TypeLens.Json

def Blank (text : Text) : Prop := ∀ c ∈ text, isBlank c

theorem blankNil : Blank [] := fun _ member => nomatch member

theorem blankAppend {before after : Text} (blank : Blank before) (blankAfter : Blank after) : Blank (before ++ after) :=
  List.forall_mem_append.mpr ⟨blank, blankAfter⟩

inductive SpellsCharacter : Text → Char → Prop where
  | plain {c} (quote : c ≠ '"') (backslash : c ≠ '\\') (visible : ¬c.toNat < 0x20) : SpellsCharacter [c] c
  | short {letter c} (known : shortEscape letter = some c) : SpellsCharacter ['\\', letter] c
  | unit {digits unit} (four : fourDigits? digits = some (unit, [])) (low : isLowSurrogate unit = false)
      (high : isHighSurrogate unit = false) : SpellsCharacter ('\\' :: 'u' :: digits) (Char.ofNat unit)
  | pair {digits lowDigits unit low} (four : fourDigits? digits = some (unit, []))
      (fourLow : fourDigits? lowDigits = some (low, [])) (high : isHighSurrogate unit = true)
      (second : isLowSurrogate low = true) : SpellsCharacter ('\\' :: 'u' :: (digits ++ '\\' :: 'u' :: lowDigits))
        (Char.ofNat (0x10000 + (unit - 0xD800) * 0x400 + (low - 0xDC00)))

inductive SpellsCharacters : Text → Text → Prop where
  | nil : SpellsCharacters [] []
  | cons {piece body c text} (first : SpellsCharacter piece c) (later : SpellsCharacters body text) :
      SpellsCharacters (piece ++ body) (c :: text)

def Digits (text : Text) : Prop := text ≠ [] ∧ ∀ c ∈ text, c.isDigit

def Whole (text : Text) : Prop := text = ['0'] ∨ Digits text ∧ text.head? ≠ some '0'

inductive SpellsFraction : Text → Option Text → Prop where
  | none : SpellsFraction [] none
  | some {digits} (all : Digits digits) : SpellsFraction ('.' :: digits) (some digits)

inductive SpellsExponent : Text → Option Exponent → Prop where
  | none : SpellsExponent [] none
  | some {mark sign digits} (known : mark = 'e' ∨ mark = 'E') (signed : sign = [] ∨ sign = ['+'] ∨ sign = ['-'])
      (all : Digits digits) : SpellsExponent (mark :: (sign ++ digits)) (some ⟨sign = ['-'], digits⟩)

inductive SpellsNumeral : Text → Numeral → Prop where
  | numeral {negative whole fractionText fraction exponentText exponent} (starts : Whole whole)
      (goesOn : SpellsFraction fractionText fraction) (ends : SpellsExponent exponentText exponent) :
      SpellsNumeral ((if negative then ['-'] else []) ++ (whole ++ (fractionText ++ exponentText)))
        ⟨negative, whole, fraction, exponent⟩

inductive Numeral.Names : Numeral → Value → Prop where
  | integer {numeral n} (exact : numeral.integer? = some n) : Names numeral (.integer n)
  | real {numeral x} (inexact : numeral.integer? = none) (near : numeral.real? = some x) : Names numeral (.real x)

structure Item where
  before : Text
  text : Text
  after : Text
  value : Value
  blankBefore : Blank before
  blankAfter : Blank after

namespace Item

def whole (item : Item) : Text := item.before ++ (item.text ++ item.after)

end Item

structure Entry where
  before : Text
  body : Text
  gap : Text
  name : Text
  item : Item
  blankBefore : Blank before
  blankGap : Blank gap
  named : SpellsCharacters body name

namespace Entry

def member (entry : Entry) : Member := ⟨entry.name, entry.item.value⟩

def whole (entry : Entry) : Text :=
  entry.before ++ '"' :: (entry.body ++ '"' :: (entry.gap ++ ':' :: entry.item.whole))

end Entry

inductive Spells : Text → Value → Prop where
  | null : Spells "null" .null
  | false : Spells "false" (.boolean false)
  | true : Spells "true" (.boolean true)
  | number {text numeral value} (spelled : SpellsNumeral text numeral) (names : numeral.Names value) :
      Spells text value
  | string {body text} (all : SpellsCharacters body text) : Spells ('"' :: (body ++ ['"'])) (.string text)
  | array {items : List Item} {gap} (each : ∀ item ∈ items, Spells item.text item.value) (blank : Blank gap) :
      Spells ('[' :: (Text.joined [','] (items.map (·.whole)) ++ (gap ++ [']']))) (.array (items.map (·.value)))
  | object {entries : List Entry} {gap} (each : ∀ entry ∈ entries, Spells entry.item.text entry.item.value)
      (blank : Blank gap) :
      Spells ('\x7b' :: (Text.joined [','] (entries.map (·.whole)) ++ (gap ++ ['\x7d'])))
        (.object (entries.map (·.member)))

def Document (text : Text) (value : Value) : Prop :=
  ∃ item : Item, text = item.whole ∧ value = item.value ∧ Spells item.text item.value

theorem startsVisible {c : Char} (starts : startsNumber c) : isBlank c = false := by
  cases blank : isBlank c with
  | false => rfl
  | true =>
    simp only [isBlank, Bool.or_eq_true, beq_iff_eq] at blank
    rcases blank with ((rfl | rfl) | rfl) | rfl <;> simp [startsNumber] at starts

theorem startsUnopened {c : Char} (starts : startsNumber c) : ¬(c = '[' ∨ c = '\x7b') := by
  rintro (rfl | rfl) <;> simp [startsNumber] at starts

theorem wholeStarts {whole : Text} (starts : Whole whole) : ∃ c rest, whole = c :: rest ∧ c.isDigit := by
  rcases starts with rfl | ⟨⟨some_, all⟩, _⟩
  · exact ⟨'0', [], rfl, by decide⟩
  · cases whole with
    | nil => exact absurd rfl some_
    | cons c rest => exact ⟨c, rest, rfl, all c List.mem_cons_self⟩

theorem numeralStarts {text : Text} {numeral : Numeral} (spelled : SpellsNumeral text numeral) :
    ∃ c rest, text = c :: rest ∧ startsNumber c := by
  cases spelled with
  | @numeral negative whole _ _ _ _ starts _ _ =>
    cases negative with
    | true => exact ⟨'-', _, rfl, rfl⟩
    | false =>
      obtain ⟨c, rest, rfl, digit⟩ := wholeStarts starts
      exact ⟨c, _, rfl, by simp [startsNumber, digit]⟩

theorem spelledStarts {text : Text} {value : Value} (spelled : Spells text value) :
    ∃ c rest, text = c :: rest ∧ isBlank c = false ∧ c ≠ ']' := by
  cases spelled with
  | null | false | true | string | array | object => exact ⟨_, _, rfl, rfl, by decide⟩
  | number spelled =>
    obtain ⟨c, rest, same, starts⟩ := numeralStarts spelled
    refine ⟨c, rest, same, startsVisible starts, ?_⟩
    rintro rfl
    simp [startsNumber] at starts

end TypeLens.Json
