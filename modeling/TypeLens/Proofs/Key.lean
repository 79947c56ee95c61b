import TypeLens.Model.Key

/-! Names that spell an index. The canonical form of a key turns these into the index and leaves all else. -/
namespace TypeLens

namespace Text

theorem digitOfNat {n : Nat} {c : Char} (member : c ∈ ofNat n) : c.isDigit :=
  Nat.isDigit_of_mem_toDigits (by decide) (by decide) member

theorem ofNatCons (n : Nat) : ∃ c digits, ofNat n = c :: digits ∧ c.isDigit := by
  cases spelled : ofNat n with
  | nil => exact absurd spelled Nat.toDigits_ne_nil
  | cons c digits => exact ⟨c, digits, rfl, digitOfNat (n := n) (by simp [spelled])⟩

end Text

namespace ShapeKey

theorem spelledIndexForm (text : Text) : ∃ number : Int, spelledIndex text =
    if Text.ofInt (Int64.ofInt number).toInt = text then some (Int64.ofInt number) else none := ⟨_, rfl⟩

theorem spelledIndexOfInt (index : Int64) : spelledIndex (Text.ofInt index.toInt) = some index := by
  have digits : Nat.ofDigitChars 10 (Text.ofNat index.toInt.natAbs) 0 = index.toInt.natAbs :=
    Nat.ofDigitChars_ten_toDigits
  by_cases negative : index.toInt < 0
  · have number : -((index.toInt.natAbs : Nat) : Int) = index.toInt := by omega
    have spelled : Text.ofInt index.toInt = '-' :: Text.ofNat index.toInt.natAbs := if_pos negative
    simp only [spelledIndex, spelled, digits, number, Int64.ofInt_toInt, ↓reduceIte]
  · have number : ((index.toInt.natAbs : Nat) : Int) = index.toInt := by omega
    have spelled : Text.ofInt index.toInt = Text.ofNat index.toInt.natAbs := if_neg negative
    obtain ⟨c, rest, cons, digit⟩ := Text.ofNatCons index.toInt.natAbs
    have unsigned : c ≠ '-' := by rintro rfl; simp at digit
    have whole : spelledIndex (c :: rest) =
        if Text.ofInt (Int64.ofInt (Nat.ofDigitChars 10 (c :: rest) 0 : Nat)).toInt = c :: rest then
          some (Int64.ofInt (Nat.ofDigitChars 10 (c :: rest) 0 : Nat)) else none := by
      unfold spelledIndex
      split
      · next same => cases same; exact absurd rfl unsigned
      · rfl
    rw [spelled, cons, whole, ← cons, digits, number, Int64.ofInt_toInt, if_pos spelled]

theorem spelledIndexIff {text : Text} {index : Int64} :
    spelledIndex text = some index ↔ text = Text.ofInt index.toInt := by
  constructor
  · intro found
    obtain ⟨number, form⟩ := spelledIndexForm text
    rw [form] at found
    split at found
    · next same => rw [← Option.some.inj found, same]
    · cases found
  · rintro rfl; exact spelledIndexOfInt index

def Canonical (key : ShapeKey) : Prop := ∀ index : Int64, key ≠ .name (display (.index index))

theorem canonicalCanonical (key : ShapeKey) : key.canonical.Canonical := by
  intro index same
  cases key with
  | index value => cases same
  | name text =>
    simp only [canonical] at same
    split at same
    · cases same
    · next unspelled =>
      cases same
      rw [display, spelledIndexOfInt] at unspelled
      cases unspelled

theorem canonicalOfCanonical {key : ShapeKey} (proper : key.Canonical) : key.canonical = key := by
  cases key with
  | index value => rfl
  | name text =>
    cases spelled : spelledIndex text with
    | none => simp [canonical, spelled]
    | some index => exact absurd (congrArg name (spelledIndexIff.mp spelled)) (proper index)

end ShapeKey
end TypeLens
