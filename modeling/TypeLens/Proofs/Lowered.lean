import TypeLens.Proofs.Capitals
import TypeLens.Proofs.Matched

/-! Lower-casing a text leaves nothing to be lowered: every character that it writes is its own lower case, in any
surroundings. The normal form of an identifier is therefore one that all its spellings share. -/
namespace TypeLens

namespace Text

def wordEnds (before rest : Text) : Bool := meetsCased before && !meetsCased rest

def lowerAt (before : Text) (c : Char) (rest : Text) : Text :=
  if c = 'Σ' then [if wordEnds before rest then 'ς' else 'σ'] else lowerChar c

theorem lowerAfterCons (before : Text) (c : Char) (rest : Text) :
    lowerAfter before (c :: rest) = lowerAt before c rest ++ lowerAfter (c :: before) rest := rfl

theorem lowerAtSigma (before rest : Text) :
    lowerAt before 'Σ' rest = [if wordEnds before rest then 'ς' else 'σ'] := if_pos rfl

theorem lowerAtDotted (before rest : Text) : lowerAt before 'İ' rest = ['i', '\u0307'] := by
  rw [lowerAt, if_neg (by decide), lowerCharSimple, if_pos rfl]

theorem lowerAtPlain {c : Char} (undotted : c ≠ 'İ') (other : c ≠ 'Σ') (before rest : Text) :
    lowerAt before c rest = [simpleLower c] := by
  rw [lowerAt, if_neg other, lowerCharSimple, if_neg undotted]

theorem lowerAtCases (before : Text) (c : Char) (rest : Text) :
    lowerAt before c rest = [simpleLower c] ∨ lowerAt before c rest = ['i', '\u0307'] ∨
      lowerAt before c rest = ['ς'] := by
  by_cases dotted : c = 'İ'
  · exact .inr (.inl (dotted ▸ lowerAtDotted before rest))
  · by_cases sigma : c = 'Σ'
    · rw [sigma, lowerAtSigma, simpleLowerSigma]
      cases wordEnds before rest <;> simp
    · exact .inl (lowerAtPlain dotted sigma before rest)

theorem lowerPlain {text : Text} (plain : ∀ c ∈ text, c ≠ 'İ' ∧ c ≠ 'Σ') (before : Text) :
    lowerAfter before text = text.map simpleLower := by
  induction text generalizing before with
  | nil => rfl
  | cons c text ih =>
    obtain ⟨⟨undotted, other⟩, rest⟩ := List.forall_mem_cons.mp plain
    rw [lowerAfterCons, lowerAtPlain undotted other, ih rest]
    rfl

theorem lowerAfterSimple {before text : Text} {c : Char} (inside : c ∈ lowerAfter before text) : simpleLower c = c := by
  induction text generalizing before with
  | nil => cases inside
  | cons first text ih =>
    rw [lowerAfterCons, List.mem_append] at inside
    cases inside with
    | inr later => exact ih later
    | inl own =>
      obtain written | written | written := lowerAtCases before first text <;> rw [written] at own
      · rw [List.mem_singleton.mp own, simpleLowerTwice]
      · obtain same | same := List.mem_pair.mp own <;> rw [same] <;> decide +kernel
      · rw [List.mem_singleton.mp own]
        decide +kernel

theorem settledPlain {c : Char} (settled : simpleLower c = c) : c ≠ 'İ' ∧ c ≠ 'Σ' := by
  constructor
  · rintro rfl
    simp [simpleLowerDotted] at settled
  · rintro rfl
    simp [simpleLowerSigma] at settled

theorem lowerSettled {text : Text} (settled : ∀ c ∈ text, simpleLower c = c) (before : Text) :
    lowerAfter before text = text := by
  rw [lowerPlain fun c inside => settledPlain (settled c inside), List.map_congr_left settled, List.map_id']

theorem lowerTwice (text : Text) : lower (lower text) = lower text := lowerSettled (fun _ => lowerAfterSimple) []

theorem lowerFront {text : Text} (front : text.head? ≠ some '\\') (before : Text) :
    (lowerAfter before text).head? ≠ some '\\' := by
  cases text with
  | nil => exact front
  | cons c text =>
    have other : c ≠ '\\' := by simpa using front
    have written : simpleLower c ≠ '\\' := mt simpleLowerBackslash.mp other
    rw [lowerAfterCons]
    obtain same | same | same := lowerAtCases before c text <;> simp [same, written]

end Text

theorem respelledAlike {id id' : Text} (same : ClassName.normalForm id' = ClassName.normalForm id)
    (catalog : Catalog) : catalog.resolve id' = catalog.resolve id := by
  rw [Catalog.resolve, Catalog.resolve, same]

theorem normalFormTwice (id : Text) :
    ClassName.normalForm (ClassName.normalForm id) = ClassName.normalForm id := by
  have front : (ClassName.normalForm id).head? ≠ some '\\' := by
    refine Text.lowerFront (fun first => ?_) []
    have passed := List.head?_dropWhile_not (· == '\\') id
    simp [first] at passed
  have whole : (ClassName.normalForm id).dropWhile (· == '\\') = ClassName.normalForm id := by
    cases cut : ClassName.normalForm id with
    | nil => rfl
    | cons c rest =>
      rw [cut] at front
      exact List.dropWhile_cons_of_neg (by simpa using front)
  rw [ClassName.normalForm, whole, ClassName.normalForm, Text.lowerTwice]

theorem normalFormSettled (id : Text) (more : Nat) :
    ClassName.normalForm (ClassName.normalForm id) = ClassName.normalForm id ∧
      ClassName.normalForm (List.replicate more '\\' ++ id) = ClassName.normalForm id ∧
        ∀ catalog : Catalog, catalog.resolve (List.replicate more '\\' ++ id) = catalog.resolve id ∧
          catalog.resolve (ClassName.normalForm id) = catalog.resolve id := by
  have twice := normalFormTwice id
  have stripped := normalFormBackslashes more id
  exact ⟨twice, stripped, fun catalog => ⟨respelledAlike stripped catalog, respelledAlike twice catalog⟩⟩

end TypeLens
