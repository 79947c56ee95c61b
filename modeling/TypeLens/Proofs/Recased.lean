import TypeLens.Proofs.Declared
import TypeLens.Proofs.Lowered

/-! Identifiers that differ in the case of single characters. They are one class to a catalog as long as no dotted
capital i and no sigma at the end of a word is put in lower case: a key is the lower case of a whole text, and there
the one is two characters and the other has a form of its own. -/
namespace TypeLens

namespace Text

def Recased (c c' : Char) : Prop := c' = c ∨ c' = simpleLower c
  deriving Decidable

def EndsWord (text : Text) (n : Nat) : Prop := wordEnds (text.take n).reverse (text.drop (n + 1))
  deriving Decidable

/- Where a word ends is a matter of which characters are cased, and letters keep this in either case. -/

theorem meetsCasedCons (c : Char) (text : Text) : meetsCased (c :: text) =
    if inRanges caseIgnorableRanges c then meetsCased text else inRanges casedRanges c := by
  by_cases ignored : inRanges caseIgnorableRanges c
  · rw [meetsCased, List.dropWhile_cons_of_pos ignored, if_pos ignored, meetsCased]
  · rw [meetsCased, List.dropWhile_cons_of_neg ignored, if_neg ignored]

theorem recasedMeets {text text' : Text} (recased : List.Forall₂ Recased text text') :
    meetsCased text' = meetsCased text := by
  induction recased with
  | nil => rfl
  | cons own _ ih =>
    rw [meetsCasedCons, meetsCasedCons, ih]
    obtain same | same := own
    · rw [same]
    · rw [same, simpleLowerIgnored, simpleLowerCased]

/- One character in the other case, between texts that may have changed alike. -/

theorem lowerAtSimple (c : Char) (before rest : Text) : lowerAt before (simpleLower c) rest = [simpleLower c] := by
  have plain := settledPlain (simpleLowerTwice c)
  rw [lowerAtPlain plain.1 plain.2, simpleLowerTwice]

theorem lowerAtRecased {before before' rest rest' : Text} (passed : List.Forall₂ Recased before before')
    (behind : List.Forall₂ Recased rest rest') (c : Char) : lowerAt before' c rest' = lowerAt before c rest := by
  rw [lowerAt, lowerAt, wordEnds, wordEnds, recasedMeets passed, recasedMeets behind]

theorem lowerAtLength (before : Text) (c : Char) (rest : Text) : 1 ≤ (lowerAt before c rest).length := by
  obtain same | same | same := lowerAtCases before c rest <;> simp [same]

theorem lowerNotLonger {before before' text text' : Text} (passed : List.Forall₂ Recased before before')
    (recased : List.Forall₂ Recased text text') :
    (lowerAfter before' text').length ≤ (lowerAfter before text).length := by
  induction recased generalizing before before' with
  | nil => exact Nat.le_refl _
  | @cons c c' rest rest' own behind ih =>
    have head : (lowerAt before' c' rest').length ≤ (lowerAt before c rest).length := by
      obtain rfl | rfl := own
      · rw [lowerAtRecased passed behind]
      · rw [lowerAtSimple]
        exact lowerAtLength before c rest
    rw [lowerAfterCons, lowerAfterCons, List.length_append, List.length_append]
    exact Nat.add_le_add head (ih (.cons own passed))

theorem lowerStep {before before' rest rest' : Text} {c c' : Char} (passed : List.Forall₂ Recased before before')
    (own : Recased c c') (behind : List.Forall₂ Recased rest rest') :
    lowerAfter before' (c' :: rest') = lowerAfter before (c :: rest) ↔
      (c' ≠ c → c ≠ 'İ' ∧ (c = 'Σ' → ¬ wordEnds before rest)) ∧
        lowerAfter (c' :: before') rest' = lowerAfter (c :: before) rest := by
  rw [lowerAfterCons, lowerAfterCons]
  by_cases kept : c' = c
  · subst kept
    rw [lowerAtRecased passed behind, List.append_cancel_left_eq]
    simp
  · have lowered : c' = simpleLower c := own.resolve_left kept
    rw [lowered, lowerAtSimple, ← lowered]
    by_cases dotted : c = 'İ'
    · subst dotted
      -- Both texts may go on alike, so it is by their lengths that they are apart.
      refine iff_of_false (fun same => ?_) fun both => (both.1 kept).1 rfl
      have shorter := lowerNotLonger (.cons own passed) behind
      have lengths := congrArg List.length same
      simp only [lowerAtDotted, List.length_append, List.length_cons, List.length_nil] at lengths
      omega
    · by_cases sigma : c = 'Σ'
      · subst sigma
        have small : c' = 'σ' := lowered.trans simpleLowerSigma
        rw [lowerAtSigma, small]
        cases wordEnds before rest <;> simp [dotted]
      · rw [lowerAtPlain dotted sigma, ← lowered]
        simp [dotted, sigma]

theorem lowerRecased {before before' text text' : Text} (passed : List.Forall₂ Recased before before')
    (recased : List.Forall₂ Recased text text') :
    lowerAfter before' text' = lowerAfter before text ↔ ∀ n, text'[n]? ≠ text[n]? →
      text[n]? ≠ some 'İ' ∧
        (text[n]? = some 'Σ' → ¬ wordEnds ((text.take n).reverse ++ before) (text.drop (n + 1))) := by
  -- What was passed has been changed alike, so the words of both texts end at the same places.
  induction recased generalizing before before' with
  | nil => simp [lowerAfter]
  | @cons c c' rest rest' own behind ih =>
    rw [lowerStep passed own behind, ih (.cons own passed)]
    refine Iff.trans ?_ Nat.and_forall_add_one
    simp

/- Backslashes in front are no part of a word. -/

theorem meetsBackslashes (passed : Text) (many : Nat) :
    meetsCased (passed ++ List.replicate many '\\') = meetsCased passed := by
  induction passed with
  | nil =>
    cases many with
    | zero => rfl
    | succ many =>
      rw [List.nil_append, List.replicate_succ, meetsCasedCons, if_neg (by decide +kernel)]
      decide +kernel
  | cons c passed ih => rw [List.cons_append, meetsCasedCons, meetsCasedCons, ih]

theorem lowerContext {before before' : Text}
    (alike : ∀ passed, meetsCased (passed ++ before) = meetsCased (passed ++ before')) (text : Text) :
    lowerAfter before text = lowerAfter before' text := by
  induction text generalizing before before' with
  | nil => rfl
  | cons c text ih =>
    have own : meetsCased before = meetsCased before' := alike []
    have later (passed : Text) : meetsCased (passed ++ c :: before) = meetsCased (passed ++ c :: before') := by
      simpa using alike (passed ++ [c])
    rw [lowerAfterCons, lowerAfterCons, ih later, lowerAt, lowerAt, wordEnds, wordEnds, own]

theorem lowerBehind (many : Nat) (text : Text) : lowerAfter (List.replicate many '\\') text = lower text :=
  lowerContext (fun passed => by rw [meetsBackslashes, List.append_nil]) text

theorem lowerBackslash (text : Text) : lower ('\\' :: text) = '\\' :: lower text := by
  have small : simpleLower '\\' = '\\' := simpleLowerBackslash.mpr rfl
  rw [lower, lowerAfterCons, lowerAtPlain (by decide) (by decide), small, ← lowerBehind 1 text]
  rfl

end Text

open Text

theorem normalFormRecased {id id' : Text} (recased : List.Forall₂ Recased id id') :
    ClassName.normalForm id' = ClassName.normalForm id ↔ lower id' = lower id := by
  induction recased with
  | nil => exact Iff.rfl
  | @cons c c' rest rest' own behind ih =>
    have both : c' = '\\' ↔ c = '\\' := by
      obtain same | same := own
      · rw [same]
      · rw [same, simpleLowerBackslash]
    by_cases backslash : c = '\\'
    · have backslash' := both.mpr backslash
      subst backslash backslash'
      rw [lowerBackslash, lowerBackslash, List.cons_inj_right, ← ih]
      rfl
    · have backslash' := mt both.mp backslash
      rw [ClassName.normalForm, ClassName.normalForm, List.dropWhile_cons_of_neg (by simpa using backslash'),
        List.dropWhile_cons_of_neg (by simpa using backslash)]

theorem resolvesAlike {id id' : Text} :
    (∀ catalog : Catalog, catalog.resolve id' = catalog.resolve id) ↔
      ClassName.normalForm id' = ClassName.normalForm id := by
  constructor
  · intro alike
    have own : (ClassDecl.mk id none).key = ClassName.normalForm id := rfl
    have declared := alike (Catalog.empty.declare ⟨id, none⟩)
    rw [Catalog.resolveDeclared, Catalog.resolveDeclared, if_pos own] at declared
    by_contra apart
    rw [if_neg fun same => apart (same.symm.trans own)] at declared
    cases declared
  · exact respelledAlike

theorem recasedResolves {id id' : Text} (recased : List.Forall₂ Recased id id') :
    (∀ catalog : Catalog, catalog.resolve id' = catalog.resolve id) ↔
      ∀ n, id'[n]? ≠ id[n]? → id[n]? ≠ some 'İ' ∧ (id[n]? = some 'Σ' → ¬ EndsWord id n) := by
  rw [resolvesAlike, normalFormRecased recased, lower, lower, lowerRecased .nil recased]
  simp only [List.append_nil, EndsWord]

/- Of the two sigmas one begins the word and the other one ends it. -/

theorem firstSigmaOnly :
    (∀ catalog : Catalog, catalog.resolve "σΑΣ" = catalog.resolve "ΣΑΣ") ∧
      ¬ ∀ catalog : Catalog, catalog.resolve "σΑσ" = catalog.resolve "ΣΑΣ" := by
  constructor
  · refine (recasedResolves (by decide +kernel)).mpr fun n changed => ?_
    match n with
    | 0 => decide +kernel
    | 1 | 2 | n + 3 => simp at changed
  · intro alike
    have kept := (recasedResolves (by decide +kernel)).mp alike 2 (by decide)
    exact kept.2 (by decide) (by decide +kernel)

theorem endingSigmaMissed : List.Forall₂ Recased "ΑΣ" "Ασ" ∧
    let catalog := Catalog.empty.declare ⟨"ΑΣ", none⟩
    catalog.resolve "ΑΣ" = some ⟨"ΑΣ", none⟩ ∧ catalog.resolve "Ασ" = none := by decide +kernel

end TypeLens
