import TypeLens.Text.Alphanumeric
import TypeLens.Text.LowerCase
import Mathlib.Data.Nat.Bitwise

/-! The tables of case. A capital and its small letter are both cased, neither is passed over where a word is looked
for, and no small letter is the capital of another one. Each of these compares two sets of code points, and a set is
one number with a bit for each member. -/
namespace TypeLens.Text

def bits (points : List Nat) : Nat := points.foldr (fun point set => 1 <<< point ||| set) 0

def rangeBits (ranges : List (Nat × Nat)) : Nat :=
  ranges.foldr (fun range set => (2 ^ (range.2 + 1 - range.1) - 1) <<< range.1 ||| set) 0

theorem testBits (points : List Nat) (n : Nat) : (bits points).testBit n = decide (n ∈ points) := by
  induction points with
  | nil => simp [bits]
  | cons first points ih =>
    have own : (1 <<< first).testBit n = decide (n = first) := by
      rw [Nat.one_shiftLeft, Nat.testBit_two_pow]
      simp only [eq_comm]
    rw [bits, List.foldr_cons, Nat.testBit_or, own, ← bits, ih]
    simp

theorem testRangeBits (ranges : List (Nat × Nat)) (n : Nat) :
    (rangeBits ranges).testBit n = ranges.any fun range => range.1 ≤ n && n ≤ range.2 := by
  induction ranges with
  | nil => simp [rangeBits]
  | cons range ranges ih =>
    have own : ((2 ^ (range.2 + 1 - range.1) - 1) <<< range.1).testBit n = (range.1 ≤ n && n ≤ range.2) := by
      rw [Nat.testBit_shiftLeft, Nat.testBit_two_pow_sub_one, ← Bool.decide_and, ← Bool.decide_and, decide_eq_decide]
      omega
    rw [rangeBits, List.foldr_cons, Nat.testBit_or, own, ← rangeBits, ih, List.any_cons]

theorem testInRanges (ranges : List (Nat × Nat)) (c : Char) :
    inRanges ranges c = (rangeBits ranges).testBit c.toNat := (testRangeBits ranges c.toNat).symm

/- Capitals beside their small letters. Taken by itself the dotted capital has a single small letter too. -/

abbrev Run := Nat × Nat × Nat × Nat

def simpleRuns : List Run := (0x130, 0x130, 1, 0x69) :: capitalRuns

def runOf (c : Char) : Option Run :=
  simpleRuns.find? fun run => run.1 ≤ c.toNat && c.toNat ≤ run.2.1 && (c.toNat - run.1) % run.2.2.1 == 0

def simpleLower (c : Char) : Char :=
  match runOf c with
  | some run => Char.ofNat (run.2.2.2 + (c.toNat - run.1))
  | none => c

def casePairs : List (Nat × Nat) := simpleRuns.flatMap fun (first, last, step, low) =>
  (List.range ((last - first) / step + 1)).map fun place => (first + step * place, low + step * place)

def capitals : List Nat := casePairs.map (·.1)

def smalls : List Nat := casePairs.map (·.2)

theorem smallsNoCapitals : bits smalls &&& bits capitals = 0 := by decide +kernel

theorem bothCased : (bits capitals ||| bits smalls) &&& rangeBits casedRanges = bits capitals ||| bits smalls := by
  decide +kernel

theorem bothMet : (bits capitals ||| bits smalls) &&& rangeBits caseIgnorableRanges = 0 := by decide +kernel

theorem casedNamed : rangeBits casedRanges &&& rangeBits alphanumericRanges = rangeBits casedRanges := by
  decide +kernel

theorem casedValid : ∀ range ∈ casedRanges, range.2 < 0xD800 ∨ 0xDFFF < range.1 ∧ range.2 < 0x110000 := by
  decide +kernel

theorem runPairs {c : Char} {run : Run} (found : runOf c = some run) :
    (c.toNat, run.2.2.2 + (c.toNat - run.1)) ∈ casePairs := by
  obtain ⟨first, last, step, low⟩ := run
  have inside := List.find?_some found
  simp only [Bool.and_eq_true, decide_eq_true_eq, beq_iff_eq] at inside
  obtain ⟨⟨above, below⟩, even⟩ := inside
  have place : step * ((c.toNat - first) / step) = c.toNat - first := Nat.mul_div_cancel' (Nat.dvd_of_mod_eq_zero even)
  have few : (c.toNat - first) / step < (last - first) / step + 1 :=
    Nat.lt_succ_of_le (Nat.div_le_div_right (Nat.sub_le_sub_right below first))
  refine List.mem_flatMap.mpr ⟨_, List.mem_of_find?_eq_some found, ?_⟩
  refine List.mem_map.mpr ⟨(c.toNat - first) / step, List.mem_range.mpr few, ?_⟩
  rw [place, Nat.add_sub_cancel' above]

theorem pointCased {n : Nat} (either : n ∈ capitals ∨ n ∈ smalls) :
    (rangeBits casedRanges).testBit n ∧ (rangeBits caseIgnorableRanges).testBit n = false := by
  have member : (bits capitals ||| bits smalls).testBit n = true := by
    rw [Nat.testBit_or, testBits, testBits, ← Bool.decide_or]
    exact decide_eq_true either
  have cased := congrArg (·.testBit n) bothCased
  have met := congrArg (·.testBit n) bothMet
  simp only [Nat.testBit_and, member, Bool.true_and, Nat.zero_testBit] at cased met
  exact ⟨cased, met⟩

theorem smallValid {n : Nat} (small : n ∈ smalls) : n.isValidChar := by
  have cased := (pointCased (.inr small)).1
  rw [testRangeBits, List.any_eq_true] at cased
  obtain ⟨range, inside, within⟩ := cased
  simp only [Bool.and_eq_true, decide_eq_true_eq] at within
  have valid := casedValid range inside
  rw [Nat.isValidChar]
  omega

theorem smallToNat {n : Nat} (small : n ∈ smalls) : (Char.ofNat n).toNat = n := by
  rw [Char.ofNat, dif_pos (smallValid small)]
  rfl

theorem simpleLowerCases (c : Char) :
    simpleLower c = c ∨ c.toNat ∈ capitals ∧ (simpleLower c).toNat ∈ smalls := by
  cases found : runOf c with
  | none => exact .inl (by simp only [simpleLower, found])
  | some run =>
    have pair := runPairs found
    have small : run.2.2.2 + (c.toNat - run.1) ∈ smalls := List.mem_map_of_mem pair
    have own : (simpleLower c).toNat = run.2.2.2 + (c.toNat - run.1) := by
      simp only [simpleLower, found, smallToNat small]
    exact .inr ⟨List.mem_map_of_mem pair, own ▸ small⟩

theorem simpleLowerTwice (c : Char) : simpleLower (simpleLower c) = simpleLower c := by
  obtain same | ⟨_, small⟩ := simpleLowerCases c
  · rw [same, same]
  · obtain same | ⟨capital, _⟩ := simpleLowerCases (simpleLower c)
    · exact same
    · have both := congrArg (·.testBit (simpleLower c).toNat) smallsNoCapitals
      simp [testBits, small, capital] at both

theorem simpleLowerCased (c : Char) : inRanges casedRanges (simpleLower c) = inRanges casedRanges c := by
  obtain same | ⟨capital, small⟩ := simpleLowerCases c
  · rw [same]
  · rw [testInRanges, testInRanges, (pointCased (.inr small)).1, (pointCased (.inl capital)).1]

theorem simpleLowerIgnored (c : Char) :
    inRanges caseIgnorableRanges (simpleLower c) = inRanges caseIgnorableRanges c := by
  obtain same | ⟨capital, small⟩ := simpleLowerCases c
  · rw [same]
  · rw [testInRanges, testInRanges, (pointCased (.inr small)).2, (pointCased (.inl capital)).2]

theorem casedIdentifier {c : Char} (cased : inRanges casedRanges c) : isIdentifier c := by
  rw [testInRanges] at cased
  have named := congrArg (·.testBit c.toNat) casedNamed
  simp only [Nat.testBit_and, cased, Bool.true_and] at named
  rw [isIdentifier, isAlphanumeric, testInRanges, named, Bool.true_or]

theorem simpleLowerIdentifier (c : Char) : isIdentifier (simpleLower c) = isIdentifier c := by
  obtain same | ⟨capital, small⟩ := simpleLowerCases c
  · rw [same]
  · have before : inRanges casedRanges c := by rw [testInRanges, (pointCased (.inl capital)).1]
    have after : inRanges casedRanges (simpleLower c) := by rw [simpleLowerCased, before]
    rw [casedIdentifier before, casedIdentifier after]

theorem simpleLowerBackslash {c : Char} : simpleLower c = '\\' ↔ c = '\\' := by
  have uncased : inRanges casedRanges '\\' = false := by decide +kernel
  obtain same | ⟨capital, _⟩ := simpleLowerCases c
  · rw [same]
  · have cased : inRanges casedRanges c := by rw [testInRanges, (pointCased (.inl capital)).1]
    constructor <;> intro backslash
    · rw [← backslash, simpleLowerCased, cased] at uncased
      contradiction
    · rw [← backslash, cased] at uncased
      contradiction

theorem simpleLowerDotted : simpleLower 'İ' = 'i' := rfl

theorem simpleLowerSigma : simpleLower 'Σ' = 'σ' := rfl

theorem lowerCharSimple (c : Char) : lowerChar c = if c = '\u0130' then ['i', '\u0307'] else [simpleLower c] := by
  rw [lowerChar]
  split
  · rfl
  · next other =>
    have dotted : ¬ c.toNat = 0x130 := fun same => other (Char.toNat_inj.mp same)
    have others : runOf c = capitalRuns.find? fun run =>
        run.1 ≤ c.toNat && c.toNat ≤ run.2.1 && (c.toNat - run.1) % run.2.2.1 == 0 := by
      rw [runOf, simpleRuns, List.find?_cons_of_neg (by simp; omega)]
    rw [simpleLower, ← others]
    cases runOf c <;> rfl

end TypeLens.Text
