import TypeLens.Proofs.Json.Beside
import TypeLens.Proofs.Json.Cut
import TypeLens.Proofs.RoundTrip

/-! Texts of types that have been cut, and texts that go on behind a type. -/
namespace TypeLens

open Json Reading

namespace Atomic

theorem taggedItemsParts (depth : Nat) (text : Text) : taggedItems depth text = afterScan (nextItem true text) fun
    | .close rest => .refused (.missingField "kind") rest
    | .item start => (Kind.reader.read start).andThen leaveList fun kind rest =>
      (items (anyValue depth) false rest).map fun values => (kind, .positional values) := by
  rw [taggedItems]
  cases nextItem true text with
  | error => rfl
  | ok found =>
    cases found with
    | close => rfl
    | item start =>
      simp only [afterScan]
      cases Kind.reader.read start <;> rfl

theorem taggedParts (depth : Nat) (text : Text) : (tagged depth).read text = starting (fun c rest =>
    if c = '[' then opening depth c rest taggedItems
    else if c = '\x7b' then opening depth c rest taggedMembers
    else failed (mismatch .atomic (c :: rest))) text := rfl

theorem kindSteady : Kind.reader.Steady False Any := ((textSteady .tag).refine Kind.ofText).placed

theorem taggedMemberSteady (depth : Nat) (draft : Draft) (name : Text) :
    (taggedMember depth draft name).Steady True Any := by
  rw [taggedMember]
  split
  · split
    · exact fun text more => .stopped trivial trivial
    · exact (kindSteady.imp False.elim fun _ _ => trivial).afterColon.map fun _ _ => trivial
  · exact (anySteady depth).afterColon.map fun _ _ => trivial

theorem taggedSteady (depth : Nat) : (tagged depth).Steady False Any := by
  intro text more
  rw [taggedParts, taggedParts]
  refine .starting fun c rest => ?_
  split
  · refine .opening depth fun below => ?_
    rw [taggedItemsParts, taggedItemsParts]
    refine .afterScan (nextItemLonger rest more true) fun found _ => ?_
    cases found with
    | close left => exact .stopped trivial trivial
    | item start =>
      refine (kindSteady start more).andThen (fun kind left _ => ?_) False.elim fun _ _ _ _ _ _ => trivial
      exact (itemsContinued (anySteady below) false left more).map fun _ _ => trivial
  · split
    · refine .opening depth fun below => ?_
      refine (membersContinued (taggedMemberSteady below) ?_ (none, []) true rest more).refine _
      exact fun _ _ _ _ _ _ _ => trivial
    · exact .stopped trivial trivial

theorem readerSteady (depth : Nat) : (reader depth).Steady False Any := (taggedSteady depth).refine _

theorem kindBeside (depth : Nat) : Kind.reader.Beside (anyValue depth) :=
  ((textBeside .tag depth).refine Kind.ofText).placed

theorem taggedMemberBeside (depth : Nat) (draft : Draft) (found : List Member) (name : Text) :
    (taggedMember depth draft name).Beside (keeping depth found name) := by
  rw [taggedMember]
  split
  · split
    · exact fun text => .refused _ _ _
    · exact (kindBeside depth).afterColon.map _ _
  · exact Reader.Beside.map (fun text => .same _) _ _

theorem taggedBeside (depth : Nat) : (tagged depth).Beside (anyValue depth) := by
  intro text
  rw [taggedParts, anyParts]
  refine .starting text fun c rest => ?_
  by_cases list : c = '['
  · rw [if_pos list, if_pos list]
    refine .opening depth c rest fun below => .mapAny ?_ _
    rw [taggedItemsParts, itemsParts]
    refine .afterScan _ fun found _ => ?_
    cases found with
    | close left => exact .refused _ _ _
    | item start =>
      exact (kindBeside below start).andThen fun kind other left _ => (Beside.same _).map _ _
  · by_cases object : c = '\x7b'
    · rw [if_neg list, if_neg list, if_pos object, if_pos object]
      refine .opening depth c rest fun below => .mapAny ?_ _
      exact (membersBeside (taggedMemberBeside below) _ _ true rest).refine _
    · rw [if_neg list, if_neg object]
      exact mismatchBeside .atomic c rest _ _

theorem readerBeside (depth : Nat) : (reader depth).Beside (anyValue depth) := (taggedBeside depth).refine _

end Atomic

theorem unionSteady (depth : Nat) : (TypeUnion.reader depth).Steady False Any :=
  (listSteady Atomic.readerSteady depth).refine _

theorem unionBeside (depth : Nat) : (TypeUnion.reader depth).Beside (anyValue depth) :=
  (listBeside Atomic.readerBeside depth).refine _

theorem cutEnds {α : Type} {reader : Reader α} {depth : Nat} (steady : reader.Steady False Any)
    (beside : reader.Beside (anyValue depth)) {part rest : Text} {value : α} {source : Value}
    (read : reader.read (part ++ rest) = .ok value []) (readAny : (anyValue depth).read (part ++ rest) = .ok source [])
    (plain : source.Plain) (missing : rest ≠ []) : ∃ what, reader.read part = .failed (.atEnd what) := by
  have continued := steady part rest
  generalize short : reader.read part = reading at continued
  generalize reader.read (part ++ rest) = readingLonger at continued read
  cases continued with
  | ok value left =>
    have noneLeft := (Reading.ok.inj read).2
    exact absurd (List.append_eq_nil_iff.mp noneLeft).2 missing
  | loose never => exact never.elim
  | ended what => exact ⟨what, rfl⟩
  | tooLarge left =>
    -- The reader of any value would stop at this number too, but a plain value has none that is too large.
    have besideAny := beside part
    have continuedAny := anySteady depth part rest
    rw [short] at besideAny
    rw [readAny] at continuedAny
    generalize (anyValue depth).read part = readingAny at besideAny continuedAny
    cases besideAny with
    | failed =>
      cases continuedAny with
      | tooLarge _ large => exact absurd plain (large source [] rfl)
      | stopped _ stopsLonger => exact stopsLonger.elim
  | stopped _ stopsLonger =>
    rw [read] at stopsLonger
    exact stopsLonger.elim

theorem unionCut {union : TypeUnion} (whole : union.WellFormed) (fits : union.toValue.depth ≤ nestingLimit)
    {part rest : Text} (split : union.toValue.text = part ++ rest) (missing : rest ≠ []) :
    ∃ what, (TypeUnion.reader nestingLimit).read part = .failed (.atEnd what) := by
  have plain := Part.toValuePlain (.ofUnion union)
  have spelled := plainSpelled plain
  have read := ((unionReads whole).reads [] _ blankNil spelled nestingLimit [] endedNil).ok fits
  have readAny := (anyReads _ [] _ blankNil spelled nestingLimit [] endedNil).ok fits
  rw [List.nil_append, List.append_nil] at read readAny
  exact cutEnds (unionSteady _) (unionBeside _) (split ▸ read) (split ▸ readAny) plain missing

theorem unionGoesOn {depth : Nat} {text rest : Text} {union : TypeUnion}
    (read : (TypeUnion.reader depth).read text = .ok union rest) (more : Text) :
    (TypeUnion.reader depth).read (text ++ more) = .ok union (rest ++ more) := by
  have continued := unionSteady depth text more
  generalize (TypeUnion.reader depth).read (text ++ more) = reading at continued ⊢
  rw [read] at continued
  cases continued with
  | ok => rfl
  | loose never => exact never.elim
  | stopped stops => exact stops.elim

theorem onlyWholeDecoded :
    (∀ union : TypeUnion, union.WellFormed → union.toValue.depth ≤ 127 →
      ∀ part rest, union.toValue.text = part ++ rest → rest ≠ [] → ∃ what,
        TypeUnion.decode part = .error ⟨.unfinished what, some (Place.after ⟨1, 0⟩ part.byteSize part)⟩) ∧
    ∀ text union, TypeUnion.decode text = .ok union → ∀ more,
      (Blank more → TypeUnion.decode (text ++ more) = .ok union) ∧
        (¬Blank more → ∃ place,
          TypeUnion.decode (text ++ more) = .error ⟨.syntaxFault .trailingCharacters, some place⟩) := by
  constructor
  · intro union whole fits part rest split missing
    obtain ⟨what, failed⟩ := unionCut whole fits split missing
    exact ⟨what, by rw [TypeUnion.decode, decode, failed]; rfl⟩
  · intro text union decoded more
    obtain ⟨rest, read, blank⟩ := decodeRead decoded
    have readMore := unionGoesOn read more
    have skipped : skipBlanks (rest ++ more) = skipBlanks more := List.dropWhile_append_of_pos blank
    constructor
    · intro blankMore
      simp only [TypeUnion.decode, decode, readMore, skipped, skipsAll blankMore]
    · intro further
      cases left : skipBlanks more with
      | nil => exact absurd (List.dropWhile_eq_nil_iff.mp left) further
      | cons c tail =>
        simp only [TypeUnion.decode, decode, readMore, skipped, left]
        exact ⟨_, rfl⟩

def nestedUnclosed : Text := (nested 60).toValue.text.dropLast

theorem nestedCut :
    (∃ what, TypeUnion.decode nestedUnclosed =
      .error ⟨.unfinished what, some (Place.after ⟨1, 0⟩ nestedUnclosed.byteSize nestedUnclosed)⟩) ∧
    TypeUnion.decode (number.toValue.text ++ [' ', '\n']) = .ok number ∧
      ∃ place, TypeUnion.decode (number.toValue.text ++ [' ', ',']) =
        .error ⟨.syntaxFault .trailingCharacters, some place⟩ := by
  obtain ⟨cut, goesOn⟩ := onlyWholeDecoded
  have some_ : (nested 60).toValue.text ≠ [] := by simp [nested, TypeUnion.toValueForm, Value.arrayText]
  have split := (List.dropLast_append_getLast some_).symm
  refine ⟨?_, ?_, ?_⟩
  · exact cut _ (nestedWellFormed 60) (by simp [nestedDepth]) nestedUnclosed _ split (by simp)
  · exact (goesOn _ _ numberDecoded _).1 (by simp [Blank, isBlank])
  · exact (goesOn _ _ numberDecoded _).2 (by simp [Blank, isBlank])

end TypeLens
