import TypeLens.Proofs.Json.Shorter
import TypeLens.Proofs.Respelled
import TypeLens.Proofs.Violations

/-! Canonical keys. They tell keys apart exactly as the displayed texts do, so that an index and the name that spells it
are one key wherever the field of a shape is decoded. -/
namespace TypeLens

open Json TypeLens.Part

inductive Decimal : Text → Int → Prop where
  | unsigned {digits} (whole : Whole digits) : Decimal digits (digitsValue digits)
  | negative {digits} (whole : Whole digits) (nonzero : digits ≠ ['0']) :
      Decimal ('-' :: digits) (-(digitsValue digits : Int))

theorem digitSmall {c : Char} (digit : c.isDigit) : c.toNat - '0'.toNat < 10 := by
  have high := (Char.isDigit_iff_toNat.mp digit).2
  have nine : '9'.toNat = '0'.toNat + 9 := rfl
  omega

theorem ofNatDigit {c : Char} (digit : c.isDigit) : Text.ofNat (c.toNat - '0'.toNat) = [c] := by
  have back : (c.toNat - '0'.toNat).digitChar = c := by
    have low := (Char.isDigit_iff_toNat.mp digit).1
    have zero : '0'.toNat = 48 := rfl
    apply Char.toNat_inj.mp
    rw [Nat.toNat_digitChar_of_lt_ten (digitSmall digit)]
    omega
  rw [Text.ofNat, Nat.toDigits_of_lt_base (digitSmall digit), back]

-- The digits that stand behind a number are taken into it one at a time.
theorem ofNatMore {digits : Text} (all : ∀ c ∈ digits, c.isDigit) {n : Nat} (positive : 0 < n) :
    Text.ofNat n ++ digits = Text.ofNat (Nat.ofDigitChars 10 digits n) := by
  induction digits generalizing n with
  | nil => simp
  | cons c digits ih =>
    obtain ⟨digit, later⟩ := List.forall_mem_cons.mp all
    have appended : Text.ofNat n ++ [c] = Text.ofNat (10 * n + (c.toNat - '0'.toNat)) := by
      rw [← ofNatDigit digit]
      exact Nat.toDigits_append_toDigits (by decide) positive (digitSmall digit)
    rw [Nat.ofDigitChars_cons, ← ih later (by omega), ← appended, List.append_assoc, List.singleton_append]

theorem wholeBack {digits : Text} (whole : Whole digits) : Text.ofNat (digitsValue digits) = digits := by
  rcases whole with rfl | ⟨⟨some, all⟩, leads⟩
  · rfl
  · cases digits with
    | nil => exact absurd rfl some
    | cons c rest =>
      obtain ⟨digit, later⟩ := List.forall_mem_cons.mp all
      have first : digitsValue [c] = c.toNat - '0'.toNat := by simp [digitsValue, Nat.ofDigitChars_cons]
      have nonzero : c ≠ '0' := by simpa using leads
      have positive : 0 < digitsValue [c] :=
        wholePositive (.inr ⟨⟨List.cons_ne_nil _ _, by simpa using digit⟩, leads⟩) (by simpa using nonzero)
      have more := ofNatMore later positive
      rw [first, ofNatDigit digit] at more
      rw [digitsValue, Nat.ofDigitChars_cons, Nat.mul_zero, Nat.zero_add, ← more, List.singleton_append]

theorem decimalIff {text : Text} {number : Int} : Decimal text number ↔ text = Text.ofInt number := by
  constructor
  · intro decimal
    cases decimal with
    | unsigned whole =>
      have sign : ¬(digitsValue text : Int) < 0 := by omega
      rw [Text.ofInt, if_neg sign, Int.natAbs_natCast, wholeBack whole]
    | @negative digits whole nonzero =>
      have positive := wholePositive whole nonzero
      have sign : -(digitsValue digits : Int) < 0 := by omega
      rw [Text.ofInt, if_pos sign, Int.natAbs_neg, Int.natAbs_natCast, wholeBack whole]
  · rintro rfl
    have value : digitsValue (Text.ofNat number.natAbs) = number.natAbs := Nat.ofDigitChars_ten_toDigits
    have whole := ofNatWhole number.natAbs
    by_cases sign : number < 0
    · have nonzero : Text.ofNat number.natAbs ≠ ['0'] := by
        intro zero
        rw [zero] at value
        have : digitsValue ['0'] = 0 := rfl
        omega
      have decimal := Decimal.negative whole nonzero
      have same : -((number.natAbs : Nat) : Int) = number := by omega
      rw [value, same] at decimal
      rwa [Text.ofInt, if_pos sign]
    · have decimal := Decimal.unsigned whole
      have same : ((number.natAbs : Nat) : Int) = number := by omega
      rw [value, same] at decimal
      rwa [Text.ofInt, if_neg sign]

namespace ShapeKey

theorem canonicalOfDisplay (key : ShapeKey) : (name key.display).canonical = key.canonical := by
  cases key with
  | index value => simp only [display, canonical, spelledIndexOfInt]
  | name text => rfl

theorem canonicalDisplay (key : ShapeKey) : key.canonical.display = key.display := by
  cases key with
  | index value => rfl
  | name text =>
    cases spelled : spelledIndex text with
    | none => simp only [canonical, spelled]
    | some index =>
      simp only [canonical, spelled, display]
      exact (spelledIndexIff.mp spelled).symm

theorem canonicalIff {key other : ShapeKey} : key.canonical = other.canonical ↔ key.display = other.display := by
  constructor
  · intro same
    rw [← canonicalDisplay key, same, canonicalDisplay]
  · intro same
    rw [← canonicalOfDisplay key, same, canonicalOfDisplay]

theorem canonicalIndexIff {text : Text} {index : Int64} :
    (name text).canonical = .index index ↔ Decimal text index.toInt := by
  rw [decimalIff, ← spelledIndexIff, canonical]
  cases spelledIndex text <;> simp

end ShapeKey

inductive Swapped (record : Record) (row : Row) (value value' : Value) : Value → Value → Prop where
  | member (before after) : Swapped record row value value'
      (.object (before ++ ⟨row.name, value⟩ :: after)) (.object (before ++ ⟨row.name, value'⟩ :: after))
  | item (before after) (known : record.rows[before.length]? = some row) : Swapped record row value value'
      (.array (before ++ value :: after)) (.array (before ++ value' :: after))

def keyRow : Row := ⟨"key", .scalar, none⟩

def fieldsRow : Row := ⟨"fields", .list (.record .shapeField), some (.array [])⟩

theorem keyKnown : keyRow ∈ Record.shapeField.rows := List.mem_cons_self

theorem fieldsKnown : fieldsRow ∈ Record.shape.rows := List.mem_cons_of_mem _ List.mem_cons_self

inductive Rekeyed (key key' : Value) : Role → Value → Value → Prop where
  | field {field field' shape shape'} (front back) (keys : Swapped .shapeField keyRow key key' field field')
      (fields : Swapped .shape fieldsRow (.array (front ++ field :: back)) (.array (front ++ field' :: back))
        shape shape') : Rekeyed key key' (.record .shape) shape shape'

def unmarkedSame : Closure where
  looks mark look look' := mark = false → ∀ result, look = .ok result → look' = .ok result
  ends mark found found' := mark = false → ∀ result, found = .ok result → found' = .ok result
  map f agree plain result done := by
    obtain ⟨value, found, rfl⟩ := Checked.mapOkIff.mp done
    exact Checked.mapOkIff.mpr ⟨value, agree plain value found, rfl⟩
  seq first second plain result done := by
    obtain ⟨plainFirst, plainSecond⟩ := Bool.or_eq_false_iff.mp plain
    obtain ⟨f, foundFirst, value, found, rfl⟩ := Checked.seqOkIff.mp done
    exact Checked.seqOkIff.mpr ⟨f, first plainFirst f foundFirst, value, second plainSecond value found, rfl⟩
  result agree plain result done := Checked.resultOkIff.mpr (agree plain result (Checked.resultOkIff.mp done))
  bind next agree plain result done := by
    obtain ⟨value, found, last⟩ := bindOk done
    rw [agree plain value found]
    exact last
  same _ _ _ done := done
  neither never _ _ result done := absurd done (never result)
  ofExcept place agree plain result done := Checked.ofExceptOkIff.mpr (agree plain result (Checked.ofExceptOkIff.mp done))
  under found next next' agree plain result done := by
    cases found with
    | error refusal => cases done
    | ok value => exact agree value plain result done

section
variable {record : Record} {row : Row} {value value' outer outer' : Value} {contents contents' : Contents}

theorem swappedTurned (swapped : Swapped record row value value' outer outer') :
    Swapped record row value' value outer' outer := by
  cases swapped with
  | member before after => exact .member before after
  | item before after known => exact .item before after known

theorem swappedShallower (known : row ∈ record.rows) (swapped : Swapped record row value value' outer outer')
    (shallower : value'.depth ≤ value.depth) : outer'.depth ≤ outer.depth := by
  let Here : Role → Value → Value → Prop := fun _ inner inner' => inner'.depth ≤ inner.depth
  have within : Within Here (.record record) outer outer' := by
    cases swapped with
    | member before after => exact .field before after known (.here shallower)
    | item before after known => exact .item before after known (.here shallower)
  exact withinShallower (fun shallower => shallower) within

theorem swappedElsewhere (known : row ∈ record.rows) (swapped : Swapped record row value value' outer outer')
    (opens : Opens outer contents) (opens' : Opens outer' contents') :
    unmarkedSame.Fields record (fun name => decide (name = row.name)) contents contents' := by
  cases swapped with
  | member before after =>
    cases opens
    cases opens'
    exact Closure.fieldsSwapped known (fun _ marked => nomatch marked) before after
  | item before after known =>
    cases opens
    cases opens'
    exact Closure.itemsSwapped known (fun _ marked => nomatch marked) after

theorem swappedHere {α : Type} {default : Option α} {decode : Value → Except Refusal α} {result : α}
    (swapped : Swapped record row value value' outer outer') (opens : Opens outer contents)
    (opens' : Opens outer' contents')
    (looked : contents.field record row.name default (fun value _ => decode value) = .ok result) :
    decode value = .ok result ∧ ∀ result', decode value' = .ok result' →
      contents'.field record row.name default (fun value _ => decode value) = .ok result' := by
  cases swapped with
  | member before after =>
    cases opens
    cases opens'
    obtain ⟨absent, read⟩ := namedHereIff.mp looked
    exact ⟨read, fun _ read' => namedHereIff.mpr ⟨absent, read'⟩⟩
  | item before after known =>
    cases opens
    cases opens'
    have there (value : Value) : (Contents.positional (before ++ value :: after)).field record row.name default
        (fun value _ => decode value) = .ofExcept before.length (decode value) := by
      rw [Closure.itemField, rowPosition known]
      simp
    rw [there] at looked ⊢
    exact ⟨Checked.ofExceptOkIff.mp looked, fun _ read' => Checked.ofExceptOkIff.mpr read'⟩

end

theorem swappedOpens {record : Record} {row : Row} {value value' outer outer' : Value}
    (swapped : Swapped record row value value' outer outer') :
    ∃ contents contents', Opens outer contents ∧ Opens outer' contents' := by
  cases swapped with
  | member => exact ⟨_, _, .named _, .named _⟩
  | item => exact ⟨_, _, .positional _, .positional _⟩

def OneKey (key key' : Value) : Prop := ∃ found found', ShapeKey.ofValue key = .ok found ∧
  ShapeKey.ofValue key' = .ok found' ∧ found.canonical = found'.canonical

section
variable {key key' : Value} (oneKey : OneKey key key')
include oneKey

theorem fieldRekeyed {value value' : Value} (keys : Swapped .shapeField keyRow key key' value value')
    {field : ShapeField} (decoded : ShapeField.ofValue value = .ok field) : ∃ field',
      ShapeField.ofValue value' = .ok field' ∧ Shape.canonicalField field' = Shape.canonicalField field := by
  obtain ⟨contents, opens, looked⟩ := fieldOkIff.mp decoded
  obtain ⟨_, contents', _, opens'⟩ := swappedOpens keys
  obtain ⟨found, found', read, read', same⟩ := oneKey
  obtain ⟨own, other⟩ := swappedHere keys opens opens' looked.key
  cases own.symm.trans read
  have elsewhere := swappedElsewhere keyKnown keys opens opens'
  refine ⟨⟨found', field.type, field.optional⟩, fieldOkIff.mpr ⟨contents', opens', other _ read', ?_, ?_, ?_⟩, ?_⟩
  · exact elsewhere.field 1 rfl ⟨.union, rfl⟩ rfl _ looked.type
  · exact elsewhere.field 2 rfl ⟨.boolean, rfl⟩ rfl _ looked.optional
  · obtain ⟨last, ends⟩ := looked.ends
    exact ⟨last, elsewhere.noMore rfl _ ends⟩
  · simp [Shape.canonicalField, same]

theorem shapeRekeyed {value value' : Value} (rekeyed : Rekeyed key key' (.record .shape) value value')
    {contents contents' : Contents} (opens : Opens value contents) (opens' : Opens value' contents') {shape : Shape}
    (decoded : Shape.ofContents contents = .ok shape) : Shape.ofContents contents' = .ok shape := by
  cases rekeyed with
  | @field item item' _ _ front back keys fields =>
    obtain ⟨isList, list, looked, made⟩ := shapeOkIff.mp decoded
    obtain ⟨listed, other⟩ := swappedHere fields opens opens' looked.fields
    rw [listAt] at listed
    obtain ⟨first, readFirst, listed⟩ := bindOk listed
    obtain ⟨field, read, listed⟩ := bindOk listed
    obtain ⟨last, readLast, listed⟩ := bindOk listed
    cases listed
    obtain ⟨field', read', same⟩ := fieldRekeyed oneKey keys read
    have listed' : (Value.array (front ++ item' :: back)).list (fun item _ => ShapeField.ofValue item) =
        .ok (first ++ field' :: last) := by
      rw [listAt, readFirst, read', readLast]
      rfl
    have elsewhere := swappedElsewhere fieldsKnown fields opens opens'
    have settled : (first ++ field' :: last).map Shape.canonicalField =
        (first ++ field :: last).map Shape.canonicalField := by simp [same]
    obtain ⟨apart, rfl⟩ := Shape.ofFieldsIff.mp made
    refine shapeOkIff.mpr ⟨isList, first ++ field' :: last, ⟨?_, other _ listed', ?_⟩, Shape.ofFieldsIff.mpr ⟨?_, ?_⟩⟩
    · exact elsewhere.field 0 rfl ⟨.boolean, rfl⟩ rfl _ looked.isList
    · obtain ⟨last, ends⟩ := looked.ends
      exact ⟨last, elsewhere.noMore rfl _ ends⟩
    · have keys (fields : List ShapeField) :
          fields.map (·.key.canonical) = (fields.map Shape.canonicalField).map (·.key) := by
        simp [Shape.canonicalField]
      rwa [keys, settled, ← keys]
    · rw [settled]

end

theorem oneKeyTurned {key key' : Value} (oneKey : OneKey key key') : OneKey key' key := by
  obtain ⟨found, found', read, read', same⟩ := oneKey
  exact ⟨found', found, read', read, same.symm⟩

theorem rekeyedTurned {key key' value value' : Value} {role : Role} (rekeyed : Rekeyed key key' role value value') :
    Rekeyed key' key role value' value := by
  cases rekeyed with
  | field front back keys fields => exact .field front back (swappedTurned keys) (swappedTurned fields)

theorem rekeyedShallower {key key' value value' : Value} {role : Role} (rekeyed : Rekeyed key key' role value value')
    (shallower : key'.depth ≤ key.depth) : value'.depth ≤ value.depth := by
  cases rekeyed with
  | field front back keys fields =>
    let Here : Role → Value → Value → Prop := fun _ inner inner' => inner'.depth ≤ inner.depth
    have inner := swappedShallower keyKnown keys shallower
    have list := withinShallower (fun shallower => shallower)
      (@Within.element Here (.record .shapeField) _ _ front back (.here inner))
    exact swappedShallower fieldsKnown fields list

theorem rekeyedEnds {key key' : Value} (oneKey : OneKey key key') {role : Role} {value value' : Value}
    (rekeyed : Rekeyed key key' role value value') {α : Type} {decode : Value → Except Refusal α}
    (decoded : role.DecodedBy decode) : agrees.ends true (decode value) (decode value') := by
  have shape : role = .record .shape := by cases rekeyed; rfl
  subst shape
  have opening : ∃ contents contents', Opens value contents ∧ Opens value' contents' := by
    cases rekeyed with
    | field front back keys fields => exact swappedOpens fields
  obtain ⟨contents, contents', opens, opens'⟩ := opening
  generalize record : Role.record .shape = role at decoded
  cases decoded with
  | contents kind =>
    cases kind <;> cases record
    simp only [Kind.record, recordOpens opens, recordOpens opens', Atomic.ofContents]
    intro result
    constructor
    · intro done
      obtain ⟨shape, read, rfl⟩ := mapOk done
      rw [shapeRekeyed oneKey rekeyed opens opens' read]
      rfl
    · intro done
      obtain ⟨shape, read, rfl⟩ := mapOk done
      rw [shapeRekeyed (oneKeyTurned oneKey) (rekeyedTurned rekeyed) opens' opens read]
      rfl
  | _ => cases record

theorem rekeyedDecodes {key key' : Value} (oneKey : OneKey key key') (shallower : key'.depth ≤ key.depth)
    {value value' : Value} (within : Within (Rekeyed key key') .union value value') {text text' : Text}
    (spelled : Document text value) (spelled' : Document text' value') {union : TypeUnion}
    (decoded : TypeUnion.decode text = .ok union) : TypeUnion.decode text' = .ok union := by
  obtain ⟨fits, told, found⟩ := unionAccepted decoded spelled
  have inward : Inward (Rekeyed key key') := by
    intro _ _ _ rekeyed
    cases rekeyed
    exact .inr ⟨_, rfl⟩
  have fits' := Nat.le_trans (withinShallower (fun rekeyed => rekeyedShallower rekeyed shallower) within) fits
  have found' : TypeUnion.ofValue value' = .ok union :=
    (@withinEnds agrees _ (rekeyedEnds oneKey) _ _ _ within _ _ .union union).mp found
  exact (unionDecodes (withinTold inward within told) spelled' fits').ok found'

theorem rekeyedWithin {key key' : Value} {role : Role} {value value' : Value}
    (within : Within (Rekeyed key key') role value value') : Within (Rekeyed key' key) role value' value := by
  have same : (fun role value value' => Rekeyed key key' role value' value) = Rekeyed key' key := by
    funext role value value'
    exact propext ⟨rekeyedTurned, rekeyedTurned⟩
  exact same ▸ withinTurned within

theorem indexNamed (index : Int64) : OneKey (.integer index.toInt) (.string (Text.ofInt index.toInt)) := by
  refine ⟨.index index, .name (Text.ofInt index.toInt), ?_, rfl, ?_⟩
  · exact ShapeKey.ofValueToValue (.index index)
  · exact (ShapeKey.canonicalOfDisplay (.index index)).symm

theorem canonicalAsDisplayed :
    (∀ key other : ShapeKey, key.canonical = other.canonical ↔ key.display = other.display) ∧
      (∀ key : ShapeKey, key.canonical.canonical = key.canonical ∧ key.canonical.display = key.display) ∧
      (∀ name index, (ShapeKey.name name).canonical = .index index ↔ Decimal name index.toInt) ∧
      ∀ (index : Int64) (value value' : Value),
        Within (Rekeyed (.integer index.toInt) (.string (Text.ofInt index.toInt))) .union value value' →
          ∀ text text', Document text value → Document text' value' →
            ∀ union, TypeUnion.decode text = .ok union ↔ TypeUnion.decode text' = .ok union := by
  refine ⟨fun _ _ => ShapeKey.canonicalIff, fun key => ?_, fun _ _ => ShapeKey.canonicalIndexIff, ?_⟩
  · exact ⟨ShapeKey.canonicalOfCanonical key.canonicalCanonical, key.canonicalDisplay⟩
  · intro index value value' within text text' spelled spelled' union
    have flat : (Value.integer index.toInt).depth = (Value.string (Text.ofInt index.toInt)).depth := by
      simp [Value.depth]
    constructor
    · exact rekeyedDecodes (indexNamed index) flat.ge within spelled spelled'
    · exact rekeyedDecodes (oneKeyTurned (indexNamed index)) flat.le (rekeyedWithin within) spelled' spelled

example : (["+1", "-0", "007", "9223372036854775808", "-9223372036854775809"] : List String).map
    (fun name => (ShapeKey.name name).canonical) = [.name "+1", .name "-0", .name "007", .name "9223372036854775808",
      .name "-9223372036854775809"] := by decide +kernel

/- The record of two fields, with any key on its first field. -/

def firstKeyed (key : Value) : Value :=
  shapeWritten [fieldWritten key numberWritten false, fieldWritten (.string "a") numberWritten true]

theorem firstKeyedPlain {key : Value} (plain : key.Plain) : (firstKeyed key).Plain := by
  have typePlain : numberWritten.Plain := numberValue ▸ toValuePlain (ofUnion number)
  exact shapePlain (by simp [fieldPlain, plain, typePlain, Value.Plain.string])

theorem firstRekeyed (key key' : Value) : Within (Rekeyed key key') .union (firstKeyed key) (firstKeyed key') := by
  have keys : Swapped .shapeField keyRow key key' (fieldWritten key numberWritten false)
      (fieldWritten key' numberWritten false) := .member [] [⟨"type", numberWritten⟩, ⟨"optional", .boolean false⟩]
  exact fieldsWithin (.here (.field [] [fieldWritten (.string "a") numberWritten true] keys
    (.member [⟨"kind", .string "shape"⟩, ⟨"is_list", .boolean false⟩] [])))

theorem zeroNamed : (ShapeKey.name "-9223372036854775808").canonical = .index Int64.minValue ∧
    TypeUnion.decode (firstKeyed (.string "0")).text = .ok (nested 0) := by
  obtain ⟨_, _, canonical, respelled⟩ := canonicalAsDisplayed
  constructor
  · exact (canonical _ _).mpr (decimalIff.mpr (by decide +kernel))
  · have decoded := (roundTripOf (unionReads (nestedWellFormed 0))).decoded (by simp [nestedDepth])
    rw [innermostValue] at decoded
    have zero := firstRekeyed (.integer (0 : Int64).toInt) (.string (Text.ofInt (0 : Int64).toInt))
    have zeroPlain : (Value.integer 0).Plain := .integer (by decide) (by decide)
    have plain := plainDocument (firstKeyedPlain zeroPlain)
    exact (respelled 0 _ _ zero _ _ plain (plainDocument (firstKeyedPlain (.string _))) _).mp decoded

end TypeLens
