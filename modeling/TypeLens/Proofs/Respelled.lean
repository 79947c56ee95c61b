import TypeLens.Proofs.RoundTrip
import TypeLens.Proofs.Within
import Mathlib.Logic.Relation

/-! Spellings of a type. A union that is accepted is accepted in every other spelling: the members of an object may
stand in any order, those that say nothing may be there or not, and a text may spell a value in any way. -/
namespace TypeLens

open Json TypeLens.Part

inductive Respelled : Role → Value → Value → Prop where
  | permuted {record members members'} (same : members.Perm members') :
      Respelled (.record record) (.object members) (.object members')
  | undeclared {record other} (before after) (new : ∀ row ∈ Record.rows record, other.name ≠ row.name) :
      Respelled (.record record) (.object (before ++ after)) (.object (before ++ other :: after))
  | default {record row value} (before after) (known : row ∈ Record.rows record) (standsFor : row.default = some value)
      (absent : ∀ member ∈ before ++ after, member.name ≠ row.name) :
      Respelled (.record record) (.object (before ++ after)) (.object (before ++ ⟨row.name, value⟩ :: after))

def agrees : Closure where
  looks _ look look' := ∀ result, look = .ok result ↔ look' = .ok result
  ends _ found found' := ∀ result, found = .ok result ↔ found' = .ok result
  map f agree result := by simp only [Checked.mapOkIff, agree]
  seq first second result := by simp only [Checked.seqOkIff, first, second]
  result agree result := by simp only [Checked.resultOkIff, agree]
  bind {_ _ _ found found'} next agree result := by
    have source {found : Except Refusal _} : found >>= next = .ok result ↔
        ∃ value, found = .ok value ∧ next value = .ok result := by cases found <;> simp [bind, Except.bind]
    simp only [source, agree]
  same _ _ := .rfl
  neither never never' result := iff_of_false (never result) (never' result)
  ofExcept place agree result := by simp only [Checked.ofExceptOkIff, agree]
  under found next next' agree result := by
    cases found with
    | error refusal => exact .rfl
    | ok value => exact agree value result

theorem respelledEnds {role : Role} {value value' : Value} (respelled : Respelled role value value') {α : Type}
    {decode : Value → Except Refusal α} (decoded : role.DecodedBy decode) :
    agrees.ends true (decode value) (decode value') := by
  cases respelled with
  | @permuted record members members' same =>
    have fields : agrees.Fields record (fun _ => false) (.named members) (.named members') := by
      refine ⟨fun i row known α default decode decoded result => ?_, agrees.same _⟩
      have moved := same.filter fun member => decide (member.name = row.name)
      have none : members.filter (fun member => decide (member.name = row.name)) = [] ↔
          members'.filter (fun member => decide (member.name = row.name)) = [] := by
        rw [← List.perm_nil, ← List.perm_nil]
        exact ⟨moved.symm.trans, moved.trans⟩
      have one (member : Member) : members.filter (fun member => decide (member.name = row.name)) = [member] ↔
          members'.filter (fun member => decide (member.name = row.name)) = [member] := by
        rw [← List.perm_singleton, ← List.perm_singleton]
        exact ⟨moved.symm.trans, moved.trans⟩
      simp only [namedOkIff, none, one]
    exact Lift.record decoded (.named _) (.named _) fields
  | undeclared before after new =>
    rw [undeclaredIgnored decoded new]
    exact fun _ => .rfl
  | @default record row value before after known standsFor absent =>
    have fields : agrees.Fields record (fun _ => false) (.named (before ++ after))
        (.named (before ++ ⟨row.name, value⟩ :: after)) := by
      refine ⟨fun i other found α default decode decoded result => ?_, agrees.same _⟩
      rw [namedOkIff, namedOkIff, List.filter_append, List.filter_append, List.filter_cons]
      by_cases same : row.name = other.name
      · cases sameRow (List.mem_of_getElem? found) known same
        have missing := decoded.missing
        obtain ⟨absentBefore, absentAfter⟩ := List.forall_mem_append.mp absent
        rw [noneNamed absentBefore, noneNamed absentAfter]
        rw [standsFor] at missing
        cases default with
        | none => cases missing
        | some stands =>
          have taken : decode value = .ok stands := Option.some.inj missing
          simp [taken]
      · rw [if_neg (by simpa using same)]
    exact Lift.record decoded (.named _) (.named _) fields

def Respells : Value → Value → Prop := Relation.EqvGen (Within Respelled .union)

theorem respelledInward : Inward Respelled := by
  rintro _ _ _ (_ | _ | _) <;> exact .inr ⟨_, rfl⟩

-- That the tags can be told is kept as well: a reader takes them before anything is decoded.
theorem respellsKeeps {value value' : Value} (respells : Respells value value') :
    (TypeUnion.Told value ↔ TypeUnion.Told value') ∧
      ∀ union, TypeUnion.ofValue value = .ok union ↔ TypeUnion.ofValue value' = .ok union := by
  induction respells with
  | rel value value' within =>
    have inward : Inward fun role value value' => Respelled role value' value := by
      rintro _ _ _ (_ | _ | _) <;> exact .inr ⟨_, rfl⟩
    refine ⟨⟨withinTold respelledInward within, withinTold inward (withinTurned within)⟩, ?_⟩
    exact @withinEnds agrees _ respelledEnds _ _ _ within _ _ .union
  | refl => exact ⟨.rfl, fun _ => .rfl⟩
  | symm _ _ _ ih => exact ⟨ih.1.symm, fun union => (ih.2 union).symm⟩
  | trans _ _ _ _ _ first second =>
    exact ⟨first.1.trans second.1, fun union => (first.2 union).trans (second.2 union)⟩

def listOfNumbers : TypeUnion := .single (.list number false)

def opaqueFirst : Value := .object [⟨"kind", .string "opaque"⟩, ⟨"id", .string "int"⟩]

def opaqueLast : Value := .object [⟨"id", .string "int"⟩, ⟨"kind", .string "opaque"⟩]

def written (members : List Member) : Value := .array [.object members]

theorem writtenPlain {members : List Member} (each : ∀ member ∈ members, member.value.Plain) :
    (written members).Plain := .array (List.forall_mem_singleton.mpr (.object each))

theorem listOfNumbersValue : listOfNumbers.toValue = written [⟨"kind", .string "list"⟩,
    ⟨"element", .array [opaqueFirst]⟩, ⟨"non_empty", .boolean false⟩] := by
  simp [listOfNumbers, number, TypeUnion.toValueForm, TypeUnion.single, TypeUnion.members, Atomic.toValue, Kind.tagged,
    written, opaqueFirst]
  exact ⟨rfl, rfl⟩

def listReordered : Value :=
  written [⟨"element", .array [opaqueLast]⟩, ⟨"kind", .string "list"⟩, ⟨"note", .array [.null]⟩]

theorem listRespells : Respells listOfNumbers.toValue listReordered := by
  have step {members members' : List Member} (only : Only members ⟨"kind", .string "list"⟩)
      (only' : Only members' ⟨"kind", .string "list"⟩)
      (inner : Within Respelled (.record .list) (.object members) (.object members')) :
      Respells (written members) (written members') :=
    .rel _ _ (.members (.element [] [] (@Within.tagged _ (.string "list") .list _ _ rfl only only' inner)))
  let kind : Member := ⟨"kind", .string "list"⟩
  let element (item : Value) : Member := ⟨"element", .array [item]⟩
  let note : Member := ⟨"note", .array [.null]⟩
  rw [listOfNumbersValue]
  have shorter : Respells (written [kind, element opaqueFirst])
      (written [kind, element opaqueFirst, ⟨"non_empty", .boolean false⟩]) :=
    step rfl rfl (.here (@Respelled.default .list ⟨"non_empty", .scalar, some (.boolean false)⟩ (.boolean false)
      [kind, element opaqueFirst] [] (by simp [Record.rows]) rfl (by simp [kind, element])))
  have longer : Respells (written [kind, element opaqueFirst]) (written [kind, element opaqueFirst, note]) :=
    step rfl rfl (.here (@Respelled.undeclared .list note [kind, element opaqueFirst] [] (by simp [Record.rows, note])))
  have moved : Respells (written [kind, element opaqueFirst, note]) (written [element opaqueFirst, kind, note]) :=
    step rfl rfl (.here (.permuted (.swap ..)))
  have inside : Within Respelled .atomic opaqueFirst opaqueLast :=
    @Within.tagged _ (.string "opaque") .plain _ _ rfl rfl rfl (.here (.permuted (.swap ..)))
  have turned : Respells (written [element opaqueFirst, kind, note]) (written [element opaqueLast, kind, note]) :=
    step rfl rfl (@Within.field _ .list ⟨"element", .union, none⟩ _ _ [] [kind, note] (by simp [Record.rows])
      (.members (.element [] [] inside)))
  exact .trans _ _ _ (.symm _ _ shorter) (.trans _ _ _ longer (.trans _ _ _ moved turned))

def large : Int := 10 ^ 309

theorem largeStops (depth : Nat) {rest : Text} (ended : Ended rest) : ∃ left,
    (anyValue depth).read (Text.ofInt large ++ rest) = .failed ⟨.syntaxFault .numberTooLarge, left⟩ := by
  have spelled := ofIntSpelled large
  obtain ⟨left, stops⟩ := numberStops spelled (by decide +kernel) (by decide +kernel) ended
  obtain ⟨c, text, same, starts⟩ := numeralStarts spelled
  rw [same, List.cons_append] at stops ⊢
  rw [anyValueForm]
  have visible := skipsTo blankNil (startsVisible starts) (text ++ rest)
  rw [List.nil_append] at visible
  simp only [bracketed, visible, if_neg (startsUnopened starts), scalarNumber starts, stops, Reading.ofScan]
  exact ⟨left, rfl⟩

def oversized : Member := ⟨"x", .integer large⟩

def idOnly : List Member := [⟨"kind", .string "opaque"⟩, ⟨"id", .string "a"⟩]

theorem oversizedStops {rest : Text} (ended : Ended rest) : ∃ left,
    (TypeUnion.reader nestingLimit).read ('[' :: '\x7b' :: (oversized.text ++ rest)) =
      .failed ⟨.syntaxFault .numberTooLarge, left⟩ := by
  obtain ⟨left, stops⟩ := largeStops 125 ended
  have member : (Atomic.taggedMember 125 (none, []) oversized.name).read (':' :: (Text.ofInt large ++ rest)) =
      .failed ⟨.syntaxFault .numberTooLarge, left⟩ := by
    have found : colon (':' :: (Text.ofInt large ++ rest)) = .ok (Text.ofInt large ++ rest) := rfl
    rw [Atomic.taggedMember, if_neg (by decide)]
    simp only [Reader.map, Reader.afterColon, found, stops, Reading.map]
  have next : nextMember true (oversized.text ++ rest) =
      .ok (.member oversized.name (':' :: (Text.ofInt large ++ rest))) := by
    have text : oversized.value.text = Text.ofInt large := by rw [oversized, Value.text]
    have first := nextMemberFirst (.bare oversized) rest
    simpa [Entry.bare, Entry.whole, Item.bare, Item.whole, memberText, text] using first
  have object : (Atomic.reader 126).read ('\x7b' :: (oversized.text ++ rest)) =
      .failed ⟨.syntaxFault .numberTooLarge, left⟩ := by
    have inside := membersStopped next member
    simp [Atomic.reader, Reader.refine, Atomic.tagged, skipBlanks, isBlank, opening, Atomic.taggedMembers, inside,
      Reading.refine,
      Reading.placed]
  have item : nextItem true ('\x7b' :: (oversized.text ++ rest)) =
      .ok (.item ('\x7b' :: (oversized.text ++ rest))) := rfl
  have items := itemsStopped item object
  refine ⟨left, ?_⟩
  simp [TypeUnion.reader, Reader.refine, listOf, skipBlanks, isBlank, opening, nestingLimit, items, Reading.placed,
    Reading.refine]

end TypeLens
