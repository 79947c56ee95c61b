import TypeLens.Proofs.Json.Gives
import TypeLens.Proofs.Looked
import TypeLens.Proofs.WellFormed
import TypeLens.Site.Document

/-! Decoded types are well-formed. The values inside a value are dealt with first, so each decoder has only
to see to what it makes of them; the readers of texts give what these decoders give. -/
namespace TypeLens

open Json TypeLens.Part

structure Json.Value.Safe (value : Value) : Prop where
  union {union} : TypeUnion.ofValue value = .ok union → union.WellFormed
  atomic {atomic} : Atomic.ofValue value = .ok atomic → atomic.WellFormed
  param {param} : Param.ofValue value = .ok param → (ofParam param).WellFormed
  classRef {object} : ClassRef.ofValue value = .ok object → (ofClassRef object).WellFormed
  field {field} : ShapeField.ofValue value = .ok field → (ofField field).WellFormed

theorem unionOfMembers {members : List Atomic} {union : TypeUnion}
    (made : modelChecked (TypeUnion.ofMembers members) = .ok union)
    (parts : ∀ atomic ∈ members, atomic.WellFormed) : union.WellFormed := by
  rw [TypeUnion.wellFormedIff, membersMade (modelCheckedIff.mp made)]
  exact parts

section
variable {contents : Contents} (safe : ∀ value ∈ contents.values, value.Safe ∧ ∀ item ∈ value.inner, item.Safe)
include safe

theorem unionField {record : Record} {name : Text} {union : TypeUnion}
    (found : contents.field record name none (fun value _ => TypeUnion.ofValue value) = .ok union) :
    union.WellFormed := by
  rcases fieldSource found with missing | ⟨value, inside, read⟩
  · cases missing
  · exact (safe value inside).1.union read

theorem optionalUnionField {record : Record} {name : Text} {found : Option TypeUnion}
    (read : contents.field record name (some none)
      (fun value _ => value.nullable (TypeUnion.ofValue value)) = .ok found) :
    ∀ union ∈ found, union.WellFormed := by
  rintro union rfl
  rcases fieldSource read with missing | ⟨value, inside, read⟩
  · cases missing
  · exact (safe value inside).1.union (nullableSource read)

theorem listField {α : Type} {record : Record} {name : Text} {decode : Value → Except Refusal α}
    {found : List α} (read : contents.field record name (some [])
      (fun value _ => value.list fun item _ => decode item) = .ok found) :
    ∀ result ∈ found, ∃ item : Value, item.Safe ∧ decode item = .ok result := by
  intro result member
  rcases fieldSource read with missing | ⟨value, inside, read⟩
  · cases missing; cases member
  · obtain ⟨item, within, _, source⟩ := listSource read member
    exact ⟨item, (safe value inside).2 item within, source⟩

theorem signatureOfContents {signature : Signature} (decoded : Signature.ofContents contents = .ok signature) :
    (ofSignature signature).WellFormed := by
  have looked := signatureOkIff.mp decoded
  refine wellFormedIff.mpr ⟨trivial, fun child inside => ?_⟩
  rcases List.mem_append.mp inside with inside | inside
  · obtain ⟨param, member, rfl⟩ := List.mem_map.mp inside
    obtain ⟨item, itemSafe, read⟩ := listField safe looked.params param member
    exact itemSafe.param read
  · obtain ⟨union, member, rfl⟩ := List.mem_map.mp inside
    exact optionalUnionField safe looked.returnType union (Option.mem_toList.mp member)

theorem classRefOfContents {object : ClassRef} (decoded : ClassRef.ofContents contents = .ok object) :
    (ofClassRef object).WellFormed := by
  have looked := classRefOkIff.mp decoded
  refine wellFormedIff.mpr ⟨trivial, fun child inside => ?_⟩
  rcases List.mem_append.mp inside with inside | inside
  · obtain ⟨union, member, rfl⟩ := List.mem_map.mp inside
    obtain ⟨item, itemSafe, read⟩ := listField safe looked.typeArgs union member
    exact itemSafe.union read
  · obtain ⟨atomic, member, rfl⟩ := List.mem_map.mp inside
    obtain ⟨item, itemSafe, read⟩ := listField safe looked.intersection atomic member
    exact itemSafe.atomic read

theorem shapeOfContents {shape : Shape} (decoded : Shape.ofContents contents = .ok shape) :
    (ofShape shape).WellFormed := by
  obtain ⟨isList, fields, looked, made⟩ := shapeOkIff.mp decoded
  refine wellFormedIff.mpr ⟨Shape.ofFieldsKeysProper made, fun child inside => ?_⟩
  obtain ⟨_, rfl⟩ := Shape.ofFieldsIff.mp made
  obtain ⟨field, member, rfl⟩ := List.mem_map.mp inside
  obtain ⟨source, among, rfl⟩ := List.mem_map.mp member
  obtain ⟨item, itemSafe, read⟩ := listField safe looked.fields source among
  have type : source.type.WellFormed := fieldWellFormedIff.mp (itemSafe.field read)
  exact fieldWellFormedIff.mpr type

theorem atomicOfContents {kind : Kind} {atomic : Atomic} (decoded : Atomic.ofContents kind contents = .ok atomic) :
    atomic.WellFormed := by
  refine wellFormedIff.mpr ⟨by cases atomic <;> trivial, fun child inside => ?_⟩
  cases atomicOkIff.mp decoded with
  | list element =>
    cases List.mem_singleton.mp inside
    exact unionField safe element
  | array key value | iterable key value =>
    simp only [children, List.mem_cons, List.not_mem_nil, or_false] at inside
    rcases inside with rfl | rfl
    · exact unionField safe key
    · exact unionField safe value
  | closure read | callable read =>
    cases List.mem_singleton.mp inside
    exact signatureOfContents safe read
  | classString bound =>
    obtain ⟨object, member, rfl⟩ := List.mem_map.mp inside
    cases Option.mem_toList.mp member
    rcases fieldSource bound with missing | ⟨value, within, read⟩
    · cases missing
    · exact (safe value within).1.classRef (nullableSource read)
  | named read =>
    cases List.mem_singleton.mp inside
    exact classRefOfContents safe read
  | shape read =>
    cases List.mem_singleton.mp inside
    exact shapeOfContents safe read
  | templateParam _ _ constraint =>
    cases List.mem_singleton.mp inside
    exact unionField safe constraint
  | plain => cases inside

end

theorem atomicOfValue {value : Value} {atomic : Atomic}
    (safe : ∀ item ∈ value.inner, item.Safe ∧ ∀ deeper ∈ item.inner, deeper.Safe)
    (decoded : Atomic.ofValue value = .ok atomic) : atomic.WellFormed := by
  obtain ⟨outer, kind, contents, opens, among, decoded⟩ := atomicOpened decoded
  refine atomicOfContents (fun item inside => safe item ?_) decoded
  rw [opensInner opens]
  exact among item inside

theorem paramOfValue {value : Value} {param : Param}
    (safe : ∀ item ∈ value.inner, item.Safe ∧ ∀ deeper ∈ item.inner, deeper.Safe)
    (decoded : Param.ofValue value = .ok param) : (ofParam param).WellFormed := by
  obtain ⟨contents, opens, looked⟩ := paramOkIff.mp decoded
  refine wellFormedIff.mpr ⟨trivial, fun child inside => ?_⟩
  obtain ⟨union, member, rfl⟩ := List.mem_map.mp inside
  exact optionalUnionField (opensInner opens ▸ safe) looked.type union (Option.mem_toList.mp member)

theorem fieldOfValue {value : Value} {field : ShapeField}
    (safe : ∀ item ∈ value.inner, item.Safe ∧ ∀ deeper ∈ item.inner, deeper.Safe)
    (decoded : ShapeField.ofValue value = .ok field) : (ofField field).WellFormed := by
  obtain ⟨contents, opens, looked⟩ := fieldOkIff.mp decoded
  rw [fieldWellFormedIff]
  exact unionField (opensInner opens ▸ safe) looked.type

theorem valueSafe (value : Value) : value.Safe := by
  have both : value.Safe ∧ ∀ item ∈ value.inner, item.Safe := by
    induction value using Value.induct with
    | step value safe =>
      refine ⟨⟨?_, atomicOfValue safe, paramOfValue safe, ?_, fieldOfValue safe⟩,
        fun item inside => (safe item inside).1⟩
      · intro union decoded
        rw [TypeUnion.ofValue] at decoded
        obtain ⟨members, read, made⟩ := bindOk decoded
        refine unionOfMembers made fun atomic member => ?_
        obtain ⟨item, inside, _, source⟩ := listSource read member
        exact (safe item inside).1.atomic source
      · intro object decoded
        rw [ClassRef.ofValue, recordOkIff] at decoded
        obtain ⟨contents, opens, read⟩ := decoded
        exact classRefOfContents (opensInner opens ▸ safe) read
  exact both.1

theorem atomicReaderGives (depth : Nat) : (Atomic.reader depth).Gives Atomic.WellFormed := by
  intro text atomic rest read
  obtain ⟨⟨kind, contents⟩, _, decoded⟩ := Reading.refineOk read
  exact atomicOfContents (fun value _ => ⟨valueSafe value, fun item _ => valueSafe item⟩) decoded

theorem unionReaderGives (depth : Nat) : (TypeUnion.reader depth).Gives TypeUnion.WellFormed :=
  Reader.refineGives (listOfGives atomicReaderGives depth) fun _ _ parts made => unionOfMembers made parts

def Site.Draft.WellFormed (draft : Site.Draft) : Prop :=
  ∀ found ∈ draft.type, ∀ union ∈ found, TypeUnion.WellFormed union

theorem siteReaderGives (depth : Nat) : (Site.reader depth).Gives Site.WellFormed := by
  have blank : Site.schema.blank.WellFormed := by simp [Site.schema, Site.Draft.WellFormed]
  have keeps : Site.schema.Keeps Site.Draft.WellFormed := by
    intro slot member depth
    simp only [Site.schema, List.mem_cons, List.not_mem_nil, or_false] at member
    rcases member with rfl | rfl | rfl | rfl
    · exact Reader.mapGives fun _ _ _ _ _ start => start
    · exact Reader.mapGives fun _ _ _ _ _ start => start
    · exact Reader.mapGives fun _ _ _ _ _ start => start
    · apply Reader.mapGives
      intro text found rest read draft _ other same
      cases same
      exact orNullGives (unionReaderGives depth) _ _ _ read
  refine Schema.readerGives blank keeps ?_ depth
  intro missing draft site start completed
  simp only [Site.schema] at completed
  obtain ⟨kind, _, completed⟩ := bindOk completed
  obtain ⟨span, _, completed⟩ := bindOk completed
  cases completed
  intro union member
  cases held : draft.type with
  | none => simp [held] at member
  | some found => exact start found held union (by simpa [held] using member)

end TypeLens
