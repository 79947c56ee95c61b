import TypeLens.Json.Reading
import TypeLens.Proofs.Records

/-! What a type has been decoded from: each of its parts is what one field of the record gave, and nothing else is
left in the record. -/
namespace TypeLens

open Json

variable {contents : Contents}

def Json.Contents.Ends (contents : Contents) (record : Record) : Prop := ∃ last, contents.noMore record = .ok last

theorem namedEnds (members : List Member) (record : Record) : (Contents.named members).Ends record := ⟨(), rfl⟩

theorem opensInner {value : Value} (opens : Opens value contents) : value.inner = contents.values := by
  cases opens <;> rfl

theorem recordOkIff {α : Type} {value : Value} {record : Record} {read : Contents → Except Refusal α} {result : α} :
    (value.record record fun contents _ => read contents) = .ok result ↔
      ∃ contents, Opens value contents ∧ read contents = .ok result := by
  constructor
  · intro decoded
    cases value with
    | array items => exact ⟨_, .positional items, decoded⟩
    | object members => exact ⟨_, .named members, decoded⟩
    | _ => cases decoded
  · rintro ⟨contents, opens, decoded⟩
    rwa [recordOpens opens]

structure Signature.Looked (contents : Contents) (signature : Signature) : Prop where
  params : contents.field .signature "params" (some [])
    (fun value _ => value.list fun item _ => Param.ofValue item) = .ok signature.params
  returnType : contents.field .signature "return_type" (some none)
    (fun value _ => value.nullable (TypeUnion.ofValue value)) = .ok signature.returnType
  isPure : contents.field .signature "pure" (some false) (fun value _ => value.asBoolean) = .ok signature.isPure
  ends : contents.Ends .signature

structure Param.Looked (contents : Contents) (param : Param) : Prop where
  name : contents.field .param "name" none (fun value _ => value.asText) = .ok param.name
  type : contents.field .param "type" (some none) (fun value _ => value.nullable (TypeUnion.ofValue value)) =
    .ok param.type
  byRef : contents.field .param "by_ref" (some false) (fun value _ => value.asBoolean) = .ok param.byRef
  variadic : contents.field .param "variadic" (some false) (fun value _ => value.asBoolean) = .ok param.variadic
  ends : contents.Ends .param

structure ClassRef.Looked (contents : Contents) (object : ClassRef) : Prop where
  classId : contents.field .classRef "class_id" none (fun value _ => value.asText) = .ok object.classId
  typeArgs : contents.field .classRef "type_args" (some [])
    (fun value _ => value.list fun item _ => TypeUnion.ofValue item) = .ok object.typeArgs
  intersection : contents.field .classRef "intersection" (some [])
    (fun value _ => value.list fun item _ => Atomic.ofValue item) = .ok object.intersection
  ends : contents.Ends .classRef

structure Shape.Looked (contents : Contents) (isList : Bool) (fields : List ShapeField) : Prop where
  isList : contents.field .shape "is_list" (some false) (fun value _ => value.asBoolean) = .ok isList
  fields : contents.field .shape "fields" (some [])
    (fun value _ => value.list fun item _ => ShapeField.ofValue item) = .ok fields
  ends : contents.Ends .shape

structure ShapeField.Looked (contents : Contents) (field : ShapeField) : Prop where
  key : contents.field .shapeField "key" none (fun value _ => ShapeKey.ofValue value) = .ok field.key
  type : contents.field .shapeField "type" none (fun value _ => TypeUnion.ofValue value) = .ok field.type
  optional : contents.field .shapeField "optional" (some false) (fun value _ => value.asBoolean) = .ok field.optional
  ends : contents.Ends .shapeField

inductive Atomic.Looked (contents : Contents) : Kind → Atomic → Prop where
  | list {element nonEmpty}
      (first : contents.field .list "element" none (fun value _ => TypeUnion.ofValue value) = .ok element)
      (second : contents.field .list "non_empty" (some false) (fun value _ => value.asBoolean) = .ok nonEmpty)
      (ends : contents.Ends .list) : Looked contents .list (.list element nonEmpty)
  | array {key value nonEmpty}
      (first : contents.field .array "key" none (fun value _ => TypeUnion.ofValue value) = .ok key)
      (second : contents.field .array "value" none (fun value _ => TypeUnion.ofValue value) = .ok value)
      (third : contents.field .array "non_empty" (some false) (fun value _ => value.asBoolean) = .ok nonEmpty)
      (ends : contents.Ends .array) : Looked contents .array (.array key value nonEmpty)
  | iterable {key value}
      (first : contents.field .iterable "key" none (fun value _ => TypeUnion.ofValue value) = .ok key)
      (second : contents.field .iterable "value" none (fun value _ => TypeUnion.ofValue value) = .ok value)
      (ends : contents.Ends .iterable) : Looked contents .iterable (.iterable key value)
  | closure {signature} (read : Signature.ofContents contents = .ok signature) :
      Looked contents .closure (.closure signature)
  | callable {signature} (read : Signature.ofContents contents = .ok signature) :
      Looked contents .callable (.callable signature)
  | classString {bound} (first : contents.field .classString "bound" (some none)
        (fun value _ => value.nullable (ClassRef.ofValue value)) = .ok bound)
      (ends : contents.Ends .classString) : Looked contents .classString (.classString bound)
  | named {object} (read : ClassRef.ofContents contents = .ok object) : Looked contents .named (.named object)
  | shape {shape} (read : Shape.ofContents contents = .ok shape) : Looked contents .shape (.shape shape)
  | templateParam {name definingClass constraint}
      (first : contents.field .templateParam "name" none (fun value _ => value.asText) = .ok name)
      (second : contents.field .templateParam "defining_class" none (fun value _ => value.asText) = .ok definingClass)
      (third : contents.field .templateParam "constraint" none (fun value _ => TypeUnion.ofValue value) =
        .ok constraint)
      (ends : contents.Ends .templateParam) :
      Looked contents .templateParam (.templateParam name definingClass constraint)
  | plain {id} (first : contents.field .plain "id" none (fun value _ => value.asText) = .ok id)
      (ends : contents.Ends .plain) : Looked contents .plain (.plain id)

theorem signatureOkIff {signature : Signature} :
    Signature.ofContents contents = .ok signature ↔ signature.Looked contents := by
  rw [Signature.ofContents]
  simp only [Checked.resultOkIff, Checked.seqLeftOkIff, Checked.seqOkIff, Checked.mapOkIff]
  constructor
  · rintro ⟨⟨_, ⟨_, ⟨_, params, rfl⟩, _, returnType, rfl⟩, _, isPure, rfl⟩, ends⟩
    exact ⟨params, returnType, isPure, ends⟩
  · rintro ⟨params, returnType, isPure, ends⟩
    cases signature
    exact ⟨⟨_, ⟨_, ⟨_, params, rfl⟩, _, returnType, rfl⟩, _, isPure, rfl⟩, ends⟩

theorem classRefOkIff {object : ClassRef} : ClassRef.ofContents contents = .ok object ↔ object.Looked contents := by
  rw [ClassRef.ofContents]
  simp only [Checked.resultOkIff, Checked.seqLeftOkIff, Checked.seqOkIff, Checked.mapOkIff]
  constructor
  · rintro ⟨⟨_, ⟨_, ⟨_, classId, rfl⟩, _, typeArgs, rfl⟩, _, intersection, rfl⟩, ends⟩
    exact ⟨classId, typeArgs, intersection, ends⟩
  · rintro ⟨classId, typeArgs, intersection, ends⟩
    cases object
    exact ⟨⟨_, ⟨_, ⟨_, classId, rfl⟩, _, typeArgs, rfl⟩, _, intersection, rfl⟩, ends⟩

theorem modelCheckedIff {α : Type} {made : Except ModelFault α} {value : α} :
    modelChecked made = .ok value ↔ made = .ok value := by cases made <;> simp [modelChecked]

theorem membersMade {members : List Atomic} {union : TypeUnion} (made : TypeUnion.ofMembers members = .ok union) :
    union.members = members := by
  cases members with
  | nil => cases made
  | cons => cases made; rfl

theorem shapeFieldsIff {isList : Bool} {fields : List ShapeField} : Checked.result (Prod.mk
      <$> contents.field .shape "is_list" (some false) (fun value _ => value.asBoolean)
      <*> contents.field .shape "fields" (some []) (fun value _ => value.list fun item _ => ShapeField.ofValue item)
      <* contents.noMore .shape) = .ok (isList, fields) ↔ Shape.Looked contents isList fields := by
  simp only [Checked.resultOkIff, Checked.seqLeftOkIff, Checked.seqOkIff, Checked.mapOkIff]
  constructor
  · rintro ⟨⟨_, ⟨_, isList, rfl⟩, _, fields, same⟩, ends⟩
    cases same
    exact ⟨isList, fields, ends⟩
  · rintro ⟨isList, fields, ends⟩
    exact ⟨⟨_, ⟨_, isList, rfl⟩, _, fields, rfl⟩, ends⟩

theorem shapeLooked {isList : Bool} {fields : List ShapeField} (looked : Shape.Looked contents isList fields) :
    Shape.ofContents contents = modelChecked (Shape.ofFields isList fields) := by
  have read := shapeFieldsIff.mpr looked
  rw [Shape.ofContents, read]
  rfl

theorem shapeOkIff {shape : Shape} : Shape.ofContents contents = .ok shape ↔
    ∃ isList fields, Shape.Looked contents isList fields ∧ Shape.ofFields isList fields = .ok shape := by
  constructor
  · intro decoded
    rw [Shape.ofContents] at decoded
    obtain ⟨⟨isList, fields⟩, read, made⟩ := bindOk decoded
    exact ⟨isList, fields, shapeFieldsIff.mp read, modelCheckedIff.mp made⟩
  · rintro ⟨isList, fields, looked, made⟩
    rw [shapeLooked looked, made]
    rfl

theorem paramOkIff {value : Value} {param : Param} :
    Param.ofValue value = .ok param ↔ ∃ contents, Opens value contents ∧ param.Looked contents := by
  rw [Param.ofValue, recordOkIff]
  simp only [Checked.resultOkIff, Checked.seqLeftOkIff, Checked.seqOkIff, Checked.mapOkIff]
  refine exists_congr fun contents => and_congr_right fun _ => ?_
  constructor
  · rintro ⟨⟨_, ⟨_, ⟨_, ⟨_, name, rfl⟩, _, type, rfl⟩, _, byRef, rfl⟩, _, variadic, rfl⟩, ends⟩
    exact ⟨name, type, byRef, variadic, ends⟩
  · rintro ⟨name, type, byRef, variadic, ends⟩
    cases param
    exact ⟨⟨_, ⟨_, ⟨_, ⟨_, name, rfl⟩, _, type, rfl⟩, _, byRef, rfl⟩, _, variadic, rfl⟩, ends⟩

theorem fieldOkIff {value : Value} {field : ShapeField} :
    ShapeField.ofValue value = .ok field ↔ ∃ contents, Opens value contents ∧ field.Looked contents := by
  rw [ShapeField.ofValue, recordOkIff]
  simp only [Checked.resultOkIff, Checked.seqLeftOkIff, Checked.seqOkIff, Checked.mapOkIff]
  refine exists_congr fun contents => and_congr_right fun _ => ?_
  constructor
  · rintro ⟨⟨_, ⟨_, ⟨_, key, rfl⟩, _, type, rfl⟩, _, optional, rfl⟩, ends⟩
    exact ⟨key, type, optional, ends⟩
  · rintro ⟨key, type, optional, ends⟩
    cases field
    exact ⟨⟨_, ⟨_, ⟨_, key, rfl⟩, _, type, rfl⟩, _, optional, rfl⟩, ends⟩

theorem atomicOkIff {kind : Kind} {atomic : Atomic} :
    Atomic.ofContents kind contents = .ok atomic ↔ Atomic.Looked contents kind atomic := by
  constructor
  · intro decoded
    cases kind <;> rw [Atomic.ofContents] at decoded <;>
      try simp only [Checked.resultOkIff, Checked.seqLeftOkIff, Checked.seqOkIff, Checked.mapOkIff] at decoded
    case list =>
      obtain ⟨⟨_, ⟨_, element, rfl⟩, _, nonEmpty, rfl⟩, ends⟩ := decoded
      exact .list element nonEmpty ends
    case array =>
      obtain ⟨⟨_, ⟨_, ⟨_, key, rfl⟩, _, value, rfl⟩, _, nonEmpty, rfl⟩, ends⟩ := decoded
      exact .array key value nonEmpty ends
    case iterable =>
      obtain ⟨⟨_, ⟨_, key, rfl⟩, _, value, rfl⟩, ends⟩ := decoded
      exact .iterable key value ends
    case closure =>
      obtain ⟨signature, read, rfl⟩ := mapOk decoded
      exact .closure read
    case callable =>
      obtain ⟨signature, read, rfl⟩ := mapOk decoded
      exact .callable read
    case classString =>
      obtain ⟨⟨_, bound, rfl⟩, ends⟩ := decoded
      exact .classString bound ends
    case named =>
      obtain ⟨object, read, rfl⟩ := mapOk decoded
      exact .named read
    case shape =>
      obtain ⟨shape, read, rfl⟩ := mapOk decoded
      exact .shape read
    case templateParam =>
      obtain ⟨⟨_, ⟨_, ⟨_, name, rfl⟩, _, definingClass, rfl⟩, _, constraint, rfl⟩, ends⟩ := decoded
      exact .templateParam name definingClass constraint ends
    case plain =>
      obtain ⟨⟨_, id, rfl⟩, ends⟩ := decoded
      exact .plain id ends
  · intro looked
    cases looked <;> rw [Atomic.ofContents] <;>
      try simp only [Checked.resultOkIff, Checked.seqLeftOkIff, Checked.seqOkIff, Checked.mapOkIff]
    case list element nonEmpty ends => exact ⟨⟨_, ⟨_, element, rfl⟩, _, nonEmpty, rfl⟩, ends⟩
    case array key value nonEmpty ends => exact ⟨⟨_, ⟨_, ⟨_, key, rfl⟩, _, value, rfl⟩, _, nonEmpty, rfl⟩, ends⟩
    case iterable key value ends => exact ⟨⟨_, ⟨_, key, rfl⟩, _, value, rfl⟩, ends⟩
    case closure read | callable read | named read | shape read =>
      rw [read]
      rfl
    case classString bound ends => exact ⟨⟨_, bound, rfl⟩, ends⟩
    case templateParam name definingClass constraint ends =>
      exact ⟨⟨_, ⟨_, ⟨_, name, rfl⟩, _, definingClass, rfl⟩, _, constraint, rfl⟩, ends⟩
    case plain id ends => exact ⟨⟨_, id, rfl⟩, ends⟩

theorem atomicOpened {value : Value} {atomic : Atomic} (decoded : Atomic.ofValue value = .ok atomic) :
    ∃ outer kind contents, Opens value outer ∧ (∀ item ∈ contents.values, item ∈ outer.values) ∧
      Atomic.ofContents kind contents = .ok atomic := by
  cases value with
  | array items =>
    cases items with
    | nil => rw [Atomic.ofValue] at decoded; cases decoded
    | cons tag items =>
      rw [Atomic.ofValue] at decoded
      obtain ⟨kind, _, decoded⟩ := bindOk decoded
      exact ⟨_, kind, .positional items, .positional _, fun _ => List.mem_cons_of_mem tag, decoded⟩
  | object members =>
    rw [Atomic.ofValue] at decoded
    obtain ⟨kind, _, decoded⟩ := bindOk decoded
    exact ⟨_, kind, .named members, .named members, fun _ inside => inside, decoded⟩
  | _ => simp [Atomic.ofValue] at decoded

end TypeLens
