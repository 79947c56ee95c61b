import TypeLens.Model.Decoding
import TypeLens.Model.Encoding
import TypeLens.Proofs.Looked
import TypeLens.Proofs.WellFormed

/-! Encoded types. What a type is encoded as is decoded as this type, from the parts inside to the whole: each
field is found under its name, and the checks that a decoder makes are those that a well-formed type passes. -/
namespace TypeLens

open Json TypeLens.Part

def Json.Hold (members fields : List Member) : Prop := ∀ field ∈ fields, Only members field

def Atomic.DecodedAgain (atomic : Atomic) : Prop :=
  ∃ kind fields, atomic.toValue = kind.tagged fields ∧ ("kind".toList :: fields.map (·.name)).Nodup ∧
    ∀ members, Hold members fields → Atomic.ofContents kind (.named members) = .ok atomic

def Part.DecodedAgain : Part → Prop
  | ofUnion union => TypeUnion.ofValue union.toValue = .ok union
  | ofAtomic atomic => atomic.DecodedAgain
  | ofSignature signature =>
    ∀ members, Hold members signature.toMembers → Signature.ofContents (.named members) = .ok signature
  | ofParam param => Param.ofValue param.toValue = .ok param
  | ofClassRef object =>
    ∀ members, Hold members object.toMembers → ClassRef.ofContents (.named members) = .ok object
  | ofShape shape => ∀ members, Hold members shape.toMembers → Shape.ofContents (.named members) = .ok shape
  | ofField field => ShapeField.ofValue field.toValue = .ok field

theorem Kind.ofTextTag (kind : Kind) : Kind.ofText kind.tag = .ok kind := by
  rw [ofText, ofTagTag]

theorem ShapeKey.ofValueToValue (key : ShapeKey) : ShapeKey.ofValue key.toValue = .ok key := by
  cases key with
  | index value =>
    rw [toValue, ofValue, if_pos ⟨value.minValue_le_toInt, value.toInt_le⟩, Int64.ofInt_toInt]
  | name text => rfl

theorem TypeUnion.toValueForm (union : TypeUnion) : union.toValue = .array (union.members.map Atomic.toValue) := by
  obtain ⟨first, more⟩ := union
  rw [toValue]
  rfl

namespace Atomic.DecodedAgain

variable {atomic : Atomic}

theorem ofValue (again : atomic.DecodedAgain) : Atomic.ofValue atomic.toValue = .ok atomic := by
  obtain ⟨kind, fields, form, apart, decoded⟩ := again
  let tag : Member := ⟨"kind", .string kind.tag⟩
  have apart : ((tag :: fields).map (·.name)).Nodup := apart
  have only : ∀ member ∈ tag :: fields, Only (tag :: fields) member := fun member inside => onlyOfApart apart inside
  have found : ∀ missing, Contents.memberField (tag :: fields) "kind" missing (fun value _ => Kind.ofValue value) =
      .ok kind := fun missing => memberFieldFound (only tag List.mem_cons_self) fun _ => kind.ofTextTag
  rw [form, Kind.tagged, Atomic.ofValue, found]
  exact decoded (tag :: fields) fun field inside => only field (List.mem_cons_of_mem _ inside)

theorem ofFields (again : atomic.DecodedAgain) : ∃ kind fields, atomic.toValue = kind.tagged fields ∧
    ("kind".toList :: fields.map (·.name)).Nodup ∧ Atomic.ofContents kind (.named fields) = .ok atomic := by
  obtain ⟨kind, fields, form, apart, decoded⟩ := again
  exact ⟨kind, fields, form, apart, decoded fields fun field inside => onlyOfApart (List.nodup_cons.mp apart).2 inside⟩

end Atomic.DecodedAgain

theorem unionAgain {union : TypeUnion} (each : ∀ atomic ∈ union.members, atomic.DecodedAgain) :
    TypeUnion.ofValue union.toValue = .ok union := by
  have read : (Value.array (union.members.map Atomic.toValue)).list (fun item _ => Atomic.ofValue item) =
      .ok union.members := listAgain fun atomic member => (each atomic member).ofValue
  rw [TypeUnion.toValueForm, TypeUnion.ofValue, read]
  cases union; rfl

theorem optionalUnionAgain {type : Option TypeUnion}
    (each : ∀ union ∈ type, TypeUnion.ofValue union.toValue = .ok union) :
    (Value.ofOption TypeUnion.toValue type).nullable (TypeUnion.ofValue (.ofOption TypeUnion.toValue type)) =
      .ok type := by
  cases type with
  | none => rfl
  | some union => exact nullableAgain (by simp [Value.ofOption, TypeUnion.toValueForm]) (each union rfl)

theorem Signature.toMembersForm (signature : Signature) : signature.toMembers =
    [⟨"params", .array (signature.params.map Param.toValue)⟩,
      ⟨"return_type", .ofOption TypeUnion.toValue signature.returnType⟩, ⟨"pure", .boolean signature.isPure⟩] := by
  obtain ⟨params, returnType, isPure⟩ := signature
  cases returnType <;> rw [toMembers] <;> rfl

theorem Atomic.classStringForm (bound : Option ClassRef) : (Atomic.classString bound).toValue =
    Kind.classString.tagged [⟨"bound", .ofOption ClassRef.toValue bound⟩] := by
  cases bound <;> rw [Atomic.toValue] <;> rfl

theorem Param.toValueForm (param : Param) : param.toValue = .object [⟨"name", .string param.name⟩,
    ⟨"type", .ofOption TypeUnion.toValue param.type⟩, ⟨"by_ref", .boolean param.byRef⟩,
    ⟨"variadic", .boolean param.variadic⟩] := by
  obtain ⟨name, type, byRef, variadic⟩ := param
  cases type <;> rw [toValue] <;> rfl

theorem ClassRef.toMembersForm (object : ClassRef) : object.toMembers = [⟨"class_id", .string object.classId⟩,
    ⟨"type_args", .array (object.typeArgs.map TypeUnion.toValue)⟩,
    ⟨"intersection", .array (object.intersection.map Atomic.toValue)⟩] := by
  obtain ⟨classId, typeArgs, intersection⟩ := object
  rw [toMembers]

theorem Shape.toMembersForm (shape : Shape) : shape.toMembers =
    [⟨"is_list", .boolean shape.isList⟩, ⟨"fields", .array (shape.fields.map ShapeField.toValue)⟩] := by
  obtain ⟨isList, fields⟩ := shape
  rw [toMembers]

theorem ShapeField.toValueForm (field : ShapeField) : field.toValue = .object [⟨"key", field.key.toValue⟩,
    ⟨"type", field.type.toValue⟩, ⟨"optional", .boolean field.optional⟩] := by
  obtain ⟨key, type, optional⟩ := field
  rw [toValue]

section
variable {members : List Member}

theorem signatureAgain {signature : Signature} (held : Hold members signature.toMembers)
    (params : ∀ param ∈ signature.params, Param.ofValue param.toValue = .ok param)
    (result : ∀ union ∈ signature.returnType, TypeUnion.ofValue union.toValue = .ok union) :
    Signature.ofContents (.named members) = .ok signature := by
  rw [Signature.toMembersForm] at held
  simp only [Hold, List.forall_mem_cons] at held
  obtain ⟨paramsHeld, resultHeld, pureHeld, _⟩ := held
  exact signatureOkIff.mpr ⟨namedField paramsHeld fun _ => listAgain params,
    namedField resultHeld fun _ => optionalUnionAgain result, namedField pureHeld fun _ => rfl, namedEnds ..⟩

theorem classRefAgain {object : ClassRef} (held : Hold members object.toMembers)
    (typeArgs : ∀ union ∈ object.typeArgs, TypeUnion.ofValue union.toValue = .ok union)
    (intersection : ∀ atomic ∈ object.intersection, atomic.DecodedAgain) :
    ClassRef.ofContents (.named members) = .ok object := by
  rw [ClassRef.toMembersForm] at held
  simp only [Hold, List.forall_mem_cons] at held
  obtain ⟨classIdHeld, typeArgsHeld, intersectionHeld, _⟩ := held
  have others := fun atomic member => (intersection atomic member).ofValue
  refine classRefOkIff.mpr
    ⟨namedField classIdHeld fun _ => rfl, namedField typeArgsHeld fun _ => listAgain typeArgs, ?_,
    namedEnds ..⟩
  exact namedField intersectionHeld fun _ => listAgain others

theorem shapeAgain {shape : Shape} (held : Hold members shape.toMembers) (proper : shape.KeysProper)
    (fields : ∀ field ∈ shape.fields, ShapeField.ofValue field.toValue = .ok field) :
    Shape.ofContents (.named members) = .ok shape := by
  rw [Shape.toMembersForm] at held
  simp only [Hold, List.forall_mem_cons] at held
  obtain ⟨isListHeld, fieldsHeld, _⟩ := held
  refine shapeOkIff.mpr ⟨_, _, ⟨namedField isListHeld fun _ => rfl, ?_, namedEnds ..⟩, Shape.ofFieldsAgain proper⟩
  exact namedField fieldsHeld fun _ => listAgain fields

theorem paramAgain {param : Param} (type : ∀ union ∈ param.type, TypeUnion.ofValue union.toValue = .ok union) :
    Param.ofValue param.toValue = .ok param := by
  rw [Param.toValueForm]
  refine paramOkIff.mpr ⟨_, .named _, namedField rfl fun _ => rfl, ?_, namedField rfl fun _ => rfl,
    namedField rfl fun _ => rfl, namedEnds ..⟩
  exact namedField rfl fun _ => optionalUnionAgain type

theorem fieldAgain {field : ShapeField} (type : TypeUnion.ofValue field.type.toValue = .ok field.type) :
    ShapeField.ofValue field.toValue = .ok field := by
  rw [ShapeField.toValueForm]
  exact fieldOkIff.mpr ⟨_, .named _, namedField rfl fun _ => field.key.ofValueToValue, namedField rfl fun _ => type,
    namedField rfl fun _ => rfl, namedEnds ..⟩

theorem signatureNamesApart (signature : Signature) :
    ("kind".toList :: signature.toMembers.map (·.name)).Nodup := by
  rw [Signature.toMembersForm]
  simp

theorem classRefNamesApart (object : ClassRef) : ("kind".toList :: object.toMembers.map (·.name)).Nodup := by
  rw [ClassRef.toMembersForm]
  simp

theorem shapeNamesApart (shape : Shape) : ("kind".toList :: shape.toMembers.map (·.name)).Nodup := by
  rw [Shape.toMembersForm]
  simp

theorem atomicAgain {atomic : Atomic} (inner : ∀ child ∈ (ofAtomic atomic).children, child.DecodedAgain) :
    atomic.DecodedAgain := by
  cases atomic with
  | list element nonEmpty =>
    have element := inner _ List.mem_cons_self
    refine ⟨.list, _, by rw [Atomic.toValue], by simp, fun members held => ?_⟩
    simp only [Hold, List.forall_mem_cons] at held
    obtain ⟨elementHeld, nonEmptyHeld, _⟩ := held
    exact atomicOkIff.mpr (.list (namedField elementHeld fun _ => element) (namedField nonEmptyHeld fun _ => rfl)
      (namedEnds ..))
  | array key value nonEmpty =>
    have key := inner _ List.mem_cons_self
    have value := inner _ (List.mem_cons_of_mem _ List.mem_cons_self)
    refine ⟨.array, _, by rw [Atomic.toValue], by simp, fun members held => ?_⟩
    simp only [Hold, List.forall_mem_cons] at held
    obtain ⟨keyHeld, valueHeld, nonEmptyHeld, _⟩ := held
    exact atomicOkIff.mpr (.array (namedField keyHeld fun _ => key) (namedField valueHeld fun _ => value)
      (namedField nonEmptyHeld fun _ => rfl) (namedEnds ..))
  | iterable key value =>
    have key := inner _ List.mem_cons_self
    have value := inner _ (List.mem_cons_of_mem _ List.mem_cons_self)
    refine ⟨.iterable, _, by rw [Atomic.toValue], by simp, fun members held => ?_⟩
    simp only [Hold, List.forall_mem_cons] at held
    obtain ⟨keyHeld, valueHeld, _⟩ := held
    exact atomicOkIff.mpr (.iterable (namedField keyHeld fun _ => key) (namedField valueHeld fun _ => value)
      (namedEnds ..))
  | closure signature =>
    refine ⟨.closure, _, by rw [Atomic.toValue], signatureNamesApart signature, fun members held => ?_⟩
    exact atomicOkIff.mpr (.closure (inner _ List.mem_cons_self members held))
  | callable signature =>
    refine ⟨.callable, _, by rw [Atomic.toValue], signatureNamesApart signature, fun members held => ?_⟩
    exact atomicOkIff.mpr (.callable (inner _ List.mem_cons_self members held))
  | classString bound =>
    refine ⟨.classString, _, Atomic.classStringForm bound, by simp, fun members held => ?_⟩
    have bounded : (Value.ofOption ClassRef.toValue bound).nullable
        (ClassRef.ofValue (.ofOption ClassRef.toValue bound)) = .ok bound := by
      cases bound with
      | none => rfl
      | some object =>
        have names := (List.nodup_cons.mp (classRefNamesApart object)).2
        have decoded := inner _ List.mem_cons_self object.toMembers fun _ inside => onlyOfApart names inside
        refine nullableAgain (by simp [Value.ofOption, ClassRef.toValue]) ?_
        rw [Value.ofOption, ClassRef.toValue, ClassRef.ofValue, Value.record]
        exact decoded
    simp only [Hold, List.forall_mem_cons] at held
    exact atomicOkIff.mpr (.classString (namedField held.1 fun _ => bounded) (namedEnds ..))
  | named object =>
    refine ⟨.named, _, by rw [Atomic.toValue], classRefNamesApart object, fun members held => ?_⟩
    exact atomicOkIff.mpr (.named (inner _ List.mem_cons_self members held))
  | shape shape =>
    refine ⟨.shape, _, by rw [Atomic.toValue], shapeNamesApart shape, fun members held => ?_⟩
    exact atomicOkIff.mpr (.shape (inner _ List.mem_cons_self members held))
  | templateParam name definingClass constraint =>
    have constraint := inner _ List.mem_cons_self
    refine ⟨.templateParam, _, by rw [Atomic.toValue], by simp, fun members held => ?_⟩
    simp only [Hold, List.forall_mem_cons] at held
    obtain ⟨nameHeld, classHeld, constraintHeld, _⟩ := held
    exact atomicOkIff.mpr (.templateParam (namedField nameHeld fun _ => rfl) (namedField classHeld fun _ => rfl)
      (namedField constraintHeld fun _ => constraint) (namedEnds ..))
  | plain id =>
    refine ⟨.plain, _, by rw [Atomic.toValue], by simp, fun members held => ?_⟩
    simp only [Hold, List.forall_mem_cons] at held
    exact atomicOkIff.mpr (.plain (namedField held.1 fun _ => rfl) (namedEnds ..))

end

theorem partAgain {part : Part} (whole : part.WellFormed) : part.DecodedAgain := by
  induction part using Part.induct with
  | step part ih =>
    obtain ⟨proper, below⟩ := wellFormedIff.mp whole
    have inner : ∀ child ∈ part.children, child.DecodedAgain := fun child inside => ih child inside (below child inside)
    cases part with
    | ofUnion union => exact unionAgain fun atomic member => inner _ (List.mem_map_of_mem member)
    | ofAtomic atomic => exact atomicAgain inner
    | ofSignature signature =>
      intro members held
      refine signatureAgain held (fun param member => ?_) fun union member => ?_
      · exact inner (ofParam param) (List.mem_append_left _ (List.mem_map_of_mem member))
      · exact inner (ofUnion union)
          (List.mem_append_right _ (List.mem_map_of_mem (Option.mem_toList.mpr member)))
    | ofParam param =>
      exact paramAgain fun union member => inner (ofUnion union) (List.mem_map_of_mem (Option.mem_toList.mpr member))
    | ofClassRef object =>
      intro members held
      refine classRefAgain held (fun union member => ?_) fun atomic member => ?_
      · exact inner (ofUnion union) (List.mem_append_left _ (List.mem_map_of_mem member))
      · exact inner (ofAtomic atomic) (List.mem_append_right _ (List.mem_map_of_mem member))
    | ofShape shape =>
      intro members held
      exact shapeAgain held proper fun field member => inner (ofField field) (List.mem_map_of_mem member)
    | ofField field => exact fieldAgain (inner (ofUnion field.type) List.mem_cons_self)

end TypeLens
