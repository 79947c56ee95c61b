import TypeLens.Json.Value
import TypeLens.Model.Basic
import TypeLens.Model.Kind

/-! Types as JSON values. Every field is written, also one that has its default. -/
namespace TypeLens

open Json

def Json.Value.ofOption {α : Type} (encode : α → Value) : Option α → Value
  | none => .null
  | some value => encode value

def ShapeKey.toValue : ShapeKey → Value
  | .index value => .integer value.toInt
  | .name text => .string text

def Kind.tagged (kind : Kind) (fields : List Member) : Value :=
  .object (⟨"kind", .string kind.tag⟩ :: fields)

mutual

def TypeUnion.toValue : TypeUnion → Value
  | ⟨first, more⟩ => .array (first.toValue :: more.map (·.toValue))
termination_by union => sizeOf union

def Atomic.toValue : Atomic → Value
  | .list element nonEmpty => Kind.list.tagged [⟨"element", element.toValue⟩, ⟨"non_empty", .boolean nonEmpty⟩]
  | .array key value nonEmpty =>
    Kind.array.tagged [⟨"key", key.toValue⟩, ⟨"value", value.toValue⟩, ⟨"non_empty", .boolean nonEmpty⟩]
  | .iterable key value => Kind.iterable.tagged [⟨"key", key.toValue⟩, ⟨"value", value.toValue⟩]
  | .closure signature => Kind.closure.tagged signature.toMembers
  | .callable signature => Kind.callable.tagged signature.toMembers
  | .classString none => Kind.classString.tagged [⟨"bound", .null⟩]
  | .classString (some bound) => Kind.classString.tagged [⟨"bound", .object bound.toMembers⟩]
  | .named object => Kind.named.tagged object.toMembers
  | .shape shape => Kind.shape.tagged shape.toMembers
  | .templateParam name definingClass constraint =>
    Kind.templateParam.tagged
      [⟨"name", .string name⟩, ⟨"defining_class", .string definingClass⟩, ⟨"constraint", constraint.toValue⟩]
  | .plain id => Kind.plain.tagged [⟨"id", .string id⟩]
termination_by atomic => sizeOf atomic

def Signature.toMembers : Signature → List Member
  | ⟨params, returnType, isPure⟩ =>
    [⟨"params", .array (params.map (·.toValue))⟩,
      ⟨"return_type", match returnType with | none => .null | some type => type.toValue⟩,
      ⟨"pure", .boolean isPure⟩]
termination_by signature => sizeOf signature
decreasing_by
  · have := List.sizeOf_lt_of_mem ‹_›
    simp only [Signature.mk.sizeOf_spec]
    omega
  · simp only [Signature.mk.sizeOf_spec, Option.some.sizeOf_spec]
    omega

def Param.toValue : Param → Value
  | ⟨name, type, byRef, variadic⟩ =>
    .object [⟨"name", .string name⟩,
      ⟨"type", match type with | none => .null | some type => type.toValue⟩,
      ⟨"by_ref", .boolean byRef⟩, ⟨"variadic", .boolean variadic⟩]
termination_by param => sizeOf param

def ClassRef.toMembers : ClassRef → List Member
  | ⟨classId, typeArgs, intersection⟩ =>
    [⟨"class_id", .string classId⟩, ⟨"type_args", .array (typeArgs.map (·.toValue))⟩,
      ⟨"intersection", .array (intersection.map (·.toValue))⟩]
termination_by object => sizeOf object

def Shape.toMembers : Shape → List Member
  | ⟨isList, fields⟩ => [⟨"is_list", .boolean isList⟩, ⟨"fields", .array (fields.map (·.toValue))⟩]
termination_by shape => sizeOf shape

def ShapeField.toValue : ShapeField → Value
  | ⟨key, type, optional⟩ =>
    .object [⟨"key", key.toValue⟩, ⟨"type", type.toValue⟩, ⟨"optional", .boolean optional⟩]
termination_by field => sizeOf field

end

def Signature.toValue (signature : Signature) : Value := .object signature.toMembers

def ClassRef.toValue (object : ClassRef) : Value := .object object.toMembers

def Shape.toValue (shape : Shape) : Value := .object shape.toMembers

end TypeLens
