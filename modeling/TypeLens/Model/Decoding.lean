import TypeLens.Json.Contents
import TypeLens.Model.Shape

/-! Types among JSON values. Each atomic type is a record of its kind, tagged by the member
`kind` or by the first item. -/
namespace TypeLens

open Json

namespace Kind

def ofText (tag : Text) : Except Refusal Kind :=
  match ofTag? tag with
  | some kind => .ok kind
  | none => .error (.unknownKind tag)

/-- Among values that have been read, a kind may also be given by its number. -/
def ofValue : Value → Except Refusal Kind
  | .string tag => ofText tag
  | .integer index =>
    if index < 0 then .error (.wrongType (.integer index) .tag)
    else match all[index.toNat]? with
      | some kind => .ok kind
      | none => .error (.noSuchKind index)
  | value => .error (.wrongType (.of value) .tag)

end Kind

def ShapeKey.ofValue : Value → Except Refusal ShapeKey
  | .integer value =>
    if Int64.minValue.toInt ≤ value ∧ value ≤ Int64.maxValue.toInt then .ok (.index (Int64.ofInt value))
    else .error .noShapeKey
  | .string text => .ok (.name text)
  | _ => .error .noShapeKey

def modelChecked {α : Type} : Except ModelFault α → Except Refusal α
  | .ok value => .ok value
  | .error fault => .error (.model fault)

mutual

def TypeUnion.ofValue (value : Value) : Except Refusal TypeUnion := do
  let members ← value.list fun item _ => Atomic.ofValue item
  modelChecked (TypeUnion.ofMembers members)
termination_by (sizeOf value, 0)

def Atomic.ofValue (value : Value) : Except Refusal Atomic :=
  match value with
  | .array [] => .error (.missingField "kind")
  | .array (tag :: items) => do
    let kind ← Kind.ofValue tag
    Atomic.ofContents kind (.positional items)
  | .object members => do
    let kind ← (Contents.memberField members "kind" (.fault members.length (.missingField "kind"))
      fun tag _ => Kind.ofValue tag).result
    Atomic.ofContents kind (.named members)
  | value => .error (.wrongType (.of value) .atomic)
termination_by (sizeOf value, 3)

def Atomic.ofContents (kind : Kind) (contents : Contents) : Except Refusal Atomic :=
  match kind with
  | .list => Checked.result <|
    .list <$> contents.field .list "element" none (fun value _ => TypeUnion.ofValue value)
      <*> contents.field .list "non_empty" (some false) (fun value _ => value.asBoolean)
      <* contents.noMore .list
  | .array => Checked.result <|
    .array <$> contents.field .array "key" none (fun value _ => TypeUnion.ofValue value)
      <*> contents.field .array "value" none (fun value _ => TypeUnion.ofValue value)
      <*> contents.field .array "non_empty" (some false) (fun value _ => value.asBoolean)
      <* contents.noMore .array
  | .iterable => Checked.result <|
    .iterable <$> contents.field .iterable "key" none (fun value _ => TypeUnion.ofValue value)
      <*> contents.field .iterable "value" none (fun value _ => TypeUnion.ofValue value)
      <* contents.noMore .iterable
  | .closure => .closure <$> Signature.ofContents contents
  | .callable => .callable <$> Signature.ofContents contents
  | .classString => Checked.result <|
    .classString <$> contents.field .classString "bound" (some none)
        (fun value _ => value.nullable (ClassRef.ofValue value))
      <* contents.noMore .classString
  | .named => .named <$> ClassRef.ofContents contents
  | .shape => .shape <$> Shape.ofContents contents
  | .templateParam => Checked.result <|
    .templateParam <$> contents.field .templateParam "name" none (fun value _ => value.asText)
      <*> contents.field .templateParam "defining_class" none (fun value _ => value.asText)
      <*> contents.field .templateParam "constraint" none (fun value _ => TypeUnion.ofValue value)
      <* contents.noMore .templateParam
  | .plain => Checked.result <|
    .plain <$> contents.field .plain "id" none (fun value _ => value.asText)
      <* contents.noMore .plain
termination_by (sizeOf contents, 2)
decreasing_by all_goals first
  | · have := Contents.sizeOfValues ‹_›
      left
      omega
  | · right
      omega

def Signature.ofContents (contents : Contents) : Except Refusal Signature := Checked.result <|
  Signature.mk
    <$> contents.field .signature "params" (some [])
      (fun value _ => value.list fun item _ => Param.ofValue item)
    <*> contents.field .signature "return_type" (some none)
      (fun value _ => value.nullable (TypeUnion.ofValue value))
    <*> contents.field .signature "pure" (some false) (fun value _ => value.asBoolean)
    <* contents.noMore .signature
termination_by (sizeOf contents, 1)
decreasing_by
  all_goals
    have := Contents.sizeOfValues ‹_›
    left
    omega

def Param.ofValue (value : Value) : Except Refusal Param :=
  value.record .param fun contents _ => Checked.result <|
    Param.mk <$> contents.field .param "name" none (fun value _ => value.asText)
      <*> contents.field .param "type" (some none) (fun value _ => value.nullable (TypeUnion.ofValue value))
      <*> contents.field .param "by_ref" (some false) (fun value _ => value.asBoolean)
      <*> contents.field .param "variadic" (some false) (fun value _ => value.asBoolean)
      <* contents.noMore .param
termination_by (sizeOf value, 0)
decreasing_by
  all_goals
    have := Contents.sizeOfValues ‹_›
    left
    omega

def ClassRef.ofValue (value : Value) : Except Refusal ClassRef :=
  value.record .classRef fun contents _ => ClassRef.ofContents contents
termination_by (sizeOf value, 2)
decreasing_by apply Prod.Lex.right' <;> omega

def ClassRef.ofContents (contents : Contents) : Except Refusal ClassRef := Checked.result <|
  ClassRef.mk <$> contents.field .classRef "class_id" none (fun value _ => value.asText)
    <*> contents.field .classRef "type_args" (some [])
      (fun value _ => value.list fun item _ => TypeUnion.ofValue item)
    <*> contents.field .classRef "intersection" (some [])
      (fun value _ => value.list fun item _ => Atomic.ofValue item)
    <* contents.noMore .classRef
termination_by (sizeOf contents, 1)
decreasing_by
  all_goals
    have := Contents.sizeOfValues ‹_›
    left
    omega

def Shape.ofContents (contents : Contents) : Except Refusal Shape := do
  let (isList, fields) ← Checked.result <|
    Prod.mk <$> contents.field .shape "is_list" (some false) (fun value _ => value.asBoolean)
      <*> contents.field .shape "fields" (some [])
        (fun value _ => value.list fun item _ => ShapeField.ofValue item)
      <* contents.noMore .shape
  modelChecked (Shape.ofFields isList fields)
termination_by (sizeOf contents, 1)
decreasing_by
  all_goals
    have := Contents.sizeOfValues ‹_›
    left
    omega

def ShapeField.ofValue (value : Value) : Except Refusal ShapeField :=
  value.record .shapeField fun contents _ => Checked.result <|
    ShapeField.mk <$> contents.field .shapeField "key" none (fun value _ => ShapeKey.ofValue value)
      <*> contents.field .shapeField "type" none (fun value _ => TypeUnion.ofValue value)
      <*> contents.field .shapeField "optional" (some false) (fun value _ => value.asBoolean)
      <* contents.noMore .shapeField
termination_by (sizeOf value, 0)
decreasing_by
  all_goals
    have := Contents.sizeOfValues ‹_›
    left
    omega

end

end TypeLens
