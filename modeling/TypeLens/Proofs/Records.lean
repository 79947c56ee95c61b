import TypeLens.Model.Decoding
import TypeLens.Proofs.Json.Lookup

/-! The records that types are written as: what sort of value each field holds, and which value stands for a field
that is left out. What relates two looks at each field of a record, relates what is decoded from the whole. -/
namespace TypeLens

open Json

inductive Role where
  | scalar | union | atomic
  | record (record : Record)
  | list (role : Role)
  | nullable (role : Role)

structure Row where
  name : Text
  role : Role
  default : Option Value

def Json.Record.rows : Record → List Row
  | .param => [⟨"name", .scalar, none⟩, ⟨"type", .nullable .union, some .null⟩,
      ⟨"by_ref", .scalar, some (.boolean false)⟩, ⟨"variadic", .scalar, some (.boolean false)⟩]
  | .signature => [⟨"params", .list (.record .param), some (.array [])⟩,
      ⟨"return_type", .nullable .union, some .null⟩, ⟨"pure", .scalar, some (.boolean false)⟩]
  | .classRef => [⟨"class_id", .scalar, none⟩, ⟨"type_args", .list .union, some (.array [])⟩,
      ⟨"intersection", .list .atomic, some (.array [])⟩]
  | .shapeField => [⟨"key", .scalar, none⟩, ⟨"type", .union, none⟩, ⟨"optional", .scalar, some (.boolean false)⟩]
  | .shape => [⟨"is_list", .scalar, some (.boolean false)⟩, ⟨"fields", .list (.record .shapeField), some (.array [])⟩]
  | .list => [⟨"element", .union, none⟩, ⟨"non_empty", .scalar, some (.boolean false)⟩]
  | .array => [⟨"key", .union, none⟩, ⟨"value", .union, none⟩, ⟨"non_empty", .scalar, some (.boolean false)⟩]
  | .iterable => [⟨"key", .union, none⟩, ⟨"value", .union, none⟩]
  | .classString => [⟨"bound", .nullable (.record .classRef), some .null⟩]
  | .templateParam => [⟨"name", .scalar, none⟩, ⟨"defining_class", .scalar, none⟩, ⟨"constraint", .union, none⟩]
  | .plain => [⟨"id", .scalar, none⟩]
  | .span | .site | .classDecl | .traceInput => []

theorem rowNames {record : Record} (typed : record.rows ≠ []) : record.rows.map (·.name) = record.fields := by
  cases record <;> first | rfl | exact absurd rfl typed

def Kind.record : Kind → Record
  | .list => .list
  | .array => .array
  | .iterable => .iterable
  | .closure | .callable => .signature
  | .classString => .classString
  | .named => .classRef
  | .shape => .shape
  | .templateParam => .templateParam
  | .plain => .plain

inductive Role.DecodedBy : {α : Type} → Role → (Value → Except Refusal α) → Prop where
  | text : DecodedBy .scalar Value.asText
  | boolean : DecodedBy .scalar Value.asBoolean
  | key : DecodedBy .scalar ShapeKey.ofValue
  | union : DecodedBy .union TypeUnion.ofValue
  | atomic : DecodedBy .atomic Atomic.ofValue
  | param : DecodedBy (.record .param) Param.ofValue
  | classRef : DecodedBy (.record .classRef) ClassRef.ofValue
  | field : DecodedBy (.record .shapeField) ShapeField.ofValue
  | contents (kind : Kind) :
      DecodedBy (.record kind.record) fun value =>
        value.record kind.record fun contents _ => Atomic.ofContents kind contents
  | list {α : Type} {role : Role} {decode : Value → Except Refusal α} (each : DecodedBy role decode) :
      DecodedBy (.list role) fun value => value.list fun item _ => decode item
  | nullable {α : Type} {role : Role} {decode : Value → Except Refusal α} (some : DecodedBy role decode) :
      DecodedBy (.nullable role) fun value => value.nullable (decode value)

structure Row.DecodedBy {α : Type} (row : Row) (default : Option α) (decode : Value → Except Refusal α) : Prop where
  held : row.role.DecodedBy decode
  missing : row.default.map decode = default.map .ok

inductive Opens : Value → Contents → Prop where
  | named (members) : Opens (.object members) (.named members)
  | positional (items) : Opens (.array items) (.positional items)

theorem recordOpens {α : Type} {value : Value} {contents : Contents} (opens : Opens value contents) (record : Record)
    (read : Contents → Except Refusal α) : (value.record record fun contents _ => read contents) = read contents := by
  cases opens <;> rfl

/-- A relation of two looks at fields, and of what comes of them. The mark tells where they may differ. -/
structure Lift where
  looks : {α : Type} → Bool → Checked α → Checked α → Prop
  ends : {α : Type} → Bool → Except Refusal α → Except Refusal α → Prop
  map : ∀ {α β : Type} {mark : Bool} {look look' : Checked α} (f : α → β),
    looks mark look look' → looks mark (f <$> look) (f <$> look')
  seq : ∀ {α β : Type} {mark further : Bool} {f f' : Checked (α → β)} {look look' : Checked α},
    looks mark f f' → looks further look look' → looks (mark || further) (f <*> look) (f' <*> look')
  result : ∀ {α : Type} {mark : Bool} {look look' : Checked α},
    looks mark look look' → ends mark look.result look'.result
  bind : ∀ {α β : Type} {mark : Bool} {found found' : Except Refusal α} (next : α → Except Refusal β),
    ends mark found found' → ends mark (found >>= next) (found' >>= next)

structure Lift.Fields (lift : Lift) (record : Record) (marked : Text → Bool) (contents contents' : Contents) :
    Prop where
  field : ∀ (i : Nat) {row : Row}, record.rows[i]? = some row → ∀ {α : Type} {default : Option α}
    {decode : Value → Except Refusal α}, row.DecodedBy default decode → lift.looks (marked row.name)
      (contents.field record row.name default fun value _ => decode value)
      (contents'.field record row.name default fun value _ => decode value)
  noMore : lift.looks false (contents.noMore record) (contents'.noMore record)

def Json.Record.marks (record : Record) (marked : Text → Bool) : Bool :=
  record.rows.foldl (fun mark row => mark || marked row.name) false

namespace Lift

variable {lift : Lift} {marked : Text → Bool} {contents contents' : Contents}

theorem seqLeft {α β : Type} {mark : Bool} {look look' : Checked α} {last last' : Checked β}
    (first : lift.looks mark look look') (closes : lift.looks false last last') :
    lift.looks mark (look <* last) (look' <* last') := by
  have both := lift.seq (lift.map (Function.const β) first) closes
  rwa [Bool.or_false] at both

theorem mapEnds {α β : Type} {mark : Bool} {found found' : Except Refusal α} (f : α → β)
    (ends : lift.ends mark found found') : lift.ends mark (f <$> found) (f <$> found') := by
  have form (found : Except Refusal α) : f <$> found = found >>= fun value => .ok (f value) := by cases found <;> rfl
  rw [form, form]
  exact lift.bind _ ends

theorem signature (fields : lift.Fields .signature marked contents contents') :
    lift.ends (Record.signature.marks marked) (Signature.ofContents contents) (Signature.ofContents contents') := by
  rw [Signature.ofContents, Signature.ofContents]
  refine lift.result (lift.seqLeft (lift.seq (lift.seq (lift.map Signature.mk ?_) ?_) ?_) fields.noMore)
  · exact fields.field 0 rfl ⟨.list .param, rfl⟩
  · exact fields.field 1 rfl ⟨.nullable .union, rfl⟩
  · exact fields.field 2 rfl ⟨.boolean, rfl⟩

theorem classRef (fields : lift.Fields .classRef marked contents contents') :
    lift.ends (Record.classRef.marks marked) (ClassRef.ofContents contents) (ClassRef.ofContents contents') := by
  rw [ClassRef.ofContents, ClassRef.ofContents]
  refine lift.result (lift.seqLeft (lift.seq (lift.seq (lift.map ClassRef.mk ?_) ?_) ?_) fields.noMore)
  · exact fields.field 0 rfl ⟨.text, rfl⟩
  · exact fields.field 1 rfl ⟨.list .union, rfl⟩
  · exact fields.field 2 rfl ⟨.list .atomic, rfl⟩

theorem shape (fields : lift.Fields .shape marked contents contents') :
    lift.ends (Record.shape.marks marked) (Shape.ofContents contents) (Shape.ofContents contents') := by
  rw [Shape.ofContents, Shape.ofContents]
  refine lift.bind _ (lift.result (lift.seqLeft (lift.seq (lift.map Prod.mk ?_) ?_) fields.noMore))
  · exact fields.field 0 rfl ⟨.boolean, rfl⟩
  · exact fields.field 1 rfl ⟨.list .field, rfl⟩

theorem atomic (kind : Kind) (fields : lift.Fields kind.record marked contents contents') :
    lift.ends (kind.record.marks marked) (Atomic.ofContents kind contents) (Atomic.ofContents kind contents') := by
  cases kind with
  | closure | callable =>
    rw [Atomic.ofContents, Atomic.ofContents]
    exact lift.mapEnds _ (signature fields)
  | named =>
    rw [Atomic.ofContents, Atomic.ofContents]
    exact lift.mapEnds _ (classRef fields)
  | shape =>
    rw [Atomic.ofContents, Atomic.ofContents]
    exact lift.mapEnds _ (shape fields)
  | list =>
    rw [Atomic.ofContents, Atomic.ofContents]
    refine lift.result (lift.seqLeft (lift.seq (lift.map Atomic.list ?_) ?_) fields.noMore)
    · exact fields.field 0 rfl ⟨.union, rfl⟩
    · exact fields.field 1 rfl ⟨.boolean, rfl⟩
  | array =>
    rw [Atomic.ofContents, Atomic.ofContents]
    refine lift.result (lift.seqLeft (lift.seq (lift.seq (lift.map Atomic.array ?_) ?_) ?_) fields.noMore)
    · exact fields.field 0 rfl ⟨.union, rfl⟩
    · exact fields.field 1 rfl ⟨.union, rfl⟩
    · exact fields.field 2 rfl ⟨.boolean, rfl⟩
  | iterable =>
    rw [Atomic.ofContents, Atomic.ofContents]
    refine lift.result (lift.seqLeft (lift.seq (lift.map Atomic.iterable ?_) ?_) fields.noMore)
    · exact fields.field 0 rfl ⟨.union, rfl⟩
    · exact fields.field 1 rfl ⟨.union, rfl⟩
  | classString =>
    rw [Atomic.ofContents, Atomic.ofContents]
    refine lift.result (lift.seqLeft (lift.map Atomic.classString ?_) fields.noMore)
    exact fields.field 0 rfl ⟨.nullable .classRef, rfl⟩
  | templateParam =>
    rw [Atomic.ofContents, Atomic.ofContents]
    refine lift.result (lift.seqLeft (lift.seq (lift.seq (lift.map Atomic.templateParam ?_) ?_) ?_) fields.noMore)
    · exact fields.field 0 rfl ⟨.text, rfl⟩
    · exact fields.field 1 rfl ⟨.text, rfl⟩
    · exact fields.field 2 rfl ⟨.union, rfl⟩
  | plain =>
    rw [Atomic.ofContents, Atomic.ofContents]
    refine lift.result (lift.seqLeft (lift.map Atomic.plain ?_) fields.noMore)
    exact fields.field 0 rfl ⟨.text, rfl⟩

theorem record {record : Record} {α : Type} {decode : Value → Except Refusal α} {value value' : Value}
    (decoded : Role.DecodedBy (.record record) decode) (opens : Opens value contents) (opens' : Opens value' contents')
    (fields : lift.Fields record marked contents contents') :
    lift.ends (record.marks marked) (decode value) (decode value') := by
  generalize held : Role.record record = role at decoded
  cases decoded with
  | contents kind =>
    cases held
    simp only [recordOpens opens, recordOpens opens']
    exact atomic kind fields
  | classRef =>
    cases held
    rw [ClassRef.ofValue, ClassRef.ofValue, recordOpens opens, recordOpens opens']
    exact classRef fields
  | param =>
    cases held
    rw [Param.ofValue, Param.ofValue, recordOpens opens, recordOpens opens']
    refine lift.result (lift.seqLeft (lift.seq (lift.seq (lift.seq (lift.map Param.mk ?_) ?_) ?_) ?_) fields.noMore)
    · exact fields.field 0 rfl ⟨.text, rfl⟩
    · exact fields.field 1 rfl ⟨.nullable .union, rfl⟩
    · exact fields.field 2 rfl ⟨.boolean, rfl⟩
    · exact fields.field 3 rfl ⟨.boolean, rfl⟩
  | field =>
    cases held
    rw [ShapeField.ofValue, ShapeField.ofValue, recordOpens opens, recordOpens opens']
    refine lift.result (lift.seqLeft (lift.seq (lift.seq (lift.map ShapeField.mk ?_) ?_) ?_) fields.noMore)
    · exact fields.field 0 rfl ⟨.key, rfl⟩
    · exact fields.field 1 rfl ⟨.union, rfl⟩
    · exact fields.field 2 rfl ⟨.boolean, rfl⟩
  | _ => cases held

end Lift

def moves (place : Nat → Nat) (order : ∀ i j, place i ≤ place j ↔ i ≤ j) : Lift where
  looks _ look look' := look' = look.moved place
  ends _ found found' := found' = found
  map f same := by rw [same, Checked.movedMap]
  seq first second := by rw [first, second, Checked.movedSeq order]
  result same := by rw [same, Checked.resultMoved]
  bind _ same := by rw [same]

theorem undeclaredFields {record : Record} {other : Member} (undeclared : ∀ row ∈ record.rows, other.name ≠ row.name)
    (before after : List Member) : (moves (skipping before.length) (skippingOrder _)).Fields record (fun _ => false)
      (.named (before ++ after)) (.named (before ++ other :: after)) :=
  ⟨fun _ _ known _ _ _ _ => fieldInserted (undeclared _ (List.mem_of_getElem? known)) record _ before after, rfl⟩

theorem undeclaredIgnored {record : Record} {α : Type} {decode : Value → Except Refusal α}
    (decoded : Role.DecodedBy (.record record) decode) {other : Member}
    (undeclared : ∀ row ∈ record.rows, other.name ≠ row.name) (before after : List Member) :
    decode (.object (before ++ other :: after)) = decode (.object (before ++ after)) :=
  Lift.record decoded (.named _) (.named _) (undeclaredFields undeclared before after)

end TypeLens
