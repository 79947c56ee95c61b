import TypeLens.Proofs.Decoded
import TypeLens.Proofs.Reached

/-! Violations of the model. Where a union is written with no members, or a shape with one key twice, the whole text
is refused for this and for nothing else, however deep it stands. -/
namespace TypeLens

open Json TypeLens.Part

def turned {α : Type} (refusal : Refusal) (mark : Bool) (result : α) : Except Refusal α :=
  if mark then .error refusal else .ok result

-- If both are refused, it is for the same reason, so it does not matter which comes first.
theorem bothRefused {α β : Type} (i j : Nat) (refusal : Refusal) :
    ((.fault i refusal : Checked (α → β)) <*> .fault j refusal).result = .error refusal := by
  change Checked.result (Checked.ap _ _) = _
  rw [Checked.ap]
  split <;> rfl

def turns (refusal : Refusal) : Closure where
  looks mark look look' := ∀ result, look = .ok result → look'.result = turned refusal mark result
  ends mark found found' := ∀ result, found = .ok result → found' = turned refusal mark result
  map {_ _ mark _ look'} f turn result done := by
    obtain ⟨value, found, rfl⟩ := Checked.mapOkIff.mp done
    have turn := turn value found
    cases mark <;> cases look' <;> cases turn <;> rfl
  seq {_ _ mark further _ f' _ look'} first second result done := by
    obtain ⟨f, foundFirst, value, found, rfl⟩ := Checked.seqOkIff.mp done
    have first := first f foundFirst
    have second := second value found
    cases mark <;> cases further <;> cases f' <;> cases look' <;> cases first <;> cases second <;>
      first | rfl | exact bothRefused ..
  result turn result done := turn result (Checked.resultOkIff.mp done)
  bind {_ _ mark _ _} next turn result done := by
    obtain ⟨value, found, last⟩ := bindOk done
    rw [turn value found]
    cases mark with
    | true => rfl
    | false => exact last
  same _ result done := Checked.resultOkIff.mpr done
  neither never _ result done := absurd done (never result)
  ofExcept {_ mark found found'} place turn result done := by
    rw [turn result (Checked.ofExceptOkIff.mp done)]
    cases mark <;> rfl
  under found next next' turn result done := by
    cases found with
    | error refusal => cases done
    | ok value => exact turn value result done

inductive Emptied (union : TypeUnion) : Role → Value → Value → Prop where
  | members : Emptied union .union union.toValue (.array [])

inductive Added (front : List Value) (added : Value) (back : List Value) : Role → Value → Value → Prop where
  | field (before after) : Added front added back (.record .shape)
      (.object (before ++ ⟨"fields", .array (front ++ back)⟩ :: after))
      (.object (before ++ ⟨"fields", .array (front ++ added :: back)⟩ :: after))

theorem emptiedMovable (union : TypeUnion) : Movable (Emptied union) where
  present := by rintro _ _ _ ⟨⟩; nofun
  behind _ change := by cases change

theorem addedMovable (front : List Value) (added : Value) (back : List Value) : Movable (Added front added back) where
  present := by rintro _ _ _ ⟨⟩; nofun
  behind {record members value'} tag change := by
    generalize object : Value.object members = value at change
    cases change with
    | field before after =>
      cases object
      exact ⟨before ++ ⟨"fields", .array (front ++ added :: back)⟩ :: after, .field (tag :: before) after, by simp⟩

theorem emptiedEnds {union : TypeUnion} {role : Role} {value value' : Value} (emptied : Emptied union role value value')
    {α : Type} {decode : Value → Except Refusal α} (decoded : role.DecodedBy decode) :
    (turns (.model .emptyUnion)).ends true (decode value) (decode value') := by
  cases emptied
  cases decoded
  intro result _
  rw [TypeUnion.ofValue]
  rfl

section
variable {front back : List Value} {added : Value} {field : ShapeField} (valid : ShapeField.ofValue added = .ok field)
  (taken : ∃ other ∈ front ++ back, ∃ present, ShapeField.ofValue other = .ok present ∧
    present.key.canonical = field.key.canonical)
include valid taken

theorem addedEnds {role : Role} {value value' : Value} (change : Added front added back role value value')
    {α : Type} {decode : Value → Except Refusal α} (decoded : role.DecodedBy decode) :
    (turns (.model (.duplicateKey field.key.canonical))).ends true (decode value) (decode value') := by
  cases change with
  | field before after =>
    generalize record : Role.record .shape = role at decoded
    cases decoded with
    | contents kind =>
      cases kind <;> cases record
      intro result done
      change Atomic.ofContents .shape (.named _) = .ok result at done
      change Atomic.ofContents .shape (.named _) = .error _
      rw [Atomic.ofContents] at done ⊢
      obtain ⟨shape, read, rfl⟩ := mapOk done
      obtain ⟨isList, fields, looked, made⟩ := shapeOkIff.mp read
      obtain ⟨absent, listed⟩ := namedHereIff.mp looked.fields
      obtain ⟨first, last, rfl, listedMore⟩ := listInserted listed valid
      have lookedMore : Shape.Looked (.named (before ++ ⟨"fields", .array (front ++ added :: back)⟩ :: after)) isList
          (first ++ field :: last) :=
        ⟨(namedElsewhereIff (by simp)).mp looked.isList, namedHereIff.mpr ⟨absent, listedMore⟩, namedEnds ..⟩
      have there : field.key.canonical ∈ (first ++ last).map (·.key.canonical) := by
        obtain ⟨other, inside, present, found, same⟩ := taken
        exact List.mem_map.mpr ⟨present, listKeeps listed inside found, same⟩
      have apart := (Shape.ofFieldsIff.mp made).1
      rw [shapeLooked lookedMore, Shape.ofFieldsDoubled apart there]
      rfl
    | _ => cases record

end

theorem keyTaken {shape : Shape} (whole : (ofShape shape).WellFormed) {key : ShapeKey}
    (inside : key.canonical ∈ shape.keys) : ∃ other ∈ shape.fields.map ShapeField.toValue, ∃ present,
      ShapeField.ofValue other = .ok present ∧ present.key.canonical = key.canonical := by
  obtain ⟨present, member, same⟩ := List.mem_map.mp inside
  have again : ShapeField.ofValue present.toValue = .ok present :=
    partAgain (childWellFormed whole (List.mem_map_of_mem member))
  refine ⟨_, List.mem_map_of_mem member, present, again, ?_⟩
  rw [same]
  exact ShapeKey.canonicalOfCanonical key.canonicalCanonical

theorem unionTold {union : TypeUnion} (whole : union.WellFormed) : TypeUnion.Told union.toValue := by
  rw [TypeUnion.toValueForm]
  refine .array fun item inside => ?_
  obtain ⟨atomic, member, rfl⟩ := List.mem_map.mp inside
  obtain ⟨kind, fields, form, apart, _⟩ :=
    Atomic.DecodedAgain.ofFields (partAgain (TypeUnion.wellFormedIff.mp whole atomic member))
  exact ⟨kind, _, form ▸ taggedTold apart⟩

def Caught (text : Text) (fault : ModelFault) : Prop :=
  ∃ error, TypeUnion.decode text = .error error ∧ error.problem = .refused (.model fault) ∧
    fault.message <+: error.message

theorem changeCaught {Here : Role → Value → Value → Prop} (inward : Inward Here) {fault : ModelFault}
    (ends : ∀ {role value value'}, Here role value value' → ∀ {α : Type} {decode : Value → Except Refusal α},
      role.DecodedBy decode → (turns (.model fault)).ends true (decode value) (decode value'))
    {union : TypeUnion} (whole : union.WellFormed) {value' : Value} (within : Within Here .union union.toValue value')
    (fits : value'.depth ≤ 127) {text : Text} (spelled : Document text value') : Caught text fault := by
  have again : TypeUnion.ofValue union.toValue = .ok union := partAgain whole
  have failed : TypeUnion.ofValue value' = .error (.model fault) :=
    @withinEnds (turns (.model fault)) _ ends _ _ _ within _ _ .union union again
  obtain ⟨place, refused⟩ :=
    (unionDecodes (withinTold inward within (unionTold whole)) spelled fits).refused failed
  exact ⟨_, refused, rfl, List.prefix_append ..⟩

def fieldWritten (key type : Value) (optional : Bool) : Value :=
  .object [⟨"key", key⟩, ⟨"type", type⟩, ⟨"optional", .boolean optional⟩]

def shapeWritten (fields : List Value) : Value :=
  .array [.object [⟨"kind", .string "shape"⟩, ⟨"is_list", .boolean false⟩, ⟨"fields", .array fields⟩]]

def numberWritten : Value := .array [.object [⟨"kind", .string "opaque"⟩, ⟨"id", .string "int"⟩]]

def firstField : Value := fieldWritten (.integer 0) numberWritten false

theorem numberValue : number.toValue = numberWritten := by
  simp [number, TypeUnion.toValueForm, TypeUnion.single, TypeUnion.members, Atomic.toValue, Kind.tagged, numberWritten]
  rfl

theorem innermostValue : (nested 0).toValue =
    shapeWritten [firstField, fieldWritten (.string "a") numberWritten true] := by
  rw [nested, TypeUnion.toValueForm]
  simp only [TypeUnion.members, TypeUnion.single, List.map_cons, List.map_nil, Atomic.toValue, Kind.tagged,
    Shape.toMembersForm, innermostFields, ShapeField.toValueForm, numberValue, shapeWritten, firstField, fieldWritten]
  rfl

theorem fieldsWithin {Here : Role → Value → Value → Prop} {fields fields' : List Value}
    (inner : Within Here (.record .shape)
      (.object [⟨"kind", .string "shape"⟩, ⟨"is_list", .boolean false⟩, ⟨"fields", .array fields⟩])
      (.object [⟨"kind", .string "shape"⟩, ⟨"is_list", .boolean false⟩, ⟨"fields", .array fields'⟩])) :
    Within Here .union (shapeWritten fields) (shapeWritten fields') :=
  .members (.element [] [] (@Within.tagged _ (.string "shape") .shape _ _ rfl rfl rfl inner))

theorem shapePlain {fields : List Value} (each : ∀ field ∈ fields, field.Plain) : (shapeWritten fields).Plain := by
  refine .array (List.forall_mem_singleton.mpr (.object ?_))
  simpa [Value.Plain.string, Value.Plain.boolean] using Value.Plain.array each

theorem fieldPlain {key type : Value} {optional : Bool} (keyPlain : key.Plain) (typePlain : type.Plain) :
    (fieldWritten key type optional).Plain := .object (by simp [keyPlain, typePlain, Value.Plain.boolean])

theorem fieldValue (key : ShapeKey) (optional : Bool) :
    ShapeField.ofValue (fieldWritten key.toValue numberWritten optional) = .ok ⟨key, number, optional⟩ := by
  have again : TypeUnion.ofValue number.toValue = .ok number := partAgain numberWellFormed
  have field := @fieldAgain ⟨key, number, optional⟩ again
  rwa [ShapeField.toValueForm, numberValue] at field

theorem innermostParts :
    ofShape innermost ∈ (ofUnion (nested 0)).parts ∧ ofUnion number ∈ (ofUnion (nested 0)).parts := by
  have below {part child inner : Part} (among : child ∈ part.children) (deep : inner ∈ child.parts) :
      inner ∈ part.parts := memParts.mpr (.inr ⟨child, among, deep⟩)
  have within {inner : Part} (deep : inner ∈ (ofShape innermost).parts) : inner ∈ (ofUnion (nested 0)).parts :=
    @below _ (ofAtomic (.shape innermost)) _ List.mem_cons_self (below List.mem_cons_self deep)
  have field : ofField ⟨.name "a", number, true⟩ ∈ (ofShape innermost).children := by
    simp [children, innermostFields]
  exact ⟨within (memParts.mpr (.inl rfl)), within (below field (below List.mem_cons_self (memParts.mpr (.inl rfl))))⟩

end TypeLens
