import TypeLens.Proofs.Decoded
import TypeLens.Proofs.RoundTrip

/-! Writing again what has been accepted. A union is written with all its fields, so the text nests deeper where a
record had left out its lists, but never by more than one level. -/
namespace TypeLens

open Json TypeLens.Part

structure Json.Value.Keeps (value : Value) : Prop where
  union {union} : TypeUnion.ofValue value = .ok union → union.toValue.depth ≤ value.depth + 1
  atomic {atomic} : Atomic.ofValue value = .ok atomic → atomic.toValue.depth ≤ value.depth + 1
  param {param} : Param.ofValue value = .ok param → param.toValue.depth ≤ value.depth + 1
  classRef {object} : ClassRef.ofValue value = .ok object → object.toValue.depth ≤ value.depth + 1
  field {field} : ShapeField.ofValue value = .ok field → field.toValue.depth ≤ value.depth + 1

theorem listDepth {α : Type} {encode : α → Value} {list : List α} {bound : Nat}
    (each : ∀ item ∈ list, (encode item).depth ≤ bound) : (Value.array (list.map encode)).depth ≤ bound + 1 :=
  Value.depthLe.mpr (List.forall_mem_map.mpr each)

theorem taggedDepth {kind : Kind} {fields : List Member} {bound : Nat}
    (each : ∀ field ∈ fields, field.value.depth ≤ bound + 1) : (kind.tagged fields).depth ≤ bound + 2 :=
  Value.depthLe.mpr (List.forall_mem_map.mpr (List.forall_mem_cons.mpr ⟨by simp [Value.depth], each⟩))

theorem keyDepth (key : ShapeKey) : key.toValue.depth = 0 := by cases key <;> simp [ShapeKey.toValue, Value.depth]

theorem canonicalDepth (field : ShapeField) : (Shape.canonicalField field).toValue.depth = field.toValue.depth := by
  simp [Shape.canonicalField, ShapeField.toValueForm, Value.depth, keyDepth]

section
variable {contents : Contents} {bound : Nat} (inside : ∀ value ∈ contents.values,
  value.depth ≤ bound ∧ value.Keeps ∧ ∀ item ∈ value.inner, item.Keeps)
include inside

theorem unionDepth {record : Record} {name : Text} {union : TypeUnion}
    (found : contents.field record name none (fun value _ => TypeUnion.ofValue value) = .ok union) :
    union.toValue.depth ≤ bound + 1 := by
  rcases fieldSource found with missing | ⟨value, within, read⟩
  · cases missing
  · obtain ⟨shallow, keeps, _⟩ := inside value within
    exact Nat.le_trans (keeps.union read) (Nat.succ_le_succ shallow)

theorem optionalDepth {α : Type} {record : Record} {name : Text} {decode : Value → Except Refusal α}
    {encode : α → Value} {found : Option α} (read : contents.field record name (some none)
      (fun value _ => value.nullable (decode value)) = .ok found)
    (keeps : ∀ value ∈ contents.values, ∀ result, decode value = .ok result →
      (encode result).depth ≤ value.depth + 1) : (Value.ofOption encode found).depth ≤ bound + 1 := by
  cases found with
  | none => simp [Value.ofOption, Value.depth]
  | some result =>
    rcases fieldSource read with missing | ⟨value, within, read⟩
    · cases missing
    · exact Nat.le_trans (keeps value within result (nullableSource read)) (Nat.succ_le_succ (inside value within).1)

theorem listFieldDepth {α : Type} {record : Record} {name : Text} {decode : Value → Except Refusal α}
    {encode : α → Value} {found : List α} (read : contents.field record name (some [])
      (fun value _ => value.list fun item _ => decode item) = .ok found)
    (keeps : ∀ item : Value, item.Keeps → ∀ result, decode item = .ok result → (encode result).depth ≤ item.depth + 1) :
    (Value.array (found.map encode)).depth ≤ bound + 1 := by
  refine listDepth fun result member => ?_
  rcases fieldSource read with missing | ⟨value, within, read⟩
  · cases missing
    cases member
  · obtain ⟨item, among, _, source⟩ := listSource read member
    obtain ⟨shallow, _, each⟩ := inside value within
    exact Nat.le_trans (keeps item (each item among) result source) (Nat.le_trans (Value.innerDepth among) shallow)

theorem signatureDepth {signature : Signature} (decoded : Signature.ofContents contents = .ok signature) :
    ∀ member ∈ signature.toMembers, member.value.depth ≤ bound + 1 := by
  have looked := signatureOkIff.mp decoded
  have params := listFieldDepth inside looked.params fun item keeps _ => keeps.param
  have result := optionalDepth inside looked.returnType fun value within _ => (inside value within).2.1.union
  simp only [Signature.toMembersForm, List.forall_mem_cons]
  exact ⟨params, result, by simp [Value.depth], by simp⟩

theorem classRefDepth {object : ClassRef} (decoded : ClassRef.ofContents contents = .ok object) :
    ∀ member ∈ object.toMembers, member.value.depth ≤ bound + 1 := by
  have looked := classRefOkIff.mp decoded
  have typeArgs := listFieldDepth inside looked.typeArgs fun item keeps _ => keeps.union
  have intersection := listFieldDepth inside looked.intersection fun item keeps _ => keeps.atomic
  simp only [ClassRef.toMembersForm, List.forall_mem_cons]
  exact ⟨by simp [Value.depth], typeArgs, intersection, by simp⟩

theorem shapeDepth {shape : Shape} (decoded : Shape.ofContents contents = .ok shape) :
    ∀ member ∈ shape.toMembers, member.value.depth ≤ bound + 1 := by
  obtain ⟨isList, fields, looked, made⟩ := shapeOkIff.mp decoded
  have listed := listFieldDepth inside looked.fields fun item keeps _ => keeps.field
  obtain ⟨_, rfl⟩ := Shape.ofFieldsIff.mp made
  rw [Shape.toMembersForm]
  simpa [Value.depth, canonicalDepth, Function.comp_def] using listed

theorem atomicDepth {kind : Kind} {atomic : Atomic} (decoded : Atomic.ofContents kind contents = .ok atomic) :
    atomic.toValue.depth ≤ bound + 2 := by
  cases atomicOkIff.mp decoded with
  | list element =>
    have element := unionDepth inside element
    rw [Atomic.toValue]
    exact taggedDepth (by simpa [Value.depth] using element)
  | array key value | iterable key value =>
    have key := unionDepth inside key
    have value := unionDepth inside value
    rw [Atomic.toValue]
    exact taggedDepth (by simpa [Value.depth] using ⟨key, value⟩)
  | closure read | callable read =>
    rw [Atomic.toValue]
    exact taggedDepth (signatureDepth inside read)
  | classString held =>
    have held := optionalDepth inside held fun value within _ => (inside value within).2.1.classRef
    rw [Atomic.classStringForm]
    exact taggedDepth (by simpa using held)
  | named read =>
    rw [Atomic.toValue]
    exact taggedDepth (classRefDepth inside read)
  | shape read =>
    rw [Atomic.toValue]
    exact taggedDepth (shapeDepth inside read)
  | templateParam _ _ constraint =>
    have constraint := unionDepth inside constraint
    rw [Atomic.toValue]
    exact taggedDepth (by simpa [Value.depth] using constraint)
  | plain =>
    rw [Atomic.toValue]
    exact taggedDepth (by simp [Value.depth])

end

theorem recordShallow {value : Value} {contents : Contents} (opens : Opens value contents)
    (keeps : ∀ item ∈ value.inner, item.Keeps ∧ ∀ deeper ∈ item.inner, deeper.Keeps) :
    ∃ bound, value.depth = bound + 1 ∧
      ∀ item ∈ contents.values, item.depth ≤ bound ∧ item.Keeps ∧ ∀ deeper ∈ item.inner, deeper.Keeps := by
  obtain ⟨bound, deep⟩ : ∃ bound, value.depth = bound + 1 := by cases opens <;> simp [Value.depth]
  refine ⟨bound, deep, fun item inside => ?_⟩
  have inside : item ∈ value.inner := opensInner opens ▸ inside
  exact ⟨Value.depthLe.mp (Nat.le_of_eq deep) item inside, keeps item inside⟩

theorem unionKeeps {value : Value} (keeps : ∀ item ∈ value.inner, item.Keeps) {union : TypeUnion}
    (decoded : TypeUnion.ofValue value = .ok union) : union.toValue.depth ≤ value.depth + 1 := by
  rw [TypeUnion.ofValue] at decoded
  obtain ⟨members, found, made⟩ := bindOk decoded
  rw [TypeUnion.toValueForm, membersMade (modelCheckedIff.mp made)]
  refine listDepth fun atomic member => ?_
  obtain ⟨item, inside, _, source⟩ := listSource found member
  exact Nat.le_trans ((keeps item inside).atomic source) (Value.innerDepth inside)

theorem atomicKeeps {value : Value} (keeps : ∀ item ∈ value.inner, item.Keeps ∧ ∀ deeper ∈ item.inner, deeper.Keeps)
    {atomic : Atomic} (decoded : Atomic.ofValue value = .ok atomic) : atomic.toValue.depth ≤ value.depth + 1 := by
  obtain ⟨outer, kind, contents, opens, among, decoded⟩ := atomicOpened decoded
  obtain ⟨bound, deep, inside⟩ := recordShallow opens keeps
  rw [deep]
  exact atomicDepth (fun item within => inside item (among item within)) decoded

theorem valueKeeps (value : Value) : value.Keeps := by
  -- A record decodes the items of its lists, two steps inside, so the items are taken along with the value.
  have both : value.Keeps ∧ ∀ item ∈ value.inner, item.Keeps := by
    induction value using Value.induct with
    | step value keeps =>
      refine ⟨⟨?_, ?_, ?_, ?_, ?_⟩, fun item inside => (keeps item inside).1⟩
      · exact unionKeeps fun item inside => (keeps item inside).1
      · exact atomicKeeps keeps
      · intro param decoded
        obtain ⟨contents, opens, looked⟩ := paramOkIff.mp decoded
        obtain ⟨bound, deep, inside⟩ := recordShallow opens keeps
        have type := optionalDepth inside looked.type fun value within _ => (inside value within).2.1.union
        rw [Param.toValueForm, deep]
        exact Value.depthLe.mpr (by simpa [Value.inner, Value.depth] using type)
      · intro object decoded
        rw [ClassRef.ofValue, recordOkIff] at decoded
        obtain ⟨contents, opens, read⟩ := decoded
        obtain ⟨bound, deep, inside⟩ := recordShallow opens keeps
        rw [deep]
        exact Value.depthLe.mpr (List.forall_mem_map.mpr (classRefDepth inside read))
      · intro field decoded
        obtain ⟨contents, opens, looked⟩ := fieldOkIff.mp decoded
        obtain ⟨bound, deep, inside⟩ := recordShallow opens keeps
        have type := unionDepth inside looked.type
        rw [ShapeField.toValueForm, deep]
        exact Value.depthLe.mpr (by simpa [Value.inner, Value.depth, keyDepth] using type)
  exact both.1

theorem normalisedAgain {text : Text} {union : TypeUnion} (decoded : TypeUnion.decode text = .ok union) :
    (∃ value, Document text value) ∧ ∀ value, Document text value →
      value.depth ≤ 127 ∧ union.toValue.depth ≤ value.depth + 1 ∧
        (value.depth ≤ 126 → TypeUnion.decode union.toValue.text = .ok union) ∧
          RoundTrip TypeUnion.decode union.toValue union := by
  refine ⟨unionSpelled decoded, fun value spelled => ?_⟩
  obtain ⟨fits, _, found⟩ := unionAccepted decoded spelled
  have deeper : union.toValue.depth ≤ value.depth + 1 := (valueKeeps value).union found
  have whole : union.WellFormed := decodeGives (unionReaderGives _) decoded
  have again := roundTripOf (unionReads whole)
  exact ⟨fits, deeper, fun shallow => again.decoded (by omega), again⟩

/- A class within lists, with nothing said that has a default. The lists of the class open one bracket more. -/

def shortest : Nat → Value
  | 0 => .array [.object [⟨"kind", .string "class-string"⟩, ⟨"bound", .object [⟨"class_id", .string "A"⟩]⟩]]
  | n + 1 => .array [.object [⟨"kind", .string "list"⟩, ⟨"element", shortest n⟩]]

def classWithin : Nat → TypeUnion
  | 0 => .single (.classString (some ⟨"A", [], []⟩))
  | n + 1 => .single (.list (classWithin n) false)

theorem shortestDepth (n : Nat) : (shortest n).depth = 2 * n + 3 := by
  induction n with
  | zero => simp [shortest, Value.depth]
  | succ n ih =>
    simp [shortest, Value.depth, ih]
    omega

theorem classWithinDepth (n : Nat) : (classWithin n).toValue.depth = 2 * n + 4 := by
  induction n with
  | zero =>
    rw [classWithin, TypeUnion.toValueForm]
    simp [TypeUnion.single, TypeUnion.members, Atomic.classStringForm, Kind.tagged, Value.ofOption, ClassRef.toValue,
      ClassRef.toMembersForm, Value.depth]
  | succ n ih =>
    rw [classWithin, TypeUnion.toValueForm]
    simp [TypeUnion.single, TypeUnion.members, Atomic.toValue, Kind.tagged, Value.depth, ih]
    omega

theorem taggedAlonePlain (tag name : Text) {value : Value} (plain : value.Plain) :
    (Value.array [.object [⟨"kind", .string tag⟩, ⟨name, value⟩]]).Plain := by
  refine .array (List.forall_mem_singleton.mpr (.object (List.forall_mem_cons.mpr ⟨.string tag, ?_⟩)))
  exact List.forall_mem_singleton.mpr plain

theorem shortestPlain (n : Nat) : (shortest n).Plain := by
  induction n with
  | zero => exact taggedAlonePlain _ _ (.object (List.forall_mem_singleton.mpr (.string _)))
  | succ n ih => exact taggedAlonePlain _ _ ih

theorem taggedAlone {tag : Text} {kind : Kind} (known : Kind.ofText tag = .ok kind) {fields : List Member}
    (others : ∀ field ∈ fields, field.name ≠ "kind".toList) {atomic : Atomic}
    (read : Atomic.ofContents kind (.named fields) = .ok atomic) :
    let value : Value := .array [.object (⟨"kind", .string tag⟩ :: fields)]
    TypeUnion.Told value ∧ TypeUnion.ofValue value = .ok (.single atomic) := by
  have told : Atomic.Told (.object (⟨"kind", .string tag⟩ :: fields)) kind (.named fields) :=
    @Atomic.Told.members [] tag kind fields known others
  have list := listOkIff.mpr (.cons ((ofValueTold told).trans read) .nil)
  refine ⟨.array (List.forall_mem_singleton.mpr ⟨_, _, told⟩), ?_⟩
  rw [TypeUnion.ofValue, list]
  rfl

theorem shortestRead (n : Nat) :
    TypeUnion.Told (shortest n) ∧ TypeUnion.ofValue (shortest n) = .ok (classWithin n) := by
  induction n with
  | zero =>
    have object : ClassRef.ofValue (.object [⟨"class_id", .string "A"⟩]) = .ok ⟨"A", [], []⟩ := by
      rw [ClassRef.ofValue, recordOkIff]
      refine ⟨_, .named _, classRefOkIff.mpr ⟨?_, ?_, ?_, namedEnds _ _⟩⟩
      · exact namedOkIff.mpr (.inr ⟨_, rfl, rfl⟩)
      · exact namedOkIff.mpr (.inl ⟨rfl, rfl⟩)
      · exact namedOkIff.mpr (.inl ⟨rfl, rfl⟩)
    refine taggedAlone rfl (by simp) (atomicOkIff.mpr (.classString ?_ (namedEnds _ _)))
    exact namedOkIff.mpr (.inr ⟨_, rfl, nullableAgain (by simp) object⟩)
  | succ n ih =>
    refine taggedAlone rfl (by simp) (atomicOkIff.mpr (.list ?_ ?_ (namedEnds _ _)))
    · exact namedOkIff.mpr (.inr ⟨_, rfl, ih.2⟩)
    · exact namedOkIff.mpr (.inl ⟨rfl, rfl⟩)

theorem shortestDecoded {n : Nat} (fits : n ≤ 62) : TypeUnion.decode (shortest n).text = .ok (classWithin n) := by
  obtain ⟨told, read⟩ := shortestRead n
  exact (unionDecodes told (plainDocument (shortestPlain n)) (by rw [shortestDepth, nestingLimit]; omega)).ok read

theorem shortestAgain : TypeUnion.decode (shortest 61).text = .ok (classWithin 61) ∧
    (classWithin 61).toValue.depth = (shortest 61).depth + 1 ∧
      TypeUnion.decode (classWithin 61).toValue.text = .ok (classWithin 61) := by
  have decoded : TypeUnion.decode (shortest 61).text = .ok (classWithin 61) := shortestDecoded (by decide)
  obtain ⟨_, _, again, _⟩ := (normalisedAgain decoded).2 _ (plainDocument (shortestPlain 61))
  exact ⟨decoded, by rw [classWithinDepth, shortestDepth], again (by rw [shortestDepth]; decide)⟩

theorem writtenTooDeep : TypeUnion.decode (shortest 62).text = .ok (classWithin 62) ∧
    ∃ place, TypeUnion.decode (classWithin 62).toValue.text = .error ⟨.syntaxFault .tooDeep, some place⟩ := by
  have decoded : TypeUnion.decode (shortest 62).text = .ok (classWithin 62) := shortestDecoded (by decide)
  have whole : (classWithin 62).WellFormed := decodeGives (unionReaderGives _) decoded
  exact ⟨decoded, (roundTripOf (unionReads whole)).tooDeep (by rw [classWithinDepth]; decide)⟩

end TypeLens
