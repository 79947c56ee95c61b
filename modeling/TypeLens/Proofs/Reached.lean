import TypeLens.Proofs.RoundTrip
import TypeLens.Proofs.Within

/-! The places of a type's parts. What is written for a part stands in what is written for the whole where a decoder
looks for it, so that a change of the part is a change inside of the whole. -/
namespace TypeLens

open Json TypeLens.Part

def Part.role : Part → Role
  | ofUnion _ => .union
  | ofAtomic _ => .atomic
  | ofSignature _ => .record .signature
  | ofParam _ => .record .param
  | ofClassRef _ => .record .classRef
  | ofShape _ => .record .shape
  | ofField _ => .record .shapeField

structure Movable (Here : Role → Value → Value → Prop) : Prop where
  present {role value value'} : Here role value value' → value' ≠ .null
  behind {record members value'} (tag : Member) : Here (.record record) (.object members) value' →
    ∃ members', Here (.record record) (.object (tag :: members)) (.object (tag :: members')) ∧
      members'.map (·.name) = members.map (·.name)

section
variable {Here : Role → Value → Value → Prop}

theorem listReached {α : Type} {encode : α → Value} {role : Role} {list : List α} {item : α} (inside : item ∈ list)
    {value' : Value} (within : Within Here role (encode item) value') :
    ∃ value', Within Here (.list role) (.array (list.map encode)) value' := by
  obtain ⟨before, after, rfl⟩ := List.append_of_mem inside
  rw [List.map_append, List.map_cons]
  exact ⟨_, .element _ _ within⟩

theorem fieldReached {record : Record} {row : Row} {value : Value} (before after : List Member)
    (known : row ∈ record.rows) (reached : ∃ value', Within Here row.role value value') :
    ∃ value', Within Here (.record record) (.object (before ++ ⟨row.name, value⟩ :: after)) value' := by
  obtain ⟨value', within⟩ := reached
  exact ⟨_, .field before after known within⟩

theorem classRefReached {object : ClassRef} {child : Part} (inside : child ∈ (ofClassRef object).children)
    {value' : Value} (within : Within Here child.role child.toValue value') :
    ∃ value', Within Here (.record .classRef) (.object object.toMembers) value' := by
  rw [ClassRef.toMembersForm]
  rcases List.mem_append.mp inside with inside | inside
  · obtain ⟨union, member, rfl⟩ := List.mem_map.mp inside
    exact @fieldReached _ .classRef ⟨"type_args", .list .union, some (.array [])⟩ _ [_] [_]
      (by simp [Record.rows]) (listReached member within)
  · obtain ⟨atomic, member, rfl⟩ := List.mem_map.mp inside
    exact @fieldReached _ .classRef ⟨"intersection", .list .atomic, some (.array [])⟩ _ [_, _] []
      (by simp [Record.rows]) (listReached member within)

theorem shapeReached {shape : Shape} {child : Part} (inside : child ∈ (ofShape shape).children)
    {value' : Value} (within : Within Here child.role child.toValue value') :
    ∃ value', Within Here (.record .shape) (.object shape.toMembers) value' := by
  rw [Shape.toMembersForm]
  obtain ⟨field, member, rfl⟩ := List.mem_map.mp inside
  exact @fieldReached _ .shape ⟨"fields", .list (.record .shapeField), some (.array [])⟩ _ [_] []
    (by simp [Record.rows]) (listReached member within)

variable (movable : Movable Here)
include movable

theorem withinPresent {role : Role} {value value' : Value} (within : Within Here role value value') :
    value' ≠ .null := by
  induction within with
  | here change => exact movable.present change
  | members _ ih => exact ih
  | present _ some' => exact some'
  | _ => nofun

theorem optionReached {α : Type} {encode : α → Value} {role : Role} {found : Option α} {item : α}
    (inside : item ∈ found) (some : encode item ≠ .null) {value' : Value}
    (within : Within Here role (encode item) value') :
    ∃ value', Within Here (.nullable role) (.ofOption encode found) value' := by
  cases inside
  exact ⟨_, .present some (withinPresent movable within) within⟩

theorem taggedReached {kind : Kind} {fields : List Member} (apart : ("kind".toList :: fields.map (·.name)).Nodup)
    (reached : ∃ value', Within Here (.record kind.record) (.object fields) value') :
    ∃ value', Within Here .atomic (kind.tagged fields) value' := by
  obtain ⟨value', within⟩ := reached
  let tag : Member := ⟨"kind", .string kind.tag⟩
  have known : Kind.ofValue tag.value = .ok kind := kind.ofTextTag
  have alone {list : List Member} (same : list.map (·.name) = fields.map (·.name)) : Only (tag :: list) tag :=
    @onlyBetween [] list tag fun other inside same' =>
      (List.nodup_cons.mp apart).1 (same ▸ List.mem_map.mpr ⟨other, inside, same'⟩)
  generalize record : Role.record kind.record = role, object : Value.object fields = value at within
  cases within with
  | here change =>
    subst record object
    obtain ⟨members', moved, same⟩ := movable.behind tag change
    exact ⟨_, .tagged known (alone rfl) (alone same) (.here moved)⟩
  | field before after row inner =>
    cases record
    cases object
    exact ⟨_, .tagged known (alone rfl) (alone (by simp)) (.field (tag :: before) after row inner)⟩
  | item => cases object
  | _ => cases record

theorem signatureReached {signature : Signature} {child : Part} (inside : child ∈ (ofSignature signature).children)
    {value' : Value} (within : Within Here child.role child.toValue value') :
    ∃ value', Within Here (.record .signature) (.object signature.toMembers) value' := by
  rw [Signature.toMembersForm]
  rcases List.mem_append.mp inside with inside | inside
  · obtain ⟨param, member, rfl⟩ := List.mem_map.mp inside
    exact @fieldReached _ .signature ⟨"params", .list (.record .param), some (.array [])⟩ _ [] [_, _]
      (by simp [Record.rows]) (listReached member within)
  · obtain ⟨union, member, rfl⟩ := List.mem_map.mp inside
    exact @fieldReached _ .signature ⟨"return_type", .nullable .union, some .null⟩ _ [_] [_]
      (by simp [Record.rows])
      (optionReached movable (Option.mem_toList.mp member) (by simp [TypeUnion.toValueForm]) within)

theorem atomicReached {atomic : Atomic} {child : Part} (inside : child ∈ (ofAtomic atomic).children)
    {value' : Value} (within : Within Here child.role child.toValue value') :
    ∃ value', Within Here .atomic atomic.toValue value' := by
  cases atomic with
  | list element =>
    cases List.mem_singleton.mp inside
    rw [Atomic.toValue]
    refine taggedReached movable (by simp) ?_
    exact @fieldReached _ .list ⟨"element", .union, none⟩ _ [] [_] (by simp [Record.rows]) ⟨_, within⟩
  | array key value =>
    simp only [children, List.mem_cons, List.not_mem_nil, or_false] at inside
    rw [Atomic.toValue]
    refine taggedReached movable (by simp) ?_
    rcases inside with rfl | rfl
    · exact @fieldReached _ .array ⟨"key", .union, none⟩ _ [] [_, _] (by simp [Record.rows]) ⟨_, within⟩
    · exact @fieldReached _ .array ⟨"value", .union, none⟩ _ [_] [_] (by simp [Record.rows]) ⟨_, within⟩
  | iterable key value =>
    simp only [children, List.mem_cons, List.not_mem_nil, or_false] at inside
    rw [Atomic.toValue]
    refine taggedReached movable (by simp) ?_
    rcases inside with rfl | rfl
    · exact @fieldReached _ .iterable ⟨"key", .union, none⟩ _ [] [_] (by simp [Record.rows]) ⟨_, within⟩
    · exact @fieldReached _ .iterable ⟨"value", .union, none⟩ _ [_] [] (by simp [Record.rows]) ⟨_, within⟩
  | closure signature | callable signature =>
    cases List.mem_singleton.mp inside
    rw [Atomic.toValue]
    exact taggedReached movable (signatureNamesApart signature) ⟨_, within⟩
  | classString bound =>
    obtain ⟨object, member, rfl⟩ := List.mem_map.mp inside
    rw [Atomic.classStringForm]
    refine taggedReached movable (by simp) ?_
    exact @fieldReached _ .classString ⟨"bound", .nullable (.record .classRef), some .null⟩ _ [] []
      (by simp [Record.rows]) (optionReached movable (Option.mem_toList.mp member) (by simp [ClassRef.toValue]) within)
  | named object =>
    cases List.mem_singleton.mp inside
    rw [Atomic.toValue]
    exact taggedReached movable (classRefNamesApart object) ⟨_, within⟩
  | shape shape =>
    cases List.mem_singleton.mp inside
    rw [Atomic.toValue]
    exact taggedReached movable (shapeNamesApart shape) ⟨_, within⟩
  | templateParam name definingClass constraint =>
    cases List.mem_singleton.mp inside
    rw [Atomic.toValue]
    refine taggedReached movable (by simp) ?_
    exact @fieldReached _ .templateParam ⟨"constraint", .union, none⟩ _ [_, _] [] (by simp [Record.rows])
      ⟨_, within⟩
  | plain => cases inside

theorem childReached {part child : Part} (inside : child ∈ part.children) {value' : Value}
    (within : Within Here child.role child.toValue value') : ∃ value', Within Here part.role part.toValue value' := by
  cases part with
  | ofUnion union =>
    obtain ⟨atomic, member, rfl⟩ := List.mem_map.mp inside
    obtain ⟨list', within⟩ := @listReached _ _ Atomic.toValue _ _ _ member _ within
    rw [toValue, TypeUnion.toValueForm]
    exact ⟨_, .members within⟩
  | ofAtomic => exact atomicReached movable inside within
  | ofSignature => exact signatureReached movable inside within
  | ofParam param =>
    obtain ⟨union, member, rfl⟩ := List.mem_map.mp inside
    rw [toValue, Param.toValueForm]
    exact @fieldReached _ .param ⟨"type", .nullable .union, some .null⟩ _ [_] [_, _] (by simp [Record.rows])
      (optionReached movable (Option.mem_toList.mp member) (by simp [TypeUnion.toValueForm]) within)
  | ofClassRef => exact classRefReached inside within
  | ofShape => exact shapeReached inside within
  | ofField field =>
    cases List.mem_singleton.mp inside
    rw [toValue, ShapeField.toValueForm]
    exact @fieldReached _ .shapeField ⟨"type", .union, none⟩ _ [_] [_] (by simp [Record.rows]) ⟨_, within⟩

theorem partReached {part inner : Part} (inside : inner ∈ part.parts)
    (change : ∃ value', Here inner.role inner.toValue value') :
    ∃ value', Within Here part.role part.toValue value' := by
  induction part using Part.induct with
  | step part ih =>
    rcases memParts.mp inside with rfl | ⟨child, among, deep⟩
    · obtain ⟨value', change⟩ := change
      exact ⟨value', .here change⟩
    · obtain ⟨value', within⟩ := ih child among deep
      exact childReached movable among within

end

end TypeLens
