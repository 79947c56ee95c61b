import TypeLens.Proofs.Part
import TypeLens.Proofs.Text
import TypeLens.Rendering

/-! What a rendering displays: the texts that the type and the catalog bring in, in the order in which they are
shown. All else in a rendering is fixed. -/
namespace TypeLens

open Rendering

namespace Part

def labelledTexts : List Text → List (List Text) → List Text
  | label :: labels, arg :: args => label :: arg ++ labelledTexts labels args
  | _, args => args.flatten

-- The key of a field is not its own: only a record shows it.
def displayed (lookup : Lookup) : Part → List Text
  | ofUnion ⟨first, more⟩ => (ofAtomic first).displayed lookup ++
      more.flatMap fun atomic => (ofAtomic atomic).displayed lookup
  | ofAtomic (.list element _) => (ofUnion element).displayed lookup
  | ofAtomic (.array key value _) => (ofUnion key).displayed lookup ++ (ofUnion value).displayed lookup
  | ofAtomic (.iterable key value) => (ofUnion key).displayed lookup ++ (ofUnion value).displayed lookup
  | ofAtomic (.closure signature) => (ofSignature signature).displayed lookup
  | ofAtomic (.callable signature) => (ofSignature signature).displayed lookup
  | ofAtomic (.classString none) => []
  | ofAtomic (.classString (some bound)) => (ofClassRef bound).displayed lookup
  | ofAtomic (.named object) => (ofClassRef object).displayed lookup
  | ofAtomic (.shape shape) => (ofShape shape).displayed lookup
  | ofAtomic (.templateParam _ definingClass constraint) =>
    ownerName lookup definingClass :: (ofUnion constraint).displayed lookup
  | ofAtomic (.plain id) => [id]
  | ofSignature ⟨params, none, _⟩ => params.flatMap fun param => (ofParam param).displayed lookup
  | ofSignature ⟨params, some type, _⟩ =>
    params.flatMap (fun param => (ofParam param).displayed lookup) ++ (ofUnion type).displayed lookup
  | ofParam ⟨name, none, _, _⟩ => [name]
  | ofParam ⟨name, some type, _, _⟩ => (ofUnion type).displayed lookup ++ [name]
  | ofClassRef ⟨classId, typeArgs, intersection⟩ => className lookup classId ::
      labelledTexts (labels lookup classId) (typeArgs.map fun type => (ofUnion type).displayed lookup) ++
        intersection.flatMap fun atomic => (ofAtomic atomic).displayed lookup
  | ofShape ⟨true, fields⟩ => fields.flatMap fun field => (ofField field).displayed lookup
  | ofShape ⟨false, fields⟩ => fields.flatMap fun field => field.key.display :: (ofField field).displayed lookup
  | ofField field => (ofUnion field.type).displayed lookup
termination_by part => sizeOf part
decreasing_by
  all_goals exact sizeOfChild (by simp [children, TypeUnion.members, *])

variable {lookup : Lookup}

theorem labelDisplayed {labels : List Text} {args : List (List Text)} {label : Text}
    (shown : label ∈ labels.take args.length) : label ∈ labelledTexts labels args := by
  induction labels generalizing args with
  | nil => simp at shown
  | cons first labels ih =>
    cases args with
    | nil => simp at shown
    | cons arg args =>
      rcases List.mem_cons.mp shown with rfl | later
      · exact List.mem_cons_self
      · exact List.mem_cons_of_mem _ (List.mem_append_right _ (ih later))

theorem argDisplayed {labels : List Text} {args : List (List Text)} {arg : List Text} {text : Text}
    (among : arg ∈ args) (shown : text ∈ arg) : text ∈ labelledTexts labels args := by
  induction labels generalizing args with
  | nil => exact List.mem_flatten.mpr ⟨arg, among, shown⟩
  | cons first labels ih =>
    cases args with
    | nil => cases among
    | cons head args =>
      refine List.mem_cons_of_mem _ (List.mem_append.mpr ?_)
      rcases List.mem_cons.mp among with rfl | later
      · exact .inl shown
      · exact .inr (ih later)

theorem paramNameDisplayed (param : Param) : param.name ∈ (ofParam param).displayed lookup := by
  obtain ⟨name, type, byRef, variadic⟩ := param
  cases type <;> simp [displayed]

theorem keyDisplayed {fields : List ShapeField} {field : ShapeField} (member : field ∈ fields) :
    field.key.display ∈ (ofShape ⟨false, fields⟩).displayed lookup := by
  rw [displayed]
  exact List.mem_flatMap.mpr ⟨field, member, List.mem_cons_self⟩

theorem classNameDisplayed (object : ClassRef) :
    className lookup object.classId ∈ (ofClassRef object).displayed lookup := by
  obtain ⟨classId, typeArgs, intersection⟩ := object
  rw [displayed]
  exact List.mem_append_left _ List.mem_cons_self

theorem typeLabelDisplayed {object : ClassRef} {label : Text}
    (shown : label ∈ (labels lookup object.classId).take object.typeArgs.length) :
    label ∈ (ofClassRef object).displayed lookup := by
  obtain ⟨classId, typeArgs, intersection⟩ := object
  rw [displayed]
  exact List.mem_append_left _ (List.mem_cons_of_mem _ (labelDisplayed (by simpa using shown)))

theorem childDisplayed {part child : Part} (inside : child ∈ part.children) {text : Text}
    (shown : text ∈ child.displayed lookup) : text ∈ part.displayed lookup := by
  cases part with
  | ofUnion union =>
    obtain ⟨first, more⟩ := union
    obtain ⟨atomic, member, rfl⟩ := List.mem_map.mp inside
    rw [displayed]
    rcases List.mem_cons.mp member with rfl | later
    · exact List.mem_append_left _ shown
    · exact List.mem_append_right _ (List.mem_flatMap.mpr ⟨atomic, later, shown⟩)
  | ofAtomic atomic =>
    cases atomic with
    | array | iterable =>
      simp only [children, List.mem_cons, List.not_mem_nil, or_false] at inside
      rw [displayed]
      rcases inside with rfl | rfl
      · exact List.mem_append_left _ shown
      · exact List.mem_append_right _ shown
    | classString bound =>
      cases bound <;> simp [children] at inside
      subst inside
      rwa [displayed]
    | plain => cases inside
    | templateParam =>
      cases List.mem_singleton.mp inside
      rw [displayed]
      exact List.mem_cons_of_mem _ shown
    | _ =>
      cases List.mem_singleton.mp inside
      rwa [displayed]
  | ofSignature signature =>
    obtain ⟨params, returnType, isPure⟩ := signature
    rcases List.mem_append.mp inside with inside | inside
    · obtain ⟨param, member, rfl⟩ := List.mem_map.mp inside
      have among : text ∈ params.flatMap fun param => (ofParam param).displayed lookup :=
        List.mem_flatMap.mpr ⟨param, member, shown⟩
      cases returnType <;> rw [displayed]
      · exact among
      · exact List.mem_append_left _ among
    · cases returnType <;> simp at inside
      subst inside
      rw [displayed]
      exact List.mem_append_right _ shown
  | ofParam param =>
    obtain ⟨name, type, byRef, variadic⟩ := param
    cases type <;> simp [children] at inside
    subst inside
    rw [displayed]
    exact List.mem_append_left _ shown
  | ofClassRef object =>
    obtain ⟨classId, typeArgs, intersection⟩ := object
    rw [displayed, List.cons_append]
    refine List.mem_cons_of_mem _ ?_
    rcases List.mem_append.mp inside with inside | inside
    · obtain ⟨type, member, rfl⟩ := List.mem_map.mp inside
      exact List.mem_append_left _ (argDisplayed (List.mem_map_of_mem member) shown)
    · obtain ⟨atomic, member, rfl⟩ := List.mem_map.mp inside
      exact List.mem_append_right _ (List.mem_flatMap.mpr ⟨atomic, member, shown⟩)
  | ofShape shape =>
    obtain ⟨isList, fields⟩ := shape
    obtain ⟨field, member, rfl⟩ := List.mem_map.mp inside
    cases isList <;> rw [displayed]
    · exact List.mem_flatMap.mpr ⟨field, member, List.mem_cons_of_mem _ shown⟩
    · exact List.mem_flatMap.mpr ⟨field, member, shown⟩
  | ofField field =>
    cases List.mem_singleton.mp inside
    rwa [displayed]

end Part

theorem TypeUnion.renderForm (lookup : Lookup) (level : Nat) (union : TypeUnion) :
    union.render lookup level = Text.joined " | " (union.members.map (·.render lookup level)) := by
  obtain ⟨first, more⟩ := union
  rw [TypeUnion.render]
  rfl

def Param.front (lookup : Lookup) (level : Nat) (param : Param) : Text :=
  (if param.variadic then "..." else "") ++
    (match param.type with
      | some type => type.render lookup level
      | none => "mixed") ++
    " " ++ (if param.byRef then "&" else "")

theorem Param.renderForm (lookup : Lookup) (level : Nat) (param : Param) : param.render lookup level =
    (param.front lookup level).dropWhile Text.isBlank ++ '$' :: param.name.trimEnd := by
  obtain ⟨name, type, byRef, variadic⟩ := param
  rw [← Text.trimAround]
  cases type <;> rw [render] <;> simp [front]

def fieldStart (field : ShapeField) : Text :=
  field.key.display ++ (if field.optional then "?" else "").toList ++ ": ".toList

theorem fieldRenderForm {lookup : Lookup} (level : Nat) (field : ShapeField) : field.render lookup level =
    tabs level ++ (fieldStart field ++ field.renderType lookup level) := by
  obtain ⟨key, type, optional⟩ := field
  rw [ShapeField.render, ShapeField.renderType, fieldStart]
  simp only [List.append_assoc]

end TypeLens
