import TypeLens.Model.Shape

/-! The parts of a type, whatever they are: all of them in one sort, so that what is said of a type at
every depth is said once, and proved by one induction from the parts inside a part to the part itself. -/
namespace TypeLens

inductive Part where
  | ofUnion (union : TypeUnion)
  | ofAtomic (atomic : Atomic)
  | ofSignature (signature : Signature)
  | ofParam (param : Param)
  | ofClassRef (object : ClassRef)
  | ofShape (shape : Shape)
  | ofField (field : ShapeField)

namespace Part

def children : Part → List Part
  | ofUnion union => union.members.map ofAtomic
  | ofAtomic (.list element _) => [ofUnion element]
  | ofAtomic (.array key value _) => [ofUnion key, ofUnion value]
  | ofAtomic (.iterable key value) => [ofUnion key, ofUnion value]
  | ofAtomic (.closure signature) => [ofSignature signature]
  | ofAtomic (.callable signature) => [ofSignature signature]
  | ofAtomic (.classString bound) => bound.toList.map ofClassRef
  | ofAtomic (.named object) => [ofClassRef object]
  | ofAtomic (.shape shape) => [ofShape shape]
  | ofAtomic (.templateParam _ _ constraint) => [ofUnion constraint]
  | ofAtomic (.plain _) => []
  | ofSignature signature => signature.params.map ofParam ++ signature.returnType.toList.map ofUnion
  | ofParam param => param.type.toList.map ofUnion
  | ofClassRef object => object.typeArgs.map ofUnion ++ object.intersection.map ofAtomic
  | ofShape shape => shape.fields.map ofField
  | ofField field => [ofUnion field.type]

theorem sizeOfChild {part child : Part} (inside : child ∈ part.children) : sizeOf child < sizeOf part := by
  cases part with
  | ofUnion union =>
    obtain ⟨first, more⟩ := union
    obtain ⟨atomic, member, rfl⟩ := List.mem_map.mp inside
    have small := List.sizeOf_lt_of_mem member
    simp only [TypeUnion.members, List.cons.sizeOf_spec] at small
    simp only [ofAtomic.sizeOf_spec, ofUnion.sizeOf_spec, TypeUnion.mk.sizeOf_spec]
    rcases List.mem_cons.mp member with rfl | later
    · omega
    · have := List.sizeOf_lt_of_mem later
      omega
  | ofAtomic atomic =>
    cases atomic with
    | array | iterable =>
      simp only [children, List.mem_cons, List.not_mem_nil, or_false] at inside
      simp only [ofAtomic.sizeOf_spec, Atomic.array.sizeOf_spec, Atomic.iterable.sizeOf_spec]
      rcases inside with rfl | rfl
      · rw [ofUnion.sizeOf_spec]
        omega
      · rw [ofUnion.sizeOf_spec]
        omega
    | classString bound =>
      cases bound <;> simp [children] at inside
      subst inside
      simp
      omega
    | list | templateParam =>
      cases List.mem_singleton.mp inside
      simp only [ofUnion.sizeOf_spec, ofAtomic.sizeOf_spec, Atomic.list.sizeOf_spec, Atomic.templateParam.sizeOf_spec]
      omega
    | closure | callable | named | shape =>
      cases List.mem_singleton.mp inside
      simp only [ofSignature.sizeOf_spec, ofClassRef.sizeOf_spec, ofShape.sizeOf_spec, ofAtomic.sizeOf_spec,
        Atomic.closure.sizeOf_spec, Atomic.callable.sizeOf_spec, Atomic.named.sizeOf_spec, Atomic.shape.sizeOf_spec]
      omega
    | plain => cases inside
  | ofSignature signature =>
    obtain ⟨params, returnType, isPure⟩ := signature
    rcases List.mem_append.mp inside with inside | inside
    · obtain ⟨param, member, rfl⟩ := List.mem_map.mp inside
      have small := List.sizeOf_lt_of_mem (show param ∈ params from member)
      simp
      omega
    · cases returnType <;> simp at inside
      subst inside
      simp
      omega
  | ofParam param =>
    obtain ⟨name, type, byRef, variadic⟩ := param
    cases type <;> simp [children] at inside
    subst inside
    simp
    omega
  | ofClassRef object =>
    obtain ⟨classId, typeArgs, intersection⟩ := object
    rcases List.mem_append.mp inside with inside | inside
    · obtain ⟨type, member, rfl⟩ := List.mem_map.mp inside
      have small := List.sizeOf_lt_of_mem (show type ∈ typeArgs from member)
      simp
      omega
    · obtain ⟨atomic, member, rfl⟩ := List.mem_map.mp inside
      have small := List.sizeOf_lt_of_mem (show atomic ∈ intersection from member)
      simp
      omega
  | ofShape shape =>
    obtain ⟨isList, fields⟩ := shape
    obtain ⟨field, member, rfl⟩ := List.mem_map.mp inside
    have small := List.sizeOf_lt_of_mem (show field ∈ fields from member)
    simp
    omega
  | ofField field =>
    obtain ⟨key, type, optional⟩ := field
    cases List.mem_singleton.mp inside
    simp only [ofUnion.sizeOf_spec, ofField.sizeOf_spec, ShapeField.mk.sizeOf_spec]
    omega

theorem induct {Holds : Part → Prop} (step : ∀ part, (∀ child ∈ part.children, Holds child) → Holds part)
    (part : Part) : Holds part :=
  step part fun child _inside => induct step child
termination_by sizeOf part
decreasing_by exact sizeOfChild _inside

def parts (part : Part) : List Part := part :: part.children.attach.flatMap fun child => child.1.parts
termination_by sizeOf part
decreasing_by exact sizeOfChild child.2

theorem partsEq (part : Part) : part.parts = part :: part.children.flatMap parts := by
  rw [parts, List.flatMap_subtype (g := parts) (fun _ _ => rfl), List.unattach_attach]

theorem memParts {part inner : Part} :
    inner ∈ part.parts ↔ inner = part ∨ ∃ child ∈ part.children, inner ∈ child.parts := by
  rw [partsEq, List.mem_cons, List.mem_flatMap]

theorem forallParts {Holds : Part → Prop} {part : Part} : (∀ inner ∈ part.parts, Holds inner) ↔
    Holds part ∧ ∀ child ∈ part.children, ∀ inner ∈ child.parts, Holds inner := by
  constructor
  · intro all
    exact ⟨all part (memParts.mpr (.inl rfl)), fun child inside inner deep =>
      all inner (memParts.mpr (.inr ⟨child, inside, deep⟩))⟩
  · rintro ⟨own, below⟩ inner member
    rcases memParts.mp member with rfl | ⟨child, inside, deep⟩
    · exact own
    · exact below child inside inner deep

end Part
end TypeLens
