import TypeLens.Proofs.WellFormed

/-! Building types by calls. A call takes its operands from the values that earlier calls have made, and any
call may come at any time. -/
namespace TypeLens

open TypeLens.Part

inductive Made (store : List Part) : Part → Prop where
  | ofMembers {members union} (given : ∀ atomic ∈ members, ofAtomic atomic ∈ store)
      (checked : TypeUnion.ofMembers members = .ok union) : Made store (ofUnion union)
  | single {atomic} (given : ofAtomic atomic ∈ store) : Made store (ofUnion (.single atomic))
  | or {union atomic} (given : ofUnion union ∈ store) (added : ofAtomic atomic ∈ store) :
      Made store (ofUnion (union.or atomic))
  | list {element} (nonEmpty) (given : ofUnion element ∈ store) : Made store (ofAtomic (.list element nonEmpty))
  | array {key value} (nonEmpty) (keys : ofUnion key ∈ store) (values : ofUnion value ∈ store) :
      Made store (ofAtomic (.array key value nonEmpty))
  | iterable {key value} (keys : ofUnion key ∈ store) (values : ofUnion value ∈ store) :
      Made store (ofAtomic (.iterable key value))
  | closure {signature} (given : ofSignature signature ∈ store) : Made store (ofAtomic (.closure signature))
  | callable {signature} (given : ofSignature signature ∈ store) : Made store (ofAtomic (.callable signature))
  | classString : Made store (ofAtomic (.classString none))
  | boundedClassString {bound} (given : ofClassRef bound ∈ store) :
      Made store (ofAtomic (.classString (some bound)))
  | named {object} (given : ofClassRef object ∈ store) : Made store (ofAtomic (.named object))
  | shape {shape} (given : ofShape shape ∈ store) : Made store (ofAtomic (.shape shape))
  | templateParam (name definingClass) {constraint} (given : ofUnion constraint ∈ store) :
      Made store (ofAtomic (.templateParam name definingClass constraint))
  | plain (id) : Made store (ofAtomic (.plain id))
  | emptySignature : Made store (ofSignature .empty)
  | addParam {signature param} (given : ofSignature signature ∈ store) (added : ofParam param ∈ store) :
      Made store (ofSignature (signature.addParam param))
  | returns {signature type} (given : ofSignature signature ∈ store) (result : ofUnion type ∈ store) :
      Made store (ofSignature (signature.returns type))
  | withPure {signature} (value) (given : ofSignature signature ∈ store) :
      Made store (ofSignature (signature.withPure value))
  | untyped (name) : Made store (ofParam (.untyped name))
  | typed (name) {type} (given : ofUnion type ∈ store) : Made store (ofParam (.typed name type))
  | withByRef {param} (value) (given : ofParam param ∈ store) : Made store (ofParam (param.withByRef value))
  | withVariadic {param} (value) (given : ofParam param ∈ store) : Made store (ofParam (param.withVariadic value))
  | bare (classId) : Made store (ofClassRef (.bare classId))
  | arg {object type} (given : ofClassRef object ∈ store) (added : ofUnion type ∈ store) :
      Made store (ofClassRef (object.arg type))
  | intersect {object atomic} (given : ofClassRef object ∈ store) (added : ofAtomic atomic ∈ store) :
      Made store (ofClassRef (object.intersect atomic))
  | keyed : Made store (ofShape .keyed)
  | tuple : Made store (ofShape .tuple)
  | field {shape type} (key) (given : ofShape shape ∈ store) (added : ofUnion type ∈ store) :
      Made store (ofShape (shape.field key type))
  | optionalField {shape type} (key) (given : ofShape shape ∈ store) (added : ofUnion type ∈ store) :
      Made store (ofShape (shape.optionalField key type))
  | element {shape type} (given : ofShape shape ∈ store) (added : ofUnion type ∈ store) :
      Made store (ofShape (shape.element type))
  | ofFields {isList fields shape} (given : ∀ field ∈ fields, ofUnion field.type ∈ store)
      (checked : Shape.ofFields isList fields = .ok shape) : Made store (ofShape shape)

inductive Built : List Part → Prop where
  | start : Built []
  | call {store part} (before : Built store) (made : Made store part) : Built (part :: store)

theorem putChild {store : List Part} {shape : Shape} {key : ShapeKey} {type : TypeUnion} {optional : Bool}
    (given : ofShape shape ∈ store) (added : ofUnion type ∈ store) {child : Part}
    (inside : child ∈ (ofShape (shape.put key type optional)).children) :
    (∃ old ∈ store, child ∈ old.children) ∨
      ∃ field : ShapeField, child = ofField field ∧ ofUnion field.type ∈ store := by
  obtain ⟨field, member, rfl⟩ := List.mem_map.mp inside
  rcases Shape.putFields member with ⟨old, _⟩ | rfl
  · exact .inl ⟨_, given, List.mem_map_of_mem old⟩
  · exact .inr ⟨_, rfl, added⟩

-- A call only puts together. What stands directly inside the new value is at hand, or stands in a value at
-- hand, or is a field of a type at hand.
theorem madeChild {store : List Part} {part child : Part} (made : Made store part)
    (inside : child ∈ part.children) : child ∈ store ∨ (∃ old ∈ store, child ∈ old.children) ∨
      ∃ field : ShapeField, child = ofField field ∧ ofUnion field.type ∈ store := by
  cases made with
  | @ofMembers members union given checked =>
    obtain ⟨atomic, member, rfl⟩ := List.mem_map.mp inside
    cases members with
    | nil => cases checked
    | cons first more => cases checked; exact .inl (given atomic member)
  | single given => simp_all [children, TypeUnion.single, TypeUnion.members]
  | @or union atomic given added =>
    have : child ∈ (ofUnion union).children ∨ child = ofAtomic atomic := by
      simpa [children, TypeUnion.or, TypeUnion.members, or_assoc] using inside
    rcases this with old | rfl
    · exact .inr (.inl ⟨_, given, old⟩)
    · exact .inl added
  | array _ keys values | iterable keys values =>
    simp only [children, List.mem_cons, List.not_mem_nil, or_false] at inside
    rcases inside with rfl | rfl
    · exact .inl keys
    · exact .inl values
  | list _ given | closure given | callable given | boundedClassString given | named given | shape given
    | templateParam _ _ given | typed _ given => simp_all [children, Param.typed]
  | classString | plain | emptySignature | untyped | bare | keyed | tuple =>
    simp [children, Signature.empty, Param.untyped, ClassRef.bare, Shape.keyed, Shape.tuple] at inside
  | @addParam signature param given added =>
    have : child ∈ (ofSignature signature).children ∨ child = ofParam param := by
      simp [children, Signature.addParam] at inside ⊢
      grind
    rcases this with old | rfl
    · exact .inr (.inl ⟨_, given, old⟩)
    · exact .inl added
  | @returns signature type given result =>
    have : child ∈ (ofSignature signature).children ∨ child = ofUnion type := by
      simp [children, Signature.returns] at inside ⊢
      grind
    rcases this with old | rfl
    · exact .inr (.inl ⟨_, given, old⟩)
    · exact .inl result
  | withPure _ given | withByRef _ given | withVariadic _ given => exact .inr (.inl ⟨_, given, inside⟩)
  | @arg object type given added =>
    have : child ∈ (ofClassRef object).children ∨ child = ofUnion type := by
      simp [children, ClassRef.arg] at inside ⊢
      grind
    rcases this with old | rfl
    · exact .inr (.inl ⟨_, given, old⟩)
    · exact .inl added
  | @intersect object atomic given added =>
    have : child ∈ (ofClassRef object).children ∨ child = ofAtomic atomic := by
      simp [children, ClassRef.intersect] at inside ⊢
      grind
    rcases this with old | rfl
    · exact .inr (.inl ⟨_, given, old⟩)
    · exact .inl added
  | field _ given added | optionalField _ given added | element given added =>
    exact .inr (putChild given added inside)
  | @ofFields isList fields shape given checked =>
    obtain ⟨_, rfl⟩ := Shape.ofFieldsIff.mp checked
    obtain ⟨field, member, rfl⟩ := List.mem_map.mp inside
    obtain ⟨source, among, rfl⟩ := List.mem_map.mp member
    exact .inr (.inr ⟨_, rfl, given source among⟩)

theorem madeProper {store : List Part} {part : Part} (proper : ∀ old ∈ store, old.Proper)
    (made : Made store part) : part.Proper := by
  cases made with
  | ofMembers | single | or => exact List.cons_ne_nil _ _
  | keyed | tuple => exact ⟨List.nodup_nil, by simp [Shape.keys, Shape.keyed, Shape.tuple]⟩
  | field _ given | optionalField _ given | element given => exact Shape.putKeysProper (proper _ given) ..
  | ofFields _ checked => exact Shape.ofFieldsKeysProper checked
  | _ => exact trivial

theorem madeWellFormed {store : List Part} {part : Part} (before : ∀ old ∈ store, old.WellFormed)
    (made : Made store part) : part.WellFormed := by
  rw [wellFormedIff]
  -- Only the rules for the new part itself are new; whatever is inside has stood in a value at hand.
  refine ⟨madeProper (fun old member => (wellFormedIff.mp (before old member)).1) made, ?_⟩
  intro child inside
  rcases madeChild made inside with atHand | ⟨old, atHand, below⟩ | ⟨field, rfl, atHand⟩
  · exact before child atHand
  · exact childWellFormed (before old atHand) below
  · exact fieldWellFormedIff.mpr (before _ atHand)

theorem builtWellFormed {store : List Part} (built : Built store) : ∀ part ∈ store, part.WellFormed := by
  induction built with
  | start => simp
  | call before made ih =>
    intro part member
    rcases List.mem_cons.mp member with rfl | earlier
    · exact madeWellFormed ih made
    · exact ih part earlier

end TypeLens
