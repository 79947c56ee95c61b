import TypeLens.Proofs.Part
import TypeLens.Proofs.Shape
import TypeLens.Site.Basic

/-! Well-formed types. What the model promises of a type is promised of every part of it. -/
namespace TypeLens

namespace Part

def Proper : Part → Prop
  | ofUnion union => union.members ≠ []
  | ofShape shape => shape.KeysProper
  | _ => True

def WellFormed (part : Part) : Prop := ∀ inner ∈ part.parts, inner.Proper

theorem wellFormedIff {part : Part} :
    part.WellFormed ↔ part.Proper ∧ ∀ child ∈ part.children, child.WellFormed := forallParts

theorem childWellFormed {part child : Part} (whole : part.WellFormed) (inside : child ∈ part.children) :
    child.WellFormed := (wellFormedIff.mp whole).2 child inside

theorem innerWellFormed {part inner : Part} (whole : part.WellFormed) (inside : inner ∈ part.parts) :
    inner.WellFormed := by
  induction part using Part.induct with
  | step part ih =>
    rcases memParts.mp inside with rfl | ⟨child, among, deep⟩
    · exact whole
    · exact ih child among (childWellFormed whole among) deep

end Part

def TypeUnion.WellFormed (union : TypeUnion) : Prop := (Part.ofUnion union).WellFormed

def Atomic.WellFormed (atomic : Atomic) : Prop := (Part.ofAtomic atomic).WellFormed

def Site.WellFormed (site : Site) : Prop := ∀ union ∈ site.type, union.WellFormed

theorem TypeUnion.wellFormedIff {union : TypeUnion} :
    union.WellFormed ↔ ∀ atomic ∈ union.members, atomic.WellFormed := by
  rw [WellFormed, Part.wellFormedIff]
  simp [Part.Proper, Part.children, members, Atomic.WellFormed]

theorem Part.fieldWellFormedIff {field : ShapeField} :
    (Part.ofField field).WellFormed ↔ field.type.WellFormed := by
  rw [wellFormedIff]
  simp [Proper, children, TypeUnion.WellFormed]

end TypeLens
