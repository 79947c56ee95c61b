import TypeLens.Catalog
import TypeLens.Model.Basic
import TypeLens.Text.Blank

/-! Types as readable annotations. The level counts the shapes around a type, from one; the
fields of a record stand on lines of their own, indented by the level. Every type has a
rendering: an unknown class is shown by its identifier. -/
namespace TypeLens

namespace Rendering

def tabs (level : Nat) : Text := List.replicate level '\t'

def labelled : List Text → List Text → List Text
  | label :: labels, arg :: args => (label ++ ": " ++ arg) :: labelled labels args
  | _, args => args

/-- A function scope is in no catalog, so an unknown owner is shown by its short name. -/
def ownerName (lookup : Lookup) (id : Text) : Text :=
  match lookup id with
  | some info => info.shortName
  | none => ClassName.short id

def className (lookup : Lookup) (id : Text) : Text :=
  match lookup id with
  | some info => info.shortName
  | none => id

def labels (lookup : Lookup) (id : Text) : List Text :=
  ((lookup id).bind (·.templateParams)).getD []

end Rendering

open Rendering

mutual

def TypeUnion.render (lookup : Lookup) (level : Nat) : TypeUnion → Text
  | ⟨first, more⟩ => Text.joined " | " (first.render lookup level :: more.map (·.render lookup level))
termination_by union => sizeOf union

def Atomic.render (lookup : Lookup) (level : Nat) : Atomic → Text
  | .list element nonEmpty =>
    (if nonEmpty then "non-empty-list" else "list") ++ "<TValue: " ++ element.render lookup level ++ ">"
  | .array key value nonEmpty =>
    (if nonEmpty then "non-empty-array" else "array") ++ "<TKey: " ++ key.render lookup level ++
      ", TValue: " ++ value.render lookup level ++ ">"
  | .iterable key value =>
    "iterable<TKey: " ++ key.render lookup level ++ ", TValue: " ++ value.render lookup level ++ ">"
  | .closure signature => signature.render lookup level "Closure"
  | .callable signature => signature.render lookup level "callable"
  | .classString none => "class-string"
  | .classString (some bound) => "class-string<" ++ bound.render lookup level ++ ">"
  | .named object => object.render lookup level
  | .shape shape => shape.render lookup level
  | .templateParam _ definingClass constraint =>
    "from " ++ ownerName lookup definingClass ++ " as " ++ constraint.render lookup level
  | .plain id => id
termination_by atomic => sizeOf atomic

def Signature.render (lookup : Lookup) (level : Nat) (name : Text) : Signature → Text
  | ⟨params, returnType, isPure⟩ =>
    (if isPure then "pure-" else "") ++ name ++ "(" ++
      Text.joined ", " (params.map (·.render lookup level)) ++ "): " ++
      match returnType with
      | some type => type.render lookup level
      | none => "void"
termination_by signature => sizeOf signature
decreasing_by
  · have := List.sizeOf_lt_of_mem ‹_›
    simp only [Signature.mk.sizeOf_spec]
    omega
  · simp only [Signature.mk.sizeOf_spec, Option.some.sizeOf_spec]
    omega

def Param.render (lookup : Lookup) (level : Nat) : Param → Text
  | ⟨name, type, byRef, variadic⟩ =>
    Text.trim ((if variadic then "..." else "") ++
      (match type with
        | some type => type.render lookup level
        | none => "mixed") ++
      " " ++ (if byRef then "&" else "") ++ "$" ++ name)
termination_by param => sizeOf param

def ClassRef.render (lookup : Lookup) (level : Nat) : ClassRef → Text
  | ⟨classId, typeArgs, intersection⟩ =>
    let name := className lookup classId
    let applied :=
      if typeArgs.isEmpty then name
      else name ++ "<" ++
        Text.joined ", " (labelled (labels lookup classId) (typeArgs.map (·.render lookup level))) ++ ">"
    Text.joined " & " (applied :: intersection.map (·.render lookup level))
termination_by object => sizeOf object

def Shape.render (lookup : Lookup) (level : Nat) : Shape → Text
  | ⟨isList, fields⟩ =>
    if fields.isEmpty then "array\x7b\x7d"
    else if isList then
      "array\x7b" ++ Text.joined ", " (fields.map (·.renderType lookup level)) ++ "\x7d"
    else
      "array\x7b\n" ++ Text.joined ",\n" (fields.map (·.render lookup level)) ++ ",\n" ++
        tabs (level - 1) ++ "\x7d"
termination_by shape => sizeOf shape

def ShapeField.renderType (lookup : Lookup) (level : Nat) : ShapeField → Text
  | ⟨_, type, _⟩ => type.render lookup (level + 1)
termination_by field => sizeOf field

def ShapeField.render (lookup : Lookup) (level : Nat) : ShapeField → Text
  | ⟨key, type, optional⟩ =>
    tabs level ++ key.display ++ (if optional then "?" else "") ++ ": " ++ type.render lookup (level + 1)
termination_by field => sizeOf field

end

def TypeUnion.framed (lookup : Lookup) (union : TypeUnion) : Text :=
  "\n" ++ union.render lookup 1 ++ "\n"

end TypeLens
