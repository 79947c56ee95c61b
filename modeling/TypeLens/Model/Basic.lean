import TypeLens.Model.Key

/-! Inferred types. Unions and atomic types alternate: whatever stands inside an atomic type
is a union again, save the parts of an intersection. A union has a first member, so it is
never empty. -/
namespace TypeLens

mutual

structure TypeUnion where
  first : Atomic
  more : List Atomic

inductive Atomic where
  | list (element : TypeUnion) (nonEmpty : Bool)
  | array (key value : TypeUnion) (nonEmpty : Bool)
  | iterable (key value : TypeUnion)
  | closure (signature : Signature)
  | callable (signature : Signature)
  | classString (bound : Option ClassRef)
  | named (object : ClassRef)
  | shape (shape : Shape)
  | templateParam (name definingClass : Text) (constraint : TypeUnion)
  | plain (id : Text)

structure Signature where
  params : List Param
  returnType : Option TypeUnion
  isPure : Bool

structure Param where
  name : Text
  type : Option TypeUnion
  byRef : Bool
  variadic : Bool

structure ClassRef where
  classId : Text
  typeArgs : List TypeUnion
  intersection : List Atomic

structure Shape where
  isList : Bool
  fields : List ShapeField

structure ShapeField where
  key : ShapeKey
  type : TypeUnion
  optional : Bool

end

inductive ModelFault where
  | emptyUnion
  | duplicateKey (key : ShapeKey)
  deriving DecidableEq

def ModelFault.message : ModelFault → Text
  | .emptyUnion => "type union must have at least one member"
  | .duplicateKey key => "duplicate shape key `" ++ key.display ++ "`"

namespace TypeUnion

def members (union : TypeUnion) : List Atomic := union.first :: union.more

def single (atomic : Atomic) : TypeUnion := ⟨atomic, []⟩

def or (union : TypeUnion) (atomic : Atomic) : TypeUnion := ⟨union.first, union.more ++ [atomic]⟩

def ofMembers : List Atomic → Except ModelFault TypeUnion
  | [] => .error .emptyUnion
  | first :: more => .ok ⟨first, more⟩

end TypeUnion

instance : Coe Atomic TypeUnion := ⟨TypeUnion.single⟩

namespace Signature

def empty : Signature := ⟨[], none, false⟩

def addParam (signature : Signature) (param : Param) : Signature :=
  { signature with params := signature.params ++ [param] }

def returns (signature : Signature) (type : TypeUnion) : Signature :=
  { signature with returnType := some type }

def withPure (signature : Signature) (value : Bool) : Signature := { signature with isPure := value }

end Signature

namespace Param

def untyped (name : Text) : Param := ⟨name, none, false, false⟩

def typed (name : Text) (type : TypeUnion) : Param := ⟨name, some type, false, false⟩

def withByRef (param : Param) (value : Bool) : Param := { param with byRef := value }

def withVariadic (param : Param) (value : Bool) : Param := { param with variadic := value }

end Param

namespace ClassRef

def bare (classId : Text) : ClassRef := ⟨classId, [], []⟩

def arg (object : ClassRef) (type : TypeUnion) : ClassRef :=
  { object with typeArgs := object.typeArgs ++ [type] }

def intersect (object : ClassRef) (atomic : Atomic) : ClassRef :=
  { object with intersection := object.intersection ++ [atomic] }

end ClassRef
end TypeLens
