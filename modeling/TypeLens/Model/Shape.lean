import TypeLens.Model.Basic

/-! Building shapes. Fields keep the order in which their keys first came; a shape built here
never holds two fields with one canonical key. -/
namespace TypeLens.Shape

def keyed : Shape := ⟨false, []⟩

def tuple : Shape := ⟨true, []⟩

def keys (shape : Shape) : List ShapeKey := shape.fields.map (·.key)

def put (shape : Shape) (key : ShapeKey) (type : TypeUnion) (optional : Bool) : Shape :=
  let new : ShapeField := ⟨key.canonical, type, optional⟩
  if new.key ∈ shape.keys then
    { shape with fields := shape.fields.map fun old => if old.key = new.key then new else old }
  else { shape with fields := shape.fields ++ [new] }

def field (shape : Shape) (key : ShapeKey) (type : TypeUnion) : Shape := shape.put key type false

def optionalField (shape : Shape) (key : ShapeKey) (type : TypeUnion) : Shape := shape.put key type true

/-- Puts a field under the number of fields so far, which another field may already hold. -/
def element (shape : Shape) (type : TypeUnion) : Shape :=
  shape.put (.index (Int64.ofNat shape.fields.length)) type false

def insertNew (shape : Shape) (added : ShapeField) : Except ModelFault Shape :=
  if added.key.canonical ∈ shape.keys then .error (.duplicateKey added.key.canonical)
  else .ok { shape with fields := shape.fields ++ [{ added with key := added.key.canonical }] }

def ofFields (isList : Bool) (fields : List ShapeField) : Except ModelFault Shape :=
  fields.foldlM insertNew ⟨isList, []⟩

end TypeLens.Shape
