import TypeLens.ClassName

/-! The classes that a rendering knows, by the normal form of their names. -/
namespace TypeLens

structure ClassInfo where
  shortName : Text
  templateParams : Option (List Text)
  deriving DecidableEq

abbrev Lookup := Text → Option ClassInfo

structure ClassDecl where
  name : Text
  templateParams : Option (List Text)
  deriving DecidableEq

def ClassDecl.info (decl : ClassDecl) : ClassInfo := ⟨ClassName.short decl.name, decl.templateParams⟩

structure Catalog where
  entries : List (Text × ClassInfo)

namespace Catalog

def empty : Catalog := ⟨[]⟩

def declare (catalog : Catalog) (decl : ClassDecl) : Catalog :=
  let key := ClassName.normalForm decl.name
  ⟨catalog.entries.filter (fun entry => entry.1 ≠ key) ++ [(key, decl.info)]⟩

def withClass (catalog : Catalog) (name : Text) (params : List Text) : Catalog :=
  catalog.declare ⟨name, if params.isEmpty then none else some params⟩

def ofDecls (decls : List ClassDecl) : Catalog := decls.foldl declare empty

def size (catalog : Catalog) : Nat := catalog.entries.length

def isEmpty (catalog : Catalog) : Bool := catalog.entries.isEmpty

def resolve (catalog : Catalog) : Lookup := fun id => catalog.entries.lookup (ClassName.normalForm id)

end Catalog
end TypeLens
