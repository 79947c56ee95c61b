import TypeLens.Command.Inputs

/-! Files in directories, and what a path leads to among them. -/
namespace TypeLens.Command

inductive Node where
  | directory
  | file (content : ByteArray)

structure FileTree where
  nodes : List (List Text × Node)

namespace FileTree

def empty : FileTree := ⟨[]⟩

def ofPaths (paths : List (Text × ByteArray)) : FileTree :=
  ⟨paths.map fun (path, content) =>
    let names := (Text.piecesAt '/' path).filter fun name => !name.isEmpty
    (names, if path.getLast? = some '/' then .directory else .file content)⟩

def node (tree : FileTree) (names : List Text) : Option Node :=
  match tree.nodes.lookup names with
  | some node => some node
  | none =>
    if names.isEmpty || tree.nodes.any (fun node => names.isPrefixOf node.1) then some .directory else none

def walk (tree : FileTree) (place : List Text) : List Text → Content
  | [] => match tree.node place with
    | some (.file content) => .ok content
    | some .directory => .error .isDirectory
    | none => .error .notFound
  | name :: names => match tree.node place with
    | some (.file _) => .error .notDirectory
    | none => .error .notFound
    | some .directory =>
      if name = [] ∨ name = ['.'] then walk tree place names
      else if name = ['.', '.'] then
        if place.isEmpty then walk empty [] names else walk tree place.dropLast names
      else walk tree (place ++ [name]) names

def read (tree : FileTree) (path : Text) : Content :=
  if path.head? = some '/' then empty.walk [] (Text.piecesAt '/' path)
  else tree.walk [] (Text.piecesAt '/' path)

end FileTree
end TypeLens.Command
