import TypeLens.Text.Basic

/-! Words that are likely meant by a mistyped one, by the measure of Jaro: the mean of the shares of
both words that match and of the matches that stand in order. -/
namespace TypeLens.Command

structure Share where
  part : Nat
  whole : Nat
  deriving DecidableEq

namespace Share

def less (a b : Share) : Bool := a.part * b.whole < b.part * a.whole

def similar : Share := ⟨7, 10⟩

end Share

def findMatch (c : Char) (low high : Nat) (used : List Nat) (word : Text) : Option Nat :=
  (List.range' low (high - low)).find? fun place => word[place]? = some c && !used.contains place

def matchAll (word : Text) (reach : Nat) : Nat → List Nat → Text → List (Char × Nat)
  | _, _, [] => []
  | place, used, c :: rest =>
    match findMatch c (place - reach) (min word.length (place + reach + 1)) used word with
    | none => matchAll word reach (place + 1) used rest
    | some partner => (c, partner) :: matchAll word reach (place + 1) (partner :: used) rest

def jaro (a b : Text) : Share :=
  let reach := max a.length b.length / 2 - 1
  let matched := matchAll b reach 0 [] a
  let left := matched.map (·.1)
  let right := ((List.range b.length).filter fun place => (matched.map (·.2)).contains place).filterMap (b[·]?)
  let moved := ((left.zip right).filter fun (c, d) => c ≠ d).length / 2
  let count := matched.length
  if a.isEmpty && b.isEmpty then ⟨1, 1⟩
  else if count = 0 then ⟨0, 1⟩
  else ⟨count * count * (a.length + b.length) + (count - moved) * a.length * b.length,
    3 * a.length * b.length * count⟩

def insertShare (new : Share × Text) : List (Share × Text) → List (Share × Text)
  | [] => [new]
  | old :: rest => if new.1.less old.1 then new :: old :: rest else old :: insertShare new rest

def similarWords (word : Text) (candidates : List Text) : List Text :=
  let shares := candidates.map fun candidate => (jaro word candidate, candidate)
  let close := shares.filter fun share => !share.1.less .similar
  (close.foldl (fun sorted share => insertShare share sorted) []).map (·.2)

def mostSimilar (word : Text) (candidates : List Text) : Option Text := (similarWords word candidates).getLast?

end TypeLens.Command
