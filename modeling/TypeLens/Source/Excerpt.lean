import TypeLens.Source.Line

/-! The lines of a source that are shown for an extent, and what is marked in each of them. -/
namespace TypeLens.Source

inductive Mark where
  | whole (start stop : Nat)
  | opening (start : Nat)
  | inner
  | closing (stop : Nat)
  deriving DecidableEq

namespace Mark

def start : Mark → Nat
  | .whole start _ => start
  | .opening start => start
  | .inner => 0
  | .closing stop => stop - 1

def stop : Mark → Nat
  | .whole _ stop => stop
  | .opening start => start + 1
  | .inner => 0
  | .closing stop => stop

def hasLabel : Mark → Bool
  | .whole _ _ => true
  | .closing _ => true
  | _ => false

end Mark

structure ShownLine where
  number : Nat
  line : Line
  mark : Mark

namespace Excerpt

def stopColumn (start stop : Position) : Nat :=
  if start.line = stop.line then max stop.column (start.column + 1)
  else stop.column + if stop.inBreak then 1 else 0

def between (lines : List Line) (start stop : Nat) (mark : Mark) : List ShownLine :=
  (lines.zipIdx.extract start stop).map fun (line, number) => ⟨number, line, mark⟩

def isFiller (shown : ShownLine) : Bool := shown.line.isFiller

/-- Up to three lines follow the first one; of more, only the one before the last is shown. Lines
without content of their own are left out before a gap and before the last line. -/
def ofPositions (lines : List Line) (start stop : Position) : List ShownLine :=
  let column := stopColumn start stop
  if start.line = stop.line then between lines start.line (start.line + 1) (.whole start.column column)
  else
    let middle := min (start.line + 4) stop.line
    between lines start.line (start.line + 1) (.opening start.column) ++
      ((between lines (start.line + 1) middle .inner).reverse.dropWhile isFiller).reverse ++
      (if middle < stop.line - 1 then
        (between lines (stop.line - 1) stop.line .inner).filter (fun shown => !isFiller shown) else []) ++
      between lines stop.line (stop.line + 1) (.closing column)

end Excerpt
end TypeLens.Source
