import TypeLens.Text.Basic

/-! Rows of styled characters, and their text with or without colors. -/
namespace TypeLens.Source

inductive Style where
  | plain | gutter | emphasis | mark
  deriving DecidableEq

structure Cell where
  char : Char
  style : Style
  deriving DecidableEq

abbrev Row := List Cell

def styled (style : Style) (text : Text) : Row := text.map (⟨·, style⟩)

namespace Row

def put (row : Row) (column : Nat) (style : Style) (text : Text) : Row :=
  if text.isEmpty then row
  else
    (row ++ styled .plain (List.replicate (column - row.length) ' ')).take column ++ styled style text ++
      row.drop (column + text.length)

def replace (row : Row) (start stop : Nat) (style : Style) (text : Text) : Row :=
  if row.length < stop then row else row.take start ++ styled style text ++ row.drop stop

def reset (current : Text) : Text := if current.isEmpty then [] else "\x1b[0m"

def paintedAfter (sequence : Style → Text) : Text → Row → Text
  | current, [] => reset current
  | current, cell :: cells =>
    let next := sequence cell.style
    (if next = current then [] else reset current ++ next) ++ cell.char :: paintedAfter sequence next cells

def painted (sequence : Style → Text) (row : Row) : Text := paintedAfter sequence [] row

end Row
end TypeLens.Source
