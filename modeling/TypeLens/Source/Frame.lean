import TypeLens.Source.Excerpt

/-! How an excerpt is fitted into the width of a display: a gutter with the line numbers, then a
window of the columns of the source. -/
namespace TypeLens.Source

def displayWidth : Nat := 140

def padding : Nat := 6

structure Measures where
  indent : Nat
  markStart : Nat
  markStop : Nat
  labelStop : Nat
  longest : Nat

namespace Measures

def least (numbers : List Nat) : Nat := numbers.min?.getD 0

def greatest (numbers : List Nat) : Nat := numbers.max?.getD 0

def ofShown (labelWidth : Nat) (shown : List ShownLine) : Measures where
  indent := least ((shown.filter fun s => !s.line.text.trim.isEmpty).map (·.line.indent))
  markStart := least ((shown.filter fun s => s.mark ≠ .inner).map (·.mark.start))
  markStop := greatest (shown.map (·.mark.stop))
  labelStop := greatest (shown.map fun s => s.mark.stop + if s.mark.hasLabel then labelWidth + 1 else 0)
  longest := greatest (shown.map fun s => Text.width s.line.text)

end Measures

structure Frame where
  gutter : Nat
  beside : Bool
  start : Nat
  stop : Nat

namespace Frame

def besideColumn (gutter : Nat) : Nat := gutter + 3

def codeColumn (gutter : Nat) (beside : Bool) : Nat := besideColumn gutter + if beside then 2 else 0

def room (gutter : Nat) (beside : Bool) : Nat := displayWidth - codeColumn gutter beside

/-- Chooses the columns to show. All are shown if they fit behind an indent that is too deep; else
marks and label decide, then the marks alone. -/
def window (room : Nat) (m : Measures) : Nat × Nat :=
  let blank := min m.indent m.markStart - padding
  let left := m.markStart - padding
  let right := m.markStop + padding
  let labelRight := m.labelStop + padding
  let start := if 20 < blank then blank - 16 else 0
  let stop := max m.longest start
  if stop - start ≤ room then (start, stop)
  else if labelRight ≤ blank + room then (blank, blank + room)
  else if labelRight - left ≤ room then
    let start := left - (room - (labelRight - left)) / 2
    (start, start + room)
  else if right - left ≤ room then
    let start := left - (room - (right - left)) / 5 * 2
    (start, start + room)
  else (left, right)

def ofShown (gutter : Nat) (beside : Bool) (labelWidth : Nat) (shown : List ShownLine) : Frame :=
  let (start, stop) := window (room gutter beside) (.ofShown labelWidth shown)
  ⟨gutter, beside, start, stop⟩

end Frame
end TypeLens.Source
