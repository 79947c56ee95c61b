import TypeLens.Source.Frame
import TypeLens.Source.Row

/-! An excerpt as rows: each shown line, the marks below it, and what stands for a gap. -/
namespace TypeLens.Source

def dropColumns : Nat → Text → Nat × Text
  | _, [] => (0, [])
  | columns, c :: rest =>
    if columns = 0 then (0, c :: rest)
    else
      let (dropped, left) := dropColumns (columns - Text.charWidth c) rest
      (Text.charWidth c + dropped, left)

def takeColumns : Nat → Text → Text
  | _, [] => []
  | columns, c :: rest =>
    if columns < Text.charWidth c then [] else c :: takeColumns (columns - Text.charWidth c) rest

def dots : Text := "..."

namespace Frame

def edge (frame : Frame) : Nat := frame.gutter + 1

def side (frame : Frame) : Nat := besideColumn frame.gutter

def code (frame : Frame) : Nat := codeColumn frame.gutter frame.beside

def columns (frame : Frame) : Nat := room frame.gutter frame.beside

def bar (frame : Frame) (row : Row) : Row := row.put frame.edge .gutter "|"

def drawLine (frame : Frame) (number : Nat) (text : Text) : Row × Nat :=
  let shown := Text.displayable text
  let width := Text.width shown
  let start := min frame.start width
  let stop := if width - frame.start ≤ frame.columns then width else min width frame.stop
  let (dropped, rest) := dropColumns start shown
  let code := takeColumns (stop - start) rest
  let (under, visible) := if 0 < frame.start then dropColumns dots.length code else (0, code)
  let left := if 0 < frame.start then Row.put [] frame.code .gutter dots else []
  let body := left.put (frame.code + under) .plain visible
  let hidden := code.length - (dropColumns dots.length code.reverse).2.length
  let cut := if stop < width then
    body.put (frame.code + under + visible.length - hidden) .gutter dots else body
  (frame.bar (cut.put 0 .gutter ((Text.ofNat (number + 1)).padLeft frame.gutter)), max start dropped)

def drawMark (frame : Frame) (label : Text) (cut : Nat) (mark : Mark) : Row :=
  let column := fun c => frame.code + c - cut
  let bar := frame.bar []
  match mark with
  | .inner => []
  | .whole start stop =>
    (bar.put (column (stop + 1)) .mark label).put (column start) .mark (List.replicate (stop - start) '^')
  | .opening start =>
    let below := bar.put (frame.side + 1) .mark (List.replicate (column start - (frame.side + 1)) '_')
    (below.put frame.side .mark " ").put (column start) .mark "^"
  | .closing stop =>
    let below := bar.put (frame.side + 1) .mark (List.replicate (column (stop - 1) - (frame.side + 1)) '_')
    ((below.put frame.side .mark "|").put (column (stop - 1) + 2) .mark label).put (column (stop - 1)) .mark "^"

def shorten (frame : Frame) (cut start stop : Nat) (row : Row) : Row :=
  if 2 * frame.columns < stop - start ∧ 13 < stop - start then
    let kept := max (frame.columns / 3) 5
    row.replace (frame.code + (start + kept - cut)) (frame.code + (stop - kept - cut)) .gutter dots
  else row

def drawShown (frame : Frame) (label : Text) (shown : ShownLine) : List Row :=
  let (row, cut) := frame.drawLine shown.number shown.line.text
  let below := frame.drawMark label cut shown.mark
  match shown.mark with
  | .inner => [row.put frame.side .mark "|"]
  | .closing _ => [row.put frame.side .mark "|", below]
  | .whole start stop => [frame.shorten cut start stop row, frame.shorten cut start stop below]
  | .opening start =>
    if (((Text.displayable shown.line.text).take start).all Text.isBlank) then [row.put frame.side .mark "/"]
    else [row, below]

def drawGap (frame : Frame) (lines : List Line) (above below : ShownLine) : List Row :=
  if below.number = above.number + 2 then
    (lines.extract (above.number + 1) below.number).map fun line =>
      (frame.drawLine (above.number + 1) line.text).1.put frame.side .mark "|"
  else if above.number + 2 < below.number then [(Row.put [] 0 .gutter dots).put frame.side .mark "|"]
  else []

def drawAll (frame : Frame) (lines : List Line) (label : Text) : List ShownLine → List Row
  | [] => []
  | [shown] => frame.drawShown label shown
  | above :: below :: more =>
    frame.drawShown label above ++ frame.drawGap lines above below ++ drawAll frame lines label (below :: more)

end Frame
end TypeLens.Source
