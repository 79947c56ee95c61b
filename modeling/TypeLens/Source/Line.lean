import TypeLens.Source.Extent
import TypeLens.Text.Blank
import TypeLens.Text.Width

/-! The lines of a source, and places in them. -/
namespace TypeLens.Source

structure Line where
  text : Text
  breakSize : Nat

namespace Line

def size (line : Line) : Nat := line.text.byteSize + line.breakSize

def broken (piece : Text) : Line :=
  if piece.getLast? = some '\r' then ⟨piece.dropLast, 2⟩ else ⟨piece, 1⟩

def ofPieces : List Text → List Line
  | [] => []
  | [last] => if last.isEmpty then [] else [⟨last, 0⟩]
  | piece :: pieces => broken piece :: ofPieces pieces

def split (source : Text) : List Line :=
  match ofPieces (source.piecesAt '\n') with
  | [] => [⟨[], 0⟩]
  | lines => lines

def find : List Line → Nat → Nat × Nat
  | line :: next :: lines, byte =>
    if byte < line.size then (0, byte)
    else
      let (number, bytes) := find (next :: lines) (byte - line.size)
      (number + 1, bytes)
  | _, byte => (0, byte)

def isFiller (line : Line) : Bool :=
  let text := line.text.trim
  (text.take 2 = ['/', '/'] && text.take 3 ≠ ['/', '/', '/'] && text.take 3 ≠ ['/', '/', '!']) ||
    text ∈ [[], ['\x7b'], ['\x7d'], ['('], [')'], ['['], [']']]

def indent (line : Line) : Nat := Text.total (fun c => if c = '\t' then 4 else 1) (line.text.takeWhile Text.isBlank)

end Line

structure Position where
  line : Nat
  before : Text
  inBreak : Bool

namespace Position

def ofByte (lines : List Line) (byte : Nat) : Position :=
  let (number, bytes) := Line.find lines byte
  let text : Text := ((lines[number]?).map (·.text)).getD []
  ⟨number, takeBytes bytes text, text.byteSize < bytes⟩

def column (position : Position) : Nat := Text.width position.before

def characters (position : Position) : Nat := position.before.length + if position.inBreak then 1 else 0

end Position
end TypeLens.Source
