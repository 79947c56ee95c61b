import TypeLens.Text.Basic

/-! Texts of unknown origin, made safe for a terminal: without control characters, and without the
sequences that an escape character begins. Tabs and line ends stay. -/
namespace TypeLens.Text

inductive Sequence where
  | closed
  | escape
  | escapeIntermediate
  | control
  | command
  | device
  | deviceParameters
  | deviceIntermediate
  | string
  deriving DecidableEq, Repr

def isLayout (c : Char) : Bool := c == '\t' || c == '\n' || c == '\x0c' || c == '\r'

namespace Sequence

def shows (sequence : Sequence) (c : Char) : Bool :=
  match sequence with
  | .closed => (0x20 ≤ c.toNat && c ≠ '\x7f') || isLayout c
  | .escape | .escapeIntermediate | .control => isLayout c
  | _ => false

/-- The eight-bit terminator ends a string even as a byte of the UTF-8 form of another character. -/
def hasTerminator (c : Char) : Bool := (String.utf8EncodeChar c).contains 0x9C

def next (sequence : Sequence) (c : Char) : Sequence :=
  if c = '\x1b' then .escape
  else if c = '\x18' ∨ c = '\x1a' then .closed
  else match sequence with
    | .closed => .closed
    | .escape =>
      if c = '[' then .control
      else if c = ']' then .command
      else if c = 'P' then .device
      else if c = 'X' ∨ c = '^' ∨ c = '_' then .string
      else if ' ' ≤ c ∧ c ≤ '/' then .escapeIntermediate
      else if '0' ≤ c ∧ c ≤ '~' then .closed
      else .escape
    | .escapeIntermediate => if '0' ≤ c ∧ c ≤ '~' then .closed else .escapeIntermediate
    | .control => if '@' ≤ c ∧ c ≤ '~' then .closed else .control
    | .command => if c = '\x07' then .closed else .command
    | .device =>
      if ' ' ≤ c ∧ c ≤ '/' then .deviceIntermediate
      else if '0' ≤ c ∧ c ≤ '?' then .deviceParameters
      else if '@' ≤ c ∧ c ≤ '~' then .string
      else .device
    | .deviceParameters =>
      if ' ' ≤ c ∧ c ≤ '/' then .deviceIntermediate
      else if '<' ≤ c ∧ c ≤ '~' then .string
      else .deviceParameters
    | .deviceIntermediate => if '0' ≤ c ∧ c ≤ '~' then .string else .deviceIntermediate
    | .string => if hasTerminator c then .closed else .string

end Sequence

/-- What is shown of a text behind a sequence. Layout inside a sequence suspends it up to the next
control character; a character beyond ASCII ends a suspended one. -/
def plainAfter (sequence : Sequence) (suspended : Bool) : Text → Text
  | [] => []
  | c :: rest =>
    if (if suspended then Sequence.closed else sequence).shows c then
      c :: plainAfter (if c.toNat < 0x80 then sequence else .closed) true rest
    else plainAfter (sequence.next c) false rest

def plain (text : Text) : Text := plainAfter .closed false text

end TypeLens.Text
