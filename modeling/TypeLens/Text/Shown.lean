import TypeLens.Text.Basic
import TypeLens.Text.Hidden

/-! Texts as they are quoted in messages: between quotes, with nothing that a line could not show. -/
namespace TypeLens.Text

def hexadecimal (n : Nat) : Text := Nat.toDigits 16 n

def shownChar (c : Char) : Text :=
  if c = '"' then "\\\""
  else if c = '\\' then "\\\\"
  else if c = '\n' then "\\n"
  else if c = '\r' then "\\r"
  else if c = '\t' then "\\t"
  else if c = '\x00' then "\\0"
  else if isHidden c then "\\u\x7b" ++ hexadecimal c.toNat ++ "\x7d"
  else [c]

def shown (text : Text) : Text := '"' :: text.flatMap shownChar ++ ['"']

end TypeLens.Text
