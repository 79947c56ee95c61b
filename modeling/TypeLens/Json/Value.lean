import TypeLens.Number.Decimal

/-! JSON values, and the one compact text that is written for each. An object keeps its members
in order, repeated names included. -/
namespace TypeLens.Json

mutual

inductive Value where
  | null
  | boolean (value : Bool)
  | integer (value : Int)
  | real (value : Binary)
  | string (text : Text)
  | array (items : List Value)
  | object (members : List Member)

structure Member where
  name : Text
  value : Value

end

def hexDigit (n : Nat) : Char := "0123456789abcdef".toList.getD n '0'

def escaped (c : Char) : Text :=
  if c = '"' then "\\\""
  else if c = '\\' then "\\\\"
  else if c = '\n' then "\\n"
  else if c = '\r' then "\\r"
  else if c = '\t' then "\\t"
  else if c = '\x08' then "\\b"
  else if c = '\x0c' then "\\f"
  else if c.toNat < 0x20 then "\\u00" ++ [hexDigit (c.toNat / 16), hexDigit (c.toNat % 16)]
  else [c]

def quoted (text : Text) : Text := '"' :: text.flatMap escaped ++ ['"']

mutual

def Value.text : Value → Text
  | .null => "null"
  | .boolean value => if value then "true" else "false"
  | .integer value => Text.ofInt value
  | .real value => value.render
  | .string text => quoted text
  | .array items => "[" ++ Text.joined "," (items.map (·.text)) ++ "]"
  | .object members => "\x7b" ++ Text.joined "," (members.map (·.text)) ++ "\x7d"
termination_by value => sizeOf value

def Member.text : Member → Text
  | ⟨name, value⟩ => quoted name ++ ":" ++ value.text
termination_by member => sizeOf member

end

end TypeLens.Json
