import TypeLens.Json.Value
import TypeLens.Model.Basic
import TypeLens.Model.Kind
import TypeLens.Text.Shown

/-! What can be wrong with a text: it ends too soon, it is no JSON, or it is JSON that says
something the model has no room for. The wording of all of it is here. -/
namespace TypeLens.Json

inductive Unfinished where
  | value | string | list | object
  deriving DecidableEq

def Unfinished.message : Unfinished → Text
  | .value => "EOF while parsing a value"
  | .string => "EOF while parsing a string"
  | .list => "EOF while parsing a list"
  | .object => "EOF while parsing an object"

inductive SyntaxFault where
  | unknownWord | invalidNumber | numberTooLarge
  | controlCharacter | invalidEscape | loneSurrogate | brokenSurrogatePair
  | trailingComma | trailingCharacters | noCommaInList | noCommaInObject
  | keyNoString | noColon | noValue | tooDeep
  deriving DecidableEq

def SyntaxFault.message : SyntaxFault → Text
  | .unknownWord => "expected ident"
  | .invalidNumber => "invalid number"
  | .numberTooLarge => "number out of range"
  | .controlCharacter => "control character (\\u0000-\\u001F) found while parsing a string"
  | .invalidEscape => "invalid escape"
  | .loneSurrogate => "lone leading surrogate in hex escape"
  | .brokenSurrogatePair => "unexpected end of hex escape"
  | .trailingComma => "trailing comma"
  | .trailingCharacters => "trailing characters"
  | .noCommaInList => "expected `,` or `]`"
  | .noCommaInObject => "expected `,` or `\x7d`"
  | .keyNoString => "key must be a string"
  | .noColon => "expected `:`"
  | .noValue => "expected value"
  | .tooDeep => "recursion limit exceeded"

inductive Record where
  | param | signature | classRef | shapeField | shape
  | list | array | iterable | classString | templateParam | plain
  | span | site | classDecl | traceInput
  deriving DecidableEq

namespace Record

def title : Record → Text
  | .param => "struct Param"
  | .signature => "struct Signature"
  | .classRef => "struct NamedObject"
  | .shapeField => "struct RawShapeField"
  | .shape => "struct RawShape"
  | .list => "struct variant Atomic::List"
  | .array => "struct variant Atomic::Array"
  | .iterable => "struct variant Atomic::Iterable"
  | .classString => "struct variant Atomic::ClassString"
  | .templateParam => "struct variant Atomic::TemplateParam"
  | .plain => "struct variant Atomic::Opaque"
  | .span => "struct Span"
  | .site => "struct Site"
  | .classDecl => "struct ClassDecl"
  | .traceInput => "struct TraceInput"

def fields : Record → List Text
  | .param => ["name", "type", "by_ref", "variadic"]
  | .signature => ["params", "return_type", "pure"]
  | .classRef => ["class_id", "type_args", "intersection"]
  | .shapeField => ["key", "type", "optional"]
  | .shape => ["is_list", "fields"]
  | .list => ["element", "non_empty"]
  | .array => ["key", "value", "non_empty"]
  | .iterable => ["key", "value"]
  | .classString => ["bound"]
  | .templateParam => ["name", "defining_class", "constraint"]
  | .plain => ["id"]
  | .span => ["start", "end"]
  | .site => ["kind", "doc_comment", "span", "type"]
  | .classDecl => ["name", "template_params"]
  | .traceInput => ["path", "sites"]

def size (record : Record) : Nat := record.fields.length

def position (record : Record) (field : Text) : Nat := record.fields.idxOf field

end Record

inductive Found where
  | null | boolean (value : Bool) | integer (value : Int) | real (value : Binary)
  | string (text : Text) | sequence | map
  deriving DecidableEq

def Found.of : Value → Found
  | .null => .null
  | .boolean value => .boolean value
  | .integer value => .integer value
  | .real value => .real value
  | .string text => .string text
  | .array _ => .sequence
  | .object _ => .map

def Found.message : Found → Text
  | .null => "null"
  | .boolean value => "boolean `" ++ (if value then "true" else "false") ++ "`"
  | .integer value => "integer `" ++ Text.ofInt value ++ "`"
  | .real value => "floating point `" ++ value.render ++ "`"
  | .string text => "string " ++ text.shown
  | .sequence => "sequence"
  | .map => "map"

inductive Expected where
  | text | boolean | count | sequence | unit | atomic | tag | record (record : Record)
  deriving DecidableEq

def Expected.message : Expected → Text
  | .text => "a string"
  | .boolean => "a boolean"
  | .count => "usize"
  | .sequence => "a sequence"
  | .unit => "unit"
  | .atomic => "internally tagged enum Atomic"
  | .tag => "variant identifier"
  | .record named => named.title

inductive Refusal where
  | wrongType (found : Found) (expected : Expected)
  | negativeCount (value : Int)
  | noSuchKind (index : Int)
  | unknownKind (tag : Text)
  | tooFew (count : Nat) (record : Record)
  | tooMany (count : Nat) (record : Record)
  | missingField (name : Text)
  | duplicateField (name : Text)
  | noShapeKey
  | model (fault : ModelFault)
  deriving DecidableEq

def elements (count : Nat) : Text := Text.ofNat count ++ (if count = 1 then " element" else " elements")

def Refusal.message : Refusal → Text
  | .wrongType found expected => "invalid type: " ++ found.message ++ ", expected " ++ expected.message
  | .negativeCount value => "invalid value: integer `" ++ Text.ofInt value ++ "`, expected usize"
  | .noSuchKind index =>
    "invalid value: integer `" ++ Text.ofInt index ++ "`, expected variant index 0 <= i < " ++
      Text.ofNat Kind.all.length
  | .unknownKind tag =>
    "unknown variant `" ++ tag ++ "`, expected one of " ++
      Text.joined ", " (Kind.all.map fun kind => "`" ++ kind.tag ++ "`")
  | .tooFew count record =>
    "invalid length " ++ Text.ofNat count ++ ", expected " ++ record.title ++ " with " ++ elements record.size
  | .tooMany count record =>
    "invalid length " ++ Text.ofNat count ++ ", expected " ++ elements record.size ++ " in sequence"
  | .missingField name => "missing field `" ++ name ++ "`"
  | .duplicateField name => "duplicate field `" ++ name ++ "`"
  | .noShapeKey => "data did not match any variant of untagged enum ShapeKey"
  | .model fault => fault.message

inductive Problem where
  | unfinished (what : Unfinished)
  | syntaxFault (fault : SyntaxFault)
  | refused (refusal : Refusal)
  deriving DecidableEq

def Problem.message : Problem → Text
  | .unfinished what => what.message
  | .syntaxFault fault => fault.message
  | .refused refusal => refusal.message

/-- A place in a text: lines count from one, columns are the bytes since the line began. -/
structure Place where
  line : Nat
  column : Nat
  deriving DecidableEq

def Place.after (place : Place) : Nat → Text → Place
  | _, [] => place
  | bytes, c :: rest =>
    if bytes < c.utf8Size then { place with column := place.column + bytes }
    else if c = '\n' then Place.after ⟨place.line + 1, 0⟩ (bytes - c.utf8Size) rest
    else Place.after { place with column := place.column + c.utf8Size } (bytes - c.utf8Size) rest

structure ReadError where
  problem : Problem
  place : Option Place
  deriving DecidableEq

def ReadError.message (error : ReadError) : Text :=
  error.problem.message ++
    match error.place with
    | none => ""
    | some place => " at line " ++ Text.ofNat place.line ++ " column " ++ Text.ofNat place.column

end TypeLens.Json
