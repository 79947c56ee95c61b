import TypeLens.Json.Fault

/-! Records among values that have been read: an object of named fields or an array of fields in
order. Fields are looked up each on its own, so that neither the order of members nor unknown
ones matter; the fault that is reported is the one that comes first in the text. -/
namespace TypeLens.Json

inductive Checked (α : Type) where
  | ok (value : α)
  | fault (place : Nat) (refusal : Refusal)

namespace Checked

variable {α β : Type}

def map (f : α → β) : Checked α → Checked β
  | ok value => ok (f value)
  | fault place refusal => fault place refusal

def ap : Checked (α → β) → Checked α → Checked β
  | ok f, ok value => ok (f value)
  | ok _, fault place refusal => fault place refusal
  | fault place refusal, ok _ => fault place refusal
  | fault i first, fault j second => if i ≤ j then fault i first else fault j second

instance : Applicative Checked where
  pure := ok
  seq f value := ap f (value ())
  map := map

def ofExcept (place : Nat) : Except Refusal α → Checked α
  | .ok value => ok value
  | .error refusal => fault place refusal

def result : Checked α → Except Refusal α
  | ok value => .ok value
  | fault _ refusal => .error refusal

end Checked

inductive Contents where
  | positional (items : List Value)
  | named (members : List Member)

namespace Contents

def values : Contents → List Value
  | positional items => items
  | named members => members.map (·.value)

def memberField {α : Type} (members : List Member) (name : Text) (missing : Checked α)
    (read : (value : Value) → value ∈ members.map (·.value) → Except Refusal α) : Checked α :=
  match found : members.find? (fun member => member.name = name) with
  | none => missing
  | some member =>
    let first := members.findIdx fun member => member.name = name
    match read member.value (List.mem_map_of_mem (List.mem_of_find?_eq_some found)) with
    | .error refusal => .fault first refusal
    | .ok value =>
      match (members.drop (first + 1)).findIdx? fun member => member.name = name with
      | some later => .fault (first + 1 + later) (.duplicateField name)
      | none => .ok value

def field {α : Type} (contents : Contents) (record : Record) (name : Text) (default : Option α)
    (read : (value : Value) → value ∈ contents.values → Except Refusal α) : Checked α :=
  let position := record.position name
  match contents with
  | positional items =>
    match found : items[position]? with
    | some value => .ofExcept position (read value (List.mem_of_getElem? found))
    | none => default.elim (.fault position (.tooFew position record)) .ok
  | named members =>
    memberField members name
      (default.elim (.fault (members.length + position) (.missingField name)) .ok) read

def noMore (contents : Contents) (record : Record) : Checked Unit :=
  match contents with
  | positional items =>
    if items.length ≤ record.size then .ok () else .fault items.length (.tooMany items.length record)
  | named _ => .ok ()

theorem sizeOfValues {contents : Contents} {value : Value} (member : value ∈ contents.values) :
    sizeOf value < sizeOf contents := by
  cases contents with
  | positional items =>
    have := List.sizeOf_lt_of_mem (show value ∈ items from member)
    simp only [positional.sizeOf_spec]; omega
  | named members =>
    obtain ⟨holder, inside, rfl⟩ := List.mem_map.mp member
    have := List.sizeOf_lt_of_mem inside
    have : sizeOf holder.value < sizeOf holder := by
      cases holder; simp only [Member.mk.sizeOf_spec]; omega
    simp only [named.sizeOf_spec]; omega

end Contents

namespace Value

variable {α : Type}

def record (value : Value) (named : Record)
    (read : (contents : Contents) → sizeOf contents ≤ sizeOf value → Except Refusal α) : Except Refusal α :=
  match value with
  | .array items => read (.positional items) (by simp)
  | .object members => read (.named members) (by simp)
  | value => .error (.wrongType (.of value) (.record named))

def list (value : Value)
    (read : (item : Value) → sizeOf item < sizeOf value → Except Refusal α) : Except Refusal (List α) :=
  match value with
  | .array items =>
    items.attach.mapM fun item => read item.1 (by
      have := List.sizeOf_lt_of_mem item.2
      simp only [Value.array.sizeOf_spec]; omega)
  | value => .error (.wrongType (.of value) .sequence)

def nullable (value : Value) (read : Except Refusal α) : Except Refusal (Option α) :=
  match value with
  | .null => .ok none
  | _ => read.map some

def asText : Value → Except Refusal Text
  | .string text => .ok text
  | value => .error (.wrongType (.of value) .text)

def asBoolean : Value → Except Refusal Bool
  | .boolean value => .ok value
  | value => .error (.wrongType (.of value) .boolean)

end Value
end TypeLens.Json
