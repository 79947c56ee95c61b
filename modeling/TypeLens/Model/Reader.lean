import TypeLens.Json.Typed
import TypeLens.Model.Decoding

/-! Types in the text of a document. The kind of an atomic type is read from the text; its
fields are read as plain values first and looked at when its bracket is closed. So whatever is
no JSON inside it is told before anything that the model refuses. -/
namespace TypeLens

open Json

def Kind.reader : Reader Kind := ((textAs .tag).refine Kind.ofText).placed

namespace Atomic

def taggedItems (depth : Nat) (text : Text) : Reading (Kind × Contents) :=
  match nextItem true text with
  | .error failure => .failed failure
  | .ok (.close rest) => .refused (.missingField "kind") rest
  | .ok (.item start) => match Kind.reader.read start with
    | .ok kind rest => (items (anyValue depth) false rest).map fun values => (kind, .positional values)
    | .refused refusal rest => .refused refusal (leaveList rest)
    | .failed failure => .failed failure

abbrev Draft := Option Kind × List Member

def taggedMember (depth : Nat) (draft : Draft) (name : Text) : Reader Draft :=
  if name = "kind".toList then
    if draft.1.isSome then .refuse (.duplicateField name)
    else Kind.reader.afterColon.map fun kind => (some kind, draft.2)
  else (anyValue depth).afterColon.map fun value => (draft.1, draft.2 ++ [⟨name, value⟩])

def taggedMembers (depth : Nat) (text : Text) : Reading (Kind × Contents) :=
  (members (taggedMember depth) (none, []) true text).refine fun draft =>
    match draft.1 with
    | some kind => .ok (kind, .named draft.2)
    | none => .error (.missingField "kind")

theorem taggedItemsLt {depth : Nat} {text : Text} {value rest} (h : taggedItems depth text = .ok value rest) :
    rest.length < text.length := by
  unfold taggedItems at h
  split at h
  · cases h
  · cases h
  · next start next =>
    split at h
    · next kind left read =>
      obtain ⟨_, values, _⟩ := Reading.mapOk h
      have := nextItemLe next
      have := Kind.reader.consumes read
      have := itemsLt values
      omega
    · cases h
    · cases h

theorem taggedMembersLt {depth : Nat} {text : Text} {value rest} (h : taggedMembers depth text = .ok value rest) :
    rest.length < text.length := by
  obtain ⟨_, read, _⟩ := Reading.refineOk h
  exact membersLt read

def tagged (depth : Nat) : Reader (Kind × Contents) where
  read text :=
    match skipBlanks text with
    | [] => .failed (.atEnd .value)
    | c :: rest =>
      if c = '[' then opening depth c rest taggedItems
      else if c = '\x7b' then opening depth c rest taggedMembers
      else .failed (mismatch .atomic (c :: rest))
  consumes {text value rest} h := by
    split at h
    · cases h
    · next c tail blank =>
      have := skipBlanksCons blank
      split at h
      · have := openingLt taggedItemsLt h
        omega
      · split at h
        · have := openingLt taggedMembersLt h
          omega
        · cases h

def reader (depth : Nat) : Reader Atomic :=
  (tagged depth).refine fun (kind, contents) => ofContents kind contents

end Atomic

def TypeUnion.reader (depth : Nat) : Reader TypeUnion :=
  (listOf Atomic.reader depth).refine fun members => modelChecked (ofMembers members)

def TypeUnion.decode (text : Text) : Except ReadError TypeUnion := Json.decode (reader nestingLimit) text

def Atomic.decode (text : Text) : Except ReadError Atomic := Json.decode (reader nestingLimit) text

end TypeLens
