import TypeLens.Proofs.Json.Fields
import TypeLens.Proofs.Text
import Mathlib.Algebra.Group.Int.Defs

/-! The values that types are written as, how deep they are, and what their texts consist of. -/
namespace TypeLens.Json

namespace Value

def depth : Value → Nat
  | .array items => (items.map (·.depth)).foldr max 0 + 1
  | .object members => (members.map (·.value.depth)).foldr max 0 + 1
  | _ => 0
termination_by value => sizeOf value
decreasing_by
  · have := List.sizeOf_lt_of_mem ‹_›
    simp only [array.sizeOf_spec]
    omega
  · next member inside =>
    have := List.sizeOf_lt_of_mem inside
    have : sizeOf member.value < sizeOf member := by cases member; simp only [Member.mk.sizeOf_spec]; omega
    simp only [object.sizeOf_spec]
    omega

theorem foldrMaxLe {numbers : List Nat} {bound : Nat} :
    numbers.foldr max 0 ≤ bound ↔ ∀ n ∈ numbers, n ≤ bound := by
  induction numbers with
  | nil => simp
  | cons n numbers ih => rw [List.foldr_cons, Nat.max_le, ih, List.forall_mem_cons]

theorem depthLe {value : Value} {bound : Nat} :
    value.depth ≤ bound + 1 ↔ ∀ item ∈ value.inner, item.depth ≤ bound := by
  cases value <;> simp [depth, inner, foldrMaxLe]

theorem innerDepth {value item : Value} (inside : item ∈ value.inner) : item.depth < value.depth := by
  have opens : 0 < value.depth := by cases value <;> simp_all [inner, depth]
  have shallow := depthLe.mp (show value.depth ≤ value.depth - 1 + 1 by omega) item inside
  omega

inductive Plain : Value → Prop where
  | null : Plain .null
  | boolean (value) : Plain (.boolean value)
  | integer {value} (low : -2 ^ 63 ≤ value) (high : value < 2 ^ 64) : Plain (.integer value)
  | string (text) : Plain (.string text)
  | array {items} (each : ∀ item ∈ items, Plain item) : Plain (.array items)
  | object {members} (each : ∀ member ∈ members, Plain member.value) : Plain (.object members)

theorem plainInner {value : Value} (plain : value.Plain) : ∀ item ∈ value.inner, item.Plain := by
  cases plain <;> simp_all [inner]

theorem arrayText (items : List Value) :
    (array items).text = '[' :: (Text.joined [','] (items.map (·.text)) ++ [']']) := by
  rw [text]
  rfl

theorem objectText (members : List Member) :
    (object members).text = '\x7b' :: (Text.joined [','] (members.map (·.text)) ++ ['\x7d']) := by
  rw [text]
  rfl

theorem stringText (text : Text) : (string text).text = '"' :: (text.flatMap escaped ++ ['"']) := by
  rw [Value.text]
  rfl

end Value

theorem memberText (member : Member) :
    member.text = '"' :: (member.name.flatMap escaped ++ '"' :: ':' :: member.value.text) := by
  obtain ⟨name, value⟩ := member
  rw [Member.text]
  simp [quoted]

theorem joinedCons (text : Text) (texts : List Text) :
    Text.joined [','] (text :: texts) = text ++ texts.flatMap (',' :: ·) := Text.joinedCons [','] text texts

end TypeLens.Json
