import TypeLens.Json.Contents
import Mathlib.Data.List.Forall2

/-! What a successful look at a JSON value has seen. Records are taken apart field by field; every value that
counts for the result stands inside the value that was looked at. -/
namespace TypeLens.Json

variable {α β : Type}

namespace Checked

@[simp] theorem mapOkIff {f : α → β} {checked : Checked α} {result : β} :
    f <$> checked = ok result ↔ ∃ value, checked = ok value ∧ f value = result := by
  change map f checked = ok result ↔ _
  cases checked <;> simp [map]

@[simp] theorem seqOkIff {checked : Checked (α → β)} {next : Checked α} {result : β} :
    checked <*> next = ok result ↔ ∃ f, checked = ok f ∧ ∃ value, next = ok value ∧ f value = result := by
  change ap checked next = ok result ↔ _
  cases checked <;> cases next <;> simp [ap]
  split <;> simp

@[simp] theorem seqLeftOkIff {checked : Checked α} {last : Checked β} {result : α} :
    checked <* last = ok result ↔ checked = ok result ∧ ∃ value, last = ok value := by
  change ap (map (Function.const β) checked) last = ok result ↔ _
  cases checked <;> cases last <;> simp [ap, map]
  split <;> simp

@[simp] theorem resultOkIff {checked : Checked α} {result : α} :
    checked.result = .ok result ↔ checked = ok result := by
  cases checked <;> simp [Checked.result]

@[simp] theorem ofExceptOkIff {place : Nat} {found : Except Refusal α} {result : α} :
    ofExcept place found = .ok result ↔ found = .ok result := by
  cases found <;> simp [ofExcept]

end Checked

def Value.inner : Value → List Value
  | .array items => items
  | .object members => members.map (·.value)
  | _ => []

theorem Value.sizeOfInner {value item : Value} (inside : item ∈ value.inner) : sizeOf item < sizeOf value := by
  cases value with
  | array items =>
    have := List.sizeOf_lt_of_mem (show item ∈ items from inside)
    simp only [array.sizeOf_spec]; omega
  | object members =>
    have : sizeOf item < sizeOf (Contents.named members) := Contents.sizeOfValues inside
    simp only [Contents.named.sizeOf_spec, object.sizeOf_spec] at *; omega
  | _ => simp [inner] at inside

theorem Value.induct {Holds : Value → Prop} (step : ∀ value, (∀ item ∈ value.inner, Holds item) → Holds value)
    (value : Value) : Holds value :=
  step value fun item _inside => induct step item
termination_by sizeOf value
decreasing_by exact sizeOfInner _inside

theorem memberFieldSource {members : List Member} {name : Text} {missing : Checked α}
    {read : (value : Value) → value ∈ members.map (·.value) → Except Refusal α} {result : α}
    (found : Contents.memberField members name missing read = .ok result) :
    missing = .ok result ∨ ∃ value inside, read value inside = .ok result := by
  unfold Contents.memberField at found
  split at found
  · exact .inl found
  · split at found
    · cases found
    · next taken =>
      dsimp only at found
      split at found
      · cases found
      · cases found; exact .inr ⟨_, _, taken⟩

theorem fieldSource {contents : Contents} {record : Record} {name : Text} {default : Option α}
    {read : (value : Value) → value ∈ contents.values → Except Refusal α} {result : α}
    (found : contents.field record name default read = .ok result) :
    default = some result ∨ ∃ value inside, read value inside = .ok result := by
  have stands : ∀ {place refusal}, default.elim (.fault place refusal) Checked.ok = .ok result →
      default = some result := by
    intro _ _ missing
    cases default <;> simp_all
  cases contents with
  | positional items =>
    simp only [Contents.field] at found
    split at found
    · next value at_ => exact .inr ⟨value, _, Checked.ofExceptOkIff.mp found⟩
    · exact .inl (stands found)
  | named members =>
    rcases memberFieldSource found with missing | source
    · exact .inl (stands missing)
    · exact .inr source

theorem mapMOkIff {ε : Type} {f : α → Except ε β} {items : List α} {results : List β} :
    items.mapM f = .ok results ↔ items.map f = results.map .ok := by
  induction items generalizing results with
  | nil => cases results <;> simp [pure, Except.pure]
  | cons item items ih =>
    rw [List.mapM_cons]
    cases first : f item with
    | error => cases results <;> simp [bind, Except.bind, first]
    | ok result =>
      cases rest : items.mapM f with
      | error =>
        cases results with
        | nil => simp [bind, Except.bind]
        | cons head tail =>
          have unread : items.map f ≠ tail.map .ok := mt ih.mpr (by simp [rest])
          simp [bind, Except.bind, first, unread]
      | ok tail =>
        have read := ih.mp rest
        have sameOk : ∀ more : List β, tail.map Except.ok = more.map (@Except.ok ε β) ↔ tail = more := fun _ =>
          List.map_inj_right fun _ _ => Except.ok.inj
        cases results <;> simp [bind, Except.bind, pure, Except.pure, first, read, sameOk]

theorem listForm (decode : Value → Except Refusal α) (items : List Value) :
    (Value.array items).list (fun item _ => decode item) = items.mapM decode := by
  have whole := congrArg (List.mapM decode) (List.attach_map_subtype_val items)
  rw [List.mapM_map] at whole
  exact whole

theorem listOkIff {decode : Value → Except Refusal α} {items : List Value} {results : List α} :
    (Value.array items).list (fun item _ => decode item) = .ok results ↔
      List.Forall₂ (fun item result => decode item = .ok result) items results := by
  rw [listForm, mapMOkIff, ← List.forall₂_eq_eq_eq, List.forall₂_map_left_iff, List.forall₂_map_right_iff]

theorem listKeeps {decode : Value → Except Refusal α} {items : List Value} {results : List α}
    (found : (Value.array items).list (fun item _ => decode item) = .ok results) {item : Value} (inside : item ∈ items)
    {result : α} (read : decode item = .ok result) : result ∈ results := by
  rw [listForm, mapMOkIff] at found
  have member : Except.ok result ∈ items.map decode := List.mem_map.mpr ⟨item, inside, read⟩
  rw [found] at member
  obtain ⟨other, among, same⟩ := List.mem_map.mp member
  cases same
  exact among

theorem listInserted {decode : Value → Except Refusal α} {front back : List Value} {results : List α}
    (found : (Value.array (front ++ back)).list (fun item _ => decode item) = .ok results) {added : Value} {result : α}
    (read : decode added = .ok result) : ∃ first last, results = first ++ last ∧
      (Value.array (front ++ added :: back)).list (fun item _ => decode item) = .ok (first ++ result :: last) := by
  rw [listForm, mapMOkIff, List.map_append] at found
  obtain ⟨first, last, rfl, before, behind⟩ := List.append_eq_map_iff.mp found
  refine ⟨first, last, rfl, ?_⟩
  rw [listForm, mapMOkIff]
  simp [read, before, behind]

theorem listSource {value : Value} {read : (item : Value) → sizeOf item < sizeOf value → Except Refusal α}
    {results : List α} (found : value.list read = .ok results) {result : α} (member : result ∈ results) :
    ∃ item ∈ value.inner, ∃ small, read item small = .ok result := by
  cases value with
  | array items =>
    have read : Except.ok result ∈ items.attach.map _ := mapMOkIff.mp found ▸ List.mem_map_of_mem member
    obtain ⟨⟨item, inside⟩, _, read⟩ := List.mem_map.mp read
    exact ⟨item, inside, _, read⟩
  | _ => cases found

theorem nullableSource {value : Value} {read : Except Refusal α} {result : α}
    (found : value.nullable read = .ok (some result)) : read = .ok result := by
  unfold Value.nullable at found
  split at found
  · cases found
  · cases read <;> simp_all [Except.map]

end TypeLens.Json
