import TypeLens.Proofs.Tagged
import Mathlib.Data.List.Nodup

/-! A change somewhere inside of a value. It is found by the fields that a decoder follows, and what relates the two
sides of the change relates what is decoded from the whole. -/
namespace TypeLens

open Json

inductive Within (Here : Role → Value → Value → Prop) : Role → Value → Value → Prop where
  | here {role value value'} (change : Here role value value') : Within Here role value value'
  | members {value value'} (inner : Within Here (.list .atomic) value value') : Within Here .union value value'
  | element {role value value'} (before after) (inner : Within Here role value value') :
      Within Here (.list role) (.array (before ++ value :: after)) (.array (before ++ value' :: after))
  | present {role value value'} (some : value ≠ .null) (some' : value' ≠ .null)
      (inner : Within Here role value value') : Within Here (.nullable role) value value'
  | field {record row value value'} (before after) (known : row ∈ Record.rows record)
      (inner : Within Here row.role value value') : Within Here (.record record)
        (.object (before ++ ⟨row.name, value⟩ :: after)) (.object (before ++ ⟨row.name, value'⟩ :: after))
  | item {record row value value'} (before after) (known : (Record.rows record)[before.length]? = some row)
      (inner : Within Here row.role value value') :
      Within Here (.record record) (.array (before ++ value :: after)) (.array (before ++ value' :: after))
  | tagged {tag kind members members'} (known : Kind.ofValue tag = .ok kind) (only : Only members ⟨"kind", tag⟩)
      (only' : Only members' ⟨"kind", tag⟩)
      (inner : Within Here (.record kind.record) (.object members) (.object members')) :
      Within Here .atomic (.object members) (.object members')
  | taggedItems {tag kind items items'} (known : Kind.ofValue tag = .ok kind)
      (inner : Within Here (.record kind.record) (.array items) (.array items')) :
      Within Here .atomic (.array (tag :: items)) (.array (tag :: items'))

theorem withinTurned {Here : Role → Value → Value → Prop} {role : Role} {value value' : Value}
    (within : Within Here role value value') :
    Within (fun role value value' => Here role value' value) role value' value := by
  induction within with
  | here change => exact .here change
  | members _ ih => exact .members ih
  | element before after _ ih => exact .element before after ih
  | present some some' _ ih => exact .present some' some ih
  | field before after known _ ih => exact .field before after known ih
  | item before after known _ ih => exact .item before after known ih
  | tagged known only only' _ ih => exact .tagged known only' only ih
  | taggedItems known _ ih => exact .taggedItems known ih

theorem innerShallower {value value' : Value} (opens : 0 < value.depth)
    (each : ∀ item ∈ value'.inner, ∃ other ∈ value.inner, item.depth ≤ other.depth) : value'.depth ≤ value.depth := by
  rw [← Nat.succ_pred_eq_of_pos opens]
  refine Value.depthLe.mpr fun item inside => ?_
  obtain ⟨other, among, shallower⟩ := each item inside
  exact Nat.le_trans shallower (Nat.le_pred_of_lt (Value.innerDepth among))

theorem withinShallower {Here : Role → Value → Value → Prop}
    (shrinks : ∀ {role value value'}, Here role value value' → value'.depth ≤ value.depth) {role : Role}
    {value value' : Value} (within : Within Here role value value') : value'.depth ≤ value.depth := by
  have replaced {before after : List Value} {item item' : Value} (ih : item'.depth ≤ item.depth) :
      ∀ other ∈ before ++ item' :: after, ∃ old ∈ before ++ item :: after, other.depth ≤ old.depth := by
    intro other inside
    simp only [List.mem_append, List.mem_cons] at inside ⊢
    rcases inside with front | rfl | back
    · exact ⟨other, .inl front, Nat.le_refl _⟩
    · exact ⟨item, .inr (.inl rfl), ih⟩
    · exact ⟨other, .inr (.inr back), Nat.le_refl _⟩
  induction within with
  | here change => exact shrinks change
  | members _ ih | present _ _ _ ih | tagged _ _ _ _ ih => exact ih
  | element _ _ _ ih | item _ _ _ _ ih => exact innerShallower (by simp [Value.depth]) (replaced ih)
  | field before after _ _ ih =>
    refine innerShallower (by simp [Value.depth]) ?_
    simpa only [Value.inner, List.map_append, List.map_cons] using replaced ih
  | @taggedItems tag kind items items' _ _ ih =>
    simp only [Value.depth, List.map_cons, List.foldr_cons] at ih ⊢
    omega

structure Closure extends Lift where
  same : ∀ {α : Type} (look : Checked α), looks false look look
  neither : ∀ {α : Type} {mark : Bool} {look look' : Checked α}, (∀ result, look ≠ .ok result) →
    (∀ result, look' ≠ .ok result) → looks mark look look'
  ofExcept : ∀ {α : Type} {mark : Bool} {found found' : Except Refusal α} (place : Nat), ends mark found found' →
    looks mark (.ofExcept place found) (.ofExcept place found')
  under : ∀ {α β : Type} {mark : Bool} (found : Except Refusal α) {next next' : α → Except Refusal β},
    (∀ value, ends mark (next value) (next' value)) → ends mark (found >>= next) (found >>= next')

theorem noRepeatNames {name : Text} {place : Nat} {members others : List Member}
    (same : members.map (·.name) = others.map (·.name)) : noRepeat name place members = noRepeat name place others := by
  induction members generalizing others place with
  | nil => cases others with
    | nil => rfl
    | cons => cases same
  | cons member members ih =>
    cases others with
    | nil => cases same
    | cons other others =>
      obtain ⟨first, later⟩ := List.cons.inj same
      have first : member.name = other.name := first
      rw [noRepeat, noRepeat, first, ih later]

theorem rowsApart (record : Record) : (record.rows.map (·.name)).Nodup := by
  cases record <;> simp [Record.rows]

theorem sameRow {record : Record} {row other : Row} (known : row ∈ record.rows) (knownOther : other ∈ record.rows)
    (same : other.name = row.name) : other = row :=
  List.inj_on_of_nodup_map (rowsApart record) knownOther known same

theorem marksOne {record : Record} {row : Row} (known : row ∈ record.rows) :
    record.marks (fun name => decide (name = row.name)) = true := by
  have form (rows : List Row) (start : Bool) (marked : Text → Bool) :
      rows.foldl (fun mark row => mark || marked row.name) start = (start || rows.any fun row => marked row.name) := by
    induction rows generalizing start with
    | nil => simp
    | cons row rows ih => rw [List.foldl_cons, ih, List.any_cons, Bool.or_assoc]
  rw [Record.marks, form record.rows false fun name => decide (name = row.name), Bool.false_or, List.any_eq_true]
  exact ⟨row, known, by simp⟩

theorem rowPosition {record : Record} {row : Row} {i : Nat} (known : record.rows[i]? = some row) :
    record.position row.name = i := by
  obtain ⟨bound, rfl⟩ := List.getElem?_eq_some_iff.mp known
  have typed : record.rows ≠ [] := List.ne_nil_of_length_pos (Nat.zero_lt_of_lt bound)
  have inside : i < (record.rows.map (·.name)).length := by simpa using bound
  have named : (record.rows.map (·.name))[i] = record.rows[i].name := List.getElem_map _
  rw [Record.position, ← rowNames typed, ← named]
  exact (rowsApart record).idxOf_getElem _ _

namespace Closure

variable {closure : Closure}

theorem lookupSwapped {α : Type} {decode : Value → Except Refusal α} {name target : Text} {value value' : Value}
    (related : name = target → closure.ends true (decode value) (decode value')) (missing : Checked α) (place : Nat)
    (before after : List Member) : closure.looks (decide (name = target))
      (lookup name missing decode place (before ++ ⟨target, value⟩ :: after))
      (lookup name missing decode place (before ++ ⟨target, value'⟩ :: after)) := by
  have names (before : List Member) : (before ++ ⟨target, value⟩ :: after).map (·.name) =
      (before ++ ⟨target, value'⟩ :: after).map (·.name) := by simp
  by_cases same : name = target
  · subst same
    rw [decide_eq_true rfl]
    induction before generalizing place with
    | nil =>
      rw [List.nil_append, List.nil_append, lookup, lookup, if_pos rfl, if_pos rfl]
      exact closure.seqLeft (closure.ofExcept place (related rfl)) (closure.same _)
    | cons first before ih =>
      rw [List.cons_append, List.cons_append, lookup, lookup, noRepeatNames (names before)]
      split
      · -- The name has come before, so that the member is one too many on both sides.
        have repeated (found : Unit) : noRepeat name (place + 1) (before ++ ⟨name, value'⟩ :: after) ≠ .ok found := by
          intro none
          have := noRepeatOkIff.mp ⟨found, none⟩
          simp at this
        refine closure.neither ?_ ?_ <;>
        · intro result found
          obtain ⟨_, last, none⟩ := Checked.seqLeftOkIff.mp found
          exact repeated last none
      · exact ih (place + 1)
  · rw [decide_eq_false same]
    suffices lookup name missing decode place (before ++ ⟨target, value⟩ :: after) =
        lookup name missing decode place (before ++ ⟨target, value'⟩ :: after) from this ▸ closure.same _
    induction before generalizing place with
    | nil => rw [List.nil_append, List.nil_append, lookup, lookup, if_neg (Ne.symm same), if_neg (Ne.symm same)]
    | cons first before ih =>
      rw [List.cons_append, List.cons_append, lookup, lookup, noRepeatNames (names before), ih]

theorem fieldsSwapped {record : Record} {row : Row} (known : row ∈ record.rows) {value value' : Value}
    (related : ∀ {α : Type} {decode : Value → Except Refusal α}, row.role.DecodedBy decode →
      closure.ends true (decode value) (decode value')) (before after : List Member) :
    closure.Fields record (fun name => decide (name = row.name)) (.named (before ++ ⟨row.name, value⟩ :: after))
      (.named (before ++ ⟨row.name, value'⟩ :: after)) := by
  refine ⟨fun i other found α default decode decoded => ?_, closure.same _⟩
  have length : (before ++ ⟨row.name, value⟩ :: after).length = (before ++ ⟨row.name, value'⟩ :: after).length := by
    simp
  rw [namedForm, namedForm, length]
  refine lookupSwapped (fun same => ?_) _ 0 before after
  cases sameRow known (List.mem_of_getElem? found) same
  exact related decoded.held

theorem itemField {α : Type} (items : List Value) (record : Record) (name : Text) (default : Option α)
    (decode : Value → Except Refusal α) :
    (Contents.positional items).field record name default (fun value _ => decode value) =
      match items[record.position name]? with
      | some value => .ofExcept (record.position name) (decode value)
      | none => default.elim (.fault (record.position name) (.tooFew (record.position name) record)) .ok := by
  simp only [Contents.field]
  split <;> simp_all

theorem itemsSwapped {record : Record} {row : Row} {value value' : Value} {before : List Value}
    (known : record.rows[before.length]? = some row)
    (related : ∀ {α : Type} {decode : Value → Except Refusal α}, row.role.DecodedBy decode →
      closure.ends true (decode value) (decode value')) (after : List Value) :
    closure.Fields record (fun name => decide (name = row.name)) (.positional (before ++ value :: after))
      (.positional (before ++ value' :: after)) := by
  refine ⟨fun i other found α default decode decoded => ?_, ?_⟩
  · rw [itemField, itemField, rowPosition found]
    by_cases here : i = before.length
    · subst here
      cases known.symm.trans found
      have value_ (value : Value) : (before ++ value :: after)[before.length]? = some value := by simp
      rw [value_, value_, decide_eq_true rfl]
      exact closure.ofExcept _ (related decoded.held)
    · have apart : other.name ≠ row.name := by
        intro same
        rw [← rowPosition found, same, rowPosition known] at here
        exact here rfl
      have other : (before ++ value :: after)[i]? = (before ++ value' :: after)[i]? := by
        rw [List.getElem?_append, List.getElem?_append]
        split
        · rfl
        · obtain ⟨k, further⟩ : ∃ k, i - before.length = k + 1 := ⟨i - before.length - 1, by omega⟩
          rw [further, List.getElem?_cons_succ, List.getElem?_cons_succ]
      rw [decide_eq_false apart, other]
      exact closure.same _
  · have length : (before ++ value :: after).length = (before ++ value' :: after).length := by simp
    simp only [Contents.noMore]
    rw [length]
    exact closure.same _

end Closure

theorem listAt {α : Type} (decode : Value → Except Refusal α) (before : List Value) (value : Value)
    (after : List Value) : (Value.array (before ++ value :: after)).list (fun item _ => decode item) =
      before.mapM decode >>= fun front => decode value >>= fun found =>
        after.mapM decode >>= fun back => .ok (front ++ found :: back) := by
  rw [listForm, List.mapM_append, List.mapM_cons]
  simp
  rfl

theorem nullableForm {α : Type} {value : Value} (some : value ≠ .null) (read : Except Refusal α) :
    value.nullable read = Option.some <$> read := by
  unfold Value.nullable
  split
  · contradiction
  · rfl

theorem withinEnds {closure : Closure} {Here : Role → Value → Value → Prop}
    (start : ∀ {role value value'}, Here role value value' → ∀ {α : Type} {decode : Value → Except Refusal α},
      role.DecodedBy decode → closure.ends true (decode value) (decode value'))
    {role : Role} {value value' : Value} (within : Within Here role value value') {α : Type}
    {decode : Value → Except Refusal α} (decoded : role.DecodedBy decode) :
    closure.ends true (decode value) (decode value') := by
  -- The way down to the change is the way that decoders take; each of them is left by one property of the closure.
  induction within generalizing α with
  | here change => exact start change decoded
  | members _ ih =>
    cases decoded
    rw [TypeUnion.ofValue, TypeUnion.ofValue]
    exact closure.bind _ (ih (.list .atomic))
  | element before after _ ih =>
    cases decoded with
    | list each =>
      simp only [listAt]
      exact closure.under _ fun front => closure.bind _ (ih each)
  | present some some' _ ih =>
    cases decoded with
    | nullable each =>
      simp only [nullableForm some, nullableForm some']
      exact closure.mapEnds _ (ih each)
  | field before after known _ ih =>
    have whole := Lift.record decoded (.named _) (.named _) (Closure.fieldsSwapped known ih before after)
    rwa [marksOne known] at whole
  | item before after known _ ih =>
    have whole := Lift.record decoded (.positional _) (.positional _) (Closure.itemsSwapped known ih after)
    rwa [marksOne (List.mem_of_getElem? known)] at whole
  | tagged known only only' _ ih =>
    cases decoded
    rw [kindFound only known, kindFound only' known]
    exact ih (.contents _)
  | taggedItems known _ ih =>
    cases decoded
    rw [Atomic.ofValue, Atomic.ofValue, known]
    exact ih (.contents _)

/- A change leaves the tags of a union's members. -/

def Inward (Here : Role → Value → Value → Prop) : Prop := ∀ {role value value'}, Here role value value' →
  role = .union ∧ value' = .array [] ∨ ∃ record, role = .record record

section
variable {Here : Role → Value → Value → Prop} (inward : Inward Here)
include inward

theorem atomicWithinTold {value value' : Value} (within : Within Here .atomic value value')
    (told : ∃ kind contents, Atomic.Told value kind contents) : ∃ kind contents, Atomic.Told value' kind contents := by
  obtain ⟨kind, contents, told⟩ := told
  generalize atomic : Role.atomic = role at within
  cases within with
  | here change =>
    subst atomic
    rcases inward change with ⟨other, _⟩ | ⟨_, other⟩ <;> cases other
  | @tagged tag _ members members' _ only only' _ =>
    cases told with
    | @members before text _ after known once =>
      have first : Only (before ++ ⟨"kind", .string text⟩ :: after) ⟨"kind", .string text⟩ := onlyBetween once
      cases (List.cons.inj (only.symm.trans first)).1
      obtain ⟨before, after, rfl, once⟩ := onlySplit only'
      exact ⟨kind, _, .members known once⟩
  | taggedItems _ _ =>
    cases told with
    | items known => exact ⟨kind, _, .items known⟩
  | _ => cases atomic

theorem withinTold {value value' : Value} (within : Within Here .union value value') (told : TypeUnion.Told value) :
    TypeUnion.Told value' := by
  generalize union : Role.union = role at within
  cases within with
  | here change =>
    subst union
    rcases inward change with ⟨_, rfl⟩ | ⟨_, other⟩
    · exact .array (List.forall_mem_nil _)
    · cases other
  | members within =>
    generalize list : Role.list .atomic = role at within
    cases within with
    | here change =>
      subst list
      rcases inward change with ⟨other, _⟩ | ⟨_, other⟩ <;> cases other
    | element before after within =>
      cases list
      cases told with
      | array each =>
        obtain ⟨eachBefore, eachAfter⟩ := List.forall_mem_append.mp each
        obtain ⟨told, eachLater⟩ := List.forall_mem_cons.mp eachAfter
        have told := atomicWithinTold inward within told
        exact .array (List.forall_mem_append.mpr ⟨eachBefore, List.forall_mem_cons.mpr ⟨told, eachLater⟩⟩)
    | _ => cases list
  | _ => cases union

end

end TypeLens
