import TypeLens.Proofs.Json.Parts

/-! Readers of known types beside the reader of any value. On one text both take the same way, so that what is no JSON
stops both alike; only a refusal ends the typed reading earlier. -/
namespace TypeLens.Json

variable {α β γ δ σ τ : Type}

inductive Beside : Reading α → Reading β → Prop where
  | ok (value any rest) : Beside (.ok value rest) (.ok any rest)
  | failed (failure) : Beside (.failed failure) (.failed failure)
  | refused (refusal rest any) : Beside (.refused refusal rest) any
  | placed (refusal left any) : Beside (.failed ⟨.refused refusal, left⟩) any

def Reader.Beside (typed : Reader α) (any : Reader β) : Prop :=
  ∀ text, Json.Beside (typed.read text) (any.read text)

namespace Beside

variable {typed : Reading α} {any : Reading β}

theorem same (reading : Reading α) : Beside reading reading := by
  cases reading with
  | ok value rest => exact .ok value value rest
  | refused => exact .refused _ _ _
  | failed failure => exact .failed failure

theorem map (beside : Beside typed any) (f : α → γ) (g : β → δ) : Beside (typed.map f) (any.map g) := by
  cases beside with
  | ok => exact .ok _ _ _
  | failed => exact .failed _
  | refused => exact .refused _ _ _
  | placed => exact .placed _ _ _

theorem mapAny (beside : Beside typed any) (g : β → δ) : Beside typed (any.map g) := by
  cases beside with
  | ok => exact .ok _ _ _
  | failed => exact .failed _
  | refused => exact .refused _ _ _
  | placed => exact .placed _ _ _

theorem putInPlace (beside : Beside typed any) : Beside typed.placed any := by
  cases beside with
  | ok => exact .ok _ _ _
  | failed => exact .failed _
  | refused => exact .placed _ _ _
  | placed => exact .placed _ _ _

theorem andThen (beside : Beside typed any) {leave leave' : Text → Text} {next : α → Text → Reading γ}
    {next' : β → Text → Reading δ} (further : ∀ value other rest, typed = .ok value rest →
      Beside (next value rest) (next' other rest)) :
    Beside (typed.andThen leave next) (any.andThen leave' next') := by
  cases beside with
  | ok value other rest => exact further value other rest rfl
  | failed => exact .failed _
  | refused => exact .refused _ _ _
  | placed => exact .placed _ _ _

theorem refine (beside : Beside typed any) (check : α → Except Refusal γ) : Beside (typed.refine check) any := by
  cases beside with
  | ok value other rest =>
    rw [Reading.refineParts, Reading.andThen]
    cases check value with
    | ok result => exact .ok result other rest
    | error refusal => exact .refused _ _ _
  | failed => exact .failed _
  | refused => exact .refused _ _ _
  | placed => exact .placed _ _ _

theorem starting {next : Char → Text → Reading α} {next' : Char → Text → Reading β} (text : Text)
    (inside : ∀ c rest, Beside (next c rest) (next' c rest)) :
    Beside (Reading.starting next text) (Reading.starting next' text) := by
  rw [Reading.starting, Reading.starting]
  cases skipBlanks text with
  | nil => exact .failed _
  | cons c rest => exact inside c rest

theorem afterScan {next : γ → Reading α} {next' : γ → Reading β} (scan : Except Failure γ)
    (inside : ∀ found, scan = .ok found → Beside (next found) (next' found)) :
    Beside (Reading.afterScan scan next) (Reading.afterScan scan next') := by
  cases scan with
  | ok found => exact inside found rfl
  | error failure => exact .failed failure

theorem opening {inner : Nat → Text → Reading α} {inner' : Nat → Text → Reading β} (depth : Nat) (bracket : Char)
    (text : Text) (inside : ∀ below, Beside (inner below text) (inner' below text)) :
    Beside (opening depth bracket text inner) (Reading.opened depth bracket text inner') := by
  cases depth with
  | zero => exact .failed _
  | succ below => exact (inside below).putInPlace

end Beside

theorem itemsBeside {typed : Reader α} {any : Reader β} (beside : typed.Beside any) (first : Bool) (text : Text) :
    Beside (items typed first text) (items any first text) := by
  rw [itemsParts, itemsParts]
  refine .afterScan _ fun found next => ?_
  cases found with
  | close rest => exact .ok _ _ rest
  | item start =>
    refine (beside start).andThen fun value other rest read => ?_
    have := nextItemLe next
    have := typed.consumes read
    exact (itemsBeside beside false rest).map _ _
termination_by text.length

theorem membersBeside {step : σ → Text → Reader σ} {step' : τ → Text → Reader τ}
    (beside : ∀ state state' name, (step state name).Beside (step' state' name)) (state : σ) (state' : τ)
    (first : Bool) (text : Text) : Beside (members step state first text) (members step' state' first text) := by
  rw [membersParts, membersParts]
  refine .afterScan _ fun found next => ?_
  cases found with
  | close rest => exact .ok state state' rest
  | member name start =>
    refine (beside state state' name start).andThen fun middle middle' rest read => ?_
    have := nextMemberLt next
    have := (step state name).consumes read
    exact membersBeside beside middle middle' false rest
termination_by text.length

namespace Reader.Beside

variable {typed : Reader α} {any : Reader β}

theorem map (beside : typed.Beside any) (f : α → γ) (g : β → δ) : (typed.map f).Beside (any.map g) := fun text =>
  (beside text).map f g

theorem refine (beside : typed.Beside any) (check : α → Except Refusal γ) : (typed.refine check).Beside any :=
  fun text => (beside text).refine check

theorem placed (beside : typed.Beside any) : typed.placed.Beside any := fun text => (beside text).putInPlace

theorem afterColon (beside : typed.Beside any) : typed.afterColon.Beside any.afterColon := by
  intro text
  rw [afterColonParts, afterColonParts]
  exact .afterScan _ fun rest _ => beside rest

end Reader.Beside

theorem mismatchBeside (expected : Expected) (c : Char) (rest : Text) (list object : Reading Value) :
    Beside (.failed (mismatch expected (c :: rest)) : Reading α)
      (if c = '[' then list else if c = '\x7b' then object else .ofScan (scalar (c :: rest))) := by
  rw [mismatch]
  split
  · exact .placed _ _ _
  · split
    · exact .placed _ _ _
    · cases scalar (c :: rest) with
      | ok found => exact .placed _ _ _
      | error failure => exact .failed failure

theorem textBeside (expected : Expected) (depth : Nat) : (textAs expected).Beside (anyValue depth) := by
  intro text
  rw [textParts, anyParts]
  refine .starting text fun c rest => ?_
  split
  · next quote =>
    subst quote
    rw [if_neg (by decide), if_neg (by decide), scalar]
    cases characters rest with
    | ok found => exact .ok _ _ _
    | error failure => exact .failed failure
  · exact mismatchBeside expected c rest _ _

theorem listBeside {item : Nat → Reader α} (beside : ∀ depth, (item depth).Beside (anyValue depth)) (depth : Nat) :
    (listOf item depth).Beside (anyValue depth) := by
  intro text
  rw [listParts, anyParts]
  refine .starting text fun c rest => ?_
  by_cases list : c = '['
  · rw [if_pos list, if_pos list]
    refine .opening depth c rest fun below => ?_
    exact (itemsBeside (beside below) true rest).mapAny Value.array
  · rw [if_neg list]
    exact mismatchBeside .sequence c rest _ _

end TypeLens.Json
