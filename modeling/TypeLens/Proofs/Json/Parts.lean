import TypeLens.Json.Typed

/-! What readers are put together from. A reader looks at the first character behind blanks, goes on with what a scan
has found, and goes on behind what another reader has read. A law of readers has to be shown for these parts; each
reader then has it by the equation that takes it apart. -/
namespace TypeLens.Json

variable {α β γ σ : Type}

namespace Reading

def starting (next : Char → Text → Reading α) (text : Text) : Reading α :=
  match skipBlanks text with
  | [] => failed (.atEnd .value)
  | c :: rest => next c rest

def afterScan (scan : Except Failure γ) (next : γ → Reading α) : Reading α :=
  match scan with
  | .ok found => next found
  | .error failure => failed failure

def andThen (leave : Text → Text) (next : α → Text → Reading β) : Reading α → Reading β
  | ok value rest => next value rest
  | refused refusal rest => refused refusal (leave rest)
  | failed failure => failed failure

def opened (depth : Nat) (bracket : Char) (text : Text) (inner : Nat → Text → Reading α) : Reading α :=
  match depth with
  | 0 => failed (.ofSyntax .tooDeep (bracket :: text))
  | depth + 1 => inner depth text

theorem andThenOk {leave : Text → Text} {next : α → Text → Reading β} {reading : Reading α} {result : β} {left : Text}
    (read : reading.andThen leave next = ok result left) :
    ∃ value rest, reading = ok value rest ∧ next value rest = ok result left := by
  cases reading with
  | ok value rest => exact ⟨value, rest, rfl, read⟩
  | refused => cases read
  | failed => cases read

theorem afterScanOk {scan : Except Failure γ} {next : γ → Reading α} {value : α} {rest : Text}
    (read : afterScan scan next = ok value rest) : ∃ found, scan = .ok found ∧ next found = ok value rest := by
  cases scan with
  | ok found => exact ⟨found, rfl, read⟩
  | error => cases read

theorem refineParts (check : α → Except Refusal β) (reading : Reading α) : reading.refine check =
    reading.andThen id fun value rest => match check value with
      | .ok result => ok result rest
      | .error refusal => refused refusal rest := by
  cases reading <;> rfl

end Reading

open Reading

theorem openingParts (depth : Nat) (bracket : Char) (text : Text) (inner : Nat → Text → Reading α) :
    opening depth bracket text inner = opened depth bracket text fun below text => (inner below text).placed := by
  cases depth <;> rfl

theorem itemsParts (item : Reader α) (first : Bool) (text : Text) : items item first text =
    afterScan (nextItem first text) fun
      | .close rest => ok [] rest
      | .item start => (item.read start).andThen leaveList fun value rest =>
        (items item false rest).map (value :: ·) := by
  rw [items]
  split
  · next next => rw [next, afterScan]
  · next next => rw [next, afterScan]
  · next next =>
    simp only [next, afterScan]
    split <;> next read => rw [read, andThen]

theorem itemsOpened {item : Reader α} {first : Bool} {text start : Text}
    (next : nextItem first text = .ok (.item start)) : items item first text =
      (item.read start).andThen leaveList fun value rest => (items item false rest).map (value :: ·) := by
  rw [itemsParts, next]
  rfl

theorem membersParts (step : σ → Text → Reader σ) (state : σ) (first : Bool) (text : Text) :
    members step state first text = afterScan (nextMember first text) fun
      | .close rest => ok state rest
      | .member name start => ((step state name).read start).andThen leaveObject fun next rest =>
        members step next false rest := by
  rw [members]
  split
  · next next => rw [next, afterScan]
  · next next => rw [next, afterScan]
  · next next =>
    simp only [next, afterScan]
    split <;> next read => rw [read, andThen]

theorem membersOpened {step : σ → Text → Reader σ} {state : σ} {first : Bool} {text name start : Text}
    (next : nextMember first text = .ok (.member name start)) : members step state first text =
      ((step state name).read start).andThen leaveObject fun next rest => members step next false rest := by
  rw [membersParts, next]
  rfl

theorem afterColonParts (reader : Reader α) (text : Text) :
    reader.afterColon.read text = afterScan (colon text) reader.read := by
  simp only [Reader.afterColon, afterScan]
  cases colon text <;> rfl

theorem textParts (expected : Expected) (text : Text) : (textAs expected).read text = starting (fun c rest =>
    if c = '"' then ofScan (characters rest) else failed (mismatch expected (c :: rest))) text := rfl

theorem listParts (item : Nat → Reader α) (depth : Nat) (text : Text) : (listOf item depth).read text =
    starting (fun c rest =>
      if c = '[' then opening depth c rest fun below rest => items (item below) true rest
      else failed (mismatch .sequence (c :: rest))) text := rfl

def keeping (depth : Nat) (found : List Member) (name : Text) : Reader (List Member) :=
  (anyValue depth).afterColon.map fun value => found ++ [⟨name, value⟩]

theorem anyValueForm (depth : Nat) : anyValue depth = bracketed (match depth with
    | 0 => none
    | below + 1 => some (anyValue below)) := by
  cases depth <;> rfl

theorem anyParts (depth : Nat) (text : Text) : (anyValue depth).read text = starting (fun c rest =>
    if c = '[' then opened depth c rest fun below rest => (items (anyValue below) true rest).map .array
    else if c = '\x7b' then opened depth c rest fun below rest => (members (keeping below) [] true rest).map .object
    else ofScan (scalar (c :: rest))) text := by
  rw [anyValueForm]
  refine congrArg (starting · text) (funext fun c => funext fun rest => ?_)
  by_cases list : c = '['
  · subst list
    cases depth <;> rfl
  · by_cases object : c = '\x7b'
    · subst object
      cases depth <;> rfl
    · rw [if_neg (by simp [list, object]), if_neg list, if_neg object]

end TypeLens.Json
