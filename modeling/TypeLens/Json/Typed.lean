import TypeLens.Json.AnyValue
import TypeLens.Json.Skip

/-! Readers of values whose type is known beforehand. They take the text as it comes, so what is
wrong first is told first. -/
namespace TypeLens.Json

variable {α σ : Type}

def mismatch (expected : Expected) (text : Text) : Failure :=
  match text with
  | [] => .atEnd .value
  | c :: _ =>
    if c = '[' then .before (.refused (.wrongType .sequence expected)) text
    else if c = '\x7b' then .before (.refused (.wrongType .map expected)) text
    else match scalar text with
      | .error failure => failure
      | .ok (value, rest) => .before (.refused (.wrongType (.of value) expected)) rest

def textAs (expected : Expected) : Reader Text where
  read text :=
    match skipBlanks text with
    | [] => .failed (.atEnd .value)
    | c :: rest =>
      if c = '"' then .ofScan (characters rest) else .failed (mismatch expected (c :: rest))
  consumes {text value rest} h := by
    split at h
    · cases h
    · next c tail blank =>
      split at h
      · exact Nat.lt_trans (charactersLt (Reading.ofScanOk h)) (skipBlanksCons blank)
      · cases h

def text : Reader Text := textAs .text

def countOf : Value → Except Refusal UInt64
  | .integer value => if value < 0 then .error (.negativeCount value) else .ok (UInt64.ofNat value.toNat)
  | value => .error (.wrongType (.of value) .count)

def count : Reader UInt64 where
  read text :=
    match skipBlanks text with
    | [] => .failed (.atEnd .value)
    | c :: rest =>
      if startsNumber c then ((Reading.ofScan (number (c :: rest))).refine countOf).placed
      else .failed (mismatch .count (c :: rest))
  consumes {text value rest} h := by
    split at h
    · cases h
    · next c tail blank =>
      split at h
      · obtain ⟨_, read, _⟩ := Reading.refineOk (Reading.placedOk h)
        have := numberLt (Reading.ofScanOk read)
        have := skipBlanksLe text
        rw [blank] at this
        omega
      · cases h

def orNull (reader : Reader α) : Reader (Option α) where
  read text :=
    match skipBlanks text with
    | 'n' :: rest => .ofScan ((spell "ull" rest).map fun rest => (none, rest))
    | _ => (reader.read text).map some
  consumes {text value rest} h := by
    split at h
    · next tail blank =>
      obtain ⟨left, read, same⟩ := mapOk (Reading.ofScanOk h)
      cases same
      have := spellLe read
      have := skipBlanksCons blank
      omega
    · obtain ⟨_, read, _⟩ := Reading.mapOk h
      exact reader.consumes read

def opening (depth : Nat) (bracket : Char) (text : Text) (inner : Nat → Text → Reading α) : Reading α :=
  match depth with
  | 0 => .failed (.ofSyntax .tooDeep (bracket :: text))
  | depth + 1 => (inner depth text).placed

theorem openingLt {depth : Nat} {bracket : Char} {text : Text} {inner : Nat → Text → Reading α} {value rest}
    (shrinks : ∀ {depth}, inner depth text = .ok value rest → rest.length < text.length)
    (h : opening depth bracket text inner = .ok value rest) : rest.length < text.length := by
  cases depth with
  | zero => cases h
  | succ depth => exact shrinks (Reading.placedOk h)

def listOf (item : Nat → Reader α) (depth : Nat) : Reader (List α) where
  read text :=
    match skipBlanks text with
    | [] => .failed (.atEnd .value)
    | c :: rest =>
      if c = '[' then opening depth c rest fun depth rest => items (item depth) true rest
      else .failed (mismatch .sequence (c :: rest))
  consumes {text value rest} h := by
    split at h
    · cases h
    · next c tail blank =>
      split at h
      · have := openingLt itemsLt h
        have := skipBlanksCons blank
        omega
      · cases h

structure Slot (σ : Type) where
  name : Text
  filled : σ → Bool
  fill : Nat → Reader (σ → σ)

inductive Form where
  | positional | named

def Record.missing (record : Record) (form : Form) (name : Text) : Refusal :=
  match form with
  | .positional => .tooFew (record.position name) record
  | .named => .missingField name

structure Schema (σ α : Type) where
  record : Record
  blank : σ
  slots : List (Slot σ)
  complete : (missing : Text → Refusal) → σ → Except Refusal α

namespace Schema

def member (schema : Schema σ α) (depth : Nat) (draft : σ) (name : Text) : Reader σ :=
  match schema.slots.find? fun slot => slot.name = name with
  | none => skipped.afterColon.map fun _ => draft
  | some slot =>
    if slot.filled draft then .refuse (.duplicateField name)
    else (slot.fill depth).afterColon.map fun fill => fill draft

def items (depth : Nat) (first : Bool) (draft : σ) : List (Slot σ) → Text → Reading σ
  | [], text => match closeList text with
    | .ok rest => .ok draft rest
    | .error failure => .failed failure
  | slot :: slots, text =>
    match nextItem first text with
    | .error failure => .failed failure
    | .ok (.close rest) => .ok draft rest
    | .ok (.item start) => match (slot.fill depth).read start with
      | .ok fill rest => items depth false (fill draft) slots rest
      | .refused refusal rest => .refused refusal (leaveList rest)
      | .failed failure => .failed failure

theorem itemsLt {depth : Nat} {first : Bool} {draft final : σ} {slots : List (Slot σ)} {text rest : Text}
    (h : items depth first draft slots text = .ok final rest) : rest.length < text.length := by
  induction slots generalizing first draft text with
  | nil =>
    simp only [items] at h
    split at h
    · next closed => cases h; exact closeListLt closed
    · cases h
  | cons slot slots ih =>
    simp only [items] at h
    split at h
    · cases h
    · next closed => cases h; exact nextItemCloseLt closed
    · next start next =>
      split at h
      · next read =>
        have := nextItemLe next
        have := (slot.fill depth).consumes read
        have := ih h
        omega
      · cases h
      · cases h

def reader (schema : Schema σ α) (depth : Nat) : Reader α where
  read text :=
    match skipBlanks text with
    | [] => .failed (.atEnd .value)
    | c :: rest =>
      if c = '[' then
        opening depth c rest fun depth rest =>
          (items depth true schema.blank schema.slots rest).refine
            (schema.complete (schema.record.missing .positional))
      else if c = '\x7b' then
        opening depth c rest fun depth rest =>
          (members (schema.member depth) schema.blank true rest).refine
            (schema.complete (schema.record.missing .named))
      else .failed (mismatch (.record schema.record) (c :: rest))
  consumes {text value rest} h := by
    split at h
    · cases h
    · next c tail blank =>
      have := skipBlanksCons blank
      split at h
      · have := openingLt (fun h => itemsLt (Reading.refineOk h).choose_spec.1) h
        omega
      · split at h
        · have := openingLt (fun h => membersLt (Reading.refineOk h).choose_spec.1) h
          omega
        · cases h

end Schema

def nestingLimit : Nat := 127

def decode (reader : Reader α) (text : Text) : Except ReadError α :=
  let placed (failure : Failure) : ReadError :=
    ⟨failure.problem, some (Place.after ⟨1, 0⟩ (text.byteSize - failure.left) text)⟩
  match reader.read text with
  | .ok value rest =>
    match skipBlanks rest with
    | [] => .ok value
    | rest => .error (placed (.ofSyntax .trailingCharacters rest))
  | .refused refusal _ => .error ⟨.refused refusal, none⟩
  | .failed failure => .error (placed failure)

end TypeLens.Json
