import TypeLens.Json.Fault

/-! Reading a text from its front. A reader ends in one of three ways: with a value and the rest
of the text; with a refusal, which still has to get its place; or with a failure, which has it.
A value never comes for nothing: what is left is shorter. -/
namespace TypeLens.Json

structure Failure where
  problem : Problem
  left : Nat

namespace Failure

def before (problem : Problem) (rest : Text) : Failure := ⟨problem, rest.byteSize⟩

def inside (problem : Problem) (rest : Text) : Failure := ⟨problem, rest.byteSize - 1⟩

def ofSyntax (fault : SyntaxFault) (rest : Text) : Failure := inside (.syntaxFault fault) rest

def atEnd (what : Unfinished) : Failure := ⟨.unfinished what, 0⟩

end Failure

inductive Reading (α : Type) where
  | ok (value : α) (rest : Text)
  | refused (refusal : Refusal) (rest : Text)
  | failed (failure : Failure)

variable {α β : Type}

namespace Reading

def map (f : α → β) : Reading α → Reading β
  | ok value rest => ok (f value) rest
  | refused refusal rest => refused refusal rest
  | failed failure => failed failure

def ofScan : Except Failure (α × Text) → Reading α
  | .ok (value, rest) => ok value rest
  | .error failure => failed failure

def placed : Reading α → Reading α
  | refused refusal rest => failed (.before (.refused refusal) rest)
  | reading => reading

def refine (check : α → Except Refusal β) : Reading α → Reading β
  | ok value rest => match check value with
    | .ok result => ok result rest
    | .error refusal => refused refusal rest
  | refused refusal rest => refused refusal rest
  | failed failure => failed failure

theorem mapOk {f : α → β} {reading : Reading α} {value rest} (h : reading.map f = ok value rest) :
    ∃ source, reading = ok source rest ∧ f source = value := by
  cases reading <;> simp_all [map]

theorem placedOk {reading : Reading α} {value rest} (h : reading.placed = ok value rest) :
    reading = ok value rest := by
  cases reading <;> simp_all [placed]

theorem refineOk {check : α → Except Refusal β} {reading : Reading α} {value rest}
    (h : reading.refine check = ok value rest) :
    ∃ source, reading = ok source rest ∧ check source = .ok value := by
  cases reading with
  | ok source left =>
    simp only [refine] at h
    split at h
    · next result checked => cases h; exact ⟨source, rfl, checked⟩
    · cases h
  | refused => cases h
  | failed => cases h

theorem ofScanOk {scan : Except Failure (α × Text)} {value rest} (h : ofScan scan = ok value rest) :
    scan = .ok (value, rest) := by
  cases scan with
  | error => cases h
  | ok pair => cases h; rfl

end Reading

structure Reader (α : Type) where
  read : Text → Reading α
  consumes : ∀ {text value rest}, read text = .ok value rest → rest.length < text.length

namespace Reader

def map (f : α → β) (reader : Reader α) : Reader β where
  read text := (reader.read text).map f
  consumes h := by
    obtain ⟨_, source, _⟩ := Reading.mapOk h
    exact reader.consumes source

def placed (reader : Reader α) : Reader α where
  read text := (reader.read text).placed
  consumes h := reader.consumes (Reading.placedOk h)

def refine (check : α → Except Refusal β) (reader : Reader α) : Reader β where
  read text := (reader.read text).refine check
  consumes h := by
    obtain ⟨_, source, _⟩ := Reading.refineOk h
    exact reader.consumes source

def refuse (refusal : Refusal) : Reader α where
  read text := .refused refusal text
  consumes h := by cases h

end Reader

theorem bindOk {ε : Type} {scan : Except ε α} {next : α → Except ε β} {result : β}
    (h : (scan >>= next) = .ok result) : ∃ value, scan = .ok value ∧ next value = .ok result := by
  cases scan with
  | error => cases h
  | ok value => exact ⟨value, rfl, h⟩

theorem mapOk {ε : Type} {scan : Except ε α} {f : α → β} {result : β}
    (h : scan.map f = .ok result) : ∃ value, scan = .ok value ∧ f value = result := by
  cases scan with
  | error => cases h
  | ok value => cases h; exact ⟨value, rfl, rfl⟩

def isBlank (c : Char) : Bool := c == ' ' || c == '\n' || c == '\t' || c == '\r'

def skipBlanks (text : Text) : Text := text.dropWhile isBlank

theorem skipBlanksLe (text : Text) : (skipBlanks text).length ≤ text.length :=
  (List.dropWhile_sublist isBlank).length_le

theorem skipBlanksCons {text rest : Text} {c : Char} (h : skipBlanks text = c :: rest) :
    rest.length < text.length := by
  have le := skipBlanksLe text
  rw [h, List.length_cons] at le
  omega

def spell : Text → Text → Except Failure Text
  | [], text => .ok text
  | _ :: _, [] => .error (.atEnd .value)
  | letter :: letters, c :: rest =>
    if c = letter then spell letters rest else .error (.ofSyntax .unknownWord (c :: rest))

theorem spellLe {letters text rest : Text} (h : spell letters text = .ok rest) : rest.length ≤ text.length := by
  induction letters generalizing text with
  | nil => cases h; exact Nat.le_refl _
  | cons letter letters ih =>
    cases text with
    | nil => cases h
    | cons c text =>
      simp only [spell] at h
      split at h
      · exact Nat.le_succ_of_le (ih h)
      · cases h

end TypeLens.Json
