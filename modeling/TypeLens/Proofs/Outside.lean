import TypeLens.Proofs.Text
import Mathlib.Tactic.Ring

/-! Separators outside brackets. A text is taken apart into what stands in brackets, where bars do not count, and
what stands outside, where each bar belongs to a separator. -/
namespace TypeLens

def isOpening (c : Char) : Bool := c == '<' || c == '(' || c == '{'

def isClosing (c : Char) : Bool := c == '>' || c == ')' || c == '}'

def separator : Text := " | "

def outerSeparators (depth : Nat) : Text → Nat
  | [] => 0
  | c :: text => (if depth = 0 ∧ separator.isPrefixOf (c :: text) then 1 else 0) +
      outerSeparators (if isOpening c then depth + 1 else if isClosing c then depth - 1 else depth) text

def Free (c : Char) : Prop := isOpening c = false ∧ isClosing c = false ∧ c ≠ '|'

instance : DecidablePred Free := fun c =>
  inferInstanceAs (Decidable (isOpening c = false ∧ isClosing c = false ∧ c ≠ '|'))

@[simp] theorem freeIff {c : Char} : Free c ↔ c ∉ ['|', '<', '>', '(', ')', '{', '}'] := by
  simp [Free, isOpening, isClosing]
  tauto

-- What may stand in brackets: it closes those that it opens, and no others.
inductive Enclosed : Text → Prop where
  | nil : Enclosed []
  | char {c text} (noBracket : isOpening c = false ∧ isClosing c = false) (rest : Enclosed text) : Enclosed (c :: text)
  | nest {opening body closing text} (opens : isOpening opening) (inside : Enclosed body) (closes : isClosing closing)
      (rest : Enclosed text) : Enclosed (opening :: (body ++ closing :: text))

inductive Outside : Text → Nat → Prop where
  | nil : Outside [] 0
  | char {c text n} (free : Free c) (rest : Outside text n) : Outside (c :: text) n
  | nest {opening body closing text n} (opens : isOpening opening) (inside : Enclosed body) (closes : isClosing closing)
      (rest : Outside text n) : Outside (opening :: (body ++ closing :: text)) n
  | mark {text n} (rest : Outside text n) : Outside (' ' :: '|' :: ' ' :: text) (n + 1)

theorem closingNotOpening {c : Char} (closes : isClosing c) : isOpening c = false := by
  simp only [isClosing, Bool.or_eq_true, beq_iff_eq] at closes
  rcases closes with (rfl | rfl) | rfl <;> rfl

theorem openingVisible {c : Char} (opens : isOpening c) : Text.isBlank c = false := by
  simp only [isOpening, Bool.or_eq_true, beq_iff_eq] at opens
  rcases opens with (rfl | rfl) | rfl <;> rfl

namespace Enclosed

variable {text next : Text}

theorem append (enclosed : Enclosed text) (then_ : Enclosed next) : Enclosed (text ++ next) := by
  induction enclosed with
  | nil => exact then_
  | char noBracket _ ih => exact .char noBracket ih
  | nest opens inside closes _ _ ih => simpa using Enclosed.nest opens inside closes ih

theorem ofFree (free : ∀ c ∈ text, Free c) : Enclosed text := by
  induction text with
  | nil => exact .nil
  | cons c text ih =>
    obtain ⟨⟨notOpening, notClosing, _⟩, rest⟩ := List.forall_mem_cons.mp free
    exact .char ⟨notOpening, notClosing⟩ (ih rest)

theorem after (start : Text) (enclosed : Enclosed text) (free : ∀ c ∈ start, Free c) : Enclosed (start ++ text) :=
  (ofFree free).append enclosed

theorem before (enclosed : Enclosed text) (stop : Text) (free : ∀ c ∈ stop, Free c) : Enclosed (text ++ stop) :=
  enclosed.append (ofFree free)

theorem dropBlanks (enclosed : Enclosed text) : Enclosed (text.dropWhile Text.isBlank) := by
  induction enclosed with
  | nil => exact .nil
  | @char c text noBracket rest ih =>
    by_cases blank : Text.isBlank c
    · rw [List.dropWhile_cons_of_pos blank]
      exact ih
    · rw [List.dropWhile_cons_of_neg blank]
      exact .char noBracket rest
  | @nest opening _ _ _ opens inside closes rest =>
    rw [List.dropWhile_cons_of_neg (by simp [openingVisible opens])]
    exact .nest opens inside closes rest

theorem joined {glue : Text} (glues : Enclosed glue) {texts : List Text} (each : ∀ text ∈ texts, Enclosed text) :
    Enclosed (Text.joined glue texts) := by
  have further {texts : List Text} (each : ∀ text ∈ texts, Enclosed text) : Enclosed (texts.flatMap (glue ++ ·)) := by
    induction texts with
    | nil => exact .nil
    | cons text texts ih =>
      rw [List.flatMap_cons]
      exact (glues.append (each text List.mem_cons_self)).append
        (ih fun text later => each text (List.mem_cons_of_mem _ later))
  cases texts with
  | nil => exact .nil
  | cons text texts =>
    rw [Text.joinedCons]
    exact (each text List.mem_cons_self).append (further fun text later => each text (List.mem_cons_of_mem _ later))

theorem skipped (enclosed : Enclosed text) (depth : Nat) (rest : Text) :
    outerSeparators (depth + 1) (text ++ rest) = outerSeparators (depth + 1) rest := by
  -- Any depth below a bracket, since a body in brackets lies one bracket deeper.
  induction enclosed generalizing depth rest with
  | nil => rfl
  | char noBracket _ ih => simp [outerSeparators, noBracket.1, noBracket.2, ih]
  | @nest opening body closing text opens _ closes _ inner outer =>
    simp only [List.cons_append, List.append_assoc, outerSeparators, opens, if_true, inner, closes,
      closingNotOpening closes]
    simpa using outer depth rest

end Enclosed

namespace Outside

variable {text next : Text} {n m : Nat}

theorem append (outside : Outside text n) (then_ : Outside next m) : Outside (text ++ next) (n + m) := by
  induction outside with
  | nil => simpa using then_
  | char free _ ih => exact .char free ih
  | nest opens inside closes _ ih => simpa using Outside.nest opens inside closes ih
  | mark _ ih =>
    rw [Nat.add_right_comm]
    exact .mark ih

theorem ofFree (free : ∀ c ∈ text, Free c) : Outside text 0 := by
  induction text with
  | nil => exact .nil
  | cons c text ih =>
    obtain ⟨first, rest⟩ := List.forall_mem_cons.mp free
    exact .char first (ih rest)

theorem enclosed (outside : Outside text n) : Enclosed text := by
  induction outside with
  | nil => exact .nil
  | char free _ ih => exact .char ⟨free.1, free.2.1⟩ ih
  | nest opens inside closes _ ih => exact .nest opens inside closes ih
  | mark _ ih => exact .char (by decide) (.char (by decide) (.char (by decide) ih))

theorem wrapped {start body : Text} (opening closing : Char) (free : ∀ c ∈ start, Free c) (enclosed : Enclosed body)
    (opens : isOpening opening) (closes : isClosing closing) :
    Outside (start ++ opening :: (body ++ [closing])) 0 := (ofFree free).append (.nest opens enclosed closes .nil)

theorem joined {glue : Text} (glues : Outside glue m) {text : Text} {count : Nat} {texts : List Text}
    {counts : List Nat} (first : Outside text count) (each : List.Forall₂ Outside texts counts) :
    Outside (Text.joined glue (text :: texts)) (count + counts.sum + m * texts.length) := by
  have further : Outside (texts.flatMap (glue ++ ·)) (counts.sum + m * texts.length) := by
    induction each with
    | nil => exact .nil
    | @cons text count texts counts first _ ih =>
      have whole := (glues.append first).append ih
      rw [List.flatMap_cons, List.sum_cons, List.length_cons]
      convert whole using 1
      ring
  rw [Text.joinedCons, Nat.add_assoc]
  exact first.append further

theorem noBarFirst (outside : Outside text n) : text.head? ≠ some '|' := by
  cases outside with
  | nil => simp
  | char free => simpa using free.2.2
  | nest opens =>
    intro same
    cases same
    cases opens
  | mark => simp

theorem noSeparator {c : Char} (noBar : text.head? ≠ some '|') : separator.isPrefixOf (c :: text) = false := by
  cases text with
  | nil => simp [separator, List.isPrefixOf]
  | cons d text =>
    have other : ('|' == d) = false := beq_eq_false_iff_ne.mpr fun same => noBar (same ▸ rfl)
    simp [separator, List.isPrefixOf, other]

theorem separators (outside : Outside text n) : outerSeparators 0 text = n := by
  induction outside with
  | nil => rfl
  | char free rest ih =>
    rw [outerSeparators, noSeparator rest.noBarFirst, free.1, free.2.1]
    simpa using ih
  | @nest opening body closing text n opens inside closes _ ih =>
    have start : separator.isPrefixOf (opening :: (body ++ closing :: text)) = false := by
      simp only [isOpening, Bool.or_eq_true, beq_iff_eq] at opens
      rcases opens with (rfl | rfl) | rfl <;> rfl
    rw [outerSeparators, start, opens, if_pos rfl, inside.skipped, outerSeparators, closingNotOpening closes, closes]
    simpa using ih
  | @mark text n rest ih =>
    have first : separator.isPrefixOf (' ' :: '|' :: ' ' :: text) = true := rfl
    have second : separator.isPrefixOf ('|' :: ' ' :: text) = false := rfl
    have third : separator.isPrefixOf (' ' :: text) = false := noSeparator rest.noBarFirst
    have count : outerSeparators 0 (' ' :: '|' :: ' ' :: text) = 1 + outerSeparators 0 text := by
      simp [outerSeparators, first, second, third, isOpening, isClosing]
    rw [count, ih, Nat.add_comm]

end Outside

end TypeLens
