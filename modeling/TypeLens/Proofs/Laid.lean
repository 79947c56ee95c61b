import TypeLens.Proofs.Text
import TypeLens.Rendering

/-! Texts that are laid out by braces. New lines come only behind an opened brace and behind a comma, and each is
indented by the braces that are open there. -/
namespace TypeLens

open Rendering

def openBraces (n : Nat) : Text → Nat
  | [] => n
  | c :: text => openBraces (if c = '{' then n + 1 else if c = '}' then n - 1 else n) text

def Neutral (c : Char) : Prop := c ≠ '\n' ∧ c ≠ '\t' ∧ c ≠ '{' ∧ c ≠ '}'

@[simp] theorem neutralIff {c : Char} : Neutral c ↔ c ≠ '\n' ∧ c ≠ '\t' ∧ c ≠ '{' ∧ c ≠ '}' := Iff.rfl

instance : DecidablePred Neutral := fun c => inferInstanceAs (Decidable (c ≠ '\n' ∧ c ≠ '\t' ∧ c ≠ '{' ∧ c ≠ '}'))

/-- A text that is laid out between `n` open braces in front and `m` behind, with a number of new lines. -/
inductive Laid : (n : Nat) → Text → (m : Nat) → (lines : Nat) → Prop where
  | nil (n) : Laid n [] n 0
  | neutral {n m lines c text} (neutral : Neutral c) (rest : Laid n text m lines) : Laid n (c :: text) m lines
  | opened {n m lines text} (rest : Laid (n + 1) text m lines) : Laid n ('{' :: text) m lines
  | closed {n m lines text} (rest : Laid n text m lines) : Laid (n + 1) ('}' :: text) m lines
  -- The character behind the tabs belongs to the rest, where it still closes what it closes.
  | line {n inside m lines mark indent c text} (behind : mark = ',' ∧ inside = n ∨ mark = '{' ∧ inside = n + 1)
      (indented : indent + (if c = '}' then 1 else 0) = inside) (starts : c ≠ '\t')
      (rest : Laid inside (c :: text) m lines) :
      Laid n (mark :: '\n' :: (tabs indent ++ c :: text)) m (lines + 1)

namespace Laid

variable {n m k lines more : Nat} {text next : Text}

theorem ofNeutral (neutral : ∀ c ∈ text, Neutral c) : Laid n text n 0 := by
  induction text with
  | nil => exact .nil n
  | cons c text ih =>
    obtain ⟨first, rest⟩ := List.forall_mem_cons.mp neutral
    exact .neutral first (ih rest)

theorem append (laid : Laid n text m lines) (then_ : Laid m next k more) :
    Laid n (text ++ next) k (lines + more) := by
  induction laid with
  | nil => simpa using then_
  | neutral free _ ih => exact .neutral free (ih then_)
  | opened _ ih => exact .opened (ih then_)
  | closed _ ih => exact .closed (ih then_)
  | @line n inside m lines mark indent c text behind indented starts _ ih =>
    have whole := Laid.line behind indented starts (ih then_)
    simpa [Nat.add_right_comm] using whole

theorem dropBlanks (laid : Laid n text m lines) : Laid n (text.dropWhile Text.isBlank) m lines := by
  induction laid with
  | nil n => exact .nil n
  | @neutral n m lines c text free rest ih =>
    by_cases blank : Text.isBlank c
    · rw [List.dropWhile_cons_of_pos blank]
      exact ih
    · rw [List.dropWhile_cons_of_neg blank]
      exact .neutral free rest
  | opened rest =>
    rw [List.dropWhile_cons_of_neg (by decide)]
    exact .opened rest
  | closed rest =>
    rw [List.dropWhile_cons_of_neg (by decide)]
    exact .closed rest
  | line behind indented starts rest =>
    rw [List.dropWhile_cons_of_neg (by rcases behind with ⟨rfl, _⟩ | ⟨rfl, _⟩ <;> decide)]
    exact .line behind indented starts rest

theorem joined {separator : Text} (separates : Laid n separator n 0) {texts : List Text} {counts : List Nat}
    (each : List.Forall₂ (fun text lines => Laid n text n lines) texts counts) :
    Laid n (Text.joined separator texts) n counts.sum := by
  have further {texts counts} (each : List.Forall₂ (fun text lines => Laid n text n lines) texts counts) :
      Laid n (texts.flatMap (separator ++ ·)) n counts.sum := by
    induction each with
    | nil => exact .nil n
    | cons first _ ih =>
      have whole := (separates.append first).append ih
      simpa using whole
  cases each with
  | nil => exact .nil n
  | cons first each =>
    rw [Text.joinedCons, List.sum_cons]
    exact first.append (further each)

theorem after (start : Text) (laid : Laid n text m lines) (neutral : ∀ c ∈ start, Neutral c) :
    Laid n (start ++ text) m lines := by
  have whole := (ofNeutral neutral).append laid
  rwa [Nat.zero_add] at whole

theorem before (laid : Laid n text m lines) (stop : Text) (neutral : ∀ c ∈ stop, Neutral c) :
    Laid n (text ++ stop) m lines := laid.append (ofNeutral neutral)

theorem list {α : Type} {items : List α} {render : α → Text} {count : α → Nat} (separator : Text)
    (each : ∀ item ∈ items, Laid n (render item) n (count item))
    (neutral : ∀ c ∈ separator, Neutral c) :
    Laid n (Text.joined separator (items.map render)) n (items.map count).sum :=
  joined (ofNeutral neutral) (mappedAlike each)

theorem newlines (laid : Laid n text m lines) : text.count '\n' = lines := by
  induction laid with
  | nil => rfl
  | neutral free _ ih => rw [List.count_cons_of_ne free.1, ih]
  | opened _ ih => rw [List.count_cons_of_ne (by decide), ih]
  | closed _ ih => rw [List.count_cons_of_ne (by decide), ih]
  | @line _ _ _ lines mark indent c text behind _ _ _ ih =>
    have other : mark ≠ '\n' := by rcases behind with ⟨rfl, _⟩ | ⟨rfl, _⟩ <;> decide
    have tabs : (tabs indent).count '\n' = 0 := by simp [Rendering.tabs, List.count_replicate]
    rw [List.count_cons_of_ne other, List.count_cons_self, List.count_append, tabs, ih, Nat.zero_add]

theorem ofTabs {indent : Nat} {c d : Char} {text before after : Text}
    (parted : tabs indent ++ c :: text = before ++ d :: after) :
    (d = '\t' ∧ ∃ i, before = tabs i) ∨ ∃ inner, before = tabs indent ++ inner ∧ c :: text = inner ++ d :: after := by
  rcases List.append_eq_append_iff.mp parted with ⟨inner, same, rest⟩ | ⟨inner, same, rest⟩
  · exact .inr ⟨inner, same, rest⟩
  · cases inner with
    | nil => exact .inr ⟨[], by simpa using same.symm, by simpa using rest.symm⟩
    | cons e inner =>
      cases rest
      have tab : d ∈ tabs indent := by simp [same]
      have filled := List.append_eq_replicate_iff.mp same.symm
      exact .inl ⟨(List.mem_replicate.mp tab).2, _, filled.2.1⟩

theorem openBracesTabs (n indent : Nat) (text : Text) : openBraces n (tabs indent ++ text) = openBraces n text := by
  induction indent with
  | zero => rfl
  | succ indent ih => exact ih

theorem lineIndented (laid : Laid n text m lines) {before after : Text} (parted : text = before ++ '\n' :: after) :
    (after.takeWhile (· = '\t')).length + (if (after.dropWhile (· = '\t')).head? = some '}' then 1 else 0) =
      openBraces n before := by
  induction laid generalizing before with
  | nil => simp at parted
  | neutral free _ ih =>
    cases before with
    | nil => cases parted; exact absurd rfl free.1
    | cons d before =>
      cases parted
      rw [ih rfl, openBraces, if_neg free.2.2.1, if_neg free.2.2.2]
  | opened _ ih =>
    cases before with
    | nil => cases parted
    | cons d before => cases parted; exact ih rfl
  | closed _ ih =>
    cases before with
    | nil => cases parted
    | cons d before => cases parted; exact ih rfl
  | @line n inside m lines mark indent c text behind indented starts rest ih =>
    cases before with
    | nil =>
      rcases behind with ⟨rfl, _⟩ | ⟨rfl, _⟩ <;> cases parted
    | cons d before =>
      have opens : openBraces n (mark :: before) = openBraces inside before := by
        rcases behind with ⟨rfl, rfl⟩ | ⟨rfl, rfl⟩ <;> rfl
      rw [List.cons_append, List.cons.injEq] at parted
      obtain ⟨rfl, parted⟩ := parted
      rw [opens]
      cases before with
      | nil =>
        rw [List.nil_append, List.cons.injEq] at parted
        obtain ⟨_, rfl⟩ := parted
        have all : ∀ t ∈ tabs indent, decide (t = '\t') = true := by simp [tabs]
        rw [List.takeWhile_append_of_pos all, List.dropWhile_append_of_pos all,
          List.takeWhile_cons_of_neg (by simpa using starts), List.dropWhile_cons_of_neg (by simpa using starts)]
        simpa [tabs, openBraces] using indented
      | cons e before =>
        rw [List.cons_append, List.cons.injEq] at parted
        obtain ⟨rfl, parted⟩ := parted
        rcases ofTabs parted with ⟨impossible, _⟩ | ⟨inner, rfl, left⟩
        · cases impossible
        · have same : openBraces inside ('\n' :: (tabs indent ++ inner)) = openBraces inside inner :=
            openBracesTabs inside indent inner
          rw [same]
          exact ih left

theorem tabIndents (laid : Laid n text m lines) {before after : Text} (parted : text = before ++ '\t' :: after) :
    ∃ start i, before = start ++ '\n' :: tabs i := by
  induction laid generalizing before with
  | nil => simp at parted
  | neutral free _ ih =>
    cases before with
    | nil => cases parted; exact absurd rfl free.2.1
    | cons d before =>
      cases parted
      obtain ⟨start, i, rfl⟩ := ih rfl
      exact ⟨_ :: start, i, rfl⟩
  | opened _ ih | closed _ ih =>
    cases before with
    | nil => cases parted
    | cons d before =>
      cases parted
      obtain ⟨start, i, rfl⟩ := ih rfl
      exact ⟨_ :: start, i, rfl⟩
  | @line n inside m lines mark indent c text behind indented starts rest ih =>
    cases before with
    | nil => rcases behind with ⟨rfl, _⟩ | ⟨rfl, _⟩ <;> cases parted
    | cons d before =>
      rw [List.cons_append, List.cons.injEq] at parted
      obtain ⟨rfl, parted⟩ := parted
      cases before with
      | nil => cases parted
      | cons e before =>
        rw [List.cons_append, List.cons.injEq] at parted
        obtain ⟨rfl, parted⟩ := parted
        rcases ofTabs parted with ⟨_, i, rfl⟩ | ⟨inner, rfl, left⟩
        · exact ⟨[mark], i, rfl⟩
        · obtain ⟨start, i, rfl⟩ := ih left
          exact ⟨mark :: '\n' :: (tabs indent ++ start), i, by simp⟩

end Laid

end TypeLens
