import TypeLens.Proofs.Text

/-! Texts with places in them. A template says what stands around the places and in which order they come; each is
filled once, and nothing else is filled in. -/
namespace TypeLens

abbrev Template := List (Option Char)

namespace Template

def fixed (text : Text) : Template := text.map some

def place : Template := [none]

def joined (separator : Text) : List Template → Template
  | [] => []
  | template :: templates => template ++ templates.flatMap (fixed separator ++ ·)

inductive Fills : Template → List Text → Text → Prop where
  | nil : Fills [] [] []
  | char (c : Char) {template texts whole} (rest : Fills template texts whole) :
      Fills (some c :: template) texts (c :: whole)
  | text (text : Text) {template texts whole} (rest : Fills template texts whole) :
      Fills (none :: template) (text :: texts) (text ++ whole)

inductive FillsEach : List Template → List Text → List Text → Prop where
  | nil : FillsEach [] [] []
  | cons {template texts whole templates more wholes} (first : Fills template texts whole)
      (rest : FillsEach templates more wholes) :
      FillsEach (template :: templates) (texts ++ more) (whole :: wholes)

def parted : Template → Text × List Text
  | [] => ([], [])
  | some c :: template => (c :: (parted template).1, (parted template).2)
  | none :: template => ([], (parted template).1 :: (parted template).2)

namespace Fills

variable {template next : Template} {texts more : List Text} {whole rest : Text}

theorem ofFixed (text : Text) : Fills (fixed text) [] text := by
  induction text with
  | nil => exact .nil
  | cons c text ih => exact .char c ih

theorem ofPlace (text : Text) : Fills place [text] text := by
  have filled := Fills.text text .nil
  rwa [List.append_nil] at filled

theorem append (filled : Fills template texts whole) (then_ : Fills next more rest) :
    Fills (template ++ next) (texts ++ more) (whole ++ rest) := by
  induction filled with
  | nil => exact then_
  | char c _ ih => exact .char c ih
  | text text _ ih =>
    rw [List.append_assoc]
    exact .text text ih

theorem after (start : Text) (filled : Fills template texts whole) :
    Fills (fixed start ++ template) texts (start ++ whole) := (ofFixed start).append filled

theorem before (filled : Fills template texts whole) (stop : Text) :
    Fills (template ++ fixed stop) texts (whole ++ stop) := by
  have stopped := filled.append (ofFixed stop)
  rwa [List.append_nil] at stopped

theorem ofParted (filled : Fills template texts whole) : template.parted.2.length = texts.length ∧
    whole = template.parted.1 ++ (List.zipWith (· ++ ·) texts template.parted.2).flatten := by
  induction filled with
  | nil => exact ⟨rfl, rfl⟩
  | char c _ ih => exact ⟨ih.1, congrArg (c :: ·) ih.2⟩
  | @text text template texts whole _ ih =>
    obtain ⟨length, same⟩ := ih
    refine ⟨congrArg (· + 1) length, ?_⟩
    rw [same]
    simp [parted]

end Fills

namespace FillsEach

variable {templates : List Template} {texts wholes : List Text}

theorem ofItems {α : Type} {items : List α} {template : α → Template} {texts : α → List Text} {render : α → Text}
    (each : ∀ item ∈ items, Fills (template item) (texts item) (render item)) :
    FillsEach (items.map template) (items.flatMap texts) (items.map render) := by
  induction items with
  | nil => exact .nil
  | cons item items ih =>
    obtain ⟨first, later⟩ := List.forall_mem_cons.mp each
    exact .cons first (ih later)

theorem joined (separator : Text) (filled : FillsEach templates texts wholes) :
    Fills (Template.joined separator templates) texts (Text.joined separator wholes) := by
  have further {templates texts wholes} (filled : FillsEach templates texts wholes) :
      Fills (templates.flatMap (fixed separator ++ ·)) texts (wholes.flatMap (separator ++ ·)) := by
    induction filled with
    | nil => exact .nil
    | cons first _ ih => exact (first.after separator).append ih
  cases filled with
  | nil => exact .nil
  | cons first rest =>
    rw [Text.joinedCons]
    exact first.append (further rest)

end FillsEach
end Template
end TypeLens
