import TypeLens.Text.Blank
import Mathlib.Algebra.GroupWithZero.Nat
import Mathlib.Data.List.Forall2

/-! Lists that belong together item by item, joined texts, and texts that are trimmed around a character that is
no blank. -/
namespace TypeLens

theorem mappedAlike {α β γ : Type} {Alike : β → γ → Prop} {items : List α} {left : α → β} {right : α → γ}
    (each : ∀ item ∈ items, Alike (left item) (right item)) :
    List.Forall₂ Alike (items.map left) (items.map right) :=
  List.forall₂_map_left_iff.mpr (List.forall₂_map_right_iff.mpr (List.forall₂_same.mpr each))

theorem mappedEqual {α β : Type} {Related : α → α → Prop} {left right : α → β} {items items' : List α}
    (related : List.Forall₂ Related items items')
    (equal : ∀ item ∈ items, ∀ item', Related item item' → left item = right item') :
    items.map left = items'.map right := by
  induction related with
  | nil => rfl
  | cons first _ ih =>
    obtain ⟨equalFirst, equalLater⟩ := List.forall_mem_cons.mp equal
    rw [List.map_cons, List.map_cons, equalFirst _ first, ih equalLater]

theorem sumFlatMap {α β : Type} (inside : α → List β) (count : β → Nat) (items : List α) :
    ((items.flatMap inside).map count).sum = (items.map fun item => ((inside item).map count).sum).sum := by
  induction items with
  | nil => rfl
  | cons item items ih => rw [List.flatMap_cons, List.map_append, List.sum_append, ih, List.map_cons, List.sum_cons]

namespace Text

def trimEnd (text : Text) : Text := (text.reverse.dropWhile isBlank).reverse

theorem ofTrimEnd {text : Text} {c : Char} (member : c ∈ text.trimEnd) : c ∈ text := by
  have inside : c ∈ text.reverse.dropWhile isBlank := by simpa [trimEnd] using member
  exact List.mem_reverse.mp ((List.dropWhile_sublist isBlank).mem inside)

theorem dollarVisible : isBlank '$' = false := by decide

theorem trimAround (before name : Text) :
    trim (before ++ '$' :: name) = before.dropWhile isBlank ++ '$' :: name.trimEnd := by
  have front : (before ++ '$' :: name).dropWhile isBlank = before.dropWhile isBlank ++ '$' :: name := by
    rw [List.dropWhile_append]
    split
    · next none => simp_all [dollarVisible]
    · rfl
  have back : (name.reverse ++ '$' :: (before.dropWhile isBlank).reverse).dropWhile isBlank =
      name.reverse.dropWhile isBlank ++ '$' :: (before.dropWhile isBlank).reverse := by
    rw [List.dropWhile_append]
    split
    · next none => simp_all [dollarVisible]
    · rfl
  simp [trim, strip, front, back, trimEnd]

theorem joinedCons (separator text : Text) (texts : List Text) :
    joined separator (text :: texts) = text ++ texts.flatMap (separator ++ ·) := by
  induction texts generalizing text with
  | nil => simp [joined]
  | cons next texts ih =>
    rw [List.flatMap_cons, List.append_assoc, ← ih next]
    simp [joined, List.intercalate]

end Text
end TypeLens
