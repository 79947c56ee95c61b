import TypeLens.Proofs.Text

/-! Texts that are told apart from the front: a word by the character behind it, the items of a list by what may
follow an item. -/
namespace TypeLens

def isWordChar (c : Char) : Bool := c.isAlphanum || c == '_' || c == '-'

def isClassChar (c : Char) : Bool := isWordChar c || c == '\\'

def Word (text : Text) : Prop := text ≠ [] ∧ ∀ c ∈ text, isWordChar c

def Follows (marks : List Char) (rest : Text) : Prop := ∀ c ∈ rest.head?, c ∈ marks

theorem followsCons {marks : List Char} {c : Char} (rest : Text) (mark : c ∈ marks) : Follows marks (c :: rest) := by
  rintro _ ⟨⟩
  exact mark

theorem followsMore {marks more : List Char} {rest : Text} (follows : Follows marks rest)
    (all : ∀ c ∈ marks, c ∈ more) : Follows more rest := fun c first => all c (follows c first)

theorem wordApart {holds : Char → Bool} {word word' rest rest' : Text} (all : ∀ c ∈ word, holds c)
    (all' : ∀ c ∈ word', holds c) (ends : ∀ c ∈ rest.head?, holds c = false)
    (ends' : ∀ c ∈ rest'.head?, holds c = false) (same : word ++ rest = word' ++ rest') :
    word = word' ∧ rest = rest' := by
  have taken {word rest : Text} (all : ∀ c ∈ word, holds c) (ends : ∀ c ∈ rest.head?, holds c = false) :
      (word ++ rest).takeWhile holds = word := by
    rw [List.takeWhile_append_of_pos all]
    cases rest with
    | nil => simp
    | cons c rest => simp [ends c rfl]
  have word : word = word' := by rw [← taken all ends, same, taken all' ends']
  subst word
  exact ⟨rfl, List.append_cancel_left same⟩

section
variable {α : Type} {separator : Text} {render : α → Text} {marks : List Char} {items items' : List α}
  {rest rest' : Text}

theorem followsSeparated (goesOn : ∀ text, Follows marks (separator ++ text)) (ends : Follows marks rest) :
    Follows marks (items.flatMap (fun item => separator ++ render item) ++ rest) := by
  cases items with
  | nil => exact ends
  | cons item items =>
    rw [List.flatMap_cons, List.append_assoc, List.append_assoc]
    exact goesOn _

theorem separatedApart (each : ∀ item ∈ items, ∀ item' ∈ items', ∀ rest rest', Follows marks rest →
      Follows marks rest' → render item ++ rest = render item' ++ rest' → item = item' ∧ rest = rest')
    (goesOn : ∀ text, Follows marks (separator ++ text)) (ends : Follows marks rest) (ends' : Follows marks rest')
    (stops : ∀ item ∈ items', ∀ text, rest ≠ separator ++ (render item ++ text))
    (stops' : ∀ item ∈ items, ∀ text, rest' ≠ separator ++ (render item ++ text))
    (same : items.flatMap (fun item => separator ++ render item) ++ rest =
      items'.flatMap (fun item => separator ++ render item) ++ rest') : items = items' ∧ rest = rest' := by
  induction items generalizing items' with
  | nil =>
    cases items' with
    | nil => exact ⟨rfl, same⟩
    | cons item' items' =>
      rw [List.flatMap_cons, List.append_assoc, List.append_assoc] at same
      exact absurd same (stops item' List.mem_cons_self _)
  | cons item items ih =>
    cases items' with
    | nil =>
      rw [List.flatMap_cons, List.append_assoc, List.append_assoc] at same
      exact absurd same.symm (stops' item List.mem_cons_self _)
    | cons item' items' =>
      simp only [List.flatMap_cons, List.append_assoc] at same
      obtain ⟨rfl, further⟩ := each item List.mem_cons_self item' List.mem_cons_self _ _
        (followsSeparated goesOn ends) (followsSeparated goesOn ends') (List.append_cancel_left same)
      obtain ⟨rfl, rest⟩ := ih (fun item inside item' inside' =>
        each item (List.mem_cons_of_mem _ inside) item' (List.mem_cons_of_mem _ inside'))
        (fun item inside => stops item (List.mem_cons_of_mem _ inside))
        (fun item inside => stops' item (List.mem_cons_of_mem _ inside)) further
      exact ⟨rfl, rest⟩

theorem joinedForm (separator : Text) {items : List α} (some_ : items ≠ []) :
    separator ++ Text.joined separator (items.map render) = items.flatMap fun item => separator ++ render item := by
  cases items with
  | nil => exact absurd rfl some_
  | cons item items =>
    rw [List.map_cons, Text.joinedCons, List.flatMap_map, List.flatMap_cons, List.append_assoc]

theorem joinedApart (each : ∀ item ∈ items, ∀ item' ∈ items', ∀ rest rest', Follows marks rest →
      Follows marks rest' → render item ++ rest = render item' ++ rest' → item = item' ∧ rest = rest')
    (some_ : items ≠ []) (some' : items' ≠ [])
    (goesOn : ∀ text, Follows marks (separator ++ text)) (ends : Follows marks rest) (ends' : Follows marks rest')
    (stops : ∀ item ∈ items', ∀ text, rest ≠ separator ++ (render item ++ text))
    (stops' : ∀ item ∈ items, ∀ text, rest' ≠ separator ++ (render item ++ text))
    (same : Text.joined separator (items.map render) ++ rest = Text.joined separator (items'.map render) ++ rest') :
    items = items' ∧ rest = rest' := by
  refine separatedApart each goesOn ends ends' stops stops' ?_
  rw [← joinedForm separator some_, ← joinedForm separator some', List.append_assoc, same, List.append_assoc]

end
end TypeLens
