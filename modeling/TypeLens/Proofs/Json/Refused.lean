import TypeLens.Proofs.Json.Fields
import TypeLens.Proofs.Json.ReadsBack

/-! Refusals. What a reader refuses is well spelled, so every text of it is refused for the same reason; what stands
around it decides about the place alone. In a list, the first item that is refused counts. -/
namespace TypeLens.Json

variable {α β : Type}

inductive Reading.Tells (refusal : Refusal) : Reading α → Prop where
  | unplaced (rest) : Tells refusal (.refused refusal rest)
  | placed (left) : Tells refusal (.failed ⟨.refused refusal, left⟩)

theorem Reading.Tells.through {reading : Reading α} {refusal : Refusal} (told : reading.Tells refusal)
    (step : Reading α → Reading β) (unplaced : ∀ rest, (step (.refused refusal rest)).Tells refusal)
    (placed : ∀ failure, step (.failed failure) = .failed failure) : (step reading).Tells refusal := by
  cases told with
  | unplaced rest => exact unplaced rest
  | placed left => exact placed _ ▸ .placed left

def Refuses (reader : Nat → Reader α) (source : Value) (refusal : Refusal) : Prop :=
  ∀ before text, Blank before → Spells text source → ∀ depth rest, Ended rest → source.depth ≤ depth →
    ((reader depth).read (before ++ (text ++ rest))).Tells refusal

theorem Reads.refused {reader : Nat → Reader α} {source : Value} {found : α} {check : α → Except Refusal β}
    {refusal : Refusal} (reads : Reads reader source found) (fails : check found = .error refusal) :
    Refuses (fun depth => (reader depth).refine check) source refusal := by
  intro before text blank spelled depth rest ended fits
  have read := (reads before text blank spelled depth rest ended).ok fits
  simp only [Reader.refine, read, Reading.refine, fails]
  exact .unplaced rest

theorem Refuses.refined {reader : Nat → Reader α} {source : Value} {refusal : Refusal}
    (refuses : Refuses reader source refusal) (check : α → Except Refusal β) :
    Refuses (fun depth => (reader depth).refine check) source refusal := by
  intro before text blank spelled depth rest ended fits
  exact (refuses before text blank spelled depth rest ended fits).through (Reading.refine check) .unplaced fun _ => rfl

inductive FirstRefused (item : Nat → Reader α) (refusal : Refusal) : List Value → Prop where
  | here {source sources} (refuses : Refuses item source refusal) : FirstRefused item refusal (source :: sources)
  | later {source result sources} (reads : Reads item source result) (further : FirstRefused item refusal sources) :
      FirstRefused item refusal (source :: sources)

theorem itemRefused {item : Reader α} {first : Bool} {text start : Text} {refusal : Refusal}
    (next : nextItem first text = .ok (.item start)) (told : (item.read start).Tells refusal) :
    (items item first text).Tells refusal := by
  generalize found : item.read start = reading at told
  cases told with
  | unplaced rest =>
    rw [itemsOpened next, found]
    exact .unplaced _
  | placed left => exact itemsStopped next found ▸ .placed _

theorem itemPassed {item : Reader α} {first : Bool} {text start left : Text} {value : α} {refusal : Refusal}
    (next : nextItem first text = .ok (.item start)) (read : item.read start = .ok value left)
    (told : (items item false left).Tells refusal) : (items item first text).Tells refusal := by
  rw [itemsPassed next read]
  exact told.through (Reading.map (value :: ·)) .unplaced fun _ => rfl

section
variable {item : Nat → Reader α} {refusal : Refusal} {depth : Nat} {gap : Text}

theorem nextRefused {first : Bool} {text more : Text} {source : Item} {later : List Value}
    (next : nextItem first text = .ok (.item (source.text ++ (source.after ++ more))))
    (refused : FirstRefused item refusal (source.value :: later)) (spelled : Spells source.text source.value)
    (fits : source.value.depth ≤ depth) (ended : Ended more)
    (further : FirstRefused item refusal later → (items (item depth) false (source.after ++ more)).Tells refusal) :
    (items (item depth) first text).Tells refusal := by
  have ended := endedBlank source.blankAfter ended
  cases refused with
  | here refuses => exact itemRefused next (refuses [] _ blankNil spelled depth _ ended fits)
  | later reads refused => exact itemPassed next ((reads [] _ blankNil spelled depth _ ended).ok fits) (further refused)

theorem furtherItemsRefused {sources : List Item} (refused : FirstRefused item refusal (sources.map (·.value)))
    (spelled : ∀ source ∈ sources, Spells source.text source.value) {after : Text} (blankAfter : Blank after)
    (blankGap : Blank gap) (fits : ∀ source ∈ sources, source.value.depth ≤ depth) (rest : Text) :
    (items (item depth) false
      (after ++ ((sources.map (·.whole)).flatMap (',' :: ·) ++ (gap ++ ']' :: rest)))).Tells refusal := by
  -- The blanks behind an item are read together with the comma, so they vary from step to step.
  induction sources generalizing after with
  | nil => cases refused
  | cons source sources ih =>
    obtain ⟨spelledFirst, spelledLater⟩ := List.forall_mem_cons.mp spelled
    obtain ⟨fitsFirst, fitsLater⟩ := List.forall_mem_cons.mp fits
    rw [List.map_cons, List.flatMap_cons, List.append_assoc, List.cons_append, Item.whole, List.append_assoc,
      List.append_assoc]
    have ended := endedFurther (sources.map (·.whole)) (endedBlank blankGap (endedBracket rest).1)
    have next := nextItemLater (spelledStarts spelledFirst) blankAfter source.blankBefore
    exact nextRefused (next _) refused spelledFirst fitsFirst ended
      fun refused => ih refused spelledLater source.blankAfter fitsLater

theorem listRefuses {sources : List Value} (refused : FirstRefused item refusal sources) :
    Refuses (listOf item) (.array sources) refusal := by
  intro before text blank spelled depth rest ended fits
  cases spelled with
  | number _ names => cases names
  | @array sources gap spelled blankGap =>
    cases sources with
    | nil => cases refused
    | cons source sources =>
      cases depth with
      | zero => simp [Value.depth] at fits
      | succ below =>
        obtain ⟨spelledFirst, spelledLater⟩ := List.forall_mem_cons.mp spelled
        obtain ⟨fitsFirst, fitsLater⟩ := List.forall_mem_cons.mp (List.forall_mem_map.mp (Value.depthLe.mp fits))
        have ended := endedFurther (sources.map (·.whole)) (endedBlank blankGap (endedBracket rest).1)
        have next := nextItemFirst (spelledStarts spelledFirst) source.blankBefore
        have told := nextRefused (next _) refused spelledFirst fitsFirst ended
          fun refused => furtherItemsRefused refused spelledLater source.blankAfter blankGap fitsLater rest
        have form : (listOf item (below + 1)).read (before ++
            ('[' :: (Text.joined [','] ((source :: sources).map (·.whole)) ++ (gap ++ [']'])) ++ rest)) =
              (items (item below) true (source.before ++ (source.text ++ (source.after ++
                ((sources.map (·.whole)).flatMap (',' :: ·) ++ (gap ++ ']' :: rest)))))).placed := by
          simp [listOf, skipsTo blank (show isBlank '[' = false from rfl), opening, joinedCons, Item.whole]
        rw [form]
        exact told.through Reading.placed (fun rest => .placed _) fun _ => rfl

theorem listRefused {decode : Value → Except Refusal α} {sources : List Value}
    (reads : ∀ source ∈ sources, ∀ result, decode source = .ok result → ∃ read, Reads item source read)
    (refuses : ∀ source ∈ sources, decode source = .error refusal → Refuses item source refusal)
    (failed : (Value.array sources).list (fun source _ => decode source) = .error refusal) :
    FirstRefused item refusal sources := by
  rw [listForm] at failed
  induction sources with
  | nil => cases failed
  | cons source sources ih =>
    obtain ⟨readsFirst, readsLater⟩ := List.forall_mem_cons.mp reads
    obtain ⟨refusesFirst, refusesLater⟩ := List.forall_mem_cons.mp refuses
    rw [List.mapM_cons] at failed
    cases first : decode source with
    | error other =>
      rw [first] at failed
      cases failed
      exact .here (refusesFirst first)
    | ok result =>
      obtain ⟨read, readsFirst⟩ := readsFirst result first
      rw [first] at failed
      change (sources.mapM decode >>= fun results => .ok (result :: results)) = .error refusal at failed
      cases later : sources.mapM decode with
      | ok results => rw [later] at failed; cases failed
      | error other =>
        rw [later] at failed
        cases failed
        exact .later readsFirst (ih readsLater refusesLater later)

end

theorem decodeRefused {reader : Nat → Reader α} {text : Text} {source : Value} {refusal : Refusal}
    (refuses : Refuses reader source refusal) (spelled : Document text source) (fits : source.depth ≤ nestingLimit) :
    ∃ place, decode (reader nestingLimit) text = .error ⟨.refused refusal, place⟩ := by
  obtain ⟨item, rfl, rfl, spelled⟩ := spelled
  have ended : Ended item.after := by simpa using endedBlank item.blankAfter endedNil
  have told := refuses _ _ item.blankBefore spelled nestingLimit _ ended fits
  generalize found : (reader nestingLimit).read (item.before ++ (item.text ++ item.after)) = reading at told
  simp only [decode, Item.whole, found]
  cases told with
  | unplaced rest => exact ⟨none, rfl⟩
  | placed left => exact ⟨_, rfl⟩

end TypeLens.Json
