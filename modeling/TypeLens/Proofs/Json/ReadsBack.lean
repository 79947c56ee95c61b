import TypeLens.Proofs.Json.Parts
import TypeLens.Proofs.Json.Scanned
import TypeLens.Proofs.Json.Written
import Mathlib.Data.List.Forall2

/-! Reading what is spelled. Every text that spells a value is read as what the value stands for, if all its
brackets may be open at once; if not, the reader fails at the first bracket that is one too many. -/
namespace TypeLens.Json

variable {α β σ : Type}

/- How a reading ends, when the value fits into the depth and when it does not. -/

structure Outcome (reading : Reading α) (value : α) (rest : Text) (fits : Prop) : Prop where
  ok : fits → reading = .ok value rest
  tooDeep : ¬fits → ∃ left, reading = .failed ⟨.syntaxFault .tooDeep, left⟩

namespace Outcome

variable {reading : Reading α} {value : α} {rest : Text} {fits : Prop}

theorem sure (same : reading = .ok value rest) (fit : fits) : Outcome reading value rest fits :=
  ⟨fun _ => same, fun unfit => absurd fit unfit⟩

theorem congr {same : Prop} (outcome : Outcome reading value rest fits) (iff : same ↔ fits) :
    Outcome reading value rest same := by
  rw [iff]
  exact outcome

theorem through {result : β} (outcome : Outcome reading value rest fits) (step : Reading α → Reading β)
    (taken : step (.ok value rest) = .ok result rest)
    (passed : ∀ failure, step (.failed failure) = .failed failure) : Outcome (step reading) result rest fits := by
  constructor
  · intro fit
    rw [outcome.ok fit, taken]
  · intro unfit
    obtain ⟨left, failed⟩ := outcome.tooDeep unfit
    exact ⟨left, by rw [failed, passed]⟩

end Outcome

def Reads (reader : Nat → Reader α) (source : Value) (result : α) : Prop :=
  ∀ before text, Blank before → Spells text source → ∀ depth rest, Ended rest →
    Outcome ((reader depth).read (before ++ (text ++ rest))) result rest (source.depth ≤ depth)

structure ReadsBack (reader : Nat → Reader α) (source : Value) (result : α) : Prop where
  plain : source.Plain
  reads : Reads reader source result

def ReadsMember (reader : Reader α) (depth : Nat) (source : Value) (result : α) : Prop :=
  ∀ gap before text, Blank gap → Blank before → Spells text source → ∀ rest, Ended rest →
    Outcome (reader.read (gap ++ ':' :: (before ++ (text ++ rest)))) result rest (source.depth ≤ depth)

theorem skipsTo {before : Text} (blank : Blank before) {c : Char} (visible : isBlank c = false) (text : Text) :
    skipBlanks (before ++ c :: text) = c :: text := by
  rw [skipBlanks, List.dropWhile_append_of_pos blank, List.dropWhile_cons_of_neg (by simp [visible])]

theorem skipsAll {before : Text} (blank : Blank before) : skipBlanks before = [] :=
  List.dropWhile_eq_nil_iff.mpr blank

theorem endedBlank {blank rest : Text} (only : Blank blank) (ended : Ended rest) : Ended (blank ++ rest) := by
  cases blank with
  | nil => exact ended
  | cons c blank =>
    have first := only c List.mem_cons_self
    simp only [isBlank, Bool.or_eq_true, beq_iff_eq] at first
    exact endedCons _ (by rcases first with ((rfl | rfl) | rfl) | rfl <;> decide)

namespace Reads

variable {reader : Nat → Reader α} {source : Value} {result : α}

theorem mapped (reads : Reads reader source result) (f : α → β) :
    Reads (fun depth => (reader depth).map f) source (f result) := fun before text blank spelled depth rest ended =>
  (reads before text blank spelled depth rest ended).through (Reading.map f) rfl fun _ => rfl

theorem refined {check : α → Except Refusal β} {checked : β} (reads : Reads reader source result)
    (passes : check result = .ok checked) : Reads (fun depth => (reader depth).refine check) source checked :=
  fun before text blank spelled depth rest ended => (reads before text blank spelled depth rest ended).through
    (Reading.refine check) (by simp [Reading.refine, passes]) fun _ => rfl

theorem placed (reads : Reads reader source result) : Reads (fun depth => (reader depth).placed) source result :=
  fun before text blank spelled depth rest ended =>
    (reads before text blank spelled depth rest ended).through Reading.placed rfl fun _ => rfl

theorem afterColon (reads : Reads reader source result) (f : α → β) (depth : Nat) :
    ReadsMember ((reader depth).afterColon.map f) depth source (f result) := by
  intro gap before text blankGap blank spelled rest ended
  have found : colon (gap ++ ':' :: (before ++ (text ++ rest))) = .ok (before ++ (text ++ rest)) := by
    rw [colon, skipsTo blankGap rfl]
    rfl
  have form : ((reader depth).afterColon.map f).read (gap ++ ':' :: (before ++ (text ++ rest))) =
      ((reader depth).read (before ++ (text ++ rest))).map f := by
    simp only [Reader.map, Reader.afterColon, found]
  rw [form]
  exact (reads before text blank spelled depth rest ended).through (Reading.map f) rfl fun _ => rfl

end Reads

theorem textReads (expected : Expected) (text : Text) : Reads (fun _ => textAs expected) (.string text) text := by
  intro before spelling blank spelled depth rest _
  refine .sure ?_ (by simp [Value.depth])
  cases spelled with
  | number _ names => cases names
  | @string body _ all =>
    have read : characters (body ++ '"' :: rest) = .ok (text, rest) := charactersIff.mpr ⟨body, all, rfl⟩
    have visible : isBlank '"' = false := rfl
    simp only [textAs, List.cons_append, List.append_assoc, List.nil_append, skipsTo blank visible, if_true, read,
      Reading.ofScan]

theorem countReads (value : UInt64) : Reads (fun _ => count) (.integer value.toNat) value := by
  intro before spelling blank spelled depth rest ended
  refine .sure ?_ (by simp [Value.depth])
  cases spelled with
  | number spelled names =>
    have read := numberRead spelled names ended
    have counted : countOf (.integer value.toNat) = .ok value := by simp [countOf]
    obtain ⟨c, text, rfl, starts⟩ := numeralStarts spelled
    rw [List.cons_append] at *
    simp only [count, skipsTo blank (startsVisible starts), starts, if_true, read, Reading.ofScan, Reading.refine,
      counted, Reading.placed]

theorem endedBracket (rest : Text) : Ended (']' :: rest) ∧ Ended ('\x7d' :: rest) ∧ Ended (',' :: rest) :=
  ⟨endedCons rest (by decide), endedCons rest (by decide), endedCons rest (by decide)⟩

theorem endedFurther (texts : List Text) {rest : Text} (ended : Ended rest) :
    Ended (texts.flatMap (',' :: ·) ++ rest) := by
  cases texts with
  | nil => exact ended
  | cons text texts => exact endedCons _ (by decide)

theorem itemsClose {item : Reader α} (first : Bool) {blank : Text} (only : Blank blank) (rest : Text) :
    items item first (blank ++ ']' :: rest) = .ok [] rest := by
  have next : nextItem first (blank ++ ']' :: rest) = .ok (.close rest) := by rw [nextItem, skipsTo only rfl]; rfl
  rw [itemsParts, next]
  rfl

section
variable {item : Reader α} {first : Bool} {text start : Text} (next : nextItem first text = .ok (.item start))
include next

theorem itemsPassed {value : α} {left : Text} (read : item.read start = .ok value left) :
    items item first text = (items item false left).map (value :: ·) := by
  rw [itemsOpened next, read]
  rfl

theorem itemsStopped {failure : Failure} (failed : item.read start = .failed failure) :
    items item first text = .failed failure := by
  rw [itemsOpened next, failed]
  rfl

theorem itemsItem {left rest : Text} {value : α} {values : List α} {fits fitsLater : Prop}
    (read : Outcome (item.read start) value left fits)
    (later : Outcome (items item false left) values rest fitsLater) :
    Outcome (items item first text) (value :: values) rest (fits ∧ fitsLater) := by
  constructor
  · rintro ⟨fit, fitLater⟩
    rw [itemsPassed next (read.ok fit), later.ok fitLater, Reading.map]
  · intro unfit
    by_cases fit : fits
    · obtain ⟨place, failed⟩ := later.tooDeep fun fitLater => unfit ⟨fit, fitLater⟩
      exact ⟨place, by rw [itemsPassed next (read.ok fit), failed, Reading.map]⟩
    · obtain ⟨place, failed⟩ := read.tooDeep fit
      exact ⟨place, itemsStopped next failed⟩

end

section
variable {text : Text} (starts : ∃ c rest, text = c :: rest ∧ isBlank c = false ∧ c ≠ ']')
include starts

theorem nextItemFirst {before : Text} (blank : Blank before) (rest : Text) :
    nextItem true (before ++ (text ++ rest)) = .ok (.item (text ++ rest)) := by
  obtain ⟨c, text, rfl, visible, unclosed⟩ := starts
  rw [List.cons_append, nextItem, skipsTo blank visible]
  simp [unclosed]

theorem nextItemLater {after before : Text} (blankAfter : Blank after) (blank : Blank before) (rest : Text) :
    nextItem false (after ++ ',' :: (before ++ (text ++ rest))) = .ok (.item (text ++ rest)) := by
  obtain ⟨c, text, rfl, visible, unclosed⟩ := starts
  rw [List.cons_append, nextItem, skipsTo blankAfter rfl]
  simp [skipsTo blank visible, unclosed]

end

section
variable {item : Nat → Reader α} {sources : List Item} {results : List α}

theorem furtherItemsRead (each : List.Forall₂ (fun source => Reads item source.value) sources results)
    (spelled : ∀ source ∈ sources, Spells source.text source.value) {after gap : Text} (blankAfter : Blank after)
    (blankGap : Blank gap) (depth : Nat) (rest : Text) :
    Outcome (items (item depth) false
        (after ++ ((sources.map (·.whole)).flatMap (',' :: ·) ++ (gap ++ ']' :: rest)))) results rest
      (∀ source ∈ sources, source.value.depth ≤ depth) := by
  induction each generalizing after with
  | nil =>
    have blank := blankAppend blankAfter blankGap
    have closes := @itemsClose _ (item depth) false _ blank rest
    rw [List.append_assoc] at closes
    exact .sure closes (by simp)
  | @cons source result sources results reads _ ih =>
    obtain ⟨spelledFirst, spelledLater⟩ := List.forall_mem_cons.mp spelled
    rw [List.map_cons, List.flatMap_cons, List.append_assoc, List.cons_append, Item.whole, List.append_assoc,
      List.append_assoc]
    have ended := endedBlank source.blankAfter
      (endedFurther (sources.map (·.whole)) (endedBlank blankGap (endedBracket rest).1))
    have read := reads [] _ blankNil spelledFirst depth _ ended
    exact (itemsItem (nextItemLater (spelledStarts spelledFirst) blankAfter source.blankBefore _) read
      (ih spelledLater source.blankAfter)).congr List.forall_mem_cons

theorem itemsRead (each : List.Forall₂ (fun source => Reads item source.value) sources results)
    (spelled : ∀ source ∈ sources, Spells source.text source.value) {gap : Text} (blankGap : Blank gap) (depth : Nat)
    (rest : Text) :
    Outcome (items (item depth) true (Text.joined [','] (sources.map (·.whole)) ++ (gap ++ ']' :: rest))) results rest
      (∀ source ∈ sources, source.value.depth ≤ depth) := by
  cases each with
  | nil => exact .sure (itemsClose true blankGap rest) (by simp)
  | @cons source result sources results reads each =>
    obtain ⟨spelledFirst, spelledLater⟩ := List.forall_mem_cons.mp spelled
    rw [List.map_cons, joinedCons, List.append_assoc, Item.whole, List.append_assoc, List.append_assoc]
    have ended := endedBlank source.blankAfter
      (endedFurther (sources.map (·.whole)) (endedBlank blankGap (endedBracket rest).1))
    have read := reads [] _ blankNil spelledFirst depth _ ended
    have later := furtherItemsRead each spelledLater source.blankAfter blankGap depth rest
    have next := nextItemFirst (spelledStarts spelledFirst) source.blankBefore
    exact (itemsItem (next _) read later).congr List.forall_mem_cons

end

-- Behind an opening bracket there is room for one level less.
theorem openingRead {inner : Nat → Text → Reading α} {source : Value} {result : α} {text rest : Text}
    (opens : 0 < source.depth) (depth : Nat) (bracket : Char) (inside : ∀ below,
      Outcome (inner below text) result rest (∀ item ∈ source.inner, item.depth ≤ below)) :
    Outcome (opening depth bracket text inner) result rest (source.depth ≤ depth) := by
  cases depth with
  | zero => exact ⟨fun fit => by omega, fun _ => ⟨_, rfl⟩⟩
  | succ below =>
    have placed := (inside below).through Reading.placed rfl fun _ => rfl
    exact placed.congr Value.depthLe

theorem listReads {item : Nat → Reader α} {sources : List Value} {results : List α}
    (each : List.Forall₂ (Reads item) sources results) : Reads (listOf item) (.array sources) results := by
  intro before text blank spelled depth rest ended
  have opens : 0 < (Value.array sources).depth := by simp [Value.depth]
  cases spelled with
  | number _ names => cases names
  | @array sources gap spelled blankGap =>
    have form : (listOf item depth).read (before ++
        ('[' :: (Text.joined [','] (sources.map (·.whole)) ++ (gap ++ [']'])) ++ rest)) = opening depth '['
          (Text.joined [','] (sources.map (·.whole)) ++ (gap ++ ']' :: rest))
            fun depth rest => items (item depth) true rest := by
      simp [listOf, skipsTo blank (show isBlank '[' = false from rfl)]
    rw [form]
    refine openingRead opens depth '[' fun below => ?_
    exact (itemsRead (List.forall₂_map_left_iff.mp each) spelled blankGap below rest).congr List.forall_mem_map

inductive Steps (step : σ → Text → Reader σ) (depth : Nat) : σ → List Member → σ → Prop where
  | nil (state) : Steps step depth state [] state
  | cons {state next final member members} (read : ReadsMember (step state member.name) depth member.value next)
      (later : Steps step depth next members final) : Steps step depth state (member :: members) final

section
variable {step : σ → Text → Reader σ}

theorem Steps.append {depth : Nat} {state middle final : σ} {list more : List Member}
    (steps : Steps step depth state list middle) (further : Steps step depth middle more final) :
    Steps step depth state (list ++ more) final := by
  induction steps with
  | nil => exact further
  | cons read _ ih => exact .cons read (ih further)

theorem membersClose (state : σ) (first : Bool) {blank : Text} (only : Blank blank) (rest : Text) :
    members step state first (blank ++ '\x7d' :: rest) = .ok state rest := by
  have next : nextMember first (blank ++ '\x7d' :: rest) = .ok (.close rest) := by
    rw [nextMember, skipsTo only rfl]
    rfl
  rw [membersParts, next]
  rfl

section
variable {state : σ} {first : Bool} {name text start : Text} (next : nextMember first text = .ok (.member name start))
include next

theorem membersPassed {middle : σ} {left : Text} (read : (step state name).read start = .ok middle left) :
    members step state first text = members step middle false left := by
  rw [membersOpened next, read]
  rfl

theorem membersStopped {failure : Failure} (failed : (step state name).read start = .failed failure) :
    members step state first text = .failed failure := by
  rw [membersOpened next, failed]
  rfl

theorem membersMember {middle final : σ} {left rest : Text} {fits fitsLater : Prop}
    (read : Outcome ((step state name).read start) middle left fits)
    (later : Outcome (members step middle false left) final rest fitsLater) :
    Outcome (members step state first text) final rest (fits ∧ fitsLater) := by
  constructor
  · rintro ⟨fit, fitLater⟩
    rw [membersPassed next (read.ok fit), later.ok fitLater]
  · intro unfit
    by_cases fit : fits
    · obtain ⟨place, failed⟩ := later.tooDeep fun fitLater => unfit ⟨fit, fitLater⟩
      exact ⟨place, by rw [membersPassed next (read.ok fit), failed]⟩
    · obtain ⟨place, failed⟩ := read.tooDeep fit
      exact ⟨place, membersStopped next failed⟩

end

theorem memberNameRead {body name : Text} (named : SpellsCharacters body name) (rest : Text) :
    memberName ('"' :: (body ++ '"' :: rest)) = .ok (.member name rest) := by
  have read : characters (body ++ '"' :: rest) = .ok (name, rest) := charactersIff.mpr ⟨body, named, rfl⟩
  rw [memberName, if_pos rfl, read]
  rfl

theorem entryText (entry : Entry) (rest : Text) : entry.whole ++ rest =
    entry.before ++ '"' :: (entry.body ++ '"' :: (entry.gap ++ ':' :: (entry.item.whole ++ rest))) := by
  simp [Entry.whole]

theorem nextMemberFirst (entry : Entry) (rest : Text) : nextMember true (entry.whole ++ rest) =
    .ok (.member entry.name (entry.gap ++ ':' :: (entry.item.whole ++ rest))) := by
  rw [entryText, nextMember, skipsTo entry.blankBefore rfl, ← memberNameRead entry.named]
  rfl

theorem nextMemberLater (entry : Entry) {after : Text} (blankAfter : Blank after) (rest : Text) :
    nextMember false (after ++ ',' :: (entry.whole ++ rest)) =
      .ok (.member entry.name (entry.gap ++ ':' :: (entry.item.whole ++ rest))) := by
  rw [entryText, nextMember, skipsTo blankAfter rfl, ← memberNameRead entry.named]
  simp [skipsTo entry.blankBefore (show isBlank '"' = false from rfl)]

theorem entryRead {state next : σ} {depth : Nat} {entry : Entry}
    (read : ReadsMember (step state entry.name) depth entry.item.value next)
    (spelled : Spells entry.item.text entry.item.value) {rest : Text} (ended : Ended rest) :
    Outcome ((step state entry.name).read (entry.gap ++ ':' :: (entry.item.whole ++ rest))) next
      (entry.item.after ++ rest) (entry.item.value.depth ≤ depth) := by
  rw [Item.whole, List.append_assoc, List.append_assoc]
  exact read _ _ _ entry.blankGap entry.item.blankBefore spelled _ (endedBlank entry.item.blankAfter ended)

theorem furtherMembersRead {depth : Nat} {state final : σ} {entries : List Entry}
    (steps : Steps step depth state (entries.map (·.member)) final)
    (spelled : ∀ entry ∈ entries, Spells entry.item.text entry.item.value) {after gap : Text}
    (blankAfter : Blank after) (blankGap : Blank gap) (rest : Text) :
    Outcome (members step state false
        (after ++ ((entries.map (·.whole)).flatMap (',' :: ·) ++ (gap ++ '\x7d' :: rest)))) final rest
      (∀ entry ∈ entries, entry.item.value.depth ≤ depth) := by
  induction entries generalizing state after with
  | nil =>
    cases steps
    have blank := blankAppend blankAfter blankGap
    have closes := @membersClose _ step final false _ blank rest
    rw [List.append_assoc] at closes
    exact .sure closes (by simp)
  | cons entry entries ih =>
    obtain ⟨spelledFirst, spelledLater⟩ := List.forall_mem_cons.mp spelled
    cases steps with
    | cons read later =>
      rw [List.map_cons, List.flatMap_cons, List.append_assoc, List.cons_append]
      have ended := endedFurther (entries.map (·.whole)) (endedBlank blankGap (endedBracket rest).2.1)
      exact (membersMember (nextMemberLater entry blankAfter _) (entryRead read spelledFirst ended)
        (ih later spelledLater entry.item.blankAfter)).congr List.forall_mem_cons

theorem membersRead {depth : Nat} {state final : σ} {entries : List Entry}
    (steps : Steps step depth state (entries.map (·.member)) final)
    (spelled : ∀ entry ∈ entries, Spells entry.item.text entry.item.value) {gap : Text} (blankGap : Blank gap)
    (rest : Text) :
    Outcome (members step state true (Text.joined [','] (entries.map (·.whole)) ++ (gap ++ '\x7d' :: rest))) final
      rest (∀ entry ∈ entries, entry.item.value.depth ≤ depth) := by
  cases entries with
  | nil =>
    cases steps
    exact .sure (membersClose state true blankGap rest) (by simp)
  | cons entry entries =>
    obtain ⟨spelledFirst, spelledLater⟩ := List.forall_mem_cons.mp spelled
    cases steps with
    | cons read later =>
      rw [List.map_cons, joinedCons, List.append_assoc]
      have ended := endedFurther (entries.map (·.whole)) (endedBlank blankGap (endedBracket rest).2.1)
      exact (membersMember (nextMemberFirst entry _) (entryRead read spelledFirst ended)
        (furtherMembersRead later spelledLater entry.item.blankAfter blankGap rest)).congr List.forall_mem_cons

end

theorem objectReads {reader : Nat → Reader α} {step : Nat → σ → Text → Reader σ} {blank final : σ}
    {list : List Member} {result : α} (finish : Reading σ → Reading α)
    (taken : ∀ rest, finish (.ok final rest) = .ok result rest)
    (passed : ∀ failure, finish (.failed failure) = .failed failure)
    (form : ∀ before, Blank before → ∀ depth text, (reader depth).read (before ++ '\x7b' :: text) =
      opening depth '\x7b' text fun depth text => finish (members (step depth) blank true text))
    (steps : ∀ depth, Steps (step depth) depth blank list final) : Reads reader (.object list) result := by
  intro before text only spelled depth rest ended
  have opens : 0 < (Value.object list).depth := by simp [Value.depth]
  cases spelled with
  | number _ names => cases names
  | @object entries gap spelled blankGap =>
    have text : before ++ ('\x7b' :: (Text.joined [','] (entries.map (·.whole)) ++ (gap ++ ['\x7d'])) ++ rest) =
        before ++ '\x7b' :: (Text.joined [','] (entries.map (·.whole)) ++ (gap ++ '\x7d' :: rest)) := by simp
    rw [text, form before only]
    refine openingRead opens depth '\x7b' fun below => ?_
    have read := (membersRead (steps below) spelled blankGap rest).through finish (taken rest) passed
    exact read.congr (by simp [Value.inner, Entry.member])

theorem Schema.slotRead {schema : Schema σ α} {slot : Slot σ} {draft : σ} {name : Text} {value : Value}
    {fill : σ → σ} (found : schema.slots.find? (fun slot => slot.name = name) = some slot)
    (fresh : slot.filled draft = false) (reads : Reads slot.fill value fill) (depth : Nat) :
    ReadsMember (schema.member depth draft name) depth value (fill draft) := by
  have form : schema.member depth draft name = (slot.fill depth).afterColon.map fun fill => fill draft := by
    simp [member, found, fresh]
  rw [form]
  exact reads.afterColon _ depth

theorem Schema.reads {schema : Schema σ α} {list : List Member} {final : σ} {result : α}
    (steps : ∀ depth, Steps (schema.member depth) depth schema.blank list final)
    (completed : schema.complete (schema.record.missing .named) final = .ok result) :
    Reads schema.reader (.object list) result := by
  refine objectReads (Reading.refine (schema.complete (schema.record.missing .named))) ?_ (fun _ => rfl) ?_ steps
  · intro rest
    simp [Reading.refine, completed]
  · intro before only depth text
    simp [reader, skipsTo only (show isBlank '\x7b' = false from rfl)]

theorem keptMembers {step : σ → Text → Reader σ} {depth : Nat} (state : List Member → σ) {found list : List Member}
    (keeps : ∀ found, ∀ member ∈ list, step (state found) member.name =
      (anyValue depth).afterColon.map fun value => state (found ++ [⟨member.name, value⟩]))
    (reads : ∀ member ∈ list, Reads anyValue member.value member.value) :
    Steps step depth (state found) list (state (found ++ list)) := by
  -- What has been kept before is left open, since each step keeps one member more.
  induction list generalizing found with
  | nil => simpa using Steps.nil (state found)
  | cons member list ih =>
    have later := @ih (found ++ [member]) (fun found other inside => keeps found other (List.mem_cons_of_mem _ inside))
      fun other inside => reads other (List.mem_cons_of_mem _ inside)
    rw [List.append_assoc, List.singleton_append] at later
    refine .cons ?_ later
    rw [keeps found member List.mem_cons_self]
    have read := (reads member List.mem_cons_self).afterColon
      (fun value => state (found ++ [⟨member.name, value⟩])) depth
    cases member
    exact read

theorem bracketedRead {bracket : Char} {before text rest : Text} {value : Value} (blank : Blank before)
    (opens : 0 < value.depth) (depth : Nat) (opened : bracket = '[' ∨ bracket = '\x7b') (inside : ∀ below, Outcome
      (if bracket = '[' then (items (anyValue below) true text).map .array
        else (members (fun found name => (anyValue below).afterColon.map fun value => found ++ [⟨name, value⟩])
          [] true text).map .object) value rest (∀ item ∈ value.inner, item.depth ≤ below)) :
    Outcome ((anyValue depth).read (before ++ bracket :: text)) value rest (value.depth ≤ depth) := by
  have visible : isBlank bracket = false := by rcases opened with rfl | rfl <;> rfl
  rw [anyValueForm]
  simp only [bracketed, skipsTo blank visible, if_pos opened]
  cases depth with
  | zero => exact ⟨fun fit => by omega, fun _ => ⟨_, rfl⟩⟩
  | succ below => exact (inside below).congr Value.depthLe

theorem scalarStarts {text : Text} {value : Value} (spelled : Spells text value) (flat : value.depth = 0) :
    ∃ c rest, text = c :: rest ∧ isBlank c = false ∧ ¬(c = '[' ∨ c = '\x7b') := by
  cases spelled with
  | null | false | true | string => exact ⟨_, _, rfl, rfl, by decide⟩
  | number spelled =>
    obtain ⟨c, rest, rfl, starts⟩ := numeralStarts spelled
    exact ⟨c, rest, rfl, startsVisible starts, startsUnopened starts⟩
  | array | object => simp [Value.depth] at flat

theorem anyReads (value : Value) : Reads anyValue value value := by
  induction value using Value.induct with
  | step value ih =>
    intro before text blank spelled depth rest ended
    cases flat : value.depth with
    | zero =>
      have read := scalarRead spelled flat ended
      obtain ⟨c, text, rfl, visible, unopened⟩ := scalarStarts spelled flat
      refine .sure ?_ (Nat.zero_le depth)
      rw [anyValueForm]
      rw [List.cons_append] at *
      simp only [bracketed, skipsTo blank visible, if_neg unopened, read, Reading.ofScan]
    | succ inside =>
      rw [← flat]
      have opens : 0 < value.depth := by omega
      cases spelled with
      | @array items gap spelled blankGap =>
        have each : List.Forall₂ (fun item => Reads anyValue item.value) items (items.map (·.value)) :=
          List.forall₂_map_right_iff.mpr (List.forall₂_same.mpr fun item inside => ih _ (List.mem_map_of_mem inside))
        have text : ('[' :: (Text.joined [','] (items.map (·.whole)) ++ (gap ++ [']'])) ++ rest) =
            '[' :: (Text.joined [','] (items.map (·.whole)) ++ (gap ++ ']' :: rest)) := by simp
        rw [text]
        refine bracketedRead blank opens depth (.inl rfl) fun below => ?_
        rw [if_pos rfl]
        have read := (itemsRead each spelled blankGap below rest).through (Reading.map Value.array) rfl fun _ => rfl
        exact read.congr List.forall_mem_map
      | @object entries gap spelled blankGap =>
        have steps (below : Nat) := @keptMembers _ (fun found name => (anyValue below).afterColon.map fun value =>
          found ++ [⟨name, value⟩]) below id [] (entries.map (·.member)) (fun _ _ _ => rfl) fun member inside =>
            ih member.value (List.mem_map_of_mem inside)
        have text : ('\x7b' :: (Text.joined [','] (entries.map (·.whole)) ++ (gap ++ ['\x7d'])) ++ rest) =
            '\x7b' :: (Text.joined [','] (entries.map (·.whole)) ++ (gap ++ '\x7d' :: rest)) := by simp
        rw [text]
        refine bracketedRead blank opens depth (.inr rfl) fun below => ?_
        rw [if_neg (by decide)]
        have read := (membersRead (steps below) spelled blankGap rest).through (Reading.map Value.object) rfl
          fun _ => rfl
        exact read.congr (by simp [Value.inner, Entry.member])
      | null | false | true | string => simp [Value.depth] at flat
      | number _ names => cases names <;> simp [Value.depth] at flat

theorem decodeDocument {reader : Nat → Reader α} {text : Text} {source : Value} {result : α}
    (reads : Reads reader source result) (spelled : Document text source) :
    (source.depth ≤ nestingLimit → decode (reader nestingLimit) text = .ok result) ∧
      (nestingLimit < source.depth → ∃ place,
        decode (reader nestingLimit) text = .error ⟨.syntaxFault .tooDeep, some place⟩) := by
  obtain ⟨item, rfl, rfl, spelled⟩ := spelled
  have ended : Ended item.after := by simpa using endedBlank item.blankAfter endedNil
  have read := reads _ _ item.blankBefore spelled nestingLimit _ ended
  constructor
  · intro fit
    simp only [decode, Item.whole, read.ok fit, skipsAll item.blankAfter]
  · intro unfit
    obtain ⟨left, failed⟩ := read.tooDeep (by omega)
    refine ⟨Place.after ⟨1, 0⟩ (item.whole.byteSize - left) item.whole, ?_⟩
    simp only [decode, Item.whole, failed]

theorem documentUnique {text : Text} {source other : Value} (spelled : Document text source)
    (spelledOther : Document text other) : source = other := by
  obtain ⟨item, rfl, rfl, spelled⟩ := spelled
  obtain ⟨second, same, rfl, spelledSecond⟩ := spelledOther
  have ended (item : Item) : Ended item.after := by simpa using endedBlank item.blankAfter endedNil
  have read (item : Item) (spelled : Spells item.text item.value) {depth : Nat} (fits : item.value.depth ≤ depth) :
      (anyValue depth).read item.whole = .ok item.value item.after :=
    (anyReads item.value _ _ item.blankBefore spelled depth _ (ended item)).ok fits
  have first := read item spelled (Nat.le_max_left _ second.value.depth)
  rw [same, read second spelledSecond (Nat.le_max_right item.value.depth _)] at first
  exact (Reading.ok.inj first).1.symm

theorem plainDocument {source : Value} (plain : source.Plain) : Document source.text source :=
  ⟨.bare source, by simp [Item.bare, Item.whole], rfl, plainSpelled plain⟩

theorem decodeText {reader : Nat → Reader α} {source : Value} {result : α} (reads : ReadsBack reader source result) :
    (source.depth ≤ nestingLimit → decode (reader nestingLimit) source.text = .ok result) ∧
      (nestingLimit < source.depth → ∃ place,
        decode (reader nestingLimit) source.text = .error ⟨.syntaxFault .tooDeep, some place⟩) :=
  decodeDocument reads.reads (plainDocument reads.plain)

end TypeLens.Json
