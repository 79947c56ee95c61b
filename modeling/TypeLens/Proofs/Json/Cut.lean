import TypeLens.Proofs.Json.Gives
import TypeLens.Proofs.Json.Parts
import TypeLens.Proofs.Json.Plain
import TypeLens.Proofs.Json.Shorter

/-! Readers of texts that go on. What is read of a text is read of every longer one, and what cannot be read stays so:
only the end of the text may be in the way, and a number that might become smaller when its exponent goes on. -/
namespace TypeLens.Json

variable {α β γ σ : Type}

def Reading.Stops : Reading α → Prop
  | .ok _ _ => False
  | _ => True

/-- The readings of a text and of the longer one. A value is loose if it might have gone on, and is large if a number
in it may have begun as one that is too large. -/
inductive Continued (more : Text) (Loose : Prop) (Large : α → Prop) : Reading α → Reading α → Prop where
  | ok (value rest) : Continued more Loose Large (.ok value rest) (.ok value (rest ++ more))
  | loose (is : Loose) (value long) : Continued more Loose Large (.ok value []) long
  | ended (what long) : Continued more Loose Large (.failed (.atEnd what)) long
  | tooLarge (left) {long} (large : ∀ value rest, long = .ok value rest → Large value) :
      Continued more Loose Large (.failed ⟨.syntaxFault .numberTooLarge, left⟩) long
  | stopped {short long} (stops : short.Stops) (stopsLonger : long.Stops) : Continued more Loose Large short long

def Reader.Steady (reader : Reader α) (Loose : Prop) (Large : α → Prop) : Prop :=
  ∀ text more, Continued more Loose Large (reader.read text) (reader.read (text ++ more))

def Any : α → Prop := fun _ => True

namespace Reading.Stops

variable {reading : Reading α}

theorem mapped (stops : reading.Stops) (f : α → β) : (reading.map f).Stops := by
  cases reading <;> trivial

theorem placed (stops : reading.Stops) : reading.placed.Stops := by
  cases reading <;> trivial

theorem andThen (stops : reading.Stops) (leave : Text → Text) (next : α → Text → Reading β) :
    (reading.andThen leave next).Stops := by
  cases reading <;> trivial

end Reading.Stops

namespace Continued

variable {more : Text} {Loose Loose' : Prop} {Large : α → Prop} {Large' : β → Prop} {short long : Reading α}

theorem imp {Large' : α → Prop} (continued : Continued more Loose Large short long) (loose : Loose → Loose')
    (large : ∀ value, Large value → Large' value) : Continued more Loose' Large' short long := by
  cases continued with
  | ok => exact .ok _ _
  | loose is => exact .loose (loose is) _ _
  | ended => exact .ended _ _
  | tooLarge left was => exact .tooLarge left fun value rest read => large value (was value rest read)
  | stopped stops stopsLonger => exact .stopped stops stopsLonger

theorem map (continued : Continued more Loose Large short long) {f : α → β}
    (large : ∀ value, Large value → Large' (f value)) : Continued more Loose Large' (short.map f) (long.map f) := by
  cases continued with
  | ok => exact .ok _ _
  | loose is => exact .loose is _ _
  | ended => exact .ended _ _
  | tooLarge left was =>
    refine .tooLarge left fun result rest read => ?_
    obtain ⟨value, source, rfl⟩ := Reading.mapOk read
    exact large value (was value rest source)
  | stopped stops stopsLonger => exact .stopped (stops.mapped f) (stopsLonger.mapped f)

theorem placed (continued : Continued more Loose Large short long) :
    Continued more Loose Large short.placed long.placed := by
  cases continued with
  | ok => exact .ok _ _
  | loose is => exact .loose is _ _
  | ended => exact .ended _ _
  | tooLarge left was => exact .tooLarge left fun value rest read => was value rest (Reading.placedOk read)
  | stopped stops stopsLonger => exact .stopped stops.placed stopsLonger.placed

theorem andThen (continued : Continued more Loose Large short long) {leave : Text → Text}
    {next : α → Text → Reading β} (further : ∀ value rest, short = .ok value rest →
      Continued more Loose' Large' (next value rest) (next value (rest ++ more)))
    (atEnd : Loose → ∀ value, ∃ what, next value [] = .failed (.atEnd what))
    (large : ∀ value, Large value → ∀ rest result left, next value rest = .ok result left → Large' result) :
    Continued more Loose' Large' (short.andThen leave next) (long.andThen leave next) := by
  cases continued with
  | ok value rest => exact further value rest rfl
  | loose is value =>
    obtain ⟨what, ended⟩ := atEnd is value
    rw [Reading.andThen, ended]
    exact .ended _ _
  | ended => exact .ended _ _
  | tooLarge left was =>
    refine .tooLarge left fun result rest read => ?_
    obtain ⟨value, behind, read, later⟩ := Reading.andThenOk read
    exact large value (was value behind read) behind result rest later
  | stopped stops stopsLonger => exact .stopped (stops.andThen leave next) (stopsLonger.andThen leave next)

theorem refine (continued : Continued more False Large short long) (check : α → Except Refusal β) :
    Continued more False Any (short.refine check) (long.refine check) := by
  rw [Reading.refineParts, Reading.refineParts]
  refine continued.andThen (fun value rest _ => ?_) (fun never => never.elim) fun _ _ _ _ _ _ => trivial
  cases check value with
  | ok result => exact .ok result rest
  | error refusal => exact .stopped trivial trivial

theorem starting {next : Char → Text → Reading α} {text : Text}
    (inside : ∀ c rest, Continued more Loose Large (next c rest) (next c (rest ++ more))) :
    Continued more Loose Large (Reading.starting next text) (Reading.starting next (text ++ more)) := by
  rw [Reading.starting, Reading.starting]
  obtain none | ⟨c, rest, short, long⟩ := skipLonger text more
  · rw [none]
    exact .ended _ _
  · rw [short, long]
    exact inside c rest

theorem afterScan {grow : γ → γ} {short long : Except Failure γ} (longer : Longer grow Never short long)
    {next : γ → Reading α}
    (inside : ∀ found, short = .ok found → Continued more Loose Large (next found) (next (grow found))) :
    Continued more Loose Large (Reading.afterScan short next) (Reading.afterScan long next) := by
  cases longer with
  | ok found => exact inside found rfl
  | loose never => exact never.elim
  | ended => exact .ended _ _
  | stopped => exact .stopped trivial trivial

theorem opened {inner : Nat → Text → Reading α} {bracket : Char} {text : Text} (depth : Nat)
    (inside : ∀ below < depth, Continued more Loose Large (inner below text) (inner below (text ++ more))) :
    Continued more Loose Large (Reading.opened depth bracket text inner)
      (Reading.opened depth bracket (text ++ more) inner) := by
  cases depth with
  | zero => exact .stopped trivial trivial
  | succ below => exact inside below (Nat.lt_succ_self below)

theorem opening {inner : Nat → Text → Reading α} {bracket : Char} {text : Text} (depth : Nat)
    (inside : ∀ below, Continued more Loose Large (inner below text) (inner below (text ++ more))) :
    Continued more Loose Large (opening depth bracket text inner) (opening depth bracket (text ++ more) inner) := by
  rw [openingParts, openingParts]
  exact opened depth fun below _ => (inside below).placed

theorem ofScan {short long : Except Failure (α × Text)} (longer : Longer (goesOn more) Never short long) :
    Continued more Loose Large (.ofScan short) (.ofScan long) := by
  cases longer with
  | ok found => exact .ok found.1 found.2
  | loose never => exact never.elim
  | ended => exact .ended _ _
  | stopped => exact .stopped trivial trivial

end Continued

theorem numberOrTooLarge (found : Numeral) :
    (∃ value, ∀ {text rest}, numeral (.atEnd .value) text = .ok (found, rest) → number text = .ok (value, rest)) ∨
      ∀ {text rest}, numeral (.atEnd .value) text = .ok (found, rest) →
        ∃ left, number text = .error ⟨.syntaxFault .numberTooLarge, left⟩ := by
  cases whole : found.integer? with
  | some n => exact .inl ⟨.integer n, fun read => by simp only [number, read, bind, Except.bind, whole]⟩
  | none =>
    cases near : found.real? with
    | some x => exact .inl ⟨.real x, fun read => by simp only [number, read, bind, Except.bind, whole, near]⟩
    | none => exact .inr fun read => ⟨_, by simp only [number, read, bind, Except.bind, whole, near]; rfl⟩

theorem numeralFails {text : Text} {failure : Failure} (failed : numeral (.atEnd .value) text = .error failure) :
    number text = .error failure := by
  rw [number, failed]
  rfl

theorem numberContinued (text more : Text) :
    Continued more True (¬·.Plain) (.ofScan (number text)) (.ofScan (number (text ++ more))) := by
  have longer := numeralLonger text more
  generalize short : numeral (.atEnd .value) text = scan at longer
  generalize long : numeral (.atEnd .value) (text ++ more) = scanLonger at longer
  cases longer with
  | ok found =>
    obtain ⟨found, rest⟩ := found
    obtain ⟨value, reads⟩ | stops := numberOrTooLarge found
    · rw [reads short, reads long]
      exact .ok value rest
    · obtain ⟨_, stopped⟩ := stops short
      obtain ⟨_, stoppedLonger⟩ := stops long
      rw [stopped, stoppedLonger]
      exact .stopped trivial trivial
  | @loose found atEnd =>
    obtain ⟨found, rest⟩ := found
    cases atEnd
    obtain ⟨value, reads⟩ | stops := numberOrTooLarge found
    · rw [reads short]
      exact .loose trivial value _
    · obtain ⟨left, stopped⟩ := stops short
      rw [stopped]
      refine .tooLarge left fun value rest read plain => ?_
      have read := Reading.ofScanOk read
      obtain ⟨_, _, _, names, _⟩ := numberSpelled read
      cases names with
      | integer =>
        obtain ⟨_, smaller⟩ := integerUncut read short
        cases smaller.symm.trans stopped
      | real => cases plain
  | ended =>
    rw [numeralFails short]
    exact .ended _ _
  | stopped =>
    rw [numeralFails short, numeralFails long]
    exact .stopped trivial trivial

theorem scalarContinued (text more : Text) :
    Continued more True (¬·.Plain) (.ofScan (scalar text)) (.ofScan (scalar (text ++ more))) := by
  have word (letters : Text) (value : Value) (rest : Text) : Continued more True (¬·.Plain)
      (.ofScan ((spell letters rest).map fun rest => (value, rest)))
        (.ofScan ((spell letters (rest ++ more)).map fun rest => (value, rest))) :=
    .ofScan ((spellLonger rest more letters).map (fun _ => rfl) fun _ never => never)
  cases text with
  | nil => exact .ended _ _
  | cons c rest =>
    simp only [scalar, List.cons_append]
    split
    · exact word _ _ rest
    split
    · exact word _ _ rest
    split
    · exact word _ _ rest
    split
    · exact .ofScan ((charactersLonger rest more).map (fun _ => rfl) fun _ never => never)
    split
    · exact numberContinued (c :: rest) more
    · exact .stopped trivial trivial

theorem itemsContinued {item : Reader α} {Loose Loose' : Prop} {Large : α → Prop} (steady : item.Steady Loose Large)
    (first : Bool) (text more : Text) : Continued more Loose' (fun values => ∃ value ∈ values, Large value)
      (items item first text) (items item first (text ++ more)) := by
  rw [itemsParts, itemsParts]
  refine .afterScan (nextItemLonger text more first) fun found next => ?_
  cases found with
  | close rest => exact .ok [] rest
  | item start =>
    refine (steady start more).andThen (fun value rest read => ?_) (fun _ value => ⟨.list, ?_⟩) ?_
    · have := nextItemLe next
      have := item.consumes read
      refine (itemsContinued steady false rest more).map fun values => ?_
      rintro ⟨other, inside, large⟩
      exact ⟨other, List.mem_cons_of_mem value inside, large⟩
    · rw [itemsParts]
      rfl
    · intro value large rest values left read
      obtain ⟨later, _, rfl⟩ := Reading.mapOk read
      exact ⟨value, List.mem_cons_self, large⟩
termination_by text.length

theorem membersContinued {step : σ → Text → Reader σ} {Loose Loose' : Prop} {Large : σ → Prop}
    (steady : ∀ state name, (step state name).Steady Loose Large)
    (keeps : ∀ state name, Large state → (step state name).Gives Large) (state : σ) (first : Bool)
    (text more : Text) : Continued more Loose' Large (members step state first text)
      (members step state first (text ++ more)) := by
  rw [membersParts, membersParts]
  refine .afterScan (nextMemberLonger text more first) fun found next => ?_
  cases found with
  | close rest => exact .ok state rest
  | member name start =>
    refine (steady state name start more).andThen (fun middle rest read => ?_) (fun _ middle => ⟨.object, ?_⟩) ?_
    · have := nextMemberLt next
      have := (step state name).consumes read
      exact membersContinued steady keeps middle false rest more
    · rw [membersParts]
      rfl
    · intro middle large rest final left read
      exact membersKeep keeps large read
termination_by text.length

namespace Reader.Steady

variable {reader : Reader α} {Loose Loose' : Prop} {Large : α → Prop} {Large' : β → Prop}

theorem imp {Large' : α → Prop} (steady : reader.Steady Loose Large) (loose : Loose → Loose')
    (large : ∀ value, Large value → Large' value) : reader.Steady Loose' Large' := fun text more =>
  (steady text more).imp loose large

theorem map (steady : reader.Steady Loose Large) {f : α → β} (large : ∀ value, Large value → Large' (f value)) :
    (reader.map f).Steady Loose Large' := fun text more => (steady text more).map large

theorem refine (steady : reader.Steady False Large) (check : α → Except Refusal β) :
    (reader.refine check).Steady False Any := fun text more => (steady text more).refine check

theorem placed (steady : reader.Steady Loose Large) : reader.placed.Steady Loose Large := fun text more =>
  (steady text more).placed

theorem afterColon (steady : reader.Steady Loose Large) : reader.afterColon.Steady Loose Large := by
  intro text more
  rw [afterColonParts, afterColonParts]
  exact .afterScan (colonLonger text more) fun rest _ => steady rest more

end Reader.Steady

theorem anySteady (depth : Nat) : (anyValue depth).Steady True (¬·.Plain) := by
  induction depth using Nat.strongRecOn with
  | ind depth ih =>
    intro text more
    rw [anyParts, anyParts]
    refine .starting fun c rest => ?_
    split
    · refine .opened depth fun below lower => (itemsContinued (ih below lower) true rest more).map fun values => ?_
      rintro ⟨value, inside, large⟩ plain
      exact large (Value.plainInner plain value inside)
    · split
      · have steady (found : List Member) (name : Text) (below : Nat) (lower : below < depth) :
            (keeping below found name).Steady True fun found => ∃ member ∈ found, ¬member.value.Plain := by
          refine (ih below lower).afterColon.map fun value large => ?_
          exact ⟨⟨name, value⟩, by simp, large⟩
        refine .opened depth fun below lower =>
          (membersContinued (fun found name => steady found name below lower) ?_ [] true rest more).map ?_
        · rintro found name ⟨member, inside, large⟩
          exact Reader.mapGives fun _ value _ _ => ⟨member, List.mem_append_left _ inside, large⟩
        · rintro found ⟨member, inside, large⟩ plain
          exact large (Value.plainInner plain _ (List.mem_map_of_mem inside))
      · exact scalarContinued (c :: rest) more

theorem textSteady (expected : Expected) : (textAs expected).Steady False Any := by
  intro text more
  rw [textParts, textParts]
  refine .starting fun c rest => ?_
  split
  · exact .ofScan (charactersLonger rest more)
  · exact .stopped trivial trivial

theorem listSteady {item : Nat → Reader α} {Loose : Prop} {Large : α → Prop}
    (steady : ∀ depth, (item depth).Steady Loose Large) (depth : Nat) : (listOf item depth).Steady False Any := by
  intro text more
  rw [listParts, listParts]
  refine .starting fun c rest => ?_
  split
  · exact .opening depth fun below =>
      (itemsContinued (steady below) true rest more).imp (fun never => never) fun _ _ => trivial
  · exact .stopped trivial trivial

end TypeLens.Json
