import TypeLens.Json.Typed
import TypeLens.Proofs.Json.Scanned
import Mathlib.Data.List.Forall2

/-! What a reader that gives a result has seen. It has read a text of the grammar, whatever it has made of the value
that this text spells; a list is put together from its items, an object from its members, step by step. -/
namespace TypeLens.Json

variable {α β σ : Type}

def Accepts (reader : Reader α) (Holds : Value → α → Prop) : Prop :=
  ∀ text result rest, reader.read text = .ok result rest → ∃ before piece source,
    Blank before ∧ Spells piece source ∧ text = before ++ (piece ++ rest) ∧ Holds source result

theorem blanksSplit (text : Text) : ∃ before, Blank before ∧ text = before ++ skipBlanks text :=
  ⟨text.takeWhile isBlank, fun _ member => List.mem_takeWhile_imp member, List.takeWhile_append_dropWhile.symm⟩

theorem blanksBefore {text rest : Text} {c : Char} (skipped : skipBlanks text = c :: rest) :
    ∃ before, Blank before ∧ text = before ++ c :: rest := by
  obtain ⟨before, blank, split⟩ := blanksSplit text
  exact ⟨before, blank, skipped ▸ split⟩

theorem Accepts.refined {reader : Reader α} {check : α → Except Refusal β} {Holds : Value → α → Prop}
    (accepts : Accepts reader Holds) :
    Accepts (reader.refine check) fun source result => ∃ found, Holds source found ∧ check found = .ok result := by
  intro text result rest read
  obtain ⟨found, read, checked⟩ := Reading.refineOk read
  obtain ⟨before, piece, source, blank, spelled, split, holds⟩ := accepts _ _ _ read
  exact ⟨before, piece, source, blank, spelled, split, found, holds, checked⟩

theorem Accepts.placed {reader : Reader α} {Holds : Value → α → Prop} (accepts : Accepts reader Holds) :
    Accepts reader.placed Holds := fun _ _ _ read => accepts _ _ _ (Reading.placedOk read)

theorem Accepts.imp {reader : Reader α} {Holds Also : Value → α → Prop} (accepts : Accepts reader Holds)
    (imp : ∀ source result, Holds source result → Also source result) : Accepts reader Also := by
  intro text result rest read
  obtain ⟨before, piece, source, blank, spelled, split, holds⟩ := accepts _ _ _ read
  exact ⟨before, piece, source, blank, spelled, split, imp _ _ holds⟩

theorem textAccepts (expected : Expected) : Accepts (textAs expected) fun source text => source = .string text := by
  intro text result rest read
  simp only [textAs] at read
  split at read
  · cases read
  · next c tail skipped =>
    split at read
    · next quote =>
      obtain ⟨before, blank, rfl⟩ := blanksBefore skipped
      obtain ⟨body, all, rfl⟩ := charactersIff.mp (Reading.ofScanOk read)
      exact ⟨before, _, _, blank, .string all, by simp [quote], rfl⟩
    · cases read

def Lists (first : Bool) (wholes : List Text) (closing : Char) (text rest : Text) : Prop :=
  ∃ gap, Blank gap ∧ if first then text = Text.joined [','] wholes ++ (gap ++ closing :: rest)
    else ∃ after, Blank after ∧ text = after ++ (wholes.flatMap (',' :: ·) ++ (gap ++ closing :: rest))

theorem listsNone (first : Bool) {closing : Char} {blank : Text} (only : Blank blank) (rest : Text) :
    Lists first [] closing (blank ++ closing :: rest) rest := by
  cases first with
  | true => exact ⟨blank, only, rfl⟩
  | false => exact ⟨[], blankNil, blank, only, rfl⟩

theorem listsCons {first : Bool} {wholes : List Text} {closing : Char} {separator before piece left rest : Text}
    (further : Lists false wholes closing left rest)
    (separated : if first then separator = [] else ∃ after, Blank after ∧ separator = after ++ [',']) :
    ∃ after, Blank after ∧
      Lists first ((before ++ (piece ++ after)) :: wholes) closing (separator ++ (before ++ (piece ++ left))) rest := by
  obtain ⟨gap, blankGap, after, blankAfter, rfl⟩ := further
  refine ⟨after, blankAfter, gap, blankGap, ?_⟩
  cases first with
  | true =>
    cases separated
    simp [joinedCons]
  | false =>
    obtain ⟨blank, only, rfl⟩ := separated
    exact ⟨blank, only, by simp⟩

theorem nextItemClosed {first : Bool} {text rest : Text} (next : nextItem first text = .ok (.close rest)) :
    ∃ blank, Blank blank ∧ text = blank ++ ']' :: rest := by
  unfold nextItem at next
  split at next
  · cases next
  · next c tail skipped =>
    split at next
    · next closing =>
      cases next
      exact closing ▸ blanksBefore skipped
    · split at next
      · cases next
      · split at next
        · split at next
          · cases next
          · split at next <;> cases next
        · cases next

theorem nextItemSeparated {first : Bool} {text start : Text} (next : nextItem first text = .ok (.item start)) :
    ∃ separator before, Blank before ∧ text = separator ++ (before ++ start) ∧
      if first then separator = [] else ∃ after, Blank after ∧ separator = after ++ [','] := by
  unfold nextItem at next
  split at next
  · cases next
  · next c tail skipped =>
    obtain ⟨blank, only, rfl⟩ := blanksBefore skipped
    split at next
    · cases next
    · split at next
      · next isFirst => cases next; exact ⟨[], blank, only, rfl, by simp [isFirst]⟩
      · next later =>
        split at next
        · next comma =>
          split at next
          · cases next
          · next d more skippedMore =>
            obtain ⟨before, blankBefore, rfl⟩ := blanksBefore skippedMore
            split at next
            · cases next
            · cases next
              exact ⟨blank ++ [','], before, blankBefore, by simp [comma], by simpa [later] using only⟩
        · cases next

theorem itemAccepted {first : Bool} {text before piece left rest : Text} {source : Value} {sources : List Item}
    (next : nextItem first text = .ok (.item (before ++ (piece ++ left)))) (blank : Blank before)
    (spelledFirst : Spells piece source) (further : Lists false (sources.map (·.whole)) ']' left rest)
    (spelled : ∀ source ∈ sources, Spells source.text source.value) : ∃ item : Item, item.value = source ∧
      Lists first ((item :: sources).map (·.whole)) ']' text rest ∧
        ∀ source ∈ item :: sources, Spells source.text source.value := by
  obtain ⟨separator, blanks, only, rfl, separated⟩ := nextItemSeparated next
  obtain ⟨after, blankAfter, lists⟩ := @listsCons _ _ _ _ (blanks ++ before) piece _ _ further separated
  refine ⟨⟨blanks ++ before, piece, after, source, blankAppend only blank, blankAfter⟩, rfl, ?_,
    List.forall_mem_cons.mpr ⟨spelledFirst, spelled⟩⟩
  simpa [Item.whole] using lists

theorem itemsAccepted {item : Reader α} {Holds : Value → α → Prop} (accepts : Accepts item Holds) {first : Bool}
    {text : Text} {values : List α} {rest : Text} (read : items item first text = .ok values rest) :
    ∃ sources : List Item, Lists first (sources.map (·.whole)) ']' text rest ∧
      (∀ source ∈ sources, Spells source.text source.value) ∧
        List.Forall₂ (fun source value => Holds source.value value) sources values := by
  -- An item that has been read is put in front of what the items behind it have been found to spell.
  fun_induction items item first text generalizing values with
  | case1 => cases read
  | case2 first text rest next =>
    cases read
    obtain ⟨blank, only, rfl⟩ := nextItemClosed next
    exact ⟨[], listsNone first only rest, List.forall_mem_nil _, .nil⟩
  | case3 first text start next value left found ih =>
    obtain ⟨more, deeper, rfl⟩ := Reading.mapOk read
    obtain ⟨sources, further, spelled, held⟩ := ih deeper
    obtain ⟨before, piece, source, blank, spelledFirst, rfl, holds⟩ := accepts _ _ _ found
    obtain ⟨item, rfl, lists, spelled⟩ := itemAccepted next blank spelledFirst further spelled
    exact ⟨item :: sources, lists, spelled, .cons holds held⟩
  | case4 => cases read
  | case5 => cases read

def AcceptsMember (reader : Reader α) (Holds : Value → α → Prop) : Prop :=
  ∀ text result rest, reader.read text = .ok result rest → ∃ gap before piece source,
    Blank gap ∧ Blank before ∧ Spells piece source ∧ text = gap ++ ':' :: (before ++ (piece ++ rest)) ∧
      Holds source result

theorem Accepts.afterColon {reader : Reader α} {Holds : Value → α → Prop} (accepts : Accepts reader Holds) (f : α → β) :
    AcceptsMember (reader.afterColon.map f) fun source result => ∃ found, Holds source found ∧ f found = result := by
  intro text result rest read
  obtain ⟨found, behind, same⟩ := Reading.mapOk read
  simp only [Reader.afterColon] at behind
  split at behind
  · next start colonFound =>
    unfold colon at colonFound
    split at colonFound
    · cases colonFound
    · next c tail skipped =>
      split at colonFound
      · next isColon =>
        cases colonFound
        obtain ⟨gap, blankGap, rfl⟩ := blanksBefore skipped
        obtain ⟨before, piece, source, blank, spelled, rfl, holds⟩ := accepts _ _ _ behind
        exact ⟨gap, before, piece, source, blankGap, blank, spelled, by rw [isColon], found, holds, same⟩
      · cases colonFound
  · cases behind

theorem AcceptsMember.imp {reader : Reader α} {Holds Also : Value → α → Prop} (accepts : AcceptsMember reader Holds)
    (imp : ∀ source result, Holds source result → Also source result) : AcceptsMember reader Also := by
  intro text result rest read
  obtain ⟨gap, before, piece, source, blankGap, blank, spelled, split, holds⟩ := accepts _ _ _ read
  exact ⟨gap, before, piece, source, blankGap, blank, spelled, split, imp _ _ holds⟩

inductive Ran (Took : σ → Member → σ → Prop) : σ → List Member → σ → Prop where
  | nil (state) : Ran Took state [] state
  | cons {state next final member list} (took : Took state member next) (later : Ran Took next list final) :
      Ran Took state (member :: list) final

theorem memberNameSpelled {text name rest : Text} (read : memberName text = .ok (.member name rest)) :
    ∃ body, SpellsCharacters body name ∧ text = '"' :: (body ++ '"' :: rest) := by
  unfold memberName at read
  split at read
  · cases read
  · split at read
    · next quote =>
      obtain ⟨_, found, same⟩ := mapOk read
      cases same
      obtain ⟨body, all, rfl⟩ := charactersIff.mp found
      exact ⟨body, all, by rw [quote]⟩
    · cases read

theorem nextMemberClosed {first : Bool} {text rest : Text} (next : nextMember first text = .ok (.close rest)) :
    ∃ blank, Blank blank ∧ text = blank ++ '\x7d' :: rest := by
  unfold nextMember at next
  split at next
  · cases next
  · next c tail skipped =>
    split at next
    · next closing =>
      cases next
      exact closing ▸ blanksBefore skipped
    · split at next
      · exact absurd next memberNameClose
      · split at next
        · split at next
          · cases next
          · split at next
            · cases next
            · exact absurd next memberNameClose
        · cases next

theorem nextMemberSeparated {first : Bool} {text name start : Text}
    (next : nextMember first text = .ok (.member name start)) : ∃ separator before body, Blank before ∧
      SpellsCharacters body name ∧ text = separator ++ (before ++ '"' :: (body ++ '"' :: start)) ∧
        if first then separator = [] else ∃ after, Blank after ∧ separator = after ++ [','] := by
  unfold nextMember at next
  split at next
  · cases next
  · next c tail skipped =>
    obtain ⟨blank, only, rfl⟩ := blanksBefore skipped
    split at next
    · cases next
    · split at next
      · next isFirst =>
        obtain ⟨body, all, same⟩ := memberNameSpelled next
        exact ⟨[], blank, body, only, all, by rw [same]; rfl, by simp [isFirst]⟩
      · next later =>
        split at next
        · next comma =>
          split at next
          · cases next
          · next d more skippedMore =>
            obtain ⟨before, blankBefore, rfl⟩ := blanksBefore skippedMore
            split at next
            · cases next
            · obtain ⟨body, all, same⟩ := memberNameSpelled next
              exact ⟨blank ++ [','], before, body, blankBefore, all, by rw [same, comma]; simp,
                by simpa [later] using only⟩
        · cases next

theorem membersAccepted {step : σ → Text → Reader σ} {Took : σ → Member → σ → Prop}
    (accepts : ∀ state name, AcceptsMember (step state name) fun source next => Took state ⟨name, source⟩ next)
    {state final : σ} {first : Bool} {text rest : Text} (read : members step state first text = .ok final rest) :
    ∃ entries : List Entry, Lists first (entries.map (·.whole)) '\x7d' text rest ∧
      (∀ entry ∈ entries, Spells entry.item.text entry.item.value) ∧
        Ran Took state (entries.map (·.member)) final := by
  fun_induction members step state first text with
  | case1 => cases read
  | case2 state first text rest next =>
    cases read
    obtain ⟨blank, only, rfl⟩ := nextMemberClosed next
    exact ⟨[], listsNone first only rest, List.forall_mem_nil _, .nil _⟩
  | case3 state first text name start next middle left found ih =>
    obtain ⟨entries, further, spelled, ran⟩ := ih read
    obtain ⟨gap, before, piece, source, blankGap, blank, spelledFirst, rfl, took⟩ := accepts _ _ _ _ _ found
    obtain ⟨separator, blanks, body, only, named, rfl, separated⟩ := nextMemberSeparated next
    obtain ⟨after, blankAfter, lists⟩ :=
      @listsCons _ _ _ _ blanks ('"' :: (body ++ '"' :: (gap ++ ':' :: (before ++ piece)))) _ _ further separated
    refine ⟨⟨blanks, body, gap, name, ⟨before, piece, after, source, blank, blankAfter⟩, only, blankGap, named⟩ ::
      entries, ?_, List.forall_mem_cons.mpr ⟨spelledFirst, spelled⟩, .cons took ran⟩
    simpa [Entry.whole, Item.whole] using lists
  | case4 => cases read
  | case5 => cases read

theorem arraySpelled {sources : List Item} {text rest : Text} (lists : Lists true (sources.map (·.whole)) ']' text rest)
    (each : ∀ source ∈ sources, Spells source.text source.value) :
    ∃ piece, Spells piece (.array (sources.map (·.value))) ∧ '[' :: text = piece ++ rest := by
  obtain ⟨gap, blank, rfl⟩ := lists
  exact ⟨_, .array each blank, by simp⟩

theorem objectSpelled {entries : List Entry} {text rest : Text}
    (lists : Lists true (entries.map (·.whole)) '\x7d' text rest)
    (each : ∀ entry ∈ entries, Spells entry.item.text entry.item.value) :
    ∃ piece, Spells piece (.object (entries.map (·.member))) ∧ '\x7b' :: text = piece ++ rest := by
  obtain ⟨gap, blank, rfl⟩ := lists
  exact ⟨_, .object each blank, by simp⟩

theorem keptItems {bound : Nat} {sources : List Item} {values : List Value}
    (held : List.Forall₂ (fun source value => value = source.value ∧ source.value.depth ≤ bound) sources values) :
    values = sources.map (·.value) ∧ ∀ value ∈ values, value.depth ≤ bound := by
  induction held with
  | nil => simp
  | cons first _ ih =>
    obtain ⟨rfl, shallow⟩ := first
    obtain ⟨rfl, later⟩ := ih
    exact ⟨rfl, List.forall_mem_cons.mpr ⟨shallow, later⟩⟩

theorem keptRan {bound : Nat} {state final list : List Member} (ran : Ran
      (fun found member next => next = found ++ [member] ∧ member.value.depth ≤ bound) state list final) :
    final = state ++ list ∧ ∀ member ∈ list, member.value.depth ≤ bound := by
  induction ran with
  | nil => simp
  | cons took _ ih =>
    obtain ⟨rfl, shallow⟩ := took
    obtain ⟨rfl, later⟩ := ih
    exact ⟨by simp, List.forall_mem_cons.mpr ⟨shallow, later⟩⟩

theorem bracketedAccepts {inner : Option (Reader Value)} {depth : Nat} (each : ∀ reader ∈ inner, ∃ below,
      depth = below + 1 ∧ Accepts reader fun source value => value = source ∧ source.depth ≤ below) :
    Accepts (bracketed inner) fun source value => value = source ∧ source.depth ≤ depth := by
  intro text value rest read
  simp only [bracketed] at read
  split at read
  · cases read
  · next c tail skipped =>
    obtain ⟨before, blank, rfl⟩ := blanksBefore skipped
    split at read
    · next opened =>
      split at read
      · cases read
      · next reader =>
        obtain ⟨below, rfl, accepts⟩ := each reader rfl
        split at read
        · next isArray =>
          obtain ⟨values, found, rfl⟩ := Reading.mapOk read
          obtain ⟨sources, lists, spelled, held⟩ := itemsAccepted accepts found
          obtain ⟨piece, whole, split⟩ := arraySpelled lists spelled
          obtain ⟨rfl, shallow⟩ := keptItems held
          exact ⟨before, piece, _, blank, whole, by rw [isArray, split], rfl, Value.depthLe.mpr shallow⟩
        · next isObject =>
          obtain ⟨list, found, rfl⟩ := Reading.mapOk read
          have took (state : List Member) (name : Text) : AcceptsMember
              (reader.afterColon.map fun value => state ++ [⟨name, value⟩]) fun source next =>
                next = state ++ [⟨name, source⟩] ∧ source.depth ≤ below := by
            refine (accepts.afterColon _).imp ?_
            rintro source next ⟨_, ⟨rfl, shallow⟩, rfl⟩
            exact ⟨rfl, shallow⟩
          obtain ⟨entries, lists, spelled, ran⟩ := @membersAccepted _ _
            (fun found member next => next = found ++ [member] ∧ member.value.depth ≤ below) took _ _ _ _ _ found
          obtain ⟨piece, whole, split⟩ := objectSpelled lists spelled
          obtain ⟨rfl, shallow⟩ := keptRan ran
          have isBrace : c = '\x7b' := opened.resolve_left isObject
          refine ⟨before, piece, _, blank, whole, by rw [isBrace, split], rfl, Value.depthLe.mpr ?_⟩
          simpa [Value.inner] using shallow
    · obtain ⟨piece, spelled, flat, split⟩ := scalarSpelled (Reading.ofScanOk read)
      exact ⟨before, piece, value, blank, spelled, by rw [split], rfl, by omega⟩

theorem anyAccepts (depth : Nat) :
    Accepts (anyValue depth) fun source value => value = source ∧ source.depth ≤ depth := by
  induction depth with
  | zero => exact bracketedAccepts fun _ found => nomatch found
  | succ depth ih =>
    refine bracketedAccepts fun reader found => ?_
    cases found
    exact ⟨depth, rfl, ih⟩

theorem listOfAccepts {item : Nat → Reader α} {Holds : Value → α → Prop}
    (accepts : ∀ depth, Accepts (item depth) fun source result => source.depth ≤ depth ∧ Holds source result)
    (depth : Nat) : Accepts (listOf item depth) fun source results => source.depth ≤ depth ∧
      ∃ sources, source = .array sources ∧ List.Forall₂ Holds sources results := by
  intro text results rest read
  simp only [listOf] at read
  split at read
  · cases read
  · next c tail skipped =>
    obtain ⟨before, blank, rfl⟩ := blanksBefore skipped
    split at read
    · next isArray =>
      cases depth with
      | zero => cases read
      | succ below =>
        obtain ⟨sources, lists, spelled, held⟩ := itemsAccepted (accepts below) (Reading.placedOk read)
        obtain ⟨piece, whole, split⟩ := arraySpelled lists spelled
        have shallow : ∀ item ∈ sources.map (·.value), item.depth ≤ below := by
          rw [List.forall_mem_map]
          intro source inside
          obtain ⟨i, bound, rfl⟩ := List.getElem_of_mem inside
          exact ((List.forall₂_iff_get.mp held).2 i bound (held.length_eq ▸ bound)).1
        refine ⟨before, piece, _, blank, whole, by rw [isArray, split], Value.depthLe.mpr shallow, _, rfl, ?_⟩
        rw [List.forall₂_map_left_iff]
        exact held.imp fun _ _ holds => holds.2
    · cases read

theorem decodeRead {reader : Reader α} {text : Text} {value : α} (decoded : decode reader text = .ok value) :
    ∃ rest, reader.read text = .ok value rest ∧ Blank rest := by
  simp only [decode] at decoded
  split at decoded
  · next value rest read =>
    split at decoded
    · next ends =>
      cases decoded
      exact ⟨rest, read, List.dropWhile_eq_nil_iff.mp ends⟩
    · cases decoded
  · cases decoded
  · cases decoded

theorem decodeAccepted {reader : Reader α} {Holds : Value → α → Prop} (accepts : Accepts reader Holds) {text : Text}
    {result : α} (decoded : decode reader text = .ok result) :
    ∃ source, Document text source ∧ Holds source result := by
  obtain ⟨rest, read, blankRest⟩ := decodeRead decoded
  obtain ⟨before, piece, source, blank, spelled, rfl, holds⟩ := accepts _ _ _ read
  exact ⟨source, ⟨⟨before, piece, rest, source, blank, blankRest⟩, rfl, rfl, spelled⟩, holds⟩

end TypeLens.Json
