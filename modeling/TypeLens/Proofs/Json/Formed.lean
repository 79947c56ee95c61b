import TypeLens.Proofs.Json.Accepted
import TypeLens.Proofs.Json.ReadsBack

/-! Texts that are JSON by their syntax alone. Such a text need not stand for a value that a reader can hold, since an
escape may be one half of a pair and a number may be too large. But whatever is read where it stands is this text, to
its end. -/
namespace TypeLens.Json

inductive FormsCharacters : Text → Prop where
  | nil : FormsCharacters []
  | plain {c body} (quote : c ≠ '"') (backslash : c ≠ '\\') (visible : ¬c.toNat < 0x20)
      (later : FormsCharacters body) : FormsCharacters (c :: body)
  | short {letter c body} (known : shortEscape letter = some c) (later : FormsCharacters body) :
      FormsCharacters ('\\' :: letter :: body)
  | unit {digits unit body} (four : fourDigits? digits = some (unit, [])) (later : FormsCharacters body) :
      FormsCharacters ('\\' :: 'u' :: (digits ++ body))

structure Piece where
  before : Text
  text : Text
  after : Text
  blankBefore : Blank before
  blankAfter : Blank after

def Piece.whole (piece : Piece) : Text := piece.before ++ (piece.text ++ piece.after)

structure NamedPiece where
  before : Text
  body : Text
  gap : Text
  piece : Piece
  blankBefore : Blank before
  blankGap : Blank gap
  named : FormsCharacters body

def NamedPiece.whole (named : NamedPiece) : Text :=
  named.before ++ '"' :: (named.body ++ '"' :: (named.gap ++ ':' :: named.piece.whole))

inductive Forms : Nat → Text → Prop where
  | null {bound} : Forms bound "null"
  | false {bound} : Forms bound "false"
  | true {bound} : Forms bound "true"
  | number {bound text numeral} (spelled : SpellsNumeral text numeral) : Forms bound text
  | string {bound body} (all : FormsCharacters body) : Forms bound ('"' :: (body ++ ['"']))
  | array {bound} {pieces : List Piece} {gap} (each : ∀ piece ∈ pieces, Forms bound piece.text) (blank : Blank gap) :
      Forms (bound + 1) ('[' :: (Text.joined [','] (pieces.map (·.whole)) ++ (gap ++ [']'])))
  | object {bound} {entries : List NamedPiece} {gap} (each : ∀ entry ∈ entries, Forms bound entry.piece.text)
      (blank : Blank gap) :
      Forms (bound + 1) ('\x7b' :: (Text.joined [','] (entries.map (·.whole)) ++ (gap ++ ['\x7d'])))

def Piece.SpellsUpTo (bound : Nat) (piece : Piece) (value : Value) : Prop :=
  Spells piece.text value ∧ value.depth ≤ bound

def NamedPiece.SpellsUpTo (bound : Nat) (entry : NamedPiece) (member : Member) : Prop :=
  SpellsCharacters entry.body member.name ∧ entry.piece.SpellsUpTo bound member.value

theorem fourDigitsLength {digits : Text} {unit : Nat} (four : fourDigits? digits = some (unit, [])) :
    digits.length = 4 := by
  unfold fourDigits? at four
  split at four
  · simp only [bind, Option.bind_eq_some_iff, Option.some.injEq, Prod.mk.injEq] at four
    obtain ⟨_, _, _, _, _, _, _, _, _, rfl⟩ := four
    rfl
  · cases four

variable {body rest tail : Text}

theorem unitTaken (formed : FormsCharacters body) {digits : Text} {unit : Nat}
    (four : fourDigits? digits = some (unit, [])) (same : body ++ '"' :: rest = '\\' :: 'u' :: (digits ++ tail)) :
    ∃ further, FormsCharacters further ∧ body = '\\' :: 'u' :: (digits ++ further) ∧ tail = further ++ '"' :: rest := by
  cases formed with
  | nil => cases same
  | plain _ backslash => exact absurd (List.cons.inj same).1 backslash
  | short known =>
    obtain ⟨rfl, _⟩ := List.cons.inj (List.cons.inj same).2
    simp [shortEscape] at known
  | @unit digits' _ further four' later =>
    simp only [List.cons_append, List.append_assoc, List.cons.injEq, true_and] at same
    obtain ⟨rfl, rfl⟩ := List.append_inj same (by rw [fourDigitsLength four, fourDigitsLength four'])
    exact ⟨further, later, rfl, rfl⟩

theorem characterTaken (formed : FormsCharacters body) {piece : Text} {c : Char} (spelled : SpellsCharacter piece c)
    (same : body ++ '"' :: rest = piece ++ tail) :
    ∃ further, FormsCharacters further ∧ body = piece ++ further ∧ tail = further ++ '"' :: rest := by
  cases spelled with
  | plain quote backslash visible =>
    cases formed with
    | nil => exact absurd (List.cons.inj same).1.symm quote
    | plain _ _ _ later =>
      obtain ⟨rfl, rfl⟩ := List.cons.inj same
      exact ⟨_, later, rfl, rfl⟩
    | short | unit => exact absurd (List.cons.inj same).1.symm backslash
  | short known =>
    cases formed with
    | nil => cases same
    | plain _ backslash => exact absurd (List.cons.inj same).1 backslash
    | short _ later =>
      obtain ⟨rfl, rfl⟩ := List.cons.inj (List.cons.inj same).2
      exact ⟨_, later, rfl, rfl⟩
    | unit =>
      obtain ⟨rfl, _⟩ := List.cons.inj (List.cons.inj same).2
      simp [shortEscape] at known
  | unit four =>
    obtain ⟨further, later, rfl, rfl⟩ := unitTaken formed four same
    exact ⟨further, later, rfl, rfl⟩
  | pair four fourLow =>
    rw [List.cons_append, List.cons_append, List.append_assoc] at same
    obtain ⟨_, later, rfl, again⟩ := unitTaken formed four same
    obtain ⟨further, last, rfl, rfl⟩ := unitTaken later fourLow again.symm
    exact ⟨further, last, by simp, rfl⟩

theorem charactersTaken (formed : FormsCharacters body) {piece text left : Text} (spelled : SpellsCharacters piece text)
    (same : body ++ '"' :: rest = piece ++ '"' :: left) : body = piece ∧ left = rest := by
  induction spelled generalizing body with
  | nil =>
    cases formed with
    | nil => cases same; exact ⟨rfl, rfl⟩
    | plain quote => exact absurd (List.cons.inj same).1 quote
    | short | unit => cases same
  | cons first _ ih =>
    rw [List.append_assoc] at same
    obtain ⟨further, later, rfl, again⟩ := characterTaken formed first same
    obtain ⟨rfl, rfl⟩ := ih later again.symm
    exact ⟨rfl, rfl⟩

theorem charactersSettled (formed : FormsCharacters body) {text left : Text}
    (read : characters (body ++ '"' :: rest) = .ok (text, left)) : left = rest ∧ SpellsCharacters body text := by
  obtain ⟨piece, spelled, same⟩ := charactersIff.mp read
  obtain ⟨rfl, rfl⟩ := charactersTaken formed spelled same
  exact ⟨rfl, spelled⟩

def Settled (bound : Nat) (text : Text) : Prop :=
  ∀ depth before rest value left, Blank before → Ended rest →
    (anyValue depth).read (before ++ (text ++ rest)) = .ok value left →
      left = rest ∧ Spells text value ∧ value.depth ≤ bound

theorem formsStarts {bound : Nat} {text : Text} (formed : Forms bound text) :
    ∃ c rest, text = c :: rest ∧ isBlank c = false ∧ c ≠ ']' := by
  cases formed with
  | null | false | true | string | array | object => exact ⟨_, _, rfl, rfl, by decide⟩
  | number spelled =>
    obtain ⟨c, rest, same, starts⟩ := numeralStarts spelled
    refine ⟨c, rest, same, startsVisible starts, ?_⟩
    rintro rfl
    simp [startsNumber] at starts

theorem listsEnded {wholes : List Text} {closing : Char} {text rest : Text}
    (lists : Lists false wholes closing text rest) (closes : Ended (closing :: rest)) : Ended text := by
  obtain ⟨gap, blank, after, blankAfter, rfl⟩ := lists
  exact endedBlank blankAfter (endedFurther wholes (endedBlank blank closes))

theorem listsRest {first : Bool} {whole : Text} {wholes : List Text} {closing : Char} {text rest : Text}
    (lists : Lists first (whole :: wholes) closing text rest) : ∃ separator gap, Blank gap ∧
      text = separator ++ (whole ++ (wholes.flatMap (',' :: ·) ++ (gap ++ closing :: rest))) ∧
        if first then separator = [] else ∃ after, Blank after ∧ separator = after ++ [','] := by
  obtain ⟨gap, blank, split⟩ := lists
  cases first with
  | true =>
    rw [if_pos rfl, joinedCons, List.append_assoc] at split
    exact ⟨[], gap, blank, split, rfl⟩
  | false =>
    obtain ⟨after, blankAfter, rfl⟩ := split
    exact ⟨after ++ [','], gap, blank, by simp, after, blankAfter, rfl⟩

theorem listsItem {first : Bool} {piece : Piece} {wholes : List Text} {text rest : Text}
    (lists : Lists first (piece.whole :: wholes) ']' text rest)
    (starts : ∃ c rest, piece.text = c :: rest ∧ isBlank c = false ∧ c ≠ ']') :
    ∃ left, nextItem first text = .ok (.item (piece.text ++ left)) ∧ Lists false wholes ']' left rest := by
  obtain ⟨separator, gap, blank, rfl, separated⟩ := listsRest lists
  refine ⟨piece.after ++ (wholes.flatMap (',' :: ·) ++ (gap ++ ']' :: rest)), ?_, gap, blank, piece.after,
    piece.blankAfter, rfl⟩
  rw [Piece.whole, List.append_assoc, List.append_assoc]
  cases first with
  | true =>
    cases separated
    exact nextItemFirst starts piece.blankBefore _
  | false =>
    obtain ⟨after, blankAfter, rfl⟩ := separated
    rw [List.append_assoc]
    exact nextItemLater starts blankAfter piece.blankBefore _

theorem itemsOk {α : Type} {item : Reader α} {first : Bool} {text start rest : Text} {values : List α}
    (next : nextItem first text = .ok (.item start)) (read : items item first text = .ok values rest) :
    ∃ value left more, item.read start = .ok value left ∧ items item false left = .ok more rest ∧
      values = value :: more := by
  rw [itemsOpened next] at read
  obtain ⟨value, left, found, further⟩ := Reading.andThenOk read
  obtain ⟨more, later, rfl⟩ := Reading.mapOk further
  exact ⟨value, left, more, found, later, rfl⟩

theorem listsNil {first : Bool} {closing : Char} {text rest : Text} (lists : Lists first [] closing text rest) :
    ∃ blank, Blank blank ∧ text = blank ++ closing :: rest := by
  obtain ⟨gap, blank, split⟩ := lists
  cases first with
  | true => exact ⟨gap, blank, split⟩
  | false =>
    obtain ⟨after, blankAfter, rfl⟩ := split
    exact ⟨after ++ gap, blankAppend blankAfter blank, by simp⟩

theorem itemsSettled {bound : Nat} {pieces : List Piece} (formed : ∀ piece ∈ pieces, Forms bound piece.text)
    (each : ∀ piece ∈ pieces, Settled bound piece.text) {first : Bool} {text rest : Text}
    (lists : Lists first (pieces.map (·.whole)) ']' text rest) {depth : Nat} {values : List Value} {left : Text}
    (read : items (anyValue depth) first text = .ok values left) : left = rest ∧
      List.Forall₂ (Piece.SpellsUpTo bound) pieces values := by
  induction pieces generalizing first text values with
  | nil =>
    obtain ⟨blank, only, rfl⟩ := listsNil lists
    rw [itemsClose first only] at read
    cases read
    exact ⟨rfl, .nil⟩
  | cons piece pieces ih =>
    obtain ⟨formedFirst, formedLater⟩ := List.forall_mem_cons.mp formed
    obtain ⟨settled, later⟩ := List.forall_mem_cons.mp each
    obtain ⟨behind, next, further⟩ := listsItem lists (formsStarts formedFirst)
    obtain ⟨value, left', more, found, readLater, rfl⟩ := itemsOk next read
    obtain ⟨rfl, spelled, shallow⟩ :=
      settled depth [] behind value left' blankNil (listsEnded further (endedBracket rest).1) found
    obtain ⟨rfl, spelledLater⟩ := ih formedLater later further readLater
    exact ⟨rfl, .cons ⟨spelled, shallow⟩ spelledLater⟩

theorem listsMember {first : Bool} {entry : NamedPiece} {wholes : List Text} {text rest : Text}
    (lists : Lists first (entry.whole :: wholes) '\x7d' text rest) : ∃ left, nextMember first text =
      memberName ('"' :: (entry.body ++ '"' ::
        (entry.gap ++ ':' :: (entry.piece.before ++ (entry.piece.text ++ left))))) ∧
          Lists false wholes '\x7d' left rest := by
  obtain ⟨separator, gap, blank, rfl, separated⟩ := listsRest lists
  refine ⟨entry.piece.after ++ (wholes.flatMap (',' :: ·) ++ (gap ++ '\x7d' :: rest)), ?_, gap, blank,
    entry.piece.after, entry.piece.blankAfter, rfl⟩
  have visible : isBlank '"' = false := rfl
  simp only [NamedPiece.whole, Piece.whole, List.append_assoc, List.cons_append]
  cases first with
  | true =>
    cases separated
    rw [List.nil_append, nextMember, skipsTo entry.blankBefore visible]
    rfl
  | false =>
    obtain ⟨after, blankAfter, rfl⟩ := separated
    rw [List.append_assoc, List.singleton_append, nextMember, skipsTo blankAfter rfl]
    simp [skipsTo entry.blankBefore visible]

section
variable {σ : Type} {step : σ → Text → Reader σ} {state final : σ} {first : Bool} {name text start rest : Text}

theorem membersStarted (read : members step state first text = .ok final rest) :
    ∃ next, nextMember first text = .ok next := by
  rw [membersParts] at read
  obtain ⟨next, found, _⟩ := Reading.afterScanOk read
  exact ⟨next, found⟩

theorem membersOk (next : nextMember first text = .ok (.member name start))
    (read : members step state first text = .ok final rest) :
    ∃ middle left, (step state name).read start = .ok middle left ∧
      members step middle false left = .ok final rest := by
  rw [membersOpened next] at read
  exact Reading.andThenOk read

end

theorem membersSettled {bound : Nat} {entries : List NamedPiece}
    (each : ∀ entry ∈ entries, Settled bound entry.piece.text) {first : Bool} {text rest : Text}
    (lists : Lists first (entries.map (·.whole)) '\x7d' text rest) {depth : Nat} {found final : List Member}
    {left : Text} (read : members (fun found name => (anyValue depth).afterColon.map fun value =>
      found ++ [⟨name, value⟩]) found first text = .ok final left) :
    left = rest ∧ ∃ list, final = found ++ list ∧ List.Forall₂ (NamedPiece.SpellsUpTo bound) entries list := by
  induction entries generalizing first text found with
  | nil =>
    obtain ⟨blank, only, rfl⟩ := listsNil lists
    rw [membersClose found first only] at read
    cases read
    exact ⟨rfl, [], by simp, .nil⟩
  | cons entry entries ih =>
    obtain ⟨settled, later⟩ := List.forall_mem_cons.mp each
    obtain ⟨behind, next, further⟩ := listsMember lists
    obtain ⟨_, named⟩ := membersStarted read
    rw [next, memberName, if_pos rfl] at named
    obtain ⟨⟨name, start⟩, nameRead, rfl⟩ := mapOk named
    obtain ⟨rfl, spelledName⟩ := charactersSettled entry.named nameRead
    rw [memberName, if_pos rfl, nameRead] at next
    obtain ⟨middle, left', memberRead, readLater⟩ := membersOk next read
    obtain ⟨value, valueRead, rfl⟩ := Reading.mapOk memberRead
    have afterColon : colon (entry.gap ++ ':' :: (entry.piece.before ++ (entry.piece.text ++ behind))) =
        .ok (entry.piece.before ++ (entry.piece.text ++ behind)) := by
      rw [colon, skipsTo entry.blankGap rfl]
      rfl
    simp only [Reader.afterColon, afterColon] at valueRead
    obtain ⟨rfl, spelled, shallow⟩ := settled depth _ behind value left' entry.piece.blankBefore
      (listsEnded further (endedBracket rest).2.1) valueRead
    obtain ⟨rfl, list, rfl, spelledLater⟩ := ih later further readLater
    exact ⟨rfl, ⟨name, value⟩ :: list, by simp, .cons ⟨spelledName, spelled, shallow⟩ spelledLater⟩

theorem arrayOpened {bound : Nat} {pieces : List Piece} (formed : ∀ piece ∈ pieces, Forms bound piece.text)
    (each : ∀ piece ∈ pieces, Settled bound piece.text) {gap : Text} (blank : Blank gap) {depth : Nat}
    {before rest left : Text} {value : Value} (only : Blank before) (read : (anyValue depth).read
      (before ++ ('[' :: (Text.joined [','] (pieces.map (·.whole)) ++ (gap ++ [']'])) ++ rest)) = .ok value left) :
    left = rest ∧ ∃ values, value = .array values ∧
      List.Forall₂ (Piece.SpellsUpTo bound) pieces values := by
  have visible : isBlank '[' = false := rfl
  rw [anyValueForm] at read
  simp only [bracketed, List.cons_append, skipsTo only visible, true_or, if_true] at read
  cases depth with
  | zero => cases read
  | succ below =>
    obtain ⟨values, inside, rfl⟩ := Reading.mapOk read
    have lists : Lists true (pieces.map (·.whole)) ']'
        (Text.joined [','] (pieces.map (·.whole)) ++ (gap ++ [']']) ++ rest) rest := ⟨gap, blank, by simp⟩
    obtain ⟨rfl, spelled⟩ := itemsSettled formed each lists inside
    exact ⟨rfl, values, rfl, spelled⟩

theorem objectOpened {bound : Nat} {entries : List NamedPiece}
    (each : ∀ entry ∈ entries, Settled bound entry.piece.text) {gap : Text} (blank : Blank gap) {depth : Nat}
    {before rest left : Text} {value : Value} (only : Blank before) (read : (anyValue depth).read
      (before ++ ('\x7b' :: (Text.joined [','] (entries.map (·.whole)) ++ (gap ++ ['\x7d'])) ++ rest)) =
        .ok value left) :
    left = rest ∧ ∃ list, value = .object list ∧
      List.Forall₂ (NamedPiece.SpellsUpTo bound) entries list := by
  have visible : isBlank '\x7b' = false := rfl
  have noList : ('\x7b' = '[') = False := by simp
  rw [anyValueForm] at read
  simp only [bracketed, List.cons_append, skipsTo only visible, or_true, if_true, noList, if_false] at read
  cases depth with
  | zero => cases read
  | succ below =>
    obtain ⟨list, inside, rfl⟩ := Reading.mapOk read
    have lists : Lists true (entries.map (·.whole)) '\x7d'
        (Text.joined [','] (entries.map (·.whole)) ++ (gap ++ ['\x7d']) ++ rest) rest := ⟨gap, blank, by simp⟩
    obtain ⟨rfl, _, rfl, spelled⟩ := membersSettled each lists inside
    exact ⟨rfl, list, rfl, spelled⟩

theorem arrayBuilt {bound : Nat} {pieces : List Piece} {values : List Value} (spelled :
      List.Forall₂ (Piece.SpellsUpTo bound) pieces values)
    {gap : Text} (blank : Blank gap) :
    Spells ('[' :: (Text.joined [','] (pieces.map (·.whole)) ++ (gap ++ [']']))) (.array values) ∧
      (Value.array values).depth ≤ bound + 1 := by
  have built : ∃ items : List Item, items.map (·.whole) = pieces.map (·.whole) ∧ items.map (·.value) = values ∧
      ∀ item ∈ items, Spells item.text item.value ∧ item.value.depth ≤ bound := by
    induction spelled with
    | nil => exact ⟨[], rfl, rfl, List.forall_mem_nil _⟩
    | @cons piece value _ _ first _ ih =>
      obtain ⟨items, wholes, rfl, each⟩ := ih
      refine ⟨⟨piece.before, piece.text, piece.after, value, piece.blankBefore, piece.blankAfter⟩ :: items, ?_, rfl,
        List.forall_mem_cons.mpr ⟨first, each⟩⟩
      rw [List.map_cons, List.map_cons, wholes]
      rfl
  obtain ⟨items, wholes, rfl, each⟩ := built
  rw [← wholes]
  exact ⟨.array (fun item inside => (each item inside).1) blank,
    Value.depthLe.mpr (List.forall_mem_map.mpr fun item inside => (each item inside).2)⟩

theorem objectBuilt {bound : Nat} {entries : List NamedPiece} {list : List Member} (spelled :
      List.Forall₂ (NamedPiece.SpellsUpTo bound) entries list)
    {gap : Text} (blank : Blank gap) :
    Spells ('\x7b' :: (Text.joined [','] (entries.map (·.whole)) ++ (gap ++ ['\x7d']))) (.object list) ∧
      (Value.object list).depth ≤ bound + 1 := by
  have built : ∃ found : List Entry, found.map (·.whole) = entries.map (·.whole) ∧ found.map (·.member) = list ∧
      ∀ entry ∈ found, Spells entry.item.text entry.item.value ∧ entry.item.value.depth ≤ bound := by
    induction spelled with
    | nil => exact ⟨[], rfl, rfl, List.forall_mem_nil _⟩
    | @cons entry member _ _ first _ ih =>
      obtain ⟨found, wholes, rfl, each⟩ := ih
      obtain ⟨named, spelled, shallow⟩ := first
      cases member
      refine ⟨⟨entry.before, entry.body, entry.gap, _, ⟨entry.piece.before, entry.piece.text,
        entry.piece.after, _, entry.piece.blankBefore, entry.piece.blankAfter⟩, entry.blankBefore,
        entry.blankGap, named⟩ :: found, ?_, rfl, List.forall_mem_cons.mpr ⟨⟨spelled, shallow⟩, each⟩⟩
      rw [List.map_cons, List.map_cons, wholes]
      rfl
  obtain ⟨found, wholes, rfl, each⟩ := built
  rw [← wholes]
  refine ⟨.object (fun entry inside => (each entry inside).1) blank, Value.depthLe.mpr ?_⟩
  simpa [Value.inner, Entry.member] using fun entry inside => (each entry inside).2

theorem spelledSettled {bound : Nat} {text : Text} {source : Value} (spelled : Spells text source)
    (shallow : source.depth ≤ bound) : Settled bound text := by
  intro depth before rest value left blank ended read
  have outcome := anyReads source before text blank spelled depth rest ended
  by_cases fits : source.depth ≤ depth
  · rw [outcome.ok fits] at read
    cases read
    exact ⟨rfl, spelled, shallow⟩
  · obtain ⟨place, failed⟩ := outcome.tooDeep fits
    rw [failed] at read
    cases read

theorem numeralSettled {bound : Nat} {text : Text} {numeral : Numeral} (spelled : SpellsNumeral text numeral) :
    Settled bound text := by
  have named {value : Value} (names : numeral.Names value) : Settled bound text :=
    spelledSettled (.number spelled names) (by cases names <;> simp [Value.depth])
  cases whole : numeral.integer? with
  | some n => exact named (.integer whole)
  | none =>
    cases near : numeral.real? with
    | some x => exact named (.real whole near)
    | none =>
      intro depth before rest value left blank ended read
      obtain ⟨place, stops⟩ := numberStops spelled whole near ended
      obtain ⟨c, digits, rfl, starts⟩ := numeralStarts spelled
      rw [anyValueForm] at read
      rw [List.cons_append] at read stops
      simp only [bracketed, skipsTo blank (startsVisible starts), if_neg (startsUnopened starts), scalarNumber starts,
        stops, Reading.ofScan] at read
      cases read

theorem stringSettled {bound : Nat} {body : Text} (all : FormsCharacters body) :
    Settled bound ('"' :: (body ++ ['"'])) := by
  intro depth before rest value left blank ended read
  have visible : isBlank '"' = false := rfl
  have unopened : ¬('"' = '[' ∨ '"' = '\x7b') := by decide
  rw [anyValueForm] at read
  simp only [bracketed, List.cons_append, List.append_assoc, skipsTo blank visible, if_neg unopened] at read
  obtain ⟨⟨text, _⟩, found, same⟩ := mapOk (Reading.ofScanOk read)
  cases same
  obtain ⟨rfl, spelled⟩ := charactersSettled all found
  exact ⟨rfl, .string spelled, by simp [Value.depth]⟩

theorem formsSettled {bound : Nat} {text : Text} (formed : Forms bound text) : Settled bound text := by
  induction formed with
  | null => exact spelledSettled .null (by simp [Value.depth])
  | false => exact spelledSettled .false (by simp [Value.depth])
  | true => exact spelledSettled .true (by simp [Value.depth])
  | number spelled => exact numeralSettled spelled
  | string all => exact stringSettled all
  | array formed blank ih =>
    intro depth before rest value left only ended read
    obtain ⟨rfl, values, rfl, spelled⟩ := arrayOpened formed ih blank only read
    exact ⟨rfl, arrayBuilt spelled blank⟩
  | object formed blank ih =>
    intro depth before rest value left only ended read
    obtain ⟨rfl, list, rfl, spelled⟩ := objectOpened ih blank only read
    exact ⟨rfl, objectBuilt spelled blank⟩

theorem arrayInside {bound : Nat} {pieces : List Piece} (formed : ∀ piece ∈ pieces, Forms bound piece.text) {gap : Text}
    (blank : Blank gap) {value : Value}
    (spelled : Spells ('[' :: (Text.joined [','] (pieces.map (·.whole)) ++ (gap ++ [']']))) value) :
    ∃ values, value = .array values ∧
      List.Forall₂ (Piece.SpellsUpTo bound) pieces values := by
  have read := (anyReads value [] _ blankNil spelled value.depth [] endedNil).ok (Nat.le_refl _)
  exact (arrayOpened formed (fun piece inside => formsSettled (formed piece inside)) blank blankNil read).2

theorem objectInside {bound : Nat} {entries : List NamedPiece}
    (formed : ∀ entry ∈ entries, Forms bound entry.piece.text) {gap : Text} (blank : Blank gap) {value : Value}
    (spelled : Spells ('\x7b' :: (Text.joined [','] (entries.map (·.whole)) ++ (gap ++ ['\x7d']))) value) :
    ∃ list, value = .object list ∧ List.Forall₂ (NamedPiece.SpellsUpTo bound) entries list := by
  have read := (anyReads value [] _ blankNil spelled value.depth [] endedNil).ok (Nat.le_refl _)
  exact (objectOpened (fun entry inside => formsSettled (formed entry inside)) blank blankNil read).2

def Formed (bound : Nat) (text : Text) : Prop := ∃ piece : Piece, text = piece.whole ∧ Forms bound piece.text

theorem spelledFormsCharacters {body text : Text} (spelled : SpellsCharacters body text) : FormsCharacters body := by
  induction spelled with
  | nil => exact .nil
  | cons first _ ih =>
    cases first with
    | plain quote backslash visible => exact .plain quote backslash visible ih
    | short known => exact .short known ih
    | unit four => exact .unit four ih
    | pair four fourLow =>
      rw [List.cons_append, List.cons_append, List.append_assoc]
      exact .unit four (.unit fourLow ih)

theorem spelledForms {text : Text} {value : Value} (spelled : Spells text value) {bound : Nat}
    (shallow : value.depth ≤ bound) : Forms bound text := by
  induction spelled generalizing bound with
  | null => exact .null
  | false => exact .false
  | true => exact .true
  | number spelled => exact .number spelled
  | string all => exact .string (spelledFormsCharacters all)
  | @array items gap _ blank ih =>
    obtain ⟨below, rfl⟩ : ∃ below, bound = below + 1 := ⟨bound - 1, by simp [Value.depth] at shallow; omega⟩
    let piece (item : Item) : Piece := ⟨item.before, item.text, item.after, item.blankBefore, item.blankAfter⟩
    have inner := List.forall_mem_map.mp (Value.depthLe.mp shallow)
    have formed := @Forms.array below (items.map piece) gap
      (List.forall_mem_map.mpr fun item inside => ih item inside (inner item inside)) blank
    rwa [List.map_map] at formed
  | @object entries gap _ blank ih =>
    obtain ⟨below, rfl⟩ : ∃ below, bound = below + 1 := ⟨bound - 1, by simp [Value.depth] at shallow; omega⟩
    let piece (entry : Entry) : NamedPiece := ⟨entry.before, entry.body, entry.gap, ⟨entry.item.before, entry.item.text,
      entry.item.after, entry.item.blankBefore, entry.item.blankAfter⟩, entry.blankBefore, entry.blankGap,
      spelledFormsCharacters entry.named⟩
    have inner := List.forall_mem_map.mp (List.forall_mem_map.mp (Value.depthLe.mp shallow))
    have formed := @Forms.object below (entries.map piece) gap
      (List.forall_mem_map.mpr fun entry inside => ih entry inside (inner entry inside)) blank
    rwa [List.map_map] at formed

theorem documentFormed {text : Text} {value : Value} (spelled : Document text value) {bound : Nat}
    (shallow : value.depth ≤ bound) : Formed bound text := by
  obtain ⟨item, rfl, rfl, spelled⟩ := spelled
  exact ⟨⟨item.before, item.text, item.after, item.blankBefore, item.blankAfter⟩, rfl, spelledForms spelled shallow⟩

theorem formedSpelled {bound : Nat} {piece : Piece} (formed : Forms bound piece.text) {value : Value}
    (spelled : Document piece.whole value) : Spells piece.text value ∧ value.depth ≤ bound := by
  obtain ⟨item, same, rfl, spelled⟩ := spelled
  have ended {after : Text} (blank : Blank after) : Ended after := by simpa using endedBlank blank endedNil
  have outcome := anyReads item.value _ _ item.blankBefore spelled item.value.depth _ (ended item.blankAfter)
  have read := outcome.ok (Nat.le_refl _)
  rw [← Item.whole, ← same] at read
  exact (formsSettled formed _ _ _ _ _ piece.blankBefore (ended piece.blankAfter) read).2

end TypeLens.Json
