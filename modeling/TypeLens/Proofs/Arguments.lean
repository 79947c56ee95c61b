import TypeLens.Proofs.FirstFault

/-! What is chosen on a command line, and the words that say it. An operand and options may stand in any order and
each option in any of its spellings: all of them are read as the same request. -/
namespace TypeLens.Command

def Bare (value : Text) : Prop := value ≠ [] ∧ value.head? ≠ some '-' ∧ value.head? ≠ some '='

instance : DecidablePred Bare := fun _ => instDecidableAnd

inductive Item where
  | operand (path : Text)
  | setting (named : Setting) (value : Text)
  | inline
  deriving DecidableEq

inductive Spells : Item → List Text → Prop
  | operand (path : Text) : Spells (.operand path) [path]
  | apart (setting : Setting) (value : Text) : Spells (.setting setting value) ["--" ++ setting.long, value]
  | joined (setting : Setting) (value : Text) : Spells (.setting setting value) ["--" ++ setting.long ++ "=" ++ value]
  | letterApart {setting : Setting} {letter : Char} (named : setting.short = some letter) (value : Text) :
      Spells (.setting setting value) [['-', letter], value]
  | letterBeside {setting : Setting} {letter : Char} (named : setting.short = some letter) (value : Text) :
      Spells (.setting setting value) ['-' :: letter :: value]
  | letterJoined {setting : Setting} {letter : Char} (named : setting.short = some letter) (value : Text) :
      Spells (.setting setting value) ['-' :: letter :: '=' :: value]
  | inline : Spells .inline ["--" ++ Switch.inline.long]

inductive Choice where
  | render (operand : Text) (catalog : Option Text) (inline : Bool)
  | trace (operand : Text) (catalog source marker : Option Text) (color : Option ColorChoice)

namespace Choice

def verb : Choice → Verb
  | render .. => .render
  | trace .. => .trace

def items : Choice → List Item
  | render operand catalog inline =>
    .operand operand :: (catalog.toList.map (.setting .catalog) ++ if inline then [.inline] else [])
  | trace operand catalog source marker color =>
    .operand operand :: (catalog.toList.map (.setting .catalog) ++ source.toList.map (.setting .source) ++
      marker.toList.map (.setting .marker) ++ color.toList.map fun color => .setting .color color.name)

def request : Choice → Request
  | render operand catalog inline => .render ⟨operand, catalog, inline⟩
  | trace operand catalog source marker color =>
    .trace ⟨operand, catalog, source, marker.getD "@show-type", color.getD .auto⟩

def SaidBy (choice : Choice) (words : List Text) : Prop :=
  ∃ (items : List Item) (spellings : List (List Text)), items.Perm choice.items ∧
    List.Forall₂ Spells items spellings ∧ words = choice.verb.name :: spellings.flatten

end Choice

namespace Item

def value? : Item → Option Text
  | operand path => some path
  | setting _ value => some value
  | inline => none

def Fits (verb : Verb) : Item → Prop
  | operand path => Bare path
  | setting named value =>
    named ∈ verb.settings ∧ Bare value ∧ (named = .color → ∃ choice, ColorChoice.ofText? value = some choice)
  | inline => .inline ∈ verb.switches

def put (given : Given) : Item → Given
  | operand path => { given with operand := some path }
  | setting .catalog value => { given with catalog := some value }
  | setting .source value => { given with source := some value }
  | setting .marker value => { given with marker := some value }
  | setting .color value => { given with color := ColorChoice.ofText? value }
  | inline => { given with inline := true }

def Free (given : Given) : Item → Prop
  | operand _ => given.operand = none
  | setting named _ => given.has (.setting named) = false
  | inline => given.inline = false

def form : Item → Item
  | operand _ => operand []
  | setting named _ => setting named []
  | inline => inline

variable {given : Given} {item other : Item}

theorem freePut (free : other.Free given) (apart : item.form ≠ other.form) : other.Free (item.put given) := by
  rcases item with path | ⟨_ | _ | _ | _, value⟩ | _ <;> rcases other with path' | ⟨_ | _ | _ | _, value'⟩ | _ <;>
    first
    | exact free
    | exact absurd rfl apart

theorem putPut (apart : item.form ≠ other.form) : other.put (item.put given) = item.put (other.put given) := by
  rcases item with path | ⟨_ | _ | _ | _, value⟩ | _ <;> rcases other with path' | ⟨_ | _ | _ | _, value'⟩ | _ <;>
    first
    | rfl
    | exact absurd rfl apart

theorem putPerm {items items' : List Item} (perm : items.Perm items') (apart : (items.map form).Nodup) (given : Given) :
    items.foldl put given = items'.foldl put given := by
  refine perm.foldl_eq' (fun item member other among given => ?_) given
  by_cases same : item.form = other.form
  · rw [List.inj_on_of_nodup_map apart member among same]
  · exact putPut same

end Item

theorem Bare.first {value : Text} (bare : Bare value) : ∃ c rest, value = c :: rest ∧ c ≠ '-' ∧ c ≠ '=' := by
  obtain ⟨some_, dash, equals⟩ := bare
  cases value with
  | nil => exact absurd rfl some_
  | cons c rest => exact ⟨c, rest, rfl, fun same => dash (same ▸ rfl), fun same => equals (same ▸ rfl)⟩

theorem Bare.plain {value : Text} (bare : Bare value) : Word.of value = .plain value := by
  obtain ⟨c, rest, rfl, undashed, -⟩ := bare.first
  simp [Word.of, undashed]

theorem Bare.beside {value : Text} (bare : Bare value) : Progress.shortValue value = some value := by
  obtain ⟨c, rest, rfl, -, unequal⟩ := bare.first
  simp [Progress.shortValue, unequal]

inductive Opens (named : Setting) : Option Text → Text → Prop
  | long : Opens named none ("--" ++ named.long)
  | longJoined (value : Text) : Opens named (some value) ("--" ++ named.long ++ "=" ++ value)
  | short {letter : Char} (short : named.short = some letter) (rest : Text) :
      Opens named (Progress.shortValue rest) ('-' :: letter :: rest)

theorem Spells.opens {named : Setting} {value : Text} {words : List Text} (spells : Spells (.setting named value) words)
    (bare : Bare value) : (∃ word, Opens named (some value) word ∧ words = [word]) ∨
      ∃ word, Opens named none word ∧ words = [word, value] := by
  cases spells with
  | apart => exact .inr ⟨_, .long, rfl⟩
  | joined => exact .inl ⟨_, .longJoined value, rfl⟩
  | letterApart short => exact .inr ⟨_, .short short [], rfl⟩
  | letterBeside short => exact .inl ⟨_, bare.beside ▸ .short short value, rfl⟩
  | letterJoined short => exact .inl ⟨_, .short short ('=' :: value), rfl⟩

theorem longWord (named : Setting) : Word.of ("--" ++ named.long) = .long named.long none := by
  cases named <;> decide +kernel

theorem longJoinedWord (named : Setting) (value : Text) :
    Word.of ("--" ++ named.long ++ "=" ++ value) = .long named.long (some value) := by
  cases named <;> rfl

theorem shortWord {named : Setting} {letter : Char} (short : named.short = some letter) (rest : Text) :
    Word.of ('-' :: letter :: rest) = .short letter rest := by
  cases named <;> cases short <;> rfl

section
variable {verb : Verb} {named : Setting} (known : named ∈ verb.settings)
include known

theorem longKnown (progress : Progress) (value : Option Text) :
    verb.takeLong progress named.long value = Halt.ofMisuse (progress.takeSetting named value) := by
  cases verb <;> cases named <;> first | rfl | simp [Verb.settings] at known

theorem shortKnown {letter : Char} (short : named.short = some letter) (progress : Progress) (rest : Text) :
    verb.takeShort progress letter rest =
      Halt.ofMisuse (progress.takeSetting named (Progress.shortValue rest)) := by
  cases verb <;> cases named <;> cases short <;> first | rfl | simp [Verb.settings] at known

theorem openingRead {value : Option Text} {word : Text} (opens : Opens named value word) {progress next : Progress}
    (taken : progress.takeSetting named value = .ok next) (rest : List Text) :
    verb.readWords progress (word :: rest) = verb.readWords next rest := by
  cases opens with
  | long =>
    simp only [Verb.readWords, longWord, longKnown known, taken]
    rfl
  | longJoined value =>
    simp only [Verb.readWords, longJoinedWord, longKnown known, taken]
    rfl
  | short short behind =>
    simp only [Verb.readWords, shortWord short, shortKnown known short, taken]
    rfl

end

theorem inlineRead {verb : Verb} (known : .inline ∈ verb.switches) {progress next : Progress}
    (taken : Verb.takeSwitch progress .inline = .ok next) (rest : List Text) :
    verb.readWords progress (("--" ++ Switch.inline.long) :: rest) = verb.readWords next rest := by
  have word : Word.of ("--" ++ Switch.inline.long) = .long Switch.inline.long none := by decide +kernel
  have found : verb.takeLong progress Switch.inline.long none = Verb.takeSwitch progress .inline := by
    cases verb with
    | render => rfl
    | trace => simp [Verb.switches] at known
  simp only [Verb.readWords, word, found, taken]
  rfl

theorem plainRead {verb : Verb} {value : Text} (bare : Bare value) {progress next : Progress}
    (taken : progress.takePlain verb value = .ok next) (rest : List Text) :
    verb.readWords progress (value :: rest) = verb.readWords next rest := by
  simp only [Verb.readWords, bare.plain, taken]
  rfl

/- Reading. A value that stands in a word of its own is not checked at once, so the invariant speaks of what will be
given once it is. -/

structure Stands (verb : Verb) (progress : Progress) (given : Given) : Prop where
  settled : progress.settle = .ok given
  valued : ∀ argument, progress.pending ≠ some (argument, none)
  operand : progress.hasOperand verb = given.operand.isSome

section
variable {verb : Verb} {progress : Progress} {given : Given}

theorem Stands.ofGiven (verb : Verb) (given : Given) : Stands verb ⟨given, none⟩ given :=
  ⟨rfl, by simp, by simp [Progress.hasOperand]⟩

theorem settingPut {named : Setting} {value : Text} (fits : (Item.setting named value).Fits verb)
    (free : (Item.setting named value).Free given) :
    given.put (.setting named) (some value) = .ok ((Item.setting named value).put given) := by
  obtain ⟨-, ⟨some_, -⟩, choices⟩ := fits
  have vacant : ¬given.has (.setting named) := Bool.eq_false_iff.mp free
  rw [Given.put, if_neg vacant, Given.check.eq_def, if_neg fun empty => some_ empty.2]
  cases named with
  | color =>
    obtain ⟨choice, read⟩ := choices rfl
    simp only [read, Item.put]
  | _ => rfl

theorem Stands.pendingSetting {named : Setting} {value : Text} (fits : (Item.setting named value).Fits verb)
    (free : (Item.setting named value).Free given) :
    Stands verb ⟨given, some (.setting named, some value)⟩ ((Item.setting named value).put given) := by
  refine ⟨settingPut fits free, by simp, ?_⟩
  cases named <;> simp [Progress.hasOperand, Item.put]

theorem operandPut {path : Text} (bare : Bare path) :
    given.put (.operand verb) (some path) = .ok ((Item.operand path).put given) :=
  if_neg fun empty => bare.1 empty.2

theorem Stands.pendingOperand {path : Text} (bare : Bare path) :
    Stands verb ⟨given, some (.operand verb, some path)⟩ ((Item.operand path).put given) :=
  ⟨operandPut bare, by simp, by simp [Progress.hasOperand, Item.put]⟩

variable (stands : Stands verb progress given)
include stands

theorem Stands.operandTaken {path : Text} (free : (Item.operand path).Free given) :
    progress.takePlain verb path = .ok ⟨given, some (.operand verb, some path)⟩ := by
  have vacant : ¬progress.hasOperand verb := by
    rw [stands.operand, free]
    decide
  have taken : progress.takePlain verb path = progress.takeOperand verb path := by
    rw [Progress.takePlain]
    split
    · next argument waits => exact absurd waits (stands.valued argument)
    · rfl
  rw [taken, Progress.takeOperand, if_neg vacant, stands.settled]
  rfl

theorem Stands.settingOpened (named : Setting) :
    progress.takeSetting named none = .ok ⟨given, some (.setting named, none)⟩ := by
  rw [Progress.takeSetting, stands.settled]
  rfl

theorem Stands.settingTaken {named : Setting} {value : Text} (fits : (Item.setting named value).Fits verb)
    (free : (Item.setting named value).Free given) :
    progress.takeSetting named (some value) = .ok ⟨(Item.setting named value).put given, none⟩ := by
  have put := settingPut fits free
  rw [Progress.takeSetting, stands.settled]
  simp only [put, bind, Except.bind]

theorem Stands.inlineTaken (free : Item.inline.Free given) :
    Verb.takeSwitch progress .inline = .ok ⟨Item.inline.put given, none⟩ := by
  have vacant : ¬given.inline := Bool.eq_false_iff.mp free
  rw [Verb.takeSwitch, stands.settled]
  exact if_neg vacant

end

theorem itemRead {verb : Verb} {progress : Progress} {given : Given} (stands : Stands verb progress given)
    {item : Item} (fits : item.Fits verb) (free : item.Free given) {words : List Text} (spells : Spells item words)
    (rest : List Text) : ∃ next, verb.readWords progress (words ++ rest) = verb.readWords next rest ∧
      Stands verb next (item.put given) := by
  cases item with
  | operand path =>
    cases spells
    exact ⟨_, plainRead fits (stands.operandTaken free) rest, .pendingOperand fits⟩
  | setting named value =>
    rcases spells.opens fits.2.1 with ⟨word, opens, rfl⟩ | ⟨word, opens, rfl⟩
    · exact ⟨_, openingRead fits.1 opens (stands.settingTaken fits free) rest, .ofGiven verb _⟩
    · have opened := openingRead fits.1 opens (stands.settingOpened named) (value :: rest)
      exact ⟨_, opened.trans (plainRead fits.2.1 rfl rest), .pendingSetting fits free⟩
  | inline =>
    cases spells
    exact ⟨_, inlineRead fits (stands.inlineTaken free) rest, .ofGiven verb _⟩

theorem itemsRead {verb : Verb} {items : List Item} {spellings : List (List Text)}
    (spelled : List.Forall₂ Spells items spellings) (fits : ∀ item ∈ items, item.Fits verb)
    (apart : (items.map Item.form).Nodup) {progress : Progress} {given : Given} (stands : Stands verb progress given)
    (free : ∀ item ∈ items, item.Free given) : ∃ next, verb.readWords progress spellings.flatten = .ok next ∧
      Stands verb next (items.foldl Item.put given) := by
  induction spelled generalizing progress given with
  | nil => exact ⟨progress, rfl, stands⟩
  | @cons item words items spellings spells _ ih =>
    obtain ⟨fitsFirst, fits⟩ := List.forall_mem_cons.mp fits
    obtain ⟨freeFirst, free⟩ := List.forall_mem_cons.mp free
    obtain ⟨others, apart⟩ := List.nodup_cons.mp apart
    obtain ⟨next, read, stands⟩ := itemRead stands fitsFirst freeFirst spells spellings.flatten
    have stillFree : ∀ other ∈ items, other.Free (item.put given) := fun other among =>
      Item.freePut (free other among) fun same => others (same ▸ List.mem_map_of_mem among)
    obtain ⟨last, readAll, standsLast⟩ := ih fits apart stands stillFree
    exact ⟨last, read.trans readAll, standsLast⟩

theorem ColorChoice.ofName (color : ColorChoice) : ofText? color.name = some color := by
  cases color <;> decide +kernel

namespace Choice

def Bare (choice : Choice) : Prop := ∀ item ∈ choice.items, ∀ value ∈ item.value?, Command.Bare value

instance : DecidablePred Bare := fun choice =>
  inferInstanceAs (Decidable (∀ item ∈ choice.items, ∀ value ∈ item.value?, Command.Bare value))

variable {choice : Choice}

theorem itemsApart (choice : Choice) : (choice.items.map Item.form).Nodup := by
  cases choice with
  | render operand catalog inline => cases catalog <;> cases inline <;> simp [items, Item.form]
  | trace operand catalog source marker color =>
    cases catalog <;> cases source <;> cases marker <;> cases color <;> simp [items, Item.form]

theorem itemsFit (bare : choice.Bare) : ∀ item ∈ choice.items, item.Fits choice.verb := by
  intro item member
  have values := bare item member
  cases choice with
  | render operand catalog inline =>
    simp only [items, List.mem_cons, List.mem_append, List.mem_map] at member
    rcases member with rfl | ⟨value, -, rfl⟩ | switched
    · exact values operand rfl
    · exact ⟨by simp [verb, Verb.settings], values value rfl, by simp⟩
    · cases inline <;> simp at switched
      subst switched
      exact List.mem_cons_self
  | trace operand catalog source marker color =>
    simp only [items, List.mem_cons, List.mem_append, List.mem_map] at member
    rcases member with rfl | ((⟨value, -, rfl⟩ | ⟨value, -, rfl⟩) | ⟨value, -, rfl⟩) | ⟨color, -, rfl⟩
    · exact values operand rfl
    · exact ⟨by simp [verb, Verb.settings], values value rfl, by simp⟩
    · exact ⟨by simp [verb, Verb.settings], values value rfl, by simp⟩
    · exact ⟨by simp [verb, Verb.settings], values value rfl, by simp⟩
    · exact ⟨by simp [verb, Verb.settings], values color.name rfl, fun _ => ⟨color, color.ofName⟩⟩

def given : Choice → Given
  | render operand catalog inline => ⟨some operand, catalog, none, none, none, inline⟩
  | trace operand catalog source marker color => ⟨some operand, catalog, source, marker, color, false⟩

theorem itemsPut (choice : Choice) : choice.items.foldl Item.put .nothing = choice.given := by
  cases choice with
  | render operand catalog inline => cases catalog <;> cases inline <;> rfl
  | trace operand catalog source marker color =>
    cases catalog <;> cases source <;> cases marker <;> cases color <;>
      simp [items, Item.put, ColorChoice.ofName, given, Given.nothing]

theorem requestGiven (choice : Choice) : ∃ operand, choice.given.operand = some operand ∧
    choice.verb.request choice.given operand = choice.request := by
  cases choice with
  | render operand catalog inline => exact ⟨operand, rfl, rfl⟩
  | trace operand catalog source marker color => exact ⟨operand, rfl, rfl⟩

theorem verbRead (verb : Verb) (words : List Text) : Order.read (verb.name :: words) = Order.ofVerb verb words := by
  cases verb <;> rfl

theorem saidRead (bare : choice.Bare) {words : List Text} (said : choice.SaidBy words) :
    Order.read words = .perform choice.request := by
  obtain ⟨items, spellings, perm, spelled, rfl⟩ := said
  have fits : ∀ item ∈ items, item.Fits choice.verb := fun item member => itemsFit bare item (perm.subset member)
  have apart : (items.map Item.form).Nodup := (perm.map Item.form).nodup_iff.mpr choice.itemsApart
  have free : ∀ item ∈ items, item.Free .nothing := by
    intro item _
    rcases item with _ | ⟨_ | _ | _ | _, _⟩ | _ <;> rfl
  obtain ⟨last, read, stands⟩ := itemsRead spelled fits apart (.ofGiven choice.verb .nothing) free
  have settled : last.settle = .ok choice.given := by
    rw [stands.settled, Item.putPerm perm apart, itemsPut]
  obtain ⟨operand, given, request⟩ := choice.requestGiven
  have performed : choice.verb.read spellings.flatten = .ok choice.request := by
    rw [Verb.read, Progress.start, read]
    simp only [bind, Except.bind, settled, Halt.ofMisuse, Except.mapError, given, request]
  rw [verbRead, Order.ofVerb, performed]

end Choice

theorem anySpellingPerformed {choice : Choice} (bare : choice.Bare) {words : List Text} (said : choice.SaidBy words)
    (inputs : Inputs) : Order.read words = .perform choice.request ∧ run inputs words = choice.request.run inputs ∧
      ∀ words', choice.SaidBy words' → run inputs words' = run inputs words := by
  have same {words : List Text} (said : choice.SaidBy words) : run inputs words = choice.request.run inputs :=
    runPerformed (choice.saidRead bare said) inputs
  exact ⟨choice.saidRead bare said, same said, fun words' said' => (same said').trans (same said).symm⟩

/- Everything that a trace can be told, said in two ways. -/

def dumped : Choice := .trace "sites.json" (some "a=b.json") (some "app.php") (some "@dump") (some .never)

def dumpedNamed : List Text :=
  ["trace", "sites.json", "--source", "app.php", "--catalog", "a=b.json", "--marker", "@dump", "--color", "never"]

def dumpedShort : List Text :=
  ["trace", "-ca=b.json", "--marker=@dump", "-s=app.php", "sites.json", "--color", "never"]

theorem dumpedSaid : dumped.SaidBy dumpedNamed ∧ dumped.SaidBy dumpedShort := by
  constructor
  · refine ⟨[.operand "sites.json", .setting .source "app.php", .setting .catalog "a=b.json", .setting .marker "@dump",
      .setting .color "never"], [["sites.json"], ["--source", "app.php"], ["--catalog", "a=b.json"],
      ["--marker", "@dump"], ["--color", "never"]], by decide +kernel, ?_, by decide +kernel⟩
    exact .cons (.operand _) (.cons (.apart _ _) (.cons (.apart _ _) (.cons (.apart _ _) (.cons (.apart _ _) .nil))))
  · refine ⟨[.setting .catalog "a=b.json", .setting .marker "@dump", .setting .source "app.php", .operand "sites.json",
      .setting .color "never"], [["-ca=b.json"], ["--marker=@dump"], ["-s=app.php"], ["sites.json"],
      ["--color", "never"]], by decide +kernel, ?_, by decide +kernel⟩
    exact .cons (.letterBeside rfl _) (.cons (.joined _ _) (.cons (.letterJoined rfl _) (.cons (.operand _)
      (.cons (.apart _ _) .nil))))

theorem dumpedPerformed : dumped.Bare ∧ dumped.SaidBy dumpedShort ∧ dumped.SaidBy dumpedNamed ∧
    Order.read dumpedShort =
      .perform (.trace ⟨"sites.json", some "a=b.json", some "app.php", "@dump", .never⟩) ∧
    run noFiles dumpedNamed = run noFiles dumpedShort := by
  obtain ⟨named, short⟩ := dumpedSaid
  have bare : dumped.Bare := by decide +kernel
  obtain ⟨read, -, same⟩ := anySpellingPerformed bare short noFiles
  exact ⟨bare, short, named, read, same dumpedNamed named⟩

end TypeLens.Command
