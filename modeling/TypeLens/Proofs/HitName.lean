import TypeLens.Proofs.Declared
import TypeLens.Proofs.Lowered
import TypeLens.Proofs.ShortName

/-! A class that a catalog knows is shown by the short name of its declaration. Among ASCII names this is the trailing
identifier of the name that was asked for, in the letters of the declaration: stripping backslashes and lower-casing
commute with taking the trailing identifier. -/
namespace TypeLens

open Text Rendering

def Text.Ascii (text : Text) : Prop := ∀ c ∈ text, c.toNat < 128

instance (text : Text) : Decidable text.Ascii := List.decidableBAll _ text

namespace ClassName

theorem tailBackslash (rest : Text) : tail ('\\' :: rest) = tail rest := by
  have mark : isIdentifier '\\' = false := by decide +kernel
  rw [tail, tail, List.rtakeWhile, List.reverse_cons, List.takeWhile_append,
    List.takeWhile_cons_of_neg (by simp [mark])]
  split
  · next whole => rw [List.append_nil, List.rtakeWhile, (List.takeWhile_prefix _).eq_of_length whole]
  · rfl

theorem tailStripped (id : Text) : tail (id.dropWhile (· == '\\')) = tail id := by
  induction id with
  | nil => rfl
  | cons c rest ih =>
    by_cases backslash : c = '\\'
    · rw [backslash, tailBackslash, ← ih]
      rfl
    · rw [List.dropWhile_cons_of_neg (by simpa using backslash)]

theorem tailLowered (id : Text) : tail (id.map simpleLower) = (tail id).map simpleLower := by
  have named : isIdentifier ∘ simpleLower = isIdentifier := funext simpleLowerIdentifier
  rw [tail, tail, List.rtakeWhile, List.rtakeWhile, ← List.map_reverse, List.takeWhile_map, named, List.map_reverse]

theorem tailUnstripped (id : Text) : (tail id).dropWhile (· == '\\') = tail id := by
  rw [List.dropWhile_eq_self_iff]
  intro long front
  have named : isIdentifier (tail id)[0] := List.mem_rtakeWhile_imp (List.getElem_mem long)
  rw [beq_iff_eq.mp front] at named
  revert named
  decide +kernel

end ClassName

namespace Text

theorem Ascii.lower {text : Text} (ascii : text.Ascii) : Text.lower text = text.map simpleLower := by
  refine lowerPlain (fun c inside => ?_) []
  have low := ascii c inside
  constructor <;> rintro rfl <;> revert low <;> decide

theorem Ascii.stripped {id : Text} (ascii : id.Ascii) : Ascii (id.dropWhile (· == '\\')) :=
  fun c inside => ascii c ((List.dropWhile_sublist _).subset inside)

theorem Ascii.tail {id : Text} (ascii : id.Ascii) : (ClassName.tail id).Ascii :=
  fun c inside => ascii c ((List.rtakeWhile_suffix _ _).subset inside)

end Text

structure NamedAlike (shown id : Text) : Prop where
  normal : ClassName.normalForm shown = ClassName.normalForm (ClassName.short id)
  letters : ClassName.tail id ≠ [] → lower shown = lower (ClassName.tail id)
  whole : ClassName.tail id = [] → ClassName.normalForm shown = ClassName.normalForm id

theorem namedAsShort (id : Text) : NamedAlike (ClassName.short id) id := by
  constructor
  · rfl
  · intro named
    rw [ClassName.shortTail, if_neg named]
  · intro unnamed
    rw [ClassName.shortTail, if_pos unnamed]

theorem tailAlike {name id : Text} (ascii : name.Ascii) (asciiId : id.Ascii)
    (same : ClassName.normalForm name = ClassName.normalForm id) :
    lower (ClassName.tail name) = lower (ClassName.tail id) := by
  -- The trailing identifier of a key is that of the name, lowered.
  have lowered (text : Text) (low : text.Ascii) :
      lower (ClassName.tail text) = ClassName.tail (ClassName.normalForm text) := by
    rw [low.tail.lower, ClassName.normalForm, low.stripped.lower, ClassName.tailLowered, ClassName.tailStripped]
  rw [lowered name ascii, same, lowered id asciiId]

theorem shortAlike {name id : Text} (ascii : name.Ascii) (asciiId : id.Ascii)
    (same : ClassName.normalForm name = ClassName.normalForm id) : NamedAlike (ClassName.short name) id := by
  have tails := tailAlike ascii asciiId same
  have lengths : (ClassName.tail name).length = (ClassName.tail id).length := by
    rw [ascii.tail.lower, asciiId.tail.lower] at tails
    simpa using congrArg List.length tails
  have both : ClassName.tail name = [] ↔ ClassName.tail id = [] := by
    rw [← List.length_eq_zero_iff, lengths, List.length_eq_zero_iff]
  by_cases named : ClassName.tail id = []
  · rw [ClassName.shortTail, if_pos (both.mpr named)]
    constructor
    · rw [same, ClassName.shortTail, if_pos named]
    · exact fun other => absurd named other
    · exact fun _ => same
  · rw [ClassName.shortTail, if_neg (mt both.mp named)]
    constructor
    · rw [ClassName.shortTail, if_neg named, ClassName.normalForm, ClassName.normalForm, ClassName.tailUnstripped,
        ClassName.tailUnstripped, tails]
    · exact fun _ => tails
    · exact fun unnamed => absurd unnamed named

theorem Catalog.Knows.hit {catalog : Catalog} {history : List ClassDecl} (knows : catalog.Knows history) {id : Text}
    {info : ClassInfo} (found : catalog.resolve id = some info) :
    ∃ decl ∈ history, ClassName.normalForm decl.name = ClassName.normalForm id ∧ info = decl.info := by
  rw [knows.answers id, Option.map_eq_some_iff] at found
  obtain ⟨decl, newest, told⟩ := found
  have member := List.mem_of_find?_eq_some newest
  have same := List.find?_some newest
  exact ⟨decl, List.mem_reverse.mp member, of_decide_eq_true same, told.symm⟩

theorem hitsNamedAlike {decls : List ClassDecl} {started : Catalog} (begun : Started decls started) (calls : List Call)
    (ascii : ∀ decl ∈ decls ++ calls.map Call.decl, decl.name.Ascii) {id : Text} (asciiId : id.Ascii) :
    let catalog := calls.foldl Call.run started
    (∀ info, catalog.resolve id = some info → NamedAlike info.shortName id ∧
        NamedAlike (className catalog.resolve id) id) ∧
      NamedAlike (ownerName catalog.resolve id) id := by
  intro catalog
  have alike {info : ClassInfo} (found : catalog.resolve id = some info) : NamedAlike info.shortName id := by
    have knows := Catalog.knowsCalled (Catalog.knowsStarted begun) calls
    obtain ⟨decl, declared, same, rfl⟩ := knows.hit found
    exact shortAlike (ascii decl declared) asciiId same
  constructor
  · intro info found
    have shown : className catalog.resolve id = info.shortName := by rw [className, found]
    exact ⟨alike found, shown ▸ alike found⟩
  · cases answer : catalog.resolve id with
    | none =>
      rw [ownerName, answer]
      exact namedAsShort id
    | some info =>
      rw [ownerName, answer]
      exact alike answer

/- A class with a trailing identifier beside one that has none. -/

def toolsCatalog : Catalog := (Call.declare "Tools-" none).run (.ofDecls [⟨"\\App\\Foo", none⟩])

theorem toolsNamedAlike :
    (toolsCatalog.resolve "app\\FOO" = some ⟨"Foo", none⟩ ∧ NamedAlike "Foo" "app\\FOO") ∧
      toolsCatalog.resolve "\\TOOLS-" = some ⟨"Tools-", none⟩ ∧ NamedAlike "Tools-" "\\TOOLS-" := by
  have alike {id : Text} (ascii : id.Ascii) {info : ClassInfo} (found : toolsCatalog.resolve id = some info) :
      NamedAlike info.shortName id :=
    ((hitsNamedAlike (.collected _) [.declare "Tools-" none] (by decide +kernel) ascii).1 info found).1
  have foo : toolsCatalog.resolve "app\\FOO" = some ⟨"Foo", none⟩ := by decide +kernel
  have tools : toolsCatalog.resolve "\\TOOLS-" = some ⟨"Tools-", none⟩ := by decide +kernel
  exact ⟨⟨foo, alike (by decide +kernel) foo⟩, tools, alike (by decide +kernel) tools⟩

end TypeLens
