import TypeLens.Proofs.RoundTrip
import Mathlib.Data.List.Dedup

/-! What a catalog answers after any history of declarations. Names that share a normal form are one class, and
the latest declaration of it is the one that is known, whichever way it came in. -/
namespace TypeLens

open Json

/- Histories. A catalog starts from nothing, from a list of declarations or from a text of one. -/

inductive Started : List ClassDecl → Catalog → Prop where
  | empty : Started [] .empty
  | collected (decls) : Started decls (.ofDecls decls)
  | loaded {text decls catalog} (listed : decode (listOf ClassDecl.reader nestingLimit) text = .ok decls)
      (decoded : Catalog.decode text = .ok catalog) : Started decls catalog

inductive Call where
  | declare (name : Text) (templateParams : Option (List Text))
  | withClass (name : Text) (params : List Text)

namespace Call

def run (catalog : Catalog) : Call → Catalog
  | declare name templateParams => catalog.declare ⟨name, templateParams⟩
  | withClass name params => catalog.withClass name params

def decl : Call → ClassDecl
  | declare name templateParams => ⟨name, templateParams⟩
  | withClass name [] => ⟨name, none⟩
  | withClass name params => ⟨name, some params⟩

theorem runDeclares (catalog : Catalog) (call : Call) : call.run catalog = catalog.declare call.decl := by
  cases call with
  | declare => rfl
  | withClass name params => cases params <;> rfl

end Call

def ClassDecl.key (decl : ClassDecl) : Text := ClassName.normalForm decl.name

def latest (history : List ClassDecl) (id : Text) : Option ClassDecl :=
  history.reverse.find? fun decl => decl.key = ClassName.normalForm id

theorem lookupOthers (key other : Text) (entries : List (Text × ClassInfo)) :
    (entries.filter fun entry => entry.1 ≠ key).lookup other = if key = other then none else entries.lookup other := by
  induction entries with
  | nil => simp
  | cons entry entries ih =>
    obtain ⟨found, info⟩ := entry
    by_cases own : found = key
    · subst own
      rw [List.filter_cons_of_neg (by simp), ih, List.lookup_cons]
      grind
    · rw [List.filter_cons_of_pos (by simpa using own), List.lookup_cons, List.lookup_cons, ih]
      grind

namespace Catalog

variable {catalog : Catalog} {history : List ClassDecl}

def keys (catalog : Catalog) : List Text := catalog.entries.map (·.1)

theorem resolveDeclared (catalog : Catalog) (decl : ClassDecl) (id : Text) : (catalog.declare decl).resolve id =
    if decl.key = ClassName.normalForm id then some decl.info else catalog.resolve id := by
  simp only [resolve, declare, List.lookup_append]
  rw [lookupOthers, ClassDecl.key]
  split
  · next same => simp [same]
  · next other =>
    have apart : (ClassName.normalForm id == ClassName.normalForm decl.name) = false := by simpa using Ne.symm other
    simp [List.lookup_cons, apart]

theorem keysDeclared (catalog : Catalog) (decl : ClassDecl) :
    (catalog.declare decl).keys = catalog.keys.filter (· ≠ decl.key) ++ [decl.key] := by
  simp only [keys, declare, List.map_append, List.filter_map]
  rfl

structure Knows (catalog : Catalog) (history : List ClassDecl) : Prop where
  distinct : catalog.keys.Nodup
  declared : ∀ key, key ∈ catalog.keys ↔ key ∈ history.map ClassDecl.key
  answers : ∀ id, catalog.resolve id = (latest history id).map ClassDecl.info

theorem knowsNothing : empty.Knows [] := ⟨List.nodup_nil, by simp [keys, empty], fun _ => rfl⟩

theorem knowsDeclared (knows : catalog.Knows history) (decl : ClassDecl) :
    (catalog.declare decl).Knows (history ++ [decl]) := by
  constructor
  · rw [keysDeclared, List.nodup_append]
    refine ⟨knows.distinct.filter _, List.nodup_singleton _, ?_⟩
    simp
  · intro key
    rw [keysDeclared]
    have := knows.declared key
    by_cases own : key = decl.key <;> simp_all
  · intro id
    rw [resolveDeclared, knows.answers id, latest, latest, List.reverse_append, List.reverse_singleton,
      List.singleton_append, List.find?_cons]
    by_cases own : decl.key = ClassName.normalForm id <;> simp [own]

theorem knowsFurther (knows : catalog.Knows history) (decls : List ClassDecl) :
    (decls.foldl declare catalog).Knows (history ++ decls) := by
  induction decls generalizing catalog history with
  | nil => simpa using knows
  | cons decl decls ih => simpa using ih (knowsDeclared knows decl)

theorem knowsStarted (started : Started history catalog) : catalog.Knows history := by
  have collected (decls : List ClassDecl) : (ofDecls decls).Knows decls := knowsFurther knowsNothing decls
  cases started with
  | empty => exact knowsNothing
  | collected => exact collected history
  | loaded listed decoded =>
    rw [decode, listed] at decoded
    cases decoded
    exact collected history

theorem knowsCalled (knows : catalog.Knows history) (calls : List Call) :
    (calls.foldl Call.run catalog).Knows (history ++ calls.map Call.decl) := by
  induction calls generalizing catalog history with
  | nil => simpa using knows
  | cons call calls ih =>
    have declared := knowsDeclared knows call.decl
    rw [← Call.runDeclares] at declared
    simpa using ih declared

/- What the answers are, in terms of the history alone. -/

theorem latestNone {id : Text} :
    latest history id = none ↔ ∀ decl ∈ history, decl.key ≠ ClassName.normalForm id := by
  simp [latest]

theorem latestOf {before after : List ClassDecl} {decl : ClassDecl} {id : Text}
    (same : decl.key = ClassName.normalForm id) (none_ : ∀ later ∈ after, later.key ≠ decl.key) :
    latest (before ++ decl :: after) id = some decl := by
  have passed : after.reverse.find? (fun later => later.key = ClassName.normalForm id) = none := by
    simpa [← same] using none_
  simp [latest, List.find?_append, passed, same]

structure Answers (catalog : Catalog) (history : List ClassDecl) : Prop where
  unknown : ∀ id, catalog.resolve id = none ↔
    ∀ decl ∈ history, ClassName.normalForm decl.name ≠ ClassName.normalForm id
  known : ∀ before decl after, history = before ++ decl :: after →
    (∀ later ∈ after, ClassName.normalForm later.name ≠ ClassName.normalForm decl.name) →
      ∀ id, ClassName.normalForm decl.name = ClassName.normalForm id →
        catalog.resolve id = some ⟨ClassName.short decl.name, decl.templateParams⟩
  size : catalog.size = (history.map fun decl => ClassName.normalForm decl.name).dedup.length
  isEmpty : catalog.isEmpty ↔ history = []

theorem knowsAnswers (knows : catalog.Knows history) : catalog.Answers history := by
  constructor
  · intro id
    rw [knows.answers id, Option.map_eq_none_iff]
    exact latestNone
  · rintro before decl after rfl none_ id same
    rw [knows.answers id, latestOf same none_]
    rfl
  · have same : catalog.keys.Perm (history.map ClassDecl.key).dedup := by
      refine (List.perm_ext_iff_of_nodup knows.distinct (List.nodup_dedup _)).mpr fun key => ?_
      rw [knows.declared, List.mem_dedup]
    rw [size, ← List.length_map (fun entry => entry.1), ← keys, same.length_eq]
    rfl
  · have none_ : catalog.keys = [] ↔ history.map ClassDecl.key = [] := by
      simp only [List.eq_nil_iff_forall_not_mem, knows.declared]
    rw [isEmpty, List.isEmpty_iff]
    simpa [keys] using none_

end Catalog

namespace ClassDecl

def writtenParams (params : Option (List Text)) : Value := .ofOption (fun names => .array (names.map .string)) params

inductive Written (decl : ClassDecl) : Value → Prop where
  | inOrder : Written decl
      (.object [⟨"name", .string decl.name⟩, ⟨"template_params", writtenParams decl.templateParams⟩])
  | paramsFirst : Written decl
      (.object [⟨"template_params", writtenParams decl.templateParams⟩, ⟨"name", .string decl.name⟩])
  | nameAlone (absent : decl.templateParams = none) : Written decl (.object [⟨"name", .string decl.name⟩])

theorem paramsReads (params : Option (List Text)) :
    Reads (fun depth => orNull (listOf (fun _ => text) depth)) (writtenParams params) params := by
  refine orNullReads (fun names _ => ?_) (by simp)
  exact (listOfReads fun name _ => ⟨.string name, textReads .text name⟩).reads

theorem writtenReads {decl : ClassDecl} {value : Value} (written : decl.Written value) :
    Reads reader value decl := by
  have name := (textReads .text decl.name).mapped fun name (draft : Draft) => { draft with name := some name }
  have params := (paramsReads decl.templateParams).mapped fun found (draft : Draft) =>
    { draft with templateParams := some found }
  cases written with
  | inOrder =>
    refine @Schema.reads _ _ schema _ ⟨some decl.name, some decl.templateParams⟩ decl (fun depth => ?_) rfl
    refine .cons (Schema.slotRead rfl rfl name depth) ?_
    exact .cons (Schema.slotRead rfl rfl params depth) (.nil _)
  | paramsFirst =>
    refine @Schema.reads _ _ schema _ ⟨some decl.name, some decl.templateParams⟩ decl (fun depth => ?_) rfl
    refine .cons (Schema.slotRead rfl rfl params depth) ?_
    exact .cons (Schema.slotRead rfl rfl name depth) (.nil _)
  | nameAlone absent =>
    refine @Schema.reads _ _ schema _ ⟨some decl.name, none⟩ decl (fun depth => ?_) ?_
    · exact .cons (Schema.slotRead rfl rfl name depth) (.nil _)
    · cases decl
      cases absent
      rfl

theorem writtenDepth {decl : ClassDecl} {value : Value} (written : decl.Written value) : value.depth ≤ 2 := by
  have params (found : Option (List Text)) : (writtenParams found).depth ≤ 1 := by
    refine Value.depthLe.mpr fun item inside => ?_
    cases found with
    | none => cases inside
    | some names =>
      obtain ⟨name, _, rfl⟩ := List.mem_map.mp inside
      simp [Value.depth]
  cases written <;> simp [Value.depth, params]

theorem listDepth {decls : List ClassDecl} {values : List Value} (written : List.Forall₂ Written decls values) :
    ∀ value ∈ values, value.depth ≤ 2 := by
  induction written with
  | nil => exact List.forall_mem_nil _
  | cons first _ ih => exact List.forall_mem_cons.mpr ⟨writtenDepth first, ih⟩

end ClassDecl

theorem writtenLoaded {decls : List ClassDecl} {values : List Value} {text : Text}
    (written : List.Forall₂ ClassDecl.Written decls values) (spelled : Document text (.array values)) :
    ∃ catalog, Catalog.decode text = .ok catalog ∧ Started decls catalog := by
  have reads : Reads (listOf ClassDecl.reader) (.array values) decls :=
    listReads (written.flip.imp fun _ _ => ClassDecl.writtenReads)
  have shallow : (Value.array values).depth ≤ 2 + 1 := Value.depthLe.mpr (ClassDecl.listDepth written)
  have listed := (decodeDocument reads spelled).1 (Nat.le_trans shallow (by decide))
  have decoded : Catalog.decode text = .ok (.ofDecls decls) := by rw [Catalog.decode, listed]; rfl
  exact ⟨_, decoded, .loaded listed decoded⟩

theorem catalogAnswers :
    (∀ decls started, Started decls started → ∀ calls : List Call,
      (calls.foldl Call.run started).Answers (decls ++ calls.map Call.decl)) ∧
        ∀ decls values text, List.Forall₂ ClassDecl.Written decls values → Document text (.array values) →
          ∃ catalog, Catalog.decode text = .ok catalog ∧ Started decls catalog := by
  constructor
  · intro decls catalog started calls
    exact Catalog.knowsAnswers (Catalog.knowsCalled (Catalog.knowsStarted started) calls)
  · intro decls values text written spelled
    exact writtenLoaded written spelled

/- A loaded class that is declared anew under another spelling, beside one that stays as it was loaded. -/

def loadedDecls : List ClassDecl := [⟨"App\\Foo", some []⟩, ⟨"Bar", none⟩]

def loadedValues : List Value :=
  [.object [⟨"name", .string "App\\Foo"⟩, ⟨"template_params", .array []⟩], .object [⟨"name", .string "Bar"⟩]]

def laterCalls : List Call := [.withClass "\\APP\\foo" ["T"], .withClass "Baz" []]

theorem loadedWritten : List.Forall₂ ClassDecl.Written loadedDecls loadedValues :=
  .cons .inOrder (.cons (.nameAlone rfl) .nil)

theorem loadedPlain : (Value.array loadedValues).Plain :=
  .array (by simp [loadedValues, Value.Plain.object, Value.Plain.string, Value.Plain.array])

theorem redeclaredAnswers : ∃ started, Catalog.decode (Value.array loadedValues).text = .ok started ∧
    let catalog := laterCalls.foldl Call.run started
    catalog.resolve "app\\FOO" = some ⟨"foo", some ["T"]⟩ ∧ catalog.resolve "\\Bar" = some ⟨"Bar", none⟩ ∧
      catalog.resolve "Foo" = none ∧ catalog.size = 3 ∧ catalog.isEmpty = false := by
  obtain ⟨answers, loads⟩ := catalogAnswers
  obtain ⟨started, decoded, begun⟩ := loads _ _ _ loadedWritten (plainDocument loadedPlain)
  have answered := answers _ _ begun laterCalls
  refine ⟨started, decoded, ?_, ?_, ?_, ?_, ?_⟩
  · have known := answered.known loadedDecls ⟨"\\APP\\foo", some ["T"]⟩ [⟨"Baz", none⟩] rfl (by decide +kernel)
    exact (known "app\\FOO" (by decide +kernel)).trans (by decide +kernel)
  · have known := answered.known [⟨"App\\Foo", some []⟩] ⟨"Bar", none⟩ (laterCalls.map Call.decl) rfl
      (by decide +kernel)
    exact (known "\\Bar" (by decide +kernel)).trans (by decide +kernel)
  · exact (answered.unknown _).mpr (by decide +kernel)
  · rw [answered.size]
    decide +kernel
  · rw [Bool.eq_false_iff, ne_eq, answered.isEmpty]
    exact List.cons_ne_nil _ _

end TypeLens
