import TypeLens.Proofs.Displayed
import TypeLens.Proofs.Template

/-! The form of a type and the template of its form. A rendering is the template filled with the displayed texts: it
looks at none of them, and leaves each as it is. -/
namespace TypeLens

open Rendering

/-- A type without its texts: of what a lookup answers it keeps whether there is an answer and how many labels it
has. -/
inductive Skeleton where
  | union (members : List Skeleton)
  | list (nonEmpty : Bool) (element : Skeleton)
  | array (nonEmpty : Bool) (key value : Skeleton)
  | iterable (key value : Skeleton)
  | closure (isPure : Bool) (signature : Skeleton)
  | callable (isPure : Bool) (signature : Skeleton)
  | anyClass
  | boundClass (bound : Skeleton)
  | templateParam (known : Bool) (constraint : Skeleton)
  | plain
  | signature (params : List Skeleton) (returnType : Option Skeleton)
  | param (type : Option Skeleton) (byRef variadic : Bool)
  | classRef (labels : Option Nat) (typeArgs intersection : List Skeleton)
  | tuple (types : List Skeleton)
  | record (optional : List Bool) (types : List Skeleton)

namespace Part

def skeleton (lookup : Lookup) : Part → Skeleton
  | ofUnion ⟨first, more⟩ =>
    .union ((ofAtomic first).skeleton lookup :: more.map fun atomic => (ofAtomic atomic).skeleton lookup)
  | ofAtomic (.list element nonEmpty) => .list nonEmpty ((ofUnion element).skeleton lookup)
  | ofAtomic (.array key value nonEmpty) =>
    .array nonEmpty ((ofUnion key).skeleton lookup) ((ofUnion value).skeleton lookup)
  | ofAtomic (.iterable key value) => .iterable ((ofUnion key).skeleton lookup) ((ofUnion value).skeleton lookup)
  | ofAtomic (.closure signature) => .closure signature.isPure ((ofSignature signature).skeleton lookup)
  | ofAtomic (.callable signature) => .callable signature.isPure ((ofSignature signature).skeleton lookup)
  | ofAtomic (.classString none) => .anyClass
  | ofAtomic (.classString (some bound)) => .boundClass ((ofClassRef bound).skeleton lookup)
  | ofAtomic (.named object) => (ofClassRef object).skeleton lookup
  | ofAtomic (.shape shape) => (ofShape shape).skeleton lookup
  | ofAtomic (.templateParam _ definingClass constraint) =>
    .templateParam (lookup definingClass).isSome ((ofUnion constraint).skeleton lookup)
  | ofAtomic (.plain _) => .plain
  | ofSignature ⟨params, none, _⟩ => .signature (params.map fun param => (ofParam param).skeleton lookup) none
  | ofSignature ⟨params, some type, _⟩ =>
    .signature (params.map fun param => (ofParam param).skeleton lookup) (some ((ofUnion type).skeleton lookup))
  | ofParam ⟨_, none, byRef, variadic⟩ => .param none byRef variadic
  | ofParam ⟨_, some type, byRef, variadic⟩ => .param (some ((ofUnion type).skeleton lookup)) byRef variadic
  | ofClassRef ⟨classId, typeArgs, intersection⟩ =>
    .classRef ((lookup classId).map fun info => (info.templateParams.getD []).length)
      (typeArgs.map fun type => (ofUnion type).skeleton lookup)
      (intersection.map fun atomic => (ofAtomic atomic).skeleton lookup)
  | ofShape ⟨true, fields⟩ => .tuple (fields.map fun field => (ofField field).skeleton lookup)
  | ofShape ⟨false, fields⟩ =>
    .record (fields.map (·.optional)) (fields.map fun field => (ofField field).skeleton lookup)
  | ofField field => (ofUnion field.type).skeleton lookup
termination_by part => sizeOf part
decreasing_by
  all_goals exact sizeOfChild (by simp [children, TypeUnion.members, *])

example (lookup : Lookup) : (ofUnion (.single (.list (.single (.plain "int")) true))).skeleton lookup =
    .union [.list true (.union [.plain])] := by cbv

end Part

def functionName (isPure : Bool) (name : Text) : Text := (if isPure then "pure-" else "") ++ name

namespace Template

def labelled : Nat → List Template → List Template
  | count + 1, arg :: args => (place ++ fixed ": " ++ arg) :: labelled count args
  | _, args => args

def line (level : Nat) (optional : Bool) (type : Template) : Template :=
  fixed (tabs level) ++ place ++ fixed (if optional then "?: " else ": ").toList ++ type

end Template

open Template

def Skeleton.template (level : Nat) : Skeleton → Template
  | .union members => joined " | " (members.map (·.template level))
  | .list nonEmpty element =>
    fixed (if nonEmpty then "non-empty-list<TValue: " else "list<TValue: ") ++ element.template level ++ fixed ">"
  | .array nonEmpty key value =>
    fixed (if nonEmpty then "non-empty-array<TKey: " else "array<TKey: ") ++ key.template level ++
      fixed ", TValue: " ++ value.template level ++ fixed ">"
  | .iterable key value =>
    fixed "iterable<TKey: " ++ key.template level ++ fixed ", TValue: " ++ value.template level ++ fixed ">"
  | .closure isPure inner => fixed (functionName isPure "Closure") ++ inner.template level
  | .callable isPure inner => fixed (functionName isPure "callable") ++ inner.template level
  | .anyClass => fixed "class-string"
  | .boundClass bound => fixed "class-string<" ++ bound.template level ++ fixed ">"
  | .templateParam _ constraint => fixed "from " ++ place ++ fixed " as " ++ constraint.template level
  | .plain => place
  | .signature params none => fixed "(" ++ joined ", " (params.map (·.template level)) ++ fixed "): void"
  | .signature params (some type) =>
    fixed "(" ++ joined ", " (params.map (·.template level)) ++ fixed "): " ++ type.template level
  | .param none byRef variadic =>
    fixed (if variadic then "..." else "").toList ++ fixed "mixed" ++ fixed (if byRef then " &$" else " $").toList ++
      place
  | .param (some type) byRef variadic =>
    fixed (if variadic then "..." else "").toList ++ type.template level ++
      fixed (if byRef then " &$" else " $").toList ++ place
  | .classRef labels typeArgs intersection =>
    let applied :=
      if typeArgs.isEmpty then place
      else place ++ fixed "<" ++
        joined ", " (labelled (labels.getD 0) (typeArgs.map (·.template level))) ++ fixed ">"
    joined " & " (applied :: intersection.map (·.template level))
  | .tuple types => fixed "array\x7b" ++ joined ", " (types.map (·.template (level + 1))) ++ fixed "\x7d"
  | .record optional types =>
    if types.isEmpty then fixed "array\x7b\x7d"
    else fixed "array\x7b\n" ++
      joined ",\n" (List.zipWith (line level) optional (types.map (·.template (level + 1)))) ++
        fixed ",\n" ++ fixed (tabs (level - 1)) ++ fixed "\x7d"
termination_by skeleton => sizeOf skeleton
decreasing_by
  all_goals
    simp only [Skeleton.union.sizeOf_spec, Skeleton.list.sizeOf_spec, Skeleton.array.sizeOf_spec,
      Skeleton.iterable.sizeOf_spec, Skeleton.closure.sizeOf_spec, Skeleton.callable.sizeOf_spec,
      Skeleton.boundClass.sizeOf_spec, Skeleton.templateParam.sizeOf_spec, Skeleton.signature.sizeOf_spec,
      Skeleton.param.sizeOf_spec, Skeleton.classRef.sizeOf_spec, Skeleton.tuple.sizeOf_spec,
      Skeleton.record.sizeOf_spec, Option.some.sizeOf_spec]
    first
    | omega
    | have := List.sizeOf_lt_of_mem ‹_ ∈ _›
      omega

example : (Skeleton.list true .plain).template 1 = fixed "non-empty-list<TValue: " ++ place ++ fixed ">" := by cbv

def Solid (text : Text) : Prop :=
  text ≠ [] ∧ (∀ c ∈ text.head?, Text.isBlank c = false) ∧ ∀ c ∈ text.getLast?, Text.isBlank c = false

def Begun (text : Text) : Prop := ∃ c ∈ text.head?, Text.isBlank c = false

theorem Begun.append {text : Text} (begun : Begun text) (rest : Text) : Begun (text ++ rest) := by
  obtain ⟨c, first, visible⟩ := begun
  exact ⟨c, by rw [Option.mem_def, List.head?_append, first]; rfl, visible⟩

theorem Begun.kept {text : Text} (begun : Begun text) : text.dropWhile Text.isBlank = text := by
  obtain ⟨c, first, visible⟩ := begun
  cases text with
  | nil => cases first
  | cons d text =>
    cases first
    exact List.dropWhile_cons_of_neg (by simp [visible])

theorem Solid.begun {text : Text} (solid : Solid text) : Begun text := by
  cases text with
  | nil => exact absurd rfl solid.1
  | cons c text => exact ⟨c, rfl, solid.2.1 c rfl⟩

theorem Solid.trimEnd {text : Text} (solid : Solid text) : text.trimEnd = text := by
  have begun : Begun text.reverse := by
    rcases List.eq_nil_or_concat text with rfl | ⟨front, last, rfl⟩
    · exact absurd rfl solid.1
    · exact ⟨last, by simp, solid.2.2 last (by simp)⟩
  rw [Text.trimEnd, begun.kept, List.reverse_reverse]

namespace Part

def Begins (lookup : Lookup) (level : Nat) : Part → Prop
  | ofUnion union => Begun (union.render lookup level)
  | ofAtomic atomic => Begun (atomic.render lookup level)
  | ofClassRef object => Begun (object.render lookup level)
  | _ => True

variable {lookup : Lookup} {level : Nat}

theorem atomicBegins {atomic : Atomic} (own : ∀ text ∈ (ofAtomic atomic).displayed lookup, Solid text)
    (inner : ∀ child ∈ (ofAtomic atomic).children, child.Begins lookup level) :
    Begun (atomic.render lookup level) := by
  cases atomic with
  | list element nonEmpty =>
    rw [Atomic.render]
    cases nonEmpty <;> exact ⟨_, rfl, by decide⟩
  | array key value nonEmpty =>
    rw [Atomic.render]
    cases nonEmpty <;> exact ⟨_, rfl, by decide⟩
  | iterable | templateParam =>
    rw [Atomic.render]
    exact ⟨_, rfl, by decide⟩
  | closure signature | callable signature =>
    obtain ⟨params, returnType, isPure⟩ := signature
    rw [Atomic.render, Signature.render.eq_def]
    cases isPure <;> exact ⟨_, rfl, by decide⟩
  | classString bound =>
    cases bound <;> rw [Atomic.render] <;> exact ⟨_, rfl, by decide⟩
  | named object =>
    rw [Atomic.render]
    exact inner (ofClassRef object) List.mem_cons_self
  | shape shape =>
    obtain ⟨isList, fields⟩ := shape
    rw [Atomic.render, Shape.render]
    cases fields with
    | nil => exact ⟨_, rfl, by decide⟩
    | cons => cases isList <;> exact ⟨_, rfl, by decide⟩
  | plain id =>
    rw [Atomic.render]
    exact (own id (by simp [displayed])).begun

theorem partBegins {part : Part} (own : ∀ text ∈ part.displayed lookup, Solid text) : part.Begins lookup level := by
  induction part using Part.induct with
  | step part ih =>
    have inner : ∀ child ∈ part.children, child.Begins lookup level := fun child inside =>
      ih child inside fun text shown => own text (childDisplayed inside shown)
    cases part with
    | ofUnion union =>
      have first : Begun (union.first.render lookup level) := inner (ofAtomic union.first) List.mem_cons_self
      rw [Begins, TypeUnion.renderForm, TypeUnion.members, List.map_cons, Text.joinedCons]
      exact first.append _
    | ofAtomic atomic => exact atomicBegins own inner
    | ofClassRef object =>
      have name := (own _ (classNameDisplayed object)).begun
      obtain ⟨classId, typeArgs, intersection⟩ := object
      rw [Begins, ClassRef.render, Text.joinedCons]
      cases typeArgs with
      | nil => exact name.append _
      | cons arg args =>
        refine Begun.append ?_ _
        exact ((name.append _).append _).append _
    | _ => trivial

/- The template of a part's form, filled with what the part displays. -/

def Weaves (lookup : Lookup) (level : Nat) (part : Part) (whole : Text) : Prop :=
  Fills ((part.skeleton lookup).template level) (part.displayed lookup) whole

-- A signature is shown behind a name that is not its own, and a field's type is inside one shape more.
def Woven (lookup : Lookup) (level : Nat) : Part → Prop
  | ofUnion union => (ofUnion union).Weaves lookup level (union.render lookup level)
  | ofAtomic atomic => (ofAtomic atomic).Weaves lookup level (atomic.render lookup level)
  | ofSignature signature => ∃ body, (ofSignature signature).Weaves lookup level body ∧
      ∀ name, signature.render lookup level name = functionName signature.isPure name ++ body
  | ofParam param => (ofParam param).Weaves lookup level (param.render lookup level)
  | ofClassRef object => (ofClassRef object).Weaves lookup level (object.render lookup level)
  | ofShape shape => (ofShape shape).Weaves lookup level (shape.render lookup level)
  | ofField field => (ofField field).Weaves lookup (level + 1) (field.renderType lookup level)

theorem unionWoven {union : TypeUnion} (inner : ∀ child ∈ (ofUnion union).children, child.Woven lookup level) :
    (ofUnion union).Woven lookup level := by
  have each : ∀ atomic ∈ union.members, (ofAtomic atomic).Weaves lookup level (atomic.render lookup level) :=
    fun atomic member => inner (ofAtomic atomic) (List.mem_map_of_mem member)
  obtain ⟨first, more⟩ := union
  have filled := (FillsEach.ofItems each).joined " | "
  simp only [Woven, Weaves, skeleton, displayed, Skeleton.template, TypeUnion.renderForm, List.map_cons, List.map_map]
  exact filled

theorem signatureWoven {signature : Signature}
    (inner : ∀ child ∈ (ofSignature signature).children, child.Woven lookup level) :
    (ofSignature signature).Woven lookup level := by
  obtain ⟨params, returnType, isPure⟩ := signature
  have each : ∀ param ∈ params, (ofParam param).Weaves lookup level (param.render lookup level) :=
    fun param member => inner (ofParam param) (List.mem_append_left _ (List.mem_map_of_mem member))
  have listed := ((FillsEach.ofItems each).joined ", ").after "("
  cases returnType with
  | none =>
    refine ⟨"(" ++ Text.joined ", " (params.map (·.render lookup level)) ++ "): void", ?_, fun name => ?_⟩
    · simp only [Weaves, skeleton, displayed, Skeleton.template, List.map_map]
      exact listed.before "): void"
    · simp [Signature.render, functionName]
  | some type =>
    have result : (ofUnion type).Weaves lookup level (type.render lookup level) :=
      inner (ofUnion type) (by simp [children])
    refine ⟨"(" ++ Text.joined ", " (params.map (·.render lookup level)) ++ "): " ++ type.render lookup level, ?_,
      fun name => ?_⟩
    · simp only [Weaves, skeleton, displayed, Skeleton.template, List.map_map]
      exact (listed.before "): ").append result
    · simp [Signature.render, functionName]

theorem atomicWoven {atomic : Atomic} (inner : ∀ child ∈ (ofAtomic atomic).children, child.Woven lookup level) :
    (ofAtomic atomic).Woven lookup level := by
  cases atomic with
  | list element nonEmpty =>
    have element : (ofUnion element).Weaves lookup level (element.render lookup level) := inner _ List.mem_cons_self
    have filled := (element.after (if nonEmpty then "non-empty-list<TValue: " else "list<TValue: ").toList).before ">"
    simp only [Woven, Weaves, skeleton, displayed, Skeleton.template, Atomic.render]
    cases nonEmpty <;> exact filled
  | array key value nonEmpty =>
    have key : (ofUnion key).Weaves lookup level (key.render lookup level) := inner _ List.mem_cons_self
    have value : (ofUnion value).Weaves lookup level (value.render lookup level) :=
      inner _ (List.mem_cons_of_mem _ List.mem_cons_self)
    have start := key.after (if nonEmpty then "non-empty-array<TKey: " else "array<TKey: ").toList
    have filled := ((start.before ", TValue: ").append value).before ">"
    simp only [Woven, Weaves, skeleton, displayed, Skeleton.template, Atomic.render]
    cases nonEmpty <;> exact filled
  | iterable key value =>
    have key : (ofUnion key).Weaves lookup level (key.render lookup level) := inner _ List.mem_cons_self
    have value : (ofUnion value).Weaves lookup level (value.render lookup level) :=
      inner _ (List.mem_cons_of_mem _ List.mem_cons_self)
    simp only [Woven, Weaves, skeleton, displayed, Skeleton.template, Atomic.render]
    exact (((key.after "iterable<TKey: ").before ", TValue: ").append value).before ">"
  | closure signature | callable signature =>
    obtain ⟨body, filled, shown⟩ : (ofSignature signature).Woven lookup level := inner _ List.mem_cons_self
    simp only [Woven, Weaves, skeleton, displayed, Skeleton.template, Atomic.render, shown]
    exact filled.after _
  | classString bound =>
    cases bound with
    | none =>
      simp only [Woven, Weaves, skeleton, displayed, Skeleton.template, Atomic.render]
      exact .ofFixed _
    | some bound =>
      have bound : (ofClassRef bound).Weaves lookup level (bound.render lookup level) :=
        inner _ List.mem_cons_self
      simp only [Woven, Weaves, skeleton, displayed, Skeleton.template, Atomic.render]
      exact (bound.after "class-string<").before ">"
  | named object =>
    have object : (ofClassRef object).Weaves lookup level (object.render lookup level) :=
      inner _ List.mem_cons_self
    simp only [Woven, Weaves, skeleton, displayed, Atomic.render]
    exact object
  | shape shape =>
    have shape : (ofShape shape).Weaves lookup level (shape.render lookup level) := inner _ List.mem_cons_self
    simp only [Woven, Weaves, skeleton, displayed, Atomic.render]
    exact shape
  | templateParam name definingClass constraint =>
    have constraint : (ofUnion constraint).Weaves lookup level (constraint.render lookup level) :=
      inner _ List.mem_cons_self
    have owner := ((Fills.ofPlace (ownerName lookup definingClass)).after "from ").before " as "
    simp only [Woven, Weaves, skeleton, displayed, Skeleton.template, Atomic.render]
    exact owner.append constraint
  | plain id =>
    simp only [Woven, Weaves, skeleton, displayed, Skeleton.template, Atomic.render]
    exact .ofPlace id

-- The type begins with something to see, and so ends the name.
theorem paramUntrimmed {param : Param} (own : ∀ text ∈ (ofParam param).displayed lookup, Solid text) :
    param.render lookup level = param.front lookup level ++ '$' :: param.name := by
  have name := own _ (paramNameDisplayed param)
  have front : Begun (param.front lookup level) := by
    obtain ⟨_, type, byRef, variadic⟩ := param
    cases variadic with
    | true =>
      have dots : Begun "...".toList := ⟨'.', rfl, by decide⟩
      rw [Param.front, if_pos rfl]
      exact ((dots.append _).append _).append _
    | false =>
      cases type with
      | none => exact ⟨'m', rfl, by decide⟩
      | some type =>
        have type : Begun (type.render lookup level) := @partBegins lookup level (ofUnion type) fun text shown =>
          own text (childDisplayed List.mem_cons_self shown)
        exact (type.append _).append _
  rw [Param.renderForm, front.kept, name.trimEnd]

theorem paramWoven {param : Param} (own : ∀ text ∈ (ofParam param).displayed lookup, Solid text)
    (inner : ∀ child ∈ (ofParam param).children, child.Woven lookup level) : (ofParam param).Woven lookup level := by
  rw [Woven, Weaves, paramUntrimmed own]
  obtain ⟨name, type, byRef, variadic⟩ := param
  let start : Text := (if variadic then "..." else "").toList
  let stop : Text := (if byRef then " &$" else " $").toList
  cases type with
  | none =>
    have filled := (((Fills.ofFixed "mixed".toList).after start).before stop).append (.ofPlace name)
    have whole : Param.front lookup level ⟨name, none, byRef, variadic⟩ ++ '$' :: name =
        start ++ "mixed".toList ++ stop ++ name := by
      cases byRef <;> simp [Param.front, start, stop]
    rw [skeleton, displayed, Skeleton.template, whole]
    exact filled
  | some type =>
    have shown : (ofUnion type).Weaves lookup level (type.render lookup level) := inner _ List.mem_cons_self
    have filled := ((shown.after start).before stop).append (.ofPlace name)
    have whole : Param.front lookup level ⟨name, some type, byRef, variadic⟩ ++ '$' :: name =
        start ++ type.render lookup level ++ stop ++ name := by
      cases byRef <;> simp [Param.front, start, stop]
    rw [skeleton, displayed, Skeleton.template, whole]
    exact filled

theorem labelsCounted (lookup : Lookup) (id : Text) :
    ((lookup id).map fun info => (info.templateParams.getD []).length).getD 0 = (labels lookup id).length := by
  cases found : lookup id <;> simp [labels, found]

theorem labelledWoven {α : Type} {items : List α} {template : α → Template} {texts : α → List Text}
    {render : α → Text} (each : ∀ item ∈ items, Fills (template item) (texts item) (render item))
    (labels : List Text) : FillsEach (Template.labelled labels.length (items.map template))
      (labelledTexts labels (items.map texts)) (Rendering.labelled labels (items.map render)) := by
  induction items generalizing labels with
  | nil => cases labels <;> exact .nil
  | cons item items ih =>
    cases labels with
    | nil =>
      have plain := FillsEach.ofItems each
      rwa [List.flatMap_def] at plain
    | cons label labels =>
      obtain ⟨first, later⟩ := List.forall_mem_cons.mp each
      exact .cons (((Fills.ofPlace label).before ": ").append first) (ih later labels)

theorem classRefWoven {object : ClassRef} (inner : ∀ child ∈ (ofClassRef object).children, child.Woven lookup level) :
    (ofClassRef object).Woven lookup level := by
  obtain ⟨classId, typeArgs, intersection⟩ := object
  have args : ∀ type ∈ typeArgs, (ofUnion type).Weaves lookup level (type.render lookup level) :=
    fun type member => inner (ofUnion type) (List.mem_append_left _ (List.mem_map_of_mem member))
  have others : ∀ atomic ∈ intersection, (ofAtomic atomic).Weaves lookup level (atomic.render lookup level) :=
    fun atomic member => inner (ofAtomic atomic) (List.mem_append_right _ (List.mem_map_of_mem member))
  have name := Fills.ofPlace (className lookup classId)
  rw [Woven, Weaves, skeleton, displayed, Skeleton.template, ClassRef.render, labelsCounted, List.map_map, List.map_map]
  cases typeArgs with
  | nil =>
    have unlabelled : labelledTexts (labels lookup classId) [] = [] := by cases labels lookup classId <;> rfl
    simp only [List.map_nil, unlabelled]
    exact (FillsEach.cons name (FillsEach.ofItems others)).joined " & "
  | cons arg typeArgs =>
    have listed := (labelledWoven args (labels lookup classId)).joined ", "
    have applied := ((name.before "<").append listed).before ">"
    exact (FillsEach.cons applied (FillsEach.ofItems others)).joined " & "

theorem lineWoven {field : ShapeField} (type : (ofField field).Woven lookup level) :
    Fills (line level field.optional (((ofField field).skeleton lookup).template (level + 1)))
      (field.key.display :: (ofField field).displayed lookup) (field.render lookup level) := by
  have filled := (((Fills.ofPlace field.key.display).after (tabs level)).before
    (if field.optional then "?: " else ": ").toList).append type
  have whole : field.render lookup level = tabs level ++ field.key.display ++
      (if field.optional then "?: " else ": ").toList ++ field.renderType lookup level := by
    rw [fieldRenderForm, fieldStart]
    cases field.optional <;> simp
  rw [whole]
  exact filled

theorem shapeWoven {shape : Shape} (inner : ∀ child ∈ (ofShape shape).children, child.Woven lookup level) :
    (ofShape shape).Woven lookup level := by
  obtain ⟨isList, fields⟩ := shape
  have types : ∀ field ∈ fields, (ofField field).Woven lookup level :=
    fun field member => inner (ofField field) (List.mem_map_of_mem member)
  cases isList with
  | true =>
    have filled := (((FillsEach.ofItems types).joined ", ").after "array\x7b").before "\x7d"
    rw [Woven, Weaves, skeleton, displayed, Skeleton.template, Shape.render, List.map_map]
    cases fields <;> exact filled
  | false =>
    have lines := (FillsEach.ofItems fun field member => lineWoven (types field member)).joined ",\n"
    have filled := (((lines.after "array\x7b\n").before ",\n").before (tabs (level - 1))).before "\x7d"
    rw [Woven, Weaves, skeleton, displayed, Skeleton.template, Shape.render, List.map_map, List.zipWith_map,
      List.zipWith_self]
    cases fields with
    | nil => exact .ofFixed _
    | cons field fields => exact filled

theorem fieldWoven {field : ShapeField}
    (inner : ∀ child ∈ (ofField field).children, child.Woven lookup (level + 1)) :
    (ofField field).Woven lookup level := by
  obtain ⟨key, type, optional⟩ := field
  have type : (ofUnion type).Weaves lookup (level + 1) (type.render lookup (level + 1)) :=
    inner _ List.mem_cons_self
  simp only [Woven, Weaves, skeleton, displayed, ShapeField.renderType]
  exact type

theorem partWoven {part : Part} (own : ∀ text ∈ part.displayed lookup, Solid text) : part.Woven lookup level := by
  induction part using Part.induct generalizing level with
  | step part ih =>
    have inner {level : Nat} : ∀ child ∈ part.children, child.Woven lookup level := fun child inside =>
      ih child inside fun text shown => own text (childDisplayed inside shown)
    cases part with
    | ofUnion => exact unionWoven inner
    | ofAtomic => exact atomicWoven inner
    | ofSignature => exact signatureWoven inner
    | ofParam => exact paramWoven own inner
    | ofClassRef => exact classRefWoven inner
    | ofShape => exact shapeWoven inner
    | ofField => exact fieldWoven inner

end Part

open TypeLens.Part

/-- For each form of a type and each level there is one list of fixed texts between which the displayed texts stand,
each once and in their order, whatever they are. -/
theorem renderingWoven (skeleton : Skeleton) (level : Nat) : ∃ (front : Text) (behind : List Text),
    ∀ (lookup : Lookup) (union : TypeUnion), (ofUnion union).skeleton lookup = skeleton →
      (∀ text ∈ (ofUnion union).displayed lookup, Solid text) →
        behind.length = ((ofUnion union).displayed lookup).length ∧
          union.render lookup level =
            front ++ (List.zipWith (· ++ ·) ((ofUnion union).displayed lookup) behind).flatten := by
  refine ⟨(skeleton.template level).parted.1, (skeleton.template level).parted.2, ?_⟩
  intro lookup union same solid
  subst same
  have filled : (ofUnion union).Weaves lookup level (union.render lookup level) := partWoven solid
  exact filled.ofParted

def handler (classId id name owner key : Text) : TypeUnion :=
  .single (.closure ⟨[⟨name, some (.single (.named ⟨classId, [.single (.plain id)], []⟩)), true, false⟩],
    some (.single (.templateParam "T" owner (.single (.shape ⟨false, [⟨.name key, .single (.plain id), true⟩]⟩)))),
    true⟩)

def knowing (known : Text) (info : ClassInfo) : Lookup := fun id => if id = known then some info else none

theorem handlerSkeleton (lookup : Lookup) (classId id name owner key : Text) :
    (ofUnion (handler classId id name owner key)).skeleton lookup =
      .union [.closure true (.signature
        [.param (some (.union [.classRef ((lookup classId).map fun info => (info.templateParams.getD []).length)
          [.union [.plain]] []])) true false]
        (some (.union [.templateParam (lookup owner).isSome (.union [.record [true] [.union [.plain]]])])))] := by
  simp [handler, TypeUnion.single, skeleton]

theorem handlerDisplayed (lookup : Lookup) (classId id name owner key : Text) :
    (ofUnion (handler classId id name owner key)).displayed lookup =
      className lookup classId :: labelledTexts (labels lookup classId) [[id]] ++
        [name, ownerName lookup owner, key, id] := by
  simp [handler, TypeUnion.single, displayed, ShapeKey.display]

def boxes : Lookup := knowing "Box" ⟨"Box", some ["T"]⟩

def pairs : Lookup := knowing "App\\Pair" ⟨"Pair", some ["K"]⟩

def boxTexts : List Text := ["Box", "T", "int", "x", "f", "a", "int"]

def pairTexts : List Text := ["Pair", "K", "list<a b>", "$ y", "g", "1", "list<a b>"]

theorem boxSolid : ∀ text ∈ boxTexts, Solid text := by
  simp [boxTexts, Solid]
  decide

theorem pairSolid : ∀ text ∈ pairTexts, Solid text := by
  simp [pairTexts, Solid]
  decide

theorem renamedWoven : ∃ (front : Text) (behind : List Text), behind.length = 7 ∧
    (handler "Box" "int" "x" "fn-f" "a").render boxes 1 =
      front ++ (List.zipWith (· ++ ·) boxTexts behind).flatten ∧
    (handler "App\\Pair" "list<a b>" "$ y" "g" "1").render pairs 1 =
      front ++ (List.zipWith (· ++ ·) pairTexts behind).flatten := by
  have form := handlerSkeleton boxes "Box" "int" "x" "fn-f" "a"
  have form' := handlerSkeleton pairs "App\\Pair" "list<a b>" "$ y" "g" "1"
  have texts := handlerDisplayed boxes "Box" "int" "x" "fn-f" "a"
  have texts' := handlerDisplayed pairs "App\\Pair" "list<a b>" "$ y" "g" "1"
  have shown : _ = boxTexts := texts.trans (by decide +kernel)
  have shown' : _ = pairTexts := texts'.trans (by decide +kernel)
  obtain ⟨front, behind, woven⟩ := renderingWoven _ 1
  obtain ⟨length, whole⟩ := woven _ _ form (shown ▸ boxSolid)
  obtain ⟨_, whole'⟩ := woven _ _ form' (shown' ▸ pairSolid)
  rw [shown] at length whole
  rw [shown'] at whole'
  exact ⟨front, behind, length, whole, whole'⟩

end TypeLens
