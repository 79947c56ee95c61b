import TypeLens.Proofs.Displayed
import TypeLens.Proofs.Outside

/-! Separators in renderings. A union within a type is in brackets, unless it is a return type or the constraint of
a template parameter, and nothing else encloses it; the separators of such a union stand outside, like those of the
whole. -/
namespace TypeLens

open Rendering TypeLens.Part

namespace Part

def unbracketed : Part → List Part
  | ofUnion union => union.members.map ofAtomic
  | ofAtomic (.closure signature) => [ofSignature signature]
  | ofAtomic (.callable signature) => [ofSignature signature]
  | ofAtomic (.named object) => [ofClassRef object]
  | ofAtomic (.templateParam _ _ constraint) => [ofUnion constraint]
  | ofSignature signature => signature.returnType.toList.map ofUnion
  | ofClassRef object => object.intersection.map ofAtomic
  | _ => []

theorem unbracketedChild {part child : Part} (bare : child ∈ part.unbracketed) : child ∈ part.children := by
  cases part with
  | ofAtomic atomic => cases atomic <;> simp_all [unbracketed, children]
  | _ => simp_all [unbracketed, children]

def outer (part : Part) : List Part := part :: part.unbracketed.attach.flatMap fun child => child.1.outer
termination_by sizeOf part
decreasing_by exact sizeOfChild (unbracketedChild child.2)

theorem outerEq (part : Part) : part.outer = part :: part.unbracketed.flatMap outer := by
  rw [outer, List.flatMap_subtype (g := outer) (fun _ _ => rfl), List.unattach_attach]

def asUnion : Part → Option TypeUnion
  | ofUnion union => some union
  | _ => none

def ownSeparators : Part → Nat
  | ofUnion union => union.members.length - 1
  | _ => 0

def separators (part : Part) : Nat := (part.outer.map ownSeparators).sum

theorem separatorsEq (part : Part) :
    part.separators = part.ownSeparators + (part.unbracketed.map separators).sum := by
  rw [separators, outerEq, List.map_cons, List.sum_cons, sumFlatMap]
  rfl

def SetApart (lookup : Lookup) (part : Part) : Prop := ∀ level, match part with
  | ofUnion union => Outside (union.render lookup level) part.separators
  | ofAtomic atomic => Outside (atomic.render lookup level) part.separators
  | ofSignature signature => ∀ name, (∀ c ∈ name, Free c) → Outside (signature.render lookup level name) part.separators
  | ofParam param => Enclosed (param.render lookup level)
  | ofClassRef object => Outside (object.render lookup level) part.separators
  | ofShape shape => Outside (shape.render lookup level) 0
  | ofField field => Enclosed (field.renderType lookup level)

end Part

section
variable {lookup : Lookup}

theorem separatorsNone {part : Part} (own : part.ownSeparators = 0) (none : part.unbracketed = []) :
    part.separators = 0 := by
  rw [separatorsEq, own, none]
  rfl

theorem separatorsOne {part child : Part} (own : part.ownSeparators = 0) (only : part.unbracketed = [child]) :
    part.separators = child.separators := by
  rw [separatorsEq, own, only]
  simp

theorem atomicSetApart {atomic : Atomic} (own : ∀ text ∈ (ofAtomic atomic).displayed lookup, ∀ c ∈ text, Free c)
    (inner : ∀ child ∈ (ofAtomic atomic).children, child.SetApart lookup) : (ofAtomic atomic).SetApart lookup := by
  intro level
  simp only
  cases atomic with
  | list element nonEmpty =>
    have element : Enclosed (element.render lookup level) := (inner _ List.mem_cons_self level).enclosed
    have start : ∀ c ∈ (if nonEmpty then "non-empty-list" else "list").toList, Free c := by cases nonEmpty <;> simp
    rw [Atomic.render, separatorsNone rfl rfl]
    simpa using Outside.wrapped '<' '>' start (element.after "TValue: ".toList (by simp)) rfl rfl
  | array key value nonEmpty =>
    have key : Enclosed (key.render lookup level) := (inner _ List.mem_cons_self level).enclosed
    have value : Enclosed (value.render lookup level) :=
      (inner _ (List.mem_cons_of_mem _ List.mem_cons_self) level).enclosed
    have start : ∀ c ∈ (if nonEmpty then "non-empty-array" else "array").toList, Free c := by cases nonEmpty <;> simp
    have body := (key.after "TKey: ".toList (by simp)).append (value.after ", TValue: ".toList (by simp))
    rw [Atomic.render, separatorsNone rfl rfl]
    simpa using Outside.wrapped '<' '>' start body rfl rfl
  | iterable key value =>
    have key : Enclosed (key.render lookup level) := (inner _ List.mem_cons_self level).enclosed
    have value : Enclosed (value.render lookup level) :=
      (inner _ (List.mem_cons_of_mem _ List.mem_cons_self) level).enclosed
    have start : ∀ c ∈ "iterable".toList, Free c := by simp
    have body := (key.after "TKey: ".toList (by simp)).append (value.after ", TValue: ".toList (by simp))
    rw [Atomic.render, separatorsNone rfl rfl]
    simpa using Outside.wrapped '<' '>' start body rfl rfl
  | closure signature | callable signature =>
    have signature : (ofSignature signature).SetApart lookup := inner _ List.mem_cons_self
    rw [Atomic.render, separatorsOne rfl rfl]
    exact signature level _ (by simp)
  | classString bound =>
    have start : ∀ c ∈ "class-string".toList, Free c := by simp
    rw [separatorsNone rfl rfl]
    cases bound with
    | none =>
      rw [Atomic.render]
      exact Outside.ofFree start
    | some bound =>
      have bound : Enclosed (bound.render lookup level) := (inner _ List.mem_cons_self level).enclosed
      rw [Atomic.render]
      simpa using Outside.wrapped '<' '>' start bound rfl rfl
  | named object =>
    rw [Atomic.render, separatorsOne rfl rfl]
    exact inner _ List.mem_cons_self level
  | shape shape =>
    rw [Atomic.render, separatorsNone rfl rfl]
    exact inner _ List.mem_cons_self level
  | templateParam name definingClass constraint =>
    have constraint : Outside (constraint.render lookup level) (ofUnion constraint).separators :=
      inner _ List.mem_cons_self level
    have owner := own (ownerName lookup definingClass) (by simp [displayed])
    have start : ∀ c ∈ "from ".toList ++ ownerName lookup definingClass ++ " as ".toList, Free c := by
      simp only [List.forall_mem_append]
      exact ⟨⟨by simp, owner⟩, by simp⟩
    rw [Atomic.render, separatorsOne rfl rfl]
    simpa using (Outside.ofFree start).append constraint
  | plain id =>
    rw [Atomic.render, separatorsNone rfl rfl]
    exact Outside.ofFree (own id (by simp [displayed]))

theorem unionSetApart {union : TypeUnion} (inner : ∀ child ∈ (ofUnion union).children, child.SetApart lookup) :
    (ofUnion union).SetApart lookup := by
  intro level
  obtain ⟨first, more⟩ := union
  have each : ∀ atomic ∈ first :: more, Outside (atomic.render lookup level) (ofAtomic atomic).separators :=
    fun atomic member => inner (ofAtomic atomic) (List.mem_map.mpr ⟨atomic, member, rfl⟩) level
  obtain ⟨head, each⟩ := List.forall_mem_cons.mp each
  have others : List.Forall₂ Outside (more.map (·.render lookup level)) (more.map fun atomic =>
      (ofAtomic atomic).separators) := mappedAlike each
  have mark : Outside " | ".toList 1 := .mark .nil
  have whole := Outside.joined mark head others
  simp only
  rw [TypeUnion.render, separatorsEq]
  convert whole using 1
  simp [unbracketed, ownSeparators, TypeUnion.members, Function.comp_def]
  omega

theorem signatureSetApart {signature : Signature}
    (inner : ∀ child ∈ (ofSignature signature).children, child.SetApart lookup) :
    (ofSignature signature).SetApart lookup := by
  intro level name free
  obtain ⟨params, returnType, isPure⟩ := signature
  have each : ∀ text ∈ params.map (·.render lookup level), Enclosed text :=
    List.forall_mem_map.mpr fun param member =>
      inner (ofParam param) (List.mem_append_left _ (List.mem_map_of_mem member)) level
  have comma : Enclosed ", ".toList := .ofFree (by simp)
  have start : ∀ c ∈ (if isPure then "pure-" else "").toList ++ name, Free c := by
    rw [List.forall_mem_append]
    exact ⟨by cases isPure <;> simp, free⟩
  have listed := Outside.wrapped '(' ')' start (.joined comma each) rfl rfl
  have colon : ∀ c ∈ ": ".toList, Free c := by simp
  rw [separatorsEq]
  cases returnType with
  | none =>
    have void : ∀ c ∈ ": void".toList, Free c := by simp
    rw [Signature.render]
    simpa [unbracketed, ownSeparators] using listed.append (.ofFree void)
  | some type =>
    have result : Outside (type.render lookup level) (ofUnion type).separators :=
      inner (ofUnion type) (by simp [children]) level
    rw [Signature.render]
    simpa [unbracketed, ownSeparators] using listed.append ((Outside.ofFree colon).append result)

theorem paramSetApart {param : Param} (own : ∀ text ∈ (ofParam param).displayed lookup, ∀ c ∈ text, Free c)
    (inner : ∀ child ∈ (ofParam param).children, child.SetApart lookup) : (ofParam param).SetApart lookup := by
  intro level
  obtain ⟨name, type, byRef, variadic⟩ := param
  have shown : ∀ c ∈ name, Free c := own name (paramNameDisplayed ⟨name, type, byRef, variadic⟩)
  have back : Enclosed ('$' :: Text.trimEnd name) :=
    .ofFree (List.forall_mem_cons.mpr ⟨by decide, fun c member => shown c (Text.ofTrimEnd member)⟩)
  have dots : ∀ c ∈ (if variadic then "..." else "").toList, Free c := by cases variadic <;> simp
  have ampersand : ∀ c ∈ (if byRef then "&" else "").toList, Free c := by cases byRef <;> simp
  have front : Enclosed (Param.front lookup level ⟨name, type, byRef, variadic⟩) := by
    cases type with
    | none =>
      have mixed : Enclosed "mixed".toList := .ofFree (by simp)
      exact ((mixed.after _ dots).before " ".toList (by simp)).before _ ampersand
    | some type =>
      have type : Enclosed (type.render lookup level) := (inner _ List.mem_cons_self level).enclosed
      exact ((type.after _ dots).before " ".toList (by simp)).before _ ampersand
  simp only
  rw [Param.renderForm]
  exact front.dropBlanks.append back

theorem labelledEnclosed {labels texts : List Text} (each : ∀ text ∈ texts, Enclosed text)
    (own : ∀ label ∈ labels.take texts.length, ∀ c ∈ label, Free c) :
    ∀ text ∈ labelled labels texts, Enclosed text := by
  induction texts generalizing labels with
  | nil => cases labels <;> exact each
  | cons text texts ih =>
    cases labels with
    | nil => exact each
    | cons label labels =>
      obtain ⟨first, each⟩ := List.forall_mem_cons.mp each
      obtain ⟨labelOwn, own⟩ := List.forall_mem_cons.mp own
      refine List.forall_mem_cons.mpr ⟨?_, ih each own⟩
      simpa using (Enclosed.ofFree labelOwn).append (first.after ": ".toList (by simp))

theorem classRefSetApart {object : ClassRef} (own : ∀ text ∈ (ofClassRef object).displayed lookup, ∀ c ∈ text, Free c)
    (inner : ∀ child ∈ (ofClassRef object).children, child.SetApart lookup) : (ofClassRef object).SetApart lookup := by
  intro level
  obtain ⟨classId, typeArgs, intersection⟩ := object
  have name : ∀ c ∈ className lookup classId, Free c :=
    own _ (classNameDisplayed ⟨classId, typeArgs, intersection⟩)
  have args : ∀ text ∈ typeArgs.map (·.render lookup level), Enclosed text :=
    List.forall_mem_map.mpr fun type member =>
      (inner (ofUnion type) (List.mem_append_left _ (List.mem_map_of_mem member)) level).enclosed
  have others : List.Forall₂ Outside (intersection.map (·.render lookup level)) (intersection.map fun atomic =>
      (ofAtomic atomic).separators) := by
    apply mappedAlike
    intro atomic member
    exact inner (ofAtomic atomic) (List.mem_append_right _ (List.mem_map_of_mem member)) level
  have named := labelledEnclosed args fun label shown =>
    own label (@typeLabelDisplayed lookup ⟨classId, typeArgs, intersection⟩ label (by simpa using shown))
  have comma : Enclosed ", ".toList := .ofFree (by simp)
  have applied : Outside (if typeArgs.isEmpty then className lookup classId
      else className lookup classId ++ "<".toList ++
        Text.joined ", " (labelled (labels lookup classId) (typeArgs.map (·.render lookup level))) ++
        ">".toList) 0 := by
    cases typeArgs with
    | nil => exact .ofFree name
    | cons type typeArgs => simpa using Outside.wrapped '<' '>' name (.joined comma named) rfl rfl
  have ampersand : Outside " & ".toList 0 := .ofFree (by simp)
  simp only
  rw [separatorsEq, ClassRef.render]
  simpa [unbracketed, ownSeparators, Function.comp_def] using Outside.joined ampersand applied others

theorem tabsEnclosed (level : Nat) : Enclosed (tabs level) := by
  refine .ofFree fun c member => ?_
  rw [(List.mem_replicate.mp member).2]
  simp

theorem fieldStartEnclosed {field : ShapeField} (key : ∀ c ∈ field.key.display, Free c) :
    Enclosed (fieldStart field) := by
  have optional : ∀ c ∈ (if field.optional then "?" else "").toList, Free c := by cases field.optional <;> simp
  exact ((Enclosed.ofFree key).before _ optional).before ": ".toList (by simp)

theorem shapeSetApart {shape : Shape} (own : ∀ text ∈ (ofShape shape).displayed lookup, ∀ c ∈ text, Free c)
    (inner : ∀ child ∈ (ofShape shape).children, child.SetApart lookup) : (ofShape shape).SetApart lookup := by
  intro level
  obtain ⟨isList, fields⟩ := shape
  have types : ∀ field ∈ fields, ∀ level, Enclosed (field.renderType lookup level) :=
    fun field member level => inner (ofField field) (List.mem_map_of_mem member) level
  have start : ∀ c ∈ "array".toList, Free c := by simp
  simp only
  rw [Shape.render]
  by_cases none : fields.isEmpty
  · rw [if_pos none]
    exact Outside.wrapped '{' '}' start .nil rfl rfl
  · rw [if_neg none]
    cases isList with
    | true =>
      have comma : Enclosed ", ".toList := .ofFree (by simp)
      have each : ∀ text ∈ fields.map (·.renderType lookup level), Enclosed text :=
        List.forall_mem_map.mpr fun field member => types field member level
      simpa using Outside.wrapped '{' '}' start (.joined comma each) rfl rfl
    | false =>
      have comma : Enclosed ",\n".toList := .ofFree (by simp)
      have each : ∀ text ∈ fields.map (·.render lookup level), Enclosed text := by
        refine List.forall_mem_map.mpr fun field member => ?_
        have key : ∀ c ∈ field.key.display, Free c := own field.key.display (keyDisplayed member)
        rw [fieldRenderForm]
        exact (tabsEnclosed level).append ((fieldStartEnclosed key).append (types field member level))
      have last := (tabsEnclosed (level - 1)).after ",\n".toList (by simp)
      have body := ((Enclosed.joined comma each).after "\n".toList (by simp)).append last
      simpa using Outside.wrapped '{' '}' start body rfl rfl

theorem fieldSetApart {field : ShapeField} (inner : ∀ child ∈ (ofField field).children, child.SetApart lookup) :
    (ofField field).SetApart lookup := by
  intro level
  have type : Outside (field.type.render lookup (level + 1)) (ofUnion field.type).separators :=
    inner _ List.mem_cons_self (level + 1)
  simp only
  cases field
  rw [ShapeField.renderType]
  exact type.enclosed

theorem partSetApart {part : Part} (own : ∀ text ∈ part.displayed lookup, ∀ c ∈ text, Free c) :
    part.SetApart lookup := by
  induction part using Part.induct with
  | step part ih =>
    have inner : ∀ child ∈ part.children, child.SetApart lookup := fun child inside =>
      ih child inside fun text shown => own text (childDisplayed inside shown)
    cases part with
    | ofUnion => exact unionSetApart inner
    | ofAtomic => exact atomicSetApart own inner
    | ofSignature => exact signatureSetApart inner
    | ofParam => exact paramSetApart own inner
    | ofClassRef => exact classRefSetApart own inner
    | ofShape => exact shapeSetApart own inner
    | ofField => exact fieldSetApart inner

end

def TypeUnion.exposed (union : TypeUnion) : List TypeUnion :=
  ((ofUnion union).unbracketed.flatMap outer).filterMap asUnion

theorem exposedSeparators (union : TypeUnion) : (ofUnion union).separators =
    (union.members.length - 1) + (union.exposed.map fun inner => inner.members.length - 1).sum := by
  have unions (list : List Part) : (list.map ownSeparators).sum =
      ((list.filterMap asUnion).map fun inner => inner.members.length - 1).sum := by
    induction list with
    | nil => rfl
    | cons part list ih => cases part <;> simp [List.filterMap_cons, asUnion, ownSeparators, ih]
  rw [separators, outerEq, List.map_cons, List.sum_cons, unions]
  rfl

/-- The separators of a rendering outside all brackets: those between the members, and those of the unions within
that have no brackets around them. They tell the members apart just if none of these has a separator. -/
theorem renderingSeparators (lookup : Lookup) (level : Nat) (union : TypeUnion)
    (free : ∀ text ∈ (ofUnion union).displayed lookup, ∀ c ∈ text, c ∉ ['|', '<', '>', '(', ')', '{', '}']) :
    outerSeparators 0 (union.render lookup level) =
        (union.members.length - 1) + (union.exposed.map fun inner => inner.members.length - 1).sum ∧
      (outerSeparators 0 (union.render lookup level) = union.members.length - 1 ↔
        ∀ inner ∈ union.exposed, inner.members.length = 1) := by
  have apart : (ofUnion union).SetApart lookup :=
    partSetApart fun text shown c member => freeIff.mpr (free text shown c member)
  have counted : outerSeparators 0 (union.render lookup level) = (ofUnion union).separators := (apart level).separators
  rw [counted, exposedSeparators]
  refine ⟨rfl, ?_⟩
  have one (inner : TypeUnion) : inner.members.length - 1 = 0 ↔ inner.members.length = 1 := by
    simp [TypeUnion.members]
  rw [Nat.add_eq_left, List.sum_eq_zero_iff_forall_eq_nat, List.forall_mem_map]
  exact forall₂_congr fun inner _ => one inner

def twoTypes : TypeUnion := ⟨.plain "int", [.plain "string"]⟩

def returning : TypeUnion := .single (.closure ⟨[.typed "x" twoTypes], some twoTypes, false⟩)

theorem returningFree (lookup : Lookup) : ∀ text ∈ (ofUnion returning).displayed lookup, ∀ c ∈ text,
    c ∉ ['|', '<', '>', '(', ')', '{', '}'] := by
  have shown : (ofUnion returning).displayed lookup =
      ["int".toList, "string".toList, "x".toList, "int".toList, "string".toList] := by
    simp [returning, twoTypes, Param.typed, TypeUnion.single, displayed]
  rw [shown]
  simp

theorem returningExposed : returning.exposed = [twoTypes] := by
  simp [returning, twoTypes, TypeUnion.single, TypeUnion.exposed, TypeUnion.members, unbracketed, outerEq,
    List.filterMap_cons, asUnion]

theorem returningRendered (lookup : Lookup) (level : Nat) :
    returning.render lookup level = "Closure(int | string $x): int | string".toList := by
  have type : twoTypes.render lookup level = "int | string".toList := by
    simp [twoTypes, TypeUnion.render, Atomic.render, Text.joined]
  have param : (Param.typed "x" twoTypes).render lookup level = "int | string $x".toList := by
    rw [Param.renderForm, Param.front]
    simp only [Param.typed, type]
    decide
  rw [returning, TypeUnion.single, TypeUnion.render, List.map_nil, Atomic.render, Signature.render, List.map_cons,
    List.map_nil, param]
  simp [Text.joined, type]

theorem returningSeparators :
    (∀ text ∈ (ofUnion returning).displayed (fun _ => none), ∀ c ∈ text, c ∉ ['|', '<', '>', '(', ')', '{', '}']) ∧
      returning.exposed = [twoTypes] ∧ outerSeparators 0 (returning.render (fun _ => none) 1) = 0 + 1 := by
  have counted := (renderingSeparators (fun _ => none) 1 returning (returningFree _)).1
  rw [returningExposed] at counted
  exact ⟨returningFree _, returningExposed, counted⟩

theorem returnedSeparators : ¬∀ (lookup : Lookup) (level : Nat) (union : TypeUnion),
    (∀ text ∈ (ofUnion union).displayed lookup, ∀ c ∈ text, c ∉ ['|', '<', '>', '(', ')', '{', '}']) →
      outerSeparators 0 (union.render lookup level) = union.members.length - 1 := by
  intro always
  have none := always (fun _ => none) 1 returning (returningFree _)
  rw [returningRendered] at none
  revert none
  decide

end TypeLens
