import TypeLens.Proofs.Layout
import Mathlib.Data.List.DropRight

/-! Indentation. A rendering at a deeper level is the same text with more tabs behind each new line; a type without
records has no new line of its own, so it looks the same at every level. -/
namespace TypeLens

open Rendering TypeLens.Part

def indented (k : Nat) (text : Text) : Text := text.flatMap fun c => if c = '\n' then '\n' :: tabs k else [c]

section
variable {k : Nat}

@[simp] theorem indentedNil : indented k [] = [] := rfl

@[simp] theorem indentedCons {c : Char} (other : c ≠ '\n') (text : Text) :
    indented k (c :: text) = c :: indented k text := by
  simp [indented, other]

@[simp] theorem indentedBreak (text : Text) : indented k ('\n' :: text) = '\n' :: (tabs k ++ indented k text) := by
  simp [indented]

@[simp] theorem indentedAppend (s t : Text) : indented k (s ++ t) = indented k s ++ indented k t :=
  List.flatMap_append

theorem indentedLine {text : Text} (line : '\n' ∉ text) : indented k text = text := by
  induction text with
  | nil => rfl
  | cons c text ih =>
    obtain ⟨other, later⟩ := List.ne_and_not_mem_of_not_mem_cons line
    rw [indentedCons other.symm, ih later]

theorem indentedNone (text : Text) : indented 0 text = text := by
  induction text with
  | nil => rfl
  | cons c text ih =>
    by_cases newline : c = '\n'
    · rw [newline, indentedBreak, ih, tabs, List.replicate_zero, List.nil_append]
    · rw [indentedCons newline, ih]

def Lined (k : Nat) (text : Text) : Prop := k = 0 ∨ '\n' ∉ text

theorem Lined.same {text : Text} (lined : Lined k text) : indented k text = text := by
  rcases lined with rfl | line
  · exact indentedNone text
  · exact indentedLine line

theorem indentedFlatMap (separator : Text) (texts : List Text) :
    indented k (texts.flatMap (separator ++ ·)) = (texts.map (indented k)).flatMap (indented k separator ++ ·) := by
  induction texts with
  | nil => rfl
  | cons text texts ih => rw [List.flatMap_cons, indentedAppend, indentedAppend, ih, List.map_cons, List.flatMap_cons]

theorem indentedJoined {separator : Text} (line : '\n' ∉ separator) (texts : List Text) :
    indented k (Text.joined separator texts) = Text.joined separator (texts.map (indented k)) := by
  cases texts with
  | nil => rfl
  | cons text texts =>
    rw [Text.joinedCons, indentedAppend, indentedFlatMap, indentedLine line, List.map_cons, Text.joinedCons]

-- The tabs behind a new line are blanks as well, so they go where it goes.
theorem indentedDropBlanks (text : Text) :
    (indented k text).dropWhile Text.isBlank = indented k (text.dropWhile Text.isBlank) := by
  induction text with
  | nil => rfl
  | cons c text ih =>
    by_cases newline : c = '\n'
    · have blanks : ∀ t ∈ tabs k, Text.isBlank t := fun t member => (List.mem_replicate.mp member).2 ▸ by decide
      rw [newline, indentedBreak, List.dropWhile_cons_of_pos (by decide), List.dropWhile_append_of_pos blanks, ih,
        List.dropWhile_cons_of_pos (by decide)]
    · rw [indentedCons newline]
      by_cases blank : Text.isBlank c
      · rw [List.dropWhile_cons_of_pos blank, ih, List.dropWhile_cons_of_pos blank]
      · rw [List.dropWhile_cons_of_neg blank, List.dropWhile_cons_of_neg blank, indentedCons newline]

theorem indentedTabs (level : Nat) : indented k (tabs level) = tabs level :=
  indentedLine (by simp [tabs, List.mem_replicate])

theorem tabsMore (level : Nat) : tabs k ++ tabs level = tabs (level + k) := by
  rw [tabs, tabs, tabs, List.replicate_append_replicate, Nat.add_comm]

end

/- From the parts inside to the whole. -/

namespace Part

/-- Only a record shows the level that it is rendered at, so only there the second level has to be k deeper. -/
def Deeper (k : Nat) (part : Part) (level level' : Nat) : Prop :=
  part.newlines = 0 ∨ 1 ≤ level ∧ level' = level + k

theorem Deeper.child {k level level' : Nat} {part child : Part} (deeper : part.Deeper k level level')
    (inside : child ∈ part.children) : child.Deeper k level level' := by
  rcases deeper with flat | deeper
  · rw [newlinesEq, Nat.add_eq_zero_iff, List.sum_eq_zero_iff_forall_eq_nat] at flat
    exact .inl (flat.2 _ (List.mem_map_of_mem inside))
  · exact .inr deeper

theorem Deeper.further {k level level' : Nat} {part : Part} (deeper : part.Deeper k level level') :
    part.Deeper k (level + 1) (level' + 1) := by
  rcases deeper with flat | ⟨some_, rfl⟩
  · exact .inl flat
  · exact .inr ⟨Nat.le_add_left 1 level, Nat.add_right_comm level k 1⟩

def Indents (lookup : Lookup) (k : Nat) (part : Part) : Prop := ∀ level level', part.Deeper k level level' →
  match part with
  | ofUnion union => union.render lookup level' = indented k (union.render lookup level)
  | ofAtomic atomic => atomic.render lookup level' = indented k (atomic.render lookup level)
  | ofSignature signature => ∀ name, '\n' ∉ name →
      signature.render lookup level' name = indented k (signature.render lookup level name)
  | ofParam param => param.render lookup level' = indented k (param.render lookup level)
  | ofClassRef object => object.render lookup level' = indented k (object.render lookup level)
  | ofShape shape => shape.render lookup level' = indented k (shape.render lookup level)
  | ofField field => field.renderType lookup level' = indented k (field.renderType lookup level)

end Part

section
variable {lookup : Lookup} {k : Nat}

theorem renderedMore {α : Type} {separator : Text} (line : '\n' ∉ separator) {items : List α} {left right : α → Text}
    (each : ∀ item ∈ items, right item = indented k (left item)) :
    Text.joined separator (items.map right) = indented k (Text.joined separator (items.map left)) := by
  rw [indentedJoined line, List.map_map, List.map_congr_left each]
  rfl

theorem unionIndents {union : TypeUnion} (inner : ∀ child ∈ (ofUnion union).children, child.Indents lookup k) :
    (ofUnion union).Indents lookup k := by
  intro level level' deeper
  have each : ∀ atomic ∈ union.members, atomic.render lookup level' = indented k (atomic.render lookup level) :=
    fun atomic member => inner (ofAtomic atomic) (List.mem_map_of_mem member) level level'
      (deeper.child (List.mem_map_of_mem member))
  simp only [TypeUnion.renderForm]
  exact renderedMore (by simp) each

theorem atomicIndents {atomic : Atomic} (own : ∀ text ∈ (ofAtomic atomic).displayed lookup, Lined k text)
    (inner : ∀ child ∈ (ofAtomic atomic).children, child.Indents lookup k) : (ofAtomic atomic).Indents lookup k := by
  intro level level' deeper
  have below {child : Part} (inside : child ∈ (ofAtomic atomic).children) :=
    inner child inside level level' (deeper.child inside)
  cases atomic with
  | list element nonEmpty =>
    have element : element.render lookup level' = _ := below List.mem_cons_self
    simp only [Atomic.render, element]
    cases nonEmpty <;> simp
  | array key value nonEmpty =>
    have key : key.render lookup level' = _ := below List.mem_cons_self
    have value : value.render lookup level' = _ := below (List.mem_cons_of_mem _ List.mem_cons_self)
    simp only [Atomic.render, key, value]
    cases nonEmpty <;> simp
  | iterable key value =>
    have key : key.render lookup level' = _ := below List.mem_cons_self
    have value : value.render lookup level' = _ := below (List.mem_cons_of_mem _ List.mem_cons_self)
    simp only [Atomic.render, key, value]
    simp
  | closure | callable =>
    simp only [Atomic.render]
    exact below List.mem_cons_self _ (by simp)
  | classString bound =>
    cases bound with
    | none => simp [Atomic.render]
    | some bound =>
      have bound : bound.render lookup level' = _ := below List.mem_cons_self
      simp [Atomic.render, bound]
  | named | shape =>
    simp only [Atomic.render]
    exact below List.mem_cons_self
  | templateParam name definingClass constraint =>
    have constraint : constraint.render lookup level' = _ := below List.mem_cons_self
    have owner := (own (ownerName lookup definingClass) (by simp [displayed])).same
    simp [Atomic.render, constraint, owner]
  | plain id =>
    have id := (own id (by simp [displayed])).same
    simp [Atomic.render, id]

theorem signatureIndents {signature : Signature}
    (inner : ∀ child ∈ (ofSignature signature).children, child.Indents lookup k) :
    (ofSignature signature).Indents lookup k := by
  intro level level' deeper name line
  obtain ⟨params, returnType, isPure⟩ := signature
  have among {param : Param} (member : param ∈ params) :
      ofParam param ∈ (ofSignature ⟨params, returnType, isPure⟩).children :=
    List.mem_append_left _ (List.mem_map_of_mem member)
  have each : ∀ param ∈ params, param.render lookup level' = indented k (param.render lookup level) :=
    fun param member => inner (ofParam param) (among member) level level' (deeper.child (among member))
  have listed := @renderedMore k _ ", ".toList (by simp) _ _ _ each
  cases returnType with
  | none =>
    simp only [Signature.render, listed]
    cases isPure <;> simp [indentedLine line]
  | some type =>
    have inside : ofUnion type ∈ (ofSignature ⟨params, some type, isPure⟩).children := by simp [children]
    have type : type.render lookup level' = _ := inner (ofUnion type) inside level level' (deeper.child inside)
    simp only [Signature.render, listed, type]
    cases isPure <;> simp [indentedLine line]

theorem paramIndents {param : Param} (own : ∀ text ∈ (ofParam param).displayed lookup, Lined k text)
    (inner : ∀ child ∈ (ofParam param).children, child.Indents lookup k) : (ofParam param).Indents lookup k := by
  intro level level' deeper
  have name : Lined k param.name.trimEnd :=
    (own param.name (paramNameDisplayed param)).imp_right fun line member => line (Text.ofTrimEnd member)
  have front : param.front lookup level' = indented k (param.front lookup level) := by
    obtain ⟨_, type, byRef, variadic⟩ := param
    cases type with
    | none => cases byRef <;> cases variadic <;> simp [Param.front]
    | some type =>
      have type : type.render lookup level' = _ :=
        inner _ List.mem_cons_self level level' (deeper.child List.mem_cons_self)
      simp only [Param.front, type]
      cases byRef <;> cases variadic <;> simp
  simp only [Param.renderForm, front, indentedDropBlanks]
  simp [name.same]

theorem labelledIndented {labels texts : List Text}
    (own : ∀ label ∈ labels.take texts.length, Lined k label) :
    labelled labels (texts.map (indented k)) = (labelled labels texts).map (indented k) := by
  induction texts generalizing labels with
  | nil => cases labels <;> rfl
  | cons text texts ih =>
    cases labels with
    | nil => rfl
    | cons label labels =>
      obtain ⟨labelOwn, own⟩ := List.forall_mem_cons.mp own
      simp [labelled, labelOwn.same, ih own]

theorem classRefIndents {object : ClassRef} (own : ∀ text ∈ (ofClassRef object).displayed lookup, Lined k text)
    (inner : ∀ child ∈ (ofClassRef object).children, child.Indents lookup k) :
    (ofClassRef object).Indents lookup k := by
  intro level level' deeper
  have name := (own _ (classNameDisplayed object)).same
  have labelsOwn : ∀ label ∈ (labels lookup object.classId).take object.typeArgs.length, Lined k label :=
    fun label shown => own label (typeLabelDisplayed shown)
  obtain ⟨classId, typeArgs, intersection⟩ := object
  have below {child : Part} (inside : child ∈ (ofClassRef ⟨classId, typeArgs, intersection⟩).children) :=
    inner child inside level level' (deeper.child inside)
  have args : typeArgs.map (·.render lookup level') = (typeArgs.map (·.render lookup level)).map (indented k) := by
    rw [List.map_map]
    exact List.map_congr_left fun type member => below (List.mem_append_left _ (List.mem_map_of_mem member))
  have others : intersection.map (·.render lookup level') =
      (intersection.map (·.render lookup level)).map (indented k) := by
    rw [List.map_map]
    exact List.map_congr_left fun atomic member => below (List.mem_append_right _ (List.mem_map_of_mem member))
  have named := @labelledIndented k (labels lookup classId) (typeArgs.map (·.render lookup level)) <| by
    simpa using labelsOwn
  simp only [ClassRef.render, args, others, named]
  rw [indentedJoined (by simp), List.map_cons]
  congr 2
  cases typeArgs with
  | nil => exact name.symm
  | cons => simp [name, indentedJoined]

theorem fieldLineMore {field : ShapeField} {level : Nat} (key : Lined k field.key.display)
    (type : field.renderType lookup (level + k) = indented k (field.renderType lookup level)) :
    field.render lookup (level + k) = tabs k ++ indented k (field.render lookup level) := by
  have start : indented k (fieldStart field) = fieldStart field := by
    cases optional : field.optional <;> simp [fieldStart, optional, key.same]
  rw [fieldRenderForm, fieldRenderForm, type, ← tabsMore, indentedAppend, indentedAppend, indentedTabs, start,
    List.append_assoc]

theorem furtherLinesMore {fields : List ShapeField} {level : Nat} (lines : ∀ field ∈ fields,
    field.render lookup (level + k) = tabs k ++ indented k (field.render lookup level)) :
    (fields.map (·.render lookup (level + k))).flatMap (",\n".toList ++ ·) =
      indented k ((fields.map (·.render lookup level)).flatMap (",\n".toList ++ ·)) := by
  induction fields with
  | nil => rfl
  | cons field fields ih =>
    obtain ⟨first, lines⟩ := List.forall_mem_cons.mp lines
    rw [List.map_cons, List.map_cons, List.flatMap_cons, List.flatMap_cons, ih lines, first]
    simp

theorem shapeIndents {shape : Shape} (own : ∀ text ∈ (ofShape shape).displayed lookup, Lined k text)
    (inner : ∀ child ∈ (ofShape shape).children, child.Indents lookup k) : (ofShape shape).Indents lookup k := by
  intro level level' deeper
  obtain ⟨isList, fields⟩ := shape
  have types {level level' : Nat} (deeper : (ofShape ⟨isList, fields⟩).Deeper k level level') :
      ∀ field ∈ fields, field.renderType lookup level' = indented k (field.renderType lookup level) :=
    fun field member => inner (ofField field) (List.mem_map_of_mem member) level level'
      (deeper.child (List.mem_map_of_mem member))
  cases fields with
  | nil => simp [Shape.render]
  | cons field fields =>
    cases isList with
    | true =>
      have listed := @renderedMore k _ ", ".toList (by simp) _ _ _ (types deeper)
      simp only [Shape.render, listed]
      simp
    | false =>
      -- A record has new lines, so the second level is k deeper.
      obtain ⟨some_, rfl⟩ := deeper.resolve_left (by simp [newlinesEq, ownNewlines])
      have lines : ∀ other ∈ field :: fields,
          other.render lookup (level + k) = tabs k ++ indented k (other.render lookup level) := fun other member =>
        fieldLineMore (own _ (keyDisplayed member)) (types deeper other member)
      obtain ⟨first, lines⟩ := List.forall_mem_cons.mp lines
      have further := furtherLinesMore lines
      have closing : tabs (level + k - 1) = tabs k ++ tabs (level - 1) := by
        rw [tabsMore, Nat.sub_add_comm some_]
      simp only [Shape.render, List.map_cons, Text.joinedCons, first, further, closing]
      simp [indentedTabs]

theorem fieldIndents {field : ShapeField} (inner : ∀ child ∈ (ofField field).children, child.Indents lookup k) :
    (ofField field).Indents lookup k := by
  intro level level' deeper
  have type : field.type.render lookup (level' + 1) = indented k (field.type.render lookup (level + 1)) :=
    inner _ List.mem_cons_self _ _ (deeper.child List.mem_cons_self).further
  cases field
  simpa only [ShapeField.renderType] using type

theorem partIndents {part : Part} (own : ∀ text ∈ part.displayed lookup, Lined k text) :
    part.Indents lookup k := by
  induction part using Part.induct with
  | step part ih =>
    have inner : ∀ child ∈ part.children, child.Indents lookup k := fun child inside =>
      ih child inside fun text shown => own text (childDisplayed inside shown)
    cases part with
    | ofUnion => exact unionIndents inner
    | ofAtomic => exact atomicIndents own inner
    | ofSignature => exact signatureIndents inner
    | ofParam => exact paramIndents own inner
    | ofClassRef => exact classRefIndents own inner
    | ofShape => exact shapeIndents own inner
    | ofField => exact fieldIndents inner

theorem flatSameEverywhere {union : TypeUnion}
    (flat : ∀ shape, ofShape shape ∈ (ofUnion union).parts → shape.isList ∨ shape.fields = []) (level level' : Nat) :
    union.render lookup level' = union.render lookup level := by
  have none : (ofUnion union).newlines = 0 := by
    rw [newlines, List.sum_eq_zero_iff_forall_eq_nat]
    intro count counted
    obtain ⟨part, inside, rfl⟩ := List.mem_map.mp counted
    cases part with
    | ofShape shape =>
      obtain ⟨isList, fields⟩ := shape
      rcases flat _ inside with listed | empty
      · cases listed
        rfl
      · cases empty
        cases isList <;> rfl
    | _ => rfl
  have same : union.render lookup level' = indented 0 (union.render lookup level) :=
    partIndents (fun _ _ => .inl rfl) level level' (.inl none)
  rw [same, indentedNone]

end

/- A type inside a type: a field is inside a shape, so its type is rendered a level deeper; a parameter is trimmed,
and nothing else touches the text of a part inside. -/

namespace Part

def opens : Part → Nat
  | ofField _ => 1
  | _ => 0

def trims : Part → Bool
  | ofParam _ => true
  | _ => false

def trimmedIf (trimmed : Bool) (text : Text) : Text := if trimmed then text.dropWhile Text.isBlank else text

inductive Embedded (inner : Part) : Nat → Bool → Part → Prop
  | here : Embedded inner 0 false inner
  | inside {part child : Part} {shapes : Nat} {trimmed : Bool} (among : child ∈ part.children)
      (deep : Embedded inner shapes trimmed child) : Embedded inner (shapes + part.opens) (trimmed || part.trims) part

def Shows (lookup : Lookup) (level : Nat) (text : Text) : Part → Prop
  | ofUnion union => text <:+: union.render lookup level
  | ofAtomic atomic => text <:+: atomic.render lookup level
  | ofSignature signature => ∀ name, text <:+: signature.render lookup level name
  | ofParam param => text <:+: param.render lookup level
  | ofClassRef object => text <:+: object.render lookup level
  | ofShape shape => text <:+: shape.render lookup level
  | ofField field => text <:+: field.renderType lookup level

end Part

section
variable {lookup : Lookup}

theorem infixDropWhile {text whole : Text} {drops : Char → Bool} (inside : text <:+: whole) :
    text.dropWhile drops <:+: whole.dropWhile drops := by
  obtain ⟨before, after, rfl⟩ := inside
  have kept : text.dropWhile drops <:+: (text ++ after).dropWhile drops := by
    rw [List.dropWhile_append]
    split
    · next none => simp [List.isEmpty_iff.mp none]
    · exact List.infix_append_left
  rw [List.append_assoc, List.dropWhile_append]
  split
  · exact kept
  · have dropped : text.dropWhile drops <:+: text := (List.dropWhile_suffix drops).isInfix
    exact List.infix_append_of_infix_right (List.infix_append_of_infix_left dropped)

theorem infixJoined {separator text : Text} {texts : List Text} {shown : Text} (member : shown ∈ texts)
    (inside : text <:+: shown) : text <:+: Text.joined separator texts := by
  cases texts with
  | nil => cases member
  | cons first texts =>
    rw [Text.joinedCons]
    rcases List.mem_cons.mp member with rfl | later
    · exact List.infix_append_of_infix_left inside
    · have among : separator ++ shown <:+: texts.flatMap (separator ++ ·) := by
        rw [List.flatMap_def]
        exact List.infix_of_mem_flatten (List.mem_map_of_mem later)
      exact List.infix_append_of_infix_right ((List.infix_append_of_infix_right inside).trans among)

theorem labelledShows {labels texts : List Text} {text shown : Text} (member : shown ∈ texts)
    (inside : text <:+: shown) : ∃ line ∈ labelled labels texts, text <:+: line := by
  induction labels generalizing texts with
  | nil => exact ⟨shown, by cases texts <;> exact member, inside⟩
  | cons label labels ih =>
    cases texts with
    | nil => cases member
    | cons first texts =>
      rcases List.mem_cons.mp member with rfl | later
      · exact ⟨_, List.mem_cons_self, List.infix_append_of_infix_right inside⟩
      · obtain ⟨line, among, inside⟩ := ih later
        exact ⟨line, List.mem_cons_of_mem _ among, inside⟩

theorem atomicShows {atomic : Atomic} {child : Part} (among : child ∈ (ofAtomic atomic).children) {level : Nat}
    {text : Text} (shown : child.Shows lookup level text) : text <:+: atomic.render lookup level := by
  cases atomic with
  | list | templateParam =>
    cases List.mem_singleton.mp among
    rw [Atomic.render]
    simp only [Shows] at shown
    first
    | exact List.infix_append_of_infix_left (List.infix_append_of_infix_right shown)
    | exact List.infix_append_of_infix_right shown
  | array | iterable =>
    simp only [children, List.mem_cons, List.not_mem_nil, or_false] at among
    rw [Atomic.render]
    rcases among with rfl | rfl
    · exact List.infix_append_of_infix_left (List.infix_append_of_infix_left (List.infix_append_of_infix_left
        (List.infix_append_of_infix_right shown)))
    · exact List.infix_append_of_infix_left (List.infix_append_of_infix_right shown)
  | closure | callable =>
    cases List.mem_singleton.mp among
    rw [Atomic.render]
    exact shown _
  | classString bound =>
    cases bound <;> simp [children] at among
    subst among
    rw [Atomic.render]
    exact List.infix_append_of_infix_left (List.infix_append_of_infix_right shown)
  | named | shape =>
    cases List.mem_singleton.mp among
    rw [Atomic.render]
    exact shown
  | plain => cases among

theorem signatureShows {signature : Signature} {child : Part} (among : child ∈ (ofSignature signature).children)
    {level : Nat} {text : Text} (shown : child.Shows lookup level text) (name : Text) :
    text <:+: signature.render lookup level name := by
  obtain ⟨params, returnType, isPure⟩ := signature
  rw [Signature.render.eq_def]
  rcases List.mem_append.mp among with among | among
  · obtain ⟨param, member, rfl⟩ := List.mem_map.mp among
    have listed : text <:+: Text.joined ", ".toList (params.map (·.render lookup level)) :=
      infixJoined (List.mem_map_of_mem member) shown
    exact List.infix_append_of_infix_left (List.infix_append_of_infix_left (List.infix_append_of_infix_right listed))
  · cases returnType <;> simp at among
    subst among
    exact List.infix_append_of_infix_right shown

theorem paramShows {param : Param} {child : Part} (among : child ∈ (ofParam param).children) {level : Nat}
    {text : Text} (shown : child.Shows lookup level text) :
    text.dropWhile Text.isBlank <:+: param.render lookup level := by
  obtain ⟨name, type, byRef, variadic⟩ := param
  cases type with
  | none => cases among
  | some type =>
    cases List.mem_singleton.mp among
    have front : text <:+: Param.front lookup level ⟨name, some type, byRef, variadic⟩ :=
      List.infix_append_of_infix_left (List.infix_append_of_infix_left (List.infix_append_of_infix_right shown))
    rw [Param.renderForm]
    exact List.infix_append_of_infix_left (infixDropWhile front)

theorem classRefShows {object : ClassRef} {child : Part} (among : child ∈ (ofClassRef object).children) {level : Nat}
    {text : Text} (shown : child.Shows lookup level text) : text <:+: object.render lookup level := by
  obtain ⟨classId, typeArgs, intersection⟩ := object
  rw [ClassRef.render]
  rcases List.mem_append.mp among with among | among
  · obtain ⟨type, member, rfl⟩ := List.mem_map.mp among
    have shown : text <:+: type.render lookup level := shown
    obtain ⟨line, among, inside⟩ := @labelledShows (labels lookup classId) (typeArgs.map (·.render lookup level)) _ _
      (List.mem_map_of_mem member) shown
    refine infixJoined List.mem_cons_self ?_
    cases typeArgs with
    | nil => cases member
    | cons =>
      exact List.infix_append_of_infix_left (List.infix_append_of_infix_right (infixJoined among inside))
  · obtain ⟨atomic, member, rfl⟩ := List.mem_map.mp among
    exact infixJoined (List.mem_cons_of_mem _ (List.mem_map_of_mem member)) shown

theorem shapeShows {shape : Shape} {child : Part} (among : child ∈ (ofShape shape).children) {level : Nat}
    {text : Text} (shown : child.Shows lookup level text) : text <:+: shape.render lookup level := by
  obtain ⟨isList, fields⟩ := shape
  obtain ⟨field, member, rfl⟩ := List.mem_map.mp among
  rw [Shape.render, if_neg (by simp [List.ne_nil_of_mem member])]
  cases isList with
  | true =>
    have listed := @infixJoined ", ".toList _ _ _ (List.mem_map_of_mem member) shown
    exact List.infix_append_of_infix_left (List.infix_append_of_infix_right listed)
  | false =>
    have line : text <:+: field.render lookup level := by
      rw [fieldRenderForm]
      exact List.infix_append_of_infix_right (List.infix_append_of_infix_right shown)
    have listed := @infixJoined ",\n".toList _ _ _ (List.mem_map_of_mem member) line
    exact List.infix_append_of_infix_left (List.infix_append_of_infix_left (List.infix_append_of_infix_left
      (List.infix_append_of_infix_right listed)))

theorem childShown {part child : Part} (among : child ∈ part.children) {level : Nat} {text : Text}
    (shown : child.Shows lookup (level + part.opens) text) :
    part.Shows lookup level (trimmedIf part.trims text) := by
  cases part with
  | ofUnion union =>
    obtain ⟨atomic, member, rfl⟩ := List.mem_map.mp among
    simp only [Shows, TypeUnion.renderForm]
    exact infixJoined (List.mem_map_of_mem member) shown
  | ofAtomic => exact atomicShows among shown
  | ofSignature => exact signatureShows among shown
  | ofParam => exact paramShows among shown
  | ofClassRef => exact classRefShows among shown
  | ofShape => exact shapeShows among shown
  | ofField field =>
    obtain ⟨key, type, optional⟩ := field
    cases List.mem_singleton.mp among
    simp only [Shows, ShapeField.renderType]
    exact shown

theorem embeddedShown {inner outer : Part} {shapes : Nat} {trimmed : Bool}
    (embedded : Embedded inner shapes trimmed outer) {level : Nat} {text : Text}
    (shown : inner.Shows lookup (level + shapes) text) : outer.Shows lookup level (trimmedIf trimmed text) := by
  induction embedded generalizing level with
  | here => exact shown
  | @inside part child shapes trimmed among _ ih =>
    rw [Nat.add_comm shapes, ← Nat.add_assoc] at shown
    have deep := childShown among (ih shown)
    cases part <;> cases trimmed <;> simpa [trims, trimmedIf, List.dropWhile_idempotent] using deep

theorem embeddedDisplayed {inner outer : Part} {shapes : Nat} {trimmed : Bool}
    (embedded : Embedded inner shapes trimmed outer) {text : Text} (shown : text ∈ inner.displayed lookup) :
    text ∈ outer.displayed lookup := by
  induction embedded with
  | here => exact shown
  | inside among _ ih => exact childDisplayed among ih

end

/-- A type rendered k levels deeper is the same text with k tabs behind every new line, so a type inside k shapes
stands in the text around it as its own block with k tabs more; without records all levels give the same text. -/
theorem renderingIndented (lookup : Lookup) (union : TypeUnion) :
    ((∀ text ∈ (ofUnion union).displayed lookup, '\n' ∉ text) → ∀ level, 1 ≤ level →
      (∀ k, union.render lookup (level + k) = indented k (union.render lookup level)) ∧
        ∀ inner k trimmed, Embedded (ofUnion inner) k trimmed (ofUnion union) →
          trimmedIf trimmed (indented k (inner.render lookup level)) <:+: union.render lookup level) ∧
      ((∀ shape, ofShape shape ∈ (ofUnion union).parts → shape.isList ∨ shape.fields = []) →
        ∀ level level', union.render lookup level' = union.render lookup level) := by
  constructor
  · intro lines level some_
    have deeper {type : TypeUnion} (own : ∀ text ∈ (ofUnion type).displayed lookup, '\n' ∉ text) (k : Nat) :
        type.render lookup (level + k) = indented k (type.render lookup level) :=
      partIndents (fun text shown => .inr (own text shown)) level (level + k) (.inr ⟨some_, rfl⟩)
    constructor
    · exact deeper lines
    · intro inner k trimmed embedded
      have own := deeper (fun text shown => lines text (embeddedDisplayed embedded shown)) k
      have shown : (ofUnion inner).Shows lookup (level + k) (inner.render lookup (level + k)) := List.infix_rfl
      rw [← own]
      exact embeddedShown embedded shown
  · intro flat level level'
    exact flatSameEverywhere flat level level'

def record : TypeUnion := .single (.shape ⟨false, [⟨.name "a", .single (.plain "int"), false⟩]⟩)

theorem recordInLayered : Embedded (ofUnion record) 1 false (ofUnion layered) := by
  let tuple : Shape := ⟨true, [⟨.index 0, record, false⟩]⟩
  have field := @Embedded.inside (ofUnion record) (ofField ⟨.index 0, record, false⟩) _ _ _ List.mem_cons_self .here
  have shape := @Embedded.inside _ (ofShape tuple) _ _ _ List.mem_cons_self field
  have atomic := @Embedded.inside _ (ofAtomic (.shape tuple)) _ _ _ List.mem_cons_self shape
  exact @Embedded.inside _ (ofUnion layered) _ _ _ List.mem_cons_self atomic

theorem layeredIndented :
    (∀ text ∈ (ofUnion layered).displayed (fun _ => none), '\n' ∉ text) ∧
      layered.render (fun _ => none) 3 = "array\x7barray\x7b\n\t\t\t\ta: int,\n\t\t\t\x7d\x7d".toList ∧
        indented 1 (record.render (fun _ => none) 3) <:+: layered.render (fun _ => none) 3 ∧
          (TypeUnion.single (.plain "int".toList)).render (fun _ => none) 0 =
            (TypeUnion.single (.plain "int".toList)).render (fun _ => none) 7 := by
  have lines : ∀ text ∈ (ofUnion layered).displayed (fun _ => none), '\n' ∉ text := by simp [layeredDisplayed]
  have deeper := ((renderingIndented (fun _ => none) layered).1 lines 1 (by decide)).1 2
  have inside := ((renderingIndented (fun _ => none) layered).1 lines 3 (by decide)).2 record 1 false recordInLayered
  have flat : ∀ shape, ofShape shape ∈ (ofUnion (.single (.plain "int".toList))).parts →
      shape.isList ∨ shape.fields = [] := by
    simp [partsEq, children, TypeUnion.single, TypeUnion.members]
  have same := (renderingIndented (fun _ => none) (.single (.plain "int".toList))).2 flat 7 0
  rw [layeredRendered] at deeper
  exact ⟨lines, deeper, inside, same⟩

end TypeLens
