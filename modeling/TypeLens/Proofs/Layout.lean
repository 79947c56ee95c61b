import TypeLens.Proofs.Displayed
import TypeLens.Proofs.Laid

/-! The layout of a rendering, from the parts inside to the whole: a part is laid out at the level that belongs to
the braces around it. -/
namespace TypeLens

open Rendering TypeLens.Part

namespace Part

def ownNewlines : Part → Nat
  | ofShape ⟨false, field :: fields⟩ => (field :: fields).length + 1
  | _ => 0

def newlines (part : Part) : Nat := (part.parts.map ownNewlines).sum

theorem newlinesEq (part : Part) : part.newlines = part.ownNewlines + (part.children.map newlines).sum := by
  rw [newlines, partsEq, List.map_cons, List.sum_cons, sumFlatMap]
  rfl

-- A part is laid out at any level that a brace around it may have. A field stands for its type in a tuple.
def LaidOut (lookup : Lookup) (part : Part) : Prop := ∀ n, match part with
  | ofUnion union => Laid n (union.render lookup (n + 1)) n part.newlines
  | ofAtomic atomic => Laid n (atomic.render lookup (n + 1)) n part.newlines
  | ofSignature signature => ∀ name, (∀ c ∈ name, Neutral c) →
      Laid n (signature.render lookup (n + 1) name) n part.newlines
  | ofParam param => Laid n (param.render lookup (n + 1)) n part.newlines
  | ofClassRef object => Laid n (object.render lookup (n + 1)) n part.newlines
  | ofShape shape => Laid n (shape.render lookup (n + 1)) n part.newlines
  | ofField field => Laid n (field.renderType lookup n) n part.newlines

end Part

section
variable {lookup : Lookup}

theorem newlinesNone {part : Part} (own : part.ownNewlines = 0) (none : part.children = []) : part.newlines = 0 := by
  rw [newlinesEq, own, none]
  rfl

theorem newlinesOne {part child : Part} (own : part.ownNewlines = 0) (only : part.children = [child]) :
    part.newlines = child.newlines := by
  rw [newlinesEq, own, only]
  simp

theorem newlinesTwo {part first second : Part} (own : part.ownNewlines = 0) (both : part.children = [first, second]) :
    part.newlines = first.newlines + second.newlines := by
  rw [newlinesEq, own, both]
  simp

theorem atomicLaidOut {atomic : Atomic} (own : ∀ text ∈ (ofAtomic atomic).displayed lookup, ∀ c ∈ text, Neutral c)
    (inner : ∀ child ∈ (ofAtomic atomic).children, child.LaidOut lookup) : (ofAtomic atomic).LaidOut lookup := by
  intro n
  cases atomic with
  | list element nonEmpty =>
    have element : Laid n (element.render lookup (n + 1)) n (ofUnion element).newlines := inner _ List.mem_cons_self n
    simp only
    rw [Atomic.render, newlinesOne rfl rfl]
    cases nonEmpty <;> exact (element.after _ (by simp)).before _ (by simp)
  | array key value nonEmpty =>
    have key : Laid n (key.render lookup (n + 1)) n (ofUnion key).newlines := inner _ List.mem_cons_self n
    have value : Laid n (value.render lookup (n + 1)) n (ofUnion value).newlines :=
      inner _ (List.mem_cons_of_mem _ List.mem_cons_self) n
    simp only
    rw [Atomic.render, newlinesTwo rfl rfl]
    cases nonEmpty <;> exact (((key.after _ (by simp)).before _ (by simp)).append value).before _ (by simp)
  | iterable key value =>
    have key : Laid n (key.render lookup (n + 1)) n (ofUnion key).newlines := inner _ List.mem_cons_self n
    have value : Laid n (value.render lookup (n + 1)) n (ofUnion value).newlines :=
      inner _ (List.mem_cons_of_mem _ List.mem_cons_self) n
    simp only
    rw [Atomic.render, newlinesTwo rfl rfl]
    exact (((key.after _ (by simp)).before _ (by simp)).append value).before _ (by simp)
  | closure signature | callable signature =>
    have signature : (ofSignature signature).LaidOut lookup := inner _ List.mem_cons_self
    simp only
    rw [Atomic.render, newlinesOne rfl rfl]
    exact signature n _ (by simp)
  | classString bound =>
    cases bound with
    | none =>
      simp only
      rw [Atomic.render, newlinesNone rfl rfl]
      exact Laid.ofNeutral (by simp)
    | some bound =>
      have bound : Laid n (bound.render lookup (n + 1)) n (ofClassRef bound).newlines := inner _ List.mem_cons_self n
      simp only
      rw [Atomic.render, newlinesOne rfl rfl]
      exact (bound.after _ (by simp)).before _ (by simp)
  | named | shape =>
    simp only
    rw [Atomic.render, newlinesOne rfl rfl]
    exact inner _ List.mem_cons_self n
  | templateParam name definingClass constraint =>
    have constraint : Laid n (constraint.render lookup (n + 1)) n (ofUnion constraint).newlines :=
      inner _ List.mem_cons_self n
    have owner := own (ownerName lookup definingClass) (by simp [displayed])
    simp only
    rw [Atomic.render, newlinesOne rfl rfl]
    have start := ((@Laid.ofNeutral n _ owner).after "from ".toList (by simp)).before " as ".toList (by simp)
    simpa using start.append constraint
  | plain id =>
    have id := own id (by simp [displayed])
    simp only
    rw [Atomic.render, newlinesNone rfl rfl]
    exact Laid.ofNeutral id

theorem unionLaidOut {union : TypeUnion} (inner : ∀ child ∈ (ofUnion union).children, child.LaidOut lookup) :
    (ofUnion union).LaidOut lookup := by
  intro n
  have each : ∀ atomic ∈ union.members, Laid n (atomic.render lookup (n + 1)) n (ofAtomic atomic).newlines :=
    fun atomic member => inner (ofAtomic atomic) (List.mem_map_of_mem member) n
  have counted : (ofUnion union).newlines = (union.members.map fun atomic => (ofAtomic atomic).newlines).sum := by
    rw [newlinesEq, children, List.map_map]
    exact Nat.zero_add _
  simp only
  rw [counted]
  obtain ⟨first, more⟩ := union
  rw [TypeUnion.render]
  exact Laid.list " | ".toList each (by simp)

theorem signatureLaidOut {signature : Signature}
    (inner : ∀ child ∈ (ofSignature signature).children, child.LaidOut lookup) :
    (ofSignature signature).LaidOut lookup := by
  intro n name neutral
  obtain ⟨params, returnType, isPure⟩ := signature
  have each : ∀ param ∈ params, Laid n (param.render lookup (n + 1)) n (ofParam param).newlines := fun param member =>
    inner (ofParam param) (List.mem_append_left _ (List.mem_map_of_mem member)) n
  have front : Laid n ((if isPure then "pure-" else "").toList ++ name ++ "(".toList) n 0 := by
    cases isPure <;> exact ((Laid.ofNeutral neutral).after _ (by simp)).before _ (by simp)
  have listed := (front.append (Laid.list ", ".toList each (by simp))).before "): ".toList (by simp)
  rw [newlinesEq]
  cases returnType with
  | none =>
    rw [Signature.render]
    simpa [children, ownNewlines, Function.comp_def] using listed.before "void".toList (by simp)
  | some type =>
    have result : Laid n (type.render lookup (n + 1)) n (ofUnion type).newlines :=
      inner (ofUnion type) (by simp [children]) n
    rw [Signature.render]
    simpa [children, ownNewlines, Function.comp_def] using listed.append result

theorem paramLaidOut {param : Param} (own : ∀ text ∈ (ofParam param).displayed lookup, ∀ c ∈ text, Neutral c)
    (inner : ∀ child ∈ (ofParam param).children, child.LaidOut lookup) : (ofParam param).LaidOut lookup := by
  intro n
  obtain ⟨name, type, byRef, variadic⟩ := param
  have shown : ∀ c ∈ name, Neutral c := own name (paramNameDisplayed ⟨name, type, byRef, variadic⟩)
  have back : Laid n ('$' :: Text.trimEnd name) n 0 :=
    .ofNeutral (List.forall_mem_cons.mpr ⟨by decide, fun c member => shown c (Text.ofTrimEnd member)⟩)
  have dots : ∀ c ∈ (if variadic then "..." else "").toList, Neutral c := by cases variadic <;> simp
  have ampersand : ∀ c ∈ (if byRef then "&" else "").toList, Neutral c := by cases byRef <;> simp
  have front : Laid n (Param.front lookup (n + 1) ⟨name, type, byRef, variadic⟩) n
      (ofParam ⟨name, type, byRef, variadic⟩).newlines := by
    cases type with
    | none =>
      have mixed : Laid n "mixed".toList n 0 := .ofNeutral (by simp)
      rw [newlinesNone rfl rfl]
      exact ((mixed.after _ dots).before " ".toList (by simp)).before _ ampersand
    | some type =>
      have type : Laid n (type.render lookup (n + 1)) n (ofUnion type).newlines := inner _ List.mem_cons_self n
      rw [newlinesOne rfl rfl]
      exact ((type.after _ dots).before " ".toList (by simp)).before _ ampersand
  -- What is trimmed are blanks around the dollar sign, and these have no part in the layout.
  simp only
  rw [Param.renderForm]
  exact front.dropBlanks.append back

theorem labelledLaid {n : Nat} {labels : List Text} {texts : List Text} {counts : List Nat}
    (each : List.Forall₂ (fun text lines => Laid n text n lines) texts counts)
    (own : ∀ label ∈ labels.take texts.length, ∀ c ∈ label, Neutral c) :
    List.Forall₂ (fun text lines => Laid n text n lines) (labelled labels texts) counts := by
  induction each generalizing labels with
  | nil => cases labels <;> exact .nil
  | cons first each ih =>
    cases labels with
    | nil => exact .cons first each
    | cons label labels =>
      obtain ⟨labelOwn, own⟩ := List.forall_mem_cons.mp own
      refine .cons ?_ (ih own)
      simpa using (first.after ": ".toList (by simp)).after label labelOwn

theorem classRefLaidOut {object : ClassRef} (own : ∀ text ∈ (ofClassRef object).displayed lookup, ∀ c ∈ text, Neutral c)
    (inner : ∀ child ∈ (ofClassRef object).children, child.LaidOut lookup) : (ofClassRef object).LaidOut lookup := by
  intro n
  obtain ⟨classId, typeArgs, intersection⟩ := object
  have name : Laid n (className lookup classId) n 0 :=
    .ofNeutral (own _ (classNameDisplayed ⟨classId, typeArgs, intersection⟩))
  have args : List.Forall₂ (fun text lines => Laid n text n lines) (typeArgs.map (·.render lookup (n + 1)))
      (typeArgs.map fun type => (ofUnion type).newlines) := by
    apply mappedAlike
    intro type member
    exact inner (ofUnion type) (List.mem_append_left _ (List.mem_map_of_mem member)) n
  have others : List.Forall₂ (fun text lines => Laid n text n lines) (intersection.map (·.render lookup (n + 1)))
      (intersection.map fun atomic => (ofAtomic atomic).newlines) := by
    apply mappedAlike
    intro atomic member
    exact inner (ofAtomic atomic) (List.mem_append_right _ (List.mem_map_of_mem member)) n
  have named := labelledLaid args fun label shown =>
    own label (@typeLabelDisplayed lookup ⟨classId, typeArgs, intersection⟩ label (by simpa using shown))
  have listed := Laid.joined (.ofNeutral (by simp : ∀ c ∈ ", ".toList, Neutral c)) named
  rw [newlinesEq]
  simp only
  rw [ClassRef.render]
  have applied : Laid n (if typeArgs.isEmpty then className lookup classId
      else className lookup classId ++ "<".toList ++
        Text.joined ", " (labelled (labels lookup classId) (typeArgs.map (·.render lookup (n + 1)))) ++ ">".toList) n
      (typeArgs.map fun type => (ofUnion type).newlines).sum := by
    cases typeArgs with
    | nil => exact name
    | cons type typeArgs => simpa using ((name.before "<".toList (by simp)).append listed).before ">".toList (by simp)
  have whole := Laid.joined (.ofNeutral (by simp : ∀ c ∈ " & ".toList, Neutral c)) (.cons applied others)
  simpa [children, ownNewlines, Function.comp_def] using whole

theorem fieldLine {n inside m lines : Nat} {mark : Char} {text : Text} {field : ShapeField}
    (behind : mark = ',' ∧ inside = n ∨ mark = '{' ∧ inside = n + 1) (key : ∀ c ∈ field.key.display, Neutral c)
    (rest : Laid inside text m lines) :
    Laid n (mark :: '\n' :: (tabs inside ++ (fieldStart field ++ text))) m (lines + 1) := by
  have neutral : ∀ c ∈ fieldStart field, Neutral c := by
    have optional : ∀ c ∈ (if field.optional then "?" else "").toList, Neutral c := by cases field.optional <;> simp
    have colon : ∀ c ∈ ": ".toList, Neutral c := by simp
    simp only [fieldStart, List.forall_mem_append]
    exact ⟨⟨key, optional⟩, colon⟩
  cases start : fieldStart field with
  | nil => simp [fieldStart] at start
  | cons c more =>
    rw [start] at neutral
    have first := neutral c List.mem_cons_self
    exact .line behind (by rw [if_neg first.2.2.2, Nat.add_zero]) first.2.1 (rest.after _ neutral)

theorem furtherFieldsLaid {n : Nat} {fields : List ShapeField}
    (keys : ∀ field ∈ fields, ∀ c ∈ field.key.display, Neutral c)
    (types : ∀ field ∈ fields, Laid (n + 1) (field.renderType lookup (n + 1)) (n + 1) (ofField field).newlines) :
    Laid (n + 1) ((fields.map (·.render lookup (n + 1))).flatMap (",\n".toList ++ ·) ++
      (",\n".toList ++ (tabs n ++ ['}']))) n
        ((fields.map fun field => (ofField field).newlines).sum + fields.length + 1) := by
  induction fields with
  | nil => exact .line (.inl ⟨rfl, rfl⟩) rfl (by decide) (.closed (.nil n))
  | cons field fields ih =>
    obtain ⟨key, keys⟩ := List.forall_mem_cons.mp keys
    obtain ⟨type, types⟩ := List.forall_mem_cons.mp types
    have whole := fieldLine (.inl ⟨rfl, rfl⟩) key (type.append (ih keys types))
    rw [List.map_cons, List.flatMap_cons, fieldRenderForm, List.map_cons, List.sum_cons, List.length_cons]
    convert whole using 1
    · simp
    · omega

theorem shapeLaidOut {shape : Shape} (own : ∀ text ∈ (ofShape shape).displayed lookup, ∀ c ∈ text, Neutral c)
    (inner : ∀ child ∈ (ofShape shape).children, child.LaidOut lookup) : (ofShape shape).LaidOut lookup := by
  intro n
  obtain ⟨isList, fields⟩ := shape
  have types : ∀ field ∈ fields, ∀ n, Laid n (field.renderType lookup n) n (ofField field).newlines :=
    fun field member n => inner (ofField field) (List.mem_map_of_mem member) n
  simp only
  rw [newlinesEq, Shape.render, children, List.map_map]
  cases fields with
  | nil =>
    have empty : Laid n "array\x7b\x7d".toList n 0 := (Laid.opened (.closed (.nil n))).after "array".toList (by simp)
    cases isList <;> exact empty
  | cons field fields =>
    cases isList with
    | true =>
      have listed := Laid.list ", ".toList (fun field member => types field member (n + 1)) (by simp)
      have closed := listed.append (.closed (.nil n))
      simpa [ownNewlines, Function.comp_def] using (Laid.opened closed).after "array".toList (by simp)
    | false =>
      have keys : ∀ other ∈ field :: fields, ∀ c ∈ other.key.display, Neutral c :=
        fun other member => own other.key.display (keyDisplayed member)
      obtain ⟨key, keys⟩ := List.forall_mem_cons.mp keys
      obtain ⟨type, types⟩ := List.forall_mem_cons.mp fun other member => types other member (n + 1)
      have lines := fieldLine (.inr ⟨rfl, rfl⟩) key (type.append (furtherFieldsLaid keys types))
      have whole := lines.after "array".toList (by simp)
      rw [if_neg (by simp), if_neg (by simp), List.map_cons, Text.joinedCons, fieldRenderForm]
      convert whole using 1
      · simp
      · simp [ownNewlines, Function.comp_def]
        omega

theorem fieldLaidOut {field : ShapeField} (inner : ∀ child ∈ (ofField field).children, child.LaidOut lookup) :
    (ofField field).LaidOut lookup := by
  intro n
  have type : Laid n (field.type.render lookup (n + 1)) n (ofUnion field.type).newlines := inner _ List.mem_cons_self n
  simp only
  rw [newlinesOne rfl rfl]
  cases field
  rw [ShapeField.renderType]
  exact type

theorem partLaidOut {part : Part} (own : ∀ text ∈ part.displayed lookup, ∀ c ∈ text, Neutral c) :
    part.LaidOut lookup := by
  -- The level stays open: a brace around a part passes a deeper one on to it.
  induction part using Part.induct with
  | step part ih =>
    have inner : ∀ child ∈ part.children, child.LaidOut lookup := fun child inside =>
      ih child inside fun text shown => own text (childDisplayed inside shown)
    cases part with
    | ofUnion => exact unionLaidOut inner
    | ofAtomic => exact atomicLaidOut own inner
    | ofSignature => exact signatureLaidOut inner
    | ofParam => exact paramLaidOut own inner
    | ofClassRef => exact classRefLaidOut own inner
    | ofShape => exact shapeLaidOut own inner
    | ofField => exact fieldLaidOut inner

end

/-- The law of the layout: as many new lines as the records have fields and closing braces, each indented by the
braces that are open before it, or by one less if it closes one at once; and no other tabs. -/
theorem renderingLayout (lookup : Lookup) (union : TypeUnion)
    (neutral : ∀ text ∈ (ofUnion union).displayed lookup, ∀ c ∈ text, Neutral c) :
    (union.render lookup 1).count '\n' = ((ofUnion union).parts.map ownNewlines).sum ∧
      (∀ before after, union.render lookup 1 = before ++ '\n' :: after →
        (after.takeWhile (· = '\t')).length + (if (after.dropWhile (· = '\t')).head? = some '}' then 1 else 0) =
          openBraces 0 before) ∧
        ∀ before after, union.render lookup 1 = before ++ '\t' :: after →
          ∃ start i, before = start ++ '\n' :: tabs i := by
  have laid : Laid 0 (union.render lookup 1) 0 (ofUnion union).newlines := partLaidOut neutral 0
  refine ⟨laid.newlines, ?_, ?_⟩
  · intro before after parted
    exact laid.lineIndented parted
  · intro before after parted
    exact laid.tabIndents parted

def layered : TypeUnion :=
  .single (.shape ⟨true, [⟨.index 0, .single (.shape ⟨false, [⟨.name "a", .single (.plain "int"), false⟩]⟩), false⟩]⟩)

theorem layeredDisplayed (lookup : Lookup) : (ofUnion layered).displayed lookup = ["a".toList, "int".toList] := by
  simp [layered, TypeUnion.single, displayed, ShapeKey.display]

theorem layeredRendered (lookup : Lookup) : layered.render lookup 1 =
    "array\x7barray\x7b".toList ++ '\n' :: "\t\ta: int,\n\t\x7d\x7d".toList := by
  simp [layered, TypeUnion.single, TypeUnion.render, Atomic.render, Shape.render, ShapeField.renderType,
    ShapeField.render, ShapeKey.display, Text.joined, tabs]

theorem layeredLayout :
    (∀ text ∈ (ofUnion layered).displayed (fun _ => none), ∀ c ∈ text, Neutral c) ∧
      (layered.render (fun _ => none) 1).count '\n' = ((ofUnion layered).parts.map ownNewlines).sum ∧
        2 + 0 = openBraces 0 "array\x7barray\x7b".toList ∧
          1 + 1 = openBraces 0 "array\x7barray\x7b\n\t\ta: int,".toList ∧
            ∃ start i, "array\x7barray\x7b\n\t".toList = start ++ '\n' :: tabs i := by
  have neutral : ∀ text ∈ (ofUnion layered).displayed (fun _ => none), ∀ c ∈ text, Neutral c := by
    simp [layeredDisplayed]
  obtain ⟨newlines, lines, tabs⟩ := renderingLayout (fun _ => none) layered neutral
  have rendered := layeredRendered fun _ => none
  have key := lines "array\x7barray\x7b".toList "\t\ta: int,\n\t\x7d\x7d".toList rendered
  have closing := lines "array\x7barray\x7b\n\t\ta: int,".toList "\t\x7d\x7d".toList (by simp [rendered])
  have deeper := tabs "array\x7barray\x7b\n\t".toList "a: int,\n\t\x7d\x7d".toList (by simp [rendered])
  exact ⟨neutral, newlines, by simpa using key, by simpa using closing, deeper⟩

end TypeLens
