import TypeLens.Model.Kind
import TypeLens.Proofs.Apart
import TypeLens.Proofs.Displayed
import TypeLens.Proofs.WellFormed

/-! Renderings that can be read back. Where all that varies in a rendering is words and brackets, no two types have
one rendering: the first word of an atomic type and the character behind it tell its kind, and what stands in
brackets ends where they close. -/
namespace TypeLens

open Rendering TypeLens.Part

def noClasses : Lookup := Catalog.empty.resolve

def Atomic.kind : Atomic → Kind
  | .list .. => .list
  | .array .. => .array
  | .iterable .. => .iterable
  | .closure _ => .closure
  | .callable _ => .callable
  | .classString _ => .classString
  | .named _ => .named
  | .shape _ => .shape
  | .templateParam .. => .templateParam
  | .plain _ => .plain

def Counted (fields : List ShapeField) : Prop :=
  fields.map (·.key) = (List.range fields.length).map (fun i => .index (Int64.ofNat i)) ∧
    ∀ field ∈ fields, field.optional = false

namespace Part

def Bracketed : Part → Prop
  | ofUnion _ => True
  | ofAtomic (.list ..) | ofAtomic (.array ..) | ofAtomic (.iterable ..) => True
  | ofAtomic (.closure _) | ofAtomic (.callable _) | ofAtomic (.templateParam ..) => False
  | ofAtomic (.classString bound) => bound ≠ none
  | ofAtomic (.named _) | ofAtomic (.shape _) => True
  | ofAtomic (.plain id) => Word id
  | ofSignature _ | ofParam _ => False
  | ofClassRef object => object.intersection = [] ∧ '\\' ∈ object.classId ∧ ∀ c ∈ object.classId, isClassChar c
  | ofShape ⟨true, fields⟩ => fields ≠ [] ∧ Counted fields
  | ofShape ⟨false, fields⟩ => fields ≠ [] ∧ ∀ field ∈ fields, ∀ name, field.key = .name name → Word name
  | ofField _ => True

def Readable (part : Part) : Prop := ∀ inner ∈ part.parts, inner.Proper ∧ inner.Bracketed

theorem readableIff {part : Part} :
    part.Readable ↔ (part.Proper ∧ part.Bracketed) ∧ ∀ child ∈ part.children, child.Readable := forallParts

def unionEnds : List Char := [',', '>', '\x7d']

def atomicEnds : List Char := [' ', ',', '>', '\x7d']

theorem endsUnclassed : ∀ c ∈ '<' :: '\x7b' :: atomicEnds, isClassChar c = false := by
  simp [atomicEnds, isClassChar, isWordChar]

/-- No other part of this sort begins a text in the same way, if behind both only such characters follow as end them. -/
def ToldApart (part : Part) : Prop := ∀ level rest rest', match part with
  | ofUnion union => ∀ other, (ofUnion other).Readable → Follows unionEnds rest → Follows unionEnds rest' →
    union.render noClasses level ++ rest = other.render noClasses level ++ rest' → union = other ∧ rest = rest'
  | ofAtomic atomic => ∀ other, (ofAtomic other).Readable → Follows atomicEnds rest → Follows atomicEnds rest' →
    atomic.render noClasses level ++ rest = other.render noClasses level ++ rest' → atomic = other ∧ rest = rest'
  | ofClassRef object => ∀ other, (ofClassRef other).Readable → Follows atomicEnds rest → Follows atomicEnds rest' →
    object.render noClasses level ++ rest = other.render noClasses level ++ rest' → object = other ∧ rest = rest'
  | ofShape shape => ∀ other, (ofShape other).Readable →
    shape.render noClasses level ++ rest = other.render noClasses level ++ rest' → shape = other ∧ rest = rest'
  | ofField field => ∀ other, (ofField other).Readable → Follows unionEnds rest → Follows unionEnds rest' →
    field.renderType noClasses level ++ rest = other.renderType noClasses level ++ rest' →
      field.type = other.type ∧ rest = rest'
  | _ => True

end Part

theorem followsNot {marks : List Char} {rest : Text} (follows : Follows marks rest) {c : Char} (other : c ∉ marks)
    (text : Text) : rest ≠ c :: text := by
  rintro rfl
  exact other (follows c rfl)

theorem unionApart {union : TypeUnion} (inner : ∀ child ∈ (ofUnion union).children, child.ToldApart) :
    (ofUnion union).ToldApart := by
  intro level rest rest' other readable ends ends' same
  have each : ∀ atomic ∈ union.members, ∀ atomic' ∈ other.members, ∀ rest rest', Follows atomicEnds rest →
      Follows atomicEnds rest' → atomic.render noClasses level ++ rest = atomic'.render noClasses level ++ rest' →
        atomic = atomic' ∧ rest = rest' := fun atomic member atomic' member' rest rest' =>
    inner _ (List.mem_map_of_mem member) level rest rest' atomic'
      ((readableIff.mp readable).2 _ (List.mem_map_of_mem member'))
  have more : ∀ c ∈ unionEnds, c ∈ atomicEnds := fun _ => List.mem_cons_of_mem ' '
  have noBar : ' ' ∉ unionEnds := by decide
  rw [TypeUnion.renderForm, TypeUnion.renderForm] at same
  obtain ⟨members, rest⟩ := joinedApart each (List.cons_ne_nil _ _) (List.cons_ne_nil _ _)
    (fun text => followsCons _ (by decide)) (followsMore ends more) (followsMore ends' more)
    (fun _ _ _ => followsNot ends noBar _) (fun _ _ _ => followsNot ends' noBar _) same
  cases union
  cases other
  cases members
  exact ⟨rfl, rest⟩

def ClassRef.arguments (level : Nat) (object : ClassRef) : Text :=
  if object.typeArgs.isEmpty then []
  else '<' :: (Text.joined ", " (object.typeArgs.map (·.render noClasses level)) ++ ['>'])

theorem ClassRef.renderForm (level : Nat) {object : ClassRef} (readable : (ofClassRef object).Readable) :
    object.render noClasses level = object.classId ++ object.arguments level := by
  obtain ⟨classId, typeArgs, intersection⟩ := object
  obtain ⟨rfl, _⟩ : intersection = [] ∧ _ := (readableIff.mp readable).1.2
  have unlabelled (args : List Text) : labelled [] args = args := by cases args <;> rfl
  rw [ClassRef.render]
  cases typeArgs <;>
    simp [arguments, className, labels, noClasses, Catalog.empty, Catalog.resolve, unlabelled, Text.joined]

theorem classRefApart {object : ClassRef} (readable : (ofClassRef object).Readable)
    (inner : ∀ child ∈ (ofClassRef object).children, child.ToldApart) : (ofClassRef object).ToldApart := by
  intro level rest rest' other readable' ends ends' same
  obtain ⟨⟨-, whole, -, word⟩, -⟩ := readableIff.mp readable
  obtain ⟨⟨-, whole', -, word'⟩, below⟩ := readableIff.mp readable'
  have outside {object : ClassRef} {rest : Text} (ends : Follows atomicEnds rest) :
      ∀ c ∈ (object.arguments level ++ rest).head?, isClassChar c = false := by
    intro c first
    apply endsUnclassed
    unfold ClassRef.arguments at first
    split at first
    · exact List.mem_cons_of_mem _ (List.mem_cons_of_mem _ (ends c first))
    · cases first; exact List.mem_cons_self
  rw [ClassRef.renderForm level readable, ClassRef.renderForm level readable', List.append_assoc,
    List.append_assoc] at same
  obtain ⟨id, same⟩ := wordApart word word' (outside ends) (outside ends') same
  have each : ∀ type ∈ object.typeArgs, ∀ type' ∈ other.typeArgs, ∀ rest rest', Follows unionEnds rest →
      Follows unionEnds rest' → type.render noClasses level ++ rest = type'.render noClasses level ++ rest' →
        type = type' ∧ rest = rest' := fun type member type' member' rest rest' =>
    inner (ofUnion type) (List.mem_append_left _ (List.mem_map_of_mem member)) level rest rest' type'
      (below _ (List.mem_append_left _ (List.mem_map_of_mem member')))
  have args : object.typeArgs = other.typeArgs ∧ rest = rest' := by
    have unopened : '<' ∉ atomicEnds := by decide
    unfold ClassRef.arguments at same
    split at same <;> split at same
    · next none none' => exact ⟨by simp_all, same⟩
    · exact absurd same (followsNot ends unopened _)
    · exact absurd same.symm (followsNot ends' unopened _)
    · next some_ some' =>
      simp only [List.cons_append, List.append_assoc, List.cons.injEq, true_and] at same
      obtain ⟨args, rest⟩ := joinedApart each (by simpa using some_) (by simpa using some')
        (fun text => followsCons _ (by decide)) (followsCons _ (by decide)) (followsCons _ (by decide))
        (fun _ _ _ => by simp) (fun _ _ _ => by simp) same
      exact ⟨args, by simpa using rest⟩
  obtain ⟨classId, typeArgs, intersection⟩ := object
  obtain ⟨classId', typeArgs', intersection'⟩ := other
  simp_all

def Shape.body (level : Nat) (shape : Shape) : Text :=
  if shape.isList then '\x7b' :: (Text.joined ", " (shape.fields.map (·.renderType noClasses level)) ++ ['\x7d'])
  else
    '\x7b' :: '\n' :: (Text.joined ",\n" (shape.fields.map (·.render noClasses level)) ++
      (",\n".toList ++ (tabs (level - 1) ++ ['\x7d'])))

theorem Shape.renderForm (level : Nat) {shape : Shape} (some_ : shape.fields ≠ []) :
    shape.render noClasses level = "array".toList ++ shape.body level := by
  obtain ⟨isList, fields⟩ := shape
  rw [render, if_neg (by simpa using some_), body]
  cases isList <;> simp

theorem shapeFields {shape : Shape} (readable : (ofShape shape).Readable) : shape.fields ≠ [] := by
  obtain ⟨isList, fields⟩ := shape
  have own := (readableIff.mp readable).1.2
  cases isList <;> exact own.1

def Atomic.word : Atomic → Text
  | .list _ nonEmpty => (if nonEmpty then "non-empty-list" else "list").toList
  | .array _ _ nonEmpty => (if nonEmpty then "non-empty-array" else "array").toList
  | .iterable .. => "iterable"
  | .classString _ => "class-string"
  | .named object => object.classId
  | .shape _ => "array"
  | .plain id => id
  | .closure _ | .callable _ | .templateParam .. => []

def Atomic.body (level : Nat) : Atomic → Text
  | .list element _ => "<TValue: ".toList ++ (element.render noClasses level ++ ['>'])
  | .array key value _ | .iterable key value => "<TKey: ".toList ++ (key.render noClasses level ++
    (", TValue: ".toList ++ (value.render noClasses level ++ ['>'])))
  | .classString bound => bound.elim [] fun bound => '<' :: (bound.render noClasses level ++ ['>'])
  | .named object => object.arguments level
  | .shape inner => inner.body level
  | .plain _ | .closure _ | .callable _ | .templateParam .. => []

theorem Atomic.renderForm {atomic : Atomic} (readable : (ofAtomic atomic).Readable) (level : Nat) :
    atomic.render noClasses level = atomic.word ++ atomic.body level := by
  obtain ⟨⟨-, own⟩, below⟩ := readableIff.mp readable
  cases atomic with
  | list | array | iterable => rw [render]; simp only [List.append_assoc]; rfl
  | closure | callable | templateParam => cases own
  | classString bound =>
    cases bound with
    | none => exact absurd rfl own
    | some bound => rw [render]; simp only [List.append_assoc]; rfl
  | named object => rw [render, ClassRef.renderForm level (below _ List.mem_cons_self)]; rfl
  | shape shape => rw [render, Shape.renderForm level (shapeFields (below _ List.mem_cons_self))]; rfl
  | plain id => rw [render]; exact (List.append_nil id).symm

theorem wordClass {text : Text} (word : ∀ c ∈ text, isWordChar c) : ∀ c ∈ text, isClassChar c :=
  fun c member => by simp [isClassChar, word c member]

theorem wordReadable {atomic : Atomic} (readable : (ofAtomic atomic).Readable) :
    atomic.word ≠ [] ∧ ∀ c ∈ atomic.word, isClassChar c := by
  obtain ⟨⟨-, own⟩, below⟩ := readableIff.mp readable
  have fixed (word : String) (all : word.toList ≠ [] ∧ word.toList.all isClassChar) :
      word.toList ≠ [] ∧ ∀ c ∈ word.toList, isClassChar c := ⟨all.1, List.all_eq_true.mp all.2⟩
  cases atomic with
  | list _ nonEmpty => cases nonEmpty <;> exact fixed _ (by decide)
  | array _ _ nonEmpty => cases nonEmpty <;> exact fixed _ (by decide)
  | iterable | classString | shape => exact fixed _ (by decide)
  | closure | callable | templateParam => cases own
  | named object =>
    obtain ⟨⟨-, -, marked, all⟩, -⟩ := readableIff.mp (below _ List.mem_cons_self)
    exact ⟨List.ne_nil_of_mem marked, all⟩
  | plain id => exact ⟨own.1, wordClass own.2⟩

def kindTold (word : Text) (next : Option Char) : Kind :=
  if '\\' ∈ word then .named
  else if next = some '\x7b' then .shape
  else if next = some '<' then
    if word = "iterable".toList then .iterable
    else if word = "class-string".toList then .classString
    else if word = "list".toList ∨ word = "non-empty-list".toList then .list
    else .array
  else .plain

theorem unmarked {text : Text} (word : ∀ c ∈ text, isWordChar c) : '\\' ∉ text := by
  intro member
  exact absurd (word '\\' member) (by decide)

theorem kindIsTold {atomic : Atomic} (readable : (ofAtomic atomic).Readable) {rest : Text}
    (ends : Follows atomicEnds rest) (level : Nat) :
    kindTold atomic.word (atomic.body level ++ rest).head? = atomic.kind := by
  obtain ⟨⟨-, own⟩, below⟩ := readableIff.mp readable
  cases atomic with
  | list _ nonEmpty => cases nonEmpty <;> rfl
  | array _ _ nonEmpty => cases nonEmpty <;> rfl
  | iterable => rfl
  | closure | callable | templateParam => cases own
  | classString bound =>
    cases bound with
    | none => exact absurd rfl own
    | some bound => rfl
  | named object =>
    obtain ⟨⟨-, -, marked, -⟩, -⟩ := readableIff.mp (below _ List.mem_cons_self)
    exact if_pos marked
  | shape shape =>
    have opens : (Shape.body level shape ++ rest).head? = some '\x7b' := by unfold Shape.body; split <;> rfl
    exact congrArg (kindTold "array".toList) opens
  | plain id =>
    have unopened {c : Char} (other : c ∉ atomicEnds) : rest.head? ≠ some c := fun first => other (ends c first)
    exact (if_neg (unmarked own.2)).trans ((if_neg (unopened (by decide))).trans (if_neg (unopened (by decide))))

theorem bodyFollows (atomic : Atomic) (level : Nat) {rest : Text} (ends : Follows atomicEnds rest) :
    Follows ('<' :: '\x7b' :: atomicEnds) (atomic.body level ++ rest) := by
  have more : Follows ('<' :: '\x7b' :: atomicEnds) rest :=
    followsMore ends fun c among => List.mem_cons_of_mem _ (List.mem_cons_of_mem _ among)
  have opened (text : Text) : Follows ('<' :: '\x7b' :: atomicEnds) ('<' :: text) := followsCons _ (by decide)
  cases atomic with
  | list | array | iterable => exact opened _
  | closure | callable | templateParam | plain => exact more
  | classString bound =>
    cases bound with
    | none => exact more
    | some bound => exact opened _
  | named object =>
    show Follows _ (object.arguments level ++ rest)
    unfold ClassRef.arguments
    split
    · exact more
    · exact opened _
  | shape inner =>
    show Follows _ (inner.body level ++ rest)
    unfold Shape.body
    split <;> exact followsCons _ (by decide)

theorem sameStart {atomic other : Atomic} (readable : (ofAtomic atomic).Readable)
    (readable' : (ofAtomic other).Readable) {level : Nat} {rest rest' : Text} (ends : Follows atomicEnds rest)
    (ends' : Follows atomicEnds rest')
    (same : atomic.render noClasses level ++ rest = other.render noClasses level ++ rest') :
    atomic.kind = other.kind ∧ atomic.word = other.word ∧ atomic.body level ++ rest = other.body level ++ rest' := by
  rw [Atomic.renderForm readable, Atomic.renderForm readable', List.append_assoc, List.append_assoc] at same
  obtain ⟨word, body⟩ := wordApart (wordReadable readable).2 (wordReadable readable').2
    (fun c first => endsUnclassed c (bodyFollows atomic level ends c first))
    (fun c first => endsUnclassed c (bodyFollows other level ends' c first)) same
  refine ⟨?_, word, body⟩
  rw [← kindIsTold readable ends level, ← kindIsTold readable' ends' level, word, body]

theorem flagApart {yes no : String} (differ : yes.toList ≠ no.toList) {flag flag' : Bool}
    (same : (if flag then yes else no).toList = (if flag' then yes else no).toList) : flag = flag' := by
  cases flag <;> cases flag' <;> simp_all

section
variable {level : Nat} {rest rest' : Text}

theorem closedApart {union other : TypeUnion} (inner : (ofUnion union).ToldApart) (readable : (ofUnion other).Readable)
    {mark mark' : Char} (closing : mark ∈ unionEnds) (closing' : mark' ∈ unionEnds)
    (same : union.render noClasses level ++ mark :: rest = other.render noClasses level ++ mark' :: rest') :
    union = other ∧ rest = rest' := by
  obtain ⟨union, rest⟩ := inner level _ _ other readable (followsCons _ closing) (followsCons _ closing') same
  cases rest
  exact ⟨union, rfl⟩

theorem pairApart {key key' value value' : TypeUnion} (keys : (ofUnion key).ToldApart)
    (values : (ofUnion value).ToldApart) (readable : (ofUnion key').Readable) (readable' : (ofUnion value').Readable)
    (same : "<TKey: ".toList ++ (key.render noClasses level ++
        (", TValue: ".toList ++ (value.render noClasses level ++ ['>']))) ++ rest =
      "<TKey: ".toList ++ (key'.render noClasses level ++
        (", TValue: ".toList ++ (value'.render noClasses level ++ ['>']))) ++ rest') :
    key = key' ∧ value = value' ∧ rest = rest' := by
  have comma : ", TValue: ".toList = ',' :: " TValue: ".toList := rfl
  simp only [comma, List.append_assoc, List.cons_append, List.nil_append] at same
  obtain ⟨key, further⟩ := closedApart keys readable (by decide) (by decide) (List.append_cancel_left same)
  obtain ⟨value, rest⟩ := closedApart values readable' (by decide) (by decide) (List.append_cancel_left further)
  exact ⟨key, value, rest⟩

end

theorem atomicApart {atomic : Atomic} (readable : (ofAtomic atomic).Readable)
    (inner : ∀ child ∈ (ofAtomic atomic).children, child.ToldApart) : (ofAtomic atomic).ToldApart := by
  intro level rest rest' other readable' ends ends' same
  obtain ⟨kind, word, body⟩ := sameStart readable readable' ends ends' same
  obtain ⟨⟨-, own⟩, -⟩ := readableIff.mp readable
  obtain ⟨⟨-, own'⟩, below'⟩ := readableIff.mp readable'
  cases atomic with
  | list element nonEmpty =>
    cases other with
    | list element' nonEmpty' =>
      have nonEmpty : nonEmpty = nonEmpty' := flagApart (by decide) word
      have body : "<TValue: ".toList ++ (element.render noClasses level ++ ['>']) ++ rest =
          "<TValue: ".toList ++ (element'.render noClasses level ++ ['>']) ++ rest' := body
      simp only [List.append_assoc, List.cons_append, List.nil_append] at body
      obtain ⟨rfl, rfl⟩ := closedApart (inner _ List.mem_cons_self) (below' _ List.mem_cons_self) (by decide)
        (by decide) (List.append_cancel_left body)
      exact ⟨by rw [nonEmpty], rfl⟩
    | _ => cases kind
  | array key value nonEmpty =>
    cases other with
    | array key' value' nonEmpty' =>
      have nonEmpty : nonEmpty = nonEmpty' := flagApart (by decide) word
      obtain ⟨rfl, rfl, rfl⟩ := pairApart (inner _ List.mem_cons_self) (inner (ofUnion value) (by simp [children]))
        (below' _ List.mem_cons_self) (below' (ofUnion value') (by simp [children])) body
      exact ⟨by rw [nonEmpty], rfl⟩
    | _ => cases kind
  | iterable key value =>
    cases other with
    | iterable key' value' =>
      obtain ⟨rfl, rfl, rfl⟩ := pairApart (inner _ List.mem_cons_self) (inner (ofUnion value) (by simp [children]))
        (below' _ List.mem_cons_self) (below' (ofUnion value') (by simp [children])) body
      exact ⟨rfl, rfl⟩
    | _ => cases kind
  | closure | callable | templateParam => cases own
  | classString bound =>
    cases other with
    | classString bound' =>
      cases bound with
      | none => exact absurd rfl own
      | some bound =>
        cases bound' with
        | none => exact absurd rfl own'
        | some bound' =>
          have body : '<' :: (bound.render noClasses level ++ ['>']) ++ rest =
              '<' :: (bound'.render noClasses level ++ ['>']) ++ rest' := body
          simp only [List.cons_append, List.append_assoc, List.nil_append, List.cons.injEq, true_and] at body
          obtain ⟨rfl, closed⟩ := inner (ofClassRef bound) List.mem_cons_self level _ _ bound'
            (below' _ List.mem_cons_self) (followsCons _ (by decide)) (followsCons _ (by decide)) body
          exact ⟨rfl, (List.cons.inj closed).2⟩
    | _ => cases kind
  | named object =>
    cases other with
    | named object' =>
      rw [Atomic.render, Atomic.render] at same
      obtain ⟨rfl, rfl⟩ := inner (ofClassRef object) List.mem_cons_self level rest rest' object'
        (below' _ List.mem_cons_self) ends ends' same
      exact ⟨rfl, rfl⟩
    | _ => cases kind
  | shape shape =>
    cases other with
    | shape shape' =>
      rw [Atomic.render, Atomic.render] at same
      obtain ⟨rfl, rfl⟩ := inner (ofShape shape) List.mem_cons_self level rest rest' shape'
        (below' _ List.mem_cons_self) same
      exact ⟨rfl, rfl⟩
    | _ => cases kind
  | plain id =>
    cases other with
    | plain id' =>
      have id : id = id' := word
      exact ⟨by rw [id], body⟩
    | _ => cases kind

theorem fieldExt {field other : ShapeField} (key : field.key = other.key) (type : field.type = other.type)
    (optional : field.optional = other.optional) : field = other := by
  cases field
  cases other
  cases key
  cases type
  cases optional
  rfl

theorem renderTypeForm (lookup : Lookup) (level : Nat) (field : ShapeField) :
    field.renderType lookup level = field.type.render lookup (level + 1) := by
  cases field
  rw [ShapeField.renderType]

theorem displayInjective {key key' : ShapeKey} (proper : key.Canonical) (proper' : key'.Canonical)
    (same : key.display = key'.display) : key = key' := by
  cases key with
  | index value =>
    cases key' with
    | index value' =>
      have spelled := ShapeKey.spelledIndexOfInt value
      rw [show Text.ofInt value.toInt = Text.ofInt value'.toInt from same, ShapeKey.spelledIndexOfInt] at spelled
      rw [Option.some.inj spelled]
    | name text => exact absurd (congrArg ShapeKey.name same.symm) (proper' value)
  | name text =>
    cases key' with
    | index value => exact absurd (congrArg ShapeKey.name same) (proper value)
    | name text' => exact congrArg ShapeKey.name same

theorem digitWord {c : Char} (digit : c.isDigit) : isWordChar c := by
  simp [isWordChar, Char.isAlphanum, digit]

theorem indexWord (value : Int64) : Word (ShapeKey.display (.index value)) := by
  have digits (n : Nat) : Word (Text.ofNat n) := by
    obtain ⟨c, rest, spelled, -⟩ := Text.ofNatCons n
    exact ⟨by simp [spelled], fun c member => digitWord (Text.digitOfNat member)⟩
  show Word (Text.ofInt value.toInt)
  unfold Text.ofInt
  split
  · exact ⟨List.cons_ne_nil _ _, List.forall_mem_cons.mpr ⟨by decide, (digits _).2⟩⟩
  · exact digits _

theorem recordKeyWord {fields : List ShapeField} (readable : (ofShape ⟨false, fields⟩).Readable) {field : ShapeField}
    (member : field ∈ fields) : field.key.Canonical ∧ Word field.key.display := by
  obtain ⟨⟨proper, -, words⟩, -⟩ := readableIff.mp readable
  refine ⟨proper.2 _ (List.mem_map_of_mem member), ?_⟩
  cases key : field.key with
  | index value => exact indexWord value
  | name text => exact words field member text key

theorem markApart {optional optional' : Bool} {text text' : Text}
    (same : (if optional then "?" else "").toList ++ (": ".toList ++ text) =
      (if optional' then "?" else "").toList ++ (": ".toList ++ text')) : optional = optional' ∧ text = text' := by
  cases optional <;> cases optional' <;> simp_all

theorem fieldTypeApart {field : ShapeField} (inner : (ofUnion field.type).ToldApart) :
    (ofField field).ToldApart := by
  intro level rest rest' other readable ends ends' same
  rw [renderTypeForm, renderTypeForm] at same
  exact inner (level + 1) rest rest' other.type ((readableIff.mp readable).2 _ List.mem_cons_self) ends ends' same

theorem fieldApart {field other : ShapeField} (inner : (ofField field).ToldApart) (readable : (ofField other).Readable)
    (key : field.key.Canonical ∧ Word field.key.display) (key' : other.key.Canonical ∧ Word other.key.display)
    {level : Nat} {rest rest' : Text} (ends : Follows unionEnds rest) (ends' : Follows unionEnds rest')
    (same : field.render noClasses level ++ rest = other.render noClasses level ++ rest') :
    field = other ∧ rest = rest' := by
  have outside (field : ShapeField) (text : Text) :
      ∀ c ∈ ((if field.optional then "?" else "").toList ++ (": ".toList ++ text)).head?, isWordChar c = false := by
    cases field.optional <;> simp [isWordChar]
  rw [fieldRenderForm, fieldRenderForm, fieldStart, fieldStart] at same
  simp only [List.append_assoc] at same
  obtain ⟨display, behind⟩ := wordApart key.2.2 key'.2.2 (outside field _) (outside other _)
    (List.append_cancel_left same)
  obtain ⟨optional, type⟩ := markApart behind
  obtain ⟨type, rest⟩ := inner level rest rest' other readable ends ends' type
  exact ⟨fieldExt (displayInjective key.1 key'.1 display) type optional, rest⟩

theorem unionStarts {union : TypeUnion} (readable : (ofUnion union).Readable) (level : Nat) :
    ∃ c text, union.render noClasses level = c :: text ∧ isClassChar c := by
  have first : (ofAtomic union.first).Readable :=
    (readableIff.mp readable).2 _ (List.mem_map_of_mem List.mem_cons_self)
  obtain ⟨some_, all⟩ := wordReadable first
  rw [TypeUnion.renderForm, TypeUnion.members, List.map_cons, Text.joinedCons, Atomic.renderForm first]
  cases word : union.first.word with
  | nil => exact absurd word some_
  | cons c text => exact ⟨c, _, rfl, all c (by simp [word])⟩

theorem countedApart {fields fields' : List ShapeField} (counted : Counted fields) (counted' : Counted fields')
    (types : fields.map (·.type) = fields'.map (·.type)) : fields = fields' := by
  have length : fields.length = fields'.length := by simpa using congrArg List.length types
  have keys : fields.map (·.key) = fields'.map (·.key) := by rw [counted.1, counted'.1, length]
  refine List.ext_getElem length fun i inside inside' => ?_
  have key : fields[i].key = fields'[i].key := by simpa [inside, inside'] using congrArg (·[i]?) keys
  have type : fields[i].type = fields'[i].type := by simpa [inside, inside'] using congrArg (·[i]?) types
  have optional : fields[i].optional = fields'[i].optional := by
    rw [counted.2 _ (List.getElem_mem inside), counted'.2 _ (List.getElem_mem inside')]
  exact fieldExt key type optional

theorem closesRecord {level : Nat} {c : Char} (word : isWordChar c) (rest text : Text) :
    tabs (level - 1) ++ '\x7d' :: rest ≠ tabs level ++ c :: text := by
  intro same
  cases level with
  | zero =>
    cases same
    exact absurd word (by decide)
  | succ level =>
    rw [show tabs (level + 1) = tabs level ++ ['\t'] from List.replicate_succ', List.append_assoc] at same
    cases List.append_cancel_left same

section
variable {fields fields' : List ShapeField} {level : Nat} {rest rest' : Text}

theorem tupleApart (readable : (ofShape ⟨true, fields⟩).Readable) (readable' : (ofShape ⟨true, fields'⟩).Readable)
    (inner : ∀ field ∈ fields, (ofField field).ToldApart)
    (same : Text.joined ", " (fields.map (·.renderType noClasses level)) ++ '\x7d' :: rest =
      Text.joined ", " (fields'.map (·.renderType noClasses level)) ++ '\x7d' :: rest') :
    fields = fields' ∧ rest = rest' := by
  obtain ⟨⟨-, some_, counted⟩, -⟩ := readableIff.mp readable
  obtain ⟨⟨-, some', counted'⟩, below'⟩ := readableIff.mp readable'
  have types (fields : List ShapeField) : fields.map (·.renderType noClasses level) =
      (fields.map (·.type)).map (·.render noClasses (level + 1)) := by simp [renderTypeForm]
  have each : ∀ type ∈ fields.map (·.type), ∀ type' ∈ fields'.map (·.type), ∀ rest rest', Follows unionEnds rest →
      Follows unionEnds rest' → type.render noClasses (level + 1) ++ rest =
        type'.render noClasses (level + 1) ++ rest' → type = type' ∧ rest = rest' := by
    intro type inside type' inside' rest rest' ends ends' same
    obtain ⟨field, member, rfl⟩ := List.mem_map.mp inside
    obtain ⟨field', member', rfl⟩ := List.mem_map.mp inside'
    rw [← renderTypeForm, ← renderTypeForm] at same
    exact inner field member level rest rest' field' (below' _ (List.mem_map_of_mem member')) ends ends' same
  rw [types, types] at same
  obtain ⟨types, closed⟩ := joinedApart each (by simpa using some_) (by simpa using some')
    (fun _ => followsCons _ (by decide)) (followsCons _ (by decide)) (followsCons _ (by decide))
    (fun _ _ _ => by simp) (fun _ _ _ => by simp) same
  exact ⟨countedApart counted counted' types, (List.cons.inj closed).2⟩

theorem recordApart (readable : (ofShape ⟨false, fields⟩).Readable) (readable' : (ofShape ⟨false, fields'⟩).Readable)
    (inner : ∀ field ∈ fields, (ofField field).ToldApart)
    (same : Text.joined ",\n" (fields.map (·.render noClasses level)) ++
        (",\n".toList ++ (tabs (level - 1) ++ '\x7d' :: rest)) =
      Text.joined ",\n" (fields'.map (·.render noClasses level)) ++
        (",\n".toList ++ (tabs (level - 1) ++ '\x7d' :: rest'))) :
    fields = fields' ∧ rest = rest' := by
  have each : ∀ field ∈ fields, ∀ field' ∈ fields', ∀ rest rest', Follows unionEnds rest →
      Follows unionEnds rest' → field.render noClasses level ++ rest = field'.render noClasses level ++ rest' →
        field = field' ∧ rest = rest' := fun field member field' member' rest rest' =>
    fieldApart (inner field member) ((readableIff.mp readable').2 _ (List.mem_map_of_mem member'))
      (recordKeyWord readable member) (recordKeyWord readable' member')
  have ends (text : Text) : Follows unionEnds (",\n".toList ++ text) := followsCons _ (by decide)
  have stops {fields : List ShapeField} (readable : (ofShape ⟨false, fields⟩).Readable) (rest : Text) :
      ∀ field ∈ fields, ∀ text, ",\n".toList ++ (tabs (level - 1) ++ '\x7d' :: rest) ≠
        ",\n".toList ++ (field.render noClasses level ++ text) := by
    intro field member text same
    obtain ⟨-, some_, all⟩ := recordKeyWord readable member
    have closed := List.append_cancel_left same
    rw [fieldRenderForm, fieldStart] at closed
    cases display : field.key.display with
    | nil => exact some_ display
    | cons c name =>
      simp only [display, List.append_assoc, List.cons_append] at closed
      exact closesRecord (all c (by simp [display])) _ _ closed
  obtain ⟨fields, closed⟩ := joinedApart each (shapeFields readable) (shapeFields readable') ends (ends _) (ends _)
    (stops readable' rest) (stops readable rest') same
  exact ⟨fields, (List.cons.inj (List.append_cancel_left (List.append_cancel_left closed))).2⟩

theorem tupleOrRecord (readable : (ofShape ⟨true, fields⟩).Readable) (text : Text) :
    Shape.body level ⟨true, fields⟩ ++ rest ≠ '\x7b' :: '\n' :: text := by
  obtain ⟨⟨-, some_, -⟩, below⟩ := readableIff.mp readable
  cases fields with
  | nil => exact absurd rfl some_
  | cons field fields =>
    have type : (ofUnion field.type).Readable := (readableIff.mp (below _ List.mem_cons_self)).2 _ List.mem_cons_self
    obtain ⟨c, more, starts, letter⟩ := unionStarts type (level + 1)
    rw [Shape.body, List.map_cons, Text.joinedCons, renderTypeForm, starts]
    intro same
    cases (List.cons.inj (List.cons.inj same).2).1
    exact absurd letter (by decide)

end

theorem shapeApart {shape : Shape} (readable : (ofShape shape).Readable)
    (inner : ∀ child ∈ (ofShape shape).children, child.ToldApart) : (ofShape shape).ToldApart := by
  intro level rest rest' other readable' same
  rw [Shape.renderForm level (shapeFields readable), Shape.renderForm level (shapeFields readable'),
    List.append_assoc, List.append_assoc] at same
  have body := List.append_cancel_left same
  have fieldsApart : ∀ field ∈ shape.fields, (ofField field).ToldApart :=
    fun field member => inner _ (List.mem_map_of_mem member)
  obtain ⟨isList, fields⟩ := shape
  obtain ⟨isList', fields'⟩ := other
  cases isList with
  | true =>
    cases isList' with
    | true =>
      rw [Shape.body, Shape.body, if_pos rfl, if_pos rfl] at body
      simp only [List.cons_append, List.append_assoc, List.nil_append, List.cons.injEq, true_and] at body
      obtain ⟨rfl, rfl⟩ := tupleApart readable readable' fieldsApart body
      exact ⟨rfl, rfl⟩
    | false => exact absurd body (tupleOrRecord readable _)
  | false =>
    cases isList' with
    | true => exact absurd body.symm (tupleOrRecord readable' _)
    | false =>
      rw [Shape.body, Shape.body, if_neg Bool.false_ne_true, if_neg Bool.false_ne_true] at body
      simp only [List.cons_append, List.append_assoc, List.nil_append, List.cons.injEq, true_and] at body
      obtain ⟨rfl, rfl⟩ := recordApart readable readable' fieldsApart body
      exact ⟨rfl, rfl⟩

theorem partApart (part : Part) (readable : part.Readable) : part.ToldApart := by
  -- What follows is left open in what is proved of each part, since only in the whole type nothing follows.
  induction part using Part.induct with
  | step part ih =>
    have inner : ∀ child ∈ part.children, child.ToldApart :=
      fun child inside => ih child inside ((readableIff.mp readable).2 child inside)
    cases part with
    | ofUnion union => exact unionApart inner
    | ofAtomic atomic => exact atomicApart readable inner
    | ofSignature | ofParam => exact fun _ _ _ => trivial
    | ofClassRef object => exact classRefApart readable inner
    | ofShape shape => exact shapeApart readable inner
    | ofField field => exact fieldTypeApart (inner _ List.mem_cons_self)

theorem renderingTellsApart {union other : TypeUnion} (proper : union.WellFormed) (proper' : other.WellFormed)
    (bracketed : ∀ inner ∈ (ofUnion union).parts, inner.Bracketed)
    (bracketed' : ∀ inner ∈ (ofUnion other).parts, inner.Bracketed) (level : Nat)
    (same : union.render noClasses level = other.render noClasses level) : union = other := by
  have readable : (ofUnion union).Readable := fun inner member => ⟨proper inner member, bracketed inner member⟩
  have readable' : (ofUnion other).Readable := fun inner member => ⟨proper' inner member, bracketed' inner member⟩
  have nothing : Follows unionEnds [] := fun _ first => nomatch first
  exact (partApart _ readable level [] [] other readable' nothing nothing (by rw [same])).1

/- A record with one key beside a class with an argument. -/

def keyedBy (key : ShapeKey) : TypeUnion :=
  ⟨.named ⟨"App\\User", [Atomic.plain "int"], []⟩,
    [.shape (Shape.keyed.field key (Atomic.list (Atomic.plain "string") true))]⟩

theorem singleReadable {atomic : Atomic} (readable : (ofAtomic atomic).Readable) :
    (ofUnion (.single atomic)).Readable :=
  readableIff.mpr ⟨⟨List.cons_ne_nil _ _, trivial⟩, by simpa [children, TypeUnion.members, TypeUnion.single]⟩

theorem keyedReadable {key : ShapeKey} (word : ∀ name, key.canonical = .name name → Word name) :
    (ofUnion (keyedBy key)).Readable := by
  have plain {id : Text} (word : Word id) : (ofUnion (.single (.plain id))).Readable :=
    singleReadable (readableIff.mpr ⟨⟨trivial, word⟩, fun _ inside => nomatch inside⟩)
  have argument : (ofUnion (.single (.plain "int"))).Readable := plain ⟨by decide, List.all_eq_true.mp (by decide)⟩
  have element : (ofUnion (.single (.plain "string"))).Readable := plain ⟨by decide, List.all_eq_true.mp (by decide)⟩
  have named : (ofAtomic (.named ⟨"App\\User", [Atomic.plain "int"], []⟩)).Readable := by
    have object : (ofClassRef ⟨"App\\User", [Atomic.plain "int"], []⟩).Readable :=
      readableIff.mpr ⟨⟨trivial, rfl, by decide, List.all_eq_true.mp (by decide)⟩, by simpa [children]⟩
    exact readableIff.mpr ⟨⟨trivial, trivial⟩, by simpa [children]⟩
  have list : (ofUnion (.single (.list (Atomic.plain "string") true))).Readable :=
    singleReadable (readableIff.mpr ⟨⟨trivial, trivial⟩, by simpa [children]⟩)
  have field : (ofField ⟨key.canonical, Atomic.list (Atomic.plain "string") true, false⟩).Readable :=
    readableIff.mpr ⟨⟨trivial, trivial⟩, by simpa [children]⟩
  have noKeys : Shape.keyed.KeysProper := by simp [Shape.KeysProper, Shape.keys, Shape.keyed]
  have shape : (ofShape (Shape.keyed.field key (Atomic.list (Atomic.plain "string") true))).Readable :=
    readableIff.mpr ⟨⟨Shape.putKeysProper noKeys _ _ _, List.cons_ne_nil _ _, by simpa [Shape.keyed] using word⟩,
      List.forall_mem_singleton.mpr field⟩
  have record : (ofAtomic (.shape (Shape.keyed.field key (Atomic.list (Atomic.plain "string") true)))).Readable :=
    readableIff.mpr ⟨⟨trivial, trivial⟩, List.forall_mem_singleton.mpr shape⟩
  exact readableIff.mpr ⟨⟨List.cons_ne_nil _ _, trivial⟩,
    by simpa [children, TypeUnion.members, keyedBy] using ⟨named, record⟩⟩

theorem decimalNameToldApart : (ofUnion (keyedBy (.name "0"))).Readable ∧ (ofUnion (keyedBy (.index 0))).Readable ∧
    (keyedBy (.name "0")).render noClasses 1 = (keyedBy (.index 0)).render noClasses 1 ∧
      keyedBy (.name "0") = keyedBy (.index 0) := by
  have decimal : (ShapeKey.name "0").canonical = .index 0 := by decide
  have readable : (ofUnion (keyedBy (.name "0"))).Readable := keyedReadable (by rw [decimal]; exact fun _ => nofun)
  have readable' : (ofUnion (keyedBy (.index 0))).Readable := keyedReadable fun _ => nofun
  refine ⟨readable, readable', rfl, ?_⟩
  exact renderingTellsApart (fun inner member => (readable inner member).1)
    (fun inner member => (readable' inner member).1) (fun inner member => (readable inner member).2)
    (fun inner member => (readable' inner member).2) 1 rfl

end TypeLens
