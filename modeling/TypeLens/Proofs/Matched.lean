import TypeLens.Proofs.Declared
import TypeLens.Proofs.Displayed

/-! A rendering sees the classes only through the answers of its lookup. Two types that differ in nothing but the
names of classes and of template parameters are shown alike, as soon as the two lookups answer alike about them. -/
namespace TypeLens

open Rendering

namespace Part

/-- Of one form, with the identifiers of classes and of owners in the given relations place by place. What a template
parameter is called is left open. -/
inductive Matched (classes owners : Text → Text → Prop) : Part → Part → Prop where
  | union {union union' : TypeUnion}
      (members : List.Forall₂ (fun atomic atomic' => Matched classes owners (ofAtomic atomic) (ofAtomic atomic'))
        union.members union'.members) :
      Matched classes owners (ofUnion union) (ofUnion union')
  | list {element element' nonEmpty} (types : Matched classes owners (ofUnion element) (ofUnion element')) :
      Matched classes owners (ofAtomic (.list element nonEmpty)) (ofAtomic (.list element' nonEmpty))
  | array {key key' value value' nonEmpty} (keys : Matched classes owners (ofUnion key) (ofUnion key'))
      (values : Matched classes owners (ofUnion value) (ofUnion value')) :
      Matched classes owners (ofAtomic (.array key value nonEmpty)) (ofAtomic (.array key' value' nonEmpty))
  | iterable {key key' value value'} (keys : Matched classes owners (ofUnion key) (ofUnion key'))
      (values : Matched classes owners (ofUnion value) (ofUnion value')) :
      Matched classes owners (ofAtomic (.iterable key value)) (ofAtomic (.iterable key' value'))
  | closure {signature signature'}
      (signatures : Matched classes owners (ofSignature signature) (ofSignature signature')) :
      Matched classes owners (ofAtomic (.closure signature)) (ofAtomic (.closure signature'))
  | callable {signature signature'}
      (signatures : Matched classes owners (ofSignature signature) (ofSignature signature')) :
      Matched classes owners (ofAtomic (.callable signature)) (ofAtomic (.callable signature'))
  | anyClass : Matched classes owners (ofAtomic (.classString none)) (ofAtomic (.classString none))
  | boundClass {bound bound'} (bounds : Matched classes owners (ofClassRef bound) (ofClassRef bound')) :
      Matched classes owners (ofAtomic (.classString (some bound))) (ofAtomic (.classString (some bound')))
  | named {object object'} (objects : Matched classes owners (ofClassRef object) (ofClassRef object')) :
      Matched classes owners (ofAtomic (.named object)) (ofAtomic (.named object'))
  | shape {shape shape'} (shapes : Matched classes owners (ofShape shape) (ofShape shape')) :
      Matched classes owners (ofAtomic (.shape shape)) (ofAtomic (.shape shape'))
  | templateParam {name name' owner owner' constraint constraint'} (own : owners owner owner')
      (constraints : Matched classes owners (ofUnion constraint) (ofUnion constraint')) :
      Matched classes owners (ofAtomic (.templateParam name owner constraint))
        (ofAtomic (.templateParam name' owner' constraint'))
  | plain {id} : Matched classes owners (ofAtomic (.plain id)) (ofAtomic (.plain id))
  | signature {params params' returnType returnType' isPure}
      (inner : List.Forall₂ (fun param param' => Matched classes owners (ofParam param) (ofParam param'))
        params params')
      (result : Option.Rel (fun type type' => Matched classes owners (ofUnion type) (ofUnion type'))
        returnType returnType') :
      Matched classes owners (ofSignature ⟨params, returnType, isPure⟩) (ofSignature ⟨params', returnType', isPure⟩)
  | param {name type type' byRef variadic}
      (types : Option.Rel (fun type type' => Matched classes owners (ofUnion type) (ofUnion type')) type type') :
      Matched classes owners (ofParam ⟨name, type, byRef, variadic⟩) (ofParam ⟨name, type', byRef, variadic⟩)
  | classRef {classId classId' typeArgs typeArgs' intersection intersection'} (own : classes classId classId')
      (args : List.Forall₂ (fun type type' => Matched classes owners (ofUnion type) (ofUnion type')) typeArgs typeArgs')
      (others : List.Forall₂ (fun atomic atomic' => Matched classes owners (ofAtomic atomic) (ofAtomic atomic'))
        intersection intersection') :
      Matched classes owners (ofClassRef ⟨classId, typeArgs, intersection⟩)
        (ofClassRef ⟨classId', typeArgs', intersection'⟩)
  | fields {isList fields fields'}
      (each : List.Forall₂ (fun field field' => Matched classes owners (ofField field) (ofField field'))
        fields fields') :
      Matched classes owners (ofShape ⟨isList, fields⟩) (ofShape ⟨isList, fields'⟩)
  | field {key type type' optional} (types : Matched classes owners (ofUnion type) (ofUnion type')) :
      Matched classes owners (ofField ⟨key, type, optional⟩) (ofField ⟨key, type', optional⟩)

def ShownAlike (c d : Lookup) : Part → Part → Prop
  | ofUnion union, ofUnion union' => ∀ level, union.render c level = union'.render d level
  | ofAtomic atomic, ofAtomic atomic' => ∀ level, atomic.render c level = atomic'.render d level
  | ofSignature signature, ofSignature signature' =>
    ∀ level name, signature.render c level name = signature'.render d level name
  | ofParam param, ofParam param' => ∀ level, param.render c level = param'.render d level
  | ofClassRef object, ofClassRef object' => ∀ level, object.render c level = object'.render d level
  | ofShape shape, ofShape shape' => ∀ level, shape.render c level = shape'.render d level
  | ofField field, ofField field' => ∀ level, field.render c level = field'.render d level ∧
      field.renderType c level = field'.renderType d level
  | _, _ => False

structure AnswersAlike (c d : Lookup) (classes owners : Text → Text → Prop) : Prop where
  className : ∀ {id id'}, classes id id' → className c id = className d id'
  labels : ∀ {id id'}, classes id id' → labels c id = labels d id'
  ownerName : ∀ {id id'}, owners id id' → ownerName c id = ownerName d id'

variable {c d : Lookup} {classes owners : Text → Text → Prop}

theorem matchedShown (answers : AnswersAlike c d classes owners) {part part' : Part}
    (matched : part.Matched classes owners part') : part.ShownAlike c d part' := by
  induction part using Part.induct generalizing part' with
  | step part ih =>
    cases matched with
    | union members =>
      intro level
      have each := mappedEqual members fun atomic inside _ below =>
        ih (ofAtomic atomic) (List.mem_map_of_mem inside) below level
      rw [TypeUnion.renderForm, TypeUnion.renderForm, each]
    | list types =>
      intro level
      rw [Atomic.render, Atomic.render, ih _ List.mem_cons_self types level]
    | array keys values | iterable keys values =>
      intro level
      rw [Atomic.render, Atomic.render, ih _ List.mem_cons_self keys level,
        ih _ (List.mem_cons_of_mem _ List.mem_cons_self) values level]
    | closure signatures | callable signatures =>
      intro level
      rw [Atomic.render, Atomic.render, ih _ List.mem_cons_self signatures level]
    | anyClass | plain =>
      intro level
      rw [Atomic.render, Atomic.render]
    | boundClass inner | named inner | shape inner =>
      intro level
      rw [Atomic.render, Atomic.render, ih _ List.mem_cons_self inner level]
    | templateParam own constraints =>
      intro level
      rw [Atomic.render, Atomic.render, ih _ List.mem_cons_self constraints level, answers.ownerName own]
    | signature inner result =>
      intro level name
      have params := mappedEqual inner fun param inside _ below =>
        ih (ofParam param) (List.mem_append_left _ (List.mem_map_of_mem inside)) below level
      cases result with
      | none => rw [Signature.render, Signature.render, params]
      | some types =>
        rw [Signature.render, Signature.render, params, ih _ (List.mem_append_right _ List.mem_cons_self) types level]
    | param types =>
      intro level
      cases types with
      | none => rw [Param.render, Param.render]
      | some types => rw [Param.render, Param.render, ih _ List.mem_cons_self types level]
    | @classRef _ _ typeArgs typeArgs' _ _ own args others =>
      intro level
      have shownArgs := mappedEqual args fun type inside _ below =>
        ih (ofUnion type) (List.mem_append_left _ (List.mem_map_of_mem inside)) below level
      have shownOthers := mappedEqual others fun atomic inside _ below =>
        ih (ofAtomic atomic) (List.mem_append_right _ (List.mem_map_of_mem inside)) below level
      have empty : typeArgs.isEmpty = typeArgs'.isEmpty := by cases args <;> rfl
      rw [ClassRef.render, ClassRef.render, shownArgs, shownOthers, answers.className own, answers.labels own, empty]
    | @fields _ fields fields' each =>
      intro level
      have lines := mappedEqual each fun field inside _ below =>
        (ih (ofField field) (List.mem_map_of_mem inside) below level).1
      have types := mappedEqual each fun field inside _ below =>
        (ih (ofField field) (List.mem_map_of_mem inside) below level).2
      have empty : fields.isEmpty = fields'.isEmpty := by cases each <;> rfl
      rw [Shape.render, Shape.render, lines, types, empty]
    | field types =>
      intro level
      rw [ShapeField.render, ShapeField.render, ShapeField.renderType, ShapeField.renderType,
        ih _ List.mem_cons_self types]
      exact ⟨rfl, rfl⟩

def ownIds : Part → List Text
  | ofClassRef object => [object.classId]
  | ofAtomic (.templateParam _ definingClass _) => [definingClass]
  | _ => []

def ids (part : Part) : List Text := part.parts.flatMap ownIds

theorem forallIds {Holds : Text → Prop} {part : Part} : (∀ id ∈ part.ids, Holds id) ↔
    (∀ id ∈ part.ownIds, Holds id) ∧ ∀ child ∈ part.children, ∀ id ∈ child.ids, Holds id := by
  have among (part : Part) : (∀ id ∈ part.ids, Holds id) ↔ ∀ inner ∈ part.parts, ∀ id ∈ inner.ownIds, Holds id := by
    simp only [ids, List.mem_flatMap]
    grind
  simp only [among]
  exact forallParts

theorem selfMatched {part : Part} (each : ∀ id ∈ part.ids, classes id id ∧ owners id id) :
    part.Matched classes owners part := by
  induction part using Part.induct with
  | step part ih =>
    obtain ⟨own, below⟩ := forallIds.mp each
    have inner : ∀ child ∈ part.children, child.Matched classes owners child := fun child inside =>
      ih child inside (below child inside)
    have option {found : Option TypeUnion}
        (types : ∀ type ∈ found, (ofUnion type).Matched classes owners (ofUnion type)) :
        Option.Rel (fun type type' => (ofUnion type).Matched classes owners (ofUnion type')) found found := by
      cases found with
      | none => exact .none
      | some type => exact .some (types type rfl)
    cases part with
    | ofUnion union =>
      exact .union (List.forall₂_same.mpr fun atomic inside => inner _ (List.mem_map_of_mem inside))
    | ofAtomic atomic =>
      cases atomic with
      | list => exact .list (inner _ List.mem_cons_self)
      | array => exact .array (inner _ List.mem_cons_self) (inner _ (List.mem_cons_of_mem _ List.mem_cons_self))
      | iterable => exact .iterable (inner _ List.mem_cons_self) (inner _ (List.mem_cons_of_mem _ List.mem_cons_self))
      | closure => exact .closure (inner _ List.mem_cons_self)
      | callable => exact .callable (inner _ List.mem_cons_self)
      | classString bound =>
        cases bound with
        | none => exact .anyClass
        | some bound => exact .boundClass (inner _ List.mem_cons_self)
      | named => exact .named (inner _ List.mem_cons_self)
      | shape => exact .shape (inner _ List.mem_cons_self)
      | templateParam => exact .templateParam (own _ List.mem_cons_self).2 (inner _ List.mem_cons_self)
      | plain => exact .plain
    | ofSignature signature =>
      obtain ⟨params, returnType, isPure⟩ := signature
      refine .signature (List.forall₂_same.mpr fun param inside => ?_) (option fun type inside => ?_)
      · exact inner _ (List.mem_append_left _ (List.mem_map_of_mem inside))
      · exact inner _ (List.mem_append_right _ (List.mem_map_of_mem (Option.mem_toList.mpr inside)))
    | ofParam param =>
      obtain ⟨name, type, byRef, variadic⟩ := param
      exact .param (option fun type inside => inner _ (List.mem_map_of_mem (Option.mem_toList.mpr inside)))
    | ofClassRef object =>
      obtain ⟨classId, typeArgs, intersection⟩ := object
      refine .classRef (own _ List.mem_cons_self).1 (List.forall₂_same.mpr fun type inside => ?_)
        (List.forall₂_same.mpr fun atomic inside => ?_)
      · exact inner _ (List.mem_append_left _ (List.mem_map_of_mem inside))
      · exact inner _ (List.mem_append_right _ (List.mem_map_of_mem inside))
    | ofShape shape =>
      obtain ⟨isList, fields⟩ := shape
      exact .fields (List.forall₂_same.mpr fun field inside => inner _ (List.mem_map_of_mem inside))
    | ofField field =>
      obtain ⟨key, type, optional⟩ := field
      exact .field (inner _ List.mem_cons_self)

end Part

inductive SameClass (c d : Lookup) : Text → Text → Prop where
  | known {id id' info info'} (found : c id = some info) (found' : d id' = some info')
      (shortName : info.shortName = info'.shortName)
      (params : info.templateParams.getD [] = info'.templateParams.getD []) : SameClass c d id id'
  | unknown {id} (missed : c id = none) (missed' : d id = none) : SameClass c d id id

/-- An unknown owner is shown by its short name, which may be the one that another owner is known by. -/
inductive SameOwner (c d : Lookup) : Text → Text → Prop where
  | known {id id' info info'} (found : c id = some info) (found' : d id' = some info')
      (shortName : info.shortName = info'.shortName) : SameOwner c d id id'
  | unknown {id id'} (missed : c id = none) (missed' : d id' = none)
      (short : ClassName.short id = ClassName.short id') : SameOwner c d id id'
  | knownFirst {id id' info} (found : c id = some info) (missed : d id' = none)
      (short : info.shortName = ClassName.short id') : SameOwner c d id id'
  | knownSecond {id id' info} (missed : c id = none) (found : d id' = some info)
      (short : ClassName.short id = info.shortName) : SameOwner c d id id'

theorem sameAnswers (c d : Lookup) : Part.AnswersAlike c d (SameClass c d) (SameOwner c d) := by
  constructor
  · intro id id' same
    cases same <;> simp_all [className]
  · intro id id' same
    cases same <;> simp_all [labels]
  · intro id id' same
    cases same <;> simp_all [ownerName]

inductive Catalog.Respelling (catalog : Catalog) : Text → Text → Prop where
  | same (id) : Respelling catalog id id
  | variant {id id'} (known : catalog.resolve id ≠ none)
      (normal : ClassName.normalForm id' = ClassName.normalForm id) : Respelling catalog id id'
  | backslashes {id} (known : catalog.resolve id ≠ none) (more : Nat) :
      Respelling catalog id (List.replicate more '\\' ++ id)

theorem normalFormBackslashes (more : Nat) (id : Text) :
    ClassName.normalForm (List.replicate more '\\' ++ id) = ClassName.normalForm id := by
  rw [ClassName.normalForm, ClassName.normalForm, List.dropWhile_append_of_pos (by simp)]

theorem respellingResolve {catalog : Catalog} {id id' : Text} (respelled : catalog.Respelling id id') :
    catalog.resolve id = catalog.resolve id' := by
  cases respelled with
  | same => rfl
  | variant _ normal => rw [Catalog.resolve, Catalog.resolve, normal]
  | backslashes _ more => rw [Catalog.resolve, Catalog.resolve, normalFormBackslashes]

theorem respellingAnswers (catalog : Catalog) :
    Part.AnswersAlike catalog.resolve catalog.resolve catalog.Respelling catalog.Respelling := by
  have known {id id' : Text} (respelled : catalog.Respelling id id') :
      id = id' ∨ ∃ info, catalog.resolve id = some info ∧ catalog.resolve id' = some info := by
    have same := respellingResolve respelled
    cases respelled with
    | same => exact .inl rfl
    | variant known | backslashes known =>
      obtain ⟨info, found⟩ := Option.ne_none_iff_exists'.mp known
      exact .inr ⟨info, found, same ▸ found⟩
  constructor <;> intro id id' respelled
  · rcases known respelled with rfl | ⟨info, found, found'⟩
    · rfl
    · rw [className, className, found, found']
  · rw [labels, labels, respellingResolve respelled]
  · rcases known respelled with rfl | ⟨info, found, found'⟩
    · rfl
    · rw [ownerName, ownerName, found, found']

theorem declaredAnswers (catalog : Catalog) (decl : ClassDecl) :
    let apart := fun id id' => id = id' ∧ ClassName.normalForm decl.name ≠ ClassName.normalForm id
    Part.AnswersAlike (catalog.declare decl).resolve catalog.resolve apart apart := by
  have same {id : Text} (apart : ClassName.normalForm decl.name ≠ ClassName.normalForm id) :
      (catalog.declare decl).resolve id = catalog.resolve id := by
    rw [Catalog.resolveDeclared, ClassDecl.key, if_neg apart]
  constructor <;> rintro id _ ⟨rfl, apart⟩
  · rw [className, className, same apart]
  · rw [labels, labels, same apart]
  · rw [ownerName, ownerName, same apart]

theorem renderingSeesAnswers :
    (∀ (c d : Lookup) (u v : TypeUnion),
      (Part.ofUnion u).Matched (SameClass c d) (SameOwner c d) (Part.ofUnion v) →
        ∀ level, u.render c level = v.render d level) ∧
      (∀ (catalog : Catalog) (decl : ClassDecl) (u : TypeUnion),
        (∀ id ∈ (Part.ofUnion u).ids, ClassName.normalForm decl.name ≠ ClassName.normalForm id) →
          ∀ level, u.render (catalog.declare decl).resolve level = u.render catalog.resolve level) ∧
        ∀ (catalog : Catalog) (u v : TypeUnion),
          (Part.ofUnion u).Matched catalog.Respelling catalog.Respelling (Part.ofUnion v) →
            ∀ level, u.render catalog.resolve level = v.render catalog.resolve level := by
  refine ⟨?_, ?_, ?_⟩
  · intro c d u v matched
    exact Part.matchedShown (sameAnswers c d) matched
  · intro catalog decl u apart
    exact Part.matchedShown (declaredAnswers catalog decl)
      (Part.selfMatched fun id among => ⟨⟨rfl, apart id among⟩, rfl, apart id among⟩)
  · intro catalog u v matched
    exact Part.matchedShown (respellingAnswers catalog) matched

/- One class under two names and an owner that neither catalog knows. -/

def boxed (className owner : Text) : TypeUnion :=
  ⟨.named ⟨className, [number], []⟩, [.templateParam "T" owner number]⟩

def boxCatalog (name : Text) (params : Option (List Text)) : Catalog := Catalog.empty.declare ⟨name, params⟩

theorem boxedMatched {classes owners : Text → Text → Prop} {name name' owner owner' : Text} (own : classes name name')
    (other : owners owner owner') :
    (Part.ofUnion (boxed name owner)).Matched classes owners (Part.ofUnion (boxed name' owner')) := by
  have numbers : (Part.ofUnion number).Matched classes owners (Part.ofUnion number) :=
    .union (.cons .plain .nil)
  exact .union (.cons (.named (.classRef own (.cons numbers .nil) .nil)) (.cons (.templateParam other numbers) .nil))

theorem boxedIds (name owner : Text) : (Part.ofUnion (boxed name owner)).ids = [name, owner] := by
  simp [Part.ids, Part.partsEq, Part.children, Part.ownIds, boxed, number, TypeUnion.single, TypeUnion.members]

theorem renamedShownAlike :
    (boxed "app\\BOX" "make").render (boxCatalog "App\\Box" none).resolve 1 =
        (boxed "\\Lib\\Box" "Factory::make").render (boxCatalog "Lib\\Box" (some [])).resolve 1 ∧
      (boxed "App\\Box" "make").render ((boxCatalog "App\\Box" none).declare ⟨"Box", some ["T"]⟩).resolve 1 =
        (boxed "App\\Box" "make").render (boxCatalog "App\\Box" none).resolve 1 ∧
      (boxed "App\\Box" "make").render (boxCatalog "App\\Box" none).resolve 1 =
        (boxed "\\\\App\\Box" "make").render (boxCatalog "App\\Box" none).resolve 1 := by
  obtain ⟨answered, declared, respelled⟩ := renderingSeesAnswers
  refine ⟨?_, ?_, ?_⟩
  · refine answered _ _ _ _ (boxedMatched ?_ ?_) 1
    · have found : (boxCatalog "App\\Box" none).resolve "app\\BOX" = some ⟨"Box", none⟩ := by decide +kernel
      have found' : (boxCatalog "Lib\\Box" (some [])).resolve "\\Lib\\Box" = some ⟨"Box", some []⟩ := by decide +kernel
      exact .known found found' rfl rfl
    · exact .unknown (by decide +kernel) (by decide +kernel) (by decide +kernel)
  · refine declared _ _ _ ?_ 1
    rw [boxedIds]
    decide +kernel
  · refine respelled _ _ _ (boxedMatched ?_ (.same _)) 1
    exact .backslashes (by decide +kernel) 2

end TypeLens
