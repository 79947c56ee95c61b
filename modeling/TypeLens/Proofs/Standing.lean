import TypeLens.Proofs.Json.Formed
import TypeLens.Proofs.RoundTrip

/-! An atomic type on its own and as the element of a list. It is decoded alike in both places, save for its kind:
inside of another type the whole value is read before its kind is known, and then the kind may also be given by its
number. -/
namespace TypeLens

open Json

def listOpening : Text := "[\x7b\"kind\":\"list\",\"element\":["

def listClosing : Text := "]\x7d]"

def withinList (text : Text) : Text := listOpening ++ (text ++ listClosing)

def listAround (value : Value) : Value :=
  .array [.object [⟨"kind", .string "list"⟩, ⟨"element", .array [value]⟩]]

def listOfOne (atomic : Atomic) : TypeUnion := .single (.list (.single atomic) false)

namespace Json.Piece

def bare (text : Text) : Piece := ⟨[], text, [], blankNil, blankNil⟩

def element (piece : Piece) : Piece := .bare ('[' :: (Text.joined [','] ([piece].map (·.whole)) ++ ([] ++ [']'])))

def members (piece : Piece) : List NamedPiece := [
  ⟨[], "kind", [], .bare ('"' :: ("list" ++ ['"'])), blankNil, blankNil, spelledFormsCharacters (textSpelled "kind")⟩,
  ⟨[], "element", [], piece.element, blankNil, blankNil, spelledFormsCharacters (textSpelled "element")⟩]

def object (piece : Piece) : Piece :=
  .bare ('\x7b' :: (Text.joined [','] (piece.members.map (·.whole)) ++ ([] ++ ['\x7d'])))

end Json.Piece

theorem listOpens : listOpening = '[' :: '\x7b' :: '"' :: ("kind".toList ++
    '"' :: ':' :: '"' :: ("list".toList ++ '"' :: ',' :: '"' :: ("element".toList ++ ['"', ':', '[']))) := by
  decide +kernel

theorem listCloses : listClosing = [']', '\x7d', ']'] := by decide +kernel

theorem withinListForm (piece : Piece) : withinList piece.whole =
    '[' :: (Text.joined [','] ([piece.object].map (·.whole)) ++ ([] ++ [']'])) := by
  simp only [withinList, listOpens, listCloses, Piece.object, Piece.members, Piece.element, Piece.bare, Piece.whole,
    NamedPiece.whole, joinedCons, List.map_cons, List.map_nil, List.flatMap_cons, List.flatMap_nil, List.nil_append,
    List.append_nil, List.append_assoc, List.cons_append]

theorem aroundSpelled {bound : Nat} {piece : Piece} {value : Value} (spelled : piece.SpellsUpTo bound value) :
    Spells (withinList piece.whole) (listAround value) ∧ (listAround value).depth ≤ bound + 3 := by
  have name (name : Text) : SpellsCharacters (name.flatMap escaped) name := textSpelled name
  have tag : Spells ('"' :: ("list".toList ++ ['"'])) (.string "list") := .string (name "list")
  have element : piece.element.SpellsUpTo (bound + 1) (.array [value]) := arrayBuilt (.cons spelled .nil) blankNil
  have members : List.Forall₂ (NamedPiece.SpellsUpTo (bound + 1)) piece.members
      [⟨"kind", .string "list"⟩, ⟨"element", .array [value]⟩] :=
    .cons ⟨name "kind", tag, by simp [Value.depth]⟩ (.cons ⟨name "element", element⟩ .nil)
  have object : piece.object.SpellsUpTo (bound + 2)
      (.object [⟨"kind", .string "list"⟩, ⟨"element", .array [value]⟩]) := objectBuilt members blankNil
  rw [withinListForm]
  exact arrayBuilt (.cons object .nil) blankNil

theorem membersForm {bound : Nat} {piece : Piece} (formed : Forms bound piece.text) :
    ∀ entry ∈ piece.members, Forms (bound + 1) entry.piece.text :=
  List.forall_mem_cons.mpr ⟨.string (spelledFormsCharacters (textSpelled "list")),
    List.forall_mem_singleton.mpr (.array (List.forall_mem_singleton.mpr formed) blankNil)⟩

theorem objectForms {bound : Nat} {piece : Piece} (formed : Forms bound piece.text) :
    ∀ inner ∈ [piece.object], Forms (bound + 2) inner.text :=
  List.forall_mem_singleton.mpr (.object (membersForm formed) blankNil)

theorem aroundForms {bound : Nat} {piece : Piece} (formed : Forms bound piece.text) :
    Forms (bound + 3) (withinList piece.whole) := by
  rw [withinListForm]
  exact .array (objectForms formed) blankNil

theorem aroundInside {bound : Nat} {piece : Piece} (formed : Forms bound piece.text) {source : Value}
    (spelled : Spells (withinList piece.whole) source) : ∃ value, Spells piece.text value := by
  rw [withinListForm] at spelled
  obtain ⟨_, _, outer⟩ := arrayInside (objectForms formed) blankNil spelled
  cases outer with
  | cons object =>
    obtain ⟨_, _, inner⟩ := objectInside (membersForm formed) blankNil object.1
    cases inner with
    | cons _ later =>
      cases later with
      | cons element =>
        obtain ⟨_, _, innermost⟩ := arrayInside (List.forall_mem_singleton.mpr formed) blankNil element.2.1
        cases innermost with
        | cons found => exact ⟨_, found.1⟩

theorem aroundDocument {bound : Nat} {text : Text} {value : Value} (spelled : Document text value)
    (shallow : value.depth ≤ bound) :
    Document (withinList text) (listAround value) ∧ (listAround value).depth ≤ bound + 3 := by
  obtain ⟨item, rfl, rfl, spelled⟩ := spelled
  obtain ⟨around, depth⟩ :=
    @aroundSpelled _ ⟨item.before, item.text, item.after, item.blankBefore, item.blankAfter⟩ _ ⟨spelled, shallow⟩
  exact ⟨⟨⟨[], _, [], _, blankNil, blankNil⟩, (List.append_nil _).symm, rfl, around⟩, depth⟩

theorem documentInside {bound : Nat} {text : Text} (formed : Formed bound text) {source : Value}
    (spelled : Document (withinList text) source) : ∃ value, Document text value := by
  obtain ⟨piece, rfl, formed⟩ := formed
  obtain ⟨found, _⟩ := @formedSpelled _ (.bare (withinList piece.whole)) (aroundForms formed) source
    (by rwa [Piece.bare, Piece.whole, List.nil_append, List.append_nil])
  obtain ⟨value, inside⟩ := aroundInside formed found
  exact ⟨value, ⟨piece.before, piece.text, piece.after, value, piece.blankBefore, piece.blankAfter⟩, rfl, rfl, inside⟩

theorem innerSpelled {text : Text} {value : Value} (spelled : Spells text value) :
    ∀ inner ∈ value.inner, ∃ piece, Spells piece inner := by
  cases spelled with
  | array each =>
    exact List.forall_mem_map.mpr fun item inside => ⟨item.text, each item inside⟩
  | object each =>
    exact List.forall_mem_map.mpr (List.forall_mem_map.mpr fun entry inside => ⟨entry.item.text, each entry inside⟩)
  | number _ names => cases names <;> exact fun _ inside => nomatch inside
  | _ => exact fun _ inside => nomatch inside

theorem arraySpelled {values : List Value} (each : ∀ value ∈ values, ∃ piece, Spells piece value) :
    ∃ text, Spells text (.array values) := by
  obtain ⟨items, rfl, spelled⟩ : ∃ items : List Item, items.map (·.value) = values ∧
      ∀ item ∈ items, Spells item.text item.value := by
    induction values with
    | nil => exact ⟨[], rfl, fun _ inside => nomatch inside⟩
    | cons value values ih =>
      obtain ⟨⟨piece, first⟩, later⟩ := List.forall_mem_cons.mp each
      obtain ⟨items, rfl, spelled⟩ := ih later
      exact ⟨⟨[], piece, [], value, blankNil, blankNil⟩ :: items, rfl, List.forall_mem_cons.mpr ⟨first, spelled⟩⟩
  exact ⟨_, .array spelled blankNil⟩

theorem objectSpelled {members : List Member} (each : ∀ member ∈ members, ∃ piece, Spells piece member.value) :
    ∃ text, Spells text (.object members) := by
  obtain ⟨entries, rfl, spelled⟩ : ∃ entries : List Entry, entries.map (·.member) = members ∧
      ∀ entry ∈ entries, Spells entry.item.text entry.item.value := by
    induction members with
    | nil => exact ⟨[], rfl, fun _ inside => nomatch inside⟩
    | cons member members ih =>
      obtain ⟨name, value⟩ := member
      obtain ⟨⟨piece, first⟩, later⟩ := List.forall_mem_cons.mp each
      obtain ⟨entries, rfl, spelled⟩ := ih later
      exact ⟨⟨[], _, [], name, ⟨[], piece, [], value, blankNil, blankNil⟩, blankNil, blankNil, textSpelled name⟩ ::
        entries, rfl, List.forall_mem_cons.mpr ⟨first, spelled⟩⟩
  exact ⟨_, .object spelled blankNil⟩

theorem bareDocument {value : Value} (spelled : ∃ text, Spells text value) : ∃ text, Document text value := by
  obtain ⟨text, spelled⟩ := spelled
  exact ⟨_, ⟨[], text, [], value, blankNil, blankNil⟩, rfl, rfl, spelled⟩

theorem unionOfOne (value : Value) : TypeUnion.ofValue (.array [value]) = (Atomic.ofValue value).map .single := by
  rw [TypeUnion.ofValue, listForm, List.mapM_cons, List.mapM_nil]
  cases Atomic.ofValue value <;> rfl

theorem listOfElement {element : Value} {type : TypeUnion} :
    Atomic.ofValue (.object [⟨"kind", .string "list"⟩, ⟨"element", element⟩]) = .ok (.list type false) ↔
      TypeUnion.ofValue element = .ok type := by
  have only : Only [⟨"kind", .string "list"⟩, ⟨"element", element⟩] ⟨"kind", .string "list"⟩ := rfl
  rw [kindFound only (show Kind.ofValue (.string "list") = .ok .list from rfl), atomicOkIff]
  constructor
  · intro looked
    cases looked with
    | list first =>
      rcases namedOkIff.mp first with ⟨none, _⟩ | ⟨member, only, decoded⟩
      · cases none
      · cases only
        exact decoded
  · intro decoded
    exact .list (namedOkIff.mpr (.inr ⟨_, rfl, decoded⟩)) (namedOkIff.mpr (.inl ⟨rfl, rfl⟩)) (namedEnds _ _)

theorem aroundOkIff {value : Value} {atomic : Atomic} :
    TypeUnion.ofValue (listAround value) = .ok (listOfOne atomic) ↔ Atomic.ofValue value = .ok atomic := by
  have single {found : Except Refusal Atomic} {atomic : Atomic} :
      found.map TypeUnion.single = .ok (.single atomic) ↔ found = .ok atomic := by
    cases found <;> simp [Except.map, TypeUnion.single]
  rw [listAround, unionOfOne, listOfOne, single, listOfElement, unionOfOne, single]

inductive Atomic.Numbered (kind : Kind) : Value → Value → Prop where
  | items {index : Nat} {items} (numbered : Kind.all[index]? = some kind) :
      Numbered kind (.array (.integer index :: items)) (.array (.string kind.tag :: items))
  | members {index : Nat} {before after} (numbered : Kind.all[index]? = some kind)
      (once : ∀ member ∈ before ++ after, member.name ≠ "kind".toList) :
      Numbered kind (.object (before ++ ⟨"kind", .integer index⟩ :: after))
        (.object (before ++ ⟨"kind", .string kind.tag⟩ :: after))

theorem kindNumbered {index : Nat} {kind : Kind} (numbered : Kind.all[index]? = some kind) :
    Kind.ofValue (.integer index) = .ok kind := by
  simp [Kind.ofValue, numbered]

theorem kindOkIff {tag : Value} {kind : Kind} : Kind.ofValue tag = .ok kind ↔
    (∃ text, tag = .string text ∧ Kind.ofText text = .ok kind) ∨
      ∃ index : Nat, tag = .integer index ∧ Kind.all[index]? = some kind := by
  constructor
  · intro decoded
    cases tag with
    | string text => exact .inl ⟨text, rfl, decoded⟩
    | integer value =>
      simp only [Kind.ofValue] at decoded
      split at decoded
      · cases decoded
      · split at decoded
        · next found =>
          cases decoded
          exact .inr ⟨value.toNat, by rw [Int.toNat_of_nonneg (by omega)], found⟩
        · cases decoded
    | _ => simp [Kind.ofValue] at decoded
  · rintro (⟨text, rfl, known⟩ | ⟨index, rfl, numbered⟩)
    · exact known
    · exact kindNumbered numbered

theorem numberedTold {kind : Kind} {value named : Value} (numbered : Atomic.Numbered kind value named) :
    ∃ contents, Atomic.Told named kind contents := by
  cases numbered with
  | items => exact ⟨_, .items (Kind.ofTextTag kind)⟩
  | members _ once => exact ⟨_, .members (Kind.ofTextTag kind) once⟩

theorem ofValueNumbered {kind : Kind} {value named : Value} (numbered : Atomic.Numbered kind value named) :
    Atomic.ofValue value = Atomic.ofValue named := by
  cases numbered with
  | items numbered =>
    have known : Kind.ofValue (.string kind.tag) = .ok kind := Kind.ofTextTag kind
    rw [Atomic.ofValue, Atomic.ofValue, kindNumbered numbered, known]
  | @members index before after numbered once =>
    have known : Kind.ofValue (.string kind.tag) = .ok kind := Kind.ofTextTag kind
    have only (tag : Value) : Only (before ++ ⟨"kind", tag⟩ :: after) ⟨"kind", tag⟩ := onlyBetween once
    rw [kindFound (only _) (kindNumbered numbered), kindFound (only _) known]
    exact (undeclaredIgnored (.contents kind) (kindUndeclared kind) before after).trans
      (undeclaredIgnored (.contents kind) (kindUndeclared kind) before after).symm

theorem ofValueTells {value : Value} {atomic : Atomic} (decoded : Atomic.ofValue value = .ok atomic) :
    (∃ kind contents, Atomic.Told value kind contents) ∨ ∃ kind named, Atomic.Numbered kind value named := by
  cases value with
  | array items =>
    cases items with
    | nil => rw [Atomic.ofValue] at decoded; cases decoded
    | cons tag items =>
      rw [Atomic.ofValue] at decoded
      obtain ⟨kind, found, _⟩ := bindOk decoded
      rcases kindOkIff.mp found with ⟨text, rfl, known⟩ | ⟨index, rfl, numbered⟩
      · exact .inl ⟨kind, _, .items known⟩
      · exact .inr ⟨kind, _, .items numbered⟩
  | object members =>
    rw [Atomic.ofValue] at decoded
    obtain ⟨kind, found, _⟩ := bindOk decoded
    rw [lookupForm, Checked.resultOkIff, lookupOkIff] at found
    rcases found with ⟨_, missing⟩ | ⟨⟨name, tag⟩, only, found⟩
    · cases missing
    · obtain ⟨rfl, only⟩ := onlyNamed only
      obtain ⟨before, after, rfl, once⟩ := onlySplit only
      rcases kindOkIff.mp found with ⟨text, rfl, known⟩ | ⟨index, rfl, numbered⟩
      · exact .inl ⟨kind, _, .members known once⟩
      · exact .inr ⟨kind, _, .members numbered once⟩
  | _ => simp [Atomic.ofValue] at decoded

theorem toldUnnumbered {kind kind' : Kind} {contents : Contents} {value named : Value}
    (told : Atomic.Told value kind contents) (numbered : Atomic.Numbered kind' value named) : False := by
  cases numbered with
  | items => cases told
  | @members index before after _ once =>
    generalize held : Value.object _ = value at told
    cases told with
    | items => cases held
    | @members before' tag _ after' _ once' =>
      have only : Only (before ++ ⟨"kind", .integer index⟩ :: after) ⟨"kind", .integer index⟩ := onlyBetween once
      have only' : Only (before' ++ ⟨"kind", .string tag⟩ :: after') ⟨"kind", .string tag⟩ := onlyBetween once'
      rw [← Value.object.inj held, Only, only] at only'
      cases only'

theorem numberedDepth {kind : Kind} {value named : Value} (numbered : Atomic.Numbered kind value named) :
    named.depth = value.depth := by
  cases numbered <;> simp [Value.depth]

theorem aloneIff {text : Text} {atomic : Atomic} : Atomic.decode text = .ok atomic ↔
    ∃ value, Document text value ∧ value.depth ≤ nestingLimit ∧ (∃ kind contents, Atomic.Told value kind contents) ∧
      Atomic.ofValue value = .ok atomic := by
  constructor
  · exact decodeAccepted (atomicAccepts nestingLimit)
  · rintro ⟨value, spelled, fits, ⟨kind, contents, told⟩, decoded⟩
    exact (decodeDocument (atomicRead told decoded) spelled).1 fits

theorem formedShallow {bound : Nat} {text : Text} (formed : Formed bound text) {value : Value}
    (spelled : Document text value) : value.depth ≤ bound := by
  obtain ⟨piece, rfl, formed⟩ := formed
  exact (formedSpelled formed spelled).2

-- The list adds three brackets to the ones of the text, which makes at most the limit of a reader.
theorem withinListIff {text : Text} (formed : Formed 124 text) {atomic : Atomic} :
    TypeUnion.decode (withinList text) = .ok (listOfOne atomic) ↔
      ∃ value, Document text value ∧ Atomic.ofValue value = .ok atomic := by
  have around {value : Value} (spelled : Document text value) :=
    aroundDocument spelled (formedShallow formed spelled)
  constructor
  · intro decoded
    obtain ⟨source, outer⟩ := unionSpelled decoded
    obtain ⟨value, spelled⟩ := documentInside formed outer
    obtain ⟨_, _, made⟩ := unionAccepted decoded (around spelled).1
    exact ⟨value, spelled, aroundOkIff.mp made⟩
  · rintro ⟨value, spelled, decoded⟩
    have told : TypeUnion.Told (listAround value) := .array (List.forall_mem_singleton.mpr
      ⟨.list, _, @Atomic.Told.members [] _ _ _ (Kind.ofTextTag .list) (by simp)⟩)
    exact (unionDecodes told (around spelled).1 (around spelled).2).ok (aroundOkIff.mpr decoded)

theorem numberedRefused {text : Text} {kind : Kind} {value named : Value} (spelled : Document text value)
    (numbered : Atomic.Numbered kind value named) (atomic : Atomic) : Atomic.decode text ≠ .ok atomic := by
  intro decoded
  obtain ⟨_, other, _, ⟨_, _, told⟩, _⟩ := aloneIff.mp decoded
  cases documentUnique spelled other
  exact toldUnnumbered told numbered

def Atomic.Renumbers (text named : Text) : Prop :=
  ∃ kind value value', Document text value ∧ Document named value' ∧ Atomic.Numbered kind value value'

theorem namedSpelled {kind : Kind} {text : Text} {value named : Value} (spelled : Document text value)
    (numbered : Atomic.Numbered kind value named) : ∃ text', Document text' named := by
  obtain ⟨item, _, rfl, spelled⟩ := spelled
  have inner := innerSpelled spelled
  have tag : ∃ piece, Spells piece (.string kind.tag) := ⟨_, .string (textSpelled kind.tag)⟩
  generalize held : item.value = value at numbered inner
  apply bareDocument
  cases numbered with
  | items =>
    obtain ⟨_, later⟩ := List.forall_mem_cons.mp inner
    exact arraySpelled (List.forall_mem_cons.mpr ⟨tag, later⟩)
  | members =>
    have inner := List.forall_mem_map.mp inner
    obtain ⟨others, later⟩ := List.forall_mem_append.mp inner
    obtain ⟨_, later⟩ := List.forall_mem_cons.mp later
    exact objectSpelled (List.forall_mem_append.mpr ⟨others, List.forall_mem_cons.mpr ⟨tag, later⟩⟩)

theorem standsAlike {text : Text} (formed : Formed 124 text) (atomic : Atomic) :
    ((∀ named, ¬Atomic.Renumbers text named) →
      (TypeUnion.decode (withinList text) = .ok (listOfOne atomic) ↔ Atomic.decode text = .ok atomic)) ∧
    ∀ named, Atomic.Renumbers text named → Atomic.decode text ≠ .ok atomic ∧
      (TypeUnion.decode (withinList text) = .ok (listOfOne atomic) ↔ Atomic.decode named = .ok atomic) := by
  constructor
  · intro unnumbered
    rw [withinListIff formed, aloneIff]
    constructor
    · rintro ⟨value, spelled, decoded⟩
      refine ⟨value, spelled, (formedShallow formed spelled).trans (by decide), ?_, decoded⟩
      refine (ofValueTells decoded).resolve_right ?_
      rintro ⟨kind, value', numbered⟩
      obtain ⟨named, spelled'⟩ := namedSpelled spelled numbered
      exact unnumbered named ⟨kind, value, value', spelled, spelled', numbered⟩
    · rintro ⟨value, spelled, _, _, decoded⟩
      exact ⟨value, spelled, decoded⟩
  · rintro named ⟨kind, value, value', spelled, spelled', numbered⟩
    have fits : value'.depth ≤ nestingLimit := by
      rw [numberedDepth numbered]
      exact (formedShallow formed spelled).trans (by decide)
    refine ⟨numberedRefused spelled numbered atomic, ?_⟩
    rw [withinListIff formed, aloneIff]
    constructor
    · rintro ⟨_, other, decoded⟩
      cases documentUnique spelled other
      exact ⟨value', spelled', fits, ⟨kind, numberedTold numbered⟩, (ofValueNumbered numbered).symm.trans decoded⟩
    · rintro ⟨_, other, _, _, decoded⟩
      cases documentUnique spelled' other
      exact ⟨value, spelled, (ofValueNumbered numbered).trans decoded⟩

def plainTagged (tag : Value) : Value := .object [⟨"kind", tag⟩, ⟨"id", .string "int"⟩]

theorem plainTaggedFormed {tag : Value} (plain : tag.Plain) (flat : tag.depth = 0) :
    Document (plainTagged tag).text (plainTagged tag) ∧ Formed 124 (plainTagged tag).text := by
  have whole : (plainTagged tag).Plain := .object (List.forall_mem_cons.mpr
    ⟨plain, List.forall_mem_singleton.mpr (.string "int")⟩)
  have depth : (plainTagged tag).depth ≤ 124 := by simp [plainTagged, Value.depth, flat]
  exact ⟨plainDocument whole, documentFormed (plainDocument whole) depth⟩

theorem taggedByNumber : Document (plainTagged (.integer 9)).text (plainTagged (.integer 9)) ∧
    Formed 124 (plainTagged (.integer 9)).text :=
  plainTaggedFormed (.integer (by decide) (by decide)) (by simp [Value.depth])

theorem taggedByName : Document (plainTagged (.string "opaque")).text (plainTagged (.string "opaque")) ∧
    Formed 124 (plainTagged (.string "opaque")).text :=
  plainTaggedFormed (.string "opaque") (by simp [Value.depth])

theorem plainNumbered : Atomic.Numbered .plain (plainTagged (.integer 9)) (plainTagged (.string "opaque")) :=
  @Atomic.Numbered.members .plain 9 [] [⟨"id", .string "int"⟩] rfl (List.forall_mem_singleton.mpr (by decide +kernel))

def tenthKind : Text := "\x7b\"kind\":9,\"id\":\"int\"\x7d"

theorem tenthKindText : (plainTagged (.integer 9)).text = tenthKind := by
  rw [plainTagged, Value.objectText]
  simp only [List.map_cons, List.map_nil, memberText, Value.text]
  decide +kernel

theorem nameAlone : Atomic.decode (plainTagged (.string "opaque")).text = .ok (.plain "int") := by
  have value : (Atomic.plain "int").toValue = plainTagged (.string "opaque") := by
    rw [Atomic.toValue]
    rfl
  have shallow : (plainTagged (.string "opaque")).depth ≤ nestingLimit := by
    simp [plainTagged, Value.depth, nestingLimit]
  rw [← value] at shallow ⊢
  exact (decodeText (atomicReads (plainWellFormed "int"))).1 shallow

theorem numberOnlyInside : Formed 124 tenthKind ∧
    TypeUnion.decode (withinList tenthKind) = .ok (listOfOne (.plain "int")) ∧
      ∀ atomic, Atomic.decode tenthKind ≠ .ok atomic := by
  rw [← tenthKindText]
  obtain ⟨spelled, formed⟩ := taggedByNumber
  refine ⟨formed, (withinListIff formed).mpr ⟨_, spelled, ?_⟩, numberedRefused spelled plainNumbered⟩
  obtain ⟨_, other, _, _, decoded⟩ := aloneIff.mp nameAlone
  cases documentUnique taggedByName.1 other
  exact (ofValueNumbered plainNumbered).trans decoded

theorem nameAndNumberInside :
    TypeUnion.decode (withinList (plainTagged (.string "opaque")).text) = .ok (listOfOne (.plain "int")) ∧
      Atomic.decode (plainTagged (.integer 9)).text ≠ .ok (.plain "int") ∧
        TypeUnion.decode (withinList (plainTagged (.integer 9)).text) = .ok (listOfOne (.plain "int")) := by
  have renumbers : Atomic.Renumbers (plainTagged (.integer 9)).text (plainTagged (.string "opaque")).text :=
    ⟨_, _, _, taggedByNumber.1, taggedByName.1, plainNumbered⟩
  have unnumbered (named : Text) : ¬Atomic.Renumbers (plainTagged (.string "opaque")).text named := by
    rintro ⟨kind, value, value', spelled, _, numbered⟩
    exact numberedRefused spelled numbered _ nameAlone
  obtain ⟨refused, inside⟩ := (standsAlike taggedByNumber.2 (.plain "int")).2 _ renumbers
  exact ⟨((standsAlike taggedByName.2 (.plain "int")).1 unnumbered).mpr nameAlone, refused, inside.mpr nameAlone⟩

end TypeLens
