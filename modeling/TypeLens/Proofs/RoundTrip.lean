import TypeLens.Proofs.Encoded
import TypeLens.Proofs.Tagged
import TypeLens.Site.Document

/-! Round trips of types and sites through their texts. -/
namespace TypeLens

open Json TypeLens.Part

namespace Part

def toValue : Part → Value
  | ofUnion union => union.toValue
  | ofAtomic atomic => atomic.toValue
  | ofSignature signature => signature.toValue
  | ofParam param => param.toValue
  | ofClassRef object => object.toValue
  | ofShape shape => shape.toValue
  | ofField field => field.toValue

theorem arrayPlain {α : Type} {encode : α → Value} {list : List α} (each : ∀ item ∈ list, (encode item).Plain) :
    (Value.array (list.map encode)).Plain := by
  refine .array fun value inside => ?_
  obtain ⟨item, member, rfl⟩ := List.mem_map.mp inside
  exact each item member

theorem optionPlain {α : Type} {encode : α → Value} {found : Option α} (each : ∀ item ∈ found, (encode item).Plain) :
    (Value.ofOption encode found).Plain := by
  cases found with
  | none => exact .null
  | some item => exact each item rfl

theorem keyPlain (key : ShapeKey) : key.toValue.Plain := by
  cases key with
  | index value =>
    have low := value.le_toInt
    have high := value.toInt_lt
    exact .integer low (by omega)
  | name text => exact .string text

theorem taggedPlain {kind : Kind} {fields : List Member} (each : ∀ field ∈ fields, field.value.Plain) :
    (kind.tagged fields).Plain := .object (List.forall_mem_cons.mpr ⟨.string _, each⟩)

theorem atomicPlain {atomic : Atomic} (inner : ∀ child ∈ (ofAtomic atomic).children, child.toValue.Plain) :
    atomic.toValue.Plain := by
  cases atomic with
  | classString bound =>
    cases bound with
    | none =>
      rw [Atomic.toValue]
      exact taggedPlain (by simp [Value.Plain.null])
    | some object =>
      have object : (Value.object object.toMembers).Plain := inner (ofClassRef object) List.mem_cons_self
      rw [Atomic.toValue]
      exact taggedPlain (by simpa using object)
  | closure signature | callable signature | named object | shape shape =>
    have whole := inner _ List.mem_cons_self
    rw [Atomic.toValue]
    cases whole with
    | object each => exact taggedPlain each
  | _ =>
    rw [Atomic.toValue]
    refine taggedPlain ?_
    simp_all [children, toValue, Value.Plain.boolean, Value.Plain.string]

theorem toValuePlain (part : Part) : part.toValue.Plain := by
  induction part using Part.induct with
  | step part inner =>
    cases part with
    | ofUnion union =>
      rw [toValue, TypeUnion.toValueForm]
      exact arrayPlain fun atomic member => inner _ (List.mem_map_of_mem member)
    | ofAtomic atomic => exact atomicPlain inner
    | ofSignature signature =>
      have params : (Value.array (signature.params.map Param.toValue)).Plain := arrayPlain fun param member =>
        inner (ofParam param) (List.mem_append_left _ (List.mem_map_of_mem member))
      have result : (Value.ofOption TypeUnion.toValue signature.returnType).Plain := optionPlain fun union member =>
        inner (ofUnion union) (List.mem_append_right _ (List.mem_map_of_mem (Option.mem_toList.mpr member)))
      rw [toValue, Signature.toValue, Signature.toMembersForm]
      exact .object (by simpa [Value.Plain.boolean] using ⟨params, result⟩)
    | ofParam param =>
      have type : (Value.ofOption TypeUnion.toValue param.type).Plain := optionPlain fun union member =>
        inner (ofUnion union) (List.mem_map_of_mem (Option.mem_toList.mpr member))
      rw [toValue, Param.toValueForm]
      exact .object (by simpa [Value.Plain.boolean, Value.Plain.string] using type)
    | ofClassRef object =>
      have typeArgs : (Value.array (object.typeArgs.map TypeUnion.toValue)).Plain := arrayPlain fun union member =>
        inner (ofUnion union) (List.mem_append_left _ (List.mem_map_of_mem member))
      have intersection : (Value.array (object.intersection.map Atomic.toValue)).Plain :=
        arrayPlain fun atomic member => inner (ofAtomic atomic) (List.mem_append_right _ (List.mem_map_of_mem member))
      rw [toValue, ClassRef.toValue, ClassRef.toMembersForm]
      exact .object (by simpa [Value.Plain.string] using ⟨typeArgs, intersection⟩)
    | ofShape shape =>
      have fields : (Value.array (shape.fields.map ShapeField.toValue)).Plain := arrayPlain fun field member =>
        inner (ofField field) (List.mem_map_of_mem member)
      rw [toValue, Shape.toValue, Shape.toMembersForm]
      exact .object (by simpa [Value.Plain.boolean] using fields)
    | ofField field =>
      have type : field.type.toValue.Plain := inner (ofUnion field.type) List.mem_cons_self
      rw [toValue, ShapeField.toValueForm]
      exact .object (by simpa [Value.Plain.boolean, keyPlain] using type)

end Part

theorem taggedTold {kind : Kind} {fields : List Member} (apart : ("kind".toList :: fields.map (·.name)).Nodup) :
    Atomic.Told (kind.tagged fields) kind (.named fields) := by
  refine @Atomic.Told.members [] _ _ fields kind.ofTextTag fun field inside same => ?_
  exact (List.nodup_cons.mp apart).1 (List.mem_map.mpr ⟨field, inside, same⟩)

theorem atomicReads {atomic : Atomic} (whole : atomic.WellFormed) :
    ReadsBack Atomic.reader atomic.toValue atomic := by
  obtain ⟨kind, fields, form, apart, decoded⟩ := Atomic.DecodedAgain.ofFields (partAgain whole)
  refine ⟨toValuePlain (ofAtomic atomic), ?_⟩
  rw [form]
  exact (toldReads (taggedTold apart)).refined decoded

theorem listOfReads {α : Type} {item : Nat → Reader α} {encode : α → Value} {list : List α}
    (each : ∀ element ∈ list, ReadsBack item (encode element) element) :
    ReadsBack (listOf item) (.array (list.map encode)) list := by
  refine ⟨arrayPlain fun element inside => (each element inside).plain, listReads ?_⟩
  exact List.forall₂_map_left_iff.mpr (List.forall₂_same.mpr fun element inside => (each element inside).reads)

theorem unionReads {union : TypeUnion} (whole : union.WellFormed) :
    ReadsBack TypeUnion.reader union.toValue union := by
  have members := listOfReads fun atomic member => atomicReads (TypeUnion.wellFormedIff.mp whole atomic member)
  have made : modelChecked (TypeUnion.ofMembers union.members) = .ok union := by cases union; rfl
  rw [TypeUnion.toValueForm]
  exact ⟨members.plain, members.reads.refined made⟩

theorem siteKindReads (kind : SiteKind) : Reads SiteKind.reader (.string kind.tag) kind := by
  intro before spelling blank spelled depth rest _
  refine .sure ?_ (by simp [Value.depth])
  have known : SiteKind.ofText kind.tag = kind := by cases kind <;> rfl
  generalize kind.tag = tag at *
  cases spelled with
  | number _ names => cases names
  | @string body _ all =>
    have read : characters (body ++ '"' :: rest) = .ok (tag, rest) := charactersIff.mpr ⟨body, all, rfl⟩
    simp only [SiteKind.reader, List.cons_append, List.append_assoc, List.nil_append,
      skipsTo blank (show isBlank '"' = false from rfl), if_true, read, Except.map, Reading.ofScan, known]

theorem nullStarts {text : Text} {value : Value} (spelled : Spells ('n' :: text) value) : value = .null := by
  generalize held : 'n' :: text = spelling at spelled
  cases spelled with
  | null => rfl
  | number spelled =>
    obtain ⟨c, rest, rfl, starts⟩ := numeralStarts spelled
    cases held
    cases starts
  | _ => cases held

theorem orNullReads {α : Type} {reader : Nat → Reader α} {encode : α → Value} {found : Option α}
    (reads : ∀ item ∈ found, Reads reader (encode item) item) (some : ∀ item ∈ found, encode item ≠ .null) :
    Reads (fun depth => orNull (reader depth)) (.ofOption encode found) found := by
  intro before text blank spelled depth rest ended
  cases found with
  | none =>
    refine .sure ?_ (by simp [Value.ofOption, Value.depth])
    cases spelled with
    | null =>
      have skipped := skipsTo blank (show isBlank 'n' = false from rfl) ("ull" ++ rest)
      simp only [orNull]
      rw [show before ++ ("null" ++ rest) = before ++ 'n' :: ("ull" ++ rest) from rfl, skipped]
      rfl
    | number _ names => cases names
  | some item =>
    have notNull := some item rfl
    have read := reads item rfl before text blank spelled depth rest ended
    obtain ⟨c, text, rfl, visible, _⟩ := spelledStarts spelled
    have form : (orNull (reader depth)).read (before ++ (c :: text ++ rest)) =
        ((reader depth).read (before ++ (c :: text ++ rest))).map Option.some := by
      simp only [orNull, List.cons_append, skipsTo blank visible]
      split
      · next started =>
        cases started
        exact absurd (nullStarts spelled) notNull
      · rfl
    simp only [form]
    exact read.through (Reading.map Option.some) rfl fun _ => rfl

theorem spanReads (span : Span) : Reads Span.reader span.toValue span := by
  have steps (depth : Nat) : Steps (Span.schema.member depth) depth Span.schema.blank
      [⟨"start", .integer span.start.toNat⟩, ⟨"end", .integer span.stop.toNat⟩] ⟨some span.start, some span.stop⟩ := by
    refine .cons (Schema.slotRead rfl rfl ((countReads span.start).mapped _) depth) ?_
    refine .cons (Schema.slotRead rfl rfl ((countReads span.stop).mapped _) depth) ?_
    exact .nil _
  exact Schema.reads steps rfl

theorem siteRead {site : Site} (whole : site.WellFormed) : Reads Site.reader site.toValue site := by
  have comment : Reads (fun _ => orNull text) (.ofOption .string site.docComment) site.docComment :=
    orNullReads (fun comment _ => textReads .text comment) (by simp)
  have type : Reads (fun depth => orNull (TypeUnion.reader depth)) (.ofOption TypeUnion.toValue site.type) site.type :=
    orNullReads (fun union inside => (unionReads (whole union inside)).reads) fun union _ => by
      simp [TypeUnion.toValueForm]
  have steps (depth : Nat) : Steps (Site.schema.member depth) depth Site.schema.blank
      [⟨"kind", .string site.kind.tag⟩, ⟨"doc_comment", .ofOption .string site.docComment⟩,
        ⟨"span", site.span.toValue⟩, ⟨"type", .ofOption TypeUnion.toValue site.type⟩]
      ⟨some site.kind, some site.docComment, some site.span, some site.type⟩ := by
    refine .cons (Schema.slotRead rfl rfl ((siteKindReads site.kind).mapped _) depth) ?_
    refine .cons (Schema.slotRead rfl rfl (comment.mapped _) depth) ?_
    refine .cons (Schema.slotRead rfl rfl ((spanReads site.span).mapped _) depth) ?_
    refine .cons (Schema.slotRead rfl rfl (type.mapped _) depth) ?_
    exact .nil _
  exact Schema.reads steps rfl

theorem sitePlain (site : Site) : site.toValue.Plain := by
  have comment : (Value.ofOption Value.string site.docComment).Plain := optionPlain fun comment _ => .string comment
  have type : (Value.ofOption TypeUnion.toValue site.type).Plain := optionPlain fun union _ =>
    toValuePlain (ofUnion union)
  have bound (n : UInt64) : (Value.integer n.toNat).Plain := by
    have := n.toNat_lt
    exact .integer (by omega) (by omega)
  have span : site.span.toValue.Plain := .object (by simp [bound])
  exact .object (by simpa [Value.Plain.string] using ⟨comment, span, type⟩)

theorem siteReads {site : Site} (whole : site.WellFormed) : ReadsBack Site.reader site.toValue site :=
  ⟨sitePlain site, siteRead whole⟩

theorem siteListReads {sites : List Site} (whole : ∀ site ∈ sites, site.WellFormed) :
    ReadsBack (listOf Site.reader) (.array (sites.map Site.toValue)) sites :=
  listOfReads fun site inside => siteReads (whole site inside)

structure RoundTrip {α : Type} (decode : Text → Except ReadError α) (written : Value) (value : α) : Prop where
  decoded : written.depth ≤ 127 → decode written.text = .ok value
  tooDeep : 127 < written.depth →
    ∃ place, decode written.text = .error ⟨.syntaxFault .tooDeep, some place⟩

theorem roundTripOf {α : Type} {reader : Nat → Reader α} {written : Value} {value : α}
    (reads : ReadsBack reader written value) : RoundTrip (Json.decode (reader nestingLimit)) written value :=
  ⟨(decodeText reads).1, (decodeText reads).2⟩

theorem textRoundTrip :
    (∀ union : TypeUnion, union.WellFormed → RoundTrip TypeUnion.decode union.toValue union) ∧
      (∀ atomic : Atomic, atomic.WellFormed → RoundTrip Atomic.decode atomic.toValue atomic) ∧
        ∀ sites : List Site, (∀ site ∈ sites, site.WellFormed) →
          RoundTrip Site.decodeAll (.array (sites.map Site.toValue)) sites := by
  refine ⟨?_, ?_, ?_⟩
  · intro union whole
    exact roundTripOf (unionReads whole)
  · intro atomic whole
    exact roundTripOf (atomicReads whole)
  · intro sites whole
    exact roundTripOf (siteListReads whole)

/- A record within lists. Each list opens two brackets more. -/

def number : TypeUnion := .single (.plain "int")

def innermost : Shape := (Shape.keyed.field (.name "0") number).optionalField (.name "a") number

def nested : Nat → TypeUnion
  | 0 => .single (.shape innermost)
  | n + 1 => .single (.list (nested n) false)

theorem innermostFields : innermost.fields = [⟨.index 0, number, false⟩, ⟨.name "a", number, true⟩] := rfl

theorem singleWellFormed {atomic : Atomic} (whole : atomic.WellFormed) : (TypeUnion.single atomic).WellFormed :=
  TypeUnion.wellFormedIff.mpr (List.forall_mem_singleton.mpr whole)

theorem plainWellFormed (id : Text) : (Atomic.plain id).WellFormed :=
  wellFormedIff.mpr ⟨trivial, List.forall_mem_nil _⟩

theorem numberWellFormed : number.WellFormed := singleWellFormed (plainWellFormed _)

theorem numberDepth : number.toValue.depth = 2 := by
  simp [number, TypeUnion.single, TypeUnion.toValueForm, TypeUnion.members, Atomic.toValue, Kind.tagged, Value.depth]

theorem numberDecoded : TypeUnion.decode number.toValue.text = .ok number :=
  (decodeText (unionReads numberWellFormed)).1 (numberDepth ▸ by decide)

theorem innermostWellFormed : (ofShape innermost).WellFormed := by
  have start : Shape.keyed.KeysProper := ⟨List.nodup_nil, by simp [Shape.keys, Shape.keyed]⟩
  refine wellFormedIff.mpr ⟨Shape.putKeysProper (Shape.putKeysProper start ..) .., fun child inside => ?_⟩
  rw [children, innermostFields] at inside
  obtain ⟨field, member, rfl⟩ := List.mem_map.mp inside
  rw [fieldWellFormedIff]
  simp only [List.mem_cons, List.not_mem_nil, or_false] at member
  rcases member with rfl | rfl <;> exact numberWellFormed

theorem nestedWellFormed (n : Nat) : (nested n).WellFormed := by
  induction n with
  | zero => exact singleWellFormed (wellFormedIff.mpr ⟨trivial, List.forall_mem_singleton.mpr innermostWellFormed⟩)
  | succ n ih => exact singleWellFormed (wellFormedIff.mpr ⟨trivial, List.forall_mem_singleton.mpr ih⟩)

theorem nestedDepth (n : Nat) : (nested n).toValue.depth = 2 * n + 6 := by
  induction n with
  | zero =>
    rw [nested, TypeUnion.toValueForm]
    simp [TypeUnion.single, TypeUnion.members, Value.depth, Atomic.toValue, Kind.tagged, Shape.toMembersForm,
      innermostFields, number, ShapeField.toValueForm, ShapeKey.toValue, TypeUnion.toValueForm]
  | succ n ih =>
    rw [nested, TypeUnion.toValueForm]
    simp [TypeUnion.single, TypeUnion.members, Value.depth, Atomic.toValue, Kind.tagged, ih]
    omega

def nestedSite (n : Nat) : Site := ⟨.assign, some "\u00e9\"\n", ⟨0, 18446744073709551615⟩, some (nested n)⟩

theorem nestedSiteDepth (n : Nat) : (Value.array ([nestedSite n].map Site.toValue)).depth = 2 * n + 8 := by
  simp [nestedSite, Site.toValue, Value.depth, Value.ofOption, Span.toValue, nestedDepth]

theorem nestedListWellFormed (n : Nat) (nonEmpty : Bool) : (Atomic.list (nested n) nonEmpty).WellFormed :=
  wellFormedIff.mpr ⟨trivial, List.forall_mem_singleton.mpr (nestedWellFormed n)⟩

theorem nestedListDepth (n : Nat) (nonEmpty : Bool) : (Atomic.list (nested n) nonEmpty).toValue.depth = 2 * n + 7 := by
  simp [Atomic.toValue, Kind.tagged, Value.depth, nestedDepth]

theorem nestedSiteWellFormed (n : Nat) : ∀ site ∈ [nestedSite n], site.WellFormed := by
  simp [nestedSite, Site.WellFormed, nestedWellFormed]

theorem nestedRoundTrip :
    TypeUnion.decode (nested 60).toValue.text = .ok (nested 60) ∧
      (∃ place, TypeUnion.decode (nested 61).toValue.text = .error ⟨.syntaxFault .tooDeep, some place⟩) ∧
        Atomic.decode (Atomic.list (nested 60) true).toValue.text = .ok (.list (nested 60) true) ∧
          Site.decodeAll (Value.array ([nestedSite 59].map Site.toValue)).text = .ok [nestedSite 59] ∧
            ∃ place, Site.decodeAll (Value.array ([nestedSite 60].map Site.toValue)).text =
              .error ⟨.syntaxFault .tooDeep, some place⟩ := by
  obtain ⟨unions, atomics, siteLists⟩ := textRoundTrip
  refine ⟨?_, ?_, ?_, ?_, ?_⟩
  · exact (unions _ (nestedWellFormed 60)).decoded (by simp [nestedDepth])
  · exact (unions _ (nestedWellFormed 61)).tooDeep (by simp [nestedDepth])
  · exact (atomics _ (nestedListWellFormed 60 true)).decoded (by simp [nestedListDepth])
  · exact (siteLists _ (nestedSiteWellFormed 59)).decoded (by rw [nestedSiteDepth]; decide)
  · exact (siteLists _ (nestedSiteWellFormed 60)).tooDeep (by rw [nestedSiteDepth]; decide)

end TypeLens
