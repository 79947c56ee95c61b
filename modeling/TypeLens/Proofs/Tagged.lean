import TypeLens.Model.Reader
import TypeLens.Proofs.Json.Accepted
import TypeLens.Proofs.Json.Refused
import TypeLens.Proofs.Records

/-! Atomic types as they are tagged. A reader takes the tag out of the value, wherever it stands, and leaves the
rest to the kind. -/
namespace TypeLens

open Json

inductive Atomic.Told : Value → Kind → Contents → Prop where
  | items {tag kind items} (known : Kind.ofText tag = .ok kind) :
      Told (.array (.string tag :: items)) kind (.positional items)
  | members {before tag kind after} (known : Kind.ofText tag = .ok kind)
      (once : ∀ member ∈ before ++ after, member.name ≠ "kind".toList) :
      Told (.object (before ++ ⟨"kind", .string tag⟩ :: after)) kind (.named (before ++ after))

theorem kindReads {tag : Text} {kind : Kind} (known : Kind.ofText tag = .ok kind) :
    Reads (fun _ => Kind.reader) (.string tag) kind := ((textReads .tag tag).refined known).placed

theorem toldSteps {before after : List Member} {tag : Text} {kind : Kind} (known : Kind.ofText tag = .ok kind)
    (once : ∀ member ∈ before ++ after, member.name ≠ "kind".toList) (depth : Nat) :
    Steps (Atomic.taggedMember depth) depth (none, []) (before ++ ⟨"kind", .string tag⟩ :: after)
      (some kind, before ++ after) := by
  have kept {found : Option Kind} {list : List Member} (others : ∀ member ∈ list, member.name ≠ "kind".toList)
      (held : List Member) : Steps (Atomic.taggedMember depth) depth (found, held) list (found, held ++ list) := by
    refine keptMembers (fun held => (found, held)) (fun held member inside => ?_) fun member _ => anyReads member.value
    rw [Atomic.taggedMember, if_neg (others member inside)]
  obtain ⟨others, othersLater⟩ := List.forall_mem_append.mp once
  refine (kept others []).append (.cons ?_ (kept othersLater before))
  exact (kindReads known).afterColon (fun kind => (some kind, before)) depth

theorem toldItems {tag : Text} {kind : Kind} (known : Kind.ofText tag = .ok kind) {sources : List Item}
    (spelled : ∀ source ∈ sources, Spells source.text source.value) {values : List Value}
    (tagged : sources.map (·.value) = .string tag :: values) {gap : Text} (blankGap : Blank gap) (depth : Nat)
    (rest : Text) : Outcome
      (Atomic.taggedItems depth (Text.joined [','] (sources.map (·.whole)) ++ (gap ++ ']' :: rest)))
      (kind, .positional values) rest (∀ source ∈ sources, source.value.depth ≤ depth) := by
  cases sources with
  | nil => cases tagged
  | cons source sources =>
    obtain ⟨first, rfl⟩ := List.cons.inj tagged
    have first : source.value = .string tag := first
    obtain ⟨spelledFirst, spelledLater⟩ := List.forall_mem_cons.mp spelled
    have ended := endedBlank source.blankAfter
      (endedFurther (sources.map (·.whole)) (endedBlank blankGap (endedBracket rest).1))
    have flat : source.value.depth ≤ depth := by rw [first]; simp [Value.depth]
    have told := ((kindReads known) [] _ blankNil (first ▸ spelledFirst) depth _ ended).ok (by simp [Value.depth])
    have each : List.Forall₂ (fun item => Reads anyValue item.value) sources (sources.map (·.value)) :=
      List.forall₂_map_right_iff.mpr (List.forall₂_same.mpr fun item _ => anyReads item.value)
    have later := (furtherItemsRead each spelledLater source.blankAfter blankGap depth rest).through
      (Reading.map fun values => (kind, Contents.positional values)) rfl fun _ => rfl
    rw [List.map_cons, joinedCons, List.append_assoc, Item.whole, List.append_assoc, List.append_assoc]
    rw [Atomic.taggedItems, nextItemFirst (spelledStarts spelledFirst) source.blankBefore]
    rw [List.nil_append] at told
    simp only [told]
    exact later.congr (by simp [flat])

theorem taggedMembersForm (depth : Nat) (text : Text) : Atomic.taggedMembers depth text =
    (members (Atomic.taggedMember depth) (none, []) true text).refine fun draft =>
      draft.1.elim (.error (.missingField "kind")) fun kind => .ok (kind, .named draft.2) := by
  unfold Atomic.taggedMembers
  congr 1
  funext draft
  obtain ⟨kind, held⟩ := draft
  cases kind <;> rfl

theorem toldReads {source : Value} {kind : Kind} {contents : Contents} (told : Atomic.Told source kind contents) :
    Reads Atomic.tagged source (kind, contents) := by
  cases told with
  | @items tag kind values known =>
    intro before text blank spelled depth rest ended
    have opens : 0 < (Value.array (.string tag :: values)).depth := by simp [Value.depth]
    generalize held : Value.array (.string tag :: values) = source at *
    cases spelled with
    | number _ names => cases names <;> cases held
    | @array sources gap spelled blankGap =>
      have form : (Atomic.tagged depth).read (before ++
          ('[' :: (Text.joined [','] (sources.map (·.whole)) ++ (gap ++ [']'])) ++ rest)) = opening depth '['
            (Text.joined [','] (sources.map (·.whole)) ++ (gap ++ ']' :: rest)) Atomic.taggedItems := by
        simp [Atomic.tagged, skipsTo blank (show isBlank '[' = false from rfl)]
      rw [form]
      refine openingRead opens depth '[' fun below => ?_
      have read := toldItems known spelled (Value.array.inj held).symm blankGap below rest
      exact read.congr List.forall_mem_map
    | _ => cases held
  | @members before tag kind after known once =>
    refine objectReads (Reading.refine fun draft => draft.1.elim (.error (.missingField "kind")) fun kind =>
      .ok (kind, .named draft.2)) (fun _ => rfl) (fun _ => rfl) ?_ (toldSteps known once)
    intro blank only depth text
    have opened : (Atomic.tagged depth).read (blank ++ '\x7b' :: text) =
        opening depth '\x7b' text Atomic.taggedMembers := by
      simp [Atomic.tagged, skipsTo only (show isBlank '\x7b' = false from rfl)]
    rw [opened]
    exact congrArg (opening depth '\x7b' text) (funext fun below => funext (taggedMembersForm below))

theorem kindAccepts :
    Accepts Kind.reader fun source kind => ∃ tag, source = .string tag ∧ Kind.ofText tag = .ok kind := by
  intro text kind rest read
  obtain ⟨before, piece, source, blank, spelled, split, tag, same, known⟩ :=
    (textAccepts .tag).refined.placed _ _ _ read
  exact ⟨before, piece, source, blank, spelled, split, tag, same, known⟩

inductive Atomic.TookTag (bound : Nat) : Draft → Member → Draft → Prop where
  | kind {held tag kind} (known : Kind.ofText tag = .ok kind) :
      TookTag bound (none, held) ⟨"kind", .string tag⟩ (some kind, held)
  | other {found held member} (other : member.name ≠ "kind".toList) (shallow : member.value.depth ≤ bound) :
      TookTag bound (found, held) member (found, held ++ [member])

theorem tagTook (bound : Nat) (draft : Atomic.Draft) (name : Text) : AcceptsMember
    (Atomic.taggedMember bound draft name) fun source next => Atomic.TookTag bound draft ⟨name, source⟩ next := by
  obtain ⟨found, held⟩ := draft
  unfold Atomic.taggedMember
  split
  · next isKind =>
    subst isKind
    cases found with
    | some kind => exact fun _ _ _ read => nomatch read
    | none =>
      refine (kindAccepts.afterColon _).imp ?_
      rintro _ _ ⟨kind, ⟨tag, rfl, known⟩, rfl⟩
      exact .kind known
  · next other =>
    refine ((anyAccepts bound).afterColon _).imp ?_
    rintro _ _ ⟨value, ⟨rfl, shallow⟩, rfl⟩
    exact .other other shallow

theorem ranTagged {bound : Nat} {kind : Kind} {held list : List Member} {final : Atomic.Draft}
    (ran : Ran (Atomic.TookTag bound) (some kind, held) list final) : final = (some kind, held ++ list) ∧
      ∀ member ∈ list, member.name ≠ "kind".toList ∧ member.value.depth ≤ bound := by
  generalize start : (some kind, held) = state at ran
  induction ran generalizing held with
  | nil => simp [start]
  | cons took _ ih =>
    cases took with
    | kind => cases start
    | other other shallow =>
      cases start
      obtain ⟨rfl, later⟩ := ih rfl
      exact ⟨by simp, List.forall_mem_cons.mpr ⟨⟨other, shallow⟩, later⟩⟩

theorem ranTold {bound : Nat} {kind : Kind} {held found list : List Member}
    (ran : Ran (Atomic.TookTag bound) (none, held) list (some kind, found)) : ∃ before tag after,
      list = before ++ ⟨"kind", .string tag⟩ :: after ∧ found = held ++ (before ++ after) ∧
        Kind.ofText tag = .ok kind ∧
          ∀ member ∈ before ++ after, member.name ≠ "kind".toList ∧ member.value.depth ≤ bound := by
  generalize start : ((none, held) : Atomic.Draft) = state at ran
  generalize stop : ((some kind, found) : Atomic.Draft) = final at ran
  induction ran generalizing held with
  | nil => cases start; cases stop
  | cons took later ih =>
    cases took with
    | @kind _ tag _ known =>
      cases start
      obtain ⟨same, others⟩ := ranTagged later
      cases stop.trans same
      exact ⟨[], tag, _, rfl, by simp, known, by simpa using others⟩
    | other other shallow =>
      cases start
      obtain ⟨before, tag, after, rfl, rfl, known, others⟩ := ih rfl stop
      exact ⟨_ :: before, tag, after, rfl, by simp, known, List.forall_mem_cons.mpr ⟨⟨other, shallow⟩, others⟩⟩

theorem taggedAccepts (depth : Nat) : Accepts (Atomic.tagged depth) fun source told =>
    source.depth ≤ depth ∧ Atomic.Told source told.1 told.2 := by
  rintro text ⟨kind, contents⟩ rest read
  simp only [Atomic.tagged] at read
  split at read
  · cases read
  · next c tail skipped =>
    obtain ⟨before, blank, rfl⟩ := blanksBefore skipped
    split at read
    · next isArray =>
      cases depth with
      | zero => cases read
      | succ below =>
        have read := Reading.placedOk read
        unfold Atomic.taggedItems at read
        split at read
        · cases read
        · cases read
        · next start next =>
          split at read
          · next kind' left foundKind =>
            obtain ⟨values, found, same⟩ := Reading.mapOk read
            cases same
            obtain ⟨sources, further, spelled, held⟩ := itemsAccepted (anyAccepts below) found
            obtain ⟨rfl, shallow⟩ := keptItems held
            obtain ⟨inner, piece, _, only, spelledFirst, rfl, tag, rfl, known⟩ := kindAccepts _ _ _ foundKind
            obtain ⟨item, isTag, lists, spelled⟩ := itemAccepted next only spelledFirst further spelled
            obtain ⟨piece, whole, split⟩ := arraySpelled lists spelled
            rw [List.map_cons, isTag] at whole
            refine ⟨before, piece, _, blank, whole, by rw [isArray, split], Value.depthLe.mpr ?_, .items known⟩
            exact List.forall_mem_cons.mpr ⟨by simp [Value.depth], shallow⟩
          · cases read
          · cases read
    · split at read
      · next isObject =>
        cases depth with
        | zero => cases read
        | succ below =>
          obtain ⟨⟨found, held⟩, readMembers, told⟩ := Reading.refineOk (Reading.placedOk read)
          obtain ⟨entries, lists, spelled, ran⟩ := membersAccepted (tagTook below) readMembers
          obtain ⟨piece, whole, split⟩ := objectSpelled lists spelled
          cases found with
          | none => cases told
          | some kind =>
            cases told
            obtain ⟨front, tag, after, same, rfl, known, others⟩ := ranTold ran
            rw [same] at whole
            obtain ⟨shallow, shallowLater⟩ := List.forall_mem_append.mp fun member inside => (others member inside).2
            refine ⟨before, piece, _, blank, whole, by rw [isObject, split], Value.depthLe.mpr ?_,
              .members known fun member inside => (others member inside).1⟩
            refine List.forall_mem_map.mpr (List.forall_mem_append.mpr ⟨shallow, List.forall_mem_cons.mpr ⟨?_, ?_⟩⟩)
            · simp [Value.depth]
            · exact shallowLater
      · cases read

/- What the readers have told is what the decoders find. -/

theorem kindUndeclared (kind : Kind) : ∀ row ∈ kind.record.rows, "kind".toList ≠ row.name := by
  cases kind <;> simp [Kind.record, Record.rows]

theorem onlyBetween {before after : List Member} {member : Member}
    (once : ∀ other ∈ before ++ after, other.name ≠ member.name) : Only (before ++ member :: after) member := by
  obtain ⟨others, othersLater⟩ := List.forall_mem_append.mp once
  rw [Only, List.filter_append, noneNamed others, List.filter_cons_of_pos (by simp), noneNamed othersLater]
  rfl

theorem kindFound {members : List Member} {tag : Value} {kind : Kind} (only : Only members ⟨"kind", tag⟩)
    (known : Kind.ofValue tag = .ok kind) :
    Atomic.ofValue (.object members) = Atomic.ofContents kind (.named members) := by
  have found (missing : Checked Kind) : Contents.memberField members "kind" missing
      (fun value _ => Kind.ofValue value) = .ok kind := memberFieldFound only fun _ => known
  rw [Atomic.ofValue, found]
  rfl

theorem ofValueTold {source : Value} {kind : Kind} {contents : Contents} (told : Atomic.Told source kind contents) :
    Atomic.ofValue source = Atomic.ofContents kind contents := by
  cases told with
  | @items tag _ values known =>
    have known : Kind.ofValue (.string tag) = .ok kind := known
    rw [Atomic.ofValue, known]
    rfl
  | @members before tag _ after known once =>
    have member : Only (before ++ ⟨"kind", .string tag⟩ :: after) ⟨"kind", .string tag⟩ := onlyBetween once
    rw [kindFound member known]
    exact undeclaredIgnored (.contents kind) (kindUndeclared kind) before after

inductive TypeUnion.Told : Value → Prop where
  | array {items} (each : ∀ item ∈ items, ∃ kind contents, Atomic.Told item kind contents) : Told (.array items)

structure Decodes {α : Type} (decode : Text → Except ReadError α) (text : Text) (found : Except Refusal α) : Prop where
  ok {result} : found = .ok result → decode text = .ok result
  refused {refusal} : found = .error refusal → ∃ place, decode text = .error ⟨.refused refusal, place⟩

theorem atomicRead {source : Value} {kind : Kind} {contents : Contents} (told : Atomic.Told source kind contents)
    {atomic : Atomic} (decoded : Atomic.ofValue source = .ok atomic) : Reads Atomic.reader source atomic :=
  (toldReads told).refined ((ofValueTold told).symm.trans decoded)

theorem atomicRefused {source : Value} {kind : Kind} {contents : Contents} (told : Atomic.Told source kind contents)
    {refusal : Refusal} (failed : Atomic.ofValue source = .error refusal) : Refuses Atomic.reader source refusal :=
  (toldReads told).refused ((ofValueTold told).symm.trans failed)

theorem membersReads {items : List Value} (each : ∀ item ∈ items, ∃ kind contents, Atomic.Told item kind contents)
    {atomics : List Atomic} (decoded : (Value.array items).list (fun item _ => Atomic.ofValue item) = .ok atomics) :
    Reads (listOf Atomic.reader) (.array items) atomics := by
  refine listReads (((List.forall₂_and_left _ _).mpr ⟨each, listOkIff.mp decoded⟩).imp ?_)
  rintro item atomic ⟨⟨kind, contents, told⟩, decoded⟩
  exact atomicRead told decoded

theorem unionDecodes {text : Text} {source : Value} (told : TypeUnion.Told source) (spelled : Document text source)
    (fits : source.depth ≤ nestingLimit) : Decodes TypeUnion.decode text (TypeUnion.ofValue source) := by
  cases told with
  | @array items each =>
    rw [TypeUnion.ofValue]
    cases found : (Value.array items).list (fun item _ => Atomic.ofValue item) with
    | ok atomics =>
      have reads := membersReads each found
      exact ⟨fun made => (decodeDocument (reads.refined made) spelled).1 fits,
        fun failed => decodeRefused (reads.refused failed) spelled fits⟩
    | error first =>
      have refuses : Refuses (listOf Atomic.reader) (.array items) first := by
        refine listRefuses (listRefused (fun item inside atomic decoded => ?_) (fun item inside failed => ?_) found)
        · obtain ⟨kind, contents, told⟩ := each item inside
          exact ⟨atomic, atomicRead told decoded⟩
        · obtain ⟨kind, contents, told⟩ := each item inside
          exact atomicRefused told failed
      refine ⟨fun made => (nomatch made), fun failed => ?_⟩
      cases failed
      exact decodeRefused (refuses.refined _) spelled fits

theorem atomicAccepts (depth : Nat) : Accepts (Atomic.reader depth) fun source atomic => source.depth ≤ depth ∧
    (∃ kind contents, Atomic.Told source kind contents) ∧ Atomic.ofValue source = .ok atomic := by
  refine (taggedAccepts depth).refined.imp ?_
  rintro source atomic ⟨⟨kind, contents⟩, ⟨fits, told⟩, decoded⟩
  exact ⟨fits, ⟨kind, contents, told⟩, (ofValueTold told).trans decoded⟩

theorem unionAccepts (depth : Nat) : Accepts (TypeUnion.reader depth) fun source union =>
    source.depth ≤ depth ∧ TypeUnion.Told source ∧ TypeUnion.ofValue source = .ok union := by
  refine (listOfAccepts atomicAccepts depth).refined.imp ?_
  rintro source union ⟨atomics, ⟨fits, items, rfl, held⟩, made⟩
  obtain ⟨each, found⟩ := (List.forall₂_and_left _ _).mp held
  refine ⟨fits, .array each, ?_⟩
  rw [TypeUnion.ofValue, listOkIff.mpr found]
  exact made

theorem unionSpelled {text : Text} {union : TypeUnion} (decoded : TypeUnion.decode text = .ok union) :
    ∃ source, Document text source := by
  obtain ⟨source, spelled, _⟩ := decodeAccepted (unionAccepts nestingLimit) decoded
  exact ⟨source, spelled⟩

theorem unionAccepted {text : Text} {union : TypeUnion} (decoded : TypeUnion.decode text = .ok union) {source : Value}
    (spelled : Document text source) :
    source.depth ≤ nestingLimit ∧ TypeUnion.Told source ∧ TypeUnion.ofValue source = .ok union := by
  obtain ⟨_, accepted, holds⟩ := decodeAccepted (unionAccepts nestingLimit) decoded
  cases documentUnique spelled accepted
  exact holds

end TypeLens
