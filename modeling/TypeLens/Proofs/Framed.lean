import TypeLens.Proofs.Layout
import TypeLens.Proofs.Key
import TypeLens.Proofs.Traced

/-! The frame of a reported type. No rendering begins or ends with a new line of its own, so that the new lines that
are stripped from a report are those of its frame; a report without a frame stands on the line of its header. -/
namespace TypeLens

open Rendering

structure Edged (text : Text) : Prop where
  front : text.head? ≠ some '\n'
  back : text.getLast? ≠ some '\n'

namespace Edged

variable {text next : Text}

theorem ofLine (line : '\n' ∉ text) : Edged text :=
  ⟨fun first => line (List.mem_of_head? first), fun last => line (List.mem_of_getLast? last)⟩

theorem append (edged : Edged text) (then_ : Edged next) : Edged (text ++ next) := by
  constructor
  · rw [List.head?_append, Ne, Option.or_eq_some_iff]
    rintro (first | ⟨-, first⟩)
    · exact edged.front first
    · exact then_.front first
  · rw [List.getLast?_append, Ne, Option.or_eq_some_iff]
    rintro (last | ⟨-, last⟩)
    · exact then_.back last
    · exact edged.back last

theorem between {start stop : Text} (inside : Text) (begins : start ≠ []) (front : start.head? ≠ some '\n')
    (ends : stop ≠ []) (back : stop.getLast? ≠ some '\n') : Edged (start ++ inside ++ stop) := by
  constructor
  · rwa [List.append_assoc, List.head?_append_of_ne_nil _ begins]
  · rwa [List.getLast?_append_of_ne_nil _ ends]

theorem joined {separator : Text} (separates : Edged separator) {texts : List Text}
    (each : ∀ text ∈ texts, Edged text) : Edged (Text.joined separator texts) := by
  have further {texts : List Text} (each : ∀ text ∈ texts, Edged text) : Edged (texts.flatMap (separator ++ ·)) := by
    induction texts with
    | nil => exact .ofLine List.not_mem_nil
    | cons text texts ih =>
      obtain ⟨first, later⟩ := List.forall_mem_cons.mp each
      exact (separates.append first).append (ih later)
  cases texts with
  | nil => exact .ofLine List.not_mem_nil
  | cons text texts =>
    obtain ⟨first, later⟩ := List.forall_mem_cons.mp each
    rw [Text.joinedCons]
    exact first.append (further later)

theorem kept (front : text.head? ≠ some '\n') : text.dropWhile (· = '\n') = text := by
  cases text with
  | nil => rfl
  | cons c rest => exact List.dropWhile_cons_of_neg (by simpa using front)

theorem keptBack (edged : Edged text) : text.reverse.dropWhile (· = '\n') = text.reverse := by
  refine kept ?_
  rw [List.head?_reverse]
  exact edged.back

theorem stripped (edged : Edged text) : text.strip (· = '\n') = text := by
  rw [Text.strip, kept edged.front, edged.keptBack, List.reverse_reverse]

theorem unframed (edged : Edged text) : Text.strip (· = '\n') ('\n' :: (text ++ ['\n'])) = text := by
  rw [Text.strip, List.dropWhile_cons_of_pos (by decide)]
  cases text with
  | nil => rfl
  | cons c rest =>
    have front : (c :: rest ++ ['\n']).head? ≠ some '\n' := edged.front
    rw [kept front, List.reverse_append, List.reverse_singleton, List.singleton_append,
      List.dropWhile_cons_of_pos (by decide), edged.keptBack, List.reverse_reverse]

end Edged

namespace Part

def Edges (lookup : Lookup) (level : Nat) : Part → Prop
  | ofUnion union => Edged (union.render lookup level)
  | ofAtomic atomic => Edged (atomic.render lookup level)
  | ofSignature signature => ∀ name : Text, '\n' ∉ name → Edged (signature.render lookup level name)
  | ofClassRef object => Edged (object.render lookup level)
  | _ => True

section
variable {lookup : Lookup} {level : Nat}

theorem unionEdges {union : TypeUnion} (inner : ∀ child ∈ (ofUnion union).children, child.Edges lookup level) :
    Edged (union.render lookup level) := by
  rw [TypeUnion.renderForm]
  refine Edged.joined (.ofLine (by simp)) fun text among => ?_
  obtain ⟨atomic, member, rfl⟩ := List.mem_map.mp among
  exact inner (ofAtomic atomic) (List.mem_map_of_mem member)

theorem signatureEdges {signature : Signature}
    (inner : ∀ child ∈ (ofSignature signature).children, child.Edges lookup level) {name : Text}
    (line : '\n' ∉ name) : Edged (signature.render lookup level name) := by
  obtain ⟨params, returnType, isPure⟩ := signature
  have front : Edged ((if isPure then "pure-" else "").toList ++ name ++ "(".toList) := by
    refine .ofLine ?_
    cases isPure <;> simp [line]
  have whole := Edged.between (Text.joined ", " (params.map (·.render lookup level))) (by simp) front.front
    (List.cons_ne_nil ')' ": ".toList) (by simp)
  cases returnType with
  | none =>
    rw [Signature.render]
    exact whole.append (.ofLine (by simp))
  | some type =>
    rw [Signature.render]
    exact whole.append (inner (ofUnion type) (by simp [children]))

theorem classRefEdges {object : ClassRef} (lines : ∀ text ∈ (ofClassRef object).displayed lookup, '\n' ∉ text)
    (inner : ∀ child ∈ (ofClassRef object).children, child.Edges lookup level) :
    Edged (object.render lookup level) := by
  have name : Edged (className lookup object.classId) := .ofLine (lines _ (classNameDisplayed object))
  obtain ⟨classId, typeArgs, intersection⟩ := object
  rw [ClassRef.render]
  refine Edged.joined (.ofLine (by simp)) (List.forall_mem_cons.mpr ⟨?_, fun text among => ?_⟩)
  · cases typeArgs with
    | nil => exact name
    | cons type typeArgs =>
      have opened : Edged (className lookup classId ++ "<".toList) := name.append (.ofLine (by simp))
      exact Edged.between _ (by simp) opened.front (by simp) (by simp)
  · obtain ⟨atomic, member, rfl⟩ := List.mem_map.mp among
    exact inner (ofAtomic atomic) (List.mem_append_right _ (List.mem_map_of_mem member))

theorem shapeEdges (shape : Shape) : Edged (shape.render lookup level) := by
  obtain ⟨isList, fields⟩ := shape
  have braces (inside : Text) : Edged ("array\x7b".toList ++ inside ++ "\x7d".toList) :=
    .between inside (by simp) (by simp) (by simp) (by simp)
  rw [Shape.render]
  cases fields with
  | nil => exact braces []
  | cons field fields =>
    cases isList with
    | true => exact braces _
    | false =>
      have lines := braces ("\n".toList ++ Text.joined ",\n" ((field :: fields).map (·.render lookup level)) ++
        ",\n".toList ++ tabs (level - 1))
      simpa using lines

theorem atomicEdges {atomic : Atomic} (lines : ∀ text ∈ (ofAtomic atomic).displayed lookup, '\n' ∉ text)
    (inner : ∀ child ∈ (ofAtomic atomic).children, child.Edges lookup level) :
    Edged (atomic.render lookup level) := by
  have mark {text : Text} (line : '\n' ∉ text) : Edged text := .ofLine line
  cases atomic with
  | list element nonEmpty =>
    have element : Edged (element.render lookup level) := inner _ List.mem_cons_self
    rw [Atomic.render]
    exact (((mark (by cases nonEmpty <;> simp)).append (mark (by simp))).append element).append (mark (by simp))
  | array key value nonEmpty =>
    have key : Edged (key.render lookup level) := inner _ List.mem_cons_self
    have value : Edged (value.render lookup level) := inner _ (List.mem_cons_of_mem _ List.mem_cons_self)
    rw [Atomic.render]
    exact (((((mark (by cases nonEmpty <;> simp)).append (mark (by simp))).append key).append (mark (by simp))).append
      value).append (mark (by simp))
  | iterable key value =>
    have key : Edged (key.render lookup level) := inner _ List.mem_cons_self
    have value : Edged (value.render lookup level) := inner _ (List.mem_cons_of_mem _ List.mem_cons_self)
    rw [Atomic.render]
    exact ((((mark (by simp)).append key).append (mark (by simp))).append value).append (mark (by simp))
  | closure signature | callable signature =>
    have signature : (ofSignature signature).Edges lookup level := inner _ List.mem_cons_self
    rw [Atomic.render]
    exact signature _ (by simp)
  | classString bound =>
    cases bound with
    | none =>
      rw [Atomic.render]
      exact mark (by simp)
    | some bound =>
      have bound : Edged (bound.render lookup level) := inner _ List.mem_cons_self
      rw [Atomic.render]
      exact ((mark (by simp)).append bound).append (mark (by simp))
  | named object =>
    rw [Atomic.render]
    exact inner (ofClassRef object) List.mem_cons_self
  | shape shape =>
    rw [Atomic.render]
    exact shapeEdges shape
  | templateParam name definingClass constraint =>
    have constraint : Edged (constraint.render lookup level) := inner _ List.mem_cons_self
    have owner := mark (lines (ownerName lookup definingClass) (by simp [displayed]))
    rw [Atomic.render]
    exact (((mark (by simp)).append owner).append (mark (by simp))).append constraint
  | plain id =>
    rw [Atomic.render]
    exact mark (lines id (by simp [displayed]))

theorem partEdges {part : Part} (lines : ∀ text ∈ part.displayed lookup, '\n' ∉ text) : part.Edges lookup level := by
  induction part using Part.induct with
  | step part ih =>
    have inner : ∀ child ∈ part.children, child.Edges lookup level := fun child inside =>
      ih child inside fun text shown => lines text (childDisplayed inside shown)
    cases part with
    | ofUnion => exact unionEdges inner
    | ofAtomic => exact atomicEdges lines inner
    | ofSignature => exact fun name line => signatureEdges inner line
    | ofClassRef => exact classRefEdges lines inner
    | ofParam | ofShape | ofField => trivial

end
end Part

namespace Diagnostic

variable {report : Diagnostic}

theorem displayBlock (block : report.isBlock) : report.display = report.header ++ '\n' :: report.body := by
  rw [display, if_pos block]
  simp

theorem displayInline (inline : ¬report.isBlock) : report.display = report.header ++ ' ' :: report.body := by
  rw [display, if_neg inline]
  simp

theorem bodyWhole (edged : Edged report.message) : report.body = report.message := edged.stripped

theorem headerLine (report : Diagnostic) : '\n' ∉ report.header := by
  have digits (n : Nat) : '\n' ∉ Text.ofNat n := by
    intro among
    have digit : Char.isDigit '\n' := Text.digitOfNat among
    revert digit
    decide
  have severity : '\n' ∉ report.kind.severity.name := by cases report.kind <;> decide
  have title : '\n' ∉ report.kind.title := by cases report.kind <;> decide
  simp only [header, Span.text, List.mem_append, not_or]
  refine ⟨⟨⟨⟨⟨severity, by decide⟩, title⟩, by decide⟩, ⟨digits _, by decide⟩, digits _⟩, by decide⟩

end Diagnostic

namespace Probe

variable {probe : Probe} {site : Site}

theorem reportOf {report : Diagnostic} (reported : probe.inspect site = some report) : report = probe.report site := by
  rw [inspectForm] at reported
  split at reported
  · exact (Option.some.inj reported).symm
  · cases reported

def TypeTold (site : Site) : Prop := (site.kind = .assign ∨ site.kind = .returned) ∧ ∃ type, site.type = some type

theorem typeReport {type : TypeUnion} (told : TypeTold site) (known : site.type = some type) :
    (probe.report site).message = type.framed probe.lookup := by
  have inspected : site.kind.isInspectable := by rcases told.1 with kind | kind <;> rw [kind] <;> rfl
  rw [report, if_pos inspected, known]
  rfl

theorem otherReport (untold : ¬TypeTold site) : (probe.report site).message = unknownMessage ∨
    (probe.report site).message = ignoredMessage probe.marker := by
  cases kind : site.kind with
  | other =>
    right
    simp [report, kind, SiteKind.isInspectable]
  | assign | returned =>
    have unknown : site.type = none := by
      rw [Option.eq_none_iff_forall_ne_some]
      exact fun type known => untold ⟨by simp [kind], type, known⟩
    left
    simp [report, kind, SiteKind.isInspectable, unknown, typeMessage]

theorem otherEdged (untold : ¬TypeTold site) : Edged (probe.report site).message := by
  rcases @otherReport probe site untold with same | same
  · rw [same]
    exact .ofLine (by decide)
  · rw [same, ignoredMessage]
    exact .between probe.marker (by simp) (by simp) (by simp) (by decide +kernel)

theorem otherLine (untold : ¬TypeTold site) (line : '\n' ∉ probe.marker) : '\n' ∉ (probe.report site).message := by
  rcases @otherReport probe site untold with same | same
  · rw [same]
    decide
  · rw [same, ignoredMessage]
    simp [line]

theorem blockIff : (probe.report site).isBlock ↔ TypeTold site := by
  constructor
  · intro block
    by_contra untold
    exact (otherEdged untold).front (of_decide_eq_true block)
  · intro told
    obtain ⟨type, known⟩ := told.2
    rw [Diagnostic.isBlock, typeReport told known]
    rfl

theorem typeBody {type : TypeUnion} (told : TypeTold site) (known : site.type = some type)
    (lines : ∀ text ∈ (Part.ofUnion type).displayed probe.lookup, '\n' ∉ text) :
    (probe.report site).body = type.render probe.lookup 1 := by
  have edged : Edged (type.render probe.lookup 1) := @Part.partEdges probe.lookup 1 (.ofUnion type) lines
  rw [Diagnostic.body, typeReport told known]
  exact edged.unframed

end Probe

open TypeLens.Part

theorem framingUndone {probe : Probe} {site : Site} {report : Diagnostic}
    (reported : probe.inspect site = some report) :
    (report.isBlock ↔ (site.kind = .assign ∨ site.kind = .returned) ∧ ∃ type, site.type = some type) ∧
      '\n' ∉ report.header ∧
        (∀ type, report.isBlock → site.type = some type →
          (∀ text ∈ (ofUnion type).displayed probe.lookup, '\n' ∉ text) →
            report.body = type.render probe.lookup 1 ∧
              report.display = report.header ++ '\n' :: type.render probe.lookup 1) ∧
          (¬report.isBlock → report.display = report.header ++ ' ' :: report.message ∧
            ('\n' ∉ probe.marker → '\n' ∉ report.display)) := by
  have same := Probe.reportOf reported
  subst same
  refine ⟨Probe.blockIff, Diagnostic.headerLine _, ?_, ?_⟩
  · intro type block known lines
    have body := Probe.typeBody (Probe.blockIff.mp block) known lines
    exact ⟨body, body ▸ Diagnostic.displayBlock block⟩
  · intro inline
    have untold := mt Probe.blockIff.mpr inline
    have display := Diagnostic.displayInline inline
    rw [Diagnostic.bodyWhole (Probe.otherEdged untold)] at display
    refine ⟨display, fun line => ?_⟩
    rw [display, List.mem_append, List.mem_cons, not_or, not_or]
    exact ⟨Diagnostic.headerLine _, by decide, Probe.otherLine untold line⟩

/- A record behind a marker that is heeded, and a marker that is not. -/

def emptyProbe : Probe := ⟨fun _ => none, Probe.defaultMarker⟩

theorem markedReported (kind : SiteKind) (type : Option TypeUnion) :
    emptyProbe.inspect (marked kind type) = some (emptyProbe.report (marked kind type)) := by
  rw [Probe.inspectForm, if_pos]
  exact markedSites kind type

theorem layeredUnframed :
    (∃ report, emptyProbe.inspect (marked .assign (some layered)) = some report ∧ report.isBlock ∧
      (∀ text ∈ (ofUnion layered).displayed emptyProbe.lookup, '\n' ∉ text) ∧
        report.display = "info[Trace] at 4..9:\narray\x7barray\x7b\n\t\ta: int,\n\t\x7d\x7d") ∧
      ∃ report, emptyProbe.inspect (marked .other none) = some report ∧ ¬report.isBlock ∧
        '\n' ∉ emptyProbe.marker ∧ report.display = report.header ++ ' ' :: report.message ∧ '\n' ∉ report.display := by
  constructor
  · obtain ⟨blockIff, -, told, -⟩ := framingUndone (markedReported .assign (some layered))
    have block := blockIff.mpr ⟨.inl rfl, layered, rfl⟩
    have lines : ∀ text ∈ (ofUnion layered).displayed emptyProbe.lookup, '\n' ∉ text := by simp [layeredDisplayed]
    refine ⟨_, markedReported _ _, block, lines, ?_⟩
    rw [(told layered block rfl lines).2, layeredRendered]
    decide +kernel
  · obtain ⟨blockIff, -, -, inline⟩ := framingUndone (markedReported .other none)
    have unframed := mt blockIff.mp (by simp [marked])
    have line : '\n' ∉ emptyProbe.marker := by decide +kernel
    exact ⟨_, markedReported _ _, unframed, line, (inline unframed).1, (inline unframed).2 line⟩

end TypeLens
