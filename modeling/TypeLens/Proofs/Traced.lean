import TypeLens.Command.Run
import TypeLens.Proofs.RoundTrip

/-! What a trace reports, and what it depends on: the marked sites, in their order, and of them no more than the
extents, whether they are inspected, and the types of those that are. -/
namespace TypeLens

open Json TypeLens.Command

namespace Site

def MarkedBy (marker : Text) (site : Site) : Prop := marker ≠ [] ∧ ∃ comment ∈ site.docComment, marker <:+: comment

theorem hasMarkerIff {marker : Text} {site : Site} :
    Probe.hasMarker marker site.docComment ↔ site.MarkedBy marker := by
  cases comment : site.docComment <;> simp [Probe.hasMarker, MarkedBy, Text.occursInIff, comment]

instance (marker : Text) : DecidablePred (MarkedBy marker) := fun _ => decidable_of_iff _ hasMarkerIff

def Passive (site : Site) : Prop := site.kind ≠ .assign ∧ site.kind ≠ .returned

instance : DecidablePred Passive := fun _ => instDecidableAnd

theorem passiveIff {site : Site} : site.Passive ↔ site.kind.isInspectable = false := by
  cases kind : site.kind <;> simp [Passive, SiteKind.isInspectable, kind]

inductive SeenAlike : Site → Site → Prop where
  | inspected {site site' : Site} (active : ¬site.Passive) (active' : ¬site'.Passive) (span : site.span = site'.span)
      (type : site.type = site'.type) : SeenAlike site site'
  | ignored {site site' : Site} (passive : site.Passive) (passive' : site'.Passive) (span : site.span = site'.span) :
      SeenAlike site site'

end Site

namespace Probe

variable {probe : Probe}

def report (probe : Probe) (site : Site) : Diagnostic :=
  if site.kind.isInspectable then ⟨.trace, site.span, typeMessage probe.lookup site.type⟩
  else ⟨.ignoredMarker, site.span, ignoredMessage probe.marker⟩

theorem inspectForm (site : Site) :
    probe.inspect site = if site.MarkedBy probe.marker then some (probe.report site) else none := by
  simp only [inspect, isMarked, report, ← Site.hasMarkerIff]
  cases site.kind.isInspectable <;> rfl

theorem inspectAllForm (sites : List Site) :
    probe.inspectAll sites = (sites.filter fun site => site.MarkedBy probe.marker).map probe.report := by
  induction sites with
  | nil => rfl
  | cons site sites ih =>
    rw [inspectAll, List.filterMap_cons, inspectForm, List.filter_cons, ← inspectAll, ih]
    by_cases marked : site.MarkedBy probe.marker <;> simp [marked]

structure Reports (site : Site) (diagnostic : Diagnostic) : Prop where
  span : diagnostic.span = site.span
  warning : diagnostic.isWarning ↔ site.Passive

theorem reportReports (site : Site) : Reports site (probe.report site) := by
  cases inspectable : site.kind.isInspectable with
  | true | false =>
    constructor <;> simp [report, Site.passiveIff, inspectable, Diagnostic.isWarning, DiagnosticKind.severity]

theorem reportAlike {site site' : Site} (alike : site.SeenAlike site') : probe.report site = probe.report site' := by
  cases alike with
  | inspected active active' span type =>
    rw [Site.passiveIff, Bool.not_eq_false] at active active'
    simp only [report, active, active', if_true, span, type]
  | ignored passive passive' span =>
    rw [Site.passiveIff] at passive passive'
    simp [report, passive, passive', span]

theorem inspectAllReports (sites : List Site) :
    List.Forall₂ Reports (sites.filter fun site => site.MarkedBy probe.marker) (probe.inspectAll sites) := by
  rw [inspectAllForm]
  exact List.forall₂_map_right_iff.mpr (List.forall₂_same.mpr fun site _ => reportReports site)

theorem warningsCounted (sites : List Site) : Diagnostic.warningCount (probe.inspectAll sites) =
    (sites.filter fun site => site.MarkedBy probe.marker).countP fun site => site.Passive := by
  rw [inspectAllForm, Diagnostic.warningCount, List.countP_map]
  refine List.countP_congr fun site _ => ?_
  rw [decide_eq_true_iff]
  exact (reportReports site).warning

end Probe

namespace Diagnostic

theorem severityVisible (severity : Severity) : severity.name ≠ [] := by cases severity <;> decide +kernel

theorem displayVisible (diagnostic : Diagnostic) : diagnostic.display ≠ [] := by
  simp [display, header, severityVisible]

theorem joinedVisible {separator text : Text} (visible : text ≠ []) (texts : List Text) :
    Text.joined separator (text :: texts) ≠ [] := by
  rw [Text.joinedCons]
  exact List.append_ne_nil_of_left_ne_nil visible _

theorem paintedVisible (sequence : Source.Style → Text) (current : Text) {row : Source.Row} (visible : row ≠ []) :
    row.paintedAfter sequence current ≠ [] := by
  cases row with
  | nil => exact absurd rfl visible
  | cons cell cells => simp [Source.Row.paintedAfter]

theorem piecesSome (mark : Char) (text : Text) : text.piecesAt mark ≠ [] := by
  cases text with
  | nil => exact List.cons_ne_nil _ _
  | cons c rest =>
    rw [Text.piecesAt]
    split
    · exact List.cons_ne_nil _ _
    · split <;> exact List.cons_ne_nil _ _

theorem headVisible (callout : Source.Callout) : ∃ first more, callout.headRows = first :: more ∧ first ≠ [] := by
  unfold Source.Callout.headRows
  split
  · next none_ => exact absurd none_ (piecesSome _ _)
  · refine ⟨_, _, rfl, ?_⟩
    simp [Source.styled, severityVisible]

theorem calloutVisible (callout : Source.Callout) (source : Text) (path : Option Text) (colored : Bool) :
    callout.render source path colored ≠ [] := by
  obtain ⟨first, more, head, visible⟩ := headVisible callout
  rw [Source.Callout.render, Source.Callout.rows, head]
  exact joinedVisible (paintedVisible _ _ visible) _

theorem printedIff {source path : Option Text} {colored : Bool} {reports : List Diagnostic} :
    printed source path colored reports = [] ↔ reports = [] := by
  cases reports with
  | nil => cases source <;> simp [printed, plain, Text.joined]
  | cons report reports =>
    refine iff_of_false ?_ (List.cons_ne_nil _ _)
    cases source with
    | none => exact joinedVisible (displayVisible report) _
    | some source => exact joinedVisible (calloutVisible _ source path colored) _

end Diagnostic

namespace Command.TraceRequest

def Reads (request : TraceRequest) (inputs : Inputs) (document : TraceInput) (catalog : Catalog)
    (source : Option Text) : Prop :=
  ∃ afterSites afterCatalog rest, inputs.load TraceInput.decode request.sites = .ok (document, afterSites) ∧
    afterSites.loadCatalog request.catalog = .ok (catalog, afterCatalog) ∧
      afterCatalog.readSource request.source = .ok (source, rest)

variable {request request' : TraceRequest} {inputs inputs' : Inputs} {document document' : TraceInput}
  {catalog catalog' : Catalog} {source : Option Text}

theorem runRead (reads : request.Reads inputs document catalog source) :
    let reports := (Probe.mk catalog.resolve request.marker).inspectAll document.sites
    let text := Diagnostic.printed source (document.path <|> request.source) request.color.colored reports
    (Request.trace request).run inputs = ⟨0, if text.isEmpty then text else text ++ "\n", []⟩ := by
  obtain ⟨afterSites, afterCatalog, rest, sites, classes, sourced⟩ := reads
  simp only [Request.run, Request.result, result, sites, classes, sourced, bind, Except.bind]

theorem runSilent (reads : request.Reads inputs document catalog source) :
    ((Request.trace request).run inputs).standard = [] ↔ ∀ site ∈ document.sites, ¬site.MarkedBy request.marker := by
  have ended (text : Text) : (if text.isEmpty then text else text ++ "\n") = [] ↔ text = [] := by
    cases text <;> simp
  rw [runRead reads]
  simp only [ended, Diagnostic.printedIff, Probe.inspectAllForm]
  simp

theorem runAlike (reads : request.Reads inputs document catalog none)
    (reads' : request'.Reads inputs' document' catalog' none) (marker : request.marker = request'.marker)
    (classes : catalog.resolve = catalog'.resolve)
    (alike : List.Forall₂ Site.SeenAlike (document.sites.filter fun site => site.MarkedBy request.marker)
      (document'.sites.filter fun site => site.MarkedBy request.marker)) :
    (Request.trace request).run inputs = (Request.trace request').run inputs' := by
  have reports := mappedEqual alike fun site _ site' seen =>
    @Probe.reportAlike ⟨catalog.resolve, request.marker⟩ site site' seen
  have same := (@Probe.inspectAllForm ⟨catalog.resolve, request.marker⟩ document.sites).trans
    (reports.trans (@Probe.inspectAllForm ⟨catalog.resolve, request.marker⟩ document'.sites).symm)
  rw [runRead reads, runRead reads', ← marker, ← classes, same]
  rfl

end Command.TraceRequest

theorem traceReports :
    (∀ (probe : Probe) (sites : List Site),
      let marked := sites.filter fun site => site.MarkedBy probe.marker
      List.Forall₂ Probe.Reports marked (probe.inspectAll sites) ∧
        Diagnostic.warningCount (probe.inspectAll sites) = marked.countP fun site => site.Passive) ∧
      (∀ (request request' : TraceRequest) (inputs inputs' : Inputs) (document document' : TraceInput)
        (catalog catalog' : Catalog), request.Reads inputs document catalog none →
          request'.Reads inputs' document' catalog' none → request.marker = request'.marker →
            catalog.resolve = catalog'.resolve →
              List.Forall₂ Site.SeenAlike (document.sites.filter fun site => site.MarkedBy request.marker)
                (document'.sites.filter fun site => site.MarkedBy request.marker) →
              (Request.trace request).run inputs = (Request.trace request').run inputs') ∧
        ∀ (request : TraceRequest) (inputs : Inputs) (document : TraceInput) (catalog : Catalog)
          (source : Option Text), request.Reads inputs document catalog source →
            ∃ text, (Request.trace request).run inputs = ⟨0, text, []⟩ ∧
              (text = [] ↔ ∀ site ∈ document.sites, ¬site.MarkedBy request.marker) := by
  refine ⟨?_, ?_, ?_⟩
  · intro probe sites
    exact ⟨Probe.inspectAllReports sites, Probe.warningsCounted sites⟩
  · intro request request' inputs inputs' document document' catalog catalog' reads reads' marker classes alike
    exact TraceRequest.runAlike reads reads' marker classes alike
  · intro request inputs document catalog source reads
    refine ⟨_, TraceRequest.runRead reads, ?_⟩
    rw [← TraceRequest.runSilent reads, TraceRequest.runRead reads]

/- Two documents of one report and one warning each. -/

def TraceInput.toValue (document : TraceInput) : Value :=
  .object [⟨"path", .ofOption .string document.path⟩, ⟨"sites", .array (document.sites.map Site.toValue)⟩]

theorem documentReads {document : TraceInput} (whole : ∀ site ∈ document.sites, site.WellFormed) :
    ReadsBack TraceInput.schema.reader document.toValue document := by
  have path : Reads (fun _ => orNull text) (.ofOption .string document.path) document.path :=
    orNullReads (fun path _ => textReads .text path) (by simp)
  have plainPath : (Value.ofOption Value.string document.path).Plain := Part.optionPlain fun path _ => .string path
  have sites := siteListReads whole
  refine ⟨.object (by simpa using ⟨plainPath, sites.plain⟩), ?_⟩
  refine @Schema.reads _ _ _ _ ⟨some document.path, some document.sites⟩ document (fun depth => ?_) rfl
  refine .cons (Schema.slotRead rfl rfl (path.mapped _) depth) ?_
  exact .cons (Schema.slotRead rfl rfl (sites.reads.mapped _) depth) (.nil _)

def fileOf (text : Text) : Content := .ok (String.ofList text).toUTF8

theorem fileOfText (text : Text) : Inputs.textOf (fileOf text) = .ok text := by
  have valid : String.fromUTF8? (String.ofList text).toUTF8 = some (String.ofList text) :=
    dif_pos (String.ofList text).isValidUTF8
  simp only [Inputs.textOf, fileOf, bind, Except.bind, valid, String.toList_ofList]

theorem readsAlone {request : TraceRequest} {inputs : Inputs} {text : Text} {document : TraceInput}
    (path : request.sites ≠ dash) (classes : request.catalog = none) (source : request.source = none)
    (held : inputs.file request.sites = fileOf text) (decoded : TraceInput.decode text = .ok document) :
    request.Reads inputs document .empty none := by
  refine ⟨inputs, inputs, inputs, ?_, by rw [classes]; rfl, by rw [source]; rfl⟩
  simp only [Inputs.load, Inputs.read, if_neg path, held, fileOfText, bind, Except.bind, Except.mapError, decoded]

def marked (kind : SiteKind) (type : Option TypeUnion) : Site := ⟨kind, some "/** @show-type */", ⟨4, 9⟩, type⟩

def silent : Site := ⟨.assign, some "/** @var int */", ⟨0, 3⟩, none⟩

def assignDocument : TraceInput := ⟨some "a.php", [marked .assign (some number), silent, marked .other none]⟩

def returnDocument : TraceInput :=
  ⟨none, [silent, silent, marked .returned (some number), marked .other (some number)]⟩

def inputsOf (document : TraceInput) : Inputs := ⟨fun _ => fileOf document.toValue.text, .ok .empty⟩

def sitesPath : Text := "sites.json"

def requestOf (color : ColorChoice) : TraceRequest := ⟨sitesPath, none, none, Probe.defaultMarker, color⟩

theorem markedSites (kind : SiteKind) (type : Option TypeUnion) : (marked kind type).MarkedBy Probe.defaultMarker :=
  ⟨by decide +kernel, _, rfl, by decide +kernel⟩

theorem silentUnmarked : ¬silent.MarkedBy Probe.defaultMarker := by decide +kernel

def Numeric (site : Site) : Prop := ∀ type ∈ site.type, type = number

theorem numericNone {site : Site} (none_ : site.type = none) : Numeric site := by simp [Numeric, none_]

theorem numericNumber {site : Site} (some_ : site.type = some number) : Numeric site := by simp [Numeric, some_]

theorem numericWhole {site : Site} (numeric : Numeric site) : site.WellFormed := by
  intro type found
  rw [numeric type found]
  exact numberWellFormed

theorem numericDepth {site : Site} (numeric : Numeric site) : site.toValue.depth ≤ 3 := by
  obtain ⟨kind, comment, span, type⟩ := site
  cases type with
  | none => cases comment <;> simp [Site.toValue, Span.toValue, Value.ofOption, Value.depth]
  | some type =>
    cases numeric type rfl
    cases comment <;> simp [Site.toValue, Span.toValue, Value.ofOption, Value.depth, numberDepth]

theorem numericDocumentDepth {document : TraceInput} (numeric : ∀ site ∈ document.sites, Numeric site) :
    document.toValue.depth ≤ 5 := by
  have sites : (Value.array (document.sites.map Site.toValue)).depth ≤ 3 + 1 := by
    refine Value.depthLe.mpr fun value inside => ?_
    obtain ⟨site, member, rfl⟩ := List.mem_map.mp inside
    exact numericDepth (numeric site member)
  have path : (Value.ofOption Value.string document.path).depth ≤ 4 := by
    cases document.path <;> simp [Value.ofOption, Value.depth]
  exact Value.depthLe.mpr (List.forall_mem_cons.mpr ⟨path, List.forall_mem_singleton.mpr sites⟩)

theorem requestReads {document : TraceInput} (numeric : ∀ site ∈ document.sites, Numeric site) (color : ColorChoice) :
    (requestOf color).Reads (inputsOf document) document .empty none := by
  have elsewhere : sitesPath ≠ dash := by decide +kernel
  have whole : ∀ site ∈ document.sites, site.WellFormed := fun site inside => numericWhole (numeric site inside)
  have shallow : document.toValue.depth ≤ 127 := Nat.le_trans (numericDocumentDepth numeric) (by decide)
  exact readsAlone elsewhere rfl rfl rfl ((decodeText (documentReads whole)).1 shallow)

theorem assignNumeric : ∀ site ∈ assignDocument.sites, Numeric site :=
  List.forall_mem_cons.mpr ⟨numericNumber rfl, List.forall_mem_cons.mpr ⟨numericNone rfl,
    List.forall_mem_singleton.mpr (numericNone rfl)⟩⟩

theorem returnNumeric : ∀ site ∈ returnDocument.sites, Numeric site :=
  List.forall_mem_cons.mpr ⟨numericNone rfl, List.forall_mem_cons.mpr ⟨numericNone rfl,
    List.forall_mem_cons.mpr ⟨numericNumber rfl, List.forall_mem_singleton.mpr (numericNumber rfl)⟩⟩⟩

theorem markedFiltered {marker : Text} {site : Site} {sites : List Site} (marked : site.MarkedBy marker) :
    ((site :: sites).filter fun site => site.MarkedBy marker) =
      site :: sites.filter fun site => site.MarkedBy marker := List.filter_cons_of_pos (decide_eq_true marked)

theorem unmarkedFiltered {marker : Text} {site : Site} {sites : List Site} (unmarked : ¬site.MarkedBy marker) :
    ((site :: sites).filter fun site => site.MarkedBy marker) = sites.filter fun site => site.MarkedBy marker :=
  List.filter_cons_of_neg (by rwa [decide_eq_true_iff])

theorem markedAlike : List.Forall₂ Site.SeenAlike
    (assignDocument.sites.filter fun site => site.MarkedBy Probe.defaultMarker)
    (returnDocument.sites.filter fun site => site.MarkedBy Probe.defaultMarker) := by
  rw [assignDocument, returnDocument, markedFiltered (markedSites _ _), unmarkedFiltered silentUnmarked,
    markedFiltered (markedSites _ _), unmarkedFiltered silentUnmarked, unmarkedFiltered silentUnmarked,
    markedFiltered (markedSites _ _), markedFiltered (markedSites _ _)]
  exact .cons (.inspected (by decide) (by decide) rfl rfl) (.cons (.ignored (by decide) (by decide) rfl) .nil)

theorem sameReports :
    (Request.trace (requestOf .always)).run (inputsOf assignDocument) =
        (Request.trace (requestOf .never)).run (inputsOf returnDocument) ∧
      ((Request.trace (requestOf .always)).run (inputsOf assignDocument)).standard ≠ [] := by
  obtain ⟨-, alike, empty⟩ := traceReports
  have reads := requestReads assignNumeric .always
  have reads' := requestReads returnNumeric .never
  refine ⟨alike _ _ _ _ _ _ _ _ reads reads' rfl rfl markedAlike, ?_⟩
  obtain ⟨text, output, unmarked⟩ := empty _ _ _ _ _ reads
  rw [output]
  intro none_
  exact unmarked.mp none_ _ List.mem_cons_self (markedSites _ _)

end TypeLens
