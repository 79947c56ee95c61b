import TypeLens.Catalog
import TypeLens.Model.Encoding
import TypeLens.Model.Reader
import TypeLens.Site.Basic

/-! Documents of sites and of class declarations. -/
namespace TypeLens

open Json

def required {α : Type} (missing : Text → Refusal) (name : Text) : Option α → Except Refusal α
  | some value => .ok value
  | none => .error (missing name)

namespace Span

structure Draft where
  start : Option UInt64
  stop : Option UInt64

def schema : Schema Draft Span where
  record := .span
  blank := ⟨none, none⟩
  slots := [
    ⟨"start", (·.start.isSome), fun _ => count.map fun value draft => { draft with start := some value }⟩,
    ⟨"end", (·.stop.isSome), fun _ => count.map fun value draft => { draft with stop := some value }⟩]
  complete missing draft := do
    .ok ⟨← required missing "start" draft.start, ← required missing "end" draft.stop⟩

def reader (depth : Nat) : Reader Span := schema.reader depth

def toValue (span : Span) : Value :=
  .object [⟨"start", .integer span.start.toNat⟩, ⟨"end", .integer span.stop.toNat⟩]

end Span

namespace SiteKind

/-- What follows the brace of a kind that is written as an object with one null member. -/
def wrapped (text : Text) : Reading SiteKind :=
  match (textAs .tag).read text with
  | .ok tag rest => match colon rest with
    | .error failure => .failed failure
    | .ok rest => match skipBlanks rest with
      | 'n' :: rest => match spell "ull" rest with
        | .error failure => .failed failure
        | .ok rest => match skipBlanks rest with
          | [] => .failed (.atEnd .object)
          | c :: rest =>
            if c = '\x7d' then .ok (ofText tag) rest
            else .failed (.before (.syntaxFault .noValue) (c :: rest))
      | rest => .failed (mismatch .unit rest)
  | .refused refusal rest => .refused refusal rest
  | .failed failure => .failed failure

theorem wrappedLt {text : Text} {value rest} (h : wrapped text = .ok value rest) : rest.length < text.length := by
  unfold wrapped at h
  split at h
  · next tag left read =>
    have := (textAs .tag).consumes read
    split at h
    · cases h
    · next afterColon found =>
      have := colonLt found
      split at h
      · next tail blank =>
        have := skipBlanksCons blank
        split at h
        · cases h
        · next spelled word =>
          have := spellLe word
          split at h
          · cases h
          · next closing =>
            have := skipBlanksCons closing
            split at h
            · cases h; omega
            · cases h
      · cases h
  · cases h
  · cases h

def reader (depth : Nat) : Reader SiteKind where
  read text :=
    match skipBlanks text with
    | [] => .failed (.atEnd .value)
    | c :: rest =>
      if c = '"' then .ofScan ((characters rest).map fun (tag, rest) => (ofText tag, rest))
      else if c = '\x7b' then
        match depth with
        | 0 => .failed (.ofSyntax .tooDeep (c :: rest))
        | _ + 1 => wrapped rest
      else .failed (.ofSyntax .noValue (c :: rest))
  consumes {text value rest} h := by
    split at h
    · cases h
    · next c tail blank =>
      split at h
      · obtain ⟨_, read, same⟩ := mapOk (Reading.ofScanOk h)
        cases same
        exact Nat.lt_trans (charactersLt read) (skipBlanksCons blank)
      · split at h
        · split at h
          · cases h
          · exact Nat.lt_trans (wrappedLt h) (skipBlanksCons blank)
        · cases h

end SiteKind

namespace Site

structure Draft where
  kind : Option SiteKind
  docComment : Option (Option Text)
  span : Option Span
  type : Option (Option TypeUnion)

def schema : Schema Draft Site where
  record := .site
  blank := ⟨none, none, none, none⟩
  slots := [
    ⟨"kind", (·.kind.isSome), fun depth =>
      (SiteKind.reader depth).map fun value draft => { draft with kind := some value }⟩,
    ⟨"doc_comment", (·.docComment.isSome), fun _ =>
      (orNull text).map fun value draft => { draft with docComment := some value }⟩,
    ⟨"span", (·.span.isSome), fun depth =>
      (Span.reader depth).map fun value draft => { draft with span := some value }⟩,
    ⟨"type", (·.type.isSome), fun depth =>
      (orNull (TypeUnion.reader depth)).map fun value draft => { draft with type := some value }⟩]
  complete missing draft := do
    .ok ⟨← required missing "kind" draft.kind, draft.docComment.join,
      ← required missing "span" draft.span, draft.type.join⟩

def reader (depth : Nat) : Reader Site := schema.reader depth

def toValue (site : Site) : Value :=
  .object [⟨"kind", .string site.kind.tag⟩, ⟨"doc_comment", .ofOption .string site.docComment⟩,
    ⟨"span", site.span.toValue⟩, ⟨"type", .ofOption TypeUnion.toValue site.type⟩]

def decodeAll (text : Text) : Except ReadError (List Site) := decode (listOf reader nestingLimit) text

end Site

namespace ClassDecl

structure Draft where
  name : Option Text
  templateParams : Option (Option (List Text))

def schema : Schema Draft ClassDecl where
  record := .classDecl
  blank := ⟨none, none⟩
  slots := [
    ⟨"name", (·.name.isSome), fun _ => text.map fun value draft => { draft with name := some value }⟩,
    ⟨"template_params", (·.templateParams.isSome), fun depth =>
      (orNull (listOf (fun _ => text) depth)).map fun value draft => { draft with templateParams := some value }⟩]
  complete missing draft := do
    .ok ⟨← required missing "name" draft.name, draft.templateParams.join⟩

def reader (depth : Nat) : Reader ClassDecl := schema.reader depth

end ClassDecl

def Catalog.decode (text : Text) : Except ReadError Catalog :=
  (Json.decode (listOf ClassDecl.reader nestingLimit) text).map ofDecls

structure TraceInput where
  path : Option Text
  sites : List Site

namespace TraceInput

structure Draft where
  path : Option (Option Text)
  sites : Option (List Site)

def schema : Schema Draft TraceInput where
  record := .traceInput
  blank := ⟨none, none⟩
  slots := [
    ⟨"path", (·.path.isSome), fun _ => (orNull text).map fun value draft => { draft with path := some value }⟩,
    ⟨"sites", (·.sites.isSome), fun depth =>
      (listOf Site.reader depth).map fun value draft => { draft with sites := some value }⟩]
  complete missing draft := do
    .ok ⟨draft.path.join, ← required missing "sites" draft.sites⟩

def decode (text : Text) : Except ReadError TraceInput := Json.decode (schema.reader nestingLimit) text

end TraceInput
end TypeLens
