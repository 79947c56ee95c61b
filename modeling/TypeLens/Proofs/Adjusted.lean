import TypeLens.Source.Extent
import Mathlib.Order.Bounds.Basic

/-! The extent of a span, byte by byte: two loops that move the ends of the span to boundaries between characters.
Every step that could fail has a way to fail here, and none of them is ever taken. -/
namespace TypeLens.Source

def sliceFrom : Text → Nat → Option Text
  | [], byte => if byte = 0 then some [] else none
  | c :: rest, byte =>
    if byte = 0 then some (c :: rest) else if byte < c.utf8Size then none else sliceFrom rest (byte - c.utf8Size)

def isBoundary (source : Text) (byte : Nat) : Bool := (sliceFrom source byte).isSome

-- No result if the byte would go below zero.
def lower (source : Text) : Nat → Option Nat
  | 0 => if isBoundary source 0 then some 0 else none
  | byte + 1 => if isBoundary source (byte + 1) then some (byte + 1) else lower source byte

def raise (source : Text) (byte : Nat) : Option Nat :=
  if isBoundary source byte then some byte
  else if byte < source.byteSize then raise source (byte + 1)
  else none
termination_by source.byteSize - byte

def clamped (value low high : Nat) : Option Nat := if low ≤ high then some (max low (min value high)) else none

def adjusted (source : Text) (span : Span) : Option Extent := do
  let limit := source.byteSize
  let start ← lower source (min span.start.toNat limit)
  let stop ← raise source (← clamped span.stop.toNat start limit)
  if start = stop then
    let rest ← sliceFrom source start
    some ⟨start, start + (rest.head?.map Char.utf8Size).getD 0⟩
  else some ⟨start, stop⟩

def Boundary (source : Text) (byte : Nat) : Prop := ∃ before rest, source = before ++ rest ∧ before.byteSize = byte

def boundariesTo (source : Text) (byte : Nat) : Set Nat := {boundary | Boundary source boundary ∧ boundary ≤ byte}

def boundariesFrom (source : Text) (byte : Nat) : Set Nat := {boundary | Boundary source boundary ∧ byte ≤ boundary}

section
variable {source : Text} {byte : Nat}

theorem boundaryStart (source : Text) : Boundary source 0 := ⟨[], source, rfl, rfl⟩

theorem boundaryEnd (source : Text) : Boundary source source.byteSize := ⟨source, [], (List.append_nil _).symm, rfl⟩

theorem Boundary.inside (boundary : Boundary source byte) : byte ≤ source.byteSize := by
  obtain ⟨before, rest, rfl, rfl⟩ := boundary
  rw [Text.byteSizeAppend]
  exact Nat.le_add_right _ _

theorem boundaryNil : Boundary [] byte ↔ byte = 0 := by
  constructor
  · intro boundary
    exact Nat.le_zero.mp boundary.inside
  · intro start
    exact start ▸ boundaryStart []

theorem boundaryCons {c : Char} :
    Boundary (c :: source) byte ↔ byte = 0 ∨ ∃ later, Boundary source later ∧ byte = c.utf8Size + later := by
  constructor
  · intro ⟨before, rest, parted, size⟩
    subst size
    cases before with
    | nil => exact .inl rfl
    | cons first before =>
      obtain ⟨rfl, rfl⟩ := List.cons.inj parted
      exact .inr ⟨_, ⟨before, rest, rfl, rfl⟩, rfl⟩
  · intro found
    rcases found with rfl | ⟨_, ⟨before, rest, rfl, rfl⟩, rfl⟩
    · exact boundaryStart _
    · exact ⟨c :: before, rest, rfl, rfl⟩

theorem sliceOfPrefix (before rest : Text) : sliceFrom (before ++ rest) before.byteSize = some rest := by
  induction before with
  | nil => cases rest <;> simp [sliceFrom]
  | cons c before ih =>
    have some_ := c.utf8Size_pos
    rw [List.cons_append, Text.byteSizeCons, sliceFrom, if_neg (by omega), if_neg (by omega), Nat.add_sub_cancel_left,
      ih]

theorem prefixOfSlice {rest : Text} (slice : sliceFrom source byte = some rest) :
    ∃ before, source = before ++ rest ∧ before.byteSize = byte := by
  induction source generalizing byte with
  | nil =>
    simp only [sliceFrom, Option.ite_none_right_eq_some, Option.some.injEq] at slice
    obtain ⟨rfl, rfl⟩ := slice
    exact ⟨[], rfl, rfl⟩
  | cons c source ih =>
    rw [sliceFrom] at slice
    split at slice
    · next start =>
      cases slice
      exact ⟨[], rfl, start.symm⟩
    · split at slice
      · cases slice
      · obtain ⟨before, rfl, size⟩ := ih slice
        exact ⟨c :: before, rfl, by rw [Text.byteSizeCons]; omega⟩

theorem isBoundaryIff : isBoundary source byte ↔ Boundary source byte := by
  rw [isBoundary, Option.isSome_iff_exists]
  constructor
  · intro ⟨rest, slice⟩
    obtain ⟨before, parted⟩ := prefixOfSlice slice
    exact ⟨before, rest, parted⟩
  · intro ⟨before, rest, parted, size⟩
    subst parted size
    exact ⟨rest, sliceOfPrefix before rest⟩

/- The loops end at the nearest boundary, and so do the walks over the characters. -/

theorem greatestHere (boundary : Boundary source byte) : IsGreatest (boundariesTo source byte) byte :=
  ⟨⟨boundary, le_rfl⟩, fun _ other => other.2⟩

theorem leastHere (boundary : Boundary source byte) : IsLeast (boundariesFrom source byte) byte :=
  ⟨⟨boundary, le_rfl⟩, fun _ other => other.2⟩

theorem lowerEnds (source : Text) (byte : Nat) :
    ∃ start, lower source byte = some start ∧ IsGreatest (boundariesTo source byte) start := by
  induction byte with
  | zero =>
    have start := boundaryStart source
    exact ⟨0, by rw [lower, if_pos (isBoundaryIff.mpr start)], greatestHere start⟩
  | succ byte ih =>
    rw [lower]
    by_cases boundary : Boundary source (byte + 1)
    · exact ⟨byte + 1, if_pos (isBoundaryIff.mpr boundary), greatestHere boundary⟩
    · obtain ⟨start, lowered, ⟨found, before⟩, greatest⟩ := ih
      have notHere : ∀ other ∈ boundariesTo source (byte + 1), other ∈ boundariesTo source byte := by
        intro other ⟨isBoundary, upTo⟩
        have apart : other ≠ byte + 1 := fun same => boundary (same ▸ isBoundary)
        exact ⟨isBoundary, by omega⟩
      refine ⟨start, ?_, ⟨found, Nat.le_succ_of_le before⟩, fun other among => greatest (notHere other among)⟩
      rw [if_neg (fun here => boundary (isBoundaryIff.mp here)), lowered]

-- The end of the source is a boundary, so the bytes that are left bound the loop.
theorem raiseEnds (inside : byte ≤ source.byteSize) :
    ∃ stop, raise source byte = some stop ∧ IsLeast (boundariesFrom source byte) stop := by
  generalize left : source.byteSize - byte = bytes
  induction bytes generalizing byte with
  | zero =>
    have atEnd : byte = source.byteSize := by omega
    have boundary : Boundary source byte := atEnd ▸ boundaryEnd source
    exact ⟨byte, by rw [raise, if_pos (isBoundaryIff.mpr boundary)], leastHere boundary⟩
  | succ bytes ih =>
    rw [raise]
    by_cases boundary : Boundary source byte
    · exact ⟨byte, if_pos (isBoundaryIff.mpr boundary), leastHere boundary⟩
    · obtain ⟨stop, raised, ⟨found, after⟩, least⟩ := @ih (byte + 1) (by omega) (by omega)
      have notHere : ∀ other ∈ boundariesFrom source byte, other ∈ boundariesFrom source (byte + 1) := by
        intro other ⟨isBoundary, onward⟩
        have apart : other ≠ byte := fun same => boundary (same ▸ isBoundary)
        exact ⟨isBoundary, by omega⟩
      refine ⟨stop, ?_, ⟨found, Nat.le_of_succ_le after⟩, fun other among => least (notHere other among)⟩
      rw [if_neg (fun here => boundary (isBoundaryIff.mp here)), if_pos (by omega), raised]

theorem boundaryBelowGreatest (source : Text) (byte : Nat) :
    IsGreatest (boundariesTo source byte) (boundaryBelow source byte) := by
  induction source generalizing byte with
  | nil => exact ⟨⟨boundaryStart [], Nat.zero_le byte⟩, fun other among => (boundaryNil.mp among.1).le⟩
  | cons c source ih =>
    rw [boundaryBelow]
    split
    · next short =>
      refine ⟨⟨boundaryStart _, Nat.zero_le byte⟩, fun other ⟨boundary, upTo⟩ => ?_⟩
      obtain rfl | ⟨later, -, rfl⟩ := boundaryCons.mp boundary
      · exact le_rfl
      · omega
    · next fits =>
      obtain ⟨⟨found, before⟩, greatest⟩ := ih (byte - c.utf8Size)
      refine ⟨⟨boundaryCons.mpr (.inr ⟨_, found, rfl⟩), by omega⟩, fun other ⟨boundary, upTo⟩ => ?_⟩
      obtain rfl | ⟨later, isBoundary, rfl⟩ := boundaryCons.mp boundary
      · exact Nat.zero_le _
      · exact Nat.add_le_add_left (greatest ⟨isBoundary, by omega⟩) _

theorem boundaryAboveLeast (inside : byte ≤ source.byteSize) :
    IsLeast (boundariesFrom source byte) (boundaryAbove source byte) := by
  induction source generalizing byte with
  | nil =>
    cases Nat.le_zero.mp inside
    exact leastHere (boundaryStart [])
  | cons c source ih =>
    rw [Text.byteSizeCons] at inside
    rw [boundaryAbove]
    split
    · next start =>
      subst start
      exact leastHere (boundaryStart _)
    · obtain ⟨⟨found, after⟩, least⟩ := @ih (byte - c.utf8Size) (by omega)
      refine ⟨⟨boundaryCons.mpr (.inr ⟨_, found, rfl⟩), by omega⟩, fun other ⟨boundary, onward⟩ => ?_⟩
      obtain rfl | ⟨later, isBoundary, rfl⟩ := boundaryCons.mp boundary
      · omega
      · exact Nat.add_le_add_left (least ⟨isBoundary, by omega⟩) _

theorem boundaryAbovePast (past : source.byteSize ≤ byte) : boundaryAbove source byte = source.byteSize := by
  induction source generalizing byte with
  | nil => rfl
  | cons c source ih =>
    have some_ := c.utf8Size_pos
    rw [Text.byteSizeCons] at past
    rw [boundaryAbove, if_neg (by omega), ih (by omega), Text.byteSizeCons]

theorem boundaryAboveMin (source : Text) (byte : Nat) :
    boundaryAbove source byte = boundaryAbove source (min byte source.byteSize) := by
  rcases Nat.le_total byte source.byteSize with inside | past
  · rw [Nat.min_eq_left inside]
  · rw [Nat.min_eq_right past, boundaryAbovePast past, boundaryAbovePast le_rfl]

theorem boundariesToMin (source : Text) (byte : Nat) :
    boundariesTo source (min byte source.byteSize) = boundariesTo source byte := by
  ext boundary
  exact and_congr_right fun isBoundary => ⟨fun upTo => by omega, fun upTo => le_min upTo isBoundary.inside⟩

theorem nextLeast {c : Char} {rest : Text} (slice : sliceFrom source byte = some (c :: rest)) :
    IsLeast (boundariesFrom source (byte + 1)) (byte + c.utf8Size) := by
  have some_ := c.utf8Size_pos
  obtain ⟨before, rfl, rfl⟩ := prefixOfSlice slice
  constructor
  · have boundary : Boundary (before ++ c :: rest) (before.byteSize + c.utf8Size) :=
      ⟨before ++ [c], rest, by rw [List.append_assoc]; rfl, by rw [Text.byteSizeAppend]; rfl⟩
    exact ⟨boundary, by omega⟩
  · intro other ⟨⟨front, back, parted, size⟩, onward⟩
    subst size
    rcases List.append_eq_append_iff.mp parted with ⟨more, rfl, later⟩ | ⟨more, rfl, _⟩
    · rw [Text.byteSizeAppend] at onward ⊢
      cases more with
      | nil => exact absurd onward (Nat.not_succ_le_self _)
      | cons first more =>
        cases (List.cons.inj later).1
        rw [Text.byteSizeCons]
        omega
    · rw [Text.byteSizeAppend] at onward
      omega

end

/-- What an extent is to be, for a span that is cut to the source: its end goes on to the next boundary, so that
there is a character in it, if there is one left. -/
structure Covers (source : Text) (start stop : Nat) (extent : Extent) : Prop where
  begins : IsGreatest (boundariesTo source start) extent.start
  none : source.byteSize ≤ start → extent.stop = source.byteSize
  ends : start < source.byteSize →
    IsLeast (boundariesFrom source (max (extent.start + 1) (min stop source.byteSize))) extent.stop

namespace Covers

variable {source : Text} {start stop : Nat} {extent : Extent}

theorem unique {other : Extent} (covers : Covers source start stop extent) (others : Covers source start stop other) :
    extent = other := by
  obtain ⟨first, last⟩ := extent
  obtain ⟨otherFirst, otherLast⟩ := other
  cases covers.begins.unique others.begins
  rcases Nat.lt_or_ge start source.byteSize with inside | past
  · cases (covers.ends inside).unique (others.ends inside)
    rfl
  · cases (covers.none past).trans (others.none past).symm
    rfl

section
variable {first last : Nat} (begins : IsGreatest (boundariesTo source start) first)
  (ends : IsLeast (boundariesFrom source (max first (min stop source.byteSize))) last)
include begins ends

theorem ofSome (some_ : first ≠ last) : Covers source start stop ⟨first, last⟩ := by
  obtain ⟨⟨boundary, onward⟩, least⟩ := ends
  refine ⟨begins, fun past => ?_, fun inside => ⟨⟨boundary, ?_⟩, fun other ⟨isBoundary, further⟩ => ?_⟩⟩
  · have atEnd := begins.2 ⟨boundaryEnd source, past⟩
    exact Nat.le_antisymm boundary.inside (atEnd.trans (Nat.max_le.mp onward).1)
  · simp only
    omega
  · simp only at further
    exact least ⟨isBoundary, by omega⟩

theorem ofNext {next : Nat} (same : first = last) (further : IsLeast (boundariesFrom source (first + 1)) next) :
    Covers source start stop ⟨first, next⟩ := by
  have onward := ends.1.2
  refine ⟨begins, fun past => ?_, fun inside => ?_⟩
  · have atEnd := begins.2 ⟨boundaryEnd source, past⟩
    have beyond := further.1.2
    have inside := further.1.1.inside
    omega
  · have here : max (first + 1) (min stop source.byteSize) = first + 1 := by omega
    simpa only [here] using further

omit ends in
theorem ofNone (atEnd : first = source.byteSize) : Covers source start stop ⟨first, first⟩ := by
  refine ⟨begins, fun _ => atEnd, fun inside => ?_⟩
  have upTo := begins.1.2
  omega

end

end Covers

theorem ofSpanCovers (source : Text) (span : Span) :
    Covers source span.start.toNat span.stop.toNat (Extent.ofSpan source span) := by
  simp only [Extent.ofSpan]
  generalize found : boundaryBelow source span.start.toNat = first
  have begins := found ▸ boundaryBelowGreatest source span.start.toNat
  have inside := begins.1.1.inside
  have cut : min (max first span.stop.toNat) source.byteSize = max first (min span.stop.toNat source.byteSize) := by
    omega
  have ends := @boundaryAboveLeast source (max first (min span.stop.toNat source.byteSize)) (by omega)
  rw [boundaryAboveMin source (max first _), cut]
  split
  · next same =>
    rcases Nat.lt_or_eq_of_le inside with before | atEnd
    · exact .ofNext begins ends same.symm (boundaryAboveLeast before)
    · rw [boundaryAbovePast (by omega), ← atEnd]
      exact .ofNone begins atEnd
  · next apart => exact .ofSome begins ends (Ne.symm apart)

theorem adjustedCovers (source : Text) (span : Span) :
    ∃ extent, adjusted source span = some extent ∧ Covers source span.start.toNat span.stop.toNat extent := by
  obtain ⟨first, lowered, begins⟩ := lowerEnds source (min span.start.toNat source.byteSize)
  rw [boundariesToMin] at begins
  have inside := begins.1.1.inside
  obtain ⟨last, raised, ends⟩ := @raiseEnds source (max first (min span.stop.toNat source.byteSize)) (by omega)
  have held : clamped span.stop.toNat first source.byteSize = some (max first (min span.stop.toNat source.byteSize)) :=
    if_pos inside
  simp only [adjusted, lowered, held, raised, Option.bind_eq_bind, Option.bind_some]
  by_cases same : first = last
  · obtain ⟨rest, slice⟩ := Option.isSome_iff_exists.mp (isBoundaryIff.mpr begins.1.1)
    simp only [if_pos same, slice, Option.bind_some]
    cases rest with
    | nil =>
      obtain ⟨before, whole, size⟩ := prefixOfSlice slice
      rw [List.append_nil] at whole
      exact ⟨_, rfl, .ofNone begins (whole ▸ size.symm)⟩
    | cons c rest => exact ⟨_, rfl, .ofNext begins ends same (nextLeast slice)⟩
  · rw [if_neg same]
    exact ⟨_, rfl, .ofSome begins ends same⟩

namespace Covers

variable {source : Text} {start stop : Nat} {extent : Extent}

theorem atEnd (covers : Covers source start stop extent) (past : source.byteSize ≤ start) :
    extent = ⟨source.byteSize, source.byteSize⟩ := by
  have first : extent.start = source.byteSize :=
    Nat.le_antisymm covers.begins.1.1.inside (covers.begins.2 ⟨boundaryEnd source, past⟩)
  obtain ⟨_, _⟩ := extent
  cases first
  cases covers.none past
  rfl

theorem boundaryStop (covers : Covers source start stop extent) : Boundary source extent.stop := by
  rcases Nat.lt_or_ge start source.byteSize with inside | past
  · exact (covers.ends inside).1.1
  · exact covers.none past ▸ boundaryEnd source

theorem ordered (covers : Covers source start stop extent) : extent.start ≤ extent.stop := by
  rcases Nat.lt_or_ge start source.byteSize with inside | past
  · have further := (covers.ends inside).1.2
    omega
  · rw [covers.none past]
    exact covers.begins.1.1.inside

theorem tight (covers : Covers source start stop extent) (inside : start < source.byteSize) {least : Nat}
    (ends : IsLeast (boundariesFrom source (max start (min stop source.byteSize))) least) :
    if extent.start < least then extent.stop = least
    else IsLeast (boundariesFrom source (extent.start + 1)) extent.stop := by
  obtain ⟨⟨boundary, further⟩, leastStop⟩ := covers.ends inside
  have upTo := covers.begins.1.2
  have beyond : start < extent.stop := by
    by_contra short
    have upTo := covers.begins.2 ⟨boundary, Nat.le_of_not_lt short⟩
    omega
  split
  · next some_ =>
    have onward := ends.1.2
    exact Nat.le_antisymm (leastStop ⟨ends.1.1, by omega⟩) (ends.2 ⟨boundary, by omega⟩)
  · next none =>
    have onward := ends.1.2
    exact ⟨⟨boundary, by omega⟩, fun other ⟨isBoundary, after⟩ => leastStop ⟨isBoundary, by omega⟩⟩

theorem again (covers : Covers source start stop extent) : Covers source extent.start extent.stop extent := by
  have begins := greatestHere covers.begins.1.1
  rcases Nat.lt_or_ge start source.byteSize with inside | past
  · refine ⟨begins, fun past => ?_, fun _ => ?_⟩
    · exact absurd (past.trans covers.begins.1.2) (Nat.not_le_of_lt inside)
    · obtain ⟨⟨boundary, further⟩, _⟩ := covers.ends inside
      have here : max (extent.start + 1) (min extent.stop source.byteSize) = extent.stop := by
        have inside := boundary.inside
        omega
      rw [here]
      exact leastHere boundary
  · rw [covers.atEnd past] at begins ⊢
    exact .ofNone begins rfl

end Covers

theorem spanAdjusted (source : Text) (span : Span) :
    let limit := source.byteSize
    let start := min span.start.toNat limit
    let stop := max start (min span.stop.toNat limit)
    ∃ extent, adjusted source span = some extent ∧ Extent.ofSpan source span = extent ∧
      extent.start ≤ extent.stop ∧ extent.stop ≤ limit ∧
      Boundary source extent.start ∧ Boundary source extent.stop ∧
      (start = limit → extent = ⟨limit, limit⟩) ∧
      (start < limit → IsGreatest {boundary | Boundary source boundary ∧ boundary ≤ start} extent.start ∧
        extent.start < extent.stop ∧
        ∃ least, IsLeast {boundary | Boundary source boundary ∧ stop ≤ boundary} least ∧
          if extent.start < least then extent.stop = least
          else IsLeast {boundary | Boundary source boundary ∧ extent.start + 1 ≤ boundary} extent.stop) ∧
      ∀ again : Span, again.start.toNat = extent.start → again.stop.toNat = extent.stop →
        adjusted source again = some extent := by
  intro limit start stop
  obtain ⟨extent, found, covers⟩ := adjustedCovers source span
  refine ⟨extent, found, (ofSpanCovers source span).unique covers, covers.ordered, covers.boundaryStop.inside,
    covers.begins.1.1, covers.boundaryStop, ?atEnd, ?inside, ?again⟩
  case atEnd =>
    intro past
    exact covers.atEnd (by omega)
  case inside =>
    intro inside
    have before : span.start.toNat < limit := by omega
    have uncut : start = span.start.toNat := Nat.min_eq_left before.le
    obtain ⟨least, ends⟩ : ∃ least, IsLeast (boundariesFrom source stop) least := ⟨_, boundaryAboveLeast (by omega)⟩
    have further := (covers.ends before).1.2
    refine ⟨uncut ▸ covers.begins, by omega, least, ends, ?_⟩
    simp only [stop, uncut] at ends
    exact covers.tight before ends
  case again =>
    intro again start stop
    obtain ⟨other, adjustedAgain, othersCover⟩ := adjustedCovers source again
    rw [start, stop] at othersCover
    rw [adjustedAgain, othersCover.unique covers.again]

theorem midLetterAdjusted : adjusted ['a', 'é', '€'] ⟨2, 2⟩ = some ⟨1, 3⟩ ∧
    adjusted ['a', 'é', '€'] ⟨1, 3⟩ = some ⟨1, 3⟩ ∧
      IsGreatest {boundary | Boundary ['a', 'é', '€'] boundary ∧ boundary ≤ 2} 1 ∧
        Extent.ofSpan ['a', 'é', '€'] ⟨9, 4⟩ = ⟨6, 6⟩ := by
  obtain ⟨extent, found, same, _, _, _, _, _, inside, again⟩ := spanAdjusted ['a', 'é', '€'] ⟨2, 2⟩
  have extentIs : extent = ⟨1, 3⟩ := same.symm.trans (by decide)
  subst extentIs
  obtain ⟨_, _, pastEnd, _, _, _, _, atEnd, _⟩ := spanAdjusted ['a', 'é', '€'] ⟨9, 4⟩
  exact ⟨found, again ⟨1, 3⟩ rfl rfl, (inside (by decide)).1, pastEnd.trans (atEnd (by decide))⟩

end TypeLens.Source
