import TypeLens.ClassName
import TypeLens.Proofs.Adjusted
import Mathlib.Data.List.DropRight

/-! The short name of a class: the longest run of identifier characters that its identifier ends with. A scan that
goes back over the bytes stops where this run starts, which is always the first byte of a character. -/
namespace TypeLens

open Text Source

section
variable {α : Type} {keeps : α → Bool} {before run items : List α}

theorem endingRun (stops : ∀ item ∈ before.getLast?, ¬keeps item) (all : ∀ item ∈ run, keeps item) :
    (before ++ run).rtakeWhile keeps = run := by
  induction run using List.reverseRecOn with
  | nil =>
    rw [List.append_nil, List.rtakeWhile_eq_nil_iff]
    exact fun some_ => stops _ (List.getLast_mem_getLast? some_)
  | append_singleton run last ih =>
    have kept : keeps last := all last (List.mem_append_right _ List.mem_cons_self)
    rw [← List.append_assoc, List.rtakeWhile_concat_pos _ _ _ kept, ih fun item inside => all item (by simp [inside])]

theorem runParted (keeps : α → Bool) (items : List α) :
    ∃ before, items = before ++ items.rtakeWhile keeps ∧ ∀ item ∈ before.getLast?, ¬keeps item := by
  refine ⟨items.rdropWhile keeps, List.rdropWhile_append_rtakeWhile.symm, fun item last => ?_⟩
  obtain ⟨some_, rfl⟩ := List.mem_getLast?_eq_getLast last
  exact List.rdropWhile_last_not _ _ some_

end

namespace ClassName

def tail (id : Text) : Text := id.rtakeWhile isIdentifier

theorem shortTail (id : Text) : short id = if tail id = [] then id else tail id := by
  rw [short]
  simp only [List.isEmpty_iff]
  rfl

def EndsNamed (id : Text) : Prop := ∃ c ∈ id.getLast?, isIdentifier c

instance : DecidablePred EndsNamed := fun id =>
  decidable_of_iff (id.getLast?.any isIdentifier) (Option.any_eq_true _ _)

theorem stopsUnnamed {before : Text} (unnamed : ¬EndsNamed before) : ∀ c ∈ before.getLast?, ¬isIdentifier c :=
  fun c last letter => unnamed ⟨c, last, letter⟩

structure LongestTail (id tail : Text) : Prop where
  some_ : tail ≠ []
  letters : ∀ c ∈ tail, isIdentifier c
  parted : ∃ before, id = before ++ tail ∧ ¬EndsNamed before

theorem LongestTail.unique {id longest : Text} (is_ : LongestTail id longest) : tail id = longest := by
  obtain ⟨before, rfl, unnamed⟩ := is_.parted
  exact endingRun (stopsUnnamed unnamed) is_.letters

theorem tailParted (id : Text) : ∃ before, id = before ++ tail id ∧ ¬EndsNamed before := by
  obtain ⟨before, parted, stops⟩ := runParted isIdentifier id
  exact ⟨before, parted, fun ⟨c, last, letter⟩ => stops c last letter⟩

theorem tailLetters {id : Text} : ∀ c ∈ tail id, isIdentifier c := fun _ => List.mem_rtakeWhile_imp

theorem tailSome {id : Text} : tail id ≠ [] ↔ EndsNamed id := by
  rw [tail, Ne, List.rtakeWhile_eq_nil_iff]
  cases id using List.reverseRecOn <;> simp [EndsNamed]

theorem tailLongest {id : Text} (named : EndsNamed id) : LongestTail id (tail id) :=
  ⟨tailSome.mpr named, tailLetters, tailParted id⟩

theorem shortNamed {id : Text} (named : EndsNamed id) : short id = tail id := by
  rw [shortTail, if_neg (tailSome.mpr named)]

theorem shortUnnamed {id : Text} (unnamed : ¬EndsNamed id) : short id = id := by
  rw [shortTail, if_pos (not_not.mp (mt tailSome.mp unnamed))]

theorem shortIff {id name : Text} (named : EndsNamed id) : short id = name ↔ LongestTail id name := by
  rw [shortNamed named]
  exact ⟨fun same => same ▸ tailLongest named, LongestTail.unique⟩

theorem shortSuffix (id : Text) : short id <:+ id := by
  by_cases named : EndsNamed id
  · rw [shortNamed named]
    exact List.rtakeWhile_suffix _ _
  · exact (shortUnnamed named).symm ▸ List.suffix_rfl

theorem shortTwice (id : Text) : short (short id) = short id := by
  by_cases named : EndsNamed id
  · rw [shortNamed named, shortTail, tail, tail, List.rtakeWhile_idempotent, ite_self]
  · rw [shortUnnamed named, shortUnnamed named]

theorem shortAppend {before name : Text} (unnamed : ¬EndsNamed before) (some_ : name ≠ [])
    (letters : ∀ c ∈ name, isIdentifier c) : short (before ++ name) = name := by
  rw [shortTail, tail, endingRun (stopsUnnamed unnamed) letters, if_neg some_]

def places (byte : Nat) : Text → List (Nat × Char)
  | [] => []
  | c :: rest => (byte, c) :: places (byte + c.utf8Size) rest

def tailStart (id : Text) : Option Nat :=
  ((places 0 id).reverse.takeWhile fun place => isIdentifier place.2).getLast?.map (·.1)

-- No result if the scan stopped inside a character.
def scanned (id : Text) : Option Text :=
  match tailStart id with
  | some byte => sliceFrom id byte
  | none => some id

theorem placesAppend (byte : Nat) (before rest : Text) :
    places byte (before ++ rest) = places byte before ++ places (byte + before.byteSize) rest := by
  induction before generalizing byte with
  | nil => rfl
  | cons c before ih =>
    simp only [List.cons_append, places, ih, byteSizeCons, Nat.add_assoc]

theorem placesCharacters (byte : Nat) (text : Text) : (places byte text).map (·.2) = text := by
  induction text generalizing byte with
  | nil => rfl
  | cons c text ih => rw [places, List.map_cons, ih]

theorem tailStartParted {before run : Text} (unnamed : ¬EndsNamed before) (letters : ∀ c ∈ run, isIdentifier c) :
    tailStart (before ++ run) = (places before.byteSize run).head?.map (·.1) := by
  have stops : ∀ place ∈ (places 0 before).getLast?, ¬isIdentifier place.2 := by
    intro place last
    refine stopsUnnamed unnamed place.2 ?_
    rw [← placesCharacters 0 before, List.getLast?_map, Option.mem_def, last]
    rfl
  have all : ∀ place ∈ places before.byteSize run, isIdentifier place.2 := by
    intro place inside
    refine letters place.2 ?_
    rw [← placesCharacters before.byteSize run]
    exact List.mem_map_of_mem inside
  have taken := @endingRun _ (fun place : Nat × Char => isIdentifier place.2) _ _ stops all
  rw [List.rtakeWhile, List.reverse_eq_iff] at taken
  rw [tailStart, placesAppend, Nat.zero_add, taken, List.getLast?_reverse]

theorem scannedShort (id : Text) : scanned id = some (short id) := by
  obtain ⟨before, parted, unnamed⟩ := tailParted id
  have start := tailStartParted unnamed (@tailLetters id)
  rw [← parted] at start
  rw [scanned, start, shortTail]
  cases run : tail id with
  | nil => rfl
  | cons c rest =>
    rw [run] at parted
    rw [if_neg (List.cons_ne_nil _ _), parted]
    exact sliceOfPrefix before (c :: rest)

end ClassName

open ClassName

theorem shortLongest :
    (∀ id, (EndsNamed id → ∀ name, short id = name ↔ LongestTail id name) ∧ (¬EndsNamed id → short id = id)) ∧
      (∀ id, scanned id = some (short id)) ∧
        (∀ id, short (short id) = short id) ∧
          (∀ id, ∃ byte, Boundary id byte ∧ sliceFrom id byte = some (short id)) ∧
            ∀ before name, ¬EndsNamed before → name ≠ [] → (∀ c ∈ name, isIdentifier c) →
              short (before ++ name) = name := by
  refine ⟨fun id => ⟨?_, shortUnnamed⟩, scannedShort, shortTwice, fun id => ?_, ?_⟩
  · intro named name
    exact shortIff named
  · obtain ⟨before, parted⟩ := shortSuffix id
    have slice := sliceOfPrefix before (short id)
    rw [parted] at slice
    exact ⟨byteSize before, ⟨before, short id, parted.symm, rfl⟩, slice⟩
  · intro before name unnamed some_ letters
    exact shortAppend unnamed some_ letters

def accented : Text := "fn-\\été_2"

theorem accentedShort :
    EndsNamed accented ∧ LongestTail accented "été_2" ∧ short accented = "été_2" ∧
      ¬EndsNamed "fn-\\" ∧ short "fn-\\" = "fn-\\" ∧ short ("fn-\\".toList ++ "été_2".toList) = "été_2" := by
  have named : EndsNamed accented := ⟨'2', rfl, rfl⟩
  have unnamed : ¬EndsNamed "fn-\\" := by decide +kernel
  have letters : ∀ c ∈ "été_2".toList, isIdentifier c := List.all_eq_true.mp (by decide +kernel)
  obtain ⟨each, -, -, -, split⟩ := shortLongest
  have parted := split "fn-\\" "été_2" unnamed (List.cons_ne_nil _ _) letters
  exact ⟨named, ((each accented).1 named _).mp parted, parted, unnamed, (each "fn-\\").2 unnamed, parted⟩

end TypeLens
