import TypeLens.Proofs.Shape
import Mathlib.Algebra.Group.Nat.Defs
import Mathlib.Data.List.Induction

/-! Shapes assembled by calls. After any calls a shape holds their keys in the order in which each first came, with
what the last call for the key wrote. An element is keyed by the number of the fields, so it is new unless a call has
named this number before. -/
namespace TypeLens.Shape

inductive Call where
  | field (key : ShapeKey) (type : TypeUnion)
  | optionalField (key : ShapeKey) (type : TypeUnion)
  | element (type : TypeUnion)

def firstKeys (writes : List ShapeField) : List ShapeKey := (writes.map (·.key)).eraseDups

def lastWrite (writes : List ShapeField) (key : ShapeKey) : Option ShapeField :=
  writes.reverse.find? fun write => write.key = key

namespace Call

def run (shape : Shape) : Call → Shape
  | field key type => shape.field key type
  | optionalField key type => shape.optionalField key type
  | element type => shape.element type

def write (before : List ShapeField) : Call → ShapeField
  | field key type => ⟨key.canonical, type, false⟩
  | optionalField key type => ⟨key.canonical, type, true⟩
  | element type => ⟨.index (Int64.ofNat (firstKeys before).length), type, false⟩

def named : Call → Option ShapeKey
  | field key _ | optionalField key _ => some key.canonical
  | element _ => none

def keyIn (shape : Shape) (call : Call) : ShapeKey :=
  call.named.getD (.index (Int64.ofNat shape.fields.length))

def ofField (field : ShapeField) : Call :=
  if field.optional then .optionalField field.key field.type else .field field.key field.type

end Call

def ofCalls (isList : Bool) (calls : List Call) : Shape := calls.foldl Call.run (if isList then tuple else keyed)

def writes (calls : List Call) : List ShapeField :=
  calls.foldl (fun before call => before ++ [call.write before]) []

theorem ofCallsSnoc (isList : Bool) (calls : List Call) (call : Call) :
    ofCalls isList (calls ++ [call]) = call.run (ofCalls isList calls) := by
  rw [ofCalls, List.foldl_append]
  rfl

theorem writesSnoc (calls : List Call) (call : Call) :
    writes (calls ++ [call]) = writes calls ++ [call.write (writes calls)] := by
  rw [writes, List.foldl_append]
  rfl

theorem firstKeysSnoc (before : List ShapeField) (write : ShapeField) : firstKeys (before ++ [write]) =
    if write.key ∈ firstKeys before then firstKeys before else firstKeys before ++ [write.key] := by
  simp only [firstKeys, List.map_append, List.eraseDups_append, List.mem_eraseDups]
  split <;> simp_all [List.removeAll, List.eraseDups_cons]

theorem lastWriteSnoc (before : List ShapeField) (write : ShapeField) (key : ShapeKey) :
    lastWrite (before ++ [write]) key = if write.key = key then some write else lastWrite before key := by
  simp only [lastWrite, List.reverse_append, List.reverse_singleton, List.singleton_append, List.find?_cons]
  split <;> simp_all

/-- The shape holds what was written: each key once, where it first came, and under it the last write. -/
structure Keeps (shape : Shape) (writes : List ShapeField) : Prop where
  keys : shape.keys = firstKeys writes
  last : ∀ field ∈ shape.fields, lastWrite writes field.key = some field

theorem keepsPut {shape : Shape} {before : List ShapeField} (keeps : shape.Keeps before) (key : ShapeKey)
    (type : TypeUnion) (optional : Bool) :
    (shape.put key type optional).Keeps (before ++ [⟨key.canonical, type, optional⟩]) := by
  constructor
  · rw [putKeys, firstKeysSnoc, keeps.keys]
  · intro field member
    rw [lastWriteSnoc]
    rcases putFields member with ⟨old, other⟩ | rfl
    · rw [if_neg other.symm, keeps.last field old]
    · exact if_pos rfl

theorem keepsCall {shape : Shape} {before : List ShapeField} (keeps : shape.Keeps before) (call : Call) :
    (call.run shape).Keeps (before ++ [call.write before]) := by
  cases call with
  | field key type => exact keepsPut keeps key type false
  | optionalField key type => exact keepsPut keeps key type true
  | element type =>
    have count : shape.fields.length = (firstKeys before).length := by rw [← keeps.keys, keys, List.length_map]
    have put := keepsPut keeps (.index (Int64.ofNat shape.fields.length)) type false
    rw [count] at put
    rw [Call.run, element, count]
    exact put

theorem keepsCalls (isList : Bool) (calls : List Call) : (ofCalls isList calls).Keeps (writes calls) := by
  induction calls using List.reverseRecOn with
  | nil => cases isList <;> exact ⟨rfl, by simp [ofCalls, tuple, keyed]⟩
  | append_singleton calls call ih =>
    rw [ofCallsSnoc, writesSnoc]
    exact keepsCall ih call

theorem putIsList (shape : Shape) (key : ShapeKey) (type : TypeUnion) (optional : Bool) :
    (shape.put key type optional).isList = shape.isList := by
  by_cases taken : key.canonical ∈ shape.keys
  · rw [putTaken taken]
  · rw [putFresh taken]

theorem ofCallsIsList (isList : Bool) (calls : List Call) : (ofCalls isList calls).isList = isList := by
  induction calls using List.reverseRecOn with
  | nil => cases isList <;> rfl
  | append_singleton calls call ih =>
    rw [ofCallsSnoc]
    cases call <;> exact (putIsList ..).trans ih

theorem lastOfEach {shape : Shape} {before : List ShapeField} (keeps : shape.Keeps before) :
    shape.fields.map some = (firstKeys before).map (lastWrite before) := by
  rw [← keeps.keys, keys, List.map_map]
  exact List.map_congr_left fun field member => (keeps.last field member).symm

theorem assembledFields (isList : Bool) (calls : List Call) :
    (ofCalls isList calls).isList = isList ∧
      (ofCalls isList calls).fields.map some = (firstKeys (writes calls)).map (lastWrite (writes calls)) :=
  ⟨ofCallsIsList isList calls, lastOfEach (keepsCalls isList calls)⟩

-- The name `0` is the number of the fields when the element comes, so the field is overwritten in its place.
example (a b c : TypeUnion) :
    (ofCalls true [.element a, .optionalField (.name "x") b, .field (.name "0") c]).fields =
      [⟨.index 0, c, false⟩, ⟨.name "x", b, true⟩] := by
  rfl

theorem runKeys (shape : Shape) (call : Call) : (call.run shape).keys =
    if call.keyIn shape ∈ shape.keys then shape.keys else shape.keys ++ [call.keyIn shape] := by
  cases call <;> exact putKeys ..

theorem namedTaken {calls : List Call} {call : Call} {key : ShapeKey} (inside : call ∈ calls)
    (named : call.named = some key) (isList : Bool) : key ∈ (ofCalls isList calls).keys := by
  induction calls using List.reverseRecOn with
  | nil => cases inside
  | append_singleton calls later ih =>
    rw [ofCallsSnoc, runKeys]
    rcases List.mem_append.mp inside with earlier | last
    · have before := ih earlier
      split <;> simp [before]
    · cases List.mem_singleton.mp last
      have own : call.keyIn (ofCalls isList calls) = key := by rw [Call.keyIn, named, Option.getD_some]
      rw [own]
      split
      · next old => exact old
      · exact List.mem_append_right _ List.mem_cons_self

theorem indexApart {m n : Nat} (below : m < n) (fits : n < 2 ^ 63) :
    ShapeKey.index (Int64.ofNat m) ≠ .index (Int64.ofNat n) := by
  intro same
  have numbers := congrArg Int64.toInt (ShapeKey.index.inj same)
  rw [Int64.toInt_ofNat_of_lt (Nat.lt_trans below fits), Int64.toInt_ofNat_of_lt fits] at numbers
  omega

-- An element that is new leaves more fields than its own number, so none has a number that is still to come.
theorem comingNamed {isList : Bool} {calls : List Call} {n : Nat} (coming : (ofCalls isList calls).keys.length ≤ n)
    (fits : n < 2 ^ 63) (taken : .index (Int64.ofNat n) ∈ (ofCalls isList calls).keys) :
    ∃ call ∈ calls, call.named = some (.index (Int64.ofNat n)) := by
  induction calls using List.reverseRecOn with
  | nil => cases isList <;> cases taken
  | append_singleton calls call ih =>
    rw [ofCallsSnoc, runKeys] at coming taken
    have earlier (coming : (ofCalls isList calls).keys.length ≤ n)
        (taken : .index (Int64.ofNat n) ∈ (ofCalls isList calls).keys) :
        ∃ call' ∈ calls ++ [call], call'.named = some (.index (Int64.ofNat n)) := by
      obtain ⟨call', inside, named⟩ := ih coming taken
      exact ⟨call', List.mem_append_left _ inside, named⟩
    split at coming
    · next old =>
      rw [if_pos old] at taken
      exact earlier coming taken
    · next fresh =>
      rw [if_neg fresh] at taken
      rw [List.length_append, List.length_singleton] at coming
      rcases List.mem_append.mp taken with old | new
      · exact earlier (by omega) old
      · refine ⟨call, List.mem_append_right _ List.mem_cons_self, ?_⟩
        have own := List.mem_singleton.mp new
        cases named : call.named with
        | some key => rw [own, Call.keyIn, named, Option.getD_some]
        | none =>
          rw [Call.keyIn, named, Option.getD_none, ← List.length_map (·.key), ← keys] at own
          exact absurd own.symm (indexApart coming fits)

theorem ofCallsProper (isList : Bool) (calls : List Call) : (ofCalls isList calls).KeysProper := by
  induction calls using List.reverseRecOn with
  | nil => cases isList <;> exact ⟨List.nodup_nil, by simp [ofCalls, keys, tuple, keyed]⟩
  | append_singleton calls call ih =>
    rw [ofCallsSnoc]
    cases call <;> exact putKeysProper ih ..

theorem putInPlace {shape : Shape} {key : ShapeKey} (apart : shape.keys.Nodup) (taken : key.canonical ∈ shape.keys)
    (type : TypeUnion) (optional : Bool) : ∃ before old after, shape.fields = before ++ old :: after ∧
      old.key = key.canonical ∧
        (shape.put key type optional).fields = before ++ ⟨key.canonical, type, optional⟩ :: after := by
  obtain ⟨old, inside, same⟩ := List.mem_map.mp taken
  obtain ⟨before, after, parted⟩ := List.append_of_mem inside
  refine ⟨before, old, after, parted, same, ?_⟩
  rw [keys, parted, List.map_append, List.map_cons, List.nodup_append, List.nodup_cons] at apart
  obtain ⟨_, ⟨notAfter, _⟩, notBefore⟩ := apart
  have kept {fields : List ShapeField} (others : ∀ field ∈ fields, field.key ≠ key.canonical) :
      (fields.map fun old => if old.key = key.canonical then ⟨key.canonical, type, optional⟩ else old) = fields := by
    rw [List.map_congr_left fun field member => if_neg (others field member), List.map_id']
  rw [putTaken taken, parted, List.map_append, List.map_cons, kept, kept, if_pos same]
  · intro field member other
    exact notAfter (same ▸ other ▸ List.mem_map_of_mem member)
  · intro field member other
    exact notBefore _ (List.mem_map_of_mem member) _ List.mem_cons_self (other.trans same.symm)

-- With fewer fields than there are indices, only a call that names the number of the fields can have taken it.
theorem elementAdded {isList : Bool} {calls : List Call} (type : TypeUnion)
    (fits : (ofCalls isList calls).fields.length < 2 ^ 63) :
    let shape := ofCalls isList calls
    let new : ShapeField := ⟨.index (Int64.ofNat shape.fields.length), type, false⟩
    ((∀ call ∈ calls, call.named ≠ some new.key) → (shape.element type).fields = shape.fields ++ [new]) ∧
      ((∃ call ∈ calls, call.named = some new.key) → ∃ before old after, shape.fields = before ++ old :: after ∧
        old.key = new.key ∧ (shape.element type).fields = before ++ new :: after) := by
  intro shape new
  constructor
  · intro unnamed
    have fresh : new.key ∉ shape.keys := by
      intro taken
      obtain ⟨call, inside, named⟩ := comingNamed (Nat.le_of_eq (List.length_map _)) fits taken
      exact unnamed call inside named
    exact congrArg Shape.fields (putFresh fresh type false)
  · rintro ⟨call, inside, named⟩
    have taken : new.key ∈ shape.keys := namedTaken inside named isList
    exact @putInPlace shape new.key (ofCallsProper isList calls).1 taken type false

def whole : TypeUnion := .single (.plain "int")

def flag : TypeUnion := .single (.plain "bool")

theorem elementAddedOrPut :
    ((ofCalls true [.element whole, .field (.index (-1)) whole]).element flag).fields =
        (ofCalls true [.element whole, .field (.index (-1)) whole]).fields ++ [⟨.index 2, flag, false⟩] ∧
      ∃ before old after, (ofCalls false [.optionalField (.name "1") whole]).fields = before ++ old :: after ∧
        old.key = .index 1 ∧ ((ofCalls false [.optionalField (.name "1") whole]).element flag).fields =
          before ++ ⟨.index 1, flag, false⟩ :: after := by
  have two : (ofCalls true [.element whole, .field (.index (-1)) whole]).fields.length = 2 := rfl
  have one : (ofCalls false [.optionalField (.name "1") whole]).fields.length = 1 := rfl
  constructor
  · refine (elementAdded flag (by rw [two]; decide)).1 ?_
    rw [two]
    decide
  · refine (elementAdded flag (by rw [one]; decide)).2 ?_
    rw [one]
    exact ⟨_, List.mem_cons_self, rfl⟩

theorem elementOverwrites : ¬ ∀ (isList : Bool) (calls : List Call) (type : TypeUnion), ∃ key,
    ((ofCalls isList calls).element type).fields = (ofCalls isList calls).fields ++ [⟨key, type, false⟩] := by
  intro appends
  obtain ⟨key, more⟩ := appends true [.field (.index 1) whole] flag
  have lengths := congrArg List.length more
  rw [List.length_append, List.length_singleton] at lengths
  exact absurd lengths (by decide)

theorem insertNewRuns {shape made : Shape} {field : ShapeField} (inserted : shape.insertNew field = .ok made) :
    made = (Call.ofField field).run shape := by
  rw [insertNew] at inserted
  split at inserted
  · cases inserted
  · next fresh =>
    cases inserted
    obtain ⟨key, type, optional⟩ := field
    cases optional <;> exact (putFresh fresh type _).symm

-- A check that passes has put the field where the unchecked call puts it.
theorem insertAllRuns {shape made : Shape} {fields : List ShapeField}
    (inserted : fields.foldlM insertNew shape = .ok made) : made = (fields.map Call.ofField).foldl Call.run shape := by
  induction fields generalizing shape with
  | nil => cases inserted; rfl
  | cons field fields ih =>
    rw [List.foldlM_cons] at inserted
    cases first : shape.insertNew field with
    | error fault => rw [first] at inserted; cases inserted
    | ok next =>
      rw [first] at inserted
      rw [ih inserted, insertNewRuns first, List.map_cons, List.foldl_cons]

theorem firstRepeated {α : Type} {key : α → ShapeKey} {items : List α} (repeated : ¬ (items.map key).Nodup) :
    ∃ front item back, items = front ++ item :: back ∧ (front.map key).Nodup ∧ key item ∈ front.map key := by
  induction items using List.reverseRecOn with
  | nil => exact absurd List.nodup_nil repeated
  | append_singleton items last ih =>
    by_cases apart : (items.map key).Nodup
    · refine ⟨items, last, [], rfl, apart, ?_⟩
      by_contra fresh
      rw [List.map_append] at repeated
      exact repeated (apartSnoc apart fresh)
    · obtain ⟨front, item, back, parted, unique, taken⟩ := ih apart
      exact ⟨front, item, back ++ [last], by simp [parted], unique, taken⟩

theorem ofFieldsFails {isList : Bool} {fields : List ShapeField} {fault : ModelFault} :
    ofFields isList fields = .error fault ↔ ∃ front field back, fields = front ++ field :: back ∧
      (front.map (·.key.canonical)).Nodup ∧ field.key.canonical ∈ front.map (·.key.canonical) ∧
        fault = .duplicateKey field.key.canonical := by
  constructor
  · intro failed
    have repeated : ¬ (fields.map (·.key.canonical)).Nodup := by
      intro apart
      rw [ofFieldsIff.mpr ⟨apart, rfl⟩] at failed
      cases failed
    obtain ⟨front, field, back, rfl, apart, taken⟩ := firstRepeated repeated
    rw [ofFieldsTaken apart taken] at failed
    cases failed
    exact ⟨front, field, back, rfl, apart, taken, rfl⟩
  · rintro ⟨front, field, back, rfl, apart, taken, rfl⟩
    exact ofFieldsTaken apart taken

theorem checkedFields (isList : Bool) (fields : List ShapeField) :
    ((∃ shape, ofFields isList fields = .ok shape) ↔ (fields.map (·.key.canonical)).Nodup) ∧
      (∀ shape, ofFields isList fields = .ok shape → shape = ⟨isList, fields.map canonicalField⟩ ∧
        shape = ofCalls isList (fields.map Call.ofField)) ∧
        ∀ fault, ofFields isList fields = .error fault ↔ ∃ front field back, fields = front ++ field :: back ∧
          (front.map (·.key.canonical)).Nodup ∧ field.key.canonical ∈ front.map (·.key.canonical) ∧
            fault = .duplicateKey field.key.canonical := by
  refine ⟨?_, ?_, fun fault => ofFieldsFails⟩
  · constructor
    · rintro ⟨shape, made⟩
      exact (ofFieldsIff.mp made).1
    · intro apart
      exact ⟨_, ofFieldsIff.mpr ⟨apart, rfl⟩⟩
  · intro shape made
    refine ⟨(ofFieldsIff.mp made).2, ?_⟩
    cases isList <;> exact insertAllRuns made

theorem checkedOrRepeated :
    (∃ shape, ofFields true [⟨.name "0", whole, false⟩, ⟨.name "a", flag, true⟩] = .ok shape ∧
      shape = ⟨true, [⟨.index 0, whole, false⟩, ⟨.name "a", flag, true⟩]⟩ ∧
        shape = ofCalls true [.field (.name "0") whole, .optionalField (.name "a") flag]) ∧
      ofFields false [⟨.index 1, whole, false⟩, ⟨.name "a", flag, true⟩, ⟨.name "1", flag, false⟩] =
        .error (.duplicateKey (.index 1)) := by
  constructor
  · obtain ⟨passes, kept, _⟩ := checkedFields true [⟨.name "0", whole, false⟩, ⟨.name "a", flag, true⟩]
    obtain ⟨shape, made⟩ := passes.mpr (by decide)
    obtain ⟨same, called⟩ := kept shape made
    exact ⟨shape, made, same, called⟩
  · have failed := (checkedFields false
      [⟨.index 1, whole, false⟩, ⟨.name "a", flag, true⟩, ⟨.name "1", flag, false⟩]).2.2
    refine (failed _).mpr ⟨[⟨.index 1, whole, false⟩, ⟨.name "a", flag, true⟩], _, [], rfl, ?_, ?_, rfl⟩ <;> decide

end TypeLens.Shape
