import TypeLens.Model.Shape
import TypeLens.Proofs.Key
import Mathlib.Data.List.Nodup

/-! Shapes and their keys. A field that is put in place of another one leaves the keys as they are; a new
one brings its canonical key, which no field had before. -/
namespace TypeLens.Shape

def KeysProper (shape : Shape) : Prop := shape.keys.Nodup ∧ ∀ key ∈ shape.keys, key.Canonical

theorem putTaken {shape : Shape} {key : ShapeKey} (taken : key.canonical ∈ shape.keys) (type : TypeUnion)
    (optional : Bool) : shape.put key type optional = { shape with fields := shape.fields.map fun old =>
      if old.key = key.canonical then ⟨key.canonical, type, optional⟩ else old } := if_pos taken

theorem putFresh {shape : Shape} {key : ShapeKey} (fresh : key.canonical ∉ shape.keys) (type : TypeUnion)
    (optional : Bool) : shape.put key type optional =
      { shape with fields := shape.fields ++ [⟨key.canonical, type, optional⟩] } := if_neg fresh

theorem putKeys (shape : Shape) (key : ShapeKey) (type : TypeUnion) (optional : Bool) :
    (shape.put key type optional).keys =
      if key.canonical ∈ shape.keys then shape.keys else shape.keys ++ [key.canonical] := by
  split
  · next taken =>
    rw [putTaken taken, keys, keys, List.map_map]
    apply List.map_congr_left
    intro old _
    simp only [Function.comp_apply]
    split
    · next same => exact same.symm
    · rfl
  · next fresh =>
    rw [putFresh fresh, keys, keys]
    simp

theorem putFields {shape : Shape} {key : ShapeKey} {type : TypeUnion} {optional : Bool} {field : ShapeField}
    (member : field ∈ (shape.put key type optional).fields) :
    field ∈ shape.fields ∧ field.key ≠ key.canonical ∨ field = ⟨key.canonical, type, optional⟩ := by
  by_cases taken : key.canonical ∈ shape.keys
  · rw [putTaken taken] at member
    obtain ⟨old, inside, same⟩ := List.mem_map.mp member
    split at same
    · exact .inr same.symm
    · next other => exact .inl (same ▸ ⟨inside, other⟩)
  · rw [putFresh taken] at member
    rcases List.mem_append.mp member with old | new
    · exact .inl ⟨old, fun same => taken (same ▸ List.mem_map_of_mem old)⟩
    · exact .inr (List.mem_singleton.mp new)

theorem apartSnoc {keys : List ShapeKey} {key : ShapeKey} (apart : keys.Nodup) (fresh : key ∉ keys) :
    (keys ++ [key]).Nodup := by
  rw [← List.concat_eq_append, List.nodup_concat]
  exact ⟨fresh, apart⟩

theorem putKeysProper {shape : Shape} (proper : shape.KeysProper) (key : ShapeKey) (type : TypeUnion)
    (optional : Bool) : (shape.put key type optional).KeysProper := by
  simp only [KeysProper, putKeys]
  split
  · exact proper
  · next fresh =>
    refine ⟨apartSnoc proper.1 fresh, ?_⟩
    intro other inside
    rcases List.mem_append.mp inside with old | new
    · exact proper.2 other old
    · rw [List.mem_singleton.mp new]
      exact key.canonicalCanonical

def canonicalField (field : ShapeField) : ShapeField := { field with key := field.key.canonical }

theorem insertAllIff {isList : Bool} {fields : List ShapeField} {shape result : Shape}
    (start : shape.isList = isList) (apart : shape.keys.Nodup) :
    fields.foldlM insertNew shape = .ok result ↔
      (shape.keys ++ fields.map (·.key.canonical)).Nodup ∧
        result = ⟨isList, shape.fields ++ fields.map canonicalField⟩ := by
  induction fields generalizing shape with
  | nil =>
    obtain ⟨_, fields⟩ := shape
    cases start
    simp [apart, pure, Except.pure, eq_comm]
  | cons field fields ih =>
    rw [List.foldlM_cons]
    by_cases taken : field.key.canonical ∈ shape.keys
    · simp only [insertNew, if_pos taken]
      constructor
      · intro impossible; cases impossible
      · rintro ⟨apart, _⟩
        exact absurd rfl ((List.nodup_append.mp apart).2.2 _ taken _ (by simp))
    · have added : insertNew shape field = .ok { shape with fields := shape.fields ++ [canonicalField field] } :=
        if_neg taken
      have keysAdded : ({ shape with fields := shape.fields ++ [canonicalField field] } : Shape).keys =
          shape.keys ++ [field.key.canonical] := by simp [keys, canonicalField]
      have stillApart : (shape.keys ++ [field.key.canonical]).Nodup := apartSnoc apart taken
      rw [added]
      have rest := @ih { shape with fields := shape.fields ++ [canonicalField field] } start (keysAdded ▸ stillApart)
      rw [keysAdded] at rest
      simpa [List.append_assoc, bind, Except.bind] using rest

theorem ofFieldsIff {isList : Bool} {fields : List ShapeField} {shape : Shape} :
    ofFields isList fields = .ok shape ↔
      (fields.map (·.key.canonical)).Nodup ∧ shape = ⟨isList, fields.map canonicalField⟩ := by
  have start : (⟨isList, []⟩ : Shape).keys.Nodup := List.nodup_nil
  exact insertAllIff rfl start

theorem ofFieldsTaken {isList : Bool} {front back : List ShapeField} {field : ShapeField}
    (apart : (front.map (·.key.canonical)).Nodup) (taken : field.key.canonical ∈ front.map (·.key.canonical)) :
    ofFields isList (front ++ field :: back) = .error (.duplicateKey field.key.canonical) := by
  have made : ofFields isList front = .ok ⟨isList, front.map canonicalField⟩ := ofFieldsIff.mpr ⟨apart, rfl⟩
  have keysMade : keys ⟨isList, front.map canonicalField⟩ = front.map (·.key.canonical) := by
    simp [keys, canonicalField]
  rw [ofFields] at made ⊢
  rw [List.foldlM_append, made]
  simp only [bind, Except.bind, List.foldlM_cons, insertNew, keysMade, if_pos taken]

theorem ofFieldsDoubled {isList : Bool} {front back : List ShapeField} {field : ShapeField}
    (apart : ((front ++ back).map (·.key.canonical)).Nodup)
    (there : field.key.canonical ∈ (front ++ back).map (·.key.canonical)) :
    ofFields isList (front ++ field :: back) = .error (.duplicateKey field.key.canonical) := by
  rw [List.map_append] at apart there
  by_cases before : field.key.canonical ∈ front.map (·.key.canonical)
  · exact ofFieldsTaken (List.nodup_append.mp apart).1 before
  · obtain ⟨other, inside, same⟩ := List.mem_map.mp ((List.mem_append.mp there).resolve_left before)
    obtain ⟨between, behind, rfl⟩ := List.append_of_mem inside
    have apart : ((front ++ field :: between).map (·.key.canonical)).Nodup := by
      have first : (front.map (·.key.canonical) ++ between.map (·.key.canonical) ++ [field.key.canonical]).Nodup := by
        rw [← same]
        exact apart.sublist (by simp)
      refine (List.Perm.nodup_iff ?_).mp first
      rw [List.map_append, List.map_cons, List.append_assoc]
      exact (List.perm_append_singleton ..).append_left _
    have taken : other.key.canonical ∈ (front ++ field :: between).map (·.key.canonical) := by simp [same]
    have found := @ofFieldsTaken isList _ behind other apart taken
    rwa [List.append_assoc, List.cons_append, same] at found

theorem ofFieldsKeysProper {isList : Bool} {fields : List ShapeField} {shape : Shape}
    (made : ofFields isList fields = .ok shape) : shape.KeysProper := by
  obtain ⟨apart, rfl⟩ := ofFieldsIff.mp made
  have keysMade : keys ⟨isList, fields.map canonicalField⟩ = fields.map (·.key.canonical) := by
    simp [keys, canonicalField]
  rw [KeysProper, keysMade]
  refine ⟨apart, fun key member => ?_⟩
  obtain ⟨field, _, rfl⟩ := List.mem_map.mp member
  exact field.key.canonicalCanonical

theorem ofFieldsAgain {shape : Shape} (proper : shape.KeysProper) :
    ofFields shape.isList shape.fields = .ok shape := by
  obtain ⟨isList, fields⟩ := shape
  have same : ∀ field ∈ fields, field.key.canonical = field.key := fun field member =>
    ShapeKey.canonicalOfCanonical (proper.2 field.key (List.mem_map_of_mem member))
  have kept : fields.map canonicalField = fields.map id := by
    apply List.map_congr_left
    intro field member
    rw [canonicalField, same field member]
    cases field; rfl
  rw [ofFieldsIff, List.map_congr_left same, kept, List.map_id]
  exact ⟨proper.1, rfl⟩

end TypeLens.Shape
