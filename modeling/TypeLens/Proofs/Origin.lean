import TypeLens.Proofs.Building
import TypeLens.Proofs.Decoded
import TypeLens.Proofs.RoundTrip

/-! Wherever a type comes from, it is well-formed: a type is decoded from a text, or put together by calls. -/
namespace TypeLens

open TypeLens.Part

theorem everyTypeWellFormed :
    (∀ text union, TypeUnion.decode text = .ok union → union.WellFormed) ∧
      (∀ text atomic, Atomic.decode text = .ok atomic → atomic.WellFormed) ∧
        (∀ text sites, Site.decodeAll text = .ok sites → ∀ site ∈ sites, site.WellFormed) ∧
          ∀ store, Built store → ∀ part ∈ store, part.WellFormed := by
  refine ⟨?_, ?_, ?_, ?_⟩
  · intro text union decoded
    exact Json.decodeGives (unionReaderGives _) decoded
  · intro text atomic decoded
    exact Json.decodeGives (atomicReaderGives _) decoded
  · intro text sites decoded
    exact Json.decodeGives (Json.listOfGives siteReaderGives _) decoded
  · intro store built
    exact builtWellFormed built

-- The name that spells an index has become this index, so that the element comes behind both fields.
theorem innermostBuilt : ∃ store, Built (ofShape (innermost.element number) :: ofShape innermost :: store) := by
  have one : Built [ofAtomic (.plain "int")] := .call .start (.plain "int")
  have two := Built.call one (.single List.mem_cons_self)
  have three := Built.call two .keyed
  have four := Built.call three (@Made.field _ .keyed number (.name "0") (by simp) (by simp [number]))
  have five := Built.call four (@Made.optionalField _ _ number (.name "a") List.mem_cons_self (by simp [number]))
  exact ⟨_, .call five (@Made.element _ innermost number List.mem_cons_self (by simp [number]))⟩

theorem nestedEverywhere :
    (TypeUnion.decode (nested 60).toValue.text = .ok (nested 60) ∧ (nested 60).WellFormed) ∧
      (Atomic.decode (Atomic.list (nested 60) true).toValue.text = .ok (.list (nested 60) true) ∧
        (Atomic.list (nested 60) true).WellFormed) ∧
        (Site.decodeAll (Json.Value.array ([nestedSite 59].map Site.toValue)).text = .ok [nestedSite 59] ∧
          (nestedSite 59).WellFormed) ∧
          ∃ store, Built store ∧ ofShape innermost ∈ store ∧ (ofShape innermost).WellFormed := by
  obtain ⟨unions, atomics, siteLists, runs⟩ := everyTypeWellFormed
  have union := (roundTripOf (unionReads (nestedWellFormed 60))).decoded (by simp [nestedDepth])
  have atomic := (roundTripOf (atomicReads (nestedListWellFormed 60 true))).decoded (by simp [nestedListDepth])
  have sites := (roundTripOf (siteListReads (nestedSiteWellFormed 59))).decoded (by rw [nestedSiteDepth]; decide)
  obtain ⟨store, run⟩ := innermostBuilt
  have member : ofShape innermost ∈ ofShape (innermost.element number) :: ofShape innermost :: store := by simp
  refine ⟨⟨union, unions _ _ union⟩, ⟨atomic, atomics _ _ atomic⟩, ⟨sites, ?_⟩, _, run, member, runs _ run _ member⟩
  exact siteLists _ _ sites _ List.mem_cons_self

end TypeLens
