import TypeLens.Json.Bracket

/-! Reading any JSON value, under a bound on how many brackets may be open at once. -/
namespace TypeLens.Json

def bracketed (inner : Option (Reader Value)) : Reader Value where
  read text :=
    match skipBlanks text with
    | [] => .failed (.atEnd .value)
    | c :: rest =>
      if c = '[' ∨ c = '\x7b' then
        match inner with
        | none => .failed (.ofSyntax .tooDeep (c :: rest))
        | some inner =>
          if c = '[' then (items inner true rest).map .array
          else
            (members (fun found name => inner.afterColon.map fun value => found ++ [⟨name, value⟩])
              [] true rest).map .object
      else .ofScan (scalar (c :: rest))
  consumes {text value rest} h := by
    split at h
    · cases h
    · next c tail blank =>
      have le := skipBlanksLe text
      rw [blank, List.length_cons] at le
      split at h
      · split at h
        · cases h
        · split at h
          · obtain ⟨_, read, _⟩ := Reading.mapOk h
            have := itemsLt read
            omega
          · obtain ⟨_, read, _⟩ := Reading.mapOk h
            have := membersLt read
            omega
      · have := scalarLt (Reading.ofScanOk h)
        simp only [List.length_cons] at this
        omega

def anyValue : (depth : Nat) → Reader Value
  | 0 => bracketed none
  | depth + 1 => bracketed (some (anyValue depth))

end TypeLens.Json
