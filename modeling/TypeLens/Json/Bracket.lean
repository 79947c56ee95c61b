import TypeLens.Json.Scalar

/-! What stands between brackets. A refusal inside does not end the reading at once: the
closing bracket is still looked for, and the refusal gets its place behind it. -/
namespace TypeLens.Json

inductive NextItem where
  | close (rest : Text)
  | item (text : Text)

def nextItem (first : Bool) (text : Text) : Except Failure NextItem :=
  match skipBlanks text with
  | [] => .error (.atEnd .list)
  | c :: rest =>
    if c = ']' then .ok (.close rest)
    else if first then .ok (.item (c :: rest))
    else if c = ',' then
      match skipBlanks rest with
      | [] => .error (.atEnd .value)
      | d :: tail =>
        if d = ']' then .error (.ofSyntax .trailingComma (d :: tail)) else .ok (.item (d :: tail))
    else .error (.ofSyntax .noCommaInList (c :: rest))

inductive NextMember where
  | close (rest : Text)
  | member (name : Text) (rest : Text)

def memberName (text : Text) : Except Failure NextMember :=
  match text with
  | [] => .error (.atEnd .value)
  | c :: rest =>
    if c = '"' then (characters rest).map fun (name, rest) => .member name rest
    else .error (.ofSyntax .keyNoString text)

def nextMember (first : Bool) (text : Text) : Except Failure NextMember :=
  match skipBlanks text with
  | [] => .error (.atEnd .object)
  | c :: rest =>
    if c = '\x7d' then .ok (.close rest)
    else if first then memberName (c :: rest)
    else if c = ',' then
      match skipBlanks rest with
      | [] => .error (.atEnd .value)
      | d :: tail =>
        if d = '\x7d' then .error (.ofSyntax .trailingComma (d :: tail)) else memberName (d :: tail)
    else .error (.ofSyntax .noCommaInObject (c :: rest))

def closeList (text : Text) : Except Failure Text :=
  match skipBlanks text with
  | [] => .error (.atEnd .list)
  | c :: rest =>
    if c = ']' then .ok rest
    else if c = ',' then
      let after := skipBlanks rest
      .error (.ofSyntax (if after.head? = some ']' then .trailingComma else .trailingCharacters) after)
    else .error (.ofSyntax .trailingCharacters (c :: rest))

def leaveList (text : Text) : Text :=
  match skipBlanks text with
  | [] => []
  | c :: rest => if c = ']' then rest else if c = ',' then skipBlanks rest else c :: rest

def leaveObject (text : Text) : Text :=
  match skipBlanks text with
  | [] => []
  | c :: rest => if c = '\x7d' then rest else c :: rest

def colon (text : Text) : Except Failure Text :=
  match skipBlanks text with
  | [] => .error (.atEnd .object)
  | c :: rest => if c = ':' then .ok rest else .error (.ofSyntax .noColon (c :: rest))

theorem nextItemCloseLt {first : Bool} {text rest : Text} (h : nextItem first text = .ok (.close rest)) :
    rest.length < text.length := by
  unfold nextItem at h
  split at h
  · cases h
  · next c tail blank =>
    split at h
    · cases h; exact skipBlanksCons blank
    · split at h
      · cases h
      · split at h
        · split at h
          · cases h
          · split at h <;> cases h
        · cases h

theorem nextItemLe {first : Bool} {text item : Text} (h : nextItem first text = .ok (.item item)) :
    item.length ≤ text.length := by
  unfold nextItem at h
  split at h
  · cases h
  · next c tail blank =>
    have le := skipBlanksLe text
    rw [blank] at le
    split at h
    · cases h
    · split at h
      · cases h; exact le
      · split at h
        · split at h
          · cases h
          · next d rest inner =>
            have leInner := skipBlanksLe tail
            rw [inner] at leInner
            split at h
            · cases h
            · cases h; simp only [List.length_cons] at *; omega
        · cases h

theorem memberNameLt {text name rest : Text} (h : memberName text = .ok (.member name rest)) :
    rest.length < text.length := by
  unfold memberName at h
  split at h
  · cases h
  · split at h
    · obtain ⟨pair, read, same⟩ := mapOk h
      cases same
      have := charactersLt read
      simp only [List.length_cons]; omega
    · cases h

theorem nextMemberLt {first : Bool} {text name rest : Text} (h : nextMember first text = .ok (.member name rest)) :
    rest.length < text.length := by
  unfold nextMember at h
  split at h
  · cases h
  · next c tail blank =>
    have le := skipBlanksLe text
    rw [blank] at le
    split at h
    · cases h
    · split at h
      · exact Nat.lt_of_lt_of_le (memberNameLt h) le
      · split at h
        · split at h
          · cases h
          · next d rest inner =>
            have leInner := skipBlanksLe tail
            rw [inner] at leInner
            split at h
            · cases h
            · have := memberNameLt h
              simp only [List.length_cons] at *; omega
        · cases h

theorem memberNameClose {text rest : Text} : memberName text ≠ .ok (.close rest) := by
  intro h
  unfold memberName at h
  split at h
  · cases h
  · split at h
    · obtain ⟨_, _, same⟩ := mapOk h
      cases same
    · cases h

theorem nextMemberCloseLt {first : Bool} {text rest : Text} (h : nextMember first text = .ok (.close rest)) :
    rest.length < text.length := by
  unfold nextMember at h
  split at h
  · cases h
  · next c tail blank =>
    split at h
    · cases h; exact skipBlanksCons blank
    · split at h
      · exact absurd h memberNameClose
      · split at h
        · split at h
          · cases h
          · split at h
            · cases h
            · exact absurd h memberNameClose
        · cases h

theorem closeListLt {text rest : Text} (h : closeList text = .ok rest) : rest.length < text.length := by
  unfold closeList at h
  split at h
  · cases h
  · next c tail blank =>
    split at h
    · cases h; exact skipBlanksCons blank
    · split at h <;> cases h

theorem colonLt {text rest : Text} (h : colon text = .ok rest) : rest.length < text.length := by
  unfold colon at h
  split at h
  · cases h
  · next c tail blank =>
    split at h
    · cases h; exact skipBlanksCons blank
    · cases h

variable {α σ : Type}

def items (item : Reader α) (first : Bool) (text : Text) : Reading (List α) :=
  match _next : nextItem first text with
  | .error failure => .failed failure
  | .ok (.close rest) => .ok [] rest
  | .ok (.item start) =>
    match _read : item.read start with
    | .ok value rest => (items item false rest).map (value :: ·)
    | .refused refusal rest => .refused refusal (leaveList rest)
    | .failed failure => .failed failure
termination_by text.length
decreasing_by
  have := nextItemLe _next
  have := item.consumes _read
  omega

def members (step : σ → Text → Reader σ) (state : σ) (first : Bool) (text : Text) : Reading σ :=
  match _next : nextMember first text with
  | .error failure => .failed failure
  | .ok (.close rest) => .ok state rest
  | .ok (.member name start) =>
    match _read : (step state name).read start with
    | .ok next rest => members step next false rest
    | .refused refusal rest => .refused refusal (leaveObject rest)
    | .failed failure => .failed failure
termination_by text.length
decreasing_by
  have := nextMemberLt _next
  have := (step state name).consumes _read
  omega

theorem itemsLt {item : Reader α} {first : Bool} {text : Text} {values rest}
    (h : items item first text = .ok values rest) : rest.length < text.length := by
  fun_induction items item first text generalizing values with
  | case1 => cases h
  | case2 first text rest next => cases h; exact nextItemCloseLt next
  | case3 first text start next value left read ih =>
    obtain ⟨_, deeper, _⟩ := Reading.mapOk h
    have := nextItemLe next
    have := item.consumes read
    have := ih deeper
    omega
  | case4 => cases h
  | case5 => cases h

theorem membersLt {step : σ → Text → Reader σ} {state : σ} {first : Bool} {text : Text} {final rest}
    (h : members step state first text = .ok final rest) : rest.length < text.length := by
  fun_induction members step state first text with
  | case1 => cases h
  | case2 state first text rest next => cases h; exact nextMemberCloseLt next
  | case3 state first text name start next value left read ih =>
    have := nextMemberLt next
    have := (step state name).consumes read
    have := ih h
    omega
  | case4 => cases h
  | case5 => cases h

def Reader.afterColon (reader : Reader α) : Reader α where
  read text := match colon text with
    | .ok rest => reader.read rest
    | .error failure => .failed failure
  consumes {text value rest} h := by
    split at h
    · next start found => exact Nat.lt_trans (reader.consumes h) (colonLt found)
    · cases h

end TypeLens.Json
