import TypeLens.Proofs.Json.Fields

/-! Looking up members. A member is found under its name wherever it stands, if no other one has this name; members
of other names do not count. -/
namespace TypeLens.Json

variable {α β : Type}

def Only (members : List Member) (member : Member) : Prop :=
  members.filter (fun other => other.name = member.name) = [member]

theorem noneNamed {members : List Member} {name : Text} (absent : ∀ member ∈ members, member.name ≠ name) :
    members.filter (fun member => member.name = name) = [] :=
  List.filter_eq_nil_iff.mpr fun member inside => by simpa using absent member inside

theorem onlyOfApart {members : List Member} (apart : (members.map (·.name)).Nodup) {member : Member}
    (inside : member ∈ members) : Only members member := by
  induction members with
  | nil => cases inside
  | cons first members ih =>
    obtain ⟨fresh, apart⟩ := List.nodup_cons.mp apart
    rcases List.mem_cons.mp inside with rfl | inside
    · have none : members.filter (fun other => other.name = member.name) = [] :=
        noneNamed fun other among same => fresh (List.mem_map.mpr ⟨other, among, same⟩)
      rw [Only, List.filter_cons_of_pos (by simp), none]
    · have differs : first.name ≠ member.name := by
        intro same
        exact fresh (List.mem_map.mpr ⟨member, inside, same.symm⟩)
      rw [Only, List.filter_cons_of_neg (by simpa using differs)]
      exact ih apart inside

theorem onlyNamed {members : List Member} {name : Text} {member : Member}
    (found : members.filter (fun other => other.name = name) = [member]) : member.name = name ∧ Only members member := by
  have among : member ∈ members.filter (fun other => other.name = name) := by
    rw [found]
    exact List.mem_singleton_self _
  obtain rfl : member.name = name := of_decide_eq_true (List.mem_filter.mp among).2
  exact ⟨rfl, found⟩

theorem onlySplit {members : List Member} {member : Member} (only : Only members member) :
    ∃ before after, members = before ++ member :: after ∧ ∀ other ∈ before ++ after, other.name ≠ member.name := by
  obtain ⟨before, after, rfl, others, _, later⟩ := List.filter_eq_cons_iff.mp only
  refine ⟨before, after, rfl, List.forall_mem_append.mpr ⟨?_, ?_⟩⟩
  · simpa using others
  · simpa using List.filter_eq_nil_iff.mp later

theorem memberFieldFound {members : List Member} {name : Text} {value : Value} {missing : Checked α}
    {read : (value : Value) → value ∈ members.map (·.value) → Except Refusal α} {result : α}
    (only : Only members ⟨name, value⟩) (taken : ∀ inside, read value inside = .ok result) :
    Contents.memberField members name missing read = .ok result := by
  obtain ⟨before, after, rfl, apart⟩ := onlySplit only
  obtain ⟨others, later⟩ := List.forall_mem_append.mp apart
  have found : (before ++ ⟨name, value⟩ :: after).find? (fun member => member.name = name) = some ⟨name, value⟩ := by
    rw [← List.head?_filter, only, List.head?_cons]
  have place : (before ++ ⟨name, value⟩ :: after).findIdx (fun member => member.name = name) = before.length := by
    rw [List.findIdx_append, List.findIdx_cons]
    have none : before.findIdx (fun member => member.name = name) = before.length := by
      simpa using others
    simp [none]
  have noMore : after.findIdx? (fun member => member.name = name) = none := by
    simpa [List.findIdx?_eq_none_iff] using later
  have behind : (before ++ ⟨name, value⟩ :: after).drop (before.length + 1) = after := by
    simp [List.drop_append]
  unfold Contents.memberField
  split
  · next missed => rw [found] at missed; cases missed
  · next member same =>
    rw [found] at same
    cases same
    simp only [taken, place, behind, noMore]

theorem namedField {members : List Member} {record : Record} {name : Text} {value : Value} {default : Option α}
    {read : (value : Value) → value ∈ (Contents.named members).values → Except Refusal α} {result : α}
    (only : Only members ⟨name, value⟩) (taken : ∀ inside, read value inside = .ok result) :
    (Contents.named members).field record name default read = .ok result := memberFieldFound only taken

theorem listAgain {decode : Value → Except Refusal α} {encode : α → Value} {list : List α}
    (each : ∀ item ∈ list, decode (encode item) = .ok item) :
    (Value.array (list.map encode)).list (fun item _ => decode item) = .ok list := by
  have read : (list.map encode).attach.map (fun item => decode item.1) = list.map .ok := by
    rw [List.attach_map_val, List.map_map]
    exact List.map_congr_left each
  exact mapMOkIff.mpr read

theorem nullableAgain {value : Value} {read : Except Refusal α} {result : α} (notNull : value ≠ .null)
    (taken : read = .ok result) : value.nullable read = .ok (some result) := by
  unfold Value.nullable
  split
  · contradiction
  · rw [taken]; rfl

def noRepeat (name : Text) (place : Nat) : List Member → Checked Unit
  | [] => .ok ()
  | member :: members =>
    if member.name = name then .fault place (.duplicateField name) else noRepeat name (place + 1) members

def lookup (name : Text) (missing : Checked α) (decode : Value → Except Refusal α) (place : Nat) :
    List Member → Checked α
  | [] => missing
  | member :: members =>
    if member.name = name then .ofExcept place (decode member.value) <* noRepeat name (place + 1) members
    else lookup name missing decode (place + 1) members

theorem noRepeatForm (name : Text) (place : Nat) (members : List Member) : noRepeat name place members =
    match members.findIdx? (fun member => member.name = name) with
    | some later => .fault (place + later) (.duplicateField name)
    | none => .ok () := by
  induction members generalizing place with
  | nil => rfl
  | cons member members ih =>
    rw [noRepeat, List.findIdx?_cons]
    split
    · next same => simp [same]
    · next other =>
      rw [ih]
      cases members.findIdx? (fun member => member.name = name) <;> simp [other]
      omega

theorem lookupForm {name : Text} {missing : Checked α} {decode : Value → Except Refusal α} (members : List Member) :
    Contents.memberField members name missing (fun value _ => decode value) = lookup name missing decode 0 members := by
  have whole (place : Nat) : lookup name missing decode place members =
      match members.find? (fun member => member.name = name) with
      | none => missing
      | some member =>
        .ofExcept (place + members.findIdx fun member => member.name = name) (decode member.value) <*
          noRepeat name (place + members.findIdx (fun member => member.name = name) + 1)
            (members.drop (members.findIdx (fun member => member.name = name) + 1)) := by
    induction members generalizing place with
    | nil => rfl
    | cons member members ih =>
      rw [lookup, List.find?_cons, List.findIdx_cons]
      split
      · next same => simp [same]
      · next other =>
        rw [ih]
        simp only [other, decide_false, cond_false, List.drop_succ_cons, Nat.add_assoc,
          Nat.add_comm 1]
  rw [whole, Contents.memberField]
  split
  · next missed => simp only [missed]
  · next member found =>
    simp only [found, noRepeatForm, Nat.zero_add]
    split
    · next taken =>
      rw [taken]
      generalize List.findIdx? _ _ = later
      cases later with
      | none => rfl
      | some later =>
        refine Eq.symm (if_pos ?_)
        omega
    · next taken =>
      rw [taken]
      generalize List.findIdx? _ _ = later
      cases later <;> rfl

theorem namedForm (members : List Member) (record : Record) (name : Text) (default : Option α)
    (decode : Value → Except Refusal α) :
    (Contents.named members).field record name default (fun value _ => decode value) =
      lookup name (default.elim (.fault (members.length + record.position name) (.missingField name)) .ok) decode 0
        members := lookupForm members

theorem noRepeatOkIff {name : Text} {place : Nat} {members : List Member} :
    (∃ found, noRepeat name place members = .ok found) ↔ members.filter (fun member => member.name = name) = [] := by
  induction members generalizing place with
  | nil => simp [noRepeat]
  | cons member members ih =>
    rw [noRepeat, List.filter_cons]
    split <;> simp_all

theorem lookupOkIff {name : Text} {missing : Checked α} {decode : Value → Except Refusal α} {place : Nat}
    {members : List Member} {result : α} : lookup name missing decode place members = .ok result ↔
      (members.filter (fun member => member.name = name) = [] ∧ missing = .ok result) ∨
        ∃ member, members.filter (fun member => member.name = name) = [member] ∧ decode member.value = .ok result := by
  induction members generalizing place with
  | nil => simp [lookup]
  | cons member members ih =>
    rw [lookup, List.filter_cons]
    split
    · next same =>
      simp only [Checked.seqLeftOkIff, Checked.ofExceptOkIff, noRepeatOkIff, same, decide_true, if_true]
      constructor
      · rintro ⟨read, others⟩
        exact .inr ⟨member, by rw [others], read⟩
      · rintro (⟨none, _⟩ | ⟨_, only, read⟩)
        · cases none
        · obtain ⟨rfl, others⟩ := List.cons.inj only
          exact ⟨read, others⟩
    · next other => simp [other, ih]

theorem namedOkIff {members : List Member} {record : Record} {name : Text} {default : Option α}
    {decode : Value → Except Refusal α} {result : α} :
    (Contents.named members).field record name default (fun value _ => decode value) = .ok result ↔
      (members.filter (fun member => member.name = name) = [] ∧ default = some result) ∨
        ∃ member, members.filter (fun member => member.name = name) = [member] ∧ decode member.value = .ok result := by
  have stands {place refusal} : (default.elim (.fault place refusal) .ok : Checked α) = .ok result ↔
      default = some result := by cases default <;> simp
  rw [namedForm, lookupOkIff, stands]

theorem namedHereIff {before after : List Member} {record : Record} {name : Text} {value : Value} {default : Option α}
    {decode : Value → Except Refusal α} {result : α} :
    (Contents.named (before ++ ⟨name, value⟩ :: after)).field record name default (fun value _ => decode value) =
        .ok result ↔ (∀ member ∈ before ++ after, member.name ≠ name) ∧ decode value = .ok result := by
  rw [namedOkIff, List.filter_append, List.filter_cons_of_pos (by simp)]
  constructor
  · rintro (⟨none, _⟩ | ⟨member, only, read⟩)
    · simp at none
    · have count := congrArg List.length only
      simp only [List.length_append, List.length_cons, List.length_nil] at count
      have none : before.filter (fun member => member.name = name) = [] := List.length_eq_zero_iff.mp (by omega)
      rw [none] at only
      obtain ⟨rfl, noneLater⟩ := List.cons.inj only
      refine ⟨List.forall_mem_append.mpr ⟨?_, ?_⟩, read⟩
      · simpa using List.filter_eq_nil_iff.mp none
      · simpa using List.filter_eq_nil_iff.mp noneLater
  · rintro ⟨absent, read⟩
    obtain ⟨absentBefore, absentAfter⟩ := List.forall_mem_append.mp absent
    exact .inr ⟨⟨name, value⟩, by rw [noneNamed absentBefore, noneNamed absentAfter]; rfl, read⟩

theorem namedElsewhereIff {before after : List Member} {record : Record} {target name : Text} {value value' : Value}
    (apart : target ≠ name) {default : Option α} {decode : Value → Except Refusal α} {result : α} :
    (Contents.named (before ++ ⟨target, value⟩ :: after)).field record name default (fun value _ => decode value) =
      .ok result ↔ (Contents.named (before ++ ⟨target, value'⟩ :: after)).field record name default
        (fun value _ => decode value) = .ok result := by
  rw [namedOkIff, namedOkIff, List.filter_append, List.filter_append, List.filter_cons_of_neg (by simpa using apart),
    List.filter_cons_of_neg (by simpa using apart)]

/- A member of another name only moves the places. -/

namespace Checked

def moved (place : Nat → Nat) : Checked α → Checked α
  | ok value => ok value
  | fault i refusal => fault (place i) refusal

variable {place : Nat → Nat}

theorem resultMoved (checked : Checked α) : (checked.moved place).result = checked.result := by
  cases checked <;> rfl

theorem movedMap (f : α → β) (checked : Checked α) : f <$> checked.moved place = (f <$> checked).moved place := by
  cases checked <;> rfl

theorem movedSeq (order : ∀ i j, place i ≤ place j ↔ i ≤ j) (f : Checked (α → β)) (checked : Checked α) :
    f.moved place <*> checked.moved place = (f <*> checked).moved place := by
  change ap _ _ = moved place (ap _ _)
  cases f <;> cases checked <;> simp only [moved, ap, order]
  split <;> rfl

theorem movedSeqLeft (order : ∀ i j, place i ≤ place j ↔ i ≤ j) (checked : Checked α) (last : Checked β) :
    checked.moved place <* last.moved place = (checked <* last).moved place := by
  change Function.const β <$> checked.moved place <*> last.moved place = _
  rw [movedMap, movedSeq order]
  rfl

end Checked

def skipping (new place : Nat) : Nat := if place < new then place else place + 1

theorem skippingOrder (new i j : Nat) : skipping new i ≤ skipping new j ↔ i ≤ j := by
  unfold skipping
  split <;> split <;> omega

theorem noRepeatLater (name : Text) {new place : Nat} (behind : new ≤ place) (members : List Member) :
    noRepeat name (place + 1) members = (noRepeat name place members).moved (skipping new) := by
  induction members generalizing place with
  | nil => rfl
  | cons member members ih =>
    rw [noRepeat, noRepeat]
    split
    · simp [Checked.moved, skipping, Nat.not_lt.mpr behind]
    · exact ih (Nat.le_succ_of_le behind)

theorem ofExceptMoved (place : Nat → Nat) (i : Nat) (read : Except Refusal α) :
    Checked.ofExcept (place i) read = (Checked.ofExcept i read).moved place := by
  cases read <;> rfl

section
variable {name : Text} {decode : Value → Except Refusal α} {missing : Checked α}

theorem lookupLater {new place : Nat} (behind : new ≤ place) (members : List Member) :
    lookup name (missing.moved (skipping new)) decode (place + 1) members =
      (lookup name missing decode place members).moved (skipping new) := by
  induction members generalizing place with
  | nil => rfl
  | cons member members ih =>
    have after : place + 1 = skipping new place := by simp [skipping, Nat.not_lt.mpr behind]
    rw [lookup, lookup]
    split
    · rw [noRepeatLater name (Nat.le_succ_of_le behind), after, ofExceptMoved, ← after,
        Checked.movedSeqLeft (skippingOrder new)]
    · exact ih (Nat.le_succ_of_le behind)

theorem noRepeatInserted {other : Member} (apart : other.name ≠ name) (place : Nat) (before after : List Member) :
    noRepeat name place (before ++ other :: after) =
      (noRepeat name place (before ++ after)).moved (skipping (place + before.length)) := by
  induction before generalizing place with
  | nil =>
    rw [List.nil_append, noRepeat, if_neg apart]
    exact noRepeatLater name (Nat.le_refl place) after
  | cons first before ih =>
    rw [List.cons_append, List.cons_append, noRepeat, noRepeat]
    split
    · simp [Checked.moved, skipping]
    · rw [ih, List.length_cons, Nat.add_assoc, Nat.add_comm 1]

theorem lookupInserted {other : Member} (apart : other.name ≠ name) (place : Nat) (before after : List Member) :
    lookup name (missing.moved (skipping (place + before.length))) decode place (before ++ other :: after) =
      (lookup name missing decode place (before ++ after)).moved (skipping (place + before.length)) := by
  induction before generalizing place with
  | nil =>
    rw [List.nil_append, lookup, if_neg apart]
    exact lookupLater (Nat.le_refl place) after
  | cons first before ih =>
    have further : place + (first :: before).length = place + 1 + before.length := by simp; omega
    rw [List.cons_append, List.cons_append, lookup, lookup, further]
    split
    · have front : place = skipping (place + 1 + before.length) place := by unfold skipping; split <;> omega
      rw [noRepeatInserted apart, ← Checked.movedSeqLeft (skippingOrder _), ← ofExceptMoved, ← front]
    · exact ih (place + 1)

theorem fieldInserted {other : Member} (apart : other.name ≠ name) (record : Record) (default : Option α)
    (before after : List Member) :
    (Contents.named (before ++ other :: after)).field record name default (fun value _ => decode value) =
      ((Contents.named (before ++ after)).field record name default fun value _ => decode value).moved
        (skipping before.length) := by
  have missing : (default.elim (Checked.fault ((before ++ other :: after).length + record.position name)
      (.missingField name)) .ok : Checked α) = (default.elim (.fault ((before ++ after).length + record.position name)
        (.missingField name)) .ok : Checked α).moved (skipping before.length) := by
    cases default with
    | some value => rfl
    | none =>
      simp only [Option.elim_none, Checked.moved, skipping, List.length_append, List.length_cons]
      split
      · omega
      · congr 1
        omega
  have inserted := @lookupInserted _ name decode (default.elim (.fault ((before ++ after).length +
    record.position name) (.missingField name)) .ok) other apart 0 before after
  rw [Nat.zero_add, ← missing] at inserted
  rw [namedForm, namedForm, inserted]

end

end TypeLens.Json
