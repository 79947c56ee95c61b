import TypeLens.Json.Typed

/-! What can be said of everything that a reader gives, whatever the text. It is carried from the readers of
the parts to the reader of the whole; for a record, from one draft to the next. -/
namespace TypeLens.Json

variable {α β σ : Type}

def Reader.Gives (reader : Reader α) (Holds : α → Prop) : Prop :=
  ∀ text value rest, reader.read text = .ok value rest → Holds value

theorem Reader.mapGives {reader : Reader α} {f : α → β} {Holds : β → Prop}
    (gives : reader.Gives fun value => Holds (f value)) : (reader.map f).Gives Holds := by
  intro text value rest read
  obtain ⟨source, found, rfl⟩ := Reading.mapOk read
  exact gives _ _ _ found

theorem Reader.refineGives {reader : Reader α} {check : α → Except Refusal β} {Before : α → Prop}
    {Holds : β → Prop} (gives : reader.Gives Before)
    (kept : ∀ source value, Before source → check source = .ok value → Holds value) :
    (reader.refine check).Gives Holds := by
  intro text value rest read
  obtain ⟨source, read, checked⟩ := Reading.refineOk read
  exact kept source value (gives _ _ _ read) checked

theorem itemsGive {item : Reader α} {Holds : α → Prop} (gives : item.Gives Holds) {first : Bool} {text : Text}
    {values : List α} {rest : Text} (read : items item first text = .ok values rest) :
    ∀ value ∈ values, Holds value := by
  fun_induction items item first text generalizing values with
  | case1 => cases read
  | case2 => cases read; simp
  | case3 first text start next value left found ih =>
    obtain ⟨more, deeper, rfl⟩ := Reading.mapOk read
    intro other member
    rcases List.mem_cons.mp member with rfl | later
    · exact gives _ _ _ found
    · exact ih deeper other later
  | case4 => cases read
  | case5 => cases read

theorem openingGives {depth : Nat} {bracket : Char} {text : Text} {inner : Nat → Text → Reading α} {value : α}
    {rest : Text} (read : opening depth bracket text inner = .ok value rest) :
    ∃ below, inner below text = .ok value rest := by
  cases depth with
  | zero => cases read
  | succ below => exact ⟨below, Reading.placedOk read⟩

theorem listOfGives {item : Nat → Reader α} {Holds : α → Prop} (gives : ∀ depth, (item depth).Gives Holds)
    (depth : Nat) : (listOf item depth).Gives fun values => ∀ value ∈ values, Holds value := by
  intro text values rest read
  simp only [listOf] at read
  split at read
  · cases read
  · split at read
    · obtain ⟨below, read⟩ := openingGives read
      exact itemsGive (gives below) read
    · cases read

theorem orNullGives {reader : Reader α} {Holds : α → Prop} (gives : reader.Gives Holds) :
    (orNull reader).Gives fun found => ∀ value ∈ found, Holds value := by
  intro text found rest read
  simp only [orNull] at read
  split at read
  · obtain ⟨_, _, same⟩ := mapOk (Reading.ofScanOk read)
    cases same
    simp
  · obtain ⟨value, inner, rfl⟩ := Reading.mapOk read
    rintro _ ⟨⟩
    exact gives _ _ _ inner

theorem afterColonGives {reader : Reader α} {Holds : α → Prop} (gives : reader.Gives Holds) :
    reader.afterColon.Gives Holds := by
  intro text value rest read
  simp only [Reader.afterColon] at read
  split at read
  · exact gives _ _ _ read
  · cases read

theorem membersKeep {step : σ → Text → Reader σ} {Holds : σ → Prop}
    (keeps : ∀ state name, Holds state → (step state name).Gives Holds) {state : σ} {first : Bool} {text : Text}
    {final : σ} {rest : Text} (start : Holds state) (read : members step state first text = .ok final rest) :
    Holds final := by
  fun_induction members step state first text with
  | case1 => cases read
  | case2 => cases read; exact start
  | case3 state first text name opened next value left found ih => exact ih (keeps state name start _ _ _ found) read
  | case4 => cases read
  | case5 => cases read

namespace Schema

variable {schema : Schema σ α}

def Keeps (schema : Schema σ α) (Draft : σ → Prop) : Prop :=
  ∀ slot ∈ schema.slots, ∀ depth, (slot.fill depth).Gives fun fill => ∀ draft, Draft draft → Draft (fill draft)

theorem itemsKeep {Draft : σ → Prop} {depth : Nat} {first : Bool} {draft final : σ} {slots : List (Slot σ)}
    {text rest : Text} (keeps : ∀ slot ∈ slots, ∀ depth,
      (slot.fill depth).Gives fun fill => ∀ draft, Draft draft → Draft (fill draft))
    (start : Draft draft) (read : items depth first draft slots text = .ok final rest) : Draft final := by
  induction slots generalizing first draft text with
  | nil =>
    simp only [items] at read
    split at read
    · cases read; exact start
    · cases read
  | cons slot slots ih =>
    simp only [items] at read
    split at read
    · cases read
    · cases read; exact start
    · split at read
      · next filled =>
        have kept := keeps slot List.mem_cons_self depth _ _ _ filled draft start
        exact ih (fun slot later => keeps slot (List.mem_cons_of_mem _ later)) kept read
      · cases read
      · cases read

theorem memberKeeps {Draft : σ → Prop} (keeps : schema.Keeps Draft) (depth : Nat) (draft : σ) (name : Text)
    (start : Draft draft) : (schema.member depth draft name).Gives Draft := by
  intro text value rest read
  simp only [member] at read
  split at read
  · obtain ⟨_, _, rfl⟩ := Reading.mapOk read
    exact start
  · next slot found =>
    split at read
    · cases read
    · obtain ⟨fill, filled, rfl⟩ := Reading.mapOk read
      exact afterColonGives (keeps slot (List.mem_of_find?_eq_some found) depth) _ _ _ filled draft start

theorem readerGives {Draft : σ → Prop} {Holds : α → Prop} (blank : Draft schema.blank)
    (keeps : schema.Keeps Draft)
    (completes : ∀ missing draft value, Draft draft → schema.complete missing draft = .ok value → Holds value)
    (depth : Nat) : (schema.reader depth).Gives Holds := by
  intro text value rest read
  simp only [reader] at read
  split at read
  · cases read
  · split at read
    · obtain ⟨below, read⟩ := openingGives read
      obtain ⟨draft, read, completed⟩ := Reading.refineOk read
      exact completes _ draft value (itemsKeep keeps blank read) completed
    · split at read
      · obtain ⟨below, read⟩ := openingGives read
        obtain ⟨draft, read, completed⟩ := Reading.refineOk read
        exact completes _ draft value (membersKeep (memberKeeps keeps below) blank read) completed
      · cases read

end Schema

theorem decodeGives {reader : Reader α} {Holds : α → Prop} (gives : reader.Gives Holds) {text : Text} {value : α}
    (decoded : decode reader text = .ok value) : Holds value := by
  simp only [decode] at decoded
  split at decoded
  · next read =>
    split at decoded
    · cases decoded; exact gives _ _ _ read
    · cases decoded
  · cases decoded
  · cases decoded

end TypeLens.Json
