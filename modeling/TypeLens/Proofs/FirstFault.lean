import TypeLens.Proofs.Traced

/-! The inputs of a command are read one after another, and the first one that cannot be read or decoded is all that
a failed run tells of. -/
namespace TypeLens.Command

open Json

inductive Use where
  | type | sites | catalog | source
  deriving DecidableEq

structure Need where
  use : Use
  path : Text
  deriving DecidableEq

def Request.needs : Request → List Need
  | .render request => ⟨.type, request.type⟩ :: request.catalog.toList.map (⟨.catalog, ·⟩)
  | .trace request => ⟨.sites, request.sites⟩ ::
      (request.catalog.toList.map (⟨.catalog, ·⟩) ++ request.source.toList.map (⟨.source, ·⟩))

def Inputs.found (inputs : Inputs) (before : List Need) (path : Text) : Except ReadFault Text :=
  if path ≠ dash then Inputs.textOf (inputs.file path)
  else if path ∈ before.map Need.path then .ok [] else Inputs.textOf inputs.standard

def refusal {α : Type} : Except ReadError α → Option ReadError
  | .ok _ => none
  | .error error => some error

namespace Need

def refusal (text : Text) : Use → Option ReadError
  | .type => Command.refusal (TypeUnion.decode text)
  | .sites => Command.refusal (TraceInput.decode text)
  | .catalog => Command.refusal (Catalog.decode text)
  | .source => none

def fault (inputs : Inputs) (before : List Need) (need : Need) : Option LoadError :=
  match inputs.found before need.path with
  | .error fault => some (.unreadable need.path fault)
  | .ok text => (refusal text need.use).map (.undecodable need.path)

def AllFine (inputs : Inputs) (before needs : List Need) : Prop :=
  ∀ front need later, needs = front ++ need :: later → need.fault inputs (before ++ front) = none

def firstFault (inputs : Inputs) (before : List Need) : List Need → Option LoadError
  | [] => none
  | need :: needs => need.fault inputs before <|> firstFault inputs (before ++ [need]) needs

section
variable {inputs inputs' : Inputs} {before needs : List Need} {need : Need}

theorem allFineCons : AllFine inputs before (need :: needs) ↔
    need.fault inputs before = none ∧ AllFine inputs (before ++ [need]) needs := by
  constructor
  · intro fine
    refine ⟨by simpa using fine [] need needs rfl, fun front other later parted => ?_⟩
    simpa using fine (need :: front) other later (by rw [parted, List.cons_append])
  · intro ⟨first, fine⟩ front other later parted
    cases front with
    | nil =>
      cases parted
      simpa using first
    | cons head front =>
      obtain ⟨rfl, rest⟩ := List.cons.inj parted
      simpa using fine front other later rest

theorem allFineIff : AllFine inputs before needs ↔ firstFault inputs before needs = none := by
  induction needs generalizing before with
  | nil => simp [AllFine, firstFault]
  | cons need needs ih =>
    rw [allFineCons, ih, firstFault]
    cases need.fault inputs before <;> simp

theorem firstFaultOne : firstFault inputs before [need] = need.fault inputs before := by
  rw [firstFault, firstFault]
  cases need.fault inputs before <;> rfl

theorem firstFaultAppend (further : List Need) : firstFault inputs before (needs ++ further) =
    (firstFault inputs before needs <|> firstFault inputs (before ++ needs) further) := by
  induction needs generalizing before with
  | nil => simp [firstFault]
  | cons need needs ih =>
    rw [List.cons_append, firstFault, firstFault, ih, List.append_assoc, List.singleton_append]
    cases need.fault inputs before <;> rfl

theorem firstFaultHere {front later : List Need} {error : LoadError} (fine : AllFine inputs before front)
    (fault : need.fault inputs (before ++ front) = some error) :
    firstFault inputs before (front ++ need :: later) = some error := by
  rw [firstFaultAppend, allFineIff.mp fine, firstFault, fault]
  rfl

theorem firstFaultFound {error : LoadError} (found : firstFault inputs before needs = some error) :
    ∃ front need later, needs = front ++ need :: later ∧ AllFine inputs before front ∧
      need.fault inputs (before ++ front) = some error := by
  induction needs generalizing before with
  | nil => cases found
  | cons need needs ih =>
    rw [firstFault] at found
    cases fault : need.fault inputs before with
    | some first =>
      rw [fault] at found
      exact ⟨[], need, needs, rfl, allFineIff.mpr rfl, by simpa [fault] using found⟩
    | none =>
      rw [fault] at found
      obtain ⟨front, other, later, parted, fine, here⟩ := ih (by simpa using found)
      refine ⟨need :: front, other, later, by rw [parted, List.cons_append], allFineCons.mpr ⟨fault, fine⟩, ?_⟩
      simpa using here

/- Only what is behind the paths of the inputs counts. -/

def SameBehind (inputs inputs' : Inputs) (need : Need) : Prop :=
  if need.path = dash then inputs'.standard = inputs.standard else inputs'.file need.path = inputs.file need.path

theorem faultSame (same : SameBehind inputs inputs' need) : need.fault inputs' before = need.fault inputs before := by
  have found : inputs'.found before need.path = inputs.found before need.path := by
    rw [SameBehind] at same
    simp only [Inputs.found]
    split at same
    · next standard => rw [if_neg (not_not.mpr standard), if_neg (not_not.mpr standard), same]
    · next file => rw [if_pos file, if_pos file, same]
  rw [fault, fault, found]

theorem firstFaultSame (same : ∀ need ∈ needs, SameBehind inputs inputs' need) :
    firstFault inputs' before needs = firstFault inputs before needs := by
  induction needs generalizing before with
  | nil => rfl
  | cons need needs ih =>
    obtain ⟨first, same⟩ := List.forall_mem_cons.mp same
    rw [firstFault, firstFault, faultSame first, ih same]

end
end Need

section
variable {inputs : Inputs} {before : List Need} {need : Need}

def Inputs.after (inputs : Inputs) (before : List Need) : Inputs :=
  if dash ∈ before.map Need.path then { inputs with standard := .ok .empty } else inputs

theorem afterFile : (inputs.after before).file = inputs.file := by
  rw [Inputs.after]
  split <;> rfl

theorem afterDash (standard : need.path = dash) :
    inputs.after (before ++ [need]) = { inputs.after before with standard := .ok .empty } := by
  have read : dash ∈ (before ++ [need]).map Need.path := by simp [standard]
  rw [Inputs.after, if_pos read, Inputs.after]
  split <;> rfl

theorem afterOther (file : need.path ≠ dash) : inputs.after (before ++ [need]) = inputs.after before := by
  have read : dash ∈ (before ++ [need]).map Need.path ↔ dash ∈ before.map Need.path := by simp [file.symm]
  simp only [Inputs.after, read]

theorem foundDash : inputs.found before dash = Inputs.textOf (inputs.after before).standard := by
  rw [Inputs.found, if_neg (not_not.mpr rfl), Inputs.after]
  split
  · exact (fileOfText []).symm
  · rfl

theorem readAfter (need : Need) : (inputs.after before).read need.path =
    match inputs.found before need.path with
    | .error fault => .error (.unreadable need.path fault)
    | .ok text => .ok (text, inputs.after (before ++ [need])) := by
  by_cases standard : need.path = dash
  · rw [Inputs.read, if_pos standard, afterDash standard, standard, foundDash]
    cases Inputs.textOf (inputs.after before).standard <;> rfl
  · rw [Inputs.read, if_neg standard, afterOther standard, afterFile, Inputs.found, if_pos standard]
    cases Inputs.textOf (inputs.file need.path) <;> rfl

def Ends {α : Type} (inputs : Inputs) (before needs : List Need) (result : Except LoadError α) (Done : α → Prop) :
    Prop :=
  match Need.firstFault inputs before needs with
  | none => ∃ value, result = .ok value ∧ Done value
  | some error => result = .error error

section
variable {α β : Type} {needs further : List Need}

theorem Ends.pure {value : α} {Done : α → Prop} (done : Done value) : Ends inputs before [] (.ok value) Done :=
  ⟨value, rfl, done⟩

theorem Ends.bind {result : Except LoadError α} {next : α → Except LoadError β} {Done : α → Prop} {Then : β → Prop}
    (first : Ends inputs before needs result Done)
    (rest : ∀ value, Done value → Ends inputs (before ++ needs) further (next value) Then) :
    Ends inputs before (needs ++ further) (result.bind next) Then := by
  rw [Ends] at first ⊢
  rw [Need.firstFaultAppend]
  split at first
  · next fine =>
    obtain ⟨value, rfl, done⟩ := first
    rw [fine]
    exact rest value done
  · next error fault =>
    rw [fault, first]
    rfl

theorem Ends.answered {result : Except LoadError α} {Done : α → Prop} {answer : α → β}
    (ends : Ends inputs before needs result Done) :
    Ends inputs before needs (result.bind fun value => .ok (answer value)) fun _ => True := by
  have whole := ends.bind fun value _ => @Ends.pure inputs (before ++ needs) _ (answer value) (fun _ => True) trivial
  rwa [List.append_nil] at whole

def Leaves (inputs : Inputs) (before needs : List Need) (result : Except LoadError (α × Inputs)) : Prop :=
  Ends inputs before needs result fun value => value.2 = inputs.after (before ++ needs)

theorem Leaves.left {result : Except LoadError (α × Inputs)} {value : α} {rest : Inputs}
    (leaves : Leaves inputs before needs result) (read : result = .ok (value, rest)) :
    rest = inputs.after (before ++ needs) := by
  rw [Leaves, Ends] at leaves
  split at leaves
  · obtain ⟨found, same, left⟩ := leaves
    cases same.symm.trans read
    exact left
  · cases leaves.symm.trans read

theorem loadLeaves {decode : Text → Except ReadError α} {use : Use}
    (refuses : ∀ text, Need.refusal text use = refusal (decode text)) (path : Text) :
    Leaves inputs before [⟨use, path⟩] ((inputs.after before).load decode path) := by
  have read := @readAfter inputs before ⟨use, path⟩
  rw [Leaves, Ends, Need.firstFaultOne]
  simp only [Need.fault, Inputs.load, read, refuses, bind, Except.bind]
  cases inputs.found before path with
  | error fault => rfl
  | ok text =>
    cases decoded : decode text with
    | error error => simp [decoded, refusal, Except.mapError]
    | ok value => simp [decoded, refusal, Except.mapError]

theorem loadCatalogLeaves (path : Option Text) :
    Leaves inputs before (path.toList.map (⟨.catalog, ·⟩)) ((inputs.after before).loadCatalog path) := by
  cases path with
  | none => exact Ends.pure (by simp)
  | some path => exact loadLeaves (fun _ => rfl) path

theorem readSourceLeaves (path : Option Text) :
    Leaves inputs before (path.toList.map (⟨.source, ·⟩)) ((inputs.after before).readSource path) := by
  cases path with
  | none => exact Ends.pure (by simp)
  | some path =>
    have read := @readAfter inputs before ⟨.source, path⟩
    rw [Leaves, Ends, Option.toList_some, List.map_singleton, Need.firstFaultOne]
    simp only [Need.fault, Inputs.readSource, read, bind, Except.bind]
    cases inputs.found before path with
    | error fault => rfl
    | ok text => exact ⟨_, rfl, rfl⟩

end

theorem resultEnds (inputs : Inputs) (request : Request) :
    Ends inputs [] request.needs (request.result inputs) fun _ => True := by
  have atFirst : inputs.after [] = inputs := rfl
  cases request with
  | render request =>
    rw [Request.needs, ← List.singleton_append]
    refine Ends.bind (atFirst ▸ loadLeaves (fun _ => rfl) request.type) fun (type, after) left => ?_
    cases left
    exact Ends.answered (loadCatalogLeaves request.catalog)
  | trace request =>
    rw [Request.needs, ← List.singleton_append]
    refine Ends.bind (atFirst ▸ loadLeaves (fun _ => rfl) request.sites) fun (document, after) left => ?_
    cases left
    refine Ends.bind (loadCatalogLeaves request.catalog) fun (catalog, after) left => ?_
    cases left
    exact Ends.answered (readSourceLeaves request.source)

theorem runFaulty {request : Request} {error : LoadError}
    (fault : Need.firstFault inputs [] request.needs = some error) :
    request.run inputs = ⟨1, [], "error: " ++ error.message ++ "\n"⟩ := by
  have ends := resultEnds inputs request
  rw [Ends, fault] at ends
  simp only [Request.run, ends]

theorem runFine {request : Request} (fine : Need.firstFault inputs [] request.needs = none) :
    ∃ text, request.run inputs = ⟨0, text, []⟩ := by
  have ends := resultEnds inputs request
  rw [Ends, fine] at ends
  obtain ⟨text, result, -⟩ := ends
  exact ⟨text, by simp only [Request.run, result]⟩

theorem secondSourceEmpty {request : TraceRequest} {document : TraceInput} {catalog : Catalog} {source : Option Text}
    (reads : request.Reads inputs document catalog source) (again : request.source = some dash)
    (read : dash ∈ request.sites :: request.catalog.toList) : source = some [] := by
  obtain ⟨afterSites, afterCatalog, rest, sites, classes, sourced⟩ := reads
  have leftSites := (@loadLeaves inputs [] _ TraceInput.decode .sites (fun _ => rfl) request.sites).left sites
  cases leftSites
  have leftCatalog := (loadCatalogLeaves request.catalog).left classes
  cases leftCatalog
  have found :
      inputs.found ([⟨.sites, request.sites⟩] ++ request.catalog.toList.map (⟨.catalog, ·⟩)) dash = .ok [] := by
    rw [Inputs.found, if_neg (not_not.mpr rfl), if_pos]
    simpa [Function.comp_def] using read
  rw [again, Inputs.readSource, List.nil_append, readAfter ⟨.source, dash⟩, found] at sourced
  cases sourced
  rfl

end

theorem runPerformed {words : List Text} {request : Request} (order : Order.read words = .perform request)
    (inputs : Inputs) : run inputs words = request.run inputs := by
  rw [run, order, Order.run]

theorem firstFaultTold {words : List Text} {request : Request} (order : Order.read words = .perform request)
    (inputs : Inputs) :
    ((Need.AllFine inputs [] request.needs ∧ ∃ text, run inputs words = ⟨0, text, []⟩) ∨
      ∃ before need later error, request.needs = before ++ need :: later ∧ Need.AllFine inputs [] before ∧
        need.fault inputs before = some error ∧
          run inputs words = ⟨1, [], "error: " ++ error.message ++ "\n"⟩ ∧
            ∀ words' request' inputs' later', Order.read words' = .perform request' →
              request'.needs = before ++ need :: later' →
                (∀ earlier ∈ before ++ [need], Need.SameBehind inputs inputs' earlier) →
                  run inputs' words' = run inputs words) ∧
      ∀ trace document catalog source, request = .trace trace → trace.Reads inputs document catalog source →
        trace.source = some dash → dash ∈ trace.sites :: trace.catalog.toList → source = some [] := by
  constructor
  · cases found : Need.firstFault inputs [] request.needs with
    | none => exact .inl ⟨Need.allFineIff.mpr found, runPerformed order inputs ▸ runFine found⟩
    | some error =>
      obtain ⟨before, need, later, parted, fine, fault⟩ := Need.firstFaultFound found
      refine .inr ⟨before, need, later, error, parted, fine, fault, runPerformed order inputs ▸ runFaulty found, ?_⟩
      intro words' request' inputs' later' order' parted' same
      have upTo : Need.firstFault inputs' [] (before ++ [need]) = some error := by
        rw [Need.firstFaultSame same, Need.firstFaultHere fine fault]
      have found' : Need.firstFault inputs' [] request'.needs = some error := by
        rw [parted', ← List.singleton_append, ← List.append_assoc, Need.firstFaultAppend, upTo]
        rfl
      rw [runPerformed order, runPerformed order', runFaulty found, runFaulty found']
  · intro trace document catalog source _ reads again read
    exact secondSourceEmpty reads again read

/- A type and its classes from standard input, which is empty by then. -/

def twiceAsked : List Text := ["render", "-", "--catalog", "-"]

def twiceAskedInline : List Text := ["render", "--inline", "--catalog=-", "-"]

def typeAlone (file : Text → Content) : Inputs := ⟨file, fileOf number.toValue.text⟩

def emptyCatalog : ReadError := ⟨.unfinished .value, some ⟨1, 0⟩⟩

theorem typeFine (file : Text → Content) : Need.fault (typeAlone file) [] ⟨.type, dash⟩ = none := by
  have found : (typeAlone file).found [] dash = .ok number.toValue.text := by
    rw [foundDash]
    exact fileOfText _
  simp only [Need.fault, found, Need.refusal, numberDecoded, refusal, Option.map_none]

theorem catalogFaulty (file : Text → Content) :
    Need.fault (typeAlone file) [⟨.type, dash⟩] ⟨.catalog, dash⟩ = some (.undecodable dash emptyCatalog) := by
  have found : (typeAlone file).found [⟨.type, dash⟩] dash = .ok [] := by
    rw [foundDash]
    exact fileOfText []
  have decoded : Catalog.decode [] = .error emptyCatalog := rfl
  simp only [Need.fault, found, Need.refusal, decoded, refusal, Option.map_some]

def noFiles : Inputs := typeAlone fun _ => .error .notFound

def directories : Inputs := typeAlone fun _ => .error .isDirectory

theorem emptyCatalogTold :
    Order.read twiceAsked = .perform (.render ⟨dash, some dash, false⟩) ∧
      run noFiles twiceAsked =
        ⟨1, [], "error: invalid JSON in '<stdin>': EOF while parsing a value at line 1 column 0\n"⟩ ∧
      run directories twiceAskedInline = run noFiles twiceAsked := by
  have order : Order.read twiceAsked = .perform (.render ⟨dash, some dash, false⟩) := by decide +kernel
  have order' : Order.read twiceAskedInline = .perform (.render ⟨dash, some dash, true⟩) := by decide +kernel
  refine ⟨order, ?_⟩
  obtain ⟨fine, -⟩ | ⟨before, need, later, error, parted, fine, fault, told, same⟩ := (firstFaultTold order noFiles).1
  · cases (fine [⟨.type, dash⟩] ⟨.catalog, dash⟩ [] rfl).symm.trans (catalogFaulty _)
  · rcases before with _ | ⟨first, _ | ⟨second, before⟩⟩
    · cases parted
      cases (typeFine _).symm.trans fault
    · cases parted
      cases (catalogFaulty _).symm.trans fault
      refine ⟨told.trans (by decide +kernel), same _ _ _ [] order' rfl ?_⟩
      simp [Need.SameBehind, noFiles, directories, typeAlone]
    · simp [Request.needs] at parted

end TypeLens.Command
