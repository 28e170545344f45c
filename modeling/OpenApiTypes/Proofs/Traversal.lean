import Mathlib.Data.List.Forall2
import Mathlib.Data.List.Perm.Basic
import OpenApiTypes.Table

/-!
# Traversals that may fail

A traversal makes one output of each input, in order, and stops at the first input without one. It
succeeds exactly when every input has an output, so its outputs stand beside its inputs, and other
orders of the inputs give the outputs in other orders. It fails as its first input without an output
does. A traversal that takes each output into a state as soon as it is made, and passes over some
inputs, gives the state that comes of making all outputs first.
-/
namespace OpenApiTypes.Traversal

variable {ε α β γ σ : Type}

/-- A step succeeds with a changed result exactly when it succeeds before the change. -/
theorem map_ok_iff {step : Except ε α} {change : α → β} {result : β} :
    step.map change = .ok result ↔ ∃ value, step = .ok value ∧ change value = result := by
  cases step <;> simp [Except.map]

/-- Two steps succeed together exactly when the second succeeds with the result of the first. -/
theorem bind_ok_iff {first : Except ε α} {second : α → Except ε β} {result : β} :
    first >>= second = .ok result ↔ ∃ value, first = .ok value ∧ second value = .ok result := by
  cases first <;> simp [bind, Except.bind]

/-- Two steps fail together when the first fails, or the second with the result of the first. -/
theorem bind_error_iff {first : Except ε α} {second : α → Except ε β} {failure : ε} :
    first >>= second = .error failure ↔
      first = .error failure ∨ ∃ value, first = .ok value ∧ second value = .error failure := by
  cases first <;> simp [bind, Except.bind]

/-- A step whose failures are told in other words fails as before, in those words. -/
theorem mapError_error_iff {step : Except ε α} {tell : ε → γ} {failure : γ} :
    step.mapError tell = .error failure ↔ ∃ cause, step = .error cause ∧ tell cause = failure := by
  cases step <;> simp [Except.mapError]

/-- A traversal succeeds exactly with the outputs of all its inputs, each at the place of its
input. -/
theorem mapM_ok_iff {make : α → Except ε β} {inputs : List α} {outputs : List β} :
    inputs.mapM make = .ok outputs ↔
      List.Forall₂ (fun input output => make input = .ok output) inputs outputs := by
  induction inputs generalizing outputs with
  | nil =>
    rw [List.mapM_nil, List.forall₂_nil_left_iff]
    exact ⟨fun same => (Except.ok.inj same).symm, fun same => same ▸ rfl⟩
  | cons input rest ih =>
    rw [List.mapM_cons, bind_ok_iff, List.forall₂_cons_left_iff]
    constructor
    · rintro ⟨output, made, others⟩
      obtain ⟨tail, madeTail, same⟩ := bind_ok_iff.1 others
      exact ⟨output, tail, made, ih.1 madeTail, (Except.ok.inj same).symm⟩
    · rintro ⟨output, tail, made, madeTail, rfl⟩
      exact ⟨output, made, bind_ok_iff.2 ⟨tail, ih.2 madeTail, rfl⟩⟩

/-- What is read off the inputs and off the outputs is the same where it is so for each pair. -/
theorem map_eq_map {related : α → β → Prop} {inputs : List α} {outputs : List β}
    (matched : List.Forall₂ related inputs outputs) {read : α → γ} {readOutput : β → γ}
    (same : ∀ input output, related input output → read input = readOutput output) :
    inputs.map read = outputs.map readOutput := by
  induction matched with
  | nil => rfl
  | cons first _ ih => rw [List.map_cons, List.map_cons, same _ _ first, ih]

/-- Every input has an output beside it, at the same place in the list of outputs. -/
theorem exists_output {related : α → β → Prop} {inputs : List α} {outputs : List β}
    (matched : List.Forall₂ related inputs outputs) {input : α} (there : input ∈ inputs) :
    ∃ output ∈ outputs, related input output := by
  induction matched with
  | nil => cases there
  | @cons first output rest outputs related _ ih =>
    rcases List.mem_cons.1 there with rfl | later
    · exact ⟨output, List.mem_cons_self, related⟩
    · obtain ⟨found, member, holds⟩ := ih later
      exact ⟨found, List.mem_cons_of_mem output member, holds⟩

/-- Two traversals end alike when they do so input by input. They fail alike, too, as the first
failure is at the same input. -/
theorem mapM_congr {make : α → Except ε γ} {makeOther : β → Except ε γ} {inputs : List α}
    {others : List β}
    (alike : List.Forall₂ (fun input other => make input = makeOther other) inputs others) :
    inputs.mapM make = others.mapM makeOther := by
  induction alike with
  | nil => rfl
  | cons first _ ih => rw [List.mapM_cons, List.mapM_cons, first, ih]

/-- The inputs in another order have their outputs in another order. That there is an output for
each is enough: no step is told what the steps before it made. -/
theorem mapM_perm {make : α → Except ε β} {inputs others : List α} {outputs : List β}
    (reordered : inputs.Perm others) (made : inputs.mapM make = .ok outputs) :
    ∃ otherOutputs, others.mapM make = .ok otherOutputs ∧ outputs.Perm otherOutputs := by
  obtain ⟨otherOutputs, matched, moved⟩ :=
    List.perm_comp_forall₂ reordered.symm (mapM_ok_iff.1 made)
  exact ⟨otherOutputs, mapM_ok_iff.2 matched, moved.symm⟩

/-- The failure of a step, if it fails. It forgets what a step makes, so that steps can be compared
by how they fail. -/
def failure? : Except ε α → Option ε
  | .ok _ => none
  | .error failure => some failure

/-- The failure of a step is one with which the step ended; a step that made something has none. -/
theorem failure?_eq_some_iff {step : Except ε α} {failure : ε} :
    failure? step = some failure ↔ step = .error failure := by
  cases step <;> simp [failure?]

/-- A step without a failure made something, and there is no third way for it to end. -/
theorem failure?_eq_none_iff {step : Except ε α} :
    failure? step = none ↔ ∃ value, step = .ok value := by
  cases step <;> simp [failure?]

/-- To change a result changes no failure. So failures can be told before results are put into their
final form. -/
theorem failure?_map {step : Except ε α} {change : α → β} :
    failure? (step.map change) = failure? step := by
  cases step <;> rfl

/-- A traversal fails as the first input without an output does. Whether the inputs behind that one
have outputs makes no difference, since they are not reached. -/
theorem failure?_mapM {make : α → Except ε β} {inputs : List α} :
    failure? (inputs.mapM make) = inputs.findSome? fun input => failure? (make input) := by
  induction inputs with
  | nil => rfl
  | cons input rest ih =>
    rw [List.mapM_cons, List.findSome?_cons, ← ih]
    cases make input with
    | error failure => rfl
    | ok output => cases rest.mapM make <;> rfl

/-- To look for the first of many parts is to look through the parts of one input after the
other. -/
theorem findSome?_flatMap {parts : α → List β} {find : β → Option γ} {inputs : List α} :
    (inputs.flatMap parts).findSome? find =
      inputs.findSome? fun input => (parts input).findSome? find := by
  induction inputs with
  | nil => rfl
  | cons input rest ih =>
    rw [List.flatMap_cons, List.findSome?_append, ih, List.findSome?_cons]
    cases (parts input).findSome? find <;> rfl

/-- To look among the accepted inputs is to find nothing at the others. -/
theorem findSome?_filter {accepts : α → Bool} {find : α → Option γ} {inputs : List α} :
    (inputs.filter accepts).findSome? find =
      inputs.findSome? fun input => if accepts input then find input else none := by
  induction inputs with
  | nil => rfl
  | cons input rest ih =>
    rw [List.findSome?_cons, ← ih]
    cases accepted : accepts input with
    | true =>
      rw [List.filter_cons_of_pos accepted, List.findSome?_cons]
      rfl
    | false =>
      rw [List.filter_cons_of_neg (by simp [accepted])]
      rfl

/-- A search asks the inputs alone. Two questions with the same answers at all of them find the
same, whatever they would answer elsewhere. -/
theorem findSome?_congr {find other : α → Option γ} {inputs : List α}
    (same : ∀ input ∈ inputs, find input = other input) :
    inputs.findSome? find = inputs.findSome? other := by
  induction inputs with
  | nil => rfl
  | cons input rest ih =>
    rw [List.findSome?_cons, List.findSome?_cons, same input List.mem_cons_self,
      ih fun later there => same later (List.mem_cons_of_mem input there)]

/-- A search has an answer exactly when one of the inputs has it and those before that one have
none. Here `passes` and `answers` say when an input has none and when it has this one. -/
theorem findSome?_eq_some_iff_first {find : α → Option γ} {inputs : List α} {answer : γ}
    {passes answers : α → Prop} (none : ∀ input ∈ inputs, find input = none ↔ passes input)
    (some : ∀ input ∈ inputs, find input = some answer ↔ answers input) :
    inputs.findSome? find = .some answer ↔
      ∃ before input after, inputs = before ++ input :: after ∧
        (∀ earlier ∈ before, passes earlier) ∧ answers input := by
  rw [List.findSome?_eq_some_iff]
  constructor
  · rintro ⟨before, input, after, rfl, found, passed⟩
    refine ⟨before, input, after, rfl, fun earlier there => ?_, ?_⟩
    · exact (none earlier (List.mem_append_left _ there)).1 (passed earlier there)
    · exact (some input (by simp)).1 found
  · rintro ⟨before, input, after, rfl, passed, found⟩
    refine ⟨before, input, after, rfl, (some input (by simp)).2 found, fun earlier there => ?_⟩
    exact (none earlier (List.mem_append_left _ there)).2 (passed earlier there)

/-- To take in each output when it is made is to make the outputs of all accepted inputs and to take
them in afterwards. The two also fail alike: with the first accepted input without an output. -/
theorem foldlM_eq_map_mapM (accepts : α → Bool) (make : α → Except ε β) (take : σ → β → σ)
    (inputs : List α) (state : σ) :
    inputs.foldlM (fun state input =>
        if accepts input then (make input).map (take state) else .ok state) state =
      ((inputs.filter accepts).mapM make).map (fun outputs => outputs.foldl take state) := by
  induction inputs generalizing state with
  | nil => rfl
  | cons input rest ih =>
    rw [List.foldlM_cons]
    by_cases accepted : accepts input = true
    · rw [if_pos accepted, List.filter_cons_of_pos accepted, List.mapM_cons]
      cases made : make input with
      | error failure => rfl
      | ok output =>
        change rest.foldlM _ (take state output) = _
        rw [ih]
        cases rest.filter accepts |>.mapM make <;> rfl
    · rw [if_neg accepted, List.filter_cons_of_neg accepted]
      exact ih state

/-- A traversal that fails does so at one of its inputs, and with the failure of that input. -/
theorem exists_of_mapM_error {make : α → Except ε β} {inputs : List α} {failure : ε}
    (stopped : inputs.mapM make = .error failure) :
    ∃ input ∈ inputs, make input = .error failure := by
  rw [← failure?_eq_some_iff, failure?_mapM] at stopped
  obtain ⟨input, there, failed⟩ := List.exists_of_findSome?_eq_some stopped
  exact ⟨input, there, failure?_eq_some_iff.1 failed⟩

section Tables

variable {κ : Type} [DecidableEq κ]

/-- A table is traversed as the list of its entries is, and its keys stay where they are. -/
theorem table_mapM_ok_iff {make : κ → α → Except ε β} {table : Table κ α} {made : Table κ β} :
    table.mapM make = .ok made ↔ List.Forall₂ (fun entry output =>
      output.1 = entry.1 ∧ make entry.1 entry.2 = .ok output.2) table.entries made.entries := by
  have step (entry : κ × α) (output : κ × β) :
      (do return (entry.1, ← make entry.1 entry.2) : Except ε (κ × β)) = .ok output ↔
        output.1 = entry.1 ∧ make entry.1 entry.2 = .ok output.2 := by
    obtain ⟨key, value⟩ := output
    rw [bind_ok_iff]
    constructor
    · rintro ⟨_, made, same⟩
      obtain ⟨rfl, rfl⟩ := Prod.mk.inj (Except.ok.inj same)
      exact ⟨rfl, made⟩
    · rintro ⟨rfl, made⟩
      exact ⟨value, made, rfl⟩
  have keys {entries : List (κ × β)} (matched : List.Forall₂ (fun entry output =>
      output.1 = entry.1 ∧ make entry.1 entry.2 = .ok output.2) table.entries entries) :
      (entries.map Prod.fst).Nodup := by
    rw [← map_eq_map matched fun _ _ related => related.1.symm]
    exact table.distinct
  rw [Table.mapM, bind_ok_iff]
  simp only [mapM_ok_iff, step]
  constructor
  · rintro ⟨entries, matched, same⟩
    obtain rfl := Except.ok.inj same
    rwa [Table.entries_ofList (keys matched)]
  · intro matched
    refine ⟨made.entries, matched, congrArg Except.ok (Table.eq_of_entries ?_)⟩
    exact Table.entries_ofList made.distinct

/-- A traversal of a table that fails does so at one of its entries. The key of the entry may have a
part in the failure. -/
theorem exists_of_table_mapM_error {make : κ → α → Except ε β} {table : Table κ α} {failure : ε}
    (stopped : table.mapM make = .error failure) :
    ∃ entry ∈ table.entries, make entry.1 entry.2 = .error failure := by
  rcases bind_error_iff.1 stopped with stopped | ⟨entries, _, done⟩
  · obtain ⟨entry, there, failed⟩ := exists_of_mapM_error stopped
    rcases bind_error_iff.1 failed with failed | ⟨value, _, done⟩
    · exact ⟨entry, there, failed⟩
    · cases done
  · cases done

end Tables

end OpenApiTypes.Traversal
