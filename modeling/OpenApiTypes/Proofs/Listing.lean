import OpenApiTypes.Proofs.Imports

/-!
# What a table lists after any calls

A table in use is asked to note names and to list its statements, in any order. What it lists
depends on the names noted so far and on nothing else, and of these only on which they are and in
which order their namespaces first came.
-/
namespace OpenApiTypes

/-- What can be asked of a table: to note the use of a name, or to list its statements. -/
inductive ImportCall where
  | note (name : QualifiedName)
  | list
  deriving DecidableEq, Repr

/-- The name that a call asks to note, if it asks for that. -/
def ImportCall.name? : ImportCall → Option QualifiedName
  | note name => some name
  | list => none

/-- The names noted in a row of calls, in order and as often as they are noted. -/
def notedNames (calls : List ImportCall) : List QualifiedName := calls.filterMap ImportCall.name?

namespace ImportTable

/-- The table after a call. To list the statements changes nothing. -/
def perform (table : ImportTable) : ImportCall → ImportTable
  | .note name => table.add name
  | .list => table

/-- What the table of a file lists after a row of calls. -/
def listedAfter (home : Text) (calls : List ImportCall) : List ImportStatement :=
  (calls.foldl perform (.empty home)).statements

/-- Calls leave behind the table of the names noted: a call to list changes nothing. -/
theorem foldl_perform (table : ImportTable) (calls : List ImportCall) :
    calls.foldl perform table = table.addAll (notedNames calls) := by
  induction calls generalizing table with
  | nil => rfl
  | cons call rest ih =>
    cases call with
    | note name => exact ih (table.add name)
    | list => exact ih table

/-- What is listed after some calls, said by the names that were noted. -/
theorem listedAfter_eq {home : Text} {calls : List ImportCall} :
    listedAfter home calls = (foreignHomes home (notedNames calls)).map fun source =>
      ⟨Namespace.specifier home source,
        (NameSet.ofList (namesFrom source (notedNames calls))).names⟩ := by
  rw [listedAfter, foldl_perform, statements_addAll]

/-- Calls that note the same names, from namespaces that first come in the same order, leave the
same to list. -/
theorem listedAfter_congr {home : Text} {calls others : List ImportCall}
    (names : ∀ name, name ∈ notedNames calls ↔ name ∈ notedNames others)
    (homes : foreignHomes home (notedNames calls) = foreignHomes home (notedNames others)) :
    listedAfter home calls = listedAfter home others := by
  simp only [listedAfter_eq, homes, ofList_namesFrom_congr names]

end ImportTable

/-- A use that repeats an earlier one brings no namespace, and leaves the order of the others. -/
theorem foreignHomes_repeated {home : Text} {before rest : List QualifiedName}
    {name : QualifiedName} (earlier : name ∈ before) :
    foreignHomes home (before ++ name :: rest) = foreignHomes home (before ++ rest) := by
  by_cases own : name.home = home
  · simp [foreignHomes, own]
  · have there : name.home ∈ (before.filter fun used => used.home ≠ home).map (·.home) :=
      List.mem_map_of_mem (List.mem_filter.2 ⟨earlier, by simpa using own⟩)
    have kept : (name :: rest).filter (fun used => used.home ≠ home) =
        name :: rest.filter fun used => used.home ≠ home := by simp [own]
    simp only [foreignHomes, List.filter_append, kept, List.map_append, List.map_cons,
      List.eraseDups_append]
    have known := List.elem_eq_true_of_mem there
    rw [List.removeAll, List.filter_cons_of_neg (by simp only [known]; decide)]
    rfl

namespace ImportTable

/-- After any calls a table lists one statement for each other namespace of which a name was noted,
in the order of first occurrence, and the statement takes the names noted of that namespace. Calls
to list make no difference to that, nor does a name noted again, nor the order of the calls, as long
as namespaces first come in the same order.

Proof: the calls leave the table of the names noted, which holds the distinct foreign namespaces in
the order of first occurrence and a set of names for each. The other parts compare two lists of
names by what they leave of that. -/
theorem listedAfter_exact (home : Text) (calls : List ImportCall) :
    List.Forall₂ (fun source statement =>
        ImportStatement.Takes home source (notedNames calls) statement)
      (foreignHomes home (notedNames calls)) (listedAfter home calls) ∧
    (∀ before rest, calls = before ++ .list :: rest →
      listedAfter home (before ++ rest) = listedAfter home calls) ∧
    (∀ before name rest, calls = before ++ .note name :: rest → .note name ∈ before →
      listedAfter home (before ++ rest) = listedAfter home calls) ∧
    ∀ others, calls.Perm others →
      foreignHomes home (notedNames others) = foreignHomes home (notedNames calls) →
      listedAfter home others = listedAfter home calls := by
  refine ⟨?_, ?_, ?_, ?_⟩
  · rw [listedAfter_eq, List.forall₂_map_right_iff, List.forall₂_same]
    intro source taken
    refine ⟨rfl, NameSet.increasing _, fun typeName => ?_⟩
    rw [NameSet.mem_ofList, mem_namesFrom]
  · rintro before rest rfl
    simp only [listedAfter_eq, notedNames, List.filterMap_append, List.filterMap_cons,
      ImportCall.name?]
  · rintro before name rest rfl earlier
    have noted : name ∈ notedNames before := List.mem_filterMap.2 ⟨_, earlier, rfl⟩
    have split : notedNames (before ++ .note name :: rest) =
        notedNames before ++ name :: notedNames rest := by
      simp [notedNames, ImportCall.name?]
    have without : notedNames (before ++ rest) = notedNames before ++ notedNames rest :=
      List.filterMap_append
    refine listedAfter_congr (fun other => ?_) ?_
    · rw [split, without, List.mem_append, List.mem_append, List.mem_cons]
      grind
    · rw [split, without, foreignHomes_repeated noted]
  · intro others reordered homes
    have names : (notedNames others).Perm (notedNames calls) := reordered.symm.filterMap _
    exact listedAfter_congr (fun name => names.mem_iff) homes

example : listedAfter "apps/v1" [.note ⟨"ObjectMeta", "meta/v1"⟩, .note ⟨"Scale", "apps/v1"⟩,
      .note ⟨"Pod", "core/v1"⟩, .list, .note ⟨"ObjectMeta", "meta/v1"⟩,
      .note ⟨"LabelSelector", "meta/v1"⟩] =
    [⟨"../meta/v1", ["LabelSelector", "ObjectMeta"]⟩, ⟨"../core/v1", ["Pod"]⟩] := by
  decide +kernel

end ImportTable

end OpenApiTypes
