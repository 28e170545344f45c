import OpenApiTypes.Text

/-!
# Sets of names in order

A set of names is held as the list of its members, each once and in the order of their code points.
-/
namespace OpenApiTypes

/-- Names in strictly increasing order, so that each of them occurs once and two sets with the same
members are the same. -/
structure NameSet where
  names : List Text
  increasing : names.Pairwise (· < ·)

namespace NameSet

/-- Put a name into its place among increasing ones; one already there stays as it is. -/
def insertInto (name : Text) : List Text → List Text
  | [] => [name]
  | first :: rest =>
    if name < first then name :: first :: rest
    else if name = first then first :: rest
    else first :: insertInto name rest

/-- The names after one was put into its place are those from before and that name, whether or not
it was there already. -/
theorem mem_insertInto {name other : Text} {names : List Text} :
    other ∈ insertInto name names ↔ other = name ∨ other ∈ names := by
  induction names with
  | nil => simp [insertInto]
  | cons first rest ih => grind [insertInto]

/-- A name that is put into its place leaves the names in order, each of them once. The induction
follows the search for the place, which ends before the first name that comes later. -/
theorem increasing_insertInto {name : Text} {names : List Text}
    (increasing : names.Pairwise (· < ·)) : (insertInto name names).Pairwise (· < ·) := by
  induction names with
  | nil => simp [insertInto]
  | cons first rest ih =>
    rw [List.pairwise_cons] at increasing
    unfold insertInto
    split
    · next before =>
      refine List.pairwise_cons.2 ⟨fun other there => ?_, List.pairwise_cons.2 increasing⟩
      rcases List.mem_cons.1 there with same | later
      · exact same ▸ before
      · exact Text.lt_trans before (increasing.1 other later)
    · split
      · exact List.pairwise_cons.2 increasing
      · next notBefore notSame =>
        refine List.pairwise_cons.2 ⟨fun other there => ?_, ih increasing.2⟩
        rcases mem_insertInto.1 there with same | later
        · subst same
          exact ((Text.lt_or_eq_or_gt other first).resolve_left notBefore).resolve_left notSame
        · exact increasing.1 other later

/-- The set without members, from which each set of names is begun. -/
def empty : NameSet := ⟨[], List.Pairwise.nil⟩

/-- Add a name. Nothing changes if it is a member already, and the order is kept in any case. -/
def insert (set : NameSet) (name : Text) : NameSet :=
  ⟨insertInto name set.names, increasing_insertInto set.increasing⟩

/-- The set of the names in a list, whatever their order there and however often each occurs. -/
def ofList (names : List Text) : NameSet := names.foldl insert empty

/-- A set of a list has the members of the list. How often each of them occurs there, and where, is
forgotten. -/
theorem mem_ofList {name : Text} {names : List Text} :
    name ∈ (ofList names).names ↔ name ∈ names := by
  have general (set : NameSet) :
      name ∈ (names.foldl insert set).names ↔ name ∈ names ∨ name ∈ set.names := by
    induction names generalizing set with
    | nil => simp
    | cons first rest ih =>
      rw [List.foldl_cons, ih, insert, mem_insertInto, List.mem_cons]
      grind
  simpa [ofList, empty] using general empty

end NameSet

end OpenApiTypes
