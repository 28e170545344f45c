import Mathlib.Data.List.Perm.Basic
import OpenApiTypes.ImportTable

/-!
# What an import table says about the names used

A table is known by its namespaces, in their order, and by the names that it records under each of
them. To note a use leaves all of that in place: a name of another namespace is recorded in
addition, and a namespace that is new comes behind the earlier ones. So whatever a table records
already, what it gains by a list of uses depends on that list in a simple way.

A fresh table in the end has the foreign namespaces of the list in the order of first occurrence,
and under each of them the set of the names that were used from there. The statements follow from
that.
-/
namespace OpenApiTypes

/-- The namespaces from which a list of uses takes something, in the order of first occurrence. What
comes from the own namespace is not taken from anywhere. -/
def foreignHomes (home : Text) (used : List QualifiedName) : List Text :=
  ((used.filter fun name => name.home ≠ home).map (·.home)).eraseDups

/-- The names that a list of uses takes from a namespace, as often as they are used. -/
def namesFrom (source : Text) (used : List QualifiedName) : List Text :=
  (used.filter fun name => name.home = source).map (·.typeName)

/-- What a statement says that imports into one namespace what is taken from another: it names the
file of the other one, and it lists exactly the names taken from there, in strictly increasing
order. -/
structure ImportStatement.Takes (home source : Text) (taken : List QualifiedName)
    (statement : ImportStatement) : Prop where
  specifier : statement.specifier = Namespace.specifier home source
  increasing : statement.names.Pairwise (· < ·)
  names : ∀ typeName, typeName ∈ statement.names ↔ ⟨typeName, source⟩ ∈ taken

/-- A namespace is taken from exactly when it is another one and something of it is used. -/
theorem mem_foreignHomes {home source : Text} {used : List QualifiedName} :
    source ∈ foreignHomes home used ↔ source ≠ home ∧ ∃ name ∈ used, name.home = source := by
  simp only [foreignHomes, List.mem_eraseDups, List.mem_map, List.mem_filter, decide_eq_true_eq]
  constructor
  · rintro ⟨name, ⟨there, foreign⟩, rfl⟩
    exact ⟨foreign, name, there, rfl⟩
  · rintro ⟨foreign, name, there, rfl⟩
    exact ⟨name, ⟨there, foreign⟩, rfl⟩

/-- A name is taken from a namespace exactly when the type of that name in that namespace is
used. -/
theorem mem_namesFrom {source typeName : Text} {used : List QualifiedName} :
    typeName ∈ namesFrom source used ↔ ⟨typeName, source⟩ ∈ used := by
  simp only [namesFrom, List.mem_map, List.mem_filter, decide_eq_true_eq]
  constructor
  · rintro ⟨name, ⟨there, rfl⟩, rfl⟩
    exact there
  · exact fun there => ⟨_, ⟨there, rfl⟩, rfl⟩

/-- A list with one more member at its end has the distinct members of the list before, and that
member where it is new. -/
theorem eraseDups_concat (members : List Text) (last : Text) :
    (members ++ [last]).eraseDups =
      if last ∈ members then members.eraseDups else members.eraseDups ++ [last] := by
  rw [List.eraseDups_append]
  by_cases there : last ∈ members
  · simp [List.removeAll, there]
  · simp [List.removeAll, there, List.eraseDups_cons]

/-- A set is known by its members, since these stand in it in one order. -/
theorem NameSet.eq_of_mem_iff {set other : NameSet}
    (same : ∀ name, name ∈ set.names ↔ name ∈ other.names) : set = other := by
  have distinct (names : NameSet) : names.names.Nodup :=
    names.increasing.imp fun before => Text.ne_of_lt before
  have reordered : set.names.Perm other.names :=
    (List.perm_ext_iff_of_nodup (distinct set) (distinct other)).2 same
  have equal : set.names = other.names := by
    refine reordered.eq_of_pairwise ?_ set.increasing other.increasing
    intro name later _ _ before after
    exact absurd after (Text.lt_asymm before)
  cases set
  cases other
  simpa using equal

/-- Lists that use the same names take the same set of names from a namespace. The order and the
number of the uses do not count. -/
theorem ofList_namesFrom_congr {used others : List QualifiedName}
    (same : ∀ name, name ∈ used ↔ name ∈ others) (source : Text) :
    NameSet.ofList (namesFrom source used) = NameSet.ofList (namesFrom source others) := by
  refine NameSet.eq_of_mem_iff fun name => ?_
  rw [NameSet.mem_ofList, NameSet.mem_ofList, mem_namesFrom, mem_namesFrom, same]

/-- Another use of the own namespace takes nothing from anywhere. The namespaces and their order
stay as they are. -/
theorem foreignHomes_concat_own {home : Text} {used : List QualifiedName} {next : QualifiedName}
    (own : next.home = home) : foreignHomes home (used ++ [next]) = foreignHomes home used := by
  simp [foreignHomes, own]

/-- Another use of a foreign namespace puts it at the end, unless it was taken from before. -/
theorem foreignHomes_concat_foreign {home : Text} {used : List QualifiedName}
    {next : QualifiedName} (foreign : next.home ≠ home) :
    foreignHomes home (used ++ [next]) =
      if next.home ∈ foreignHomes home used then foreignHomes home used
      else foreignHomes home used ++ [next.home] := by
  have selected : (used ++ [next]).filter (fun name => name.home ≠ home) =
      used.filter (fun name => name.home ≠ home) ++ [next] := by simp [foreign]
  rw [foreignHomes, selected, List.map_append, List.map_singleton, eraseDups_concat]
  simp only [foreignHomes, List.mem_eraseDups]

namespace ImportTable

variable {home : Text} {used : List QualifiedName} {table after : ImportTable}

/-- Note the use of several names, one after the other. -/
def addAll (table : ImportTable) (used : List QualifiedName) : ImportTable := used.foldl add table

/-- Whether a table records a name, under the namespace from which it comes. A name of the table's
own namespace is never recorded. -/
def Records (table : ImportTable) (name : QualifiedName) : Prop :=
  ∃ names, table.entries.get? name.home = some names ∧ name.typeName ∈ names.names

/-- What a table gains by some uses: the names of other namespaces among them, and nothing else. The
namespaces that it had stay in front, in their order. -/
structure Gains (table : ImportTable) (used : List QualifiedName) (after : ImportTable) :
    Prop where
  home : after.home = table.home
  records : ∀ name, after.Records name ↔
    table.Records name ∨ (name ∈ used ∧ name.home ≠ table.home)
  sources : after.entries.keys = table.entries.keys ++
    (foreignHomes table.home used).filter fun source => source ∉ table.entries.keys

/-- Without a use nothing is gained. This is the beginning of every list of uses. -/
theorem Gains.refl (table : ImportTable) : table.Gains [] table where
  home := rfl
  records name := by simp
  sources := by simp [foreignHomes]

/-- What is put under a namespace records what was there and the new name, and nothing else that was
not recorded before. -/
theorem records_put {next name : QualifiedName} :
    Records ⟨home, table.entries.put next.home
        (((table.entries.get? next.home).getD .empty).insert next.typeName)⟩ name ↔
      table.Records name ∨ name = next := by
  unfold Records
  rw [Table.get?_put]
  by_cases here : name.home = next.home
  · have same : name = next ↔ name.typeName = next.typeName := by
      rw [QualifiedName.ext_iff]
      exact and_iff_left here
    rw [if_pos here, same, here]
    cases table.entries.get? next.home with
    | none => simp [NameSet.insert, NameSet.empty, NameSet.mem_insertInto]
    | some names => simp [NameSet.insert, NameSet.mem_insertInto, or_comm]
  · have different : name ≠ next := fun same => here (congrArg QualifiedName.home same)
    simp [here, different]

/-- One more use is gained in addition. This is the step from which everything about tables follows;
the cases are whether the name is of the own namespace, and whether its namespace has a place
already. -/
theorem Gains.add (gained : table.Gains used after) (next : QualifiedName) :
    table.Gains (used ++ [next]) (after.add next) := by
  by_cases own : next.home = table.home
  · have unchanged : after.add next = after := by
      rw [ImportTable.add, gained.home, if_pos own]
    rw [unchanged]
    refine ⟨gained.home, fun name => ?_, ?_⟩
    · have elsewhere : name.home ≠ table.home → name ≠ next := by
        rintro foreign rfl
        exact foreign own
      rw [gained.records, List.mem_append, List.mem_singleton]
      grind
    · rw [gained.sources, foreignHomes_concat_own own]
  · have changed : after.add next = ⟨after.home, after.entries.put next.home
        (((after.entries.get? next.home).getD .empty).insert next.typeName)⟩ := by
      rw [ImportTable.add, gained.home, if_neg own]
    rw [changed]
    refine ⟨gained.home, fun name => ?_, ?_⟩
    · rw [records_put, gained.records, List.mem_append, List.mem_singleton]
      grind
    · have known : next.home ∈ after.entries.keys ↔
          next.home ∈ table.entries.keys ∨ next.home ∈ foreignHomes table.home used := by
        rw [gained.sources, List.mem_append, List.mem_filter, decide_eq_true_eq]
        tauto
      rw [Table.keys_put, foreignHomes_concat_foreign own]
      -- The namespace is new to the table exactly when neither the table nor an earlier use has it.
      by_cases earlier : next.home ∈ table.entries.keys
      · rw [if_pos (known.2 (.inl earlier)), gained.sources]
        split
        · rfl
        · simp [earlier]
      · by_cases taken : next.home ∈ foreignHomes table.home used
        · rw [if_pos (known.2 (.inr taken)), if_pos taken, gained.sources]
        · have new : next.home ∉ after.entries.keys := by
            rw [known]
            tauto
          rw [if_neg new, if_neg taken, gained.sources, List.filter_append, ← List.append_assoc]
          simp [earlier]

/-- What a table gains when it notes some uses, whatever it records already: the names used from
elsewhere, and a place for each namespace that is new. -/
theorem gains_addAll (table : ImportTable) (used : List QualifiedName) :
    table.Gains used (table.addAll used) := by
  have general (more earlier : List QualifiedName) (after : ImportTable)
      (gained : table.Gains earlier after) : table.Gains (earlier ++ more) (after.addAll more) := by
    induction more generalizing earlier after with
    | nil => simpa [addAll] using gained
    | cons next rest ih => simpa [addAll] using ih (earlier ++ [next]) _ (gained.add next)
  exact general used [] table (.refl table)

/-- What a table holds after a list of uses: the namespaces taken from, and under each of them the
set of the names taken from there. -/
structure Holds (home : Text) (used : List QualifiedName) (table : ImportTable) : Prop where
  home_eq : table.home = home
  sources : table.entries.keys = foreignHomes home used
  names : ∀ source, source ≠ home →
    (table.entries.get? source).getD .empty = NameSet.ofList (namesFrom source used)

/-- The names under a namespace are those that the table records from there. -/
theorem mem_getD_iff {source typeName : Text} :
    typeName ∈ ((table.entries.get? source).getD .empty).names ↔
      table.Records ⟨typeName, source⟩ := by
  unfold Records
  cases table.entries.get? source <;> simp [NameSet.empty]

/-- A fresh table holds what it gains, as it has nothing of its own. Only the names of the uses and
their order count. -/
theorem holds_addAll (home : Text) (used : List QualifiedName) :
    Holds home used ((empty home).addAll used) := by
  have gained := (empty home).gains_addAll used
  have fresh (name : QualifiedName) : ¬ (empty home).Records name := by
    rintro ⟨names, found, _⟩
    cases found
  have keys : (empty home).entries.keys = [] := rfl
  refine ⟨gained.home, ?_, fun source foreign => ?_⟩
  · rw [gained.sources, keys, List.nil_append]
    exact List.filter_eq_self.2 fun source _ => by simp
  · refine NameSet.eq_of_mem_iff fun typeName => ?_
    rw [mem_getD_iff, gained.records, NameSet.mem_ofList, mem_namesFrom, or_iff_right (fresh _)]
    exact and_iff_left foreign

/-- Under each of its namespaces a table has what was taken from there. -/
theorem Holds.names_of_mem (held : Holds home used table) {entry : Text × NameSet}
    (there : entry ∈ table.entries.entries) :
    entry.1 ∈ foreignHomes home used ∧ entry.2 = NameSet.ofList (namesFrom entry.1 used) := by
  have found : table.entries.get? entry.1 = some entry.2 := Table.get?_eq_some_iff.2 there
  have source : entry.1 ∈ foreignHomes home used := held.sources ▸ List.mem_map_of_mem there
  refine ⟨source, ?_⟩
  rw [← held.names entry.1 (mem_foreignHomes.1 source).1, found, Option.getD_some]

/-- No namespace is without names: it got its place in the table by the use of one of its names. So
no statement is left out for want of names. -/
theorem Holds.names_ne_nil (held : Holds home used table) {entry : Text × NameSet}
    (there : entry ∈ table.entries.entries) : entry.2.names ≠ [] := by
  obtain ⟨source, names⟩ := held.names_of_mem there
  obtain ⟨_, name, taken, from_⟩ := mem_foreignHomes.1 source
  have member : name.typeName ∈ entry.2.names := by
    rw [names, NameSet.mem_ofList, mem_namesFrom, ← from_]
    exact taken
  exact List.ne_nil_of_mem member

/-- A table has one statement for each namespace taken from, with the names taken from there. No
namespace is left out as empty. -/
theorem Holds.statements (held : Holds home used table) :
    table.statements = (foreignHomes home used).map fun source =>
      ⟨Namespace.specifier home source, (NameSet.ofList (namesFrom source used)).names⟩ := by
  have kept : (table.entries.entries.filter fun entry => !entry.2.names.isEmpty) =
      table.entries.entries := by
    refine List.filter_eq_self.2 fun entry there => ?_
    simpa using held.names_ne_nil there
  rw [ImportTable.statements, kept, ← held.sources, Table.keys, List.map_map, held.home_eq]
  refine List.map_congr_left fun entry there => ?_
  rw [(held.names_of_mem there).2]
  rfl

/-- The statements of a file whose uses are known: one for each foreign namespace in the order of
first use, with the set of the names used from there. -/
theorem statements_addAll (home : Text) (used : List QualifiedName) :
    ((empty home).addAll used).statements = (foreignHomes home used).map fun source =>
      ⟨Namespace.specifier home source, (NameSet.ofList (namesFrom source used)).names⟩ :=
  (holds_addAll home used).statements

end ImportTable

/-- No namespace is taken from twice. The keys of the table that holds the uses show it. -/
theorem nodup_foreignHomes {home : Text} {used : List QualifiedName} :
    (foreignHomes home used).Nodup := by
  have held := ImportTable.holds_addAll home used
  exact held.sources ▸ ((ImportTable.empty home).addAll used).entries.distinct

end OpenApiTypes
