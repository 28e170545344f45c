/-!
# Tables

A table gives each of finitely many keys one value and remembers the order in which the keys first
came. A value given to a key again replaces the earlier one and leaves the key in its place, so a
table read from a list of pairs keeps the first position and the last value of every key.
-/
namespace OpenApiTypes

/-- Entries in order, no two of them under one key. The order is that in which the keys were first
given a value, and it is part of the table: two tables with the same entries in another order
differ. -/
structure Table (κ α : Type) where
  entries : List (κ × α)
  distinct : (entries.map Prod.fst).Nodup

namespace Table

variable {κ α β ε : Type} [DecidableEq κ]

omit [DecidableEq κ] in
/-- A table is its entries: that the keys are distinct is a property of these and says nothing more.
-/
theorem eq_of_entries {table other : Table κ α} (same : table.entries = other.entries) :
    table = other := by
  cases table
  cases other
  cases same
  rfl

/-- The table without entries, from which every table is filled. -/
def empty : Table κ α := ⟨[], List.nodup_nil⟩

instance : Inhabited (Table κ α) := ⟨empty⟩

/-- The keys in order. No key occurs twice. -/
def keys (table : Table κ α) : List κ := table.entries.map Prod.fst

/-- The values in the order of their keys. Two keys may have one value, which then occurs twice. -/
def values (table : Table κ α) : List α := table.entries.map Prod.snd

/-- The value under a key, if the key has one. There is no default here; who needs one says
which. -/
def get? (table : Table κ α) (key : κ) : Option α := table.entries.lookup key

/-- Whether the table has a value under a key, be it an empty one. -/
def contains (table : Table κ α) (key : κ) : Bool := (table.get? key).isSome

/-- The entries after a key is given a value: an entry already there keeps its place. -/
def putEntry (key : κ) (value : α) : List (κ × α) → List (κ × α)
  | [] => [(key, value)]
  | entry :: rest =>
    if entry.1 = key then (key, value) :: rest else entry :: putEntry key value rest

/-- The keys after a value was put under a key are those from before and that key. -/
theorem mem_keys_putEntry {key other : κ} {value : α} {entries : List (κ × α)} :
    other ∈ (putEntry key value entries).map Prod.fst ↔
      other = key ∨ other ∈ entries.map Prod.fst := by
  induction entries with
  | nil => simp [putEntry]
  | cons entry rest ih =>
    by_cases same : entry.1 = key <;> simp [putEntry, same, ih]
    grind

/-- No key comes twice by putting a value under a key, since an entry with that key is replaced. So
what is put into a table leaves a table. -/
theorem nodup_putEntry {key : κ} {value : α} {entries : List (κ × α)}
    (distinct : (entries.map Prod.fst).Nodup) :
    ((putEntry key value entries).map Prod.fst).Nodup := by
  induction entries with
  | nil => simp [putEntry]
  | cons entry rest ih =>
    rw [List.map_cons, List.nodup_cons] at distinct
    by_cases same : entry.1 = key
    · subst same
      simpa [putEntry] using distinct
    · have apart : entry.1 ∉ (putEntry key value rest).map Prod.fst := by
        rw [mem_keys_putEntry]
        exact fun either => either.elim same distinct.1
      simpa [putEntry, same] using ⟨by simpa using apart, ih distinct.2⟩

/-- Give a key a value. A key that is new comes last; under one that is there already the value is
replaced, and the entry keeps its place. -/
def put (table : Table κ α) (key : κ) (value : α) : Table κ α :=
  ⟨putEntry key value table.entries, nodup_putEntry table.distinct⟩

/-- The table of a list of pairs: of several pairs under one key the first gives the place and the
last the value. -/
def ofList (pairs : List (κ × α)) : Table κ α :=
  pairs.foldl (fun table pair => table.put pair.1 pair.2) empty

/-- Change every value, with its key at hand. The keys and their order stay as they are. -/
def map (f : κ → α → β) (table : Table κ α) : Table κ β :=
  ⟨table.entries.map fun entry => (entry.1, f entry.1 entry.2), by
    simpa [Function.comp_def] using table.distinct⟩

/-- Change every value by a step that may fail; the first failure in order is the answer. No value
behind it is looked at. -/
def mapM (f : κ → α → Except ε β) (table : Table κ α) : Except ε (Table κ β) := do
  let entries ← table.entries.mapM fun entry => do return (entry.1, ← f entry.1 entry.2)
  return ofList entries

/-- An entry under a new key goes to the end, behind everything that was there before. -/
theorem putEntry_of_notMem {key : κ} {value : α} {entries : List (κ × α)}
    (fresh : key ∉ entries.map Prod.fst) :
    putEntry key value entries = entries ++ [(key, value)] := by
  induction entries with
  | nil => rfl
  | cons entry rest ih =>
    simp only [List.map_cons, List.mem_cons, not_or] at fresh
    simp [putEntry, Ne.symm fresh.1, ih fresh.2]

/-- Pairs that are put into a table one by one follow its entries in order, as long as no key comes
twice among all of them. The induction is on the pairs, for every table, which grows by one pair in
each step. -/
private theorem entries_foldl_put (pairs : List (κ × α)) (table : Table κ α)
    (distinct : ((table.entries ++ pairs).map Prod.fst).Nodup) :
    (pairs.foldl (fun table pair => table.put pair.1 pair.2) table).entries =
      table.entries ++ pairs := by
  induction pairs generalizing table with
  | nil => simp
  | cons pair rest ih =>
    have fresh : pair.1 ∉ table.entries.map Prod.fst := by
      simp only [List.map_append, List.map_cons, List.nodup_append] at distinct
      exact fun there => distinct.2.2 _ there _ (by simp) rfl
    have extended : (table.put pair.1 pair.2).entries = table.entries ++ [pair] :=
      putEntry_of_notMem fresh
    rw [List.foldl_cons, ih _ (by rw [extended]; simpa using distinct), extended]
    simp

/-- Pairs under distinct keys are the entries of their table, unchanged: none of them replaces
another. -/
theorem entries_ofList {pairs : List (κ × α)} (distinct : (pairs.map Prod.fst).Nodup) :
    (ofList pairs).entries = pairs := by
  simpa [ofList, empty] using entries_foldl_put pairs empty (by simpa [empty] using distinct)

/-- A search looks at the first entry, and at the others only where the key is another one. -/
private theorem lookup_cons_eq_if {key : κ} {entry : κ × α} {rest : List (κ × α)} :
    (entry :: rest).lookup key = if key = entry.1 then some entry.2 else rest.lookup key := by
  rw [List.lookup_cons]
  by_cases here : key = entry.1
  · simp [here]
  · simp [here, beq_false_of_ne here]

/-- A key has a value exactly when it is one of the keys. The value may be anything. -/
theorem isSome_get? {table : Table κ α} {key : κ} :
    (table.get? key).isSome = true ↔ key ∈ table.keys := by
  simp [get?, keys, List.lookup_isSome_iff]

/-- A key under which something is found is one of the keys. This is the direction that is used
most. -/
theorem mem_keys_of_get? {table : Table κ α} {key : κ} {value : α}
    (found : table.get? key = some value) : key ∈ table.keys := by
  rw [← isSome_get?, found, Option.isSome_some]

/-- Nothing is found exactly under what is no key. There are no values without a key to find them
by. -/
theorem get?_eq_none_iff {table : Table κ α} {key : κ} :
    table.get? key = none ↔ key ∉ table.keys := by
  rw [← isSome_get?, Bool.not_eq_true, Option.isSome_eq_false_iff, Option.isNone_iff_eq_none]

/-- A value under a key is an entry, and since no key has two entries every entry is found. -/
theorem get?_eq_some_iff {table : Table κ α} {key : κ} {value : α} :
    table.get? key = some value ↔ (key, value) ∈ table.entries := by
  have general (entries : List (κ × α)) (distinct : (entries.map Prod.fst).Nodup) :
      entries.lookup key = some value ↔ (key, value) ∈ entries := by
    induction entries with
    | nil => simp
    | cons entry rest ih =>
      obtain ⟨first, held⟩ := entry
      rw [List.map_cons, List.nodup_cons] at distinct
      by_cases same : key = first
      · subst same
        have absent : (key, value) ∉ rest := fun there =>
          distinct.1 (List.mem_map.2 ⟨_, there, rfl⟩)
        simp [lookup_cons_eq_if, absent, eq_comm]
      · simp [lookup_cons_eq_if, same, ih distinct.2]
  exact general table.entries table.distinct

/-- A new key goes to the end, and one already there keeps its place. No value has a part in
this. -/
theorem keys_put {table : Table κ α} {key : κ} {value : α} :
    (table.put key value).keys =
      if key ∈ table.keys then table.keys else table.keys ++ [key] := by
  have general (entries : List (κ × α)) : (putEntry key value entries).map Prod.fst =
      if key ∈ entries.map Prod.fst then entries.map Prod.fst
      else entries.map Prod.fst ++ [key] := by
    induction entries with
    | nil => simp [putEntry]
    | cons entry rest ih =>
      by_cases same : entry.1 = key
      · simp [putEntry, same]
      · by_cases there : key ∈ rest.map Prod.fst
        · simp [putEntry, same, ih, there]
        · simp [putEntry, same, ih, there, Ne.symm same]
  exact general table.entries

/-- A value is found under the key that it was given last, and all other keys keep theirs. -/
theorem get?_put {table : Table κ α} {key other : κ} {value : α} :
    (table.put key value).get? other = if other = key then some value else table.get? other := by
  have general (entries : List (κ × α)) : (putEntry key value entries).lookup other =
      if other = key then some value else entries.lookup other := by
    induction entries with
    | nil => simp [putEntry, lookup_cons_eq_if]
    | cons entry rest ih =>
      by_cases place : entry.1 = key
      · by_cases same : other = key <;> simp [putEntry, lookup_cons_eq_if, place, same]
      · by_cases same : other = entry.1
        · simp [putEntry, lookup_cons_eq_if, place, same]
        · simp [putEntry, lookup_cons_eq_if, place, same, ih]
  exact general table.entries

omit [DecidableEq κ] in
/-- To change the values leaves the keys and their order alone. So a table and its image are gone
through alike. -/
theorem keys_map {f : κ → α → β} {table : Table κ α} : (table.map f).keys = table.keys := by
  simp [keys, map, Function.comp_def]

/-- Changed values are found under the keys of the values before. It makes no difference whether a
value is changed before or after it is found. -/
theorem lookup_map {f : κ → α → β} {entries : List (κ × α)} {key : κ} :
    (entries.map fun entry => (entry.1, f entry.1 entry.2)).lookup key =
      (entries.lookup key).map (f key) := by
  induction entries with
  | nil => rfl
  | cons entry rest ih =>
    by_cases here : key = entry.1 <;> simp [lookup_cons_eq_if, here, ih]

/-- Under a key of changed values the changed value is found, and nothing under any other. -/
theorem get?_map {f : κ → α → β} {table : Table κ α} {key : κ} :
    (table.map f).get? key = (table.get? key).map (f key) := lookup_map

/-- It makes no difference whether values are changed before one more is put among them or
afterwards. -/
theorem putEntry_map {f : α → β} {key : κ} {value : α} {entries : List (κ × α)} :
    putEntry key (f value) (entries.map fun entry => (entry.1, f entry.2)) =
      (putEntry key value entries).map fun entry => (entry.1, f entry.2) := by
  induction entries with
  | nil => rfl
  | cons entry rest ih =>
    by_cases here : entry.1 = key <;> simp [putEntry, here, ih]

/-- It does not matter whether values are changed before or after a table is made of them. The
induction is on the pairs, for every list of entries put in before. -/
theorem ofList_map {f : α → β} {pairs : List (κ × α)} :
    ofList (pairs.map fun pair => (pair.1, f pair.2)) = (ofList pairs).map fun _ => f := by
  have general (table : Table κ α) :
      (pairs.map fun pair => (pair.1, f pair.2)).foldl (fun table pair => table.put pair.1 pair.2)
          (table.map fun _ => f) =
        (pairs.foldl (fun table pair => table.put pair.1 pair.2) table).map fun _ => f := by
    induction pairs generalizing table with
    | nil => rfl
    | cons pair rest ih =>
      have first : (table.map fun _ => f).put pair.1 (f pair.2) =
          (table.put pair.1 pair.2).map fun _ => f := eq_of_entries putEntry_map
      rw [List.map_cons, List.foldl_cons, List.foldl_cons, first, ih]
  exact general empty

/-- Of several pairs under one key the last gives the value. So a table made of a list answers as a
search of the list from its end does. -/
theorem get?_ofList {pairs : List (κ × α)} {key : κ} :
    (ofList pairs).get? key = pairs.reverse.lookup key := by
  have general (table : Table κ α) :
      (pairs.foldl (fun table pair => table.put pair.1 pair.2) table).get? key =
        (pairs.reverse.lookup key).or (table.get? key) := by
    induction pairs generalizing table with
    | nil => rfl
    | cons pair rest ih =>
      rw [List.foldl_cons, ih, get?_put, List.reverse_cons, List.lookup_append, lookup_cons_eq_if,
        Option.or_assoc]
      by_cases here : key = pair.1 <;> simp [here]
  rw [ofList, general, show (empty : Table κ α).get? key = none from rfl, Option.or_none]

/-- The keys fix the order of the values. So the values are known from the keys and from what is
found under them. -/
theorem values_eq {table : Table κ α} : table.values = table.keys.filterMap table.get? := by
  have general (entries : List (κ × α)) (found : ∀ entry ∈ entries,
      table.get? entry.1 = some entry.2) :
      entries.map Prod.snd = (entries.map Prod.fst).filterMap table.get? := by
    induction entries with
    | nil => rfl
    | cons entry rest ih =>
      have first : table.get? entry.1 = some entry.2 := found entry List.mem_cons_self
      simp [first, ih fun other there => found other (List.mem_cons_of_mem entry there)]
  exact general table.entries fun entry there => get?_eq_some_iff.2 there

/-- The values are what is found under some key. Nothing else is ever stored in a table. -/
theorem mem_values_iff {table : Table κ α} {value : α} :
    value ∈ table.values ↔ ∃ key, table.get? key = some value := by
  simp [values, get?_eq_some_iff]

end Table

end OpenApiTypes
