import Mathlib.Data.List.Forall2

/-!
# Texts that tell where they end

A way of writing is delimited when whatever stands written at the front of a text can be told from
everything else, together with the place where it ends. Delimited items may stand in a row: the row
is known as soon as what follows it cannot be taken for one more item. The laws are about lists of
any kind, since items are written both as characters and as lines.
-/
namespace OpenApiTypes

variable {α β : Type}

/-- Two admitted items written at the front of one text are alike and end at the same place. -/
def Delimited (admits : α → Prop) (alike : α → α → Prop) (write : α → List β) : Prop :=
  ∀ item other rest otherRest, admits item → admits other →
    write item ++ rest = write other ++ otherRest → alike item other ∧ rest = otherRest

/-- Delimited items in a row are alike one by one when what follows them is no item. The induction
is on the one row, with the other one at hand: where the one has an item the other cannot have
ended. -/
theorem Delimited.flatMap {admits : α → Prop} {alike : α → α → Prop} {write : α → List β}
    (delimited : Delimited admits alike write) (ends : List β → Prop)
    (apart : ∀ item rest, admits item → ¬ ends (write item ++ rest))
    {items others : List α} {rest otherRest : List β}
    (admitted : ∀ item ∈ items, admits item) (otherAdmitted : ∀ item ∈ others, admits item)
    (ended : ends rest) (otherEnded : ends otherRest)
    (same : items.flatMap write ++ rest = others.flatMap write ++ otherRest) :
    List.Forall₂ alike items others ∧ rest = otherRest := by
  -- The shorter row ends where the other one still has an item, which `apart` excludes.
  induction items generalizing others with
  | nil =>
    cases others with
    | nil => exact ⟨.nil, same⟩
    | cons other later =>
      rw [List.flatMap_nil, List.nil_append, List.flatMap_cons, List.append_assoc] at same
      exact absurd (same ▸ ended) (apart other _ (otherAdmitted other List.mem_cons_self))
  | cons item more ih =>
    cases others with
    | nil =>
      rw [List.flatMap_nil, List.nil_append, List.flatMap_cons, List.append_assoc] at same
      exact absurd (same ▸ otherEnded) (apart item _ (admitted item List.mem_cons_self))
    | cons other later =>
      rw [List.flatMap_cons, List.flatMap_cons, List.append_assoc, List.append_assoc] at same
      obtain ⟨first, behind⟩ := delimited item other _ _ (admitted item List.mem_cons_self)
        (otherAdmitted other List.mem_cons_self) same
      obtain ⟨alikeLater, after⟩ := ih (fun each there => admitted each (.tail item there))
        (fun each there => otherAdmitted each (.tail other there)) behind
      exact ⟨.cons first alikeLater, after⟩

/-- Delimited items that fill a list are alike one by one, since nothing follows them, and nothing
is no item. -/
theorem Delimited.flatMap_inj {admits : α → Prop} {alike : α → α → Prop} {write : α → List β}
    (delimited : Delimited admits alike write) (something : ∀ item, admits item → write item ≠ [])
    {items others : List α} (admitted : ∀ item ∈ items, admits item)
    (otherAdmitted : ∀ item ∈ others, admits item)
    (same : items.flatMap write = others.flatMap write) : List.Forall₂ alike items others := by
  have apart (item : α) (rest : List β) (admitsItem : admits item) :
      write item ++ rest ≠ [] := fun none =>
    something item admitsItem (List.append_eq_nil_iff.1 none).1
  have extended : items.flatMap write ++ [] = others.flatMap write ++ [] := by rw [same]
  exact (delimited.flatMap (· = []) apart admitted otherAdmitted rfl rfl extended).1

section Runs

variable {isInside : α → Bool} {run rest : List α}

/-- A run of one class of characters is what is taken from the front of a text when none of the
class follows it. Nothing is asked of what stands behind that. -/
theorem takeWhile_run (inside : ∀ each ∈ run, isInside each = true)
    (outside : ∀ next ∈ rest.head?, isInside next = false) :
    (run ++ rest).takeWhile isInside = run := by
  have none : rest.takeWhile isInside = [] := by
    cases rest with
    | nil => rfl
    | cons next later => exact List.takeWhile_cons_of_neg (by simp [outside next rfl])
  rw [List.takeWhile_append_of_pos inside, none, List.append_nil]

/-- What follows a run is what is left of the text without it. The run ends at the first item that
is not of its kind, or with the text. -/
theorem dropWhile_run (inside : ∀ each ∈ run, isInside each = true)
    (outside : ∀ next ∈ rest.head?, isInside next = false) :
    (run ++ rest).dropWhile isInside = rest := by
  rw [List.dropWhile_append_of_pos inside]
  cases rest with
  | nil => rfl
  | cons next later => exact List.dropWhile_cons_of_neg (by simp [outside next rfl])

/-- A run of one class of characters is known when none of the class follows it, and with it what
follows. -/
theorem run_append_inj {other otherRest : List α}
    (inside : ∀ each ∈ run, isInside each = true)
    (otherInside : ∀ each ∈ other, isInside each = true)
    (outside : ∀ next ∈ rest.head?, isInside next = false)
    (otherOutside : ∀ next ∈ otherRest.head?, isInside next = false)
    (same : run ++ rest = other ++ otherRest) : run = other ∧ rest = otherRest := by
  have equal : run = other := by
    rw [← takeWhile_run inside outside, same, takeWhile_run otherInside otherOutside]
  subst equal
  exact ⟨rfl, List.append_cancel_left same⟩

end Runs

/-- Items with a separator between them are the first one and every other one behind a separator. -/
theorem intercalate_cons (between item : List α) (more : List (List α)) :
    between.intercalate (item :: more) = item ++ more.flatMap (between ++ ·) := by
  induction more generalizing item with
  | nil => simp
  | cons next later ih =>
    rw [List.intercalate_cons_cons, ih, List.flatMap_cons, List.append_assoc, List.append_assoc]

section Separated

variable [DecidableEq α] {separator : α} {more item other : List α}

/-- An item without a separator is a run of what is no separator. In this form it is put to the
lemmas on runs. -/
theorem ne_of_notMem (clean : separator ∉ item) : ∀ each ∈ item, (each != separator) = true :=
  fun _ there => bne_iff_ne.2 fun same => clean (same ▸ there)

/-- An item without a separator is known when the separator follows it: it ends at the first one. -/
theorem append_separator_inj {rest otherRest : List α} (clean : separator ∉ item)
    (otherClean : separator ∉ other)
    (same : item ++ separator :: rest = other ++ separator :: otherRest) :
    item = other ∧ rest = otherRest := by
  have outside (rest : List α) :
      ∀ next ∈ (separator :: rest).head?, (next != separator) = false := by
    rintro next ⟨⟩
    exact bne_self_eq_false' separator
  obtain ⟨items, after⟩ := run_append_inj (ne_of_notMem clean) (ne_of_notMem otherClean)
    (outside rest) (outside otherRest) same
  exact ⟨items, (List.cons.inj after).2⟩

/-- An item without the separator is known when the separator or nothing follows it. -/
theorem separated_append_inj {items others : List (List α)} (clean : separator ∉ item)
    (otherClean : separator ∉ other)
    (same : item ++ items.flatMap (separator :: more ++ ·) =
      other ++ others.flatMap (separator :: more ++ ·)) :
    item = other ∧ items.flatMap (separator :: more ++ ·) =
      others.flatMap (separator :: more ++ ·) := by
  have outside (items : List (List α)) :
      ∀ next ∈ (items.flatMap (separator :: more ++ ·)).head?, (next != separator) = false := by
    intro next begins
    cases items with
    | nil => cases begins
    | cons first later =>
      cases begins
      exact bne_self_eq_false' separator
  exact run_append_inj (ne_of_notMem clean) (ne_of_notMem otherClean) (outside items)
    (outside others) same

/-- Items behind separators are known when none of them holds the separator, one after the other
from the front. -/
theorem separated_inj {items others : List (List α)} (clean : ∀ item ∈ items, separator ∉ item)
    (otherClean : ∀ item ∈ others, separator ∉ item)
    (same : items.flatMap (separator :: more ++ ·) = others.flatMap (separator :: more ++ ·)) :
    items = others := by
  induction items generalizing others with
  | nil =>
    cases others with
    | nil => rfl
    | cons other later => cases same
  | cons item rest ih =>
    cases others with
    | nil => cases same
    | cons other later =>
      rw [List.flatMap_cons, List.flatMap_cons, List.append_assoc, List.append_assoc] at same
      obtain ⟨rfl, behind⟩ := separated_append_inj (clean item List.mem_cons_self)
        (otherClean other List.mem_cons_self) (List.append_cancel_left same)
      rw [ih (fun each there => clean each (.tail item there))
        (fun each there => otherClean each (.tail item there)) behind]

/-- Items with a separator between them are known when each of them is something without the
separator. An empty item would be taken for no item at all if it stood alone. -/
theorem intercalate_inj {items others : List (List α)}
    (clean : ∀ item ∈ items, separator ∉ item ∧ item ≠ [])
    (otherClean : ∀ item ∈ others, separator ∉ item ∧ item ≠ [])
    (same : (separator :: more).intercalate items = (separator :: more).intercalate others) :
    items = others := by
  cases items with
  | nil =>
    cases others with
    | nil => rfl
    | cons other later =>
      rw [intercalate_cons] at same
      exact absurd (List.append_eq_nil_iff.1 same.symm).1 (otherClean other List.mem_cons_self).2
  | cons item rest =>
    cases others with
    | nil =>
      rw [intercalate_cons] at same
      exact absurd (List.append_eq_nil_iff.1 same).1 (clean item List.mem_cons_self).2
    | cons other later =>
      rw [intercalate_cons, intercalate_cons] at same
      obtain ⟨rfl, behind⟩ := separated_append_inj (clean item List.mem_cons_self).1
        (otherClean other List.mem_cons_self).1 same
      rw [separated_inj (fun each there => (clean each (.tail item there)).1)
        (fun each there => (otherClean each (.tail item there)).1) behind]

end Separated

end OpenApiTypes
