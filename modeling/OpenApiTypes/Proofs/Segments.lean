import OpenApiTypes.QualifiedName

/-!
# Segments of a text

The names of definitions are cut at their points and put together again with slashes, and paths are
cut at their slashes. Cutting a text keeps its characters: a segment is part of the text, it holds
no separator, and every other character of the text lies in one of the segments.
-/
namespace OpenApiTypes.Segments

variable {separator character : CodePoint} {text segment : List CodePoint}
  {segments : List (List CodePoint)}

/-- A text that does not begin with the separator has the segments of what follows, the first of
them with one more character. -/
theorem splitOn_cons_of_ne {first : CodePoint} {rest : List CodePoint}
    (different : first ≠ separator) :
    ∃ head tail, rest.splitOn separator = head :: tail ∧
      (first :: rest).splitOn separator = (first :: head) :: tail := by
  obtain ⟨head, tail, cut⟩ := List.exists_cons_of_ne_nil (List.splitOn_ne_nil separator rest)
  refine ⟨head, tail, cut, ?_⟩
  rw [List.splitOn_cons_eq_if_modifyHead, if_neg (by simpa using different), cut,
    List.modifyHead_cons]

/-- A text that begins with the separator has an empty first segment. What follows has its segments
behind that one. -/
theorem splitOn_cons_self {rest : List CodePoint} :
    (separator :: rest).splitOn separator = [] :: rest.splitOn separator := by
  rw [List.splitOn_cons_eq_if_modifyHead, if_pos (by simp)]

/-- A segment of a longer text is empty, or it is one of the shorter text, perhaps with one more
character that is no separator. This is the step of the inductions below. -/
theorem mem_splitOn_cons {first : CodePoint} {rest : List CodePoint}
    (cut : segment ∈ (first :: rest).splitOn separator) :
    segment = [] ∨ segment ∈ rest.splitOn separator ∨
      first ≠ separator ∧ ∃ shorter ∈ rest.splitOn separator, segment = first :: shorter := by
  by_cases same : first = separator
  · rw [same, splitOn_cons_self] at cut
    rcases List.mem_cons.1 cut with rfl | later
    · exact .inl rfl
    · exact .inr (.inl later)
  · obtain ⟨head, tail, rests, whole⟩ := splitOn_cons_of_ne same
    rw [whole] at cut
    rcases List.mem_cons.1 cut with rfl | later
    · exact .inr (.inr ⟨same, head, rests ▸ List.mem_cons_self, rfl⟩)
    · exact .inr (.inl (rests ▸ List.mem_cons_of_mem head later))

/-- No segment holds the separator, since the text is cut at every one. -/
theorem separator_notMem (cut : segment ∈ text.splitOn separator) : separator ∉ segment := by
  induction text generalizing segment with
  | nil =>
    rw [List.splitOn_nil, List.mem_singleton] at cut
    rw [cut]
    exact List.not_mem_nil
  | cons first rest ih =>
    rcases mem_splitOn_cons cut with rfl | shorter | ⟨different, shorter, there, rfl⟩
    · exact List.not_mem_nil
    · exact ih shorter
    · rw [List.mem_cons, not_or]
      exact ⟨Ne.symm different, ih there⟩

/-- A segment is a part of the text, so nothing occurs more often in it. -/
theorem sublist_of_mem_splitOn (cut : segment ∈ text.splitOn separator) :
    segment.Sublist text := by
  induction text generalizing segment with
  | nil =>
    rw [List.splitOn_nil, List.mem_singleton] at cut
    exact cut ▸ List.nil_sublist []
  | cons first rest ih =>
    rcases mem_splitOn_cons cut with rfl | shorter | ⟨_, shorter, there, rfl⟩
    · exact List.nil_sublist _
    · exact (ih shorter).cons first
    · exact (ih there).cons_cons first

/-- A character of joined segments stands between them or lies in one of them. -/
theorem mem_of_mem_intercalate {between : List CodePoint}
    (joined : character ∈ between.intercalate segments) :
    character ∈ between ∨ ∃ segment ∈ segments, character ∈ segment := by
  induction segments with
  | nil => cases joined
  | cons first rest ih =>
    cases rest with
    | nil =>
      rw [List.intercalate_singleton] at joined
      exact .inr ⟨first, List.mem_cons_self, joined⟩
    | cons second others =>
      rw [List.intercalate_cons_cons, List.append_assoc, List.mem_append] at joined
      rcases joined with here | later
      · exact .inr ⟨first, List.mem_cons_self, here⟩
      · rcases List.mem_append.1 later with between | after
        · exact .inl between
        · rcases ih after with between | ⟨segment, there, inside⟩
          · exact .inl between
          · exact .inr ⟨segment, List.mem_cons_of_mem first there, inside⟩

/-- Every character of a text that is no separator lies in a segment. No more of the text is lost
than the separators. -/
theorem exists_segment (there : character ∈ text) (different : character ≠ separator) :
    ∃ segment ∈ text.splitOn separator, character ∈ segment := by
  have whole : [separator].intercalate (text.splitOn separator) = text :=
    List.intercalate_splitOn separator
  rw [← whole] at there
  rcases mem_of_mem_intercalate there with between | inside
  · exact absurd (List.mem_singleton.1 between) different
  · exact inside

/-- What is put behind a text without holding the separator becomes part of its last segment. The
other segments stay. -/
theorem splitOn_append_of_notMem {ending : List CodePoint} (absent : separator ∉ ending) :
    (text ++ ending).splitOn separator =
      (text.splitOn separator).dropLast ++ [(text.splitOn separator).getLastD [] ++ ending] := by
  induction text with
  | nil => simp [List.splitOn_eq_singleton absent]
  | cons first rest ih =>
    by_cases same : first = separator
    · subst same
      rw [List.cons_append, splitOn_cons_self, splitOn_cons_self, ih]
      cases cut : rest.splitOn first with
      | nil => exact absurd cut (List.splitOn_ne_nil first rest)
      | cons head tail => simp
    · have behind (rest : List CodePoint) : ∃ head tail, rest.splitOn separator = head :: tail ∧
          (first :: rest).splitOn separator = (first :: head) :: tail := splitOn_cons_of_ne same
      obtain ⟨head, tail, cut, whole⟩ := behind rest
      obtain ⟨longHead, longTail, longCut, longWhole⟩ := behind (rest ++ ending)
      rw [List.cons_append, longWhole, whole]
      rw [longCut, cut] at ih
      cases tail with
      | nil =>
        simp only [List.dropLast_singleton, List.nil_append, List.cons.injEq] at ih
        simpa using ih
      | cons second others =>
        simp only [List.dropLast_cons_cons, List.cons_append, List.cons.injEq] at ih
        simp [ih]

/-- Segments with another character between them are the text with that one for the separator. The
induction is on the text, which has one separator less than segments. -/
theorem intercalate_splitOn_eq_map {between : CodePoint} :
    [between].intercalate (text.splitOn separator) =
      text.map fun c => if c = separator then between else c := by
  induction text with
  | nil => rw [List.splitOn_nil, List.intercalate_singleton, List.map_nil]
  | cons first rest ih =>
    by_cases same : first = separator
    · subst same
      obtain ⟨head, tail, cut⟩ := List.exists_cons_of_ne_nil (List.splitOn_ne_nil first rest)
      rw [cut] at ih
      rw [splitOn_cons_self, cut, List.intercalate_cons_cons, ih, List.map_cons, if_pos rfl]
      rfl
    · obtain ⟨head, tail, cut, whole⟩ : ∃ head tail, rest.splitOn separator = head :: tail ∧
          (first :: rest).splitOn separator = (first :: head) :: tail := splitOn_cons_of_ne same
      rw [cut] at ih
      rw [whole, List.map_cons, if_neg same, ← ih]
      cases tail with
      | nil => rw [List.intercalate_singleton, List.intercalate_singleton]
      | cons second others =>
        rw [List.intercalate_cons_cons, List.intercalate_cons_cons, List.cons_append,
          List.cons_append]

/-- A text with a separator has one behind which there is no other. It parts the last segment from
all that is before. -/
theorem exists_last_separator (there : separator ∈ text) :
    ∃ before last, text = before ++ separator :: last ∧ separator ∉ last := by
  obtain ⟨last, before, backwards, absent⟩ :=
    List.eq_append_cons_of_mem (List.mem_reverse.2 there)
  refine ⟨before.reverse, last.reverse, ?_, mt List.mem_reverse.1 absent⟩
  rw [← List.reverse_reverse text, backwards]
  simp

/-- What stands behind the last separator is the last segment. The segments before it are those of
the text before the separator. -/
theorem splitOn_append_last {before last : List CodePoint} (absent : separator ∉ last) :
    (before ++ separator :: last).splitOn separator = before.splitOn separator ++ [last] := by
  rw [List.splitOn_append_cons_self, List.splitOn_eq_singleton absent]

/-- The last segment holds no separator, as no segment does. It is there in any case, since there is
at least one segment. -/
theorem separator_notMem_last : separator ∉ (text.splitOn separator).getLastD [] := by
  have cut : (text.splitOn separator).getLastD [] ∈ text.splitOn separator := by
    rw [List.getLastD_eq_getLast?,
      List.getLast?_eq_some_getLast (List.splitOn_ne_nil separator text)]
    exact List.getLast_mem _
  exact separator_notMem cut

end OpenApiTypes.Segments
