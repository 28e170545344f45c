import OpenApiTypes.Proofs.Segments

/-!
# A name can be spelled out from its qualified name

The namespace of a qualified name has slashes where the name had points, and its type is what stood
behind the last point. So the name can be spelled out again if it has no slashes of its own and does
not begin with a point. The second condition is there because an empty namespace stands for a name
without points; that a name may also begin with an empty segment before its only point is lost.
Empty segments everywhere else are kept. Hence names that can be spelled out are told apart by their
types and namespaces.
-/
namespace OpenApiTypes.QualifiedName

variable {text short name : Text} {before last : List CodePoint} {rules : Simplifications}

/-- The name that a type and a namespace spell: the segments of the namespace and the type, with
points between them. -/
def spelling (qualified : QualifiedName) : Text :=
  if qualified.home = "" then qualified.typeName
  else qualified.home.map (fun c => if c = .char '/' then .char '.' else c) ++ "." ++
    qualified.typeName

/-- A name without slashes that does not begin with a point. Of such names no two are read as
one. -/
structure IsSpellable (text : Text) : Prop where
  slash : .char '/' ∉ text.toList
  start : text.toList.head? ≠ some (.char '.')

/-- A name without points is a type of the empty namespace. It is its own and only segment. -/
theorem ofSegments_of_notMem (absent : .char '.' ∉ text.toList) : ofSegments text = ⟨text, ""⟩ := by
  rw [ofSegments, List.splitOn_eq_singleton absent]
  simp

/-- What stands behind the last point is the type, and what stands before it is the namespace, with
slashes for points. -/
theorem ofSegments_of_last (split : text.toList = before ++ .char '.' :: last)
    (absent : .char '.' ∉ last) :
    ofSegments text = ⟨Text.ofList last,
      Text.ofList (before.map fun c => if c = .char '.' then .char '/' else c)⟩ := by
  rw [ofSegments, split, Segments.splitOn_append_last absent]
  simp [Segments.intercalate_splitOn_eq_map]

/-- Points stand between the segments of a name only, and none is left of them in the namespace. -/
theorem point_notMem_home : .char '.' ∉ (ofSegments text).home.toList := by
  intro there
  rw [ofSegments, Text.toList_ofList] at there
  rcases Segments.mem_of_mem_intercalate there with between | ⟨segment, early, inside⟩
  · exact absurd between (by decide)
  · exact Segments.separator_notMem (List.dropLast_subset _ early) inside

/-- No point is left in the type, which is the last segment. There may be slashes in it, which were
there before. -/
theorem point_notMem_typeName : .char '.' ∉ (ofSegments text).typeName.toList := by
  rw [ofSegments, Text.toList_ofList]
  exact Segments.separator_notMem_last

/-- Where there are no slashes, to write them for points can be undone, character by character. -/
theorem map_points_of_slashes (slash : .char '/' ∉ before) :
    (before.map fun c => if c = .char '.' then .char '/' else c).map
      (fun c => if c = .char '/' then .char '.' else c) = before := by
  have undone : ∀ c ∈ before,
      (if (if c = .char '.' then .char '/' else c) = .char '/' then .char '.'
        else if c = .char '.' then .char '/' else c) = c := by
    intro c there
    have plain : c ≠ .char '/' := fun same => slash (same ▸ there)
    by_cases point : c = .char '.'
    · simp [point]
    · simp [point, plain]
  rw [List.map_map]
  exact (List.map_congr_left undone).trans (List.map_id before)

/-- The qualified name of a spellable name spells it. The cases are whether the name has a point,
and what stands before the last one. -/
theorem spelling_ofSegments (spellable : IsSpellable text) : (ofSegments text).spelling = text := by
  by_cases point : .char '.' ∈ text.toList
  · obtain ⟨before, last, split, absent⟩ := Segments.exists_last_separator point
    have slash : .char '/' ∉ before := fun there =>
      spellable.slash (split ▸ List.mem_append_left _ there)
    have something : before ≠ [] := by
      rintro rfl
      exact spellable.start (by rw [split]; rfl)
    have named : Text.ofList (before.map fun c => if c = .char '.' then .char '/' else c) ≠ "" := by
      simpa using something
    rw [ofSegments_of_last split absent, spelling, if_neg named]
    apply Text.toList_inj.1
    simp [map_points_of_slashes slash, split]
  · rw [ofSegments_of_notMem point, spelling, if_pos rfl]

/-- A spellable name is lost in no part of its qualified name: neither the type nor the namespace
holds a point, and the two spell the name. So another spellable name has another qualified name,
whatever rules lead to the two.

Proof: the qualified name is made by cutting at the last point and writing slashes for the others.
The spelling undoes both, since a spellable name has no slashes of its own. -/
theorem spelling_of_definition (simplified : rules.simplify? name = some short)
    (spellable : IsSpellable short) :
    ∃ qualified, ofDefinition? rules name = some qualified ∧
      .char '.' ∉ qualified.typeName.toList ∧ .char '.' ∉ qualified.home.toList ∧
      short = qualified.spelling ∧
      ∀ (otherRules : Simplifications) (otherName otherShort : Text),
        otherRules.simplify? otherName = some otherShort → IsSpellable otherShort →
        otherShort ≠ short → ofDefinition? otherRules otherName ≠ some qualified := by
  have named {rules : Simplifications} {name short : Text}
      (simplified : rules.simplify? name = some short) :
      ofDefinition? rules name = some (ofSegments short) := by
    rw [ofDefinition?, simplified, Option.map_some]
  have spelled : (ofSegments short).spelling = short := spelling_ofSegments spellable
  refine ⟨ofSegments short, named simplified, point_notMem_typeName, point_notMem_home,
    spelled.symm, ?_⟩
  intro otherRules otherName otherShort otherSimplified otherSpellable different same
  rw [named otherSimplified] at same
  apply different
  calc otherShort
    _ = (ofSegments otherShort).spelling := (spelling_ofSegments otherSpellable).symm
    _ = (ofSegments short).spelling := by rw [Option.some.inj same]
    _ = short := spelled

/-- One rule, which takes a beginning away. -/
def shorteningRules : Simplifications := .ofList [("io.k8s.api.", "")]

/-- Empty segments are kept, in the middle and at the end: a name with one of them more has another
qualified name. -/
theorem spelling_of_definition_of_gaps :
    ofDefinition? shorteningRules "io.k8s.api.a..b." = some ⟨"", "a//b"⟩ ∧
      spelling ⟨"", "a//b"⟩ = "a..b." ∧
      ofDefinition? shorteningRules "io.k8s.api.a.b." ≠ some ⟨"", "a//b"⟩ := by
  have simplified : shorteningRules.simplify? "io.k8s.api.a..b." = some "a..b." := by decide
  have otherSimplified : shorteningRules.simplify? "io.k8s.api.a.b." = some "a.b." := by decide
  obtain ⟨qualified, named, _, _, spelled, apart⟩ :=
    spelling_of_definition simplified ⟨by decide, by decide⟩
  have known : ofDefinition? shorteningRules "io.k8s.api.a..b." = some ⟨"", "a//b"⟩ := by decide
  obtain rfl : qualified = ⟨"", "a//b"⟩ := Option.some.inj (named.symm.trans known)
  have different : ("a.b." : Text) ≠ "a..b." := by decide
  exact ⟨known, spelled.symm,
    apart shorteningRules _ _ otherSimplified ⟨by decide, by decide⟩ different⟩

end OpenApiTypes.QualifiedName
