import Mathlib.Data.List.DropRight
import OpenApiTypes.Namespace
import OpenApiTypes.Path
import OpenApiTypes.Proofs.Segments

/-!
# Where a route leads

A file is found from another one by joining the route to the text of the directory that the other
file lies in. What such a text leads to is told by its segments, which are gone through one after
the other; slashes that are doubled or stand at the end lead nowhere. The way from one directory to
another climbs out of what the two do not share and descends into the rest, so it ends at the second
directory wherever it may lie. A specifier is that way and the name of the file, and the extension
only makes the last segment longer. So it leads to the file that it was made for.

All this is about paths that start from one directory and do not climb above it: no namespace here
begins with a slash or has a point in it.
-/
namespace OpenApiTypes

namespace PathText

/-- The directory that a path lies in: everything before the last slash. Slashes at the end of that
are dropped unless there is nothing else. -/
def directory (path : Text) : Text :=
  let front := path.toList.rdropWhile (· != .char '/')
  Text.ofList (if front.all (· == .char '/') then front else front.rdropWhile (· == .char '/'))

/-- A path from a directory on, which is the path alone when that begins with a slash. -/
def join (base next : Text) : Text :=
  if next.toList.head? = some (.char '/') then next
  else if base = "" ∨ base.toList.getLast? = some (.char '/') then base ++ next
  else base ++ "/" ++ next

/-- The shortest path that leads, by the text alone, where the given one leads. The path that leads
nowhere else is a point. -/
def normal (path : Text) : Text :=
  let way :=
    Namespace.normalize (path.toList.head? = some (.char '/')) (path.toList.splitOn (.char '/'))
  let text := Path.rootOf path.toList ++ Text.ofList ([.char '/'].intercalate way)
  if text = "" then "." else text

/-- Where a text leads from the end of a way, which is held last segment first. Nothing is asked
about what stands there. -/
def follow (way : List Segment) (text : List CodePoint) : List Segment :=
  (text.splitOn (.char '/')).foldl (Namespace.advance false) way

variable {way : List Segment} {text front rest : List CodePoint} {base next path other : Text}

/-- The empty text leads nowhere. It has one segment, and that is empty. -/
theorem follow_nil : follow way [] = way := rfl

/-- A slash parts what is gone through first from what is gone through then. -/
theorem follow_append_slash :
    follow way (front ++ .char '/' :: rest) = follow (follow way front) rest := by
  rw [follow, List.splitOn_append_cons_self, List.foldl_append]
  rfl

/-- Slashes at the end of a text lead nowhere, however many there are. -/
theorem follow_dropSlashes : follow way (text.rdropWhile (· == .char '/')) = follow way text := by
  induction text using List.reverseRecOn with
  | nil => rfl
  | append_singleton front last ih =>
    by_cases slash : last = .char '/'
    · rw [slash, List.rdropWhile_concat_pos _ _ _ rfl, ih, follow_append_slash, follow_nil]
    · rw [List.rdropWhile_concat_neg _ _ _ (by simpa using slash)]

/-- The directory of a path leads where all segments of the path but the last one lead. -/
theorem follow_directory : follow way (directory path).toList =
    (path.toList.splitOn (.char '/')).dropLast.foldl (Namespace.advance false) way := by
  have kept : follow way (directory path).toList =
      follow way (path.toList.rdropWhile (· != .char '/')) := by
    rw [directory, Text.toList_ofList]
    split
    · rfl
    · exact follow_dropSlashes
  rw [kept]
  induction path.toList using List.reverseRecOn with
  | nil => rfl
  | append_singleton front last ih =>
    by_cases slash : last = .char '/'
    · rw [slash, List.rdropWhile_concat_neg _ _ _ (by decide), List.splitOn_append_cons_self,
        follow_append_slash, List.splitOn_nil, List.dropLast_concat]
      rfl
    · have absent : .char '/' ∉ [last] := by simpa using Ne.symm slash
      rw [List.rdropWhile_concat_pos _ _ _ (by simpa using slash), ih,
        Segments.splitOn_append_of_notMem absent, List.dropLast_concat]

/-- A joined path leads where the second one leads from the end of the first. A slash is put between
the two where there is none, and none where there is one. -/
theorem follow_join (relative : next.toList.head? ≠ some (.char '/')) :
    follow way (join base next).toList = follow (follow way base.toList) next.toList := by
  rw [join, if_neg relative]
  split
  · rename_i ends
    rcases ends with rfl | slash
    · rfl
    · obtain ⟨front, whole⟩ := List.getLast?_eq_some_iff.1 slash
      rw [Text.toList_append, whole, List.append_assoc, List.singleton_append,
        follow_append_slash, follow_append_slash, follow_nil]
  · have whole : (base ++ "/" ++ next).toList = base.toList ++ .char '/' :: next.toList := by
      simp [Text.toList_append]
    rw [whole, follow_append_slash]

/-- The directory of a path that does not start from the root does not either. -/
theorem head?_directory (relative : path.toList.head? ≠ some (.char '/')) :
    (directory path).toList.head? ≠ some (.char '/') := by
  have part : (directory path).toList <+: path.toList := by
    rw [directory, Text.toList_ofList]
    split
    · exact List.rdropWhile_prefix _ _
    · exact (List.rdropWhile_prefix _ _).trans (List.rdropWhile_prefix _ _)
  intro rooted
  obtain ⟨rest, whole⟩ := part
  apply relative
  rw [← whole, List.head?_append, rooted]
  rfl

/-- Two paths that do not start from the root give one that does not either. -/
theorem head?_join (relative : base.toList.head? ≠ some (.char '/'))
    (nextRelative : next.toList.head? ≠ some (.char '/')) :
    (join base next).toList.head? ≠ some (.char '/') := by
  rw [join, if_neg nextRelative]
  by_cases empty : base = ""
  · simpa [empty] using nextRelative
  · obtain ⟨first, rest, letters⟩ :=
      List.exists_cons_of_ne_nil (mt Text.toList_eq_nil_iff.1 empty)
    rw [letters] at relative
    split <;> simpa [Text.toList_append, letters] using relative

/-- Paths that do not start from the root have one shortest path when they lead to one place. -/
theorem normal_eq (relative : path.toList.head? ≠ some (.char '/'))
    (otherRelative : other.toList.head? ≠ some (.char '/'))
    (same : follow [] path.toList = follow [] other.toList) : normal path = normal other := by
  have ways : Namespace.normalize false (path.toList.splitOn (.char '/')) =
      Namespace.normalize false (other.toList.splitOn (.char '/')) := congrArg List.reverse same
  simp only [normal, Path.rootOf_eq_empty_iff.2 relative, Path.rootOf_eq_empty_iff.2 otherRelative,
    relative, otherRelative, decide_false, ways]

end PathText

namespace Namespace

variable {way segments here there : List Segment} {home other extension : Text}

/-- The segments lead down, each one from where the one before it led. -/
def Descend (segments : List Segment) : Prop :=
  ∀ segment ∈ segments, segment ≠ [] ∧ .char '.' ∉ segment

/-- A segment that leads down is the last one of the way then. It is neither empty nor made of
points. -/
theorem advance_of_plain {segment : Segment} (named : segment ≠ []) (plain : .char '.' ∉ segment) :
    advance false way segment = segment :: way := by
  have here : segment ≠ [.char '.'] := by
    rintro rfl
    exact plain List.mem_cons_self
  have above : segment ≠ Segment.up := by
    rintro rfl
    exact plain List.mem_cons_self
  unfold advance
  rw [if_neg (by simp [named, here]), if_pos above]

/-- Without points no segment leads up, so all are on the way then but for the empty ones. The
induction is on the segments, for every way so far. -/
theorem foldl_advance_of_plain (plain : ∀ segment ∈ segments, .char '.' ∉ segment) :
    segments.foldl (advance false) way = (segments.filter (· ≠ [])).reverse ++ way := by
  induction segments generalizing way with
  | nil => rfl
  | cons segment rest ih =>
    obtain ⟨first, later⟩ := List.forall_mem_cons.1 plain
    rw [List.foldl_cons, ih later]
    by_cases empty : segment = []
    · simp [empty, advance]
    · simp [empty, advance_of_plain empty first]

/-- Segments that lead down are all on the way then. The way is held last segment first, so they
come in reverse. -/
theorem foldl_advance_descend (down : Descend segments) :
    segments.foldl (advance false) way = segments.reverse ++ way := by
  have named : segments.filter (· ≠ []) = segments :=
    List.filter_eq_self.2 fun segment there => by simpa using (down segment there).1
  rw [foldl_advance_of_plain fun segment there => (down segment there).2, named]

/-- As many steps up as there are segments at the end of a way undo these. The induction is on the
segments, from the last one back. -/
theorem foldl_advance_up (down : Descend segments) :
    (segments.map fun _ => Segment.up).foldl (advance false) (segments.reverse ++ way) = way := by
  have undone (steps : List Segment) (down : Descend steps) :
      (List.replicate steps.length Segment.up).foldl (advance false) (steps ++ way) = way := by
    induction steps with
    | nil => rfl
    | cons last before ih =>
      obtain ⟨⟨_, plain⟩, earlier⟩ := List.forall_mem_cons.1 down
      have level : last ≠ Segment.up := by
        rintro rfl
        exact plain List.mem_cons_self
      have step : advance false (last :: before ++ way) Segment.up = before ++ way := by
        simp [advance, Segment.up, show last ≠ [.char '.', .char '.'] from level]
      rw [List.length_cons, List.replicate_succ, List.foldl_cons, step, ih earlier]
  have same : (segments.map fun _ => Segment.up) =
      List.replicate segments.reverse.length Segment.up := by
    rw [List.map_const', List.length_reverse]
  rw [same]
  exact undone segments.reverse fun segment there => down segment (List.mem_reverse.1 there)

/-- The way between two directories climbs out of what only the first lies in and descends into what
only the second lies in, for some directory that both lie in. -/
theorem exists_shared (here there : List Segment) : ∃ shared outOf into,
    here = shared ++ outOf ∧ there = shared ++ into ∧
      wayBetween here there = outOf.map (fun _ => Segment.up) ++ into := by
  induction here generalizing there with
  | nil => exact ⟨[], [], there, rfl, rfl, rfl⟩
  | cons first rest ih =>
    cases there with
    | nil => exact ⟨[], first :: rest, [], rfl, rfl, by simp [wayBetween]⟩
    | cons second others =>
      by_cases same : first = second
      · obtain ⟨shared, outOf, into, rfl, rfl, between⟩ := ih others
        refine ⟨first :: shared, outOf, into, rfl, by rw [same]; rfl, ?_⟩
        rw [wayBetween, if_pos same, between]
      · refine ⟨[], first :: rest, second :: others, rfl, rfl, ?_⟩
        rw [wayBetween, if_neg same]
        rfl

/-- The way from one directory to another ends at the other: the steps up undo what is not shared,
and the steps down add the rest. -/
theorem foldl_wayBetween (down : Descend here) (otherDown : Descend there) :
    (wayBetween here there).foldl (advance false) here.reverse = there.reverse := by
  obtain ⟨shared, outOf, into, rfl, rfl, between⟩ := exists_shared here there
  have out : Descend outOf := fun segment there => down segment (List.mem_append_right _ there)
  have inside : Descend into := fun segment there =>
    otherDown segment (List.mem_append_right _ there)
  rw [between, List.foldl_append, List.reverse_append, foldl_advance_up out,
    foldl_advance_descend inside, List.reverse_append]

/-- A segment on the way between two directories leads up or belongs to the second one. -/
theorem mem_wayBetween {segment : Segment} (onWay : segment ∈ wayBetween here there) :
    segment = Segment.up ∨ segment ∈ there := by
  obtain ⟨shared, outOf, into, rfl, rfl, between⟩ := exists_shared here there
  rw [between] at onWay
  rcases List.mem_append.1 onWay with climb | inside
  · obtain ⟨_, _, up⟩ := List.mem_map.1 climb
    exact .inl up.symm
  · exact .inr (List.mem_append_right _ inside)

/-- A namespace here has no point in it and does not begin with a slash. Then its segments are names
of directories, and it starts from where all namespaces do. -/
def IsLevel (home : Text) : Prop := .char '.' ∉ home.toList ∧ home.toList.head? ≠ some (.char '/')

instance : DecidablePred IsLevel := fun home =>
  inferInstanceAs (Decidable (.char '.' ∉ home.toList ∧ home.toList.head? ≠ some (.char '/')))

/-- The path of a file is level when its namespace is. For the empty namespace it is a fixed
name. -/
theorem IsLevel.stem (level : IsLevel home) : IsLevel (stem home) :=
  ⟨point_notMem_stem level.1, mt head?_stem_iff.1 level.2⟩

/-- The directory of a file is the row of the segments before the name that are not empty. -/
theorem directory_stem (level : IsLevel home) : directory (stem home) =
    ((stem home).toList.splitOn (.char '/')).dropLast.filter (· ≠ []) := by
  have plain : ∀ segment ∈ ((stem home).toList.splitOn (.char '/')).dropLast,
      .char '.' ∉ segment := by
    intro segment early point
    have cut := List.dropLast_subset _ early
    exact level.stem.1 ((Segments.sublist_of_mem_splitOn cut).subset point)
  rw [directory, decide_eq_false level.stem.2, normalize, foldl_advance_of_plain plain,
    List.append_nil, List.reverse_reverse]

/-- The directory of a file lies below the one that all paths start from. -/
theorem descend_directory (level : IsLevel home) : Descend (directory (stem home)) := by
  intro segment there
  rw [directory_stem level, List.mem_filter] at there
  obtain ⟨early, named⟩ := there
  have cut := List.dropLast_subset _ early
  refine ⟨by simpa using named, fun point => level.stem.1 ?_⟩
  exact (Segments.sublist_of_mem_splitOn cut).subset point

/-- The path of a file leads to its directory and from there to its name with the extension. The
extension makes the last segment longer and no segment more. -/
theorem follow_filePath (level : IsLevel home) (single : .char '/' ∉ extension.toList) :
    PathText.follow [] (filePath extension home).toList =
      advance false (directory (stem home)).reverse (fileName (stem home) ++ extension.toList) := by
  rw [filePath, Text.toList_append, PathText.follow, Segments.splitOn_append_of_notMem single,
    List.foldl_append, directory, decide_eq_false level.stem.2, normalize, List.reverse_reverse]
  rfl

/-- The directory of the path of a file leads to the directory of the file. -/
theorem follow_directory_filePath (level : IsLevel home) (single : .char '/' ∉ extension.toList) :
    PathText.follow [] (PathText.directory (filePath extension home)).toList =
      (directory (stem home)).reverse := by
  rw [PathText.follow_directory, filePath, Text.toList_append,
    Segments.splitOn_append_of_notMem single, List.dropLast_concat, directory,
    decide_eq_false level.stem.2, normalize, List.reverse_reverse]

/-- A specifier is the way to the directory of the other file with its name behind it. It stands
behind a point where it would not begin with two. -/
theorem toList_specifier (home other : Text) : ∃ start ∈ [[], [.char '.', .char '/']],
    (specifier home other).toList = start ++ [.char '/'].intercalate
      (wayBetween (directory (stem home)) (directory (stem other)) ++ [fileName (stem other)]) := by
  rw [specifier, Text.toList_ofList]
  split
  · refine ⟨[], by simp, ?_⟩
    rw [List.nil_append]
  · refine ⟨[.char '.', .char '/'], by simp, ?_⟩
    rw [List.cons_append, List.cons_append, List.nil_append]

/-- A specifier begins as a route, which says that it is no name of a package. -/
theorem specifier_begins (home other : Text) :
    [.char '.', .char '/'] <+: (specifier home other).toList ∨
      [.char '.', .char '.', .char '/'] <+: (specifier home other).toList := by
  rw [specifier, Text.toList_ofList]
  split
  · rename_i climbs
    obtain ⟨rest, whole⟩ := List.head?_eq_some_iff.1 climbs
    -- The name of the file is behind the way, so a slash stands after the first segment.
    have named : rest ++ [fileName (stem other)] ≠ [] := by simp
    obtain ⟨second, others, more⟩ := List.exists_cons_of_ne_nil named
    right
    refine ⟨[.char '/'].intercalate (second :: others), ?_⟩
    simp only [whole, List.cons_append, more, List.intercalate_cons_cons]
    rfl
  · left
    exact ⟨_, rfl⟩

/-- A specifier starts from a directory and not from the root. So where it leads depends on the file
that it stands in. -/
theorem head?_specifier : (specifier home other ++ extension).toList.head? ≠ some (.char '/') := by
  rw [Text.toList_append]
  rcases specifier_begins home other with ⟨rest, whole⟩ | ⟨rest, whole⟩
  · simp [← whole]
  · simp [← whole]

/-- The segments of a specifier hold no slash of their own. So they can be told again from the
specifier. -/
theorem slash_notMem_route (level : IsLevel other) {segment : Segment} (there : segment ∈
    wayBetween (directory (stem home)) (directory (stem other)) ++ [fileName (stem other)]) :
    .char '/' ∉ segment := by
  rcases List.mem_append.1 there with onWay | last
  · rcases mem_wayBetween onWay with rfl | below
    · decide
    · rw [directory_stem level, List.mem_filter] at below
      exact Segments.separator_notMem (List.dropLast_subset _ below.1)
  · rw [List.mem_singleton.1 last]
    exact Segments.separator_notMem_last

/-- A specifier with the extension leads from the directory of the file that it stands in to the
directory of the other file, and from there to the name of that with the extension. -/
theorem follow_specifier (level : IsLevel home) (otherLevel : IsLevel other)
    (single : .char '/' ∉ extension.toList) :
    PathText.follow (directory (stem home)).reverse (specifier home other ++ extension).toList =
      advance false (directory (stem other)).reverse
        (fileName (stem other) ++ extension.toList) := by
  obtain ⟨start, known, written⟩ := toList_specifier home other
  have begun (way : List Segment) (rest : List CodePoint) :
      PathText.follow way (start ++ rest) = PathText.follow way rest := by
    rcases List.mem_pair.1 known with rfl | rfl
    · rfl
    · have point : PathText.follow way ([.char '.'] ++ .char '/' :: rest) =
          PathText.follow (PathText.follow way [.char '.']) rest := PathText.follow_append_slash
      exact point
  rw [Text.toList_append, written, List.append_assoc, begun, PathText.follow,
    Segments.splitOn_append_of_notMem single,
    List.splitOn_intercalate (CodePoint.char '/') (fun _ => slash_notMem_route otherLevel)
      (by simp),
    List.dropLast_concat, List.getLastD_concat, List.foldl_append,
    foldl_wayBetween (descend_directory level) (descend_directory otherLevel)]
  rfl

/-- For two namespaces that begin with no slash and have no point in them, the specifier begins as a
route, and joined to the directory of the file that it stands in it gives, with the extension, the
path of the file that it is for. So one specifier is never used for files with two shortest paths.

Proof: both paths lead to one place. The directory leads to its own segments, the way between two
directories ends at the second one, and the name with the extension is the last step of both. Paths
that lead to one place have one shortest path. -/
theorem specifier_leads_to_file (level : IsLevel home) (otherLevel : IsLevel other)
    (single : .char '/' ∉ extension.toList) :
    ([.char '.', .char '/'] <+: (specifier home other).toList ∨
        [.char '.', .char '.', .char '/'] <+: (specifier home other).toList) ∧
      PathText.normal (PathText.join (PathText.directory (filePath extension home))
          (specifier home other ++ extension)) =
        PathText.normal (filePath extension other) ∧
      ∀ third, IsLevel third → specifier home third = specifier home other →
        PathText.normal (filePath extension third) =
          PathText.normal (filePath extension other) := by
  have leads : ∀ target, IsLevel target →
      PathText.normal (PathText.join (PathText.directory (filePath extension home))
          (specifier home target ++ extension)) =
        PathText.normal (filePath extension target) := by
    intro target targetLevel
    have onwards : (specifier home target ++ extension).toList.head? ≠ some (.char '/') :=
      head?_specifier
    have start : (filePath extension home).toList.head? ≠ some (.char '/') :=
      mt head?_filePath_iff.1 level.2
    apply PathText.normal_eq
    · exact PathText.head?_join (PathText.head?_directory start) onwards
    · exact mt head?_filePath_iff.1 targetLevel.2
    · calc PathText.follow [] (PathText.join (PathText.directory (filePath extension home))
              (specifier home target ++ extension)).toList
          = PathText.follow (directory (stem home)).reverse
              (specifier home target ++ extension).toList := by
            rw [PathText.follow_join onwards, follow_directory_filePath level single]
        _ = PathText.follow [] (filePath extension target).toList := by
            rw [follow_specifier level targetLevel single, follow_filePath targetLevel single]
  refine ⟨specifier_begins home other, leads other otherLevel, ?_⟩
  intro third thirdLevel same
  rw [← leads third thirdLevel, same, leads other otherLevel]

/-- With empty segments and slashes at the end two namespaces have one specifier, and it leads to
the one file that both have. -/
theorem specifier_leads_to_file_of_slashes :
    IsLevel "apps//v1" ∧ IsLevel "apps/" ∧ IsLevel "apps//" ∧ .char '/' ∉ (".ts" : Text).toList ∧
      specifier "apps//v1" "apps/" = "./" ∧ specifier "apps//v1" "apps//" = "./" ∧
      PathText.normal (PathText.join (PathText.directory (filePath ".ts" "apps//v1"))
          ("./" ++ ".ts")) = "apps/.ts" ∧
      PathText.normal (filePath ".ts" "apps//") = PathText.normal (filePath ".ts" "apps/") := by
  have level : IsLevel "apps//v1" := by decide +kernel
  have otherLevel : IsLevel "apps/" := by decide +kernel
  have thirdLevel : IsLevel "apps//" := by decide +kernel
  have single : .char '/' ∉ (".ts" : Text).toList := by decide +kernel
  have written : specifier "apps//v1" "apps/" = "./" := by decide +kernel
  have thirdWritten : specifier "apps//v1" "apps//" = "./" := by decide +kernel
  obtain ⟨_, leads, only⟩ := specifier_leads_to_file level otherLevel single
  refine ⟨level, otherLevel, thirdLevel, single, written, thirdWritten, ?_, ?_⟩
  · rw [← written, leads]
    decide +kernel
  · exact only "apps//" thirdLevel (thirdWritten.trans written.symm)

end Namespace

end OpenApiTypes
