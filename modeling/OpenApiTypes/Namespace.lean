import OpenApiTypes.Text

/-!
# Namespaces and the files that hold them

A namespace is a row of segments with slashes between them, and the path of the file that holds its
declarations; the namespace without segments has a name of its own for that. One file names another
by a route that starts at its own directory, so a route says how far to climb and which way to
descend. Routes are computed from the text of the paths alone. For a namespace that begins with a
slash this is a simplification: the route between such a path and one without a slash in front also
depends on the working directory, from which the latter starts, and that is left out here.
-/
namespace OpenApiTypes

/-- A segment of a path: what stands between two slashes. It may be empty, since nothing keeps two
slashes from standing side by side. -/
abbrev Segment := List CodePoint

/-- The segment that leads to the directory above. It is the only one that a way can be shortened
by. -/
def Segment.up : Segment := [.char '.', .char '.']

namespace Namespace

/-- The name of the file for the namespace without segments, which has none of its own to be named
for. -/
def rootStem : Text := "index"

/-- The path of the file that holds a namespace, without its extension. It is the namespace itself,
read as a path, and the empty namespace has an agreed one. -/
def stem (home : Text) : Text := if home = "" then rootStem else home

/-- The path of the file that holds a namespace, below the directory of all files. -/
def filePath (extension home : Text) : Text := stem home ++ extension

/-- The path of a file is never empty, since the namespace without segments has a name of its own.
-/
theorem stem_ne_empty {home : Text} : stem home ≠ "" := by
  unfold stem
  split
  · decide
  · assumption

/-- The path of a file has no points but those of the namespace, also where the namespace has no
segments. -/
theorem point_notMem_stem {home : Text} (plain : .char '.' ∉ home.toList) :
    .char '.' ∉ (stem home).toList := by
  unfold stem
  split
  · decide
  · exact plain

/-- The path of a file begins with a slash exactly when the namespace does. -/
theorem head?_stem_iff {home : Text} :
    (stem home).toList.head? = some (.char '/') ↔ home.toList.head? = some (.char '/') := by
  unfold stem
  split
  · rename_i empty
    rw [empty]
    decide
  · rfl

/-- The extension of a file makes no difference to whether its path begins with a slash. -/
theorem head?_filePath_iff {extension home : Text} :
    (filePath extension home).toList.head? = some (.char '/') ↔
      home.toList.head? = some (.char '/') := by
  have named : stem home ≠ "" := stem_ne_empty
  obtain ⟨first, rest, letters⟩ := List.exists_cons_of_ne_nil (mt Text.toList_eq_nil_iff.1 named)
  have same : (filePath extension home).toList.head? = (stem home).toList.head? := by
    rw [filePath, Text.toList_append, letters]
    rfl
  rw [same]
  exact head?_stem_iff

/-- Take one more segment on a way, which is held last segment first. Climbing undoes a segment;
where there is none to undo it is kept, except at the root, which has nothing above it. -/
def advance (fromRoot : Bool) (way : List Segment) (segment : Segment) : List Segment :=
  if segment = [] ∨ segment = [.char '.'] then way
  else if segment ≠ Segment.up then segment :: way
  else
    match way with
    | [] => if fromRoot then [] else [Segment.up]
    | last :: before => if last = Segment.up then Segment.up :: way else before

/-- The shortest way that leads where the given segments lead. Empty segments and single points are
dropped, and a segment that is climbed out of is dropped together with the climbing. -/
def normalize (fromRoot : Bool) (segments : List Segment) : List Segment :=
  (segments.foldl (advance fromRoot) []).reverse

/-- The directory of a path, as a shortest way: the segments before the last one. Both sides of a
route are brought to this form before they are compared. -/
def directory (path : Text) : List Segment :=
  normalize (path.toList.head? = some (.char '/')) (path.toList.splitOn (.char '/')).dropLast

/-- The last segment of a path. Behind a slash at the end it is empty. -/
def fileName (path : Text) : Segment := (path.toList.splitOn (.char '/')).getLastD []

/-- The way from one directory to another: out of what only the first lies in, then into what only
the second lies in. -/
def wayBetween : List Segment → List Segment → List Segment
  | here :: restHere, there :: restThere =>
    if here = there then wayBetween restHere restThere
    else Segment.up :: restHere.map (fun _ => Segment.up) ++ there :: restThere
  | here, there => here.map (fun _ => Segment.up) ++ there

/-- The specifier by which a file imports another: the way to the directory of the other file and
its name. It begins with a point, since anything else would not be a route. -/
def specifier (home other : Text) : Text :=
  let way := wayBetween (directory (stem home)) (directory (stem other))
  let route := [.char '/'].intercalate (way ++ [fileName (stem other)])
  Text.ofList (if way.head? = some Segment.up then route else .char '.' :: .char '/' :: route)

end Namespace

end OpenApiTypes
