import OpenApiTypes.Text

/-!
# Paths

A path names a place in a file system, from the root or from the working directory. Empty parts and
parts that are a single point carry no meaning and are dropped when a path is read; a part of two
points is kept, since what it leads to depends on the file system. A path of exactly two leading
slashes keeps them.
-/
namespace OpenApiTypes

/-- A root, which is empty for a path from the working directory, and the parts below it. A part
that climbs is kept, since where it leads is not known from the path alone. -/
structure Path where
  root : Text
  parts : List Text
  deriving DecidableEq, Repr

namespace Path

/-- The parts between slashes that carry meaning. Empty parts and single points lead nowhere and are
dropped. -/
def partsOf (text : List CodePoint) : List Text :=
  ((text.splitOn (.char '/')).filter fun part => part ≠ [] ∧ part ≠ [.char '.']).map Text.ofList

/-- The root that the leading slashes of a text denote. Exactly two of them are a root of their own;
any other number is the same as one. -/
def rootOf : List CodePoint → Text
  | .char '/' :: .char '/' :: .char '/' :: _ => "/"
  | .char '/' :: .char '/' :: _ => "//"
  | .char '/' :: _ => "/"
  | _ => ""

/-- A text denotes no root exactly when it does not begin with a slash. Of the other texts each
denotes one of two roots. -/
theorem rootOf_eq_empty_iff {text : List CodePoint} :
    rootOf text = "" ↔ text.head? ≠ some (.char '/') := by
  unfold rootOf
  split
  · simp
  · simp
  · simp
  · rename_i unrooted
    cases text with
    | nil => simp
    | cons first rest =>
      have different : first ≠ .char '/' := fun slash => unrooted rest (by rw [slash])
      simpa using different

/-- The path that a text denotes. Several texts may denote one path. -/
def ofText (text : Text) : Path := ⟨rootOf text.toList, partsOf text.toList⟩

/-- The text of a path. The path without root and parts is the working directory, and its text is a
point. -/
def toText (path : Path) : Text :=
  if path.root = "" ∧ path.parts = [] then "." else path.root ++ Text.intercalate "/" path.parts

/-- A path seen from another: below it, or the second alone when that starts from the root. -/
def join (base next : Path) : Path :=
  if next.root = "" then ⟨base.root, base.parts ++ next.parts⟩ else next

/-- The path without its last part. The path without parts is its own. -/
def parent (path : Path) : Path := ⟨path.root, path.parts.dropLast⟩

end Path

end OpenApiTypes
