import OpenApiTypes.Path
import OpenApiTypes.Proofs.References
import OpenApiTypes.Proofs.Spelling

/-!
# Where the files of units come to stand

The path of a file is the text of a namespace and an extension, and a run joins it to the directory
that it is to write below. A namespace holds no point, so no file climbs out of that directory. But
a namespace may begin with a slash: then its file stands at one place, whatever the directory is.
Which names lead there can be read off them: those with another segment behind a first one that is
empty or begins with a slash. Nothing refuses such a name or takes the slash away.
-/
namespace OpenApiTypes

variable {document : Document} {settings : Settings} {units : Table Text (OutputUnit Json)}
  {placed : List PlacedDeclaration}

/-- A path lies below a directory if it goes on from there by at least one part and never climbs. -/
def Path.Below (directory path : Path) : Prop :=
  ∃ parts : List Text, parts ≠ [] ∧ (".." : Text) ∉ parts ∧
    path = ⟨directory.root, directory.parts ++ parts⟩

/-- Whether the namespace of a name begins with a slash. The name has a segment behind its first
one, and that is empty, so that the slash behind it comes first, or brings a slash of its own. -/
def LeadsToRoot : List CodePoint → Prop
  | [] => False
  | first :: rest => (first = .char '.' ∨ first = .char '/') ∧ .char '.' ∈ rest

instance : DecidablePred LeadsToRoot
  | [] => .isFalse id
  | first :: rest =>
    inferInstanceAs (Decidable ((first = .char '.' ∨ first = .char '/') ∧ .char '.' ∈ rest))

namespace QualifiedName

/-- A namespace that begins with a slash comes from a name that leads to the root, and from no
other. The cases are whether the name has a point, and what stands before the last one. -/
theorem head?_home_iff {text : Text} :
    (ofSegments text).home.toList.head? = some (.char '/') ↔ LeadsToRoot text.toList := by
  by_cases point : .char '.' ∈ text.toList
  · obtain ⟨before, last, split, absent⟩ := Segments.exists_last_separator point
    rw [ofSegments_of_last split absent, Text.toList_ofList, List.head?_map, split]
    cases before with
    | nil => simp [LeadsToRoot, absent]
    | cons first rest =>
      by_cases same : first = .char '.'
      · simp [LeadsToRoot, same]
      · simp [LeadsToRoot, same]
  · rw [ofSegments_of_notMem point]
    cases letters : text.toList with
    | nil => simp [LeadsToRoot]
    | cons first rest =>
      rw [letters, List.mem_cons, not_or] at point
      simp [LeadsToRoot, point.2]

end QualifiedName

namespace Path

variable {directory path : Path}

/-- A path starts from the working directory unless its text begins with a slash. -/
theorem root_ofText_iff {text : Text} :
    (ofText text).root = "" ↔ text.toList.head? ≠ some (.char '/') := rootOf_eq_empty_iff

/-- A part of two points takes two points in the text, so a text with at most one has no part that
climbs. -/
theorem up_notMem_ofText {text : Text} (few : text.toList.count (.char '.') ≤ 1) :
    (".." : Text) ∉ (ofText text).parts := by
  intro up
  obtain ⟨part, kept, same⟩ := List.mem_map.1 up
  have points : part = [.char '.', .char '.'] := by
    rw [← Text.toList_inj, Text.toList_ofList] at same
    exact same
  have within := Segments.sublist_of_mem_splitOn (List.mem_filter.1 kept).1
  have many : 2 ≤ text.toList.count (.char '.') := by
    simpa [points] using within.count_le (.char '.')
  omega

/-- A text with something in it besides slashes and points has parts: the segment with that
character is kept. -/
theorem parts_ofText_ne_nil {text : Text} {character : CodePoint} (there : character ∈ text.toList)
    (slash : character ≠ .char '/') (point : character ≠ .char '.') : (ofText text).parts ≠ [] := by
  obtain ⟨part, cut, inside⟩ := Segments.exists_segment there slash
  have kept : part ≠ [] ∧ part ≠ [.char '.'] := by
    constructor
    · exact List.ne_nil_of_mem inside
    · rintro rfl
      exact point (List.mem_singleton.1 inside)
  have listed : part ∈
      (text.toList.splitOn (.char '/')).filter fun part => part ≠ [] ∧ part ≠ [.char '.'] :=
    List.mem_filter.2 ⟨cut, by simpa using kept⟩
  exact List.ne_nil_of_mem (List.mem_map_of_mem listed)

/-- A path from the working directory that does not climb comes to lie below every directory that it
is joined to, and not at the directory itself, since it has parts. -/
theorem below_join (relative : path.root = "") (parts : path.parts ≠ [])
    (level : (".." : Text) ∉ path.parts) : Below directory (directory.join path) := by
  refine ⟨path.parts, parts, level, ?_⟩
  rw [join, if_pos relative]

/-- A path from the root stays what it is, whatever it is joined to. So the directory that is to be
written below has no say. -/
theorem join_of_root (rooted : path.root ≠ "") : directory.join path = path := by
  rw [join, if_neg rooted]

end Path

namespace Namespace

variable {home : Text}

/-- The only point in the path of a file is that of the extension, as the namespace has none. -/
theorem count_filePath (plain : .char '.' ∉ home.toList) :
    (filePath ".ts" home).toList.count (.char '.') = 1 := by
  rw [filePath, Text.toList_append, List.count_append,
    List.count_eq_zero.2 (point_notMem_stem plain)]
  decide

/-- The path of a file is never empty: the extension alone has a letter that makes a part. -/
theorem mem_filePath : .char 't' ∈ (filePath ".ts" home).toList := by
  rw [filePath, Text.toList_append]
  exact List.mem_append_right _ (by decide)

end Namespace

namespace Document

/-- The definitions that are declared in a namespace, by their names with replaced beginnings. -/
def shortNames (document : Document) (settings : Settings) (home : Text) : List Text :=
  (document.definitions.keys.filterMap settings.simplifications.simplify?).filter fun short =>
    let name := QualifiedName.ofSegments short
    name.home = home ∧ !settings.elided.contains name.typeName

/-- The definitions that are declared in a namespace have names that lead there, once the rules have
replaced what the names begin with. -/
theorem home_of_mem_shortNames {home short : Text}
    (known : short ∈ document.shortNames settings home) :
    (QualifiedName.ofSegments short).home = home := by
  have belongs := (List.mem_filter.1 known).2
  simp only [decide_eq_true_eq] at belongs
  exact belongs.1

/-- A namespace that has a unit has it for the sake of some definition. -/
theorem Built.exists_shortName (built : Built document settings units placed) {home : Text}
    {unit : OutputUnit Json} (found : units.get? home = some unit) :
    ∃ short, short ∈ document.shortNames settings home := by
  obtain ⟨declaration, there, rfl⟩ := built.exists_declaration found
  have known : declaration.name ∈ (document.declared settings).map (·.name) :=
    built.names ▸ List.mem_map_of_mem there
  obtain ⟨named, declared, same⟩ := List.mem_map.1 known
  obtain ⟨kept, name, defined, recognised⟩ := mem_declared.1 declared
  obtain ⟨short, simplified, read⟩ := Option.map_eq_some_iff.1 recognised
  have listed : short ∈ document.definitions.keys.filterMap settings.simplifications.simplify? :=
    List.mem_filterMap.2 ⟨name, Table.mem_keys_of_get? defined, simplified⟩
  exact ⟨short, List.mem_filter.2 ⟨listed, by simpa [read, ← same] using kept⟩⟩

end Document

/-- The file of a unit never climbs. It starts from the working directory unless one of the
definitions declared in the unit has a name that leads to the root, and then it lies below every
directory that it is joined to. Otherwise it stands at one place, whatever the directory is.

Proof: the path begins with a slash exactly when the namespace does, and a namespace begins with one
exactly when the names that lead to it do. Whether the path climbs is a matter of points, and the
one point in it is that of the extension. -/
theorem filePath_relative_iff (made : document.unitTable .default = .ok units) {home : Text}
    {unit : OutputUnit Json} (found : units.get? home = some unit) :
    let path := Path.ofText unit.filePath
    (".." : Text) ∉ path.parts ∧
      (path.root = "" ↔
        ∀ short ∈ document.shortNames .default home, ¬ LeadsToRoot short.toList) ∧
      ∀ directory : Path,
        (path.root = "" → Path.Below directory (directory.join path)) ∧
          (path.root ≠ "" → directory.join path = path) := by
  obtain ⟨placed, built⟩ := Document.exists_built made
  have file : unit.filePath = Namespace.filePath ".ts" home := by
    rw [built.unit_eq found]
    rfl
  -- All definitions of the unit lead to its one namespace, so any of them tells what that is like.
  obtain ⟨short, known⟩ := built.exists_shortName found
  have same : (QualifiedName.ofSegments short).home = home :=
    Document.home_of_mem_shortNames known
  have plain : .char '.' ∉ home.toList := same ▸ QualifiedName.point_notMem_home
  intro path
  have level : (".." : Text) ∉ path.parts :=
    Path.up_notMem_ofText (Nat.le_of_eq (file ▸ Namespace.count_filePath plain))
  have parts : path.parts ≠ [] :=
    Path.parts_ofText_ne_nil (file ▸ Namespace.mem_filePath) (by decide) (by decide)
  have relative : path.root = "" ↔ home.toList.head? ≠ some (.char '/') := by
    rw [Path.root_ofText_iff, file, ne_eq, Namespace.head?_filePath_iff]
  refine ⟨level, ?_, ?_⟩
  · rw [relative]
    constructor
    · intro unrooted other listed leads
      have begins := QualifiedName.head?_home_iff.2 leads
      rw [Document.home_of_mem_shortNames listed] at begins
      exact unrooted begins
    · intro none rooted
      rw [← same] at rooted
      exact none short known (QualifiedName.head?_home_iff.1 rooted)
  · intro directory
    exact ⟨fun unrooted => Path.below_join unrooted parts level, Path.join_of_root⟩

/-- A description with one definition. -/
def descriptionOf (name : Text) : Json :=
  .object [("info", .object []), ("definitions", .object [(name, .object [])])]

/-- The file for a name without empty segments and slashes lies below a directory. -/
theorem filePath_relative_iff_of_plain : ∃ document units unit,
    Document.ofJson (descriptionOf "io.k8s.api.k.v1.T") = .ok document ∧
      document.unitTable .default = .ok units ∧ units.get? "k/v1" = some unit ∧
      Path.Below ⟨"", ["dist"]⟩ (Path.join ⟨"", ["dist"]⟩ (.ofText unit.filePath)) := by
  obtain ⟨document, units, unit, read, made, found, plain⟩ : ∃ document units unit,
      Document.ofJson (descriptionOf "io.k8s.api.k.v1.T") = .ok document ∧
        document.unitTable .default = .ok units ∧ units.get? "k/v1" = some unit ∧
        ∀ short ∈ document.shortNames .default "k/v1", ¬ LeadsToRoot short.toList :=
    ⟨_, _, _, rfl, rfl, rfl, by decide +kernel⟩
  obtain ⟨_, relative, joined⟩ := filePath_relative_iff made found
  exact ⟨document, units, unit, read, made, found, (joined _).1 (relative.2 plain)⟩

/-- With the default settings one empty segment is enough for a file outside of the directory: the
namespace begins with the slash behind it. -/
theorem filePath_of_empty_segment : ∃ document units unit,
    Document.ofJson (descriptionOf "io.k8s.api..k.T") = .ok document ∧
      document.unitTable .default = .ok units ∧ units.get? "/k" = some unit ∧
      unit.filePath = "/k.ts" ∧
      ¬ Path.Below ⟨"", ["dist"]⟩ (Path.join ⟨"", ["dist"]⟩ (.ofText unit.filePath)) := by
  refine ⟨_, _, _, rfl, rfl, rfl, rfl, ?_⟩
  rintro ⟨parts, _, _, same⟩
  have roots : ("/" : Text) = "" := congrArg Path.root same
  exact absurd roots (by decide)

end OpenApiTypes
