import OpenApiTypes.Proofs.Interfaces
import OpenApiTypes.Proofs.Rereading

/-!
# Literal types tell one kind of resource from another

A definition of one kind of resource has two members with literal types: the kind itself, and the
version of the interface to which it belongs, a group and a version with a slash between them. The
two literals determine the kind as far as literals can: a literal denotes one text, whatever
characters that holds, except that it does not tell a pair of surrogates from the character that
they encode. And although a group that is empty is left out together with its slash, the text of a
version tells which of the two forms it has, since a slash stands in the longer one only: neither
group nor version holds a slash of its own.
-/
namespace OpenApiTypes

variable {document otherDocument : Document} {settings otherSettings : Settings}
  {group version otherGroup otherVersion : Text}

/-- A kind of resource whose parts are texts, with a version that says something, and with no slash
in its group and its version. -/
structure ResourceKind.IsPlain (kind : ResourceKind) : Prop where
  group : ∃ text, kind.group = .string text ∧ .char '/' ∉ text.toList
  version : ∃ text, kind.version = .string text ∧ .char '/' ∉ text.toList ∧ text ≠ ""
  kind : ∃ text, kind.kind = .string text

/-- A version of an interface is that of a group, behind a slash, or stands alone where the group is
empty. -/
theorem intercalate_versionParts (some : version ≠ "") :
    Text.intercalate "/" ([group, version].filter (· ≠ "")) =
      if group = "" then version else group ++ "/" ++ version := by
  by_cases empty : group = ""
  · simp [empty, some, Text.intercalate]
  · simp [empty, some, Text.intercalate]

/-- A slash in the text of a version tells whether there is a group, and where it ends. Neither part
has a slash of its own, so the two forms cannot be taken for each other. -/
theorem versionText_inj (plain : .char '/' ∉ group.toList)
    (otherPlain : .char '/' ∉ otherGroup.toList) (versionPlain : .char '/' ∉ version.toList)
    (otherVersionPlain : .char '/' ∉ otherVersion.toList)
    (same : (if group = "" then version else group ++ "/" ++ version) =
      if otherGroup = "" then otherVersion else otherGroup ++ "/" ++ otherVersion) :
    group = otherGroup ∧ version = otherVersion := by
  have slash (group version : Text) : .char '/' ∈ (group ++ "/" ++ version).toList := by simp
  by_cases empty : group = ""
  · rw [if_pos empty] at same
    by_cases otherEmpty : otherGroup = ""
    · rw [if_pos otherEmpty] at same
      exact ⟨empty.trans otherEmpty.symm, same⟩
    · rw [if_neg otherEmpty] at same
      exact absurd (same ▸ slash otherGroup otherVersion) versionPlain
  · rw [if_neg empty] at same
    by_cases otherEmpty : otherGroup = ""
    · rw [if_pos otherEmpty] at same
      exact absurd (same ▸ slash group version) otherVersionPlain
    · rw [if_neg otherEmpty] at same
      have letters : group.toList ++ .char '/' :: version.toList =
          otherGroup.toList ++ .char '/' :: otherVersion.toList := by
        simpa using congrArg Text.toList same
      obtain ⟨groups, versions⟩ := append_separator_inj plain otherPlain letters
      exact ⟨Text.toList_inj.1 groups, Text.toList_inj.1 versions⟩

/-- A kind of resource with its parts in composed form, parts that are no texts included. -/
def ResourceKind.composed (kind : ResourceKind) : ResourceKind :=
  ⟨kind.group.composed, kind.version.composed, kind.kind.composed⟩

/-- The text of a version in composed form is that of its composed group and version: the slash
between them keeps a surrogate at the end of the group apart from one at the beginning of the
version. -/
theorem composed_versionText :
    (if group = "" then version else group ++ "/" ++ version).composed =
      if group.composed = "" then version.composed
      else group.composed ++ "/" ++ version.composed := by
  by_cases empty : group = ""
  · rw [if_pos empty, if_pos (Text.composed_eq_empty_iff.2 empty)]
  · rw [if_neg empty, if_neg (mt Text.composed_eq_empty_iff.1 empty)]
    exact Text.composed_append_char group version '/'

namespace ResourceKind.IsPlain

variable {kind other : ResourceKind}

/-- A plain kind has both literal types, as all of its parts are texts. -/
theorem exists_literals (plain : kind.IsPlain) :
    ∃ version name, literalType? [kind] "apiVersion" = .ok (some version) ∧
      literalType? [kind] "kind" = .ok (some name) := by
  obtain ⟨group, inGroup, _⟩ := plain.group
  obtain ⟨version, inVersion, _⟩ := plain.version
  obtain ⟨name, named⟩ := plain.kind
  exact ⟨_, _, literalType?_version inGroup inVersion, literalType?_kind named⟩

/-- Plain kinds have the same literal types exactly when they are the same in composed form.
Literals tell composed texts, and the text of a version tells its two parts. -/
theorem literals_eq_iff (plain : kind.IsPlain) (otherPlain : other.IsPlain) :
    (literalType? [kind] "apiVersion" = literalType? [other] "apiVersion" ∧
      literalType? [kind] "kind" = literalType? [other] "kind") ↔
      kind.composed = other.composed := by
  obtain ⟨group, inGroup, groupPlain⟩ := plain.group
  obtain ⟨version, inVersion, versionPlain, something⟩ := plain.version
  obtain ⟨name, named⟩ := plain.kind
  obtain ⟨otherGroup, inOtherGroup, otherGroupPlain⟩ := otherPlain.group
  obtain ⟨otherVersion, inOtherVersion, otherVersionPlain, otherSomething⟩ := otherPlain.version
  obtain ⟨otherName, otherNamed⟩ := otherPlain.kind
  have slash {text : Text} (absent : .char '/' ∉ text.toList) : .char '/' ∉ text.composed.toList :=
    Text.notMem_composed (by decide) absent
  have parts : kind.composed = other.composed ↔ group.composed = otherGroup.composed ∧
      version.composed = otherVersion.composed ∧ name.composed = otherName.composed := by
    simp [composed, inGroup, inVersion, named, inOtherGroup, inOtherVersion, otherNamed,
      Json.composed]
  rw [literalType?_version inGroup inVersion, intercalate_versionParts something,
    literalType?_version inOtherGroup inOtherVersion, intercalate_versionParts otherSomething,
    literalType?_kind named, literalType?_kind otherNamed, parts]
  simp only [Except.ok.injEq, Option.some.injEq, Text.ofString_inj, Text.literal_inj,
    composed_versionText]
  constructor
  · rintro ⟨versions, names⟩
    obtain ⟨groups, versions⟩ := versionText_inj (slash groupPlain) (slash otherGroupPlain)
      (slash versionPlain) (slash otherVersionPlain) versions
    exact ⟨groups, versions, names⟩
  · rintro ⟨groups, versions, names⟩
    rw [groups, versions, names]
    exact ⟨rfl, rfl⟩

end ResourceKind.IsPlain

section Interfaces

variable {definition otherDefinition : Definition} {members others : List (Member Json)}

/-- A member that has a literal type has it whatever its schema says. The induction is on the
properties, up to the one with the name of the member. -/
theorem Definition.type_of_literal
    (made : (definition.trace document settings).result = .ok members) {member : Member Json}
    (there : member ∈ members) {type : Text}
    (literal : literalType? definition.kinds member.name = .ok (some type)) :
    member.type = type := by
  rw [definition.trace_eq made, membersTrace_ok_iff] at made
  obtain ⟨entry, _, makes⟩ := Traversal.exists_output made.flip there
  obtain ⟨found, isReadonly, typed, _, rfl⟩ := memberTrace_ok_iff.1 makes
  rw [typeTrace, literal] at typed
  exact (Except.ok.inj typed).symm

/-- Two interfaces have members of one name and one type. They may differ in all else. -/
def Shares (members others : List (Member Json)) (name : Text) : Prop :=
  ∃ member ∈ members, ∃ other ∈ others,
    member.name = name ∧ other.name = name ∧ member.type = other.type

/-- Interfaces that share a member with literal types have one literal type for it. The types of the
members are the same text, and each is the literal type. -/
theorem Shares.literals_eq {name type otherType : Text} (shares : Shares members others name)
    (made : (definition.trace document settings).result = .ok members)
    (otherMade : (otherDefinition.trace otherDocument otherSettings).result = .ok others)
    (literal : literalType? definition.kinds name = .ok (some type))
    (otherLiteral : literalType? otherDefinition.kinds name = .ok (some otherType)) :
    literalType? definition.kinds name = literalType? otherDefinition.kinds name := by
  obtain ⟨member, there, other, otherThere, rfl, named, same⟩ := shares
  rw [← named] at otherLiteral
  rw [literal, ← definition.type_of_literal made there literal, same,
    otherDefinition.type_of_literal otherMade otherThere otherLiteral, ← otherLiteral, named]

end Interfaces

/-- A kind of resource is known by its two literal types, up to the composition of surrogates. It
has both, and another kind has the same two exactly when it is the same in composed form. So the
interfaces of two resources of different kinds never share both members, unless their kinds differ
in nothing but pairs of surrogates in one where the other has the characters: they differ in the
type of the one member or of the other.

Proof: three layers are undone one after the other. A literal determines the composed form of its
text; a slash in that text tells whether there is a group and where it ends; and composing does
not reach over the slash. For the interfaces, a member with a literal type has that type and no
other. -/
theorem kind_eq_of_literals {kind other : ResourceKind} (plain : kind.IsPlain)
    (otherPlain : other.IsPlain) :
    (∃ version name, literalType? [kind] "apiVersion" = .ok (some version) ∧
      literalType? [kind] "kind" = .ok (some name)) ∧
    ((literalType? [kind] "apiVersion" = literalType? [other] "apiVersion" ∧
      literalType? [kind] "kind" = literalType? [other] "kind") ↔
        kind.composed = other.composed) ∧
    (kind.composed ≠ other.composed →
      ∀ (document otherDocument : Document) (settings otherSettings : Settings)
      (definition otherDefinition : Definition) (members others : List (Member Json))
      (table after otherTable otherAfter : ImportTable),
      definition.kinds = [kind] → otherDefinition.kinds = [other] →
      (definition.members document settings).run table = .ok members after →
      (otherDefinition.members otherDocument otherSettings).run otherTable =
        .ok others otherAfter →
      ¬ (Shares members others "apiVersion" ∧ Shares members others "kind")) := by
  obtain ⟨version, name, versioned, named⟩ := plain.exists_literals
  obtain ⟨otherVersion, otherName, otherVersioned, otherNamed⟩ := otherPlain.exists_literals
  refine ⟨⟨version, name, versioned, named⟩, plain.literals_eq_iff otherPlain, ?_⟩
  rintro different document otherDocument settings otherSettings definition otherDefinition members
    others table after otherTable otherAfter single otherSingle made otherMade
    ⟨sharesVersion, sharesKind⟩
  apply different
  rw [definition.members_eq_perform, Traced.run_perform_ok_iff] at made
  rw [otherDefinition.members_eq_perform, Traced.run_perform_ok_iff] at otherMade
  rw [← single] at versioned named
  rw [← otherSingle] at otherVersioned otherNamed
  have versions := sharesVersion.literals_eq made.1 otherMade.1 versioned otherVersioned
  have names := sharesKind.literals_eq made.1 otherMade.1 named otherNamed
  rw [single, otherSingle] at versions names
  exact (plain.literals_eq_iff otherPlain).1 ⟨versions, names⟩

/-- A kind of resource that exists in two groups, the empty one and another. -/
def eventKind (group : Text) : ResourceKind := ⟨.string group, .string "v1", .string "Event"⟩

/-- A definition of this kind in which only the two members with literal types are described. -/
def eventDefinition (group : Text) : Definition where
  description := .string ""
  required := none
  properties := some (.ofList
    [("apiVersion", ⟨.string "", .null⟩), ("kind", ⟨.string "", .null⟩)])
  kinds := [eventKind group]

/-- Two kinds that differ in the group only share the literal type of the kind, but not that of the
version. -/
theorem kind_eq_of_literals_of_events : ∃ members others after otherAfter,
    ((eventDefinition "").members .empty .default).run (.empty "core") = .ok members after ∧
      ((eventDefinition "events.k8s.io").members .empty .default).run (.empty "events") =
        .ok others otherAfter ∧
      Shares members others "kind" ∧ ¬ Shares members others "apiVersion" := by
  have plain : (eventKind "").IsPlain :=
    ⟨⟨"", rfl, by decide⟩, ⟨"v1", rfl, by decide, by decide⟩, ⟨"Event", rfl⟩⟩
  have otherPlain : (eventKind "events.k8s.io").IsPlain :=
    ⟨⟨"events.k8s.io", rfl, by decide⟩, ⟨"v1", rfl, by decide, by decide⟩, ⟨"Event", rfl⟩⟩
  have different : (eventKind "").composed ≠ (eventKind "events.k8s.io").composed := by
    intro same
    have groups := congrArg ResourceKind.group same
    simp [ResourceKind.composed, eventKind, Json.composed] at groups
  obtain ⟨members, others, after, otherAfter, made, otherMade, kinds⟩ :
      ∃ members others after otherAfter,
        ((eventDefinition "").members .empty .default).run (.empty "core") = .ok members after ∧
          ((eventDefinition "events.k8s.io").members .empty .default).run (.empty "events") =
            .ok others otherAfter ∧
          Shares members others "kind" :=
    ⟨_, _, _, _, rfl, rfl, _, .tail _ (.head _), _, .tail _ (.head _), rfl, rfl, rfl⟩
  have apart := (kind_eq_of_literals plain otherPlain).2.2 different .empty .empty .default .default
    (eventDefinition "") (eventDefinition "events.k8s.io") members others _ _ _ _ rfl rfl made
    otherMade
  exact ⟨members, others, after, otherAfter, made, otherMade, kinds,
    fun versions => apart ⟨versions, kinds⟩⟩

/-- The kind named by a text, in the empty group. -/
def kindNamed (name : Text) : ResourceKind := ⟨.string "", .string "v1", .string name⟩

/-- The kind named by a pair of surrogates and the one named by the character that they encode are
different and share both literal types. -/
theorem literals_of_splitPair :
    (kindNamed Text.splitPair).IsPlain ∧ (kindNamed "😀").IsPlain ∧
      kindNamed Text.splitPair ≠ kindNamed "😀" ∧
      literalType? [kindNamed Text.splitPair] "apiVersion" =
        literalType? [kindNamed "😀"] "apiVersion" ∧
      literalType? [kindNamed Text.splitPair] "kind" = literalType? [kindNamed "😀"] "kind" := by
  have plain (name : Text) : (kindNamed name).IsPlain :=
    ⟨⟨"", rfl, by decide⟩, ⟨"v1", rfl, by decide, by decide⟩, ⟨name, rfl⟩⟩
  have different : kindNamed Text.splitPair ≠ kindNamed "😀" := by
    intro same
    have names : Json.string Text.splitPair = .string "😀" := congrArg ResourceKind.kind same
    exact absurd (Json.string.inj names) (by decide)
  exact ⟨plain _, plain _, different, rfl, by rfl⟩

end OpenApiTypes
