import OpenApiTypes.Proofs.FirstFailure
import OpenApiTypes.Proofs.Schemas
import OpenApiTypes.Proofs.Wrappers

/-!
# An interface is made, or stops at its first property without a type

Where all texts of a definition are texts, only types can be missing. Then an interface has a member
for each property, and what that member has to be can be told from the property alone, without a
look at how it is made. Or there is a first property without a type. The interface stops there, and
what was noted up to then is what the properties before it use, as if the definition ended with
them: the property itself leaves nothing behind, although its type is looked for in several steps.

In both cases the table in which uses are noted keeps what it had.
-/
namespace OpenApiTypes

variable {document : Document} {settings : Settings} {kinds : List ResourceKind}
  {required : List Json} {definition : Definition}

/-- A definition in which the required names, the groups, versions and names of kinds, and the
descriptions of properties are texts. -/
structure Definition.HasTexts (definition : Definition) : Prop where
  required : ∀ entry ∈ definition.required.getD [], ∃ text, entry = .string text
  group : ∀ kind ∈ definition.kinds, ∃ text, kind.group = .string text
  version : ∀ kind ∈ definition.kinds, ∃ text, kind.version = .string text
  kind : ∀ kind ∈ definition.kinds, ∃ text, kind.kind = .string text
  description : ∀ entry ∈ definition.propertyList, ∃ text, entry.2.description = .string text

/-- What the type of a property has to be. Where there is one kind of resource, the members that
name its interface version and the kind itself have the literal of that name; an empty group or
version is left out. Every other property has the expression of the shape that its schema declares,
which is the same whatever has been noted before. -/
inductive Definition.TypeIs (document : Document) (settings : Settings) (definition : Definition) :
    Text × Property → Text → Prop
  | version {entry : Text × Property} {kind : ResourceKind} {group version : Text}
      (own : entry.1 = "apiVersion") (single : definition.kinds = [kind])
      (inGroup : kind.group = .string group) (inVersion : kind.version = .string version) :
      TypeIs document settings definition entry
        (Text.literal (Text.intercalate "/" ([group, version].filter (· ≠ ""))))
  | kind {entry : Text × Property} {kind : ResourceKind} {name : Text}
      (own : entry.1 = "kind") (single : definition.kinds = [kind])
      (named : kind.kind = .string name) :
      TypeIs document settings definition entry (Text.literal name)
  | schema {entry : Text × Property} {shape : Shape} {type : Text}
      (free : hasLiteralType definition.kinds entry.1 = false)
      (declared : Shape.Declared entry.2.schema shape)
      (made : ∀ table, ∃ after, (shape.expression document settings).run table = .ok type after) :
      TypeIs document settings definition entry type

/-- What the member for a property has to be: its name, its type, its comment, and its two marks,
each told from what was read. -/
structure Definition.MemberFor (document : Document) (settings : Settings)
    (definition : Definition) (entry : Text × Property) (member : Member Json) : Prop where
  name : member.name = entry.1
  type : definition.TypeIs document settings entry member.type
  comment : (entry.2.description = .string "" ∧ member.comment = []) ∨
    (entry.2.description ≠ .string "" ∧ member.comment = [entry.2.description])
  isOptional : member.isOptional = true ↔ .string entry.1 ∉ definition.required.getD []
  isReadonly : member.isReadonly = true ↔
    ∃ before behind, entry.2.description = .string (before ++ "Read-only." ++ behind)

/-- The parts of an interface version that say something are the texts that are not empty. -/
theorem ResourceKind.versionParts_texts (texts : List Text) :
    versionParts (texts.map .string) = .ok (texts.filter (· ≠ "")) := by
  induction texts with
  | nil => rfl
  | cons text rest ih =>
    by_cases empty : text = ""
    · simp [versionParts, Json.isSignificant, empty, ih]
    · simp [versionParts, Json.isSignificant, empty, ih, Except.map]

/-- A schema has the expression of the shape that it declares, whatever the table has noted
before. -/
theorem schemaTrace_ok_iff {schema : Json} {type : Text} :
    (schemaTrace document settings schema).result = .ok type ↔
      ∃ shape, Shape.Declared schema shape ∧
        ∀ table, ∃ after, (shape.expression document settings).run table = .ok type after := by
  have expressed (shape : Shape) : (shape.trace document settings).result = .ok type ↔
      ∀ table, ∃ after, (shape.expression document settings).run table = .ok type after := by
    simp only [shape.expression_eq, Traced.run_perform_ok_iff, exists_and_left, exists_eq,
      and_true]
    exact ⟨fun made _ => made, fun made => made (.empty "")⟩
  simp only [← Shape.ofJson_ok_iff, ← expressed]
  unfold schemaTrace
  cases Shape.ofJson schema with
  | error failure => simp
  | ok shape => simp

/-- A single kind with a group and a version that are texts has the literal of both with a slash
between them for its interface version, and an empty group is left out with its slash. -/
theorem literalType?_version {kind : ResourceKind} {group version : Text}
    (inGroup : kind.group = .string group) (inVersion : kind.version = .string version) :
    literalType? [kind] "apiVersion" =
      .ok (some (Text.literal (Text.intercalate "/" ([group, version].filter (· ≠ ""))))) := by
  have parts : ResourceKind.versionParts [.string group, .string version] =
      .ok ([group, version].filter (· ≠ "")) := ResourceKind.versionParts_texts [group, version]
  rw [literalType?, if_pos rfl, ResourceKind.apiVersion, inGroup, inVersion, parts]
  rfl

/-- A single kind with a name that is a text has the literal of that name for its kind. -/
theorem literalType?_kind {kind : ResourceKind} {name : Text}
    (named : kind.kind = .string name) :
    literalType? [kind] "kind" = .ok (some (Text.literal name)) := by
  rw [literalType?, if_neg (by decide), if_pos rfl, named]
  rfl

section Types

variable {entry : Text × Property} {type : Text}

/-- The type that a property has to have is found. The cases are the three ways in which a property
comes to its type. -/
theorem Definition.TypeIs.made (typed : definition.TypeIs document settings entry type) :
    (typeTrace document settings definition.kinds entry.1 entry.2.schema).result = .ok type := by
  cases typed with
  | version own single inGroup inVersion =>
    rw [typeTrace, own, single, literalType?_version inGroup inVersion]
  | kind own single named => rw [typeTrace, own, single, literalType?_kind named]
  | schema free declared made =>
    rw [typeTrace, literalType?_of_free free]
    exact schemaTrace_ok_iff.2 ⟨_, declared, made⟩

/-- A type that is found is the one that the property has to have, where the parts of a literal type
are texts. -/
theorem Definition.HasTexts.typeIs_of_made (texts : definition.HasTexts)
    (made : (typeTrace document settings definition.kinds entry.1 entry.2.schema).result =
      .ok type) : definition.TypeIs document settings entry type := by
  cases own : hasLiteralType definition.kinds entry.1 with
  | false =>
    rw [typeTrace, literalType?_of_free own] at made
    obtain ⟨shape, declared, expressed⟩ := schemaTrace_ok_iff.1 made
    exact .schema own declared expressed
  | true =>
    obtain ⟨⟨kind, single⟩, either⟩ := hasLiteralType_iff.1 own
    have there : kind ∈ definition.kinds := by simp [single]
    rcases either with version | named
    · obtain ⟨group, inGroup⟩ := texts.group kind there
      obtain ⟨number, inVersion⟩ := texts.version kind there
      rw [typeTrace, version, single, literalType?_version inGroup inVersion] at made
      obtain rfl := Except.ok.inj made
      exact .version version single inGroup inVersion
    · obtain ⟨name, called⟩ := texts.kind kind there
      rw [typeTrace, named, single, literalType?_kind called] at made
      obtain rfl := Except.ok.inj made
      exact .kind named single called

end Types

/-- A text holds another exactly when the other one is a part of it. The search tries every place,
from the front. -/
theorem holds_iff {part text : List CodePoint} :
    holds part text = true ↔ ∃ before behind, text = before ++ part ++ behind := by
  have isInfix : holds part text = true ↔ part <:+: text := by
    induction text with
    | nil => simp [holds]
    | cons c rest ih => rw [holds, Bool.or_eq_true, ih, List.isPrefixOf_iff_prefix,
        List.infix_cons_iff]
  rw [isInfix]
  exact ⟨fun ⟨before, behind, same⟩ => ⟨before, behind, same.symm⟩,
    fun ⟨before, behind, same⟩ => ⟨before, behind, same.symm⟩⟩

/-- A description that is a text declares its property read-only where it holds the words. -/
theorem holds_readonlyWords_iff {text : Text} :
    holds readonlyWords.toList text.toList = true ↔
      ∃ before behind, text = before ++ "Read-only." ++ behind := by
  rw [holds_iff]
  constructor
  · rintro ⟨before, behind, same⟩
    refine ⟨Text.ofList before, Text.ofList behind, Text.toList_inj.1 ?_⟩
    simpa [Text.toList_append, readonlyWords] using same
  · rintro ⟨before, behind, rfl⟩
    exact ⟨before.toList, behind.toList, by simp [Text.toList_append, readonlyWords]⟩

/-- A property is required exactly when its name is among the required ones, which may hold other
data that count as no name. -/
theorem isRequired_iff {name : Text} :
    isRequired required name = true ↔ .string name ∈ required := by
  have text (entry : Json) : entry.string? = some name ↔ entry = .string name := by
    cases entry <;> simp [Json.string?]
  simp [isRequired, text]

/-- A property has the member that it has to have, and no other: its name, its type, its description
and whether it is required and read-only are all settled by the definition. -/
theorem Definition.HasTexts.memberTrace_ok_iff (texts : definition.HasTexts)
    {entry : Text × Property} (there : entry ∈ definition.propertyList)
    {member : Member Json} :
    (memberTrace document settings definition.kinds (definition.required.getD []) entry.1
        entry.2).result = .ok member ↔ definition.MemberFor document settings entry member := by
  obtain ⟨text, said⟩ := texts.description entry there
  have searched : declaresReadonly entry.2.description =
      .ok (holds readonlyWords.toList text.toList) := by rw [said]; rfl
  rw [OpenApiTypes.memberTrace_ok_iff, searched]
  constructor
  · rintro ⟨type, _, typed, ⟨⟩, rfl⟩
    refine ⟨rfl, texts.typeIs_of_made typed, ?_, ?_, ?_⟩
    · by_cases empty : text = ""
      · simp [said, empty, commentOf, Json.isSignificant]
      · simp [said, empty, commentOf, Json.isSignificant]
    · rw [Bool.not_eq_true', ← isRequired_iff, Bool.not_eq_true]
    · simp only [holds_readonlyWords_iff, said, Json.string.injEq]
  · intro right
    refine ⟨_, _, right.type.made, rfl, ?_⟩
    obtain ⟨name, type, comment, isOptional, isReadonly⟩ := member
    have optional : isOptional = !isRequired (definition.required.getD []) entry.1 := by
      rw [Bool.eq_iff_iff, right.isOptional, ← isRequired_iff, Bool.not_eq_true, Bool.not_eq_true']
    have readonly : isReadonly = holds readonlyWords.toList text.toList := by
      rw [Bool.eq_iff_iff, right.isReadonly, holds_readonlyWords_iff]
      simp only [said, Json.string.injEq]
    have paragraphs : comment = commentOf entry.2.description := by
      rcases right.comment with ⟨empty, same⟩ | ⟨full, same⟩
      · rw [empty]
        exact same
      · rw [said] at full same ⊢
        have significant : text ≠ "" := fun empty => full (congrArg Json.string empty)
        simpa [commentOf, Json.isSignificant, significant] using same
    obtain rfl : name = entry.1 := right.name
    rw [optional, readonly, paragraphs]

/-- The members for two lists of properties, one behind the other, where the first list has members.
What the first list uses is noted before what the second one uses. -/
theorem membersTrace_append {before rest : List (Text × Property)} {members : List (Member Json)}
    (made : (membersTrace document settings kinds required before).result = .ok members) :
    membersTrace document settings kinds required (before ++ rest) =
      ⟨(membersTrace document settings kinds required rest).result.map (members ++ ·),
        (membersTrace document settings kinds required before).used ++
          (membersTrace document settings kinds required rest).used⟩ := by
  induction before generalizing members with
  | nil =>
    obtain rfl := Except.ok.inj made
    have same (outcome : Except Failure (List (Member Json))) :
        outcome.map (fun found => [] ++ found) = outcome := by cases outcome <;> rfl
    rw [same]
    rfl
  | cons entry others ih =>
    obtain ⟨first, more, madeFirst, madeMore, rfl⟩ :=
      List.forall₂_cons_left_iff.1 (membersTrace_ok_iff.1 made)
    have behind := ih (membersTrace_ok_iff.2 madeMore)
    simp only [List.cons_append, membersTrace, madeFirst, behind, List.append_assoc]
    cases (membersTrace document settings kinds required rest).result <;> rfl

/-- A list of properties without members has a first property without one, and it fails as this
property does. -/
theorem exists_stop_of_membersTrace {properties : List (Text × Property)} {failure : Failure}
    (failed : (membersTrace document settings kinds required properties).result = .error failure) :
    ∃ before entry after members, properties = before ++ entry :: after ∧
      (membersTrace document settings kinds required before).result = .ok members ∧
      (memberTrace document settings kinds required entry.1 entry.2).result = .error failure := by
  induction properties with
  | nil => cases failed
  | cons entry rest ih =>
    rw [membersTrace] at failed
    cases made : (memberTrace document settings kinds required entry.1 entry.2).result with
    | error other =>
      simp only [made] at failed
      obtain rfl : other = failure := Except.error.inj failed
      exact ⟨[], entry, rest, [], rfl, rfl, made⟩
    | ok member =>
      simp only [made] at failed
      cases others : (membersTrace document settings kinds required rest).result with
      | ok members =>
        rw [others] at failed
        cases failed
      | error other =>
        rw [others] at failed
        obtain rfl : other = failure := Except.error.inj failed
        obtain ⟨before, stop, after, members, rfl, passed, stopped⟩ := ih others
        refine ⟨entry :: before, stop, after, member :: members, rfl, ?_, stopped⟩
        simp only [membersTrace, made, passed]
        rfl

/-- A property without a type uses nothing. A name is noted only when the whole type is known, in
the last of the steps that can fail. -/
theorem used_of_typeTrace_error {name : Text} {schema : Json} {failure : Failure}
    (failed : (typeTrace document settings kinds name schema).result = .error failure) :
    (typeTrace document settings kinds name schema).used = [] := by
  unfold typeTrace at failed ⊢
  cases literal : literalType? kinds name with
  | error other => rfl
  | ok type? =>
    cases type? with
    | some type => rfl
    | none =>
      simp only [literal] at failed ⊢
      unfold schemaTrace at failed ⊢
      cases read : Shape.ofJson schema with
      | error other => rfl
      | ok shape =>
        rw [read] at failed
        exact Shape.used_of_trace_error failed

/-- The first entries of a table. They are a table, since no key among them occurs twice. -/
def Table.take {κ α : Type} (table : Table κ α) (count : Nat) : Table κ α :=
  ⟨table.entries.take count,
    table.distinct.sublist ((List.take_sublist count table.entries).map Prod.fst)⟩

namespace Definition

/-- The definition with its first properties only. How far the making of members gets is told by how
many of them there are. -/
def cut (definition : Definition) (count : Nat) : Definition :=
  { definition with properties := definition.properties.map (·.take count) }

/-- A definition that is cut after some properties has just these. What it has besides properties is
not touched. -/
theorem propertyList_cut {count : Nat} :
    (definition.cut count).propertyList = definition.propertyList.take count := by
  unfold propertyList cut
  cases definition.properties with
  | none => exact List.take_nil.symm
  | some properties => rfl

/-- The texts of a definition stay texts when properties are left out. -/
theorem HasTexts.cut (texts : definition.HasTexts) (count : Nat) :
    (definition.cut count).HasTexts where
  required := texts.required
  group := texts.group
  version := texts.version
  kind := texts.kind
  description entry there := by
    rw [propertyList_cut] at there
    exact texts.description entry (List.mem_of_mem_take there)

/-- The members that a definition has when it is cut are those that its first properties make with
the required names of the whole definition. -/
theorem trace_cut (single : (definition.required.getD []).any Json.isComposite = false)
    {count : Nat} : (definition.cut count).trace document settings =
      membersTrace document settings definition.kinds (definition.required.getD [])
        (definition.propertyList.take count) := by
  rw [← propertyList_cut]
  exact (definition.cut count).trace_of_single single

/-- The members of a definition are those that its properties have to have, one for each and in the
same order. -/
theorem HasTexts.trace_ok_iff (texts : definition.HasTexts) {members : List (Member Json)} :
    (definition.trace document settings).result = .ok members ↔
      List.Forall₂ (definition.MemberFor document settings) definition.propertyList members := by
  rw [trace_of_single (any_isComposite_of_texts texts.required), membersTrace_ok_iff,
    List.forall₂_iff_zip, List.forall₂_iff_zip]
  refine and_congr_right fun _ => forall₂_congr fun entry member => ?_
  refine forall_congr' fun beside => ?_
  exact texts.memberTrace_ok_iff (List.of_mem_zip beside).1

/-- A property without a member uses nothing, since its description can be searched. -/
theorem HasTexts.used_of_memberTrace_error (texts : definition.HasTexts) {entry : Text × Property}
    (there : entry ∈ definition.propertyList) {failure : Failure}
    (failed : (memberTrace document settings definition.kinds required entry.1 entry.2).result =
      .error failure) :
    (memberTrace document settings definition.kinds required entry.1 entry.2).used = [] := by
  obtain ⟨text, said⟩ := texts.description entry there
  cases typed : (typeTrace document settings definition.kinds entry.1 entry.2.schema).result with
  | error other => exact used_of_typeTrace_error typed
  | ok type =>
    have searched : declaresReadonly entry.2.description =
        .ok (holds readonlyWords.toList text.toList) := by rw [said]; rfl
    rw [OpenApiTypes.memberTrace_ok_iff.2 ⟨type, _, typed, searched, rfl⟩] at failed
    cases failed

/-- An interface without all of its members stops at a property. The properties before have members,
and what the interface uses is what they use. This property itself uses nothing, so it makes no
difference to the uses whether it is cut off. -/
theorem HasTexts.exists_stop (texts : definition.HasTexts) {failure : Failure}
    (failed : (definition.trace document settings).result = .error failure) :
    ∃ count < definition.propertyList.length,
      (∃ members, ((definition.cut count).trace document settings).result = .ok members) ∧
      ((definition.cut (count + 1)).trace document settings).result = .error failure ∧
      (definition.trace document settings).used =
        ((definition.cut count).trace document settings).used ∧
      (definition.trace document settings).used =
        ((definition.cut (count + 1)).trace document settings).used := by
  have single := any_isComposite_of_texts texts.required
  rw [trace_of_single single] at failed
  obtain ⟨before, entry, after, members, split, passed, stopped⟩ :=
    exists_stop_of_membersTrace failed
  have there : entry ∈ definition.propertyList := by simp [split]
  have shorter : (definition.cut before.length).trace document settings =
      membersTrace document settings definition.kinds (definition.required.getD []) before := by
    rw [trace_cut single, split, List.take_left]
  have longer : (definition.cut (before.length + 1)).trace document settings =
      membersTrace document settings definition.kinds (definition.required.getD [])
        (before ++ [entry]) := by
    rw [trace_cut single, split, List.take_length_add_append]
    rfl
  have unused := texts.used_of_memberTrace_error there stopped
  refine ⟨before.length, by simp [split], ?_, ?_, ?_, ?_⟩
  · exact ⟨members, by rw [shorter, passed]⟩
  · rw [longer, membersTrace_append passed]
    simp only [membersTrace, stopped]
    rfl
  · rw [trace_of_single single, shorter, split, membersTrace_append passed]
    simp only [membersTrace, stopped, unused, List.append_nil]
  · rw [trace_of_single single, longer, split, membersTrace_append passed,
      membersTrace_append passed]
    simp only [membersTrace, stopped]

end Definition

/-- What becomes of a definition with texts. Either it has the members that its properties have to
have, and the table gains what the properties use. Or there is a first property that stops the
interface: cut before this property the definition has members, with it it fails in the same way,
and all three leave one and the same table behind, which has gained what the shorter definition
uses. What the table had stays in both cases.

Proof: the members are a trace, an outcome with a list of uses, which a table notes one after the
other. So the two runs that are compared leave the same table because their lists of uses are the
same, and the table gains what any table gains by such a list. -/
theorem members_made_or_stopped (texts : definition.HasTexts) (table : ImportTable) :
    let outcome := (definition.members document settings).run table
    (∀ members, (∃ after, outcome = .ok members after) ↔
      List.Forall₂ (definition.MemberFor document settings) definition.propertyList members) ∧
    (∀ members after, outcome = .ok members after →
      table.Gains (document.targets settings definition) after) ∧
    ∀ failure after, outcome = .error failure after → ∃ count < definition.propertyList.length,
      (∃ members, ((definition.cut count).members document settings).run table =
        .ok members after) ∧
      ((definition.cut (count + 1)).members document settings).run table =
        .error failure after ∧
      table.Gains (document.targets settings (definition.cut count)) after := by
  simp only [Definition.members_eq_perform, Traced.run_perform_ok_iff,
    Traced.run_perform_error_iff]
  refine ⟨fun members => ?_, ?_, ?_⟩
  · rw [← texts.trace_ok_iff]
    exact ⟨fun ⟨_, made, _⟩ => made, fun made => ⟨_, made, rfl⟩⟩
  · rintro members _ ⟨made, rfl⟩
    rw [Definition.used_of_trace made]
    exact table.gains_addAll _
  · rintro failure _ ⟨failed, rfl⟩
    obtain ⟨count, inside, ⟨members, made⟩, stopped, used, usedNext⟩ := texts.exists_stop failed
    refine ⟨count, inside, ⟨members, made, by rw [used]⟩, ⟨stopped, by rw [usedNext]⟩, ?_⟩
    rw [used, Definition.used_of_trace made]
    exact table.gains_addAll _

/-- A definition of one kind. Its first property has a literal type and no schema, the second one a
type from another namespace, the third one leads to a definition without a qualified name, and the
last one has no schema. -/
def stoppingDefinition : Definition where
  description := .null
  required := some [.string "details"]
  properties := some (.ofList [("kind", ⟨.string "", .null⟩),
    ("details", ⟨.string "Details. Read-only.", referenceTo "#/k.meta.Details"⟩),
    ("owner", ⟨.string "", referenceTo "#/other.Pod"⟩), ("limit", ⟨.string "", .null⟩)])
  kinds := [⟨.string "", .string "v1", .string "Pod"⟩]

/-- All texts of this definition are texts, so only a type can stop it. -/
theorem stoppingDefinition_hasTexts : stoppingDefinition.HasTexts := by
  have properties : stoppingDefinition.propertyList = ([("kind", ⟨.string "", .null⟩),
      ("details", ⟨.string "Details. Read-only.", referenceTo "#/k.meta.Details"⟩),
      ("owner", ⟨.string "", referenceTo "#/other.Pod"⟩),
      ("limit", ⟨.string "", .null⟩)] : List (Text × Property)) := rfl
  refine ⟨?_, ?_, ?_, ?_, ?_⟩
  · simp [stoppingDefinition]
  · simp [stoppingDefinition]
  · simp [stoppingDefinition]
  · simp [stoppingDefinition]
  · simp [properties]

/-- The interface stops at the third property. Cut before it the definition has the members that its
first two properties have to have, and the table gains the same. What the table had noted before is
still there. -/
theorem members_made_or_stopped_of_excluded :
    let table := (ImportTable.empty "core").add ⟨"Time", "meta"⟩
    let shorter := stoppingDefinition.cut 2
    stoppingDefinition.HasTexts ∧
      (∃ after, (stoppingDefinition.members sampleDocument sampleSettings).run table =
          .error (.reference (.excluded "#/other.Pod")) after ∧
        ∃ count < 4, (∃ members, ((stoppingDefinition.cut count).members sampleDocument
            sampleSettings).run table = .ok members after) ∧
          ((stoppingDefinition.cut (count + 1)).members sampleDocument sampleSettings).run table =
            .error (.reference (.excluded "#/other.Pod")) after ∧
          table.Gains (sampleDocument.targets sampleSettings (stoppingDefinition.cut count))
            after) ∧
      ∃ members after, (shorter.members sampleDocument sampleSettings).run table =
          .ok members after ∧
        List.Forall₂ (shorter.MemberFor sampleDocument sampleSettings) shorter.propertyList
          members ∧
        table.Gains [⟨"Details", "meta"⟩] after := by
  have texts := stoppingDefinition_hasTexts
  obtain ⟨after, failed⟩ : ∃ after, (stoppingDefinition.members sampleDocument sampleSettings).run
      ((ImportTable.empty "core").add ⟨"Time", "meta"⟩) =
        .error (.reference (.excluded "#/other.Pod")) after := ⟨_, rfl⟩
  obtain ⟨members, shorterAfter, made⟩ : ∃ members after, ((stoppingDefinition.cut 2).members
      sampleDocument sampleSettings).run ((ImportTable.empty "core").add ⟨"Time", "meta"⟩) =
        .ok members after := ⟨_, _, rfl⟩
  have targets : sampleDocument.targets sampleSettings (stoppingDefinition.cut 2) =
      [⟨"Details", "meta"⟩] := by decide +kernel
  obtain ⟨_, _, stops⟩ := members_made_or_stopped texts
    ((ImportTable.empty "core").add ⟨"Time", "meta"⟩)
  obtain ⟨right, gains, _⟩ := members_made_or_stopped (texts.cut 2)
    ((ImportTable.empty "core").add ⟨"Time", "meta"⟩)
  exact ⟨texts, ⟨after, failed, stops _ _ failed⟩, members, shorterAfter, made,
    (right members).1 ⟨_, made⟩, targets ▸ gains members _ made⟩

end OpenApiTypes
