import OpenApiTypes.Document
import OpenApiTypes.Proofs.Schemas
import OpenApiTypes.Proofs.Traversal

/-!
# A description with its outline in order is read and kept

The outline of a description is what can be asked of it without a look into schemas: which of its
parts are objects and lists. A description is read exactly when its outline is in order. It is then
kept as it is: the definitions and their properties under their names and in their order, with the
schemas unchanged, and the required names and the kinds of resource in theirs. In every other case
something is refused, and that really does not fit.

Absence, null and a wrong kind of data are three different things here. Properties, required names
and kinds may be absent; null counts as absent for required names, and as wrong for everything else.
-/
namespace OpenApiTypes

open Traversal (bind_ok_iff bind_error_iff mapM_ok_iff exists_of_mapM_error table_mapM_ok_iff
  exists_of_table_mapM_error)

namespace Json

variable {raw : Json}

/-- A value with members, of which there may be none. -/
def IsObject (raw : Json) : Prop := ∃ members, raw = object members

/-- The member under a name, or the empty text where there is none. Of several members under that
name it is the last. -/
def memberOr (raw : Json) (name : Text) : Json := (raw.member? name).getD (string "")

/-- A value is an object exactly when it has a table of its members. The table is what is looked
into from then on. -/
theorem isObject_iff : raw.IsObject ↔ ∃ table, raw.table? = some table := by
  cases raw <;> simp [IsObject, table?]

/-- Everything else has no table. This is how a value that is no object is found out. -/
theorem table?_eq_none_iff : raw.table? = none ↔ ¬ raw.IsObject := by
  cases raw <;> simp [IsObject, table?]

variable {table : Table Text Json}

/-- The members of an object are those of its table. Several under one name have become one
there. -/
theorem member?_eq (found : raw.table? = some table) (name : Text) :
    raw.member? name = table.get? name := by
  rw [member?, found, Option.bind_some]

/-- What counts for a member that may be absent is found in the table, too. -/
theorem memberOr_eq (found : raw.table? = some table) (name : Text) :
    raw.memberOr name = table.textAt name := by
  rw [memberOr, member?_eq found, Table.textAt]

end Json

/-- A kind of resource has the parts of an object as they are there. Nothing is asked of what they
are. -/
structure ResourceKind.Keeps (raw : Json) (kind : ResourceKind) : Prop where
  object : raw.IsObject
  group : kind.group = raw.memberOr "group"
  version : kind.version = raw.memberOr "version"
  kind : kind.kind = raw.memberOr "kind"

namespace Definition

/-- The outline of a definition is in order: it is an object, and the three parts that are looked
into are of their kinds, where they are there. -/
structure IsOutlined (raw : Json) : Prop where
  object : raw.IsObject
  properties : ∀ value, raw.member? "properties" = some value → value.IsObject
  required : ∀ value, raw.member? "required" = some value →
    value = .null ∨ ∃ items, value = .array items
  kinds : ∀ value, raw.member? "x-kubernetes-group-version-kind" = some value →
    ∃ items, value = .array items ∧ ∀ item ∈ items, item.IsObject

/-- The properties of a definition are those given, in their order: each under its name, with its
schema and the description in that. -/
inductive KeepsProperties : Option Json → Option (Table Text Property) → Prop
  | absent : KeepsProperties none none
  | given {raw : Json} {table : Table Text Json} {properties : Table Text Property}
      (object : raw.table? = some table)
      (each : List.Forall₂ (fun member entry => entry.1 = member.1 ∧ entry.2.schema = member.2 ∧
        entry.2.description = member.2.memberOr "description") table.entries properties.entries) :
      KeepsProperties (some raw) (some properties)

/-- The required names of a definition are those given. What is null is treated as if it were not
there; an empty list is not. -/
inductive KeepsRequired : Option Json → Option (List Json) → Prop
  | absent : KeepsRequired none none
  | null : KeepsRequired (some .null) none
  | given {items : List Json} : KeepsRequired (some (.array items)) (some items)

/-- The kinds of resource of a definition are those given, in their order. None given is an empty
list. -/
inductive KeepsKinds : Option Json → List ResourceKind → Prop
  | absent : KeepsKinds none []
  | given {items : List Json} {kinds : List ResourceKind}
      (each : List.Forall₂ ResourceKind.Keeps items kinds) : KeepsKinds (some (.array items)) kinds

/-- A definition has what is given. This leaves nothing of it open, so there is one at most. -/
structure Keeps (raw : Json) (definition : Definition) : Prop where
  object : raw.IsObject
  description : definition.description = raw.memberOr "description"
  properties : KeepsProperties (raw.member? "properties") definition.properties
  required : KeepsRequired (raw.member? "required") definition.required
  kinds : KeepsKinds (raw.member? "x-kubernetes-group-version-kind") definition.kinds

/-- Something in a definition does not fit its outline, and this is the problem that tells it. -/
inductive Misfit (name : Text) (raw : Json) : DocumentProblem → Prop
  | object (other : ¬ raw.IsObject) : Misfit name raw (.definitionNotAnObject name)
  | properties {value : Json} (given : raw.member? "properties" = some value)
      (other : ¬ value.IsObject) : Misfit name raw (.propertiesNotAnObject name)
  | required {value : Json} (given : raw.member? "required" = some value) (some : value ≠ .null)
      (other : ∀ items, value ≠ .array items) : Misfit name raw (.requiredNotAList name)
  | kinds {value : Json} (given : raw.member? "x-kubernetes-group-version-kind" = some value)
      (other : ∀ items, value ≠ .array items) : Misfit name raw (.kindsNotAList name)
  | kind {items : List Json} {item : Json}
      (given : raw.member? "x-kubernetes-group-version-kind" = some (.array items))
      (there : item ∈ items) (other : ¬ item.IsObject) : Misfit name raw (.kindNotAnObject item)

end Definition

namespace Document

/-- The two parts of a description are there, each of them an object. All else in it is of no
concern. -/
structure HasParts (raw : Json) : Prop where
  info : ∃ info, raw.member? "info" = some info ∧ info.IsObject
  definitions : ∃ definitions, raw.member? "definitions" = some definitions ∧ definitions.IsObject

/-- The outline of a description is in order: it has its parts, and every definition is outlined. -/
structure IsOutlined (raw : Json) : Prop where
  parts : HasParts raw
  definition : ∀ definitions name value, raw.member? "definitions" = some definitions →
    definitions.member? name = some value → Definition.IsOutlined value

/-- A description has what is given: its title and its version, and its definitions in their order,
each under its name. -/
structure Keeps (raw : Json) (document : Document) : Prop where
  info : ∃ info, raw.member? "info" = some info ∧ info.IsObject ∧
    document.title = info.memberOr "title" ∧ document.version = info.memberOr "version"
  definitions : ∃ definitions table, raw.member? "definitions" = some definitions ∧
    definitions.table? = some table ∧ List.Forall₂ (fun member entry => entry.1 = member.1 ∧
      Definition.Keeps member.2 entry.2) table.entries document.definitions.entries

/-- Something in a description does not fit its outline: one of its two parts, or something in one
of its definitions. -/
inductive Misfit (raw : Json) : DocumentProblem → Prop
  | parts (other : ¬ HasParts raw) : Misfit raw .missingFields
  | definition {definitions value : Json} {name : Text} {problem : DocumentProblem}
      (given : raw.member? "definitions" = some definitions)
      (defined : definitions.member? name = some value)
      (misfit : Definition.Misfit name value problem) : Misfit raw problem

end Document

variable {raw : Json} {value? : Option Json} {name : Text} {problem : DocumentProblem}

namespace ResourceKind

/-- A kind of resource is read as what keeps its group, its version and its kind, and from an object
only. -/
theorem ofJson_ok_iff {kind : ResourceKind} : ofJson raw = .ok kind ↔ Keeps raw kind := by
  unfold ofJson
  cases found : raw.table? with
  | none =>
    have other : ¬ raw.IsObject := Json.table?_eq_none_iff.1 found
    exact iff_of_false (by simp) fun keeps => other keeps.object
  | some table =>
    simp only [Except.ok.injEq]
    constructor
    · rintro rfl
      exact ⟨Json.isObject_iff.2 ⟨table, found⟩, (Json.memberOr_eq found _).symm,
        (Json.memberOr_eq found _).symm, (Json.memberOr_eq found _).symm⟩
    · intro keeps
      obtain ⟨group, version, kind⟩ := kind
      obtain ⟨_, rfl, rfl, rfl⟩ := keeps
      simp only [Json.memberOr_eq found]

/-- What is refused as a kind of resource is no object, and the refusal shows it. -/
theorem of_ofJson_error (refused : ofJson raw = .error problem) :
    ¬ raw.IsObject ∧ problem = .kindNotAnObject raw := by
  unfold ofJson at refused
  cases found : raw.table? with
  | none =>
    rw [found] at refused
    exact ⟨Json.table?_eq_none_iff.1 found, (Except.error.inj refused).symm⟩
  | some table =>
    rw [found] at refused
    cases refused

end ResourceKind

/-- A property has the schema that is given, and the description in that. -/
theorem Property.ofJson_eq_iff {property : Property} : ofJson raw = property ↔
    property.schema = raw ∧ property.description = raw.memberOr "description" := by
  have reads : ofJson raw = ⟨raw.memberOr "description", raw⟩ := by
    unfold ofJson Json.memberOr Json.member?
    cases raw.table? <;> rfl
  rw [reads]
  constructor
  · rintro rfl
    exact ⟨rfl, rfl⟩
  · obtain ⟨description, schema⟩ := property
    intro given
    obtain ⟨rfl, rfl⟩ : schema = raw ∧ description = raw.memberOr "description" := given
    rfl

namespace Definition

variable {definition : Definition}

/-- Properties are read as what keeps them: an object of properties in their order, or none where
none are given. -/
theorem readProperties_ok_iff {properties : Option (Table Text Property)} :
    readProperties name value? = .ok properties ↔ KeepsProperties value? properties := by
  have related (member : Text × Json) (entry : Text × Property) :
      (entry.1 = member.1 ∧ entry.2.schema = member.2 ∧
        entry.2.description = member.2.memberOr "description") ↔
      (member.1, Property.ofJson member.2) = entry := by
    rw [← Property.ofJson_eq_iff, Prod.mk.injEq, eq_comm (a := entry.1)]
  constructor
  · intro read
    unfold readProperties at read
    split at read
    · obtain rfl := Except.ok.inj read
      exact .absent
    · split at read
      · next table found =>
        obtain rfl := Except.ok.inj read
        refine .given found ?_
        simp only [related, Table.map]
        rw [← List.forall₂_map_left_iff, List.forall₂_eq_eq_eq]
      · cases read
  · rintro (_ | ⟨found, each⟩)
    · rfl
    · simp only [related] at each
      rw [← List.forall₂_map_left_iff, List.forall₂_eq_eq_eq] at each
      rw [readProperties, found]
      exact congrArg (Except.ok ∘ some) (Table.eq_of_entries each)

/-- Required names are read as what keeps them: the items of a list, or none where they are absent
or null. -/
theorem readRequired_ok_iff {required : Option (List Json)} :
    readRequired name value? = .ok required ↔ KeepsRequired value? required := by
  constructor
  · intro read
    unfold readRequired at read
    split at read
    · obtain rfl := Except.ok.inj read
      exact .absent
    · obtain rfl := Except.ok.inj read
      exact .null
    · obtain rfl := Except.ok.inj read
      exact .given
    · cases read
  · rintro (_ | _ | _) <;> rfl

/-- Kinds of resource are read as what keeps them: one for each object of a list, and none where the
list is absent. -/
theorem readKinds_ok_iff {kinds : List ResourceKind} :
    readKinds name value? = .ok kinds ↔ KeepsKinds value? kinds := by
  constructor
  · intro read
    unfold readKinds at read
    split at read
    · obtain rfl := Except.ok.inj read
      exact .absent
    · exact .given ((mapM_ok_iff.1 read).imp fun _ _ => ResourceKind.ofJson_ok_iff.1)
    · cases read
  · rintro (_ | each)
    · rfl
    · exact mapM_ok_iff.2 (each.imp fun _ _ => ResourceKind.ofJson_ok_iff.2)

/-- What is refused as properties is there and no object. Properties that are missing are not
refused. -/
theorem readProperties_error (refused : readProperties name value? = .error problem) :
    problem = .propertiesNotAnObject name ∧ ∃ value, value? = some value ∧ ¬ value.IsObject := by
  unfold readProperties at refused
  split at refused
  · cases refused
  · next value =>
    split at refused
    · cases refused
    · next other =>
      exact ⟨(Except.error.inj refused).symm, value, rfl, Json.table?_eq_none_iff.1 other⟩

/-- What is refused as required names is there, not null and no list. The items of a list are not
looked at. -/
theorem readRequired_error (refused : readRequired name value? = .error problem) :
    problem = .requiredNotAList name ∧
      ∃ value, value? = some value ∧ value ≠ .null ∧ ∀ items, value ≠ .array items := by
  unfold readRequired at refused
  split at refused
  · cases refused
  · cases refused
  · cases refused
  · next value notNull notArray =>
    exact ⟨(Except.error.inj refused).symm, value, rfl, notNull, notArray⟩

/-- What is refused as kinds of resource is there and no list, or it is a list with something in it
that is no object. In the second case the refusal shows the first such thing. -/
theorem readKinds_error (refused : readKinds name value? = .error problem) :
    (problem = .kindsNotAList name ∧
      ∃ value, value? = some value ∧ ∀ items, value ≠ .array items) ∨
    ∃ items item, value? = some (.array items) ∧ item ∈ items ∧ ¬ item.IsObject ∧
      problem = .kindNotAnObject item := by
  unfold readKinds at refused
  split at refused
  · cases refused
  · next items =>
    obtain ⟨item, there, failed⟩ := exists_of_mapM_error refused
    obtain ⟨other, same⟩ := ResourceKind.of_ofJson_error failed
    exact .inr ⟨items, item, rfl, there, other, same⟩
  · next value notArray =>
    exact .inl ⟨(Except.error.inj refused).symm, value, rfl, notArray⟩

/-- A definition is read as what has everything that is given. The parts of a definition are read
one after the other, and each of them has its own law. -/
theorem ofJson_ok_iff : ofJson name raw = .ok definition ↔ Keeps raw definition := by
  unfold ofJson
  cases found : raw.table? with
  | none =>
    have other : ¬ raw.IsObject := Json.table?_eq_none_iff.1 found
    exact iff_of_false (by simp) fun keeps => other keeps.object
  | some table =>
    have object : raw.IsObject := Json.isObject_iff.2 ⟨table, found⟩
    simp only [bind_ok_iff, readProperties_ok_iff, readRequired_ok_iff, readKinds_ok_iff,
      ← Json.member?_eq found, ← Json.memberOr_eq found]
    constructor
    · rintro ⟨properties, keptProperties, required, keptRequired, kinds, keptKinds, same⟩
      obtain rfl := Except.ok.inj same
      exact ⟨object, rfl, keptProperties, keptRequired, keptKinds⟩
    · intro keeps
      refine ⟨_, keeps.properties, _, keeps.required, _, keeps.kinds, ?_⟩
      rw [← keeps.description]
      rfl

/-- A definition that is refused has something that does not fit, and the refusal is about that. -/
theorem misfit_of_ofJson_error (refused : ofJson name raw = .error problem) :
    Misfit name raw problem := by
  unfold ofJson at refused
  cases found : raw.table? with
  | none =>
    rw [found] at refused
    obtain rfl := Except.error.inj refused
    exact .object (Json.table?_eq_none_iff.1 found)
  | some table =>
    simp only [found, ← Json.member?_eq found] at refused
    rcases bind_error_iff.1 refused with stopped | ⟨properties, _, refused⟩
    · obtain ⟨rfl, value, given, other⟩ := readProperties_error stopped
      exact .properties given other
    rcases bind_error_iff.1 refused with stopped | ⟨required, _, refused⟩
    · obtain ⟨rfl, value, given, some, other⟩ := readRequired_error stopped
      exact .required given some other
    rcases bind_error_iff.1 refused with stopped | ⟨kinds, _, done⟩
    · rcases readKinds_error stopped with
        ⟨rfl, value, given, other⟩ | ⟨items, item, given, there, other, rfl⟩
      · exact .kinds given other
      · exact .kind given there other
    · cases done

/-- What does not fit puts the outline of a definition out of order. So no definition is both kept
and refused. -/
theorem Misfit.not_isOutlined (misfit : Misfit name raw problem) : ¬ IsOutlined raw := by
  intro outlined
  cases misfit with
  | object other => exact other outlined.object
  | properties given other => exact other (outlined.properties _ given)
  | required given some other =>
    rcases outlined.required _ given with null | ⟨items, list⟩
    · exact some null
    · exact other items list
  | kinds given other =>
    obtain ⟨items, list, _⟩ := outlined.kinds _ given
    exact other items list
  | kind given there other =>
    obtain ⟨items, list, objects⟩ := outlined.kinds _ given
    obtain rfl := Json.array.inj list
    exact other (objects _ there)

/-- Properties that are kept were given as an object. This is one half of what it takes for them to
be read. -/
theorem KeepsProperties.isObject {value : Json} {properties : Option (Table Text Property)}
    (kept : KeepsProperties (some value) properties) : value.IsObject := by
  cases kept with
  | given object _ => exact Json.isObject_iff.2 ⟨_, object⟩

/-- Required names that are kept were given as a list, or as null, or not at all. -/
theorem KeepsRequired.null_or_list {value : Json} {required : Option (List Json)}
    (kept : KeepsRequired (some value) required) :
    value = .null ∨ ∃ items, value = .array items := by
  cases kept with
  | null => exact .inl rfl
  | given => exact .inr ⟨_, rfl⟩

/-- Kinds of resource that are kept were given as a list of objects. Each kind stands beside the
object that it was read from. -/
theorem KeepsKinds.objects {value : Json} {kinds : List ResourceKind}
    (kept : KeepsKinds (some value) kinds) :
    ∃ items, value = .array items ∧ ∀ item ∈ items, item.IsObject := by
  cases kept with
  | given each =>
    refine ⟨_, rfl, fun item there => ?_⟩
    obtain ⟨_, _, keeps⟩ := Traversal.exists_output each there
    exact keeps.object

/-- A definition that is read has its outline in order. It is put together from what was read of its
parts. -/
theorem Keeps.isOutlined (keeps : Keeps raw definition) : IsOutlined raw where
  object := keeps.object
  properties value given := by
    have kept := keeps.properties
    rw [given] at kept
    exact kept.isObject
  required value given := by
    have kept := keeps.required
    rw [given] at kept
    exact kept.null_or_list
  kinds value given := by
    have kept := keeps.kinds
    rw [given] at kept
    exact kept.objects

end Definition

namespace Document

variable {document : Document}

/-- A description without its two parts is refused as such, before any definition is read. -/
theorem ofJson_of_missing (missing : ¬ HasParts raw) : ofJson raw = .error .missingFields := by
  unfold ofJson
  dsimp only
  split
  · next info definitions hasInfo hasDefinitions =>
    obtain ⟨infoRaw, givenInfo, infoTable⟩ := Option.bind_eq_some_iff.1 hasInfo
    obtain ⟨raw, given, table⟩ := Option.bind_eq_some_iff.1 hasDefinitions
    exact absurd ⟨⟨infoRaw, givenInfo, Json.isObject_iff.2 ⟨info, infoTable⟩⟩,
      raw, given, Json.isObject_iff.2 ⟨definitions, table⟩⟩ missing
  · rfl

/-- A description with its two parts is read as its definitions are, with what it says of itself
kept. -/
theorem ofJson_of_parts {info definitions : Json} {infoTable table : Table Text Json}
    (givenInfo : raw.member? "info" = some info) (infoFound : info.table? = some infoTable)
    (given : raw.member? "definitions" = some definitions)
    (found : definitions.table? = some table) :
    ofJson raw = table.mapM Definition.ofJson >>= fun definitions =>
      .ok ⟨info.memberOr "title", info.memberOr "version", definitions⟩ := by
  have hasInfo : (raw.member? "info").bind Json.table? = some infoTable := by
    rw [givenInfo, Option.bind_some, infoFound]
  have hasDefinitions : (raw.member? "definitions").bind Json.table? = some table := by
    rw [given, Option.bind_some, found]
  rw [Json.member?] at hasInfo hasDefinitions
  simp only [ofJson, hasInfo, hasDefinitions, Json.memberOr_eq infoFound]
  rfl

/-- A description that is read has its two parts, one for its heading and one for its
definitions. -/
theorem Keeps.hasParts (keeps : Keeps raw document) : HasParts raw := by
  obtain ⟨⟨info, givenInfo, infoObject, _⟩, definitions, table, given, found, _⟩ := keeps
  exact ⟨⟨info, givenInfo, infoObject⟩, definitions, given, Json.isObject_iff.2 ⟨table, found⟩⟩

/-- A description is read as what has everything that is given: the same names in the same order,
each with the definition that is read under it. -/
theorem ofJson_ok_iff : ofJson raw = .ok document ↔ Keeps raw document := by
  by_cases parts : HasParts raw
  · obtain ⟨⟨info, givenInfo, infoObject⟩, definitions, given, object⟩ := parts
    obtain ⟨infoTable, infoFound⟩ := Json.isObject_iff.1 infoObject
    obtain ⟨table, found⟩ := Json.isObject_iff.1 object
    rw [ofJson_of_parts givenInfo infoFound given found, bind_ok_iff]
    simp only [table_mapM_ok_iff, Definition.ofJson_ok_iff]
    constructor
    · rintro ⟨kept, each, same⟩
      obtain rfl := Except.ok.inj same
      exact ⟨⟨info, givenInfo, infoObject, rfl, rfl⟩, definitions, table, given, found, each⟩
    · rintro ⟨⟨_, againInfo, _, title, version⟩, _, _, again, foundAgain, each⟩
      obtain rfl := Option.some.inj (givenInfo.symm.trans againInfo)
      obtain rfl := Option.some.inj (given.symm.trans again)
      obtain rfl := Option.some.inj (found.symm.trans foundAgain)
      refine ⟨document.definitions, each, ?_⟩
      rw [← title, ← version]
  · rw [ofJson_of_missing parts]
    exact iff_of_false (by simp) fun keeps => parts keeps.hasParts

/-- A description that is refused has something that does not fit, in its parts or in the first
definition that is refused. -/
theorem misfit_of_ofJson_error (refused : ofJson raw = .error problem) : Misfit raw problem := by
  by_cases parts : HasParts raw
  · obtain ⟨⟨info, givenInfo, infoObject⟩, definitions, given, object⟩ := parts
    obtain ⟨infoTable, infoFound⟩ := Json.isObject_iff.1 infoObject
    obtain ⟨table, found⟩ := Json.isObject_iff.1 object
    rw [ofJson_of_parts givenInfo infoFound given found] at refused
    rcases bind_error_iff.1 refused with stopped | ⟨_, _, done⟩
    · obtain ⟨⟨name, value⟩, there, failed⟩ := exists_of_table_mapM_error stopped
      have defined : definitions.member? name = some value := by
        rw [Json.member?_eq found]
        exact Table.get?_eq_some_iff.2 there
      exact .definition given defined (Definition.misfit_of_ofJson_error failed)
    · cases done
  · rw [ofJson_of_missing parts] at refused
    obtain rfl := Except.error.inj refused
    exact .parts parts

/-- What does not fit puts the outline out of order, be it a part that is missing or one of the
definitions. -/
theorem Misfit.not_isOutlined (misfit : Misfit raw problem) : ¬ IsOutlined raw := by
  intro outlined
  cases misfit with
  | parts other => exact other outlined.parts
  | definition given defined misfit =>
    exact misfit.not_isOutlined (outlined.definition _ _ _ given defined)

/-- A description that is read has its outline in order: its parts are there, and every definition
in it was read. -/
theorem Keeps.isOutlined (keeps : Keeps raw document) : IsOutlined raw := by
  refine ⟨keeps.hasParts, ?_⟩
  intro definitions name value given defined
  obtain ⟨_, definitions, table, again, found, each⟩ := keeps
  obtain rfl := Option.some.inj (given.symm.trans again)
  rw [Json.member?_eq found, Table.get?_eq_some_iff] at defined
  obtain ⟨_, _, _, kept⟩ := Traversal.exists_output each defined
  exact kept.isOutlined

end Document

/-- A description is read exactly when its outline is in order, and it is read as what has
everything that is given. In every other case it is refused, for something in it that does not fit.

Proof: reading has an outcome, and each of the two is characterised by itself. What is read keeps
what is given and therefore has its outline in order; what is refused has something that does not
fit and therefore has not. -/
theorem ofJson_keeps_outlined (raw : Json) :
    ((∃ document, Document.ofJson raw = .ok document) ↔ Document.IsOutlined raw) ∧
      (∀ document, Document.ofJson raw = .ok document ↔ Document.Keeps raw document) ∧
      (¬ Document.IsOutlined raw → ∃ problem,
        Document.ofJson raw = .error problem ∧ Document.Misfit raw problem) := by
  have refused {problem : DocumentProblem} (stopped : Document.ofJson raw = .error problem) :
      Document.Misfit raw problem := Document.misfit_of_ofJson_error stopped
  refine ⟨⟨?_, ?_⟩, fun _ => Document.ofJson_ok_iff, ?_⟩
  · rintro ⟨document, read⟩
    exact (Document.ofJson_ok_iff.1 read).isOutlined
  · intro outlined
    cases read : Document.ofJson raw with
    | ok document => exact ⟨document, rfl⟩
    | error problem => exact absurd outlined (refused read).not_isOutlined
  · intro disordered
    cases read : Document.ofJson raw with
    | ok document => exact absurd (Document.ofJson_ok_iff.1 read).isOutlined disordered
    | error problem => exact ⟨problem, rfl, refused read⟩

/-- Null counts as absent for required names, but properties that are null are refused. -/
example : Definition.ofJson "T" (.object [("required", .null)]) =
      .ok ⟨.string "", none, none, []⟩ ∧
    Definition.ofJson "T" (.object [("properties", .null)]) =
      .error (.propertiesNotAnObject "T") :=
  ⟨rfl, rfl⟩

end OpenApiTypes
