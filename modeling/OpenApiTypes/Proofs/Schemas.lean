import OpenApiTypes.Shape

/-!
# Schemas and the shapes that they declare

What a schema declares is a relation between schemas and shapes, with one rule for each kind of
shape. A schema is read as a shape exactly when the relation holds. All other schemas are of two
kinds. Most of them are refused with the innermost part that has no shape. The others lead to a part
whose type is an array or an object; such a type cannot be looked up, and reading ends in a fault.
Every schema is of exactly one of these kinds.

A shape is read from the parts of a schema, and these are smaller. So what holds of a schema when it
holds of all its members, holds of all schemas.
-/
namespace OpenApiTypes

namespace Json

/-- The member of an object under a name. Other values have no members. -/
def member? (raw : Json) (name : Text) : Option Json := raw.table?.bind (·.get? name)

/-- Only objects have members. What is found under a name is found in the table of the object. -/
theorem exists_object_of_member {raw part : Json} {name : Text}
    (found : raw.member? name = some part) :
    ∃ members, raw = .object members ∧ (Table.ofList members).get? name = some part := by
  cases raw with
  | object members => exact ⟨members, rfl, found⟩
  | _ => cases found

/-- A member is smaller than its object, so a recursion on members ends. -/
theorem sizeOf_lt_of_member {raw part : Json} {name : Text}
    (found : raw.member? name = some part) : sizeOf part < sizeOf raw := by
  obtain ⟨members, rfl, got⟩ := exists_object_of_member found
  rw [Table.get?_ofList, List.lookup_eq_some_iff] at got
  obtain ⟨before, after, split, _⟩ := got
  have there : (name, part) ∈ members := by
    rw [← List.mem_reverse, split]
    simp
  have smaller := List.sizeOf_lt_of_mem there
  simp only [Prod.mk.sizeOf_spec] at smaller
  simp only [object.sizeOf_spec]
  omega

/-- What holds of a value when it holds of all its members, holds of every value. This is the
induction behind every law about schemas. -/
theorem induction_member {motive : Json → Prop}
    (step : ∀ raw, (∀ name part, raw.member? name = some part → motive part) → motive raw)
    (raw : Json) : motive raw :=
  step raw fun _ part found =>
    have := sizeOf_lt_of_member found
    induction_member step part
termination_by sizeOf raw

end Json

namespace Shape

/-- A schema declares a shape. A reference decides alone; without one the type does, and a list or a
map has the shape of its part. Nothing else in a schema counts. -/
inductive Declared : Json → Shape → Prop
  | reference {raw : Json} {target : Text} (refers : raw.member? "$ref" = some (.string target)) :
      Declared raw (.reference target)
  | scalar {raw : Json} {type : Scalar} (free : raw.member? "$ref" = none)
      (typed : raw.member? "type" = some (.string type.name)) : Declared raw (.scalar type)
  | list {raw part : Json} {items : Shape} (free : raw.member? "$ref" = none)
      (typed : raw.member? "type" = some (.string "array"))
      (found : raw.member? "items" = some part) (inner : Declared part items) :
      Declared raw (.list items)
  | map {raw part : Json} {values : Shape} (free : raw.member? "$ref" = none)
      (typed : raw.member? "type" = some (.string "object"))
      (found : raw.member? "additionalProperties" = some part) (inner : Declared part values) :
      Declared raw (.map values)

/-- A schema is refused. Either something is wrong with it itself, or it is a list or a map and its
part is refused. -/
inductive Refused : Json → ShapeProblem → Prop
  | notAnObject {raw : Json} (other : raw.table? = none) : Refused raw (.unsupported raw)
  | notAReference {raw target : Json} (refers : raw.member? "$ref" = some target)
      (other : target.string? = none) : Refused raw (.unsupportedReference target)
  | untyped {raw : Json} (free : raw.member? "$ref" = none) (other : raw.member? "type" = none) :
      Refused raw (.unsupported raw)
  | unknownType {raw type : Json} (free : raw.member? "$ref" = none)
      (typed : raw.member? "type" = some type) (single : type.isComposite = false)
      (notScalar : ∀ scalar : Scalar, type ≠ .string scalar.name)
      (notList : type ≠ .string "array") (notMap : type ≠ .string "object") :
      Refused raw (.unsupported raw)
  | noItems {raw : Json} (free : raw.member? "$ref" = none)
      (typed : raw.member? "type" = some (.string "array"))
      (missing : raw.member? "items" = none) : Refused raw (.unsupported raw)
  | noValues {raw : Json} (free : raw.member? "$ref" = none)
      (typed : raw.member? "type" = some (.string "object"))
      (missing : raw.member? "additionalProperties" = none) : Refused raw (.unsupported raw)
  | items {raw part : Json} {problem : ShapeProblem} (free : raw.member? "$ref" = none)
      (typed : raw.member? "type" = some (.string "array"))
      (found : raw.member? "items" = some part) (inner : Refused part problem) : Refused raw problem
  | values {raw part : Json} {problem : ShapeProblem} (free : raw.member? "$ref" = none)
      (typed : raw.member? "type" = some (.string "object"))
      (found : raw.member? "additionalProperties" = some part) (inner : Refused part problem) :
      Refused raw problem

/-- A schema leads to a type that is an array or an object: its own, or that of a part that its own
type asks for. A reference on the way hides it. -/
inductive Mistyped : Json → Prop
  | here {raw type : Json} (free : raw.member? "$ref" = none)
      (typed : raw.member? "type" = some type) (composite : type.isComposite = true) : Mistyped raw
  | items {raw part : Json} (free : raw.member? "$ref" = none)
      (typed : raw.member? "type" = some (.string "array"))
      (found : raw.member? "items" = some part) (inner : Mistyped part) : Mistyped raw
  | values {raw part : Json} (free : raw.member? "$ref" = none)
      (typed : raw.member? "type" = some (.string "object"))
      (found : raw.member? "additionalProperties" = some part) (inner : Mistyped part) :
      Mistyped raw

/-- What it takes for a schema to be read with a given outcome: a shape, a refusal, or the one fault
that there is. -/
def Reads (raw : Json) : Except Failure Shape → Prop
  | .ok shape => Declared raw shape
  | .error (.shape problem) => Refused raw problem
  | .error (.fault .compositeType) => Mistyped raw
  | .error _ => False

/-- The parts of a schema are read under their names, each before the schema itself is. -/
theorem get?_partsOf {members : List (Text × Json)} {name : Text} :
    (Table.ofList (partsOf members)).get? name =
      ((Table.ofList members).get? name).map ofJson := by
  have parts : partsOf members = members.map fun entry => (entry.1, ofJson entry.2) := by
    induction members with
    | nil => rfl
    | cons entry rest ih =>
      obtain ⟨first, value⟩ := entry
      rw [partsOf, ih, List.map_cons]
  rw [parts, Table.get?_ofList, Table.get?_ofList, ← List.map_reverse]
  exact Table.lookup_map (f := fun _ => ofJson)

/-- A list or a map is read with the outcome of its part. The three rules for this are handed over
by the caller. -/
theorem Reads.wrap {raw part : Json} {outcome : Except Failure Shape} (read : Reads part outcome)
    {wrap : Shape → Shape} (declared : ∀ shape, Declared part shape → Declared raw (wrap shape))
    (refused : ∀ problem, Refused part problem → Refused raw problem)
    (mistyped : Mistyped part → Mistyped raw) : Reads raw (outcome.map wrap) := by
  cases outcome with
  | ok shape => exact declared shape read
  | error failure =>
    cases failure with
    | shape problem => exact refused problem read
    | fault fault =>
      cases fault with
      | compositeType => exact mistyped read
      | _ => exact read.elim
    | _ => exact read.elim

/-- The name of a scalar is one of the four, and no other. To read a name and to write it undo each
other. -/
theorem ofName?_eq_some_iff {name : Text} {type : Scalar} :
    Scalar.ofName? name = some type ↔ name = type.name := by
  constructor
  · intro known
    unfold Scalar.ofName? at known
    split at known
    all_goals cases known
    all_goals rfl
  · rintro rfl
    cases type <;> rfl

/-- A schema without a reference is read by its type. The cases are the names of types, and a list
or a map asks for the outcome of its part. -/
theorem reads_ofType {members : List (Text × Json)}
    (free : (Json.object members).member? "$ref" = none)
    (parts : ∀ name part, (Json.object members).member? name = some part →
      Reads part (ofJson part)) :
    Reads (.object members) (ofType (.object members) ((Json.object members).member? "type")
      (Table.ofList (partsOf members))) := by
  -- From here on only what is found in the schema counts, not of which members it is made.
  generalize whole : Json.object members = raw at *
  have part (name : Text) : (Table.ofList (partsOf members)).get? name =
      (raw.member? name).map ofJson := by
    rw [get?_partsOf, ← whole]
    rfl
  cases typed : raw.member? "type" with
  | none => exact .untyped free typed
  | some type =>
    unfold ofType
    split
    · rename_i same
      obtain rfl := Option.some.inj same
      rw [part]
      cases found : raw.member? "items" with
      | none => exact .noItems free typed found
      | some inner =>
        exact (parts "items" inner found).wrap (fun _ => .list free typed found)
          (fun _ => .items free typed found) (.items free typed found)
    · rename_i same
      obtain rfl := Option.some.inj same
      rw [part]
      cases found : raw.member? "additionalProperties" with
      | none => exact .noValues free typed found
      | some inner =>
        exact (parts "additionalProperties" inner found).wrap (fun _ => .map free typed found)
          (fun _ => .values free typed found) (.values free typed found)
    · rename_i name notList notMap same
      obtain rfl := Option.some.inj same
      cases known : Scalar.ofName? name with
      | some type =>
        rw [ofName?_eq_some_iff] at known
        exact .scalar free (known ▸ typed)
      | none =>
        refine .unknownType free typed rfl ?_ (fun same => notList (Json.string.inj same))
          (fun same => notMap (Json.string.inj same))
        intro scalar same
        obtain rfl : name = scalar.name := Json.string.inj same
        rw [ofName?_eq_some_iff.2 rfl] at known
        cases known
    · rename_i other notList notMap notText same
      obtain rfl := Option.some.inj same
      cases composite : type.isComposite with
      | true => exact .here free typed composite
      | false =>
        exact .unknownType free typed composite (fun _ => notText _) (notText _) (notText _)
    · rename_i same
      cases same

/-- Every schema is read with the outcome that it should be read with, by induction on its
members. -/
theorem reads_ofJson (raw : Json) : Reads raw (ofJson raw) := by
  induction raw using Json.induction_member with
  | step raw parts =>
    cases raw with
    | object members =>
      change Reads _ (ofMembers (.object members) (Table.ofList members)
        (Table.ofList (partsOf members)))
      unfold ofMembers
      split
      · rename_i target refers
        exact Declared.reference refers
      · rename_i other notText refers
        refine Refused.notAReference refers ?_
        cases other with
        | string text => exact (notText text rfl).elim
        | _ => rfl
      · rename_i free
        exact reads_ofType free parts
    | _ => exact Refused.notAnObject rfl

/-- A schema without a reference whose type is known is read by that type, from parts that are read
as they are by themselves. -/
theorem ofJson_of_typed {raw type : Json} (free : raw.member? "$ref" = none)
    (typed : raw.member? "type" = some type) : ∃ parts : Table Text (Except Failure Shape),
      (∀ name, parts.get? name = (raw.member? name).map ofJson) ∧
        ofJson raw = ofType raw (some type) parts := by
  obtain ⟨members, rfl, found⟩ := Json.exists_object_of_member typed
  refine ⟨Table.ofList (partsOf members), fun name => get?_partsOf, ?_⟩
  have without : (Table.ofList members).get? "$ref" = none := free
  rw [ofJson, ofMembers, without]
  simp only [found]

/-- A list is read as its part is. A list without a part is refused. -/
theorem ofJson_of_list {raw part : Json} (free : raw.member? "$ref" = none)
    (typed : raw.member? "type" = some (.string "array"))
    (found : raw.member? "items" = some part) : ofJson raw = (ofJson part).map list := by
  obtain ⟨parts, own, read⟩ := ofJson_of_typed free typed
  rw [read, ofType, own, found]
  rfl

/-- A map is read as its part is. A map without one is refused, as nothing is known of its
values. -/
theorem ofJson_of_map {raw part : Json} (free : raw.member? "$ref" = none)
    (typed : raw.member? "type" = some (.string "object"))
    (found : raw.member? "additionalProperties" = some part) :
    ofJson raw = (ofJson part).map map := by
  obtain ⟨parts, own, read⟩ := ofJson_of_typed free typed
  rw [read, ofType, own, found]
  rfl

/-- A schema with a reference is read as that reference, or refused for it. -/
theorem ofJson_of_reference {raw target : Json} (refers : raw.member? "$ref" = some target) :
    ofJson raw = match target with
      | .string text => .ok (.reference text)
      | other => .error (.shape (.unsupportedReference other)) := by
  obtain ⟨members, rfl, found⟩ := Json.exists_object_of_member refers
  rw [ofJson, ofMembers, found]
  cases target <;> rfl

/-- A schema is read as a shape exactly when it declares that shape. The rules are sound because
reading follows them, and complete because a schema that declares a shape is read with no other
outcome. -/
theorem ofJson_ok_iff {raw : Json} {shape : Shape} :
    ofJson raw = .ok shape ↔ Declared raw shape := by
  constructor
  · intro read
    have outcome := reads_ofJson raw
    rw [read] at outcome
    exact outcome
  · intro declared
    induction declared with
    | reference refers => exact ofJson_of_reference refers
    | @scalar raw type free typed =>
      obtain ⟨parts, _, read⟩ := ofJson_of_typed free typed
      rw [read]
      cases type <;> rfl
    | list free typed found _ ih => rw [ofJson_of_list free typed found, ih]; rfl
    | map free typed found _ ih => rw [ofJson_of_map free typed found, ih]; rfl

/-- A single datum that is no name of a type is not supported as one. Names that are unknown are of
this kind, and so are numbers and null. -/
theorem ofType_of_unknown {raw type : Json} {parts : Table Text (Except Failure Shape)}
    (single : type.isComposite = false) (notScalar : ∀ scalar : Scalar, type ≠ .string scalar.name)
    (notList : type ≠ .string "array") (notMap : type ≠ .string "object") :
    ofType raw (some type) parts = .error (.shape (.unsupported raw)) := by
  cases type with
  | string name =>
    have unknown : Scalar.ofName? name = none := by
      refine Option.eq_none_iff_forall_ne_some.2 fun scalar known => ?_
      exact notScalar scalar (congrArg Json.string (ofName?_eq_some_iff.1 known))
    have otherThanList : name ≠ "array" := fun same => notList (congrArg Json.string same)
    have otherThanMap : name ≠ "object" := fun same => notMap (congrArg Json.string same)
    simp only [ofType, unknown]
  | array items => cases single
  | object members => cases single
  | _ => rfl

/-- A schema is refused for a reason exactly when the rules give that reason. -/
theorem ofJson_shape_iff {raw : Json} {problem : ShapeProblem} :
    ofJson raw = .error (.shape problem) ↔ Refused raw problem := by
  constructor
  · intro read
    have outcome := reads_ofJson raw
    rw [read] at outcome
    exact outcome
  · intro refused
    induction refused with
    | @notAnObject raw other =>
      cases raw with
      | object members => cases other
      | _ => rfl
    | @notAReference raw target refers other =>
      rw [ofJson_of_reference refers]
      cases target with
      | string text => cases other
      | _ => rfl
    | @untyped raw free other =>
      cases raw with
      | object members =>
        have without : (Table.ofList members).get? "$ref" = none := free
        have untyped : (Table.ofList members).get? "type" = none := other
        rw [ofJson, ofMembers, without]
        simp only [untyped, ofType]
      | _ => rfl
    | unknownType free typed single notScalar notList notMap =>
      obtain ⟨parts, _, read⟩ := ofJson_of_typed free typed
      rw [read, ofType_of_unknown single notScalar notList notMap]
    | noItems free typed missing =>
      obtain ⟨parts, own, read⟩ := ofJson_of_typed free typed
      rw [read, ofType, own, missing]
      rfl
    | noValues free typed missing =>
      obtain ⟨parts, own, read⟩ := ofJson_of_typed free typed
      rw [read, ofType, own, missing]
      rfl
    | items free typed found _ ih => rw [ofJson_of_list free typed found, ih]; rfl
    | values free typed found _ ih => rw [ofJson_of_map free typed found, ih]; rfl

/-- Reading a schema ends in a fault exactly when the schema leads to a type that is an array or an
object. -/
theorem ofJson_fault_iff {raw : Json} {fault : Fault} :
    ofJson raw = .error (.fault fault) ↔ fault = .compositeType ∧ Mistyped raw := by
  constructor
  · intro read
    have outcome := reads_ofJson raw
    rw [read] at outcome
    cases fault with
    | compositeType => exact ⟨rfl, outcome⟩
    | _ => exact outcome.elim
  · rintro ⟨rfl, mistyped⟩
    induction mistyped with
    | @here raw type free typed composite =>
      obtain ⟨parts, _, read⟩ := ofJson_of_typed free typed
      rw [read]
      cases type with
      | array items => rfl
      | object members => rfl
      | _ => cases composite
    | items free typed found _ ih => rw [ofJson_of_list free typed found, ih]; rfl
    | values free typed found _ ih => rw [ofJson_of_map free typed found, ih]; rfl

/-- Every schema declares a shape, is refused, or leads to a type that is an array or an object, and
reading it ends accordingly. The three exclude each other, since reading has one outcome. -/
theorem ofJson_cases (raw : Json) :
    (∃ shape, Declared raw shape ∧ ofJson raw = .ok shape) ∨
      (∃ problem, Refused raw problem ∧ ofJson raw = .error (.shape problem)) ∨
      Mistyped raw ∧ ofJson raw = .error (.fault .compositeType) := by
  have outcome := reads_ofJson raw
  cases read : ofJson raw with
  | ok shape => exact .inl ⟨shape, ofJson_ok_iff.1 read, rfl⟩
  | error failure =>
    rw [read] at outcome
    cases failure with
    | shape problem => exact .inr (.inl ⟨problem, outcome, rfl⟩)
    | fault fault =>
      cases fault with
      | compositeType => exact .inr (.inr ⟨outcome, rfl⟩)
      | _ => exact outcome.elim
    | _ => exact outcome.elim

end Shape

end OpenApiTypes
