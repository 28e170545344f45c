import OpenApiTypes.Proofs.Outline
import OpenApiTypes.Settings

/-!
# What a configuration says is what is taken over

A configuration fits when it is an object with known names only, under which there are tables of
texts and texts as the names require. Settings are read from exactly these. A setting that the
configuration gives is then what is given, a table with its entries in their order, and every other
one is what it was before. In which order the settings are given makes no difference.

The settings are replaced one after the other. Since no name occurs twice, a setting that was
replaced stays as it is from then on.
-/
namespace OpenApiTypes

open Traversal (bind_ok_iff bind_error_iff map_ok_iff failure?_map failure?_eq_some_iff
  table_mapM_ok_iff exists_of_table_mapM_error)

namespace Json

variable {raw : Json}

/-- A value that is a text. -/
def IsText (raw : Json) : Prop := ∃ text, raw = string text

/-- A value that is an object of texts. The empty object is one. -/
def IsTextTable (raw : Json) : Prop :=
  raw.IsObject ∧ ∀ name value, raw.member? name = some value → value.IsText

/-- A value means a text when it is that text. -/
def MeansText (raw : Json) (text : Text) : Prop := raw = string text

/-- A value means a table when it is an object of the same texts under the same names, in the same
order. -/
def MeansTable (raw : Json) (table : Table Text Text) : Prop :=
  ∃ members, raw.table? = some members ∧ List.Forall₂ (fun member entry =>
    entry.1 = member.1 ∧ member.2.MeansText entry.2) members.entries table.entries

/-- A value is taken for a text exactly when it means that text. Numbers and truth values mean
none. -/
theorem string?_eq_some_iff {text : Text} : raw.string? = some text ↔ raw.MeansText text := by
  cases raw <;> simp [string?, MeansText]

/-- A value that is no text is not taken for one. This is the only check that a text has to pass. -/
theorem string?_eq_none_iff : raw.string? = none ↔ ¬ raw.IsText := by
  cases raw <;> simp [string?, IsText]

/-- What means a table of texts is a table of texts. The converse takes a table to be made of it. -/
theorem MeansTable.isTextTable {table : Table Text Text} (means : raw.MeansTable table) :
    raw.IsTextTable := by
  obtain ⟨members, found, each⟩ := means
  refine ⟨isObject_iff.2 ⟨members, found⟩, fun name value given => ?_⟩
  rw [member?_eq found, Table.get?_eq_some_iff] at given
  obtain ⟨entry, _, _, same⟩ := Traversal.exists_output each given
  exact ⟨entry.2, same⟩

end Json

namespace Settings

variable {raw : Json} {name : Text} {problem : SettingsProblem} {before between after : Settings}

/-- The names under which a configuration gives tables. Under these an object of texts has to
stand. -/
def tableNames : List Text := ["simplifications", "elided_types", "scalar_types"]

/-- The names under which a configuration gives texts. Nothing that could be read as a text stands
for one. -/
def textNames : List Text := ["ref_prefix", "file_extension"]

/-- A configuration that settings can be read from: an object that gives known names only, and under
each of them what belongs there. -/
structure IsFit (raw : Json) : Prop where
  object : raw.IsObject
  known : ∀ name value, raw.member? name = some value → name ∈ tableNames ++ textNames
  tables : ∀ name ∈ tableNames, ∀ value, raw.member? name = some value → value.IsTextTable
  texts : ∀ name ∈ textNames, ∀ value, raw.member? name = some value → value.IsText

/-- Something in a configuration does not fit: it is no object, or has unknown names, which are told
in their order, or something of the wrong kind under a known one. -/
inductive Misfit (raw : Json) : SettingsProblem → Prop
  | object (other : ¬ raw.IsObject) : Misfit raw .notAnObject
  | unknown {unknown : List Text} (some : unknown ≠ []) (ordered : unknown.Pairwise (· < ·))
      (exact : ∀ name, name ∈ unknown ↔
        name ∉ tableNames ++ textNames ∧ ∃ value, raw.member? name = .some value) :
      Misfit raw (.unknownNames unknown)
  | table {name : Text} {value : Json} (isTable : name ∈ tableNames)
      (given : raw.member? name = some value) (other : ¬ value.IsTextTable) :
      Misfit raw (.tableNotText name)
  | text {name : Text} {value : Json} (isText : name ∈ textNames)
      (given : raw.member? name = some value) (other : ¬ value.IsText) :
      Misfit raw (.valueNotText name)

/-- A setting becomes what is given for it, or stays where nothing is. What was there before does
not matter where something is given. -/
def Becomes {α : Type} (means : Json → α → Prop) (given : Option Json) (before after : α) : Prop :=
  match given with
  | some raw => means raw after
  | none => after = before

/-- Settings become what is given under their names, and stay where nothing is given. -/
structure Takes (given : Text → Option Json) (before after : Settings) : Prop where
  simplifications : Becomes Json.MeansTable (given "simplifications")
    before.simplifications after.simplifications
  elided : Becomes Json.MeansTable (given "elided_types") before.elided after.elided
  aliases : Becomes Json.MeansTable (given "scalar_types") before.aliases after.aliases
  referenceStart : Becomes Json.MeansText (given "ref_prefix")
    before.referenceStart after.referenceStart
  fileExtension : Becomes Json.MeansText (given "file_extension")
    before.fileExtension after.fileExtension

/-- What does not fit keeps a configuration from being fit. So nothing is refused that fits. -/
theorem Misfit.not_isFit (misfit : Misfit raw problem) : ¬ IsFit raw := by
  intro fit
  cases misfit with
  | object other => exact other fit.object
  | unknown some _ exact =>
    obtain ⟨name, others, rfl⟩ := List.exists_cons_of_ne_nil some
    obtain ⟨strange, value, given⟩ := (exact name).1 List.mem_cons_self
    exact strange (fit.known name value given)
  | table isTable given other => exact other (fit.tables _ isTable _ given)
  | text isText given other => exact other (fit.texts _ isText _ given)

/-- A table of texts is read as what the value means, with its entries in their order. -/
theorem readTable_ok_iff {table : Table Text Text} :
    readTable name raw = .ok table ↔ raw.MeansTable table := by
  unfold readTable Json.MeansTable
  cases raw.table? with
  | none => simp
  | some members =>
    simp only [table_mapM_ok_iff, Option.some.injEq, exists_eq_left']
    refine ⟨fun each => each.imp ?_, fun each => each.imp ?_⟩
    · rintro ⟨_, value⟩ ⟨_, text⟩ ⟨same, read⟩
      refine ⟨same, Json.string?_eq_some_iff.1 ?_⟩
      cases found : value.string? with
      | none =>
        simp only [found] at read
        cases read
      | some held =>
        simp only [found] at read
        exact congrArg some (Except.ok.inj read)
    · rintro ⟨_, value⟩ ⟨_, text⟩ ⟨same, means⟩
      refine ⟨same, ?_⟩
      simp only [Json.string?_eq_some_iff.2 means]

/-- What is refused as a table of texts is none, and the refusal names the setting. -/
theorem readTable_error (refused : readTable name raw = .error problem) :
    problem = .tableNotText name ∧ ¬ raw.IsTextTable := by
  unfold readTable at refused
  cases found : raw.table? with
  | none =>
    rw [found] at refused
    exact ⟨(Except.error.inj refused).symm, fun fit => Json.table?_eq_none_iff.1 found fit.1⟩
  | some members =>
    rw [found] at refused
    obtain ⟨⟨key, value⟩, there, failed⟩ := exists_of_table_mapM_error refused
    cases text : value.string? with
    | some _ =>
      simp only [text] at failed
      cases failed
    | none =>
      simp only [text] at failed
      refine ⟨(Except.error.inj failed).symm, fun fit => ?_⟩
      have given : raw.member? key = some value := by
        rw [Json.member?_eq found, Table.get?_eq_some_iff]
        exact there
      exact Json.string?_eq_none_iff.1 text (fit.2 key value given)

/-- A text is read as what the value means. The name under which it stands is for the report
alone. -/
theorem readText_ok_iff {text : Text} : readText name raw = .ok text ↔ raw.MeansText text := by
  rw [← Json.string?_eq_some_iff, readText]
  cases raw.string? <;> simp

/-- What is refused as a text is none, and the refusal names the setting. -/
theorem readText_error (refused : readText name raw = .error problem) :
    problem = .valueNotText name ∧ ¬ raw.IsText := by
  unfold readText at refused
  cases text : raw.string? with
  | some _ =>
    rw [text] at refused
    cases refused
  | none =>
    rw [text] at refused
    exact ⟨(Except.error.inj refused).symm, Json.string?_eq_none_iff.1 text⟩

/-- One replacement takes over what is given under its name, and it knows the name. All other
settings stay. The cases are the five names. -/
theorem replace_ok (done : before.replace name raw = .ok after) :
    name ∈ tableNames ++ textNames ∧
      Takes (fun other => if other = name then some raw else none) before after := by
  unfold replace at done
  split at done
  case h_1 | h_2 | h_3 =>
    obtain ⟨table, read, same⟩ := bind_ok_iff.1 done
    obtain rfl := Except.ok.inj same
    refine ⟨by decide, ?_⟩
    constructor <;> simp [Becomes, readTable_ok_iff.1 read]
  case h_4 | h_5 =>
    obtain ⟨text, read, same⟩ := bind_ok_iff.1 done
    obtain rfl := Except.ok.inj same
    refine ⟨by decide, ?_⟩
    constructor <;> simp [Becomes, readText_ok_iff.1 read]
  case h_6 => cases done

/-- One replacement fails for a value of the wrong kind, or for its name. The cases are the five
names and every other one. -/
theorem replace_error (refused : before.replace name raw = .error problem) :
    (name ∈ tableNames ∧ ¬ raw.IsTextTable ∧ problem = .tableNotText name) ∨
      (name ∈ textNames ∧ ¬ raw.IsText ∧ problem = .valueNotText name) ∨
      name ∉ tableNames ++ textNames := by
  unfold replace at refused
  split at refused
  case h_1 | h_2 | h_3 =>
    rcases bind_error_iff.1 refused with unread | ⟨_, _, done⟩
    · obtain ⟨rfl, other⟩ := readTable_error unread
      exact .inl ⟨by decide, other, rfl⟩
    · cases done
  case h_4 | h_5 =>
    rcases bind_error_iff.1 refused with unread | ⟨_, _, done⟩
    · obtain ⟨rfl, other⟩ := readText_error unread
      exact .inr (.inl ⟨by decide, other, rfl⟩)
    · cases done
  case h_6 => exact .inr (.inr (by simp_all [tableNames, textNames]))

/-- What a setting becomes is given by the later one of two replacements that is about it. -/
theorem Becomes.then {α : Type} {means : Json → α → Prop} {given : Option Json}
    {before between after : α} {other : Text} (fresh : other = name → given = none)
    (first : Becomes means (if other = name then some raw else none) before between)
    (later : Becomes means given between after) :
    Becomes means (if other = name then some raw else given) before after := by
  by_cases here : other = name
  · rw [fresh here] at later
    obtain rfl : after = between := later
    rw [if_pos here] at first ⊢
    exact first
  · rw [if_neg here] at first ⊢
    obtain rfl : between = before := first
    exact later

/-- To take over a value under a new name first and others later is to take over all of them. The
name must not come again, or the later value would count. -/
theorem Takes.then {given : Text → Option Json} (fresh : given name = none)
    (first : Takes (fun other => if other = name then some raw else none) before between)
    (later : Takes given between after) :
    Takes (fun other => if other = name then some raw else given other) before after where
  simplifications := first.simplifications.then (fun same => same ▸ fresh) later.simplifications
  elided := first.elided.then (fun same => same ▸ fresh) later.elided
  aliases := first.aliases.then (fun same => same ▸ fresh) later.aliases
  referenceStart := first.referenceStart.then (fun same => same ▸ fresh) later.referenceStart
  fileExtension := first.fileExtension.then (fun same => same ▸ fresh) later.fileExtension

/-- All replacements together take over what is given under distinct names, and they know the names.

Proof: induction over the entries. The first replacement is about another name than all later ones,
so what it has taken over stays. -/
theorem replacements_ok {entries : List (Text × Json)}
    (distinct : (entries.map Prod.fst).Nodup)
    (done : entries.foldlM (fun settings entry => settings.replace entry.1 entry.2) before =
      .ok after) :
    (∀ name ∈ entries.map Prod.fst, name ∈ tableNames ++ textNames) ∧
      Takes (fun name => entries.lookup name) before after := by
  induction entries generalizing before with
  | nil =>
    obtain rfl := Except.ok.inj done
    refine ⟨fun _ none => (List.not_mem_nil none).elim, ?_⟩
    constructor <;> rfl
  | cons entry others ih =>
    rw [List.map_cons, List.nodup_cons] at distinct
    rw [List.foldlM_cons] at done
    obtain ⟨between, first, later⟩ := bind_ok_iff.1 done
    obtain ⟨known, taken⟩ := replace_ok first
    obtain ⟨othersKnown, othersTaken⟩ := ih distinct.2 later
    refine ⟨List.forall_mem_cons.2 ⟨known, othersKnown⟩, ?_⟩
    have fresh : others.lookup entry.1 = none := by
      rw [← Option.not_isSome_iff_eq_none, List.lookup_isSome_iff]
      rintro ⟨other, there, same⟩
      exact distinct.1 (List.mem_map.2 ⟨other, there, (eq_of_beq same).symm⟩)
    have whole : (fun name => (entry :: others).lookup name) =
        fun name => if name = entry.1 then some entry.2 else others.lookup name := by
      funext name
      rw [List.lookup_cons]
      by_cases here : name = entry.1
      · simp [here]
      · rw [beq_false_of_ne here, if_neg here]
    rw [whole]
    exact taken.then fresh othersTaken

/-- If the replacements fail then one of them does, for the settings that the earlier ones have
made. -/
theorem replacements_error {entries : List (Text × Json)}
    (refused : entries.foldlM (fun settings entry => settings.replace entry.1 entry.2) before =
      .error problem) :
    ∃ entry ∈ entries, ∃ between : Settings, between.replace entry.1 entry.2 = .error problem := by
  induction entries generalizing before with
  | nil => cases refused
  | cons entry others ih =>
    rw [List.foldlM_cons] at refused
    rcases bind_error_iff.1 refused with failed | ⟨between, _, later⟩
    · exact ⟨entry, List.mem_cons_self, before, failed⟩
    · obtain ⟨found, there, failed⟩ := ih later
      exact ⟨found, List.mem_cons_of_mem entry there, failed⟩

/-- What a table or a text can be taken from is of the right kind, so a configuration that is taken
over is fit, as long as its names are known. -/
theorem Takes.isFit (object : raw.IsObject)
    (known : ∀ name value, raw.member? name = some value → name ∈ tableNames ++ textNames)
    (taken : Takes raw.member? before after) : IsFit raw where
  object := object
  known := known
  tables name isTable value given := by
    have tables := And.intro taken.simplifications (And.intro taken.elided taken.aliases)
    simp only [tableNames, List.mem_cons, List.not_mem_nil, or_false] at isTable
    rcases isTable with rfl | rfl | rfl
    · rw [given] at tables
      exact tables.1.isTextTable
    · rw [given] at tables
      exact tables.2.1.isTextTable
    · rw [given] at tables
      exact tables.2.2.isTextTable
  texts name isText value given := by
    have texts := And.intro taken.referenceStart taken.fileExtension
    simp only [textNames, List.mem_cons, List.not_mem_nil, or_false] at isText
    rcases isText with rfl | rfl
    · rw [given] at texts
      exact ⟨_, texts.1⟩
    · rw [given] at texts
      exact ⟨_, texts.2⟩

/-- What a setting becomes is determined by what is given and what it was, if what is given
determines what it means. -/
theorem Becomes.unique {α : Type} {means : Json → α → Prop} {given : Option Json}
    {before after other : α}
    (determined : ∀ raw value other, means raw value → means raw other → value = other)
    (first : Becomes means given before after) (second : Becomes means given before other) :
    after = other := by
  cases given with
  | none => exact Eq.trans first (Eq.symm second)
  | some raw => exact determined raw _ _ first second

/-- What settings become is determined by what is given and what they were. So a law that describes
them leaves no room for others. -/
theorem Takes.unique {given : Text → Option Json} {other : Settings}
    (first : Takes given before after) (second : Takes given before other) : after = other := by
  have table (raw : Json) (value other : Table Text Text) (means : raw.MeansTable value)
      (meansOther : raw.MeansTable other) : value = other := by
    have read : readTable "" raw = .ok value := readTable_ok_iff.2 means
    have readOther : readTable "" raw = .ok other := readTable_ok_iff.2 meansOther
    exact Except.ok.inj (read.symm.trans readOther)
  have text (raw : Json) (value other : Text) (means : raw.MeansText value)
      (meansOther : raw.MeansText other) : value = other :=
    Json.string.inj (means.symm.trans meansOther)
  cases after
  cases other
  obtain rfl := first.simplifications.unique table second.simplifications
  obtain rfl := first.elided.unique table second.elided
  obtain rfl := first.aliases.unique table second.aliases
  obtain rfl := first.referenceStart.unique text second.referenceStart
  obtain rfl := first.fileExtension.unique text second.fileExtension
  rfl

/-- An object is read in two steps: unknown names are refused first, and then the settings are
replaced one after the other. -/
theorem ofJson_eq {members : Table Text Json} (found : raw.table? = some members) :
    ofJson raw =
      let unknown := NameSet.ofList (members.keys.filter fun name => !names.contains name)
      if unknown.names = [] then
        (default.replaceAll members).map fun settings => (settings, NameSet.ofList members.keys)
      else .error (.unknownNames unknown.names) := by
  simp only [ofJson, found]
  split
  · rfl
  · next none =>
    rw [if_pos (not_not.1 none)]
    cases default.replaceAll members <;> rfl

/-- Settings that are read take over what the configuration gives, which is fit. -/
theorem takes_of_ofJson_ok {settings : Settings} {given : NameSet}
    (read : ofJson raw = .ok (settings, given)) :
    IsFit raw ∧ Takes raw.member? default settings := by
  cases found : raw.table? with
  | none =>
    rw [ofJson, found] at read
    cases read
  | some members =>
    rw [ofJson_eq found] at read
    dsimp only at read
    split at read
    · obtain ⟨_, done, same⟩ := map_ok_iff.1 read
      obtain ⟨rfl, _⟩ := Prod.mk.inj same
      obtain ⟨known, taken⟩ := replacements_ok members.distinct done
      have same : raw.member? = fun name => members.entries.lookup name :=
        funext fun name => Json.member?_eq found name
      rw [← same] at taken
      refine ⟨taken.isFit (Json.isObject_iff.2 ⟨members, found⟩) fun name value there => ?_, taken⟩
      rw [Json.member?_eq found, Table.get?_eq_some_iff] at there
      exact known name (List.mem_map_of_mem there)
    · cases read

/-- A configuration that is refused has something that does not fit, and the refusal is about
that. -/
theorem misfit_of_ofJson_error (refused : ofJson raw = .error problem) : Misfit raw problem := by
  cases found : raw.table? with
  | none =>
    rw [ofJson, found] at refused
    obtain rfl := Except.error.inj refused
    exact .object (Json.table?_eq_none_iff.1 found)
  | some members =>
    have given (name : Text) : name ∈ members.keys ↔ ∃ value, raw.member? name = some value := by
      rw [Json.member?_eq found, ← Table.isSome_get?, Option.isSome_iff_exists]
    have exact (name : Text) :
        name ∈ (NameSet.ofList (members.keys.filter fun name => !names.contains name)).names ↔
          name ∉ tableNames ++ textNames ∧ ∃ value, raw.member? name = some value := by
      rw [NameSet.mem_ofList, List.mem_filter, given, and_comm]
      simp [names, tableNames, textNames]
    rw [ofJson_eq found] at refused
    dsimp only at refused
    split at refused
    · next none =>
      have known (name : Text) (there : ∃ value, raw.member? name = some value) :
          name ∈ tableNames ++ textNames := by
        by_contra unknown
        have stranger := (exact name).2 ⟨unknown, there⟩
        rw [none] at stranger
        cases stranger
      rw [← failure?_eq_some_iff, failure?_map, failure?_eq_some_iff] at refused
      obtain ⟨entry, there, between, failed⟩ := replacements_error refused
      have member : raw.member? entry.1 = some entry.2 := by
        rw [Json.member?_eq found, Table.get?_eq_some_iff]
        exact there
      rcases replace_error failed with ⟨isTable, other, rfl⟩ | ⟨isText, other, rfl⟩ | unknown
      · exact .table isTable member other
      · exact .text isText member other
      · exact absurd (known _ ⟨_, member⟩) unknown
    · next some =>
      obtain rfl := Except.error.inj refused
      exact .unknown some (NameSet.increasing _) exact

/-- Settings are read from a configuration that fits, and they take over what it gives. No other
settings do, as they are determined by that. -/
theorem ofJson_ok_iff {settings : Settings} : (ofJson raw).map Prod.fst = .ok settings ↔
    IsFit raw ∧ Takes raw.member? default settings := by
  constructor
  · intro read
    obtain ⟨⟨_, given⟩, made, rfl⟩ := map_ok_iff.1 read
    exact takes_of_ofJson_ok made
  · rintro ⟨fit, takes⟩
    cases read : ofJson raw with
    | error problem => exact absurd fit (misfit_of_ofJson_error read).not_isFit
    | ok made =>
      obtain ⟨_, taken⟩ := takes_of_ofJson_ok read
      exact congrArg Except.ok (taken.unique takes)

end Settings

end OpenApiTypes
