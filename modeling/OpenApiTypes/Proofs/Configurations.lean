import OpenApiTypes.Proofs.Overrides
import OpenApiTypes.Proofs.Rereading
import OpenApiTypes.Proofs.Sources

/-!
# Configurations in files

Between the bytes of a configuration and its settings stand the decoding of a text and the reading
of JSON. Where both come out well, the configuration alone decides: it is refused because it does
not fit, or its settings are taken over. So settings that are written to a file, all of them and in
any order, come back as they were, up to the composition of surrogates: a pair of surrogates in a
text comes back as the character that it encodes.
-/
namespace OpenApiTypes

namespace Settings

variable {settings before : Settings} {order : List (Text × Json)} {table : Table Text Text}

/-- A table of texts as an object of texts, with its entries in their order. -/
def tableJson (table : Table Text Text) : Json :=
  .object (table.entries.map fun entry => (entry.1, .string entry.2))

/-- What a configuration gives that says all of the settings, under every name that there is. -/
def members (settings : Settings) : List (Text × Json) :=
  [("simplifications", tableJson settings.simplifications),
    ("elided_types", tableJson settings.elided),
    ("scalar_types", tableJson settings.aliases),
    ("ref_prefix", .string settings.referenceStart),
    ("file_extension", .string settings.fileExtension)]

/-- The members of a written table have distinct names, since the names in a table are distinct. -/
theorem distinct_tableJson :
    ((table.entries.map fun entry => (entry.1, Json.string entry.2)).map Prod.fst).Nodup := by
  simpa [Function.comp_def] using table.distinct

/-- A written table means the table that was written, entry for entry. -/
theorem meansTable_tableJson : (tableJson table).MeansTable table := by
  refine ⟨.ofList _, rfl, ?_⟩
  rw [Table.entries_ofList distinct_tableJson, List.forall₂_map_left_iff, List.forall₂_same]
  exact fun entry _ => ⟨rfl, rfl⟩

/-- In whatever order all of some settings are given, no name comes twice. -/
theorem distinct_members (perm : order.Perm settings.members) : (order.map Prod.fst).Nodup := by
  have names : (settings.members.map Prod.fst).Nodup := by
    change (["simplifications", "elided_types", "scalar_types", "ref_prefix", "file_extension"] :
      List Text).Nodup
    decide
  exact (perm.map Prod.fst).nodup_iff.2 names

/-- In any order the members are found under their names. All that this needs is that no name occurs
twice. -/
theorem member?_eq_some_iff (perm : order.Perm settings.members) {name : Text} {value : Json} :
    (Json.object order).member? name = some value ↔ (name, value) ∈ settings.members := by
  rw [Json.member?_eq rfl, Table.get?_eq_some_iff, Table.entries_ofList (distinct_members perm)]
  exact perm.mem_iff

/-- A configuration that says all of some settings gives these, whatever there was before: each of
the five names is found in it, with the value that this setting was written as. -/
theorem takes_members (perm : order.Perm settings.members) :
    Takes (Json.object order).member? before settings := by
  have given {name : Text} {value : Json} (there : (name, value) ∈ settings.members) :
      (Json.object order).member? name = some value := (member?_eq_some_iff perm).2 there
  constructor
  · rw [given (.head _)]
    exact meansTable_tableJson
  · rw [given (.tail _ (.head _))]
    exact meansTable_tableJson
  · rw [given (.tail _ (.tail _ (.head _)))]
    exact meansTable_tableJson
  · rw [given (.tail _ (.tail _ (.tail _ (.head _))))]
    rfl
  · rw [given (.tail _ (.tail _ (.tail _ (.tail _ (.head _)))))]
    rfl

/-- Such a configuration fits. Its names are the five names of settings, and each of its values is
of the kind that its name asks for. -/
theorem isFit_members (perm : order.Perm settings.members) : IsFit (.object order) := by
  have takes : Takes (Json.object order).member? default settings := takes_members perm
  refine takes.isFit ⟨order, rfl⟩ fun name value given => ?_
  have listed : name ∈ settings.members.map Prod.fst :=
    List.mem_map_of_mem ((member?_eq_some_iff perm).1 given)
  exact listed

/-- A table with its names and texts in composed form. Where entries come to have one name the last
of them counts, at the place of the first. -/
def composedTable (table : Table Text Text) : Table Text Text :=
  .ofList (table.entries.map fun entry => (entry.1.composed, entry.2.composed))

/-- The settings with all of their texts in composed form, the keys of tables included. Keys that
have one composed form are one key then. -/
def composed (settings : Settings) : Settings where
  simplifications := composedTable settings.simplifications
  elided := composedTable settings.elided
  aliases := composedTable settings.aliases
  referenceStart := settings.referenceStart.composed
  fileExtension := settings.fileExtension.composed

/-- Settings in all of whose texts no high surrogate has a low one directly behind it. -/
structure IsComposed (settings : Settings) : Prop where
  tables : ∀ table ∈ [settings.simplifications, settings.elided, settings.aliases],
    ∀ entry ∈ table.entries, entry.1.IsComposed ∧ entry.2.IsComposed
  texts : settings.referenceStart.IsComposed ∧ settings.fileExtension.IsComposed

instance (settings : Settings) : Decidable settings.IsComposed :=
  decidable_of_iff ((∀ table ∈ [settings.simplifications, settings.elided, settings.aliases],
      ∀ entry ∈ table.entries, entry.1.IsComposed ∧ entry.2.IsComposed) ∧
    settings.referenceStart.IsComposed ∧ settings.fileExtension.IsComposed)
    ⟨fun ⟨tables, texts⟩ => ⟨tables, texts⟩, fun apart => ⟨apart.tables, apart.texts⟩⟩

/-- Settings without pairs of surrogates are their own composed form. No two names of a table come
to be one name then, so the tables keep all of their entries. -/
theorem IsComposed.composed_eq (apart : settings.IsComposed) : settings.composed = settings := by
  have kept {table : Table Text Text}
      (there : table ∈ [settings.simplifications, settings.elided, settings.aliases]) :
      composedTable table = table := by
    have each : table.entries.map (fun entry => (entry.1.composed, entry.2.composed)) =
        table.entries := by
      refine (List.map_congr_left fun entry inside => ?_).trans (List.map_id _)
      obtain ⟨name, text⟩ := apart.tables table there entry inside
      rw [name.composed_eq, text.composed_eq, id]
    refine Table.eq_of_entries ?_
    rw [composedTable, each, Table.entries_ofList table.distinct]
  rw [composed, kept (.head _), kept (.tail _ (.head _)), kept (.tail _ (.tail _ (.head _))),
    apart.texts.1.composed_eq, apart.texts.2.composed_eq]

/-- A table in composed form is written as the table of the composed form, and entries that come to
have one name are dealt with in the same way on both sides. -/
theorem composed_tableJson : (tableJson table).composed = tableJson (composedTable table) := by
  have pairs : (table.entries.map fun entry => (entry.1, Json.string entry.2)).map
        Json.composedMember =
      (table.entries.map fun entry => (entry.1.composed, entry.2.composed)).map
        fun entry => (entry.1, Json.string entry.2) := by
    simp [Json.composedMember, Json.composed, Function.comp_def]
  rw [tableJson, Json.composed, Json.composedMembers_eq_map, pairs, Table.ofList_map]
  rfl

/-- What settings give comes back as what their composed form gives. The five names have no
surrogates, so only the values change. -/
theorem map_composedMember_members :
    settings.members.map Json.composedMember = settings.composed.members := by
  simp [members, Json.composedMember, composed_tableJson, Json.composed, composed]

/-- A text that is written for all of the settings denotes what gives the composed form of them, in
the same order. No more than two objects are open at once, far from the limit of a reader. -/
theorem parse_members (perm : order.Perm settings.members) :
    Json.parse (Json.object order).literal = .ok (.object (order.map Json.composedMember)) := by
  have table (table : Table Text Text) : Json.Reads 1 (tableJson table) := by
    refine Json.reads_object fun member there => ?_
    obtain ⟨entry, _, rfl⟩ := List.mem_map.1 there
    exact Json.reads_string entry.2
  have text (text : Text) : Json.Reads 1 (.string text) :=
    (Json.reads_string text).mono (by decide)
  have each : ∀ member ∈ order, Json.Reads 1 member.2 := by
    intro member there
    have listed := perm.mem_iff.1 there
    simp only [members, List.mem_cons, List.not_mem_nil, or_false] at listed
    rcases listed with rfl | rfl | rfl | rfl | rfl
    · exact table _
    · exact table _
    · exact table _
    · exact text _
    · exact text _
  have composed : (order.map Json.composedMember).Perm settings.composed.members :=
    map_composedMember_members ▸ perm.map Json.composedMember
  rw [Json.parse_literal_object each (by decide), Json.composed, Json.composedMembers_eq_map,
    Table.entries_ofList (distinct_members composed)]

end Settings

variable {files : FileSystem} {path : Path} {raw : Json}

/-- A file holds a value when it is a text that denotes the value. What else may denote the value
makes no difference. -/
structure HoldsJson (files : FileSystem) (path : Path) (raw : Json) : Prop where
  nameable : path.isNameable = true
  denoted : ∃ bytes text, files.read path = .ok bytes ∧ String.fromUTF8? bytes = some text ∧
    Json.parse text = .ok raw

/-- Of a file that holds a value only the value counts: neither how the text says it nor how its
lines end. -/
theorem readSettings_of_holds (holds : HoldsJson files path raw) :
    readSettings files (some path) =
      ((Settings.ofJson raw).mapError (Failure.settings path)).map Prod.fst := by
  obtain ⟨bytes, text, read, decoded, parsed⟩ := holds.denoted
  have unified : Json.parse (String.ofList (Text.unifyNewlines text.toList)) = .ok raw := by
    rcases Json.parse_unifyNewlines_cases text with ⟨value, here, there⟩ |
      ⟨_, _, _, _, malformed⟩ | ⟨_, _, excess⟩
    · rw [here, ← there, parsed]
    · cases malformed.symm.trans parsed
    · cases excess.symm.trans parsed
  rw [readSettings, readConfiguration_eq, configurationExists_of_read holds.nameable read]
  change ((readJson files path _ _ >>= _) : Except Failure (Settings × NameSet)).map _ = _
  rw [readJson_of_decoded read decoded, unified]
  rfl

/-- The settings in a file are those that take over what it gives. The file is read only after it is
known to be there. -/
theorem readSettings_ok_iff (holds : HoldsJson files path raw) {settings : Settings} :
    readSettings files (some path) = .ok settings ↔
      Settings.IsFit raw ∧ Settings.Takes raw.member? .default settings := by
  rw [readSettings_of_holds holds, ← Settings.ofJson_ok_iff]
  cases Settings.ofJson raw with
  | ok made => simp [Except.map, Except.mapError]
  | error problem => exact ⟨nofun, nofun⟩

/-- A configuration in a file that is refused has something that does not fit. What is reported is
true of the configuration. -/
theorem misfit_of_readSettings_error {failure : Failure} (holds : HoldsJson files path raw)
    (refused : readSettings files (some path) = .error failure) :
    ∃ problem, failure = .settings path problem ∧ Settings.Misfit raw problem := by
  rw [readSettings_of_holds holds] at refused
  cases read : Settings.ofJson raw with
  | ok made =>
    rw [read] at refused
    cases refused
  | error problem =>
    rw [read] at refused
    exact ⟨problem, (Except.error.inj refused).symm, Settings.misfit_of_ofJson_error read⟩

/-- Settings that a file says in full are the settings in it, in whatever order it says them and
whatever the defaults are. -/
theorem readSettings_of_members {settings : Settings} {order : List (Text × Json)}
    (perm : order.Perm settings.members) (holds : HoldsJson files path (.object order)) :
    readSettings files (some path) = .ok settings :=
  (readSettings_ok_iff holds).2 ⟨Settings.isFit_members perm, Settings.takes_members perm⟩

/-- A file that was written for all of some settings holds them with their texts composed. The
literals that are written have no other characters than ASCII, so the bytes are a text in any case.
-/
theorem holds_of_written {settings : Settings} {order : List (Text × Json)}
    (perm : order.Perm settings.members) (nameable : path.isNameable = true)
    (written : files.read path = .ok (Json.object order).literal.toUTF8) :
    HoldsJson files path (.object (order.map Json.composedMember)) :=
  ⟨nameable, _, _, written, fromUTF8?_toUTF8 _, Settings.parse_members perm⟩

/-- What is read back from such a file is the composed form of the settings, in whatever order they
were written. -/
theorem readSettings_of_written {settings : Settings} {order : List (Text × Json)}
    (perm : order.Perm settings.members) (nameable : path.isNameable = true)
    (written : files.read path = .ok (Json.object order).literal.toUTF8) :
    readSettings files (some path) = .ok settings.composed :=
  readSettings_of_members (Settings.map_composedMember_members ▸ perm.map Json.composedMember)
    (holds_of_written perm nameable written)

/-- A configuration in a file is refused exactly when it does not fit, and then for something in it
that does not fit. Otherwise every setting that it gives is what it gives, tables in its order, and
every other one is the default. So a configuration that says all of some settings gives just these,
in whatever order it says them. Written to a file, it is read back with its texts in composed form,
which is what they are already when no high surrogate has a low one directly behind it.

Proof: a file that holds a value is read as `Settings.ofJson` reads the value, and that takes over
what is given, by one step for each member. For the way back, the text of an object is parsed to the
composed object, and this is the object of the composed settings. -/
theorem readSettings_overrides (files : FileSystem) (path : Path) :
    (∀ raw, HoldsJson files path raw →
      ((∃ problem, readSettings files (some path) = .error (.settings path problem)) ↔
        ¬ Settings.IsFit raw) ∧
      (∀ problem, readSettings files (some path) = .error (.settings path problem) →
        Settings.Misfit raw problem) ∧
      (Settings.IsFit raw → ∃ settings, readSettings files (some path) = .ok settings ∧
        Settings.Takes raw.member? .default settings)) ∧
      ∀ settings order, List.Perm order (Settings.members settings) →
        (HoldsJson files path (.object order) →
          readSettings files (some path) = .ok settings) ∧
        (path.isNameable = true → files.read path = .ok (Json.object order).literal.toUTF8 →
          HoldsJson files path (.object (order.map Json.composedMember)) ∧
            readSettings files (some path) = .ok settings.composed) ∧
        (settings.IsComposed → settings.composed = settings) := by
  constructor
  · intro raw holds
    refine ⟨⟨?_, ?_⟩, ?_, ?_⟩
    · rintro ⟨_, refused⟩
      obtain ⟨_, _, misfit⟩ := misfit_of_readSettings_error holds refused
      exact misfit.not_isFit
    · intro unfit
      cases read : readSettings files (some path) with
      | ok settings => exact absurd ((readSettings_ok_iff holds).1 read).1 unfit
      | error failure =>
        obtain ⟨problem, rfl, _⟩ := misfit_of_readSettings_error holds read
        exact ⟨problem, rfl⟩
    · intro problem refused
      obtain ⟨_, ⟨⟩, misfit⟩ := misfit_of_readSettings_error holds refused
      exact misfit
    · intro fit
      cases read : readSettings files (some path) with
      | ok settings => exact ⟨settings, rfl, ((readSettings_ok_iff holds).1 read).2⟩
      | error failure =>
        obtain ⟨_, _, misfit⟩ := misfit_of_readSettings_error holds read
        exact absurd fit misfit.not_isFit
  · intro settings order perm
    refine ⟨readSettings_of_members perm, fun nameable written => ?_, (·.composed_eq)⟩
    exact ⟨holds_of_written perm nameable written, readSettings_of_written perm nameable written⟩

/-- Settings for files that only declare. -/
def declaring : Settings := { Settings.default with fileExtension := ".d.ts" }

/-- A file with the extension alone and one with everything, the extension first, come to the same
settings. -/
theorem readSettings_overrides_of_extension :
    let path : Path := ⟨"", ["settings.json"]⟩
    let small : Json := .object [("file_extension", .string ".d.ts")]
    let whole : Json := .object declaring.members.reverse
    HoldsJson (oneFile "settings.json" small.literal.toUTF8) path small ∧
      HoldsJson (oneFile "settings.json" whole.literal.toUTF8) path whole ∧
      readSettings (oneFile "settings.json" small.literal.toUTF8) (some path) = .ok declaring ∧
      readSettings (oneFile "settings.json" whole.literal.toUTF8) (some path) = .ok declaring := by
  intro path small whole
  have nameable : path.isNameable = true := by decide +kernel
  have reads : ∀ member ∈ [(("file_extension" : Text), Json.string ".d.ts")],
      Json.Reads 0 member.2 := List.forall_mem_singleton.2 (Json.reads_string _)
  have held : HoldsJson (oneFile "settings.json" small.literal.toUTF8) path small :=
    ⟨nameable, _, _, by rfl, fromUTF8?_toUTF8 _, Json.parse_literal_object reads (by decide)⟩
  obtain ⟨fit, takes⟩ : Settings.IsFit small ∧ Settings.Takes small.member? .default declaring :=
    Settings.ofJson_ok_iff.1 (by rfl)
  obtain ⟨settings, read, taken⟩ := ((readSettings_overrides _ _).1 small held).2.2 fit
  obtain rfl := taken.unique takes
  obtain ⟨back, written, plain⟩ :=
    (readSettings_overrides (oneFile "settings.json" whole.literal.toUTF8) path).2 declaring
      declaring.members.reverse (List.reverse_perm _)
  have same : declaring.members.map Json.composedMember = declaring.members := by
    rw [Settings.map_composedMember_members, plain (by decide)]
  obtain ⟨heldWhole, _⟩ := written nameable (by rfl)
  rw [List.map_reverse, same] at heldWhole
  exact ⟨held, heldWhole, read, back heldWhole⟩

/-- A configuration with a pair of surrogates and the character that it encodes as two beginnings of
names comes back with one: both names are written by the same escapes, and of two members with one
name the last counts. -/
theorem readSettings_of_splitPair :
    let path : Path := ⟨"", ["settings.json"]⟩
    let split : Settings :=
      { Settings.default with simplifications := .ofList [(Text.splitPair, "a"), ("😀", "b")] }
    let written := oneFile "settings.json" (Json.object split.members).literal.toUTF8
    path.isNameable = true ∧
      written.read path = .ok (Json.object split.members).literal.toUTF8 ∧
      ∃ settings, readSettings written (some path) = .ok settings ∧
        settings.simplifications = .ofList [("😀", "b")] ∧ settings ≠ split := by
  intro path split written
  have nameable : path.isNameable = true := by decide +kernel
  have read : written.read path = .ok (Json.object split.members).literal.toUTF8 := by rfl
  refine ⟨nameable, read, split.composed, readSettings_of_written (.refl _) nameable read, by rfl,
    fun same => ?_⟩
  have one : split.simplifications.keys.length = 1 := by
    rw [← same]
    rfl
  exact absurd one (by decide)

end OpenApiTypes
