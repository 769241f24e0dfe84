import Armory.Command
import Armory.Proofs.Catalog.Index

/-! From an export of the manifest to the catalog of a service. Of entries with the same hash the last one counts that
has a name, and of definitions with the same name the least hash. Main statement: an import overrides what is stored by
what the export describes, a second one changes nothing, and the service finds what is stored
(`Manifest.import_overrides`). -/
namespace Armory

/-! ## Exports -/

namespace Manifest

/-- The entries of an export. -/
def listed? (text : String) : Option (List Entry) :=
  (Json.parse? text).bind (Json.listOf? Entry.ofJson?)

/-- The entries that have a name. -/
def named (entries : List Entry) : List Entry := entries.filter fun e => !Text.blank e.itemName

/-- The last entry of a hash that has a name. -/
def lastNamed? (h : Hash) (entries : List Entry) : Option Entry :=
  (named entries).reverse.find? (·.itemHash == h)

/-- An entry describes a definition: all is as the entry says, but for the white space around the name; a code that
no tier or class has stands for the unknown one. -/
structure Entry.Describes (e : Entry) (x : Definition) : Prop where
  itemHash : x.itemHash = e.itemHash
  name : x.name = Text.trim e.itemName
  tier : x.tier.code = e.tierType ∨ x.tier = .unknown ∧ ∀ t : Tier, t.code ≠ e.tierType
  guardian : x.guardian.code = e.classType ∨ x.guardian = .unknown ∧ ∀ g : Guardian, g.code ≠ e.classType
  bucketHash : x.bucketHash = e.bucketTypeHash

/-- A list of definitions is another one overridden by entries. -/
def Overrides (entries : List Entry) (old new : List Definition) : Prop :=
  ∀ h, match lastNamed? h entries with
    | some e => ∃ x, Definition.find? h new = some x ∧ e.Describes x
    | none => Definition.find? h new = Definition.find? h old

theorem tier_ofCode (n : Int) :
    (Tier.ofCode n).code = n ∨ Tier.ofCode n = .unknown ∧ ∀ t : Tier, t.code ≠ n := by
  by_cases known : ∃ t : Tier, t.code = n
  · obtain ⟨t, rfl⟩ := known
    exact .inl (congrArg Tier.code (Tier.ofCode_code t))
  · have other : ∀ t : Tier, t.code ≠ n := fun t same => known ⟨t, same⟩
    have codes : n ≠ 1 ∧ n ≠ 2 ∧ n ≠ 3 ∧ n ≠ 4 ∧ n ≠ 5 ∧ n ≠ 6 :=
      ⟨(other .currency).symm, (other .common).symm, (other .uncommon).symm, (other .rare).symm,
        (other .legendary).symm, (other .exotic).symm⟩
    exact .inr ⟨by simp [Tier.ofCode, codes], other⟩

theorem guardian_ofCode (n : Int) :
    (Guardian.ofCode n).code = n ∨ Guardian.ofCode n = .unknown ∧ ∀ g : Guardian, g.code ≠ n := by
  by_cases known : ∃ g : Guardian, g.code = n
  · obtain ⟨g, rfl⟩ := known
    exact .inl (congrArg Guardian.code (Guardian.ofCode_code g))
  · have other : ∀ g : Guardian, g.code ≠ n := fun g same => known ⟨g, same⟩
    have codes : n ≠ 0 ∧ n ≠ 1 ∧ n ≠ 2 :=
      ⟨(other .titan).symm, (other .hunter).symm, (other .warlock).symm⟩
    exact .inr ⟨by simp [Guardian.ofCode, codes], other⟩

theorem Entry.describes (e : Entry) : e.Describes e.definition where
  itemHash := rfl
  name := rfl
  tier := tier_ofCode e.tierType
  guardian := guardian_ofCode e.classType
  bucketHash := rfl

/-- What is read from an export: the definitions of its entries that have names. -/
theorem parse?_eq (text : String) :
    parse? text = (listed? text).map fun entries => (named entries).map Entry.definition := by
  unfold parse? listed? named
  cases Json.parse? text with
  | none => rfl
  | some v =>
    cases read : v.listOf? Entry.ofJson? with
    | none => simp [read]
    | some entries => simp [read]

theorem find?_reverse_definitions (h : Hash) (entries : List Entry) :
    Definition.find? h ((named entries).map Entry.definition).reverse =
      (lastNamed? h entries).map Entry.definition := by
  rw [← List.map_reverse, Definition.find?, List.find?_map]
  rfl

end Manifest

/-! ## Imports -/

/-- A file that is no export is refused, and nothing is written. -/
theorem Command.importDefinitions_of_parse?_none {host : Host} {path text : String}
    (file : host.read path = .ok text) (refused : Manifest.parse? text = none) :
    ∃ e, Command.importDefinitions host path = (.error e, host) := by
  unfold importDefinitions
  cases settings host with
  | error e => exact ⟨e, rfl⟩
  | ok s => exact ⟨.manifestParse path, by simp [readManifest, file, refused]⟩

/-- An export is written into the database that the settings name, once all tables are there. -/
theorem Command.importDefinitions_of_parse? {host : Host} {path text : String} {s : Settings}
    {c c' : Connection} {xs : List Definition} (loaded : Settings.load host {} = .ok s)
    (file : host.read path = .ok text) (read : Manifest.parse? text = some xs)
    (connected : host.connect s.database.url = .ok c) (migrated : c.migrate = .ok c')
    (writable : c'.readOnly = false) {n : Nat} {after : Store.Database}
    (written : c'.database.upsertDefinitions xs = (.ok n, after)) :
    Command.importDefinitions host path =
      (.ok ("imported " ++ toString n ++ " item definitions"),
        (host.keep c').keep { c' with database := after }) := by
  have settled : settings host = .ok s := by
    rw [settings, loaded]
    rfl
  have opened : openDatabase host s = (.ok c', host.keep c') := by
    rw [openDatabase, connected]
    simp only [migrated]
  have manifest : readManifest host path = .ok xs := by simp [readManifest, file, read]
  have stored : c'.upsertDefinitions xs = (.ok n, { c' with database := after }) := by
    simp [Connection.upsertDefinitions, writable, written]
  simp only [importDefinitions, settled, manifest, opened, stored]

/-- A service that starts on a database has the catalog of what is stored there. -/
theorem Startup.withSettings_eq {host : Host} {s : Settings} {c c' : Connection} {xs : List Definition}
    (connected : host.connect s.database.url = .ok c) (migrated : c.migrate = .ok c')
    (stored : c'.database.loadDefinitions = .ok xs) :
    Startup.withSettings host s = .ok ⟨s, c'.database, catalog xs, rotation host s⟩ := by
  rw [withSettings, connected]
  change (do
    let c ← c.migrate.mapError .migration
    let definitions ← c.database.loadDefinitions.mapError .manifest
    pure ⟨s, c.database, catalog definitions, rotation host s⟩ : Except Failure Service.Started) = _
  rw [migrated]
  change (do
    let definitions ← c'.database.loadDefinitions.mapError .manifest
    pure ⟨s, c'.database, catalog definitions, rotation host s⟩ : Except Failure Service.Started) = _
  rw [stored]
  rfl

namespace Manifest

/-- **An import overrides what is stored.** Into a database that has only been written through its own operations, an
export is imported. What is stored, each hash once and in the order of the hashes, is then what was stored before,
overridden by the last named entry of each hash; importing the export again changes nothing; and a service that starts
on the database has a catalog that indexes all of it. A file that is no export leaves every database of its host as
it was. -/
theorem import_overrides {d : Store.Database} (written : d.Written) (text : String) :
    ∃ old, d.loadDefinitions = .ok old ∧ Definition.Ascending old ∧
      (∀ xs, parse? text = some xs → ∃ after entries new,
        d.upsertDefinitions xs = (.ok xs.length, after) ∧
        after.upsertDefinitions xs = (.ok xs.length, after) ∧
        after.loadDefinitions = .ok new ∧ Definition.Ascending new ∧
        listed? text = some entries ∧ Overrides entries old new ∧ (Startup.catalog new).Indexes new ∧
        (∀ host path s c c', Settings.load host {} = .ok s → host.read path = .ok text →
          host.connect s.database.url = .ok c → c.migrate = .ok c' → c'.readOnly = false → c'.database = d →
          Command.importDefinitions host path =
            (.ok ("imported " ++ toString xs.length ++ " item definitions"),
              (host.keep c').keep { c' with database := after })) ∧
        (∀ host s c c', host.connect s.database.url = .ok c → c.migrate = .ok c' → c'.database = after →
          ∃ started, Startup.withSettings host s = .ok started ∧ started.catalog = Startup.catalog new)) ∧
      (parse? text = none → ∀ host path, host.read path = .ok text →
        ∃ e, Command.importDefinitions host path = (.error e, host)) := by
  obtain ⟨stored, held⟩ := written.holds
  refine ⟨Definition.inOrder stored, held.load, Definition.ascending_inOrder held.once, fun xs read => ?_,
    fun refused host path file => Command.importDefinitions_of_parse?_none file refused⟩
  obtain ⟨entries, listed, rfl⟩ := Option.map_eq_some_iff.mp ((parse?_eq text).symm.trans read)
  have upserted := held.upsert ((named entries).map Entry.definition)
  have holds := held.holds_upsert ((named entries).map Entry.definition)
  have again := holds.upsert ((named entries).map Entry.definition)
  rw [Definition.putAll_again held.once] at again
  rw [upserted] at holds again
  have ascending := Definition.ascending_inOrder holds.once
  refine ⟨_, entries, _, upserted, again, holds.load, ascending, listed, fun h => ?_,
    Startup.indexes_catalog ascending, fun host path s c c' loaded file connected migrated writable same => ?_,
    fun host s c c' connected migrated same => ?_⟩
  · rw [Definition.find?_inOrder holds.once, Definition.find?_putAll, find?_reverse_definitions,
      Definition.find?_inOrder held.once]
    cases lastNamed? h entries with
    | none => rfl
    | some e => exact ⟨e.definition, rfl, e.describes⟩
  · exact Command.importDefinitions_of_parse? loaded file read connected migrated writable (same ▸ upserted)
  · exact ⟨_, Startup.withSettings_eq connected migrated (same ▸ holds.load), rfl⟩

example : parse? "[[5, \"Spinmetal\"]]" = some [⟨5, "Spinmetal", .unknown, .unknown, 0⟩] := by decide +kernel

/-- What an earlier import has left. -/
def glimmers : List Definition := [⟨3, "Coin", .common, .unknown, 0⟩, ⟨4000000000, "Engram", .rare, .unknown, 5⟩]

/-- An export with two entries of one hash and an entry without a name. -/
def glimmerExport : String :=
  "[\x7b\"itemHash\":4000000000,\"itemName\":\"Glim\"\x7d," ++
  "\x7b\"itemHash\":3,\"itemName\":\" \"\x7d," ++
  "\x7b\"itemHash\":4000000000,\"itemName\":\" Token \",\"tierType\":77\x7d]"

/-- The last entry of a hash counts, without the white space around its name, and the one without a name does not. -/
theorem import_overrides_glimmer :
    let d := (Store.Database.upsertDefinitions (.migrate {}) glimmers).2
    let xs : List Definition :=
      [⟨4000000000, "Glim", .unknown, .unknown, 0⟩, ⟨4000000000, "Token", .unknown, .unknown, 0⟩]
    d.Written ∧ parse? glimmerExport = some xs ∧ ∃ after new,
      d.upsertDefinitions xs = (.ok 2, after) ∧ after.upsertDefinitions xs = (.ok 2, after) ∧
      after.loadDefinitions = .ok new ∧ (Startup.catalog new).Indexes new ∧
      ∃ x, Definition.find? 4000000000 new = some x ∧ x.name = "Token" := by
  intro d xs
  have written : d.Written := .upsert (.fresh rfl rfl rfl) glimmers
  have listed : listed? glimmerExport = some [⟨4000000000, "Glim", 0, 3, 0⟩, ⟨3, " ", 0, 3, 0⟩,
      ⟨4000000000, " Token ", 77, 3, 0⟩] := by
    decide +kernel
  have read : parse? glimmerExport = some xs := by
    rw [parse?_eq, listed]
    decide +kernel
  obtain ⟨old, -, -, imports, -⟩ := import_overrides written glimmerExport
  obtain ⟨after, entries, new, upserted, again, loaded, -, listed', overrides, indexes, -⟩ := imports xs read
  obtain rfl := Option.some.inj (listed.symm.trans listed')
  obtain ⟨x, found, describes⟩ := overrides 4000000000
  exact ⟨written, read, after, new, upserted, again, loaded, indexes, x, found, by
    rw [describes.name]
    decide +kernel⟩

end Manifest
end Armory
