import Mathlib.Data.List.Basic
import Armory.Command
import Armory.Proofs.Settings.Layers

/-!
# The sources that settings are put down to

The listing of the settings finds the source of each one by a rule of its own: it looks for the variable named after
the setting, blank or not, and for an entry in the settings file as it stands, without reading its references. The
load takes values by another: it passes over blank variables, reads a second variable for the settings of the log,
replaces the references before it reads the file, and lets an array stand for a table. `attributed_iff` says for
every setting when both rules name the same layer.
-/

namespace Armory.Settings

/-! ## Texts without references -/

namespace Interpolation

variable {value? : String → Option String}

/-- A reference that has begun and gives no name does not end. -/
theorem expandFrom_some_of_namesFrom {cs name : List Char} (h : namesFrom (some name) cs = []) :
    expandFrom value? (some name) cs = .error .openReference := by
  induction cs generalizing name with
  | nil => rfl
  | cons c rest ih =>
    by_cases hc : c = '\x7d'
    · subst hc
      simp [namesFrom] at h
    · simp only [namesFrom, expandFrom] at h ⊢
      exact ih h

/-- A text without references stands for itself. -/
theorem expandFrom_none_of_namesFrom {cs out : List Char} (h : namesFrom none cs = [])
    (expanded : expandFrom value? none cs = .ok out) : out = cs := by
  induction cs generalizing out with
  | nil => cases expanded; rfl
  | cons c rest ih =>
    by_cases begins : ∃ after, c = '$' ∧ rest = '\x7b' :: after
    · obtain ⟨after, rfl, rfl⟩ := begins
      simp only [namesFrom] at h
      simp only [expandFrom, expandFrom_some_of_namesFrom h] at expanded
      cases expanded
    · have plain : ∀ after, c = '$' → rest = '\x7b' :: after → False :=
        fun after hc hr => begins ⟨after, hc, hr⟩
      rw [namesFrom] at h
      rw [expandFrom] at expanded
      cases he : expandFrom value? none rest with
      | error e => simp [he, Except.map] at expanded
      | ok tail =>
        simp only [he, Except.map] at expanded
        cases expanded
        rw [ih h he]
      all_goals exact plain

theorem eq_of_expand {text out : String} (h : names text = []) (expanded : expand value? text = .ok out) :
    out = text := by
  unfold expand at expanded
  cases he : expandFrom value? none text.toList with
  | error e => simp [he, Except.map] at expanded
  | ok cs =>
    simp only [he, Except.map] at expanded
    cases expanded
    rw [expandFrom_none_of_namesFrom h he, String.ofList_toList]

end Interpolation

/-! ## Entries of a document -/

theorem mem_ofGroup (k : SettingKey) : k ∈ SettingKey.ofGroup k.group := by
  cases k <;> decide

/-- A name has a value among as many values as there are names. -/
theorem isSome_lookup_zip {α β : Type} [BEq α] [LawfulBEq α] {a : α} {as : List α} {bs : List β}
    (mem : a ∈ as) (long : as.length ≤ bs.length) : ((as.zip bs).lookup a).isSome := by
  rw [List.lookup_isSome_iff]
  rw [← List.map_fst_zip long] at mem
  obtain ⟨p, hp, rfl⟩ := List.mem_map.1 mem
  exact ⟨p, hp, BEq.refl _⟩

/-- The values of a group have an entry for a setting if the document has one, or an array for the group. -/
theorem isSome_lookup_given {t : Toml.Table} {k : SettingKey} {g : Given} (h : given? t k.group = some g) :
    (g.lookup k.name).isSome ↔
      (t.find? [k.group, k.name]).isSome ∨ ∃ items, t.get? k.group = some (.array items) := by
  unfold given? at h
  simp only [Toml.Table.find?]
  cases hg : t.get? k.group with
  | none => simp_all
  | some v => cases v with
    | moment => simp_all
    | table child => simp_all [Toml.Table.get?]
    | array items =>
      simp only [hg] at h
      split at h
      · next long =>
        cases h
        have mem := List.mem_map_of_mem (f := SettingKey.name) (mem_ofGroup k)
        simp [isSome_lookup_zip mem (by simpa using long)]
      · cases h
    | text | int | float | bool | tables => simp [hg] at h

/-! ## The rule of the listing -/

section Attributed

variable {h : Host} {k : SettingKey}

/-- The source that a setting of a host is put down to. -/
def attributed (h : Host) : SettingKey → Source := sourceOf h.lookup? (document? h)

/-- The settings file of a host, as it stands, has an entry for a setting. -/
def Spells (h : Host) (k : SettingKey) : Prop :=
  ∃ d, document? h = some d ∧ (d.2.find? [k.group, k.name]).isSome

/-- The settings file of a host, as it stands, has an array for the group of a setting. -/
def Lists (h : Host) (k : SettingKey) : Prop :=
  ∃ d items, document? h = some d ∧ d.2.get? k.group = some (.array items)

/-- The settings file of a host, if there is one, refers to no variable. -/
def Literal (h : Host) : Prop :=
  ∀ path raw, file? h {} = some path → h.read path = .ok raw → Interpolation.names raw = []

theorem layer_attributed_of_lookup (set : (h.lookup? k.mainVariable).isSome) :
    (attributed h k).layer = .environment := by
  simp [attributed, sourceOf, set, Source.layer]

theorem layer_attributed_of_spells (unset : h.lookup? k.mainVariable = none) (spelt : Spells h k) :
    (attributed h k).layer = .file := by
  obtain ⟨d, hd, found⟩ := spelt
  simp [attributed, sourceOf, unset, hd, found, Source.layer]

theorem layer_attributed_of_not_spells (unset : h.lookup? k.mainVariable = none) (unspelt : ¬ Spells h k) :
    (attributed h k).layer = .default := by
  cases hd : document? h with
  | none => simp [attributed, sourceOf, unset, hd, Source.layer]
  | some d =>
    have missing : (d.2.find? [k.group, k.name]).isSome = false := by
      rw [Bool.eq_false_iff]
      exact fun found => unspelt ⟨d, hd, found⟩
    simp [attributed, sourceOf, unset, hd, missing, Source.layer]

/-- A group that is an array has no entries by name. -/
theorem Lists.not_spells (listed : Lists h k) : ¬ Spells h k := by
  obtain ⟨d, items, hd, array⟩ := listed
  rintro ⟨d', hd', found⟩
  cases hd.symm.trans hd'
  simp [Toml.Table.find?, array] at found

namespace Layers

variable {l : Layers}

theorem Of.gives_environment (laid : l.Of h) (k : SettingKey) :
    l.environment.gives k = (variableText? h.lookup? k).isSome :=
  Patch.gives_ofVariables laid.environment k

/-- A settings file without references is read as it stands. -/
theorem Of.document (laid : l.Of h) (literal : Literal h) {path : String} (located : file? h {} = some path) :
    ∃ t, document? h = some (path, t) ∧ Patch.ofTable? t = some l.file := by
  have patched := laid.file
  simp only [hostPatch, located, filePatch] at patched
  cases hr : h.read path with
  | error fault => simp [hr] at patched
  | ok raw =>
    simp only [hr] at patched
    cases he : Interpolation.expand h.lookup? raw with
    | error e => simp [he, bind, Except.bind] at patched
    | ok text =>
      obtain rfl := Interpolation.eq_of_expand (literal path raw located hr) he
      simp only [he, bind, Except.bind] at patched
      split at patched
      · next p parsed =>
        cases patched
        obtain ⟨t, ht, made⟩ := Option.bind_eq_some_iff.1 parsed
        exact ⟨t, by simp [document?, located, hr, ht], made⟩
      · cases patched

/-- A settings file without references gives a value to the settings that it has an entry for, and to all settings
of a group that is an array. -/
theorem Of.gives_file_iff (laid : l.Of h) (literal : Literal h) (k : SettingKey) :
    l.file.gives k ↔ Spells h k ∨ Lists h k := by
  cases located : file? h {} with
  | none =>
    have patched := laid.file
    simp only [hostPatch, located] at patched
    have empty : l.file = {} := (Except.ok.inj patched).symm
    simp [empty, Spells, Lists, document?, located]
  | some path =>
    obtain ⟨t, ht, made⟩ := laid.document literal located
    obtain ⟨g, hg, gives⟩ := Patch.gives_ofTable made k
    rw [gives, isSome_lookup_given hg]
    simp [Spells, Lists, ht]

/-- The listing's rule and the load's, setting by setting. -/
theorem Of.layer_attributed_iff (laid : l.Of h) (k : SettingKey) :
    (attributed h k).layer = l.of k ↔
      if (variableText? h.lookup? k).isSome then (h.lookup? k.mainVariable).isSome = true
      else h.lookup? k.mainVariable = none ∧ (l.file.gives k ↔ Spells h k) := by
  rw [of, laid.gives_environment]
  cases set : h.lookup? k.mainVariable with
  | some value =>
    -- A variable that is set takes the setting, whether the load takes its text or not.
    rw [layer_attributed_of_lookup (by simp [set])]
    by_cases given : (variableText? h.lookup? k).isSome
    · simp [given]
    · by_cases filed : l.file.gives k <;> simp [given, filed]
  | none =>
    by_cases spelt : Spells h k
    on_goal 1 => rw [layer_attributed_of_spells set spelt]
    on_goal 2 => rw [layer_attributed_of_not_spells set spelt]
    all_goals
      by_cases given : (variableText? h.lookup? k).isSome
      · simp [given]
      · by_cases filed : l.file.gives k <;> simp [given, filed, spelt]

end Layers

/-- **When a setting is put down to the layer of its value.** The listing shows every setting with the value of the
layer it was taken from. It names that layer exactly if the following holds. Where the variables give the value, the
one named after the setting has to be set, and not only a second one. Where they do not, the one named after the
setting must not be set, not even to a blank text, and the file as it stands must have an entry for the setting if
and only if the file as it is read gives a value for it; for a file without references that fails exactly where the
group of the setting is an array. -/
theorem attributed_iff {s : Settings} (loaded : load h {} = .ok s) :
    Command.run h .config = (⟨0, s.listing (attributed h)⟩, h) ∧
    ∃ l : Layers, l.Of h ∧ ∀ k,
      l.shown? (l.of k) k = some (s.shown k) ∧
      ((attributed h k).layer = l.of k ↔
        if (variableText? h.lookup? k).isSome then (h.lookup? k.mainVariable).isSome = true
        else h.lookup? k.mainVariable = none ∧ (l.file.gives k ↔ Spells h k)) ∧
      (Literal h → ((l.file.gives k ↔ Spells h k) ↔ ¬ Lists h k)) := by
  refine ⟨by simp [Command.run, report, loaded, attributed], ?_⟩
  obtain ⟨l, laid, rfl⟩ := exists_layers_of_load loaded
  refine ⟨l, laid, fun k => ⟨l.shown_settings k, laid.layer_attributed_iff k, fun literal => ?_⟩⟩
  · have given := laid.gives_file_iff literal k
    refine ⟨fun same listed => listed.not_spells (same.1 (given.2 (.inr listed))), fun unlisted => ?_⟩
    rw [given, or_iff_left unlisted]

/-- A host with a blank variable for the attempts, a second variable for the level of the log, and a settings file. -/
def relay : Host where
  environment := .ofList [("WARMIND_REMOTE_API_KEY", "0123456789abcdef"), ("WARMIND_REMOTE_MAX_ATTEMPTS", " "),
    ("WARMIND_LOG_LEVEL", "debug")]
  files := .ofList [(Host.placeOf "warmind.toml", .bytes "server.port=9".toUTF8)]

/-- The settings of that host. -/
def relayed : Settings where
  remote := { apiKey := "0123456789abcdef" }
  server := { port := 9 }
  logging := { level := "debug" }

/-- The key and the port are put down to their layers, the attempts and the level of the log are not. -/
theorem attributed_iff_relay :
    load relay {} = .ok relayed ∧ ∃ l : Layers, l.Of relay ∧
      (attributed relay .apiKey).layer = l.of .apiKey ∧ (attributed relay .port).layer = l.of .port ∧
      (attributed relay .maxAttempts).layer ≠ l.of .maxAttempts ∧
      (attributed relay .logLevel).layer ≠ l.of .logLevel := by
  have loaded : load relay {} = .ok relayed := by decide +kernel
  obtain ⟨-, l, laid, layers⟩ := attributed_iff loaded
  have patched : hostPatch relay {} = .ok { port := some 9 } := by decide +kernel
  have filed : l.file.gives .port := by
    rw [← Except.ok.inj (patched.symm.trans laid.file)]
    rfl
  have spelt : Spells relay .port := by
    have found : ((document? relay).bind fun d => d.2.find? ["server", "port"]).isSome := by decide +kernel
    obtain ⟨v, hv⟩ := Option.isSome_iff_exists.1 found
    obtain ⟨d, hd, hv⟩ := Option.bind_eq_some_iff.1 hv
    exact ⟨d, hd, Option.isSome_iff_exists.2 ⟨v, hv⟩⟩
  refine ⟨loaded, l, laid, (layers .apiKey).2.1.2 ?_, (layers .port).2.1.2 ?_, fun same => ?_, fun same => ?_⟩
  · rw [if_pos (by decide +kernel)]
    decide +kernel
  · rw [if_neg (by decide +kernel)]
    exact ⟨by decide +kernel, fun _ => spelt, fun _ => filed⟩
  · have unset := (layers .maxAttempts).2.1.1 same
    rw [if_neg (by decide +kernel)] at unset
    exact absurd unset.1 (by decide +kernel)
  · have set := (layers .logLevel).2.1.1 same
    rw [if_pos (by decide +kernel)] at set
    exact absurd set (by decide +kernel)

/-- A host that sets the port to a blank text. -/
def hushed : Host where
  environment := .ofList [("WARMIND_REMOTE_API_KEY", "0123456789abcdef"), ("WARMIND_SERVER_PORT", " ")]

/-- The port keeps its default value, and is put down to the variable. -/
theorem blank_variable_misattributed :
    ∃ s l, load hushed {} = .ok s ∧ Layers.Of l hushed ∧
      s.server.port = 8080 ∧ l.of .port = .default ∧
      attributed hushed .port = .environment "WARMIND_SERVER_PORT" :=
  ⟨{ remote := { apiKey := "0123456789abcdef" } }, ⟨{}, { apiKey := some "0123456789abcdef" }⟩,
    rfl, ⟨rfl, rfl⟩, rfl, rfl, rfl⟩

end Attributed
end Armory.Settings
