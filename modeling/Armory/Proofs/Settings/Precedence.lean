import Armory.Proofs.Settings.Variables

/-!
# The precedence of the sources

A setting may be given by the caller, by variables and by the settings file. Main statement: settings load exactly if
the file and the variables can be read and the outcome keeps all rules, and then every setting takes the value of the
first source that gives one (`load_by_precedence`).
-/

namespace Armory.Settings

/-! ## Rules -/

/-- Settings that keep all rules. -/
@[mk_iff] structure Sound (s : Settings) : Prop where
  databaseUrl : "sqlite://".toList <+: Text.trimChars s.database.url.toList ∨
    "sqlite::".toList <+: Text.trimChars s.database.url.toList ∨
    Text.trimChars s.database.url.toList = ":memory:".toList
  maxConnections : 0 < s.database.maxConnections
  databaseTimeout : 1 ≤ s.database.timeoutSeconds ∧ s.database.timeoutSeconds ≤ 300
  apiKey : ∃ c ∈ s.remote.apiKey.toList, Text.isBlank c = false
  baseUrl : "http://".toList <+: s.remote.baseUrl.toList ∨ "https://".toList <+: s.remote.baseUrl.toList
  localAddresses : ∀ a ∈ s.remote.localAddresses, (Net.IpAddress.parse? a).isSome
  maxAttempts : 1 ≤ s.remote.maxAttempts ∧ s.remote.maxAttempts ≤ 10
  remoteTimeout : 1 ≤ s.remote.timeoutSeconds ∧ s.remote.timeoutSeconds ≤ 300
  port : 0 < s.server.port
  grace : 0 < s.server.graceSeconds
  logLevel : Text.lowerAscii (Text.trim s.logging.level) ∈ ["trace", "debug", "info", "warn", "error"]

theorem check_eq_nil_iff {kept : Bool} {rule : SettingsRule} : rule.check kept = [] ↔ kept = true := by
  cases kept <;> simp [SettingsRule.check]

theorem upTo_iff {limit n : Nat} : SettingsRule.upTo limit n = true ↔ 1 ≤ n ∧ n ≤ limit := by
  simp [SettingsRule.upTo, Nat.succ_le_iff]

theorem isSome_afterStart?_iff {start s : List Char} : (Text.afterStart? start s).isSome ↔ start <+: s := by
  rw [Option.isSome_iff_exists]
  exact exists_congr fun rest => Text.afterStart?_eq_some_iff.trans eq_comm

theorem blank_eq_false_iff {s : String} : Text.blank s = false ↔ ∃ c ∈ s.toList, Text.isBlank c = false := by
  simp [Text.blank]

theorem broken_eq_nil_iff {s : Settings} : s.broken = [] ↔ s.Sound := by
  simp only [sound_iff, broken, DatabaseSettings.broken, DatabaseSettings.hasUrl, RemoteSettings.broken,
    RemoteSettings.hasBaseUrl, ServerSettings.broken, LoggingSettings.broken, List.append_eq_nil_iff, check_eq_nil_iff,
    Bool.or_eq_true, Bool.not_eq_true', isSome_afterStart?_iff, beq_iff_eq, upTo_iff, decide_eq_true_iff,
    blank_eq_false_iff, List.map_eq_nil_iff, List.filter_eq_nil_iff, Bool.not_eq_true,
    Option.isNone_eq_false_iff, List.contains_iff_mem, and_assoc, or_assoc]

theorem validate_eq_ok_iff {s s' : Settings} : s.validate = .ok s' ↔ s = s' ∧ s.Sound := by
  rw [← broken_eq_nil_iff, validate]
  cases s.broken <;> simp

/-! ## Loading -/

variable {h : Host} {r : Request} {s : Settings}

theorem load_eq_ok_iff : load h r = .ok s ↔ ∃ file environment, hostPatch h r = .ok file ∧
    Patch.ofVariables h.lookup? = .ok environment ∧ layered file environment r.overrides = s ∧ s.Sound := by
  unfold load
  constructor
  · intro loaded
    obtain ⟨file, hf, loaded⟩ := ok_bind_inv loaded
    obtain ⟨environment, he, loaded⟩ := ok_bind_inv loaded
    obtain ⟨rfl, sound⟩ := validate_eq_ok_iff.mp loaded
    exact ⟨file, environment, hf, he, rfl, sound⟩
  · rintro ⟨file, environment, hf, he, made, sound⟩
    simp only [hf, he, bind, Except.bind, made]
    exact validate_eq_ok_iff.mpr ⟨rfl, sound⟩

/-- The value that a setting takes from a caller, the variables and a file: that of the first one that gives one, and
else its default. -/
def chosen (k : SettingKey) (caller environment file : Option k.Value) : k.Value :=
  (caller.or (environment.or file)).getD (({} : Settings).get k)

theorem get_layered (file environment overrides : Patch) (k : SettingKey) :
    (layered file environment overrides).get k =
      chosen k (overrides.get? k) (environment.get? k) (file.get? k) := by
  rw [layered, get_change, get_change, get_change, chosen]
  cases overrides.get? k <;> cases environment.get? k <;> rfl

/-- **The precedence of the sources.** Settings load exactly if the settings file, if there is one, and the variables
can be read and the outcome keeps all rules. Then each setting has the value that the caller gives, or else the one
that the first of its variables spells that is not blank, or else the one that the file gives, or else its default.
Nothing but these sources of a setting makes a difference to it: where two loads agree on them, they agree on the
setting. -/
theorem load_by_precedence (h : Host) (r : Request) (s : Settings) :
    (load h r = .ok s ↔ ∃ file, hostPatch h r = .ok file ∧
      (∀ k, ∃ environment, FromVariables h.lookup? k environment ∧
        s.get k = chosen k (r.overrides.get? k) environment (file.get? k)) ∧ s.Sound) ∧
    ∀ (h' : Host) (r' : Request) (s' : Settings) (file file' : Patch) (k : SettingKey),
      load h r = .ok s → load h' r' = .ok s' → hostPatch h r = .ok file → hostPatch h' r' = .ok file' →
      r.overrides.get? k = r'.overrides.get? k →
      (∀ name ∈ k.allVariables, h.lookup? name = h'.lookup? name) →
      file.get? k = file'.get? k → s.get k = s'.get k := by
  refine ⟨?_, ?_⟩
  · rw [load_eq_ok_iff]
    constructor
    · rintro ⟨file, environment, hf, he, rfl, sound⟩
      refine ⟨file, hf, fun k => ⟨environment.get? k, ?_, get_layered ..⟩, sound⟩
      exact ofVariables_eq_ok_iff.mp he k
    · rintro ⟨file, hf, values, sound⟩
      choose environment given value using values
      refine ⟨file, .ofValues environment, hf, ?_, ?_, sound⟩
      · exact ofVariables_eq_ok_iff.mpr fun k => by simpa using given k
      · exact eq_of_get fun k => by rw [get_layered, Patch.get?_ofValues, value]
  · intro h' r' s' file file' k loaded loaded' hf hf' callers agree files
    obtain ⟨_, environment, patched, he, rfl, -⟩ := load_eq_ok_iff.mp loaded
    obtain ⟨_, environment', patched', he', rfl, -⟩ := load_eq_ok_iff.mp loaded'
    cases hf.symm.trans patched
    cases hf'.symm.trans patched'
    have environments : environment.get? k = environment'.get? k :=
      (ofVariables_eq_ok_iff.mp he k).unique agree (ofVariables_eq_ok_iff.mp he' k)
    rw [get_layered, get_layered, callers, environments, files]

end Armory.Settings
