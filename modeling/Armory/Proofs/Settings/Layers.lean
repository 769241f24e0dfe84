import Armory.Settings.Load
import Armory.Settings.Listing

/-!
# The layers of the settings

Settings are laid down in layers: default values, over them the values of the file, over these the values of the
variables. A setting's value comes from the uppermost layer that gives one (`Layers.of`), and every setting of a
load shows that value (`Layers.shown_settings`). The rest says when a layer gives a value: the variables by one of
the setting's variables being set and not blank (`Patch.gives_ofVariables`), the file by an entry under the
setting's name in the table of its group (`Patch.gives_ofTable`).
-/

namespace Armory.Settings

/-! ## Values of a change -/

/-- The value that a change gives for a setting, as it is shown. -/
def Patch.shown? (p : Patch) : SettingKey → Option String
  | .databaseUrl => p.databaseUrl
  | .maxConnections => p.maxConnections.map toString
  | .databaseTimeout => p.databaseTimeout.map toString
  | .apiKey => p.apiKey.map redact
  | .baseUrl => p.baseUrl
  | .localAddresses => p.localAddresses.map showAddresses
  | .localAddressesFile => p.localAddressesFile
  | .maxAttempts => p.maxAttempts.map toString
  | .backoff => p.backoff.map toString
  | .remoteTimeout => p.remoteTimeout.map toString
  | .bindAddress => p.bindAddress
  | .port => p.port.map toString
  | .grace => p.grace.map toString
  | .logLevel => p.logLevel
  | .logFormat => p.logFormat.map showFormat

/-- Whether a change gives a value for a setting. -/
def Patch.gives (p : Patch) (k : SettingKey) : Bool := (p.shown? k).isSome

@[simp] theorem Patch.gives_empty (k : SettingKey) : ({} : Patch).gives k = false := by
  cases k <;> rfl

/-- After a change a setting shows the value that the change gives, and else the one it had. -/
theorem shown_change (s : Settings) (p : Patch) (k : SettingKey) :
    (s.change p).shown k = (p.shown? k).getD (s.shown k) := by
  cases k <;> simp only [shown, Patch.shown?, change, Option.getD_map]

/-! ## Layers -/

/-- A layer of settings. -/
inductive Layer where
  | environment | file | default
  deriving DecidableEq, Repr

/-- The layer that a source belongs to. -/
def Source.layer : Source → Layer
  | environment _ => .environment
  | file _ => .file
  | default => .default

/-- What the file and the variables lay over the default values. -/
structure Layers where
  file : Patch
  environment : Patch

namespace Layers

/-- The value that a layer gives for a setting, as it is shown. -/
def shown? (l : Layers) : Layer → SettingKey → Option String
  | .environment, k => l.environment.shown? k
  | .file, k => l.file.shown? k
  | .default, k => some (({} : Settings).shown k)

/-- The layer from which a setting's value is taken: the uppermost one that gives a value. -/
def of (l : Layers) (k : SettingKey) : Layer :=
  if l.environment.gives k then .environment else if l.file.gives k then .file else .default

/-- The settings that the layers make. -/
def settings (l : Layers) : Settings := layered l.file l.environment {}

/-- Each setting shows the value of the layer from which it is taken. -/
theorem shown_settings (l : Layers) (k : SettingKey) :
    l.shown? (l.of k) k = some (l.settings.shown k) := by
  simp only [settings, layered, change_empty, shown_change, of, Patch.gives]
  by_cases he : (l.environment.shown? k).isSome
  · simp only [he, if_true]
    obtain ⟨v, hv⟩ := Option.isSome_iff_exists.1 he
    simp [shown?, hv]
  · rw [Option.not_isSome_iff_eq_none] at he
    by_cases hf : (l.file.shown? k).isSome
    · obtain ⟨v, hv⟩ := Option.isSome_iff_exists.1 hf
      simp [shown?, he, hv]
    · simp [shown?, he, Option.not_isSome_iff_eq_none.1 hf]

/-- The layers that a host lays down. -/
structure Of (l : Layers) (h : Host) : Prop where
  file : hostPatch h {} = .ok l.file
  environment : Patch.ofVariables h.lookup? = .ok l.environment

end Layers

/-- What a host loads is what its layers make. -/
theorem exists_layers_of_load {h : Host} {s : Settings} (loaded : load h {} = .ok s) :
    ∃ l : Layers, l.Of h ∧ s = l.settings := by
  unfold load at loaded
  cases hf : hostPatch h {} with
  | error e => simp [hf, bind, Except.bind] at loaded
  | ok file => cases he : Patch.ofVariables h.lookup? with
    | error e => simp [hf, he, bind, Except.bind] at loaded
    | ok environment =>
      refine ⟨⟨file, environment⟩, ⟨hf, he⟩, ?_⟩
      simp only [hf, he, bind, Except.bind, validate] at loaded
      split at loaded
      · exact (Except.ok.inj loaded).symm
      · cases loaded

/-! ## The layer of the variables -/

section Variables

variable {value? : String → Option String}

theorem isSome_of_variableNat? {k : SettingKey} {bits : Nat} {n : Option Nat}
    (h : variableNat? value? k bits = .ok n) : n.isSome = (variableText? value? k).isSome := by
  unfold variableNat? at h
  cases hv : variableText? value? k with
  | none => simp only [hv] at h; cases h; rfl
  | some s =>
    simp only [hv] at h
    split at h
    · cases h; rfl
    · cases h

theorem isSome_of_variableFormat? {f : Option LogFormat} (h : variableFormat? value? = .ok f) :
    f.isSome = (variableText? value? .logFormat).isSome := by
  unfold variableFormat? at h
  cases hv : variableText? value? .logFormat with
  | none => simp only [hv] at h; cases h; rfl
  | some s =>
    simp only [hv] at h
    cases hf : LogFormat.ofText s with
    | error e => simp [hf, Except.map] at h
    | ok f' => simp only [hf, Except.map] at h; cases h; rfl

theorem ok_bind_inv {ε α β : Type} {x : Except ε α} {f : α → Except ε β} {b : β}
    (h : x >>= f = .ok b) : ∃ a, x = .ok a ∧ f a = .ok b := by
  cases x with
  | error e => cases h
  | ok a => exact ⟨a, rfl, h⟩

/-- The variables give a setting a value if one of its variables is set and not blank. -/
theorem Patch.gives_ofVariables {p : Patch} (h : Patch.ofVariables value? = .ok p) (k : SettingKey) :
    p.gives k = (variableText? value? k).isSome := by
  unfold Patch.ofVariables at h
  obtain ⟨maxConnections, h₁, h⟩ := ok_bind_inv h
  obtain ⟨databaseTimeout, h₂, h⟩ := ok_bind_inv h
  obtain ⟨maxAttempts, h₃, h⟩ := ok_bind_inv h
  obtain ⟨backoff, h₄, h⟩ := ok_bind_inv h
  obtain ⟨remoteTimeout, h₅, h⟩ := ok_bind_inv h
  obtain ⟨port, h₆, h⟩ := ok_bind_inv h
  obtain ⟨grace, h₇, h⟩ := ok_bind_inv h
  obtain ⟨logFormat, h₈, h⟩ := ok_bind_inv h
  cases h
  have counted := @isSome_of_variableNat? value?
  cases k
  all_goals simp only [gives, shown?, Option.isSome_map]
  · exact counted h₁
  · exact counted h₂
  · exact counted h₃
  · exact counted h₄
  · exact counted h₅
  · exact counted h₆
  · exact counted h₇
  · exact isSome_of_variableFormat? h₈

end Variables

/-! ## The layer of the file -/

theorem Given.isSome_of_value? {α : Type} {g : Given} {k : SettingKey} {f : Toml → Option α} {v : Option α}
    (h : g.value? k f = some v) : v.isSome = (g.lookup k.name).isSome := by
  unfold value? at h
  cases hl : g.lookup k.name with
  | none => simp only [hl] at h; cases h; rfl
  | some t =>
    simp only [hl] at h
    obtain ⟨a, -, rfl⟩ := Option.map_eq_some_iff.1 h
    rfl

/-- A document gives a setting a value if the values of its group have an entry under its name. -/
theorem Patch.gives_ofTable {t : Toml.Table} {p : Patch} (h : Patch.ofTable? t = some p) (k : SettingKey) :
    ∃ g, given? t k.group = some g ∧ p.gives k = (g.lookup k.name).isSome := by
  unfold Patch.ofTable? at h
  obtain ⟨database, hd, h⟩ := Option.bind_eq_some_iff.1 h
  obtain ⟨remote, hr, h⟩ := Option.bind_eq_some_iff.1 h
  obtain ⟨server, hs, h⟩ := Option.bind_eq_some_iff.1 h
  obtain ⟨logging, hl, h⟩ := Option.bind_eq_some_iff.1 h
  obtain ⟨url, h₁, h⟩ := Option.bind_eq_some_iff.1 h
  obtain ⟨connections, h₂, h⟩ := Option.bind_eq_some_iff.1 h
  obtain ⟨timeout, h₃, h⟩ := Option.bind_eq_some_iff.1 h
  obtain ⟨apiKey, h₄, h⟩ := Option.bind_eq_some_iff.1 h
  obtain ⟨baseUrl, h₅, h⟩ := Option.bind_eq_some_iff.1 h
  obtain ⟨addresses, h₆, h⟩ := Option.bind_eq_some_iff.1 h
  obtain ⟨addressesFile, h₇, h⟩ := Option.bind_eq_some_iff.1 h
  obtain ⟨attempts, h₈, h⟩ := Option.bind_eq_some_iff.1 h
  obtain ⟨backoff, h₉, h⟩ := Option.bind_eq_some_iff.1 h
  obtain ⟨remoteTimeout, h₁₀, h⟩ := Option.bind_eq_some_iff.1 h
  obtain ⟨address, h₁₁, h⟩ := Option.bind_eq_some_iff.1 h
  obtain ⟨port, h₁₂, h⟩ := Option.bind_eq_some_iff.1 h
  obtain ⟨grace, h₁₃, h⟩ := Option.bind_eq_some_iff.1 h
  obtain ⟨level, h₁₄, h⟩ := Option.bind_eq_some_iff.1 h
  obtain ⟨format, h₁₅, h⟩ := Option.bind_eq_some_iff.1 h
  cases h
  have given {α} := @Given.isSome_of_value? α
  cases k
  all_goals simp only [gives, shown?, Option.isSome_map]
  · exact ⟨database, hd, given h₁⟩
  · exact ⟨database, hd, given h₂⟩
  · exact ⟨database, hd, given h₃⟩
  · exact ⟨remote, hr, given h₄⟩
  · exact ⟨remote, hr, given h₅⟩
  · exact ⟨remote, hr, given h₆⟩
  · exact ⟨remote, hr, given h₇⟩
  · exact ⟨remote, hr, given h₈⟩
  · exact ⟨remote, hr, given h₉⟩
  · exact ⟨remote, hr, given h₁₀⟩
  · exact ⟨server, hs, given h₁₁⟩
  · exact ⟨server, hs, given h₁₂⟩
  · exact ⟨server, hs, given h₁₃⟩
  · exact ⟨logging, hl, given h₁₄⟩
  · exact ⟨logging, hl, given h₁₅⟩

end Armory.Settings
