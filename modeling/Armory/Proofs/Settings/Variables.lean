import Mathlib.Data.List.Basic
import Armory.Proofs.Settings.Layers

/-!
# What the variables give

Every setting has a value of its own type (`SettingKey.Value`). Main statement: the variables make a change exactly if
the text of each of them that counts spells a value of its setting, and then the change gives these values and no
others (`ofVariables_eq_ok_iff`).
-/

namespace Armory

/-! ## Settings by name -/

/-- The type of a setting. -/
abbrev SettingKey.Value : SettingKey → Type
  | databaseUrl | apiKey | baseUrl | localAddressesFile | bindAddress | logLevel => String
  | maxConnections | databaseTimeout | maxAttempts | backoff | remoteTimeout | port | grace => Nat
  | localAddresses => List String
  | logFormat => LogFormat

namespace Settings

/-- The value of a setting. -/
def get (s : Settings) : (k : SettingKey) → k.Value
  | .databaseUrl => s.database.url
  | .maxConnections => s.database.maxConnections
  | .databaseTimeout => s.database.timeoutSeconds
  | .apiKey => s.remote.apiKey
  | .baseUrl => s.remote.baseUrl
  | .localAddresses => s.remote.localAddresses
  | .localAddressesFile => s.remote.localAddressesFile
  | .maxAttempts => s.remote.maxAttempts
  | .backoff => s.remote.backoffMillis
  | .remoteTimeout => s.remote.timeoutSeconds
  | .bindAddress => s.server.bindAddress
  | .port => s.server.port
  | .grace => s.server.graceSeconds
  | .logLevel => s.logging.level
  | .logFormat => s.logging.format

/-- The new value of a setting, if a change gives one. -/
def Patch.get? (p : Patch) : (k : SettingKey) → Option k.Value
  | .databaseUrl => p.databaseUrl
  | .maxConnections => p.maxConnections
  | .databaseTimeout => p.databaseTimeout
  | .apiKey => p.apiKey
  | .baseUrl => p.baseUrl
  | .localAddresses => p.localAddresses
  | .localAddressesFile => p.localAddressesFile
  | .maxAttempts => p.maxAttempts
  | .backoff => p.backoff
  | .remoteTimeout => p.remoteTimeout
  | .bindAddress => p.bindAddress
  | .port => p.port
  | .grace => p.grace
  | .logLevel => p.logLevel
  | .logFormat => p.logFormat

/-- The change that gives some values. -/
def Patch.ofValues (values : (k : SettingKey) → Option k.Value) : Patch where
  databaseUrl := values .databaseUrl
  maxConnections := values .maxConnections
  databaseTimeout := values .databaseTimeout
  apiKey := values .apiKey
  baseUrl := values .baseUrl
  localAddresses := values .localAddresses
  localAddressesFile := values .localAddressesFile
  maxAttempts := values .maxAttempts
  backoff := values .backoff
  remoteTimeout := values .remoteTimeout
  bindAddress := values .bindAddress
  port := values .port
  grace := values .grace
  logLevel := values .logLevel
  logFormat := values .logFormat

@[simp] theorem Patch.get?_ofValues (values : (k : SettingKey) → Option k.Value) (k : SettingKey) :
    (Patch.ofValues values).get? k = values k := by
  cases k <;> rfl

theorem get_change (s : Settings) (p : Patch) (k : SettingKey) :
    (s.change p).get k = (p.get? k).getD (s.get k) := by
  cases k <;> rfl

/-- Settings are the values of all settings. -/
theorem eq_of_get {s s' : Settings} (h : ∀ k, s.get k = s'.get k) : s = s' := by
  obtain ⟨database, remote, server, logging⟩ := s
  obtain ⟨database', remote', server', logging'⟩ := s'
  congr
  · exact DatabaseSettings.mk.injEq .. |>.mpr ⟨h .databaseUrl, h .maxConnections, h .databaseTimeout⟩
  · exact RemoteSettings.mk.injEq .. |>.mpr ⟨h .apiKey, h .baseUrl, h .localAddresses, h .localAddressesFile,
      h .maxAttempts, h .backoff, h .remoteTimeout⟩
  · exact ServerSettings.mk.injEq .. |>.mpr ⟨h .bindAddress, h .port, h .grace⟩
  · exact LoggingSettings.mk.injEq .. |>.mpr ⟨h .logLevel, h .logFormat⟩

end Settings

/-! ## What a text spells -/

namespace Text

variable {sep : Char}

theorem splitAt_ne_nil (sep : Char) (s : List Char) : splitAt sep s ≠ [] := by
  cases s with
  | nil => exact List.cons_ne_nil _ _
  | cons c s =>
    unfold splitAt
    split
    · exact List.cons_ne_nil _ _
    · split <;> exact List.cons_ne_nil _ _

theorem splitAt_eq_splitOn (sep : Char) (s : List Char) : splitAt sep s = s.splitOn sep := by
  induction s with
  | nil => rfl
  | cons c s ih =>
    rw [splitAt, List.splitOn_cons_eq_if_modifyHead, ih]
    by_cases same : c = sep
    · rw [if_pos same, if_pos (beq_iff_eq.mpr same)]
    · rw [if_neg same, if_neg (by simpa using same)]
      obtain ⟨first, rest, pieces⟩ := List.exists_cons_of_ne_nil (List.splitOn_ne_nil sep s)
      rw [pieces]
      rfl

theorem not_mem_of_mem_splitAt {s piece : List Char} (h : piece ∈ splitAt sep s) : sep ∉ piece := by
  induction s generalizing piece with
  | nil =>
    obtain rfl := List.mem_singleton.mp h
    exact List.not_mem_nil
  | cons c s ih =>
    unfold splitAt at h
    split at h
    · rcases List.mem_cons.mp h with rfl | h
      · exact List.not_mem_nil
      · exact ih h
    · next other =>
      obtain ⟨first, rest, pieces⟩ := List.exists_cons_of_ne_nil (splitAt_ne_nil sep s)
      rw [pieces] at h ih
      rcases List.mem_cons.mp h with rfl | h
      · simp [ih List.mem_cons_self, Ne.symm other]
      · exact ih (List.mem_cons_of_mem _ h)

/-- The pieces of a text hold no separator, and make up the text with separators between them. -/
theorem splitAt_eq_iff {s : List Char} {pieces : List (List Char)} :
    splitAt sep s = pieces ↔
      pieces ≠ [] ∧ (∀ piece ∈ pieces, sep ∉ piece) ∧ s = [sep].intercalate pieces := by
  constructor
  · rintro rfl
    refine ⟨splitAt_ne_nil sep s, fun piece => not_mem_of_mem_splitAt, ?_⟩
    rw [splitAt_eq_splitOn, List.intercalate_splitOn]
  · rintro ⟨some, apart, rfl⟩
    rw [splitAt_eq_splitOn, List.splitOn_intercalate sep apart some]

theorem natural?_eq_some_iff {s : String} {n : Nat} :
    natural? s = some n ↔ ∃ ds : List Char, (s.toList = ds ∨ s.toList = '+' :: ds) ∧
      ds ≠ [] ∧ (∀ c ∈ ds, isDigit c = true) ∧ digitsValue ds = n := by
  have digits : ∀ ds : List Char, digits? ds = some n ↔
      ds ≠ [] ∧ (∀ c ∈ ds, isDigit c = true) ∧ digitsValue ds = n := by
    intro ds
    simp only [digits?, Bool.and_eq_true, Bool.not_eq_true', List.isEmpty_eq_false_iff, List.all_eq_true,
      Option.ite_none_right_eq_some, Option.some.injEq, and_assoc]
  unfold natural?
  split
  · next rest signed =>
    rw [digits]
    constructor
    · rintro ⟨some, all, value⟩
      exact ⟨rest, .inr signed, some, all, value⟩
    · rintro ⟨ds, same | same, some, all, value⟩
      · -- a plus sign is no digit
        obtain rfl := signed.symm.trans same
        exact absurd (all '+' List.mem_cons_self) (by decide)
      · obtain ⟨-, rfl⟩ := List.cons.inj (signed.symm.trans same)
        exact ⟨some, all, value⟩
  · next unsigned =>
    rw [digits]
    constructor
    · rintro ⟨some, all, value⟩
      exact ⟨s.toList, .inl rfl, some, all, value⟩
    · rintro ⟨ds, rfl | same, some, all, value⟩
      · exact ⟨some, all, value⟩
      · exact absurd same (unsigned ds)

end Text

namespace Settings

/-- A text spells a number below a power of two in decimal digits, and may have a plus sign before them. -/
def SpellsNat (bits : Nat) (text : String) (n : Nat) : Prop :=
  n < Nat.pow 2 bits ∧ ∃ ds : List Char, (text.toList = ds ∨ text.toList = '+' :: ds) ∧
    ds ≠ [] ∧ (∀ c ∈ ds, Text.isDigit c = true) ∧ Text.digitsValue ds = n

/-- A text spells a list with a separator between the entries. White space around an entry does not belong to it, and
an entry of nothing else is none. -/
def SpellsList (sep : Char) (text : String) (entries : List String) : Prop :=
  ∃ pieces : List (List Char), pieces ≠ [] ∧ (∀ piece ∈ pieces, sep ∉ piece) ∧
    text.toList = [sep].intercalate pieces ∧
    entries = (pieces.map fun piece => String.ofList (Text.trimChars piece)).filter (· != "")

/-- What a text denotes as the value of a setting. -/
def Denotes : (k : SettingKey) → String → k.Value → Prop
  | .maxConnections, text, n | .maxAttempts, text, n => SpellsNat 32 text n
  | .databaseTimeout, text, n | .backoff, text, n | .remoteTimeout, text, n | .grace, text, n => SpellsNat 64 text n
  | .port, text, n => SpellsNat 16 text n
  | .localAddresses, text, entries => SpellsList ',' text entries
  | .logFormat, text, f => Text.lowerAscii (Text.trim text) = f.name
  | .databaseUrl, text, value | .apiKey, text, value | .baseUrl, text, value | .localAddressesFile, text, value
  | .bindAddress, text, value | .logLevel, text, value => text = value

/-! ## What the variables give -/

section Variables

variable {value? : String → Option String} {k : SettingKey}

/-- A variable is not set, or set to a blank text. -/
def Silent (value? : String → Option String) (name : String) : Prop :=
  ∀ text, value? name = some text → Text.blank text = true

/-- What the variables give for a setting: the value that the text of the first of its variables spells that is set
and not blank, or nothing if there is no such variable. -/
def FromVariables (value? : String → Option String) (k : SettingKey) : Option k.Value → Prop
  | none => ∀ name ∈ k.allVariables, Silent value? name
  | some v => ∃ before name after text, k.allVariables = before ++ name :: after ∧
      (∀ n ∈ before, Silent value? n) ∧ value? name = some text ∧ Text.blank text = false ∧ Denotes k text v

theorem filter_eq_none_iff_silent {name : String} :
    ((value? name).filter fun s => !Text.blank s) = none ↔ Silent value? name := by
  simp [Option.filter_eq_none_iff, Silent]

theorem fromVariables_none_iff : FromVariables value? k none ↔ variableText? value? k = none := by
  simp only [FromVariables, variableText?, List.findSome?_eq_none_iff, filter_eq_none_iff_silent]

theorem fromVariables_some_iff {v : k.Value} :
    FromVariables value? k (some v) ↔ ∃ text, variableText? value? k = some text ∧ Denotes k text v := by
  simp only [FromVariables, variableText?, List.findSome?_eq_some_iff, filter_eq_none_iff_silent,
    Option.filter_eq_some_iff, Bool.not_eq_true']
  constructor
  · rintro ⟨before, name, after, text, split, silent, set, plain, spells⟩
    exact ⟨text, ⟨before, name, after, split, ⟨set, plain⟩, silent⟩, spells⟩
  · rintro ⟨text, ⟨before, name, after, split, ⟨set, plain⟩, silent⟩, spells⟩
    exact ⟨before, name, after, text, split, silent, set, plain, spells⟩

/-- What is taken from a text that may be missing: a value that the text spells, or nothing if there is no text. -/
def Taken {α : Type} (spells : String → α → Prop) (text : Option String) : Option α → Prop
  | none => text = none
  | some v => ∃ t, text = some t ∧ spells t v

section Taken

variable {α : Type} {spells : String → α → Prop} {v : Option α}

theorem taken_none_iff : Taken spells none v ↔ v = none := by
  cases v <;> simp [Taken]

theorem taken_some_iff {t : String} : Taken spells (some t) v ↔ ∃ a, spells t a ∧ v = some a := by
  cases v <;> simp [Taken]

theorem taken_eq_iff {text v : Option String} : Taken (fun text value => text = value) text v ↔ text = v := by
  cases v <;> simp [Taken]

end Taken

theorem fromVariables_iff {v : Option k.Value} :
    FromVariables value? k v ↔ Taken (Denotes k) (variableText? value? k) v := by
  cases v with
  | none => exact fromVariables_none_iff
  | some v => exact fromVariables_some_iff

theorem spellsNat_iff {bits n : Nat} {text : String} :
    SpellsNat bits text n ↔ (Text.natural? text).filter (Bits.holds bits) = some n := by
  rw [Option.filter_eq_some_iff, Text.natural?_eq_some_iff, Bits.holds, decide_eq_true_iff]
  exact and_comm

theorem spellsList_iff {sep : Char} {text : String} {entries : List String} :
    SpellsList sep text entries ↔
      ((Text.splitAt sep text.toList).map fun piece => String.ofList (Text.trimChars piece)).filter (· != "") =
        entries := by
  constructor
  · rintro ⟨pieces, some, apart, split, rfl⟩
    rw [Text.splitAt_eq_iff.mpr ⟨some, apart, split⟩]
  · rintro rfl
    obtain ⟨some, apart, split⟩ := Text.splitAt_eq_iff.mp (rfl : Text.splitAt sep text.toList = _)
    exact ⟨_, some, apart, split, rfl⟩

theorem taken_spellsList_iff {text : Option String} {v : Option (List String)} :
    Taken (SpellsList ',') text v ↔ text.map commaList = v := by
  cases v <;> simp [Taken, spellsList_iff, commaList]

theorem ofText_eq_ok_iff {text : String} {f : LogFormat} :
    LogFormat.ofText text = .ok f ↔ Text.lowerAscii (Text.trim text) = f.name := by
  simp only [LogFormat.ofText]
  generalize Text.lowerAscii (Text.trim text) = word
  constructor
  · intro h
    split at h
    · next g found =>
      cases h
      have same := List.find?_some found
      exact (beq_iff_eq.mp same).symm
    · cases h
  · rintro rfl
    cases f <;> rfl

theorem variableNat?_eq_ok_iff {bits : Nat} {n : Option Nat} :
    variableNat? value? k bits = .ok n ↔ Taken (SpellsNat bits) (variableText? value? k) n := by
  unfold variableNat?
  cases variableText? value? k with
  | none => simp [taken_none_iff, eq_comm]
  | some t =>
    simp only [taken_some_iff, spellsNat_iff]
    cases (Text.natural? t).filter (Bits.holds bits) <;> simp [eq_comm]

theorem variableFormat?_eq_ok_iff {f : Option LogFormat} :
    variableFormat? value? = .ok f ↔ Taken (Denotes .logFormat) (variableText? value? .logFormat) f := by
  unfold variableFormat?
  cases variableText? value? .logFormat with
  | none => simp [taken_none_iff, eq_comm]
  | some t =>
    simp only [taken_some_iff, Denotes, ← ofText_eq_ok_iff]
    cases LogFormat.ofText t <;> simp [Except.map, eq_comm]

theorem Denotes.unique {text : String} {v v' : k.Value} (h : Denotes k text v) (h' : Denotes k text v') : v = v' := by
  cases k
  case databaseUrl | apiKey | baseUrl | localAddressesFile | bindAddress | logLevel => exact Eq.trans h.symm h'
  case localAddresses => exact (spellsList_iff.mp h).symm.trans (spellsList_iff.mp h')
  case logFormat => exact Except.ok.inj ((ofText_eq_ok_iff.mpr h).symm.trans (ofText_eq_ok_iff.mpr h'))
  all_goals exact Option.some.inj ((spellsNat_iff.mp h).symm.trans (spellsNat_iff.mp h'))

/-- What the variables give for a setting is fixed by the setting's own variables. -/
theorem FromVariables.unique {value?' : String → Option String} {v v' : Option k.Value}
    (same : ∀ name ∈ k.allVariables, value? name = value?' name) (h : FromVariables value? k v)
    (h' : FromVariables value?' k v') : v = v' := by
  have texts : variableText? value? k = variableText? value?' k := by
    have read := congrArg (List.findSome? (Option.filter fun s => !Text.blank s)) (List.map_congr_left same)
    rwa [List.findSome?_map, List.findSome?_map] at read
  rw [fromVariables_iff] at h h'
  rw [texts] at h
  cases text : variableText? value?' k with
  | none =>
    rw [text, taken_none_iff] at h h'
    rw [h, h']
  | some t =>
    rw [text, taken_some_iff] at h h'
    obtain ⟨a, spells, rfl⟩ := h
    obtain ⟨b, spells', rfl⟩ := h'
    rw [spells.unique spells']

/-- The variables make a change exactly if each of them can be read, and it gives what they give. -/
theorem ofVariables_eq_ok_iff {p : Patch} :
    Patch.ofVariables value? = .ok p ↔ ∀ k, FromVariables value? k (p.get? k) := by
  simp only [fromVariables_iff]
  constructor
  · intro made k
    unfold Patch.ofVariables at made
    obtain ⟨maxConnections, h₁, made⟩ := ok_bind_inv made
    obtain ⟨databaseTimeout, h₂, made⟩ := ok_bind_inv made
    obtain ⟨maxAttempts, h₃, made⟩ := ok_bind_inv made
    obtain ⟨backoff, h₄, made⟩ := ok_bind_inv made
    obtain ⟨remoteTimeout, h₅, made⟩ := ok_bind_inv made
    obtain ⟨port, h₆, made⟩ := ok_bind_inv made
    obtain ⟨grace, h₇, made⟩ := ok_bind_inv made
    obtain ⟨logFormat, h₈, made⟩ := ok_bind_inv made
    cases made
    cases k
    case databaseUrl | apiKey | baseUrl | localAddressesFile | bindAddress | logLevel => exact taken_eq_iff.mpr rfl
    case localAddresses => exact taken_spellsList_iff.mpr rfl
    case maxConnections => exact variableNat?_eq_ok_iff.mp h₁
    case databaseTimeout => exact variableNat?_eq_ok_iff.mp h₂
    case maxAttempts => exact variableNat?_eq_ok_iff.mp h₃
    case backoff => exact variableNat?_eq_ok_iff.mp h₄
    case remoteTimeout => exact variableNat?_eq_ok_iff.mp h₅
    case port => exact variableNat?_eq_ok_iff.mp h₆
    case grace => exact variableNat?_eq_ok_iff.mp h₇
    case logFormat => exact variableFormat?_eq_ok_iff.mp h₈
  · intro given
    unfold Patch.ofVariables
    rw [variableNat?_eq_ok_iff.mpr (given .maxConnections), variableNat?_eq_ok_iff.mpr (given .databaseTimeout),
      variableNat?_eq_ok_iff.mpr (given .maxAttempts), variableNat?_eq_ok_iff.mpr (given .backoff),
      variableNat?_eq_ok_iff.mpr (given .remoteTimeout), variableNat?_eq_ok_iff.mpr (given .port),
      variableNat?_eq_ok_iff.mpr (given .grace), variableFormat?_eq_ok_iff.mpr (given .logFormat),
      taken_eq_iff.mp (given .databaseUrl), taken_eq_iff.mp (given .apiKey), taken_eq_iff.mp (given .baseUrl),
      taken_spellsList_iff.mp (given .localAddresses), taken_eq_iff.mp (given .localAddressesFile),
      taken_eq_iff.mp (given .bindAddress), taken_eq_iff.mp (given .logLevel)]
    rfl

end Variables

end Settings
end Armory
