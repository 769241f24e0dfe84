import Mathlib.Data.List.Nodup
import Armory.Proofs.Readiness.Addresses
import Armory.Proofs.Settings.Attribution

/-!
# What the listing shows of the key

The listing shows the value and the source of every setting, but of the key of the game it shows four characters at
most. Two hosts are compared whose settings differ in nothing but the key and come from the same sources. Main
statement: their listings are the same text exactly if both keys are short, or both are long and end in the same four
characters (`listed_alike_iff`).
-/

namespace Armory

/-- Nothing is left of a text without the white space at its ends exactly if it is blank. -/
theorem Text.trimChars_eq_nil_iff {s : List Char} : trimChars s = [] ↔ ∀ c ∈ s, isBlank c = true := by
  rw [trimChars, trimEnd, List.reverse_eq_nil_iff, List.dropWhile_eq_nil_iff, trimStart]
  simp only [List.mem_reverse]
  refine ⟨fun rest => ?_, fun blank c hc => blank c ((List.dropWhile_sublist _).subset hc)⟩
  -- what begins after the white space at the start is not blank, unless nothing is left
  rw [← List.dropWhile_eq_nil_iff, ← List.dropWhile_idempotent]
  exact List.dropWhile_eq_nil_iff.mpr rest

theorem SettingKey.mem_all (k : SettingKey) : k ∈ all := by cases k <;> decide

theorem SettingKey.all_nodup : all.Nodup := by decide

namespace Settings

/-! ## Keys -/

/-- Two keys that are shown alike: both have one to eight characters, or both have more than eight, of which the last
four are the same. White space at the ends does not count. -/
def KeysAlike (key key' : String) : Prop :=
  let cs := Text.trimChars key.toList
  let cs' := Text.trimChars key'.toList
  (1 ≤ cs.length ∧ cs.length ≤ 8 ∧ 1 ≤ cs'.length ∧ cs'.length ≤ 8) ∨
    (8 < cs.length ∧ 8 < cs'.length ∧ ∃ tail : List Char, tail.length = 4 ∧ tail <:+ cs ∧ tail <:+ cs')

section Redact

variable {key key' : String}

theorem redact_of_le (visible : Text.trimChars key.toList ≠ []) (short : (Text.trimChars key.toList).length ≤ 8) :
    redact key = "<redacted>" := by
  simp [redact, visible, short]

theorem redact_of_lt (long : 8 < (Text.trimChars key.toList).length) :
    redact key = "***" ++
      String.ofList ((Text.trimChars key.toList).drop ((Text.trimChars key.toList).length - 4)) := by
  have visible : Text.trimChars key.toList ≠ [] := List.ne_nil_of_length_pos (by omega)
  simp [redact, visible, Nat.not_le_of_lt long]

/-- The mark for a short key is not the beginning of what is shown of a long one. -/
theorem redacted_ne (tail : String) : "<redacted>" ≠ "***" ++ tail := by
  intro same
  have first := congrArg (fun t : String => t.toList.head?) same
  simp at first

/-- The ends of two long texts are the same exactly if the texts have an end of that length in common. -/
theorem drop_eq_drop_iff {cs cs' : List Char} {n : Nat} (long : n ≤ cs.length) (long' : n ≤ cs'.length) :
    cs.drop (cs.length - n) = cs'.drop (cs'.length - n) ↔
      ∃ tail : List Char, tail.length = n ∧ tail <:+ cs ∧ tail <:+ cs' := by
  constructor
  · intro same
    refine ⟨cs.drop (cs.length - n), by rw [List.length_drop]; omega, List.drop_suffix _ _, ?_⟩
    rw [same]
    exact List.drop_suffix _ _
  · rintro ⟨tail, rfl, ends, ends'⟩
    rw [← List.suffix_iff_eq_drop.mp ends, ← List.suffix_iff_eq_drop.mp ends']

/-- **What is shown of two keys is the same** exactly if they are alike. -/
theorem redact_eq_iff (visible : Text.trimChars key.toList ≠ []) (visible' : Text.trimChars key'.toList ≠ []) :
    redact key = redact key' ↔ KeysAlike key key' := by
  have some := List.length_pos_of_ne_nil visible
  have some' := List.length_pos_of_ne_nil visible'
  unfold KeysAlike
  rcases Nat.lt_or_ge 8 (Text.trimChars key.toList).length with long | short <;>
    rcases Nat.lt_or_ge 8 (Text.trimChars key'.toList).length with long' | short'
  · rw [redact_of_lt long, redact_of_lt long', String.append_right_inj, String.ofList_inj,
      drop_eq_drop_iff (by omega) (by omega)]
    refine ⟨fun ends => .inr ⟨long, long', ends⟩, ?_⟩
    rintro (⟨-, short, -⟩ | ⟨-, -, ends⟩)
    · omega
    · exact ends
  · rw [redact_of_lt long, redact_of_le visible' short']
    exact iff_of_false (redacted_ne _).symm (by omega)
  · rw [redact_of_le visible short, redact_of_lt long']
    exact iff_of_false (redacted_ne _) (by omega)
  · rw [redact_of_le visible short, redact_of_le visible' short']
    exact iff_of_true rfl (.inl ⟨some, short, some', short'⟩)

end Redact

/-! ## The rest of the listing -/

variable {s s' : Settings} {h h' : Host}

theorem shown_eq_of_get {k : SettingKey} (same : s.get k = s'.get k) : s.shown k = s'.shown k := by
  cases k <;> simp only [get] at same <;> simp only [shown, same]

/-- Lists of lines that differ in one line at most give the same text exactly if that line is the same. -/
theorem intercalate_eq_iff (sep : String) (front back : List String) {line line' : String} :
    sep.intercalate (front ++ line :: back) = sep.intercalate (front ++ line' :: back) ↔ line = line' := by
  induction front with
  | nil =>
    cases back with
    | nil => simp
    | cons next back =>
      rw [List.nil_append, List.nil_append, String.intercalate_cons_cons, String.intercalate_cons_cons,
        String.append_left_inj, String.append_left_inj]
  | cons first front ih =>
    rw [List.cons_append, List.cons_append, String.intercalate_cons_of_ne_nil (by simp),
      String.intercalate_cons_of_ne_nil (by simp), String.append_right_inj, ih]

/-- Listings with the same sources, of settings that differ in the key alone, differ in what is shown of it. -/
theorem listing_eq_iff {source : SettingKey → Source} (others : ∀ k, k ≠ .apiKey → s.get k = s'.get k) :
    s.listing source = s'.listing source ↔ redact s.remote.apiKey = redact s'.remote.apiKey := by
  obtain ⟨front, back, split⟩ := List.append_of_mem (SettingKey.mem_all .apiKey)
  have once := SettingKey.all_nodup
  rw [split, List.nodup_middle, List.nodup_cons, List.mem_append, not_or] at once
  obtain ⟨⟨before, after⟩, -⟩ := once
  have lines (ks : List SettingKey) (absent : .apiKey ∉ ks) : ks.map (s.line source) = ks.map (s'.line source) := by
    refine List.map_congr_left fun k hk => ?_
    rw [line, line, shown_eq_of_get (others k fun same => absent (same ▸ hk))]
  rw [listing, listing, split, List.map_append, List.map_append, List.map_cons, List.map_cons, lines front before,
    lines back after, ← List.cons_append, ← List.cons_append, intercalate_eq_iff, line, line]
  simp only [String.append_left_inj, String.append_right_inj]
  rfl

/-! ## Sources -/

/-- The settings file of a host is the one at a path and, as it stands, has an entry for a setting. -/
def EntryAt (h : Host) (path : String) (k : SettingKey) : Prop :=
  ∃ t, document? h = some (path, t) ∧ (t.find? [k.group, k.name]).isSome

/-- Two hosts that settings come from in the same way: the same of the variables named after settings are set, to
whatever texts, and the settings file has entries for the same settings, with whatever values. -/
structure SameSources (h h' : Host) : Prop where
  set : ∀ k : SettingKey, (h.lookup? k.mainVariable).isSome = (h'.lookup? k.mainVariable).isSome
  entries : ∀ path k, EntryAt h path k ↔ EntryAt h' path k

section Sources

variable {k : SettingKey} {path : String}

theorem attributed_of_lookup (set : (h.lookup? k.mainVariable).isSome) :
    attributed h k = .environment k.mainVariable := by
  simp only [attributed, sourceOf, if_pos set]

theorem attributed_of_entryAt (unset : ¬ (h.lookup? k.mainVariable).isSome = true) (entry : EntryAt h path k) :
    attributed h k = .file path := by
  obtain ⟨t, found, spelt⟩ := entry
  simp only [attributed, sourceOf, if_neg unset, found, if_pos spelt]

theorem attributed_of_not_entryAt (unset : ¬ (h.lookup? k.mainVariable).isSome = true)
    (absent : ∀ path, ¬ EntryAt h path k) : attributed h k = .default := by
  simp only [attributed, sourceOf, if_neg unset]
  cases found : document? h with
  | none => rfl
  | some d => exact if_neg fun spelt => absent d.1 ⟨d.2, found, spelt⟩

/-- Where the sources are the same, every setting is put down to the same one. -/
theorem SameSources.attributed_eq (same : SameSources h h') : attributed h = attributed h' := by
  funext k
  by_cases set : (h.lookup? k.mainVariable).isSome
  · rw [attributed_of_lookup set, attributed_of_lookup (same.set k ▸ set)]
  have unset : ¬ (h'.lookup? k.mainVariable).isSome = true := same.set k ▸ set
  by_cases entry : ∃ path, EntryAt h path k
  · obtain ⟨path, entry⟩ := entry
    rw [attributed_of_entryAt set entry, attributed_of_entryAt unset ((same.entries path k).mp entry)]
  · have absent (path : String) : ¬ EntryAt h path k := fun there => entry ⟨path, there⟩
    rw [attributed_of_not_entryAt set absent,
      attributed_of_not_entryAt unset fun path there => absent path ((same.entries path k).mpr there)]

end Sources

/-! ## Two runs -/

/-- **The listing gives away four characters of the key at most.** Two hosts have settings that differ in nothing but
the key, and that come from the same sources. What is listed for them is the same exactly if both keys have one to
eight characters, or both have more and end in the same four. -/
theorem listed_alike_iff (loaded : load h {} = .ok s) (loaded' : load h' {} = .ok s')
    (others : ∀ k, k ≠ .apiKey → s.get k = s'.get k) (sources : SameSources h h') :
    (Command.run h .config).1 = (Command.run h' .config).1 ↔ KeysAlike s.remote.apiKey s'.remote.apiKey := by
  have visible {h : Host} {s : Settings} (loaded : load h {} = .ok s) :
      Text.trimChars s.remote.apiKey.toList ≠ [] := by
    obtain ⟨-, -, -, -, -, sound⟩ := load_eq_ok_iff.mp loaded
    obtain ⟨c, hc, shows⟩ := sound.apiKey
    exact fun nothing => by simp [Text.trimChars_eq_nil_iff.mp nothing c hc] at shows
  have listed {h : Host} {s : Settings} (loaded : load h {} = .ok s) :
      (Command.run h .config).1 = ⟨0, s.listing (attributed h)⟩ := by
    simp [Command.run, report, loaded, attributed]
  rw [listed loaded, listed loaded', sources.attributed_eq, Command.Result.mk.injEq, eq_self, true_and,
    listing_eq_iff others, redact_eq_iff (visible loaded) (visible loaded')]

/-- A host with a settings file, and with a key in a variable. -/
def booth (key : String) : Host where
  environment := .ofList [("WARMIND_REMOTE_API_KEY", key)]
  files := .ofList [(Host.placeOf "warmind.toml", .bytes "server.port=9".toUTF8)]

/-- The settings of such a host. -/
def manned (key : String) : Settings where
  remote := { apiKey := key }
  server := { port := 9 }

theorem sameSources_booth (key key' : String) : SameSources (booth key) (booth key') where
  set k := by cases k <;> rfl
  entries _ _ := Iff.rfl

theorem get_manned {key key' : String} (k : SettingKey) (other : k ≠ .apiKey) :
    (manned key).get k = (manned key').get k := by
  cases k <;> first | rfl | exact absurd rfl other

/-- A key with another beginning, and with white space around it, is listed alike. -/
theorem listed_alike_iff_booth :
    load (booth "0123456789abcdef") {} = .ok (manned "0123456789abcdef") ∧
      load (booth " 89abcdef89abcdef ") {} = .ok (manned " 89abcdef89abcdef ") ∧
      SameSources (booth "0123456789abcdef") (booth " 89abcdef89abcdef ") ∧
      (Command.run (booth "0123456789abcdef") .config).1 = (Command.run (booth " 89abcdef89abcdef ") .config).1 := by
  have loaded : load (booth "0123456789abcdef") {} = .ok (manned "0123456789abcdef") := by decide +kernel
  have loaded' : load (booth " 89abcdef89abcdef ") {} = .ok (manned " 89abcdef89abcdef ") := by decide +kernel
  refine ⟨loaded, loaded', sameSources_booth _ _, ?_⟩
  rw [listed_alike_iff loaded loaded' get_manned (sameSources_booth _ _)]
  exact .inr ⟨by decide, by decide, "cdef".toList, rfl, by decide, by decide⟩

end Settings
end Armory
