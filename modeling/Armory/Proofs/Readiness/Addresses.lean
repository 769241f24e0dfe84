import Mathlib.Data.List.DropRight
import Armory.Proofs.Net.IpAddress
import Armory.Proofs.Settings.Precedence
import Armory.Startup

/-!
# Outbound addresses, as checked and as used

The check of the outbound addresses takes each one as it stands, a client is made for one without the white space at its
ends. For valid settings that comes to the same: an address of the settings has been checked as it stands, and one of
the file has been trimmed before. Main statement: the check names exactly the addresses that no client is made for, and
the number that it reports is that of the clients (`Readiness.addresses_agreed`).
-/

namespace Armory

/-! ## White space at the ends -/

namespace Text

variable {s : List Char}

/-- A text at both ends of which stands no white space. -/
theorem trimChars_eq_self (first : ∀ h : 0 < s.length, isBlank s[0] = false)
    (last : ∀ h : s ≠ [], isBlank (s.getLast h) = false) : trimChars s = s := by
  have start : trimStart s = s := List.dropWhile_eq_self_iff.mpr fun h => by simp [first h]
  rw [trimChars, start]
  exact List.rdropWhile_eq_self_iff.mpr fun h => by simp [last h]

theorem trimChars_of_forall (h : ∀ c ∈ s, isBlank c = false) : trimChars s = s :=
  trimChars_eq_self (fun _ => h _ (List.getElem_mem _)) fun _ => h _ (List.getLast_mem _)

theorem trimChars_trimChars (s : List Char) : trimChars (trimChars s) = trimChars s := by
  have last : ∀ h : trimChars s ≠ [], isBlank ((trimChars s).getLast h) = false :=
    fun h => Bool.eq_false_iff.mpr (List.rdropWhile_last_not isBlank (trimStart s) h)
  refine trimChars_eq_self (fun h => ?_) last
  -- the end is cut off from a text that begins without white space
  obtain ⟨tail, whole⟩ : trimChars s <+: trimStart s := List.rdropWhile_prefix isBlank (trimStart s)
  have begins := List.head?_dropWhile_not isBlank s
  rw [← trimStart, ← whole, List.head?_append_of_ne_nil _ (List.ne_nil_of_length_pos h),
    List.head?_eq_getElem?, List.getElem?_eq_getElem h] at begins
  exact begins

end Text

/-! ## Addresses -/

namespace Readiness

open Wire (Rotation)

/-- The addresses that the file of the settings lists: none if it cannot be read, and else its lines, without the white
space at their ends and the lines of nothing else. -/
def FileLists (h : Host) (s : Settings) (lines : List String) : Prop :=
  match h.read s.remote.localAddressesFile with
  | .error _ => lines = []
  | .ok text => Settings.SpellsList '\n' text lines

variable {h : Host} {s : Settings} {lines : List String} {a : String}

/-- All addresses are those of the settings and then those of the file. -/
theorem exists_fileLists (h : Host) (s : Settings) :
    ∃ lines, FileLists h s lines ∧ addresses h s = s.remote.localAddresses ++ lines := by
  cases read : h.read s.remote.localAddressesFile with
  | error fault =>
    refine ⟨[], ?_, ?_⟩
    · simp only [FileLists, read]
    · simp [addresses, addressFile?, read, Except.toOption, Rotation.allAddresses]
  | ok text =>
    refine ⟨Rotation.addressLines text, ?_, ?_⟩
    · simp only [FileLists, read]
      rw [Settings.spellsList_iff, Text.splitAt_eq_splitOn]
      rfl
    · simp [addresses, addressFile?, read, Except.toOption, Rotation.allAddresses]

theorem trim_of_isAddress (h : (Net.IpAddress.parse? a).isSome) : Text.trim a = a := by
  rw [Text.trim, Text.trimChars_of_forall (Net.IpAddress.isBlank_eq_false_of_parse? h), String.ofList_toList]

theorem FileLists.trim (listed : FileLists h s lines) (mem : a ∈ lines) : Text.trim a = a := by
  unfold FileLists at listed
  split at listed
  · subst listed
    cases mem
  · obtain ⟨pieces, -, -, -, rfl⟩ := listed
    obtain ⟨piece, -, rfl⟩ := List.mem_map.mp (List.mem_of_mem_filter mem)
    rw [Text.trim, String.toList_ofList, Text.trimChars_trimChars]

/-- For valid settings a client can send from an address exactly if the address can be read as it stands. -/
theorem isUsable_eq (sound : s.Sound) (listed : FileLists h s lines)
    (mem : a ∈ s.remote.localAddresses ++ lines) : Rotation.isUsable a = (Net.IpAddress.parse? a).isSome := by
  have trimmed : Text.trim a = a := by
    rcases List.mem_append.mp mem with configured | filed
    · exact trim_of_isAddress (sound.localAddresses a configured)
    · exact listed.trim filed
  rw [Rotation.isUsable, trimmed]

/-- The check names the addresses that no client is made for. -/
theorem unusable_eq (sound : s.Sound) (listed : FileLists h s lines) :
    unusable (s.remote.localAddresses ++ lines) =
      (s.remote.localAddresses ++ lines).filter fun a => !Rotation.isUsable a := by
  refine List.filter_congr fun a mem => ?_
  rw [isUsable_eq sound listed mem, Option.not_isSome]

/-- No address of valid settings is passed over. -/
theorem filter_isUsable (sound : s.Sound) (listed : FileLists h s lines) :
    (s.remote.localAddresses ++ lines).filter Rotation.isUsable =
      s.remote.localAddresses ++ lines.filter Rotation.isUsable := by
  have configured : ∀ a ∈ s.remote.localAddresses, Rotation.isUsable a = true := fun a mem => by
    rw [isUsable_eq sound listed (List.mem_append_left _ mem)]
    exact sound.localAddresses a mem
  rw [List.filter_append, List.filter_eq_self.mpr configured]

/-- The clients are labelled by the addresses that can be used, or there is one for all. -/
theorem map_label_ofAddresses (configured : List String) (file : Option String) (baseUrl : String)
    (patience : Wire.Patience) :
    (Rotation.ofAddresses configured file baseUrl patience).clients.map (·.label) =
      if (Rotation.allAddresses configured file).filter Rotation.isUsable = [] then ["default"]
      else (Rotation.allAddresses configured file).filter Rotation.isUsable := by
  simp [Rotation.ofAddresses, Wire.Client.create, List.isEmpty_iff, Function.comp_def]

/-- The report on addresses of which some cannot be used. -/
theorem checkAddresses_of_unusable (h : Host) (s : Settings) (bad : unusable (addresses h s) ≠ []) :
    checkAddresses h s = ⟨"outbound_addresses", .warn,
      toString (unusable (addresses h s)).length ++ " unusable address(es) will be skipped: " ++
        ", ".intercalate (unusable (addresses h s))⟩ := by
  simp [checkAddresses, bad]

/-- The report on addresses that can all be used. -/
theorem checkAddresses_of_usable (h : Host) (s : Settings) (usable : unusable (addresses h s) = []) :
    checkAddresses h s = ⟨"outbound_addresses", .pass,
      if addresses h s = [] then "no local addresses in config or \x60" ++ s.remote.localAddressesFile ++
        "\x60; one default client will be used"
      else toString (addresses h s).length ++ " outbound client(s) configured"⟩ := by
  simp only [checkAddresses, usable]
  by_cases none : addresses h s = [] <;> simp [none]

theorem toString_append_inj {m n : Nat} {tail : String} (h : toString m ++ tail = toString n ++ tail) : m = n := by
  have same := congrArg String.toList h
  rw [String.toList_append, String.toList_append] at same
  have digits : Nat.toDigits 10 m = Nat.toDigits 10 n := by
    rw [← Nat.toList_repr, ← Nat.toList_repr]
    exact List.append_cancel_right same
  rw [← Nat.ofDigitChars_toDigits (b := 10) (n := m) (by decide) (by decide), digits,
    Nat.ofDigitChars_toDigits (by decide) (by decide)]

/-- The report on no addresses is none of a number of clients. -/
theorem toString_append_ne (n : Nat) (tail path rest : String) :
    toString n ++ tail ≠ "no local addresses in config or \x60" ++ path ++ rest := by
  intro same
  have heads := congrArg (fun t : String => t.toList.head?) same
  obtain ⟨d, ds, digits⟩ := List.exists_cons_of_ne_nil (Nat.toDigits_ne_nil (n := n) (b := 10))
  have digit : d.isDigit := Nat.isDigit_of_mem_toDigits (by decide) (by decide) (digits ▸ List.mem_cons_self)
  have written : (toString n).toList = d :: ds := by rw [← digits, ← Nat.toList_repr]; rfl
  simp only [String.toList_append, written] at heads
  obtain rfl : d = 'n' := by simpa using heads
  exact absurd digit (by decide)

/-- **The check of the outbound addresses agrees with the clients.** Let the settings be valid, and their file of
addresses hold whatever it holds, or be missing. The addresses that the check names are exactly those that no client
is made for, in order. There is one client for each address that remains, labelled by it, those of the settings first,
or a single one if none remains. Where the check names no address and reports a number of clients, there are as many. -/
theorem addresses_agreed (h : Host) {s : Settings} (valid : s.validate = .ok s) :
    ∃ lines, FileLists h s lines ∧
      let all := s.remote.localAddresses ++ lines
      let skipped := all.filter fun a => !Rotation.isUsable a
      let remaining := all.filter Rotation.isUsable
      let clients := (Startup.rotation h s).clients
      unusable (addresses h s) = skipped ∧
      ((checkAddresses h s).status = .warn ↔ skipped ≠ []) ∧
      (skipped ≠ [] → (checkAddresses h s).details = toString skipped.length ++
        " unusable address(es) will be skipped: " ++ ", ".intercalate skipped) ∧
      clients.map (·.label) = (if remaining = [] then ["default"] else remaining) ∧
      clients.length = max 1 remaining.length ∧
      remaining = s.remote.localAddresses ++ lines.filter Rotation.isUsable ∧
      ∀ n, skipped = [] → (checkAddresses h s).details = toString n ++ " outbound client(s) configured" →
        clients.length = n := by
  obtain ⟨-, sound⟩ := Settings.validate_eq_ok_iff.mp valid
  obtain ⟨lines, listed, all⟩ := exists_fileLists h s
  have named : unusable (addresses h s) =
      (s.remote.localAddresses ++ lines).filter fun a => !Rotation.isUsable a := by
    rw [all, unusable_eq sound listed]
  have labels : (Startup.rotation h s).clients.map (·.label) = _ :=
    map_label_ofAddresses s.remote.localAddresses (addressFile? h s) s.remote.baseUrl
      (.ofSettings s.remote.maxAttempts s.remote.backoffMillis)
  rw [← addresses, all] at labels
  have number : (Startup.rotation h s).clients.length =
      max 1 ((s.remote.localAddresses ++ lines).filter Rotation.isUsable).length := by
    rw [← List.length_map (fun c : Wire.Client => c.label), labels]
    split
    · next none => simp [none]
    · next some => exact (Nat.max_eq_right (List.length_pos_iff.mpr some)).symm
  refine ⟨lines, listed, named, ?_, fun some => ?_, labels, number, filter_isUsable sound listed,
    fun n none reported => ?_⟩
  · rw [← named]
    by_cases usable : unusable (addresses h s) = []
    · simp [checkAddresses_of_usable h s usable, usable]
    · simp [checkAddresses_of_unusable h s usable, usable]
  · rw [← named] at some ⊢
    rw [checkAddresses_of_unusable h s some]
  · -- all addresses remain, so they are what the report counts
    have remain : (s.remote.localAddresses ++ lines).filter Rotation.isUsable = s.remote.localAddresses ++ lines :=
      List.filter_eq_self.mpr fun a mem => by simpa using List.filter_eq_nil_iff.mp none a mem
    rw [number, remain, ← all]
    rw [checkAddresses_of_usable h s (named.trans none)] at reported
    split at reported
    · exact absurd reported.symm (toString_append_ne n _ _ _)
    · next some =>
      rw [← toString_append_inj reported]
      exact Nat.max_eq_right (List.length_pos_iff.mpr some)

/-- A host whose file of addresses has white space around an address, a blank line, and a line that is no address. -/
def outpost : Host where
  files := .ofList [(Host.placeOf "local_clients.txt", .bytes " 10.0.0.3\t\n\nmars\r\n2001:db8::1".toUTF8)]

/-- Settings with an address of their own. -/
def manned : Settings where
  remote := { apiKey := "0123456789abcdef", localAddresses := ["10.0.0.2"] }

/-- The line that is no address is named, and there are clients for the address of the settings and two of the file. -/
theorem addresses_agreed_outpost :
    manned.validate = .ok manned ∧
      (checkAddresses outpost manned).details = "1 unusable address(es) will be skipped: mars" ∧
      (Startup.rotation outpost manned).clients.map (·.label) = ["10.0.0.2", "10.0.0.3", "2001:db8::1"] := by
  have valid : manned.validate = .ok manned := by decide +kernel
  obtain ⟨lines, listed, -, -, details, labels, -, -, -⟩ := addresses_agreed outpost valid
  have text : outpost.read manned.remote.localAddressesFile = .ok " 10.0.0.3\t\n\nmars\r\n2001:db8::1" := by
    decide +kernel
  simp only [FileLists, text] at listed
  obtain rfl : lines = ["10.0.0.3", "mars", "2001:db8::1"] :=
    (Settings.spellsList_iff.mp listed).symm.trans (by decide +kernel)
  exact ⟨valid, (details (by decide +kernel)).trans (by decide +kernel), labels.trans (by decide +kernel)⟩

end Readiness
end Armory
