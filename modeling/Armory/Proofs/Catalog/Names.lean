import Armory.Proofs.Catalog.Index
import Armory.Proofs.Table
import Armory.Proofs.Text.Lowercase

/-!
# Names in the form that comparisons use

That form consists of words in lower case with single spaces between them, and words in lower case are words again, so
bringing a name into the form twice is bringing it into the form once (`normalizeName_normalizeName`). Where no alias
stands for an alias, so is replacing it (`Catalog.itemName_itemName`).
-/

namespace Armory

/-! ## Words -/

namespace Text

variable {ws : List (List Char)}

/-- Stretches of text without white space, none of them empty. -/
def AreWords (ws : List (List Char)) : Prop := ∀ w ∈ ws, w ≠ [] ∧ ∀ c ∈ w, isBlank c = false

theorem areWords_wordsFrom {current : List Char} (visible : ∀ c ∈ current, isBlank c = false) (s : List Char) :
    AreWords (wordsFrom current s) := by
  induction s generalizing current with
  | nil =>
    unfold wordsFrom
    split
    · exact nofun
    · rename_i some
      exact List.forall_mem_singleton.mpr ⟨by simpa using some, visible⟩
  | cons c rest ih =>
    unfold wordsFrom
    split
    · have later : AreWords (wordsFrom [] rest) := ih nofun
      split
      · exact later
      · rename_i some
        exact List.forall_mem_cons.mpr ⟨⟨by simpa using some, visible⟩, later⟩
    · rename_i shows
      refine ih fun d hd => ?_
      rcases List.mem_append.mp hd with before | here
      · exact visible d before
      · rw [List.mem_singleton.mp here]
        exact Bool.eq_false_iff.mpr shows

theorem areWords_words (s : List Char) : AreWords (words s) := areWords_wordsFrom (List.forall_mem_nil _) s

/-- A stretch without white space is read into the word at hand. -/
theorem wordsFrom_append {w : List Char} (visible : ∀ c ∈ w, isBlank c = false) (current rest : List Char) :
    wordsFrom current (w ++ rest) = wordsFrom (current ++ w) rest := by
  induction w generalizing current with
  | nil => rw [List.append_nil, List.nil_append]
  | cons c w ih =>
    obtain ⟨shows, visible⟩ := List.forall_mem_cons.mp visible
    rw [List.cons_append, wordsFrom, if_neg (by simp [shows]), ih visible, List.append_assoc, List.singleton_append]

/-- Words are read back from the text that joins them. -/
theorem words_spaced (h : AreWords ws) : words (spaced ws) = ws := by
  induction ws with
  | nil => rfl
  | cons w ws ih =>
    obtain ⟨⟨nonempty, visible⟩, h⟩ := List.forall_mem_cons.mp h
    have some : w.isEmpty = false := by simpa using nonempty
    cases ws with
    | nil =>
      have read := wordsFrom_append visible [] []
      rw [List.append_nil, List.nil_append, wordsFrom, some] at read
      exact read
    | cons next ws =>
      have read := wordsFrom_append visible [] (' ' :: spaced (next :: ws))
      rw [List.nil_append, wordsFrom, if_pos (by decide), some] at read
      rw [spaced, words, read]
      · exact congrArg (w :: ·) (ih h)
      · exact List.cons_ne_nil _ _

/-- Words in lower case are words. -/
theorem exists_lowerFrom_spaced (h : AreWords ws) (before : List Char) :
    ∃ ws', AreWords ws' ∧ (ws' = [] ↔ ws = []) ∧ lowerFrom before (spaced ws) = spaced ws' := by
  induction ws generalizing before with
  | nil => exact ⟨[], List.forall_mem_nil _, Iff.rfl, rfl⟩
  | cons w ws ih =>
    obtain ⟨⟨nonempty, visible⟩, h⟩ := List.forall_mem_cons.mp h
    cases ws with
    | nil =>
      obtain ⟨w', empty, visible', lower⟩ := exists_lowerFrom_append visible before []
      rw [List.append_nil, lowerFrom, List.append_nil] at lower
      refine ⟨[w'], List.forall_mem_singleton.mpr ⟨mt empty.mp nonempty, visible'⟩, by simp, lower⟩
    | cons next ws =>
      obtain ⟨w', empty, visible', lower⟩ := exists_lowerFrom_append visible before (' ' :: spaced (next :: ws))
      obtain ⟨ws', words, none, later⟩ := ih h (' ' :: (w.reverse ++ before))
      refine ⟨w' :: ws', List.forall_mem_cons.mpr ⟨⟨mt empty.mp nonempty, visible'⟩, words⟩, by simp, ?_⟩
      rw [spaced, lower, lowerFrom_space, later]
      · obtain ⟨first, rest, rfl⟩ := List.exists_cons_of_ne_nil (mt none.mp (List.cons_ne_nil _ _))
        rfl
      · exact List.cons_ne_nil _ _

end Text

open Text in
/-- **Bringing a name into its form twice is doing so once.** -/
theorem normalizeName_normalizeName (name : String) : normalizeName (normalizeName name) = normalizeName name := by
  obtain ⟨ws, areWords, -, form⟩ := exists_lowerFrom_spaced (areWords_words name.toList) []
  have lower : lowercase (spaced (words name.toList)) = spaced ws := form
  have again : lowercase (spaced ws) = spaced ws := by
    rw [← lower, lowercase_lowercase]
  rw [normalizeName, normalizeName, lower, String.toList_ofList, words_spaced areWords, again]

/-! ## Aliases -/

/-- No alias stands for an alias. -/
def Table.Unchained (aliases : Table String String) : Prop :=
  ∀ short name, aliases.get? short = some name → aliases.get? name = none

namespace Catalog

/-- What an alias stands for is in the form that comparisons use. -/
theorem normalizeName_of_alias {aliases : List (String × String)} {short name : String}
    (h : (aliasTable aliases).get? short = some name) : normalizeName name = name := by
  rw [aliasTable, Table.get?_ofList] at h
  obtain ⟨e, found, rfl⟩ := Option.map_eq_some_iff.mp h
  obtain ⟨a, -, rfl⟩ := List.mem_map.mp (List.mem_reverse.mp (List.mem_of_find?_eq_some found))
  exact normalizeName_normalizeName a.2

variable {s : Source} {name : String} {h : Hash}

theorem normalizeName_itemName (s : Source) (name : String) :
    normalizeName ((ofSource s).itemName name) = (ofSource s).itemName name := by
  unfold itemName
  cases meant : (ofSource s).itemAliases.get? (normalizeName name) with
  | none => exact normalizeName_normalizeName name
  | some full => exact normalizeName_of_alias meant

/-- **Replacing an alias twice is replacing it once.** -/
theorem itemName_itemName (unchained : (ofSource s).itemAliases.Unchained) (name : String) :
    (ofSource s).itemName ((ofSource s).itemName name) = (ofSource s).itemName name := by
  have full : (ofSource s).itemAliases.get? ((ofSource s).itemName name) = none := by
    unfold itemName
    cases meant : (ofSource s).itemAliases.get? (normalizeName name) with
    | none => exact meant
    | some full => exact unchained _ full meant
  rw [itemName, normalizeName_itemName, full, Option.getD_none]

theorem itemHash?_itemName (unchained : (ofSource s).itemAliases.Unchained) (name : String) :
    (ofSource s).itemHash? ((ofSource s).itemName name) = (ofSource s).itemHash? name := by
  rw [itemHash?, itemName_itemName unchained, itemHash?]

/-- A name is that of a definition, in the form that comparisons use, and of all definitions with this name the hash is
that of the first. -/
def Source.Indexes (s : Source) (name : String) (h : Hash) : Prop :=
  ∃ d, s.definitions.find? (fun d => decide (normalizeName d.name = name)) = some d ∧ d.itemHash = h

/-- A name that means a hash is the one under which it is found. -/
theorem indexes_of_itemHash? (known : (ofSource s).itemHash? name = some h) :
    s.Indexes ((ofSource s).itemName name) h := by
  have found : (Table.ofListFirst (s.definitions.map fun d => (normalizeName d.name, d.itemHash))).get?
      ((ofSource s).itemName name) = some h := known
  rw [Table.get?_ofListFirst, List.find?_map, Option.map_map, Option.map_eq_some_iff] at found
  simp only [Function.comp_def] at found
  exact found

/-- Whether aliases stand for no aliases is seen entry by entry. -/
theorem unchained_aliasTable {aliases : List (String × String)}
    (plain : ∀ e ∈ (aliasTable aliases).entries, (aliasTable aliases).get? e.2 = none) :
    (aliasTable aliases).Unchained := by
  intro short name meant
  have ordered : (aliasTable aliases).Ordered := Table.ordered_ofList _
  exact plain (short, name) (ordered.get?_eq_some_iff.mp meant)

/-- The aliases that a catalog has if it is given no others. -/
theorem unchained_default : (aliasTable ({} : Source).itemAliases).Unchained :=
  unchained_aliasTable (by decide +kernel)

end Catalog
end Armory
