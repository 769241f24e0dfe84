import Armory.Proofs.Loadout.Encoding
import Armory.Proofs.Table
import Armory.Store.Database
import Armory.Store.Memory

/-! What the two kinds of storage keep. A table of the memory lists its keys in ascending order, and the rows of
a database have different keys. Both are read by account and name: `get?` of a memory and `text?` of a database,
which what is saved or replaced sets at one place and leaves alone at every other. -/
namespace Armory

namespace Store

/-! ## Memory -/

namespace Memory

variable {m : Memory} {account name account' name' : String} {l : StoredLoadout}

/-- The loadouts of each account are in order. -/
def Ordered (m : Memory) : Prop := ∀ account, (m.ofAccount account).Ordered

theorem ordered_empty : Ordered {} := fun _ => Table.ordered_empty

theorem ofAccount_put (m : Memory) (account name account' : String) (l : StoredLoadout) :
    (m.put account name l).ofAccount account' =
      if account = account' then (m.ofAccount account).insert name l else m.ofAccount account' := by
  by_cases h : account = account' <;> simp [put, ofAccount, h]

theorem get?_put (m : Memory) (account name account' name' : String) (l : StoredLoadout) :
    (m.put account name l).get? account' name' =
      if account = account' ∧ name = name' then some l else m.get? account' name' := by
  by_cases h : account = account'
  · subst h
    simp [get?, ofAccount_put]
  · simp [get?, ofAccount_put, h]

theorem Ordered.put (h : m.Ordered) (account name : String) (l : StoredLoadout) :
    (m.put account name l).Ordered := by
  intro account'
  rw [ofAccount_put]
  split
  · exact (h account).insert name l
  · exact h account'

theorem mem_names : name ∈ m.names account ↔ (m.get? account name).isSome := Table.mem_keys

theorem Ordered.names (h : m.Ordered) (account : String) : (m.names account).Pairwise (· < ·) :=
  (h account).keys

/-- No call disturbs the order. -/
theorem Ordered.answer (h : m.Ordered) (c : Call) : (m.answer c).2.Ordered := by
  cases c with
  | select account name => exact h
  | list account => exact h
  | record kind value => exact h
  | save account name l =>
    simp only [Memory.answer]
    split
    · exact h
    · exact h.put account name l
  | update account name l =>
    simp only [Memory.answer]
    split
    · exact h.put account name l
    · exact h

end Memory

/-! ## Database -/

theorem LoadoutRow.hasKey_iff {r : LoadoutRow} {account name : String} :
    r.hasKey account name = true ↔ r.account = account ∧ r.name = name := by
  simp [LoadoutRow.hasKey]

/-- The key of a row. -/
def LoadoutRow.key (r : LoadoutRow) : String × String := (r.account, r.name)

namespace Database

variable {d : Database} {account name account' name' text : String}

/-- No two rows have the same key. -/
def Keyed (d : Database) : Prop := (d.loadouts.map (·.key)).Nodup

theorem keyed_empty : Keyed {} := .nil

theorem isSome_text? :
    (d.text? account name).isSome ↔ (account, name) ∈ d.loadouts.map (·.key) := by
  simp [text?, LoadoutRow.hasKey_iff, LoadoutRow.key]

theorem text?_addRow (free : d.text? account name = none) (account' name' : String) :
    (d.addRow account name text).text? account' name' =
      if account = account' ∧ name = name' then some text else d.text? account' name' := by
  by_cases h : account = account' ∧ name = name'
  · obtain ⟨rfl, rfl⟩ := h
    have own : LoadoutRow.hasKey ⟨account, name, text⟩ account name = true :=
      LoadoutRow.hasKey_iff.mpr ⟨rfl, rfl⟩
    rw [text?, Option.map_eq_none_iff] at free
    simp [text?, addRow, List.find?_append, free, own]
  · have other : LoadoutRow.hasKey ⟨account, name, text⟩ account' name' = false := by
      rwa [← Bool.not_eq_true, LoadoutRow.hasKey_iff]
    simp [text?, addRow, List.find?_append, other, h]

theorem text?_setText (taken : (d.text? account name).isSome) (account' name' : String) :
    (d.setText account name text).text? account' name' =
      if account = account' ∧ name = name' then some text else d.text? account' name' := by
  have key : ∀ r : LoadoutRow,
      (if r.hasKey account name then { r with text } else r).hasKey account' name' =
        r.hasKey account' name' := by
    intro r
    split <;> rfl
  have found : (d.setText account name text).text? account' name' =
      (d.loadouts.find? (·.hasKey account' name')).map fun r =>
        if r.hasKey account name then text else r.text := by
    simp only [text?, setText, List.find?_map, Option.map_map]
    congr 1
    · funext r
      simp only [Function.comp]
      split <;> rfl
    · simp only [Function.comp_def, key]
  rw [found]
  cases hr : d.loadouts.find? (·.hasKey account' name') with
  | none =>
    have absent : d.text? account' name' = none := by rw [text?, hr]; rfl
    have other : ¬ (account = account' ∧ name = name') := by
      rintro ⟨rfl, rfl⟩
      rw [absent] at taken
      cases taken
    rw [if_neg other, absent]
    rfl
  | some r =>
    have own : r.hasKey account' name' = true :=
      List.find?_some (p := fun r : LoadoutRow => r.hasKey account' name') hr
    obtain ⟨rfl, rfl⟩ := LoadoutRow.hasKey_iff.mp own
    by_cases h : account = r.account ∧ name = r.name
    · obtain ⟨rfl, rfl⟩ := h
      simp [own]
    · have other : r.hasKey account name = false := by
        rw [← Bool.not_eq_true, LoadoutRow.hasKey_iff]
        exact fun same => h ⟨same.1.symm, same.2.symm⟩
      simp [text?, hr, other, h]

theorem Keyed.addRow (h : d.Keyed) (free : d.text? account name = none) :
    (d.addRow account name text).Keyed := by
  have fresh : (account, name) ∉ d.loadouts.map (·.key) := by
    rw [← isSome_text?, free]
    nofun
  rw [Keyed, Database.addRow, List.map_append, List.nodup_append]
  refine ⟨h, List.nodup_singleton _, fun k hk k' hk' => ?_⟩
  rw [List.mem_singleton.mp hk']
  rintro rfl
  exact fresh hk

theorem Keyed.setText (h : d.Keyed) : (d.setText account name text).Keyed := by
  have same : (d.setText account name text).loadouts.map (·.key) = d.loadouts.map (·.key) := by
    rw [Database.setText, List.map_map]
    congr 1
    funext r
    simp only [Function.comp]
    split <;> rfl
  rw [Keyed, same]
  exact h

theorem mem_names : name ∈ d.names account ↔ (d.text? account name).isSome := by
  rw [isSome_text?, names, List.mem_mergeSort]
  simp [LoadoutRow.key, and_assoc]

/-- Names stand in ascending order, each once, as no two rows of an account have the same one. -/
theorem Keyed.names (h : d.Keyed) (account : String) : (d.names account).Pairwise (· < ·) := by
  have ordered : (d.names account).Pairwise fun a b => a ≤ b := by
    have sorted : (d.names account).Pairwise fun a b => decide (a ≤ b) = true :=
      List.pairwise_mergeSort (fun a b c => by simpa using String.le_trans)
        (fun a b => by simpa using String.le_total a b) _
    simpa using sorted
  have once : (d.names account).Nodup := by
    rw [Database.names, (List.mergeSort_perm _ _).nodup_iff, List.Nodup, List.pairwise_map]
    refine ((List.pairwise_map.mp h).filter _).imp_of_mem fun {r s} hr hs different same => ?_
    have hr := (List.mem_filter.mp hr).2
    have hs := (List.mem_filter.mp hs).2
    rw [beq_iff_eq] at hr hs
    exact different (Prod.ext (hr.trans hs.symm) same)
  exact ordered.imp₂ (fun a b => Std.lt_of_le_of_ne) once

/-- What a save can do: nothing, or add a row under a name that is free. -/
theorem answer_save (d : Database) (account name : String) (l : StoredLoadout) :
    (∃ e, d.answer (.save account name l) = (.error e, d)) ∨
      (d.unusable? "loadouts" = none ∧ d.text? account name = none ∧
        d.answer (.save account name l) = (.ok (), d.addRow account name l.encode)) := by
  simp only [Database.answer]
  split
  · exact .inl ⟨_, rfl⟩
  split
  · exact .inl ⟨_, rfl⟩
  · rename_i usable free
    exact .inr ⟨usable, by simpa using free, rfl⟩

/-- What an update can do: nothing, or replace the text of a name that is taken. -/
theorem answer_update (d : Database) (account name : String) (l : StoredLoadout) :
    (∃ r, r ≠ .ok true ∧ d.answer (.update account name l) = (r, d)) ∨
      (d.unusable? "loadouts" = none ∧ (d.text? account name).isSome ∧
        d.answer (.update account name l) = (.ok true, d.setText account name l.encode)) := by
  simp only [Database.answer]
  split
  · exact .inl ⟨.error _, nofun, rfl⟩
  split
  · exact .inr ⟨‹_›, ‹_›, rfl⟩
  · exact .inl ⟨.ok false, nofun, rfl⟩

/-- No call gives two rows the same key. -/
theorem Keyed.answer (h : d.Keyed) (c : Call) : (d.answer c).2.Keyed := by
  cases c with
  | select account name =>
    simp only [Database.answer]
    split <;> exact h
  | list account =>
    simp only [Database.answer]
    split <;> exact h
  | record kind value =>
    simp only [Database.answer]
    split <;> exact h
  | save account name l =>
    rcases d.answer_save account name l with ⟨e, refused⟩ | ⟨-, free, added⟩
    · rwa [refused]
    · rw [added]
      exact h.addRow free
  | update account name l =>
    rcases d.answer_update account name l with ⟨r, -, left⟩ | ⟨-, -, replaced⟩
    · rwa [left]
    · rw [replaced]
      exact h.setText

end Database
end Store
end Armory
