import Armory.Proofs.Store.Laws
import Armory.Store.Shelf

/-! Storage of either kind, as its callers see it: by what is found under each name. A save or an update that
succeeds puts a loadout under one name and leaves what is found elsewhere as it is, and a name under which something
is found is listed once. -/
namespace Armory.Store.Shelf

variable {s : Shelf} {account name : String} {l : StoredLoadout}

/-- What is found under a name. -/
def select (s : Shelf) (account name : String) : Except StoreError (Option StoredLoadout) :=
  (s.answer (.select account name)).1

/-- Looking up changes nothing. -/
theorem answer_select (s : Shelf) (account name : String) :
    s.answer (.select account name) = (s.select account name, s) := by
  refine Prod.ext rfl ?_
  cases s with
  | inl m => rfl
  | inr d =>
    simp only [answer, Database.answer]
    split <;> rfl

/-- Something is found under a name. -/
def Has (s : Shelf) (account name : String) : Prop := ∃ l, s.select account name = .ok (some l)

/-- Listing changes nothing. -/
theorem answer_list (s : Shelf) (account : String) : (s.answer (.list account)).2 = s := by
  cases s with
  | inl m => rfl
  | inr d =>
    simp only [answer, Database.answer]
    split <;> rfl

/-! ## Putting a loadout under a name -/

/-- Storage `s'` is `s` with a loadout put under a name. -/
def Put (s : Shelf) (account name : String) (l : StoredLoadout) (s' : Shelf) : Prop :=
  ∀ account' name', s'.select account' name' =
    if account = account' ∧ name = name' then .ok (some l) else s.select account' name'

theorem Put.has_iff {s' : Shelf} (h : s.Put account name l s') {account' name' : String} :
    s'.Has account' name' ↔ (account = account' ∧ name = name') ∨ s.Has account' name' := by
  simp only [Has, h account' name']
  by_cases own : account = account' ∧ name = name' <;> simp [own]

theorem put_memory (m : Memory) (account name : String) (l : StoredLoadout) :
    Put (.inl m) account name l (.inl (m.put account name l)) := by
  intro account' name'
  simp only [select, answer, Memory.answer, Memory.get?_put]
  split <;> rfl

theorem put_database {d d' : Database} (usable : d.unusable? "loadouts" = none)
    (usable' : d'.unusable? "loadouts" = none)
    (text? : ∀ account' name', d'.text? account' name' =
      if account = account' ∧ name = name' then some l.encode else d.text? account' name') :
    Put (.inr d) account name l (.inr d') := by
  intro account' name'
  simp only [select, answer, Database.answer, usable, usable', Database.select, text?]
  by_cases own : account = account' ∧ name = name'
  · simp only [if_pos own, Database.decodeText, StoredLoadout.decode?_encode]
    rfl
  · simp only [if_neg own]

/-- A save that succeeds has put the loadout under its name. -/
theorem put_of_save (h : (s.answer (.save account name l)).1 = .ok ()) :
    s.Put account name l (s.answer (.save account name l)).2 := by
  cases s with
  | inl m =>
    simp only [answer, Memory.answer] at h ⊢
    split at h
    · cases h
    · rw [if_neg ‹_›]
      exact put_memory m account name l
  | inr d =>
    simp only [answer] at h ⊢
    rcases d.answer_save account name l with ⟨e, refused⟩ | ⟨usable, free, added⟩
    · rw [refused] at h
      cases h
    · rw [added]
      exact put_database usable usable (Database.text?_addRow free)

/-- So has an update that replaces something. -/
theorem put_of_update (h : (s.answer (.update account name l)).1 = .ok true) :
    s.Put account name l (s.answer (.update account name l)).2 := by
  cases s with
  | inl m =>
    simp only [answer, Memory.answer] at h ⊢
    split at h
    · rw [if_pos ‹_›]
      exact put_memory m account name l
    · cases h
  | inr d =>
    simp only [answer] at h ⊢
    rcases d.answer_update account name l with ⟨r, other, left⟩ | ⟨usable, taken, replaced⟩
    · rw [left] at h
      exact absurd h other
    · rw [replaced]
      exact put_database usable usable (Database.text?_setText taken)

/-- An update that replaces nothing changes nothing. -/
theorem answer_update_of_absent (h : (s.answer (.update account name l)).1 = .ok false) :
    (s.answer (.update account name l)).2 = s := by
  cases s with
  | inl m =>
    simp only [answer, Memory.answer] at h ⊢
    split at h
    · cases h
    · rw [if_neg ‹_›]
  | inr d =>
    simp only [answer] at h ⊢
    rcases d.answer_update account name l with ⟨r, -, left⟩ | ⟨-, -, replaced⟩
    · rw [left]
    · rw [replaced] at h
      cases h

/-- What is found in a usable database has a text there. -/
theorem usable_of_select {d : Database} {found : Option StoredLoadout}
    (h : select (.inr d) account name = .ok found) :
    d.unusable? "loadouts" = none ∧ (d.text? account name).isSome = found.isSome := by
  simp only [select, answer, Database.answer] at h
  cases usable : d.unusable? "loadouts" with
  | some e =>
    rw [usable] at h
    cases h
  | none =>
    simp only [usable, Database.select] at h
    refine ⟨rfl, ?_⟩
    cases text : d.text? account name with
    | none =>
      rw [text] at h
      cases h
      rfl
    | some t =>
      rw [text] at h
      dsimp only at h
      cases decoded : Database.decodeText name t with
      | error e =>
        rw [decoded] at h
        cases h
      | ok l =>
        rw [decoded] at h
        cases h
        rfl

/-- A save under a free name succeeds. -/
theorem save_of_free (free : s.select account name = .ok none) (l : StoredLoadout) :
    (s.answer (.save account name l)).1 = .ok () := by
  cases s with
  | inl m =>
    have none : m.get? account name = none := Except.ok.inj free
    simp [answer, Memory.answer, none]
  | inr d =>
    obtain ⟨usable, absent⟩ := usable_of_select free
    simp only [answer, Database.answer, usable, absent]
    rfl

/-- A save under a name that is taken fails and changes nothing. -/
theorem save_of_taken (taken : s.Has account name) (l : StoredLoadout) :
    ∃ e, s.answer (.save account name l) = (.error e, s) := by
  obtain ⟨l', found⟩ := taken
  cases s with
  | inl m =>
    have some : m.get? account name = some l' := Except.ok.inj found
    exact ⟨Memory.taken name, by simp [answer, Memory.answer, some]⟩
  | inr d =>
    obtain ⟨usable, present⟩ := usable_of_select found
    exact ⟨Database.notUnique, by simp [answer, Database.answer, usable, present]⟩

/-! ## Names -/

/-- What either kind of storage always keeps: a memory has its names in order, and a database has no two rows
with the same key. -/
def Sound : Shelf → Prop
  | .inl m => m.Ordered
  | .inr d => d.Keyed

theorem Sound.answer (h : s.Sound) (c : Store.Call) : (s.answer c).2.Sound := by
  cases s with
  | inl m => exact Memory.Ordered.answer h c
  | inr d => exact Database.Keyed.answer h c

/-- A name under which something is found is listed, and listed once. -/
theorem Sound.count_names (h : s.Sound) (found : s.Has account name) :
    ∃ names, (s.answer (.list account)).1 = .ok names ∧ names.count name = 1 := by
  obtain ⟨l, found⟩ := found
  cases s with
  | inl m =>
    have taken : m.get? account name = some l := Except.ok.inj found
    exact ⟨m.names account, rfl, List.count_eq_one_of_mem
      (Table.nodup_of_ascending (Memory.Ordered.names h account))
      (Memory.mem_names.mpr (by rw [taken]; rfl))⟩
  | inr d =>
    obtain ⟨usable, present⟩ := usable_of_select found
    refine ⟨d.names account, by simp [Shelf.answer, Database.answer, usable], ?_⟩
    exact List.count_eq_one_of_mem (Table.nodup_of_ascending (Database.Keyed.names h account))
      (Database.mem_names.mpr (by rw [present]; rfl))

end Armory.Store.Shelf
