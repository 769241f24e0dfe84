import Armory.Proofs.Store.Laws

/-! The two kinds of storage, side by side. A memory and a database that have taken the same calls hold the same
loadouts under the same names, the one as values and the other as texts that are read back. Main statement: whoever
asks them the same questions is told the same (`Store.memory_alike_database`). -/
namespace Armory.Store

open Database (migrate)

/-- Two replies to a call that say the same. Why a loadout was not saved, each storage says in its own words. -/
def Call.SameReply : (c : Call) → Except StoreError c.Success → Except StoreError c.Success → Prop
  | .save _ _ _, r, r' => r.isOk = r'.isOk
  | .select _ _, r, r' => r = r'
  | .update _ _ _, r, r' => r = r'
  | .list _, r, r' => r = r'
  | .record _ _, r, r' => r = r'

/-- Storage after some calls. -/
def after {σ : Type} (answer : Dialogue.Answering Store σ) (calls : List Call) (s : σ) : σ :=
  calls.foldl (fun s c => (answer c s).2) s

/-- A memory and a database in use with the same loadouts under the same names. -/
structure Alike (m : Memory) (d : Database) : Prop where
  closed : d.closed = false
  migrated : d.migrated = true
  text? : ∀ account name, d.text? account name = (m.get? account name).map StoredLoadout.encode
  ordered : m.Ordered
  keyed : d.Keyed

namespace Alike

variable {m : Memory} {d : Database} {account name : String} {l : StoredLoadout}

theorem empty : Alike {} (migrate {}) where
  closed := rfl
  migrated := rfl
  text? _ _ := rfl
  ordered := Memory.ordered_empty
  keyed := Database.keyed_empty

theorem usable (h : Alike m d) (table : String) : d.unusable? table = none := by
  simp [Database.unusable?, h.closed, h.migrated]

theorem isSome_text? (h : Alike m d) (account name : String) :
    (d.text? account name).isSome = (m.get? account name).isSome := by
  rw [h.text?, Option.isSome_map]

/-- A loadout is read back from the row under its name. -/
theorem select (h : Alike m d) (account name : String) :
    d.select account name = .ok (m.get? account name) := by
  rw [Database.select, h.text?]
  cases m.get? account name with
  | none => rfl
  | some l =>
    simp only [Option.map_some, Database.decodeText, StoredLoadout.decode?_encode]
    rfl

/-- Both list the same names, and both in ascending order. -/
theorem names (h : Alike m d) (account : String) : d.names account = m.names account := by
  have ordered := h.ordered.names account
  have keyed := h.keyed.names account
  have same : (d.names account).Perm (m.names account) := by
    rw [List.perm_ext_iff_of_nodup (Table.nodup_of_ascending keyed)
      (Table.nodup_of_ascending ordered)]
    intro name
    rw [Database.mem_names, Memory.mem_names, h.isSome_text?]
  refine same.eq_of_pairwise (fun a b _ _ less more => ?_) keyed ordered
  exact absurd (String.lt_trans less more) (String.lt_irrefl a)

/-- A loadout that is put into both is found in both. -/
theorem put {d' : Database} (h : Alike m d)
    (text? : ∀ account' name', d'.text? account' name' =
      if account = account' ∧ name = name' then some l.encode else d.text? account' name')
    (closed : d'.closed = d.closed) (migrated : d'.migrated = d.migrated) (keyed : d'.Keyed) :
    Alike (m.put account name l) d' where
  closed := closed.trans h.closed
  migrated := migrated.trans h.migrated
  text? account' name' := by
    rw [text?, Memory.get?_put, h.text?]
    split <;> rfl
  ordered := h.ordered.put account name l
  keyed := keyed

/-- **One call.** It is answered alike, what it leaves is alike, and it changes nothing if it fails. -/
theorem step (h : Alike m d) (c : Call) :
    c.SameReply (m.answer c).1 (d.answer c).1 ∧ Alike (m.answer c).2 (d.answer c).2 ∧
      ((m.answer c).1.isOk = false → (m.answer c).2 = m ∧ (d.answer c).2 = d) := by
  have succeeds {a : Prop} : true = false → a := fun h => absurd h (by decide)
  cases c with
  | select account name =>
    simp only [Memory.answer, Database.answer, h.usable, h.select]
    exact ⟨rfl, h, succeeds⟩
  | list account =>
    simp only [Memory.answer, Database.answer, h.usable, h.names]
    exact ⟨rfl, h, succeeds⟩
  | record kind value =>
    simp only [Memory.answer, Database.answer, h.usable]
    exact ⟨rfl, ⟨h.closed, h.migrated, h.text?, h.ordered, h.keyed⟩, succeeds⟩
  | save account name l =>
    simp only [Memory.answer, Database.answer, h.usable, h.isSome_text?]
    split
    · exact ⟨rfl, h, fun _ => ⟨rfl, rfl⟩⟩
    · rename_i free
      have free : d.text? account name = none := by simpa [h.text?] using free
      exact ⟨rfl, h.put (Database.text?_addRow free) rfl rfl (h.keyed.addRow free), succeeds⟩
  | update account name l =>
    simp only [Memory.answer, Database.answer, h.usable, h.isSome_text?]
    split
    · rename_i taken
      rw [← h.isSome_text?] at taken
      exact ⟨rfl, h.put (Database.text?_setText taken) rfl rfl h.keyed.setText, succeeds⟩
    · exact ⟨rfl, h, succeeds⟩

/-- **Any number of calls.** -/
theorem after (h : Alike m d) (calls : List Call) :
    Alike (Store.after Memory.answer calls m) (Store.after Database.answer calls d) := by
  induction calls generalizing m d with
  | nil => exact h
  | cons c calls ih => exact ih (h.step c).2.1

end Alike

/-- **Storage in memory behaves like storage in a database.** From empty storage and a database that has just
got its tables, and after any calls, the next call is answered alike: what is found under a name, whether there
was a loadout to replace, and which names there are and in which order; a loadout is saved by both or by neither,
and a call that fails changes neither. -/
theorem memory_alike_database (before : List Call) (c : Call) :
    let m := after Memory.answer before {}
    let d := after Database.answer before (migrate {})
    c.SameReply (m.answer c).1 (d.answer c).1 ∧
      ((m.answer c).1.isOk = false → (m.answer c).2 = m ∧ (d.answer c).2 = d) := by
  intro m d
  have alike : Alike m d := Alike.empty.after before
  obtain ⟨same, -, unchanged⟩ := alike.step c
  exact ⟨same, unchanged⟩

end Armory.Store
