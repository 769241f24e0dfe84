import Armory.Proofs.Store.Shelf

/-! Storage as a store of many accounts. What it holds for one account decides how it answers that account's calls,
and what it holds for it afterwards (`Shelf.answer_congr`); what it holds for others these calls leave alone
(`Shelf.holding_answer_of_ne`). -/
namespace Armory

namespace Store

/-- The call is about the loadouts of an account, or about none. -/
def Call.Of (account : String) : Call → Prop
  | .select a _ => a = account
  | .save a _ _ => a = account
  | .update a _ _ => a = account
  | .list a => a = account
  | .record _ _ => True

namespace Database

variable {d d' : Database} {account other name text : String}

/-- The rows of an account. -/
def rowsOf (d : Database) (account : String) : List LoadoutRow :=
  d.loadouts.filter (·.account == account)

/-- The rows of an account decide what is found under its names. -/
theorem text?_congr (same : d.rowsOf account = d'.rowsOf account) (name : String) :
    d.text? account name = d'.text? account name := by
  have inRows : ∀ d : Database, d.text? account name =
      ((d.rowsOf account).find? (·.hasKey account name)).map (·.text) := by
    intro d
    rw [text?, rowsOf, List.find?_filter]
    congr 2
    funext r
    rw [Bool.eq_iff_iff]
    simp [LoadoutRow.hasKey]
  rw [inRows, inRows, same]

theorem names_congr (same : d.rowsOf account = d'.rowsOf account) :
    d.names account = d'.names account := by
  rw [names, ← rowsOf, same]
  rfl

theorem rowsOf_addRow (d : Database) (account name text other : String) :
    (d.addRow account name text).rowsOf other =
      d.rowsOf other ++ if account = other then [⟨account, name, text⟩] else [] := by
  rw [rowsOf, addRow, List.filter_append]
  by_cases h : account = other <;> simp [h, rowsOf]

theorem rowsOf_setText (d : Database) (account name text other : String) :
    (d.setText account name text).rowsOf other =
      (d.rowsOf other).map fun r => if r.hasKey account name then { r with text } else r := by
  rw [rowsOf, setText, List.filter_map, rowsOf]
  congr 2
  funext r
  simp only [Function.comp]
  split <;> rfl

/-- Replacing a text of one account leaves the rows of another as they are. -/
theorem rowsOf_setText_of_ne (ne : other ≠ account) :
    (d.setText account name text).rowsOf other = d.rowsOf other := by
  rw [rowsOf_setText]
  refine (List.map_congr_left fun r hr => ?_).trans (List.map_id _)
  have owner : r.account = other := by simpa using (List.mem_filter.mp hr).2
  rw [if_neg]
  · rfl
  · rw [LoadoutRow.hasKey_iff]
    exact fun own => ne (owner.symm.trans own.1)

end Database

/-- What storage holds for one account, and whether it can be used. -/
inductive Holding where
  | memory (loadouts : Table String StoredLoadout)
  | database (closed migrated : Bool) (rows : List LoadoutRow)

namespace Shelf

variable {s s' : Shelf} {account other : String} {c : Store.Call}

/-- What storage holds for an account. -/
def holding (account : String) : Shelf → Holding
  | .inl m => .memory (m.ofAccount account)
  | .inr d => .database d.closed d.migrated (d.rowsOf account)

theorem answer_congr_memory {m m' : Memory} (own : c.Of account)
    (same : m.ofAccount account = m'.ofAccount account) :
    (m.answer c).1 = (m'.answer c).1 ∧
      (m.answer c).2.ofAccount account = (m'.answer c).2.ofAccount account := by
  have found : ∀ name, m.get? account name = m'.get? account name := fun name => by
    rw [Memory.get?, same, Memory.get?]
  have put : ∀ name l, (m.put account name l).ofAccount account =
      (m'.put account name l).ofAccount account := fun name l => by
    rw [Memory.ofAccount_put, Memory.ofAccount_put, same]
  cases c with
  | record kind value => exact ⟨rfl, same⟩
  | select a name =>
    obtain rfl := own
    exact ⟨congrArg Except.ok (found name), same⟩
  | list a =>
    obtain rfl := own
    exact ⟨congrArg (fun t => Except.ok (Table.keys t)) same, same⟩
  | save a name l =>
    obtain rfl := own
    simp only [Memory.answer, found]
    split
    · exact ⟨rfl, same⟩
    · exact ⟨rfl, put name l⟩
  | update a name l =>
    obtain rfl := own
    simp only [Memory.answer, found]
    split
    · exact ⟨rfl, put name l⟩
    · exact ⟨rfl, same⟩

theorem answer_congr_database {d d' : Database} (own : c.Of account) (closed : d.closed = d'.closed)
    (migrated : d.migrated = d'.migrated) (same : d.rowsOf account = d'.rowsOf account) :
    (d.answer c).1 = (d'.answer c).1 ∧
      holding account (.inr (d.answer c).2) = holding account (.inr (d'.answer c).2) := by
  have unusable : ∀ table, d.unusable? table = d'.unusable? table := fun table => by
    rw [Database.unusable?, Database.unusable?, closed, migrated]
  have unchanged : holding account (.inr d) = holding account (.inr d') := by
    rw [holding, holding, closed, migrated, same]
  cases c with
  | record kind value =>
    simp only [Database.answer, unusable]
    split
    · exact ⟨rfl, unchanged⟩
    · exact ⟨rfl, unchanged⟩
  | select a name =>
    obtain rfl := own
    simp only [Database.answer, unusable, Database.select, Database.text?_congr same]
    split
    · exact ⟨rfl, unchanged⟩
    · exact ⟨rfl, unchanged⟩
  | list a =>
    obtain rfl := own
    simp only [Database.answer, unusable, Database.names_congr same]
    split
    · exact ⟨rfl, unchanged⟩
    · exact ⟨rfl, unchanged⟩
  | save a name l =>
    obtain rfl := own
    simp only [Database.answer, unusable, Database.text?_congr same]
    split
    · exact ⟨rfl, unchanged⟩
    split
    · exact ⟨rfl, unchanged⟩
    · refine ⟨rfl, ?_⟩
      simp only [holding, Database.rowsOf_addRow, same]
      exact congrArg₂ (fun c m => Holding.database c m _) closed migrated
  | update a name l =>
    obtain rfl := own
    simp only [Database.answer, unusable, Database.text?_congr same]
    split
    · exact ⟨rfl, unchanged⟩
    split
    · refine ⟨rfl, ?_⟩
      simp only [holding, Database.rowsOf_setText, same]
      exact congrArg₂ (fun c m => Holding.database c m _) closed migrated
    · exact ⟨rfl, unchanged⟩

/-- **What storage holds for an account decides** how the account's calls are answered, and what they leave it. -/
theorem answer_congr (own : c.Of account) (same : s.holding account = s'.holding account) :
    (s.answer c).1 = (s'.answer c).1 ∧
      (s.answer c).2.holding account = (s'.answer c).2.holding account := by
  cases s with
  | inl m =>
    cases s' with
    | inr d => cases same
    | inl m' =>
      obtain ⟨reply, kept⟩ := answer_congr_memory own (Holding.memory.inj same)
      exact ⟨reply, congrArg Holding.memory kept⟩
  | inr d =>
    cases s' with
    | inl m => cases same
    | inr d' =>
      obtain ⟨closed, migrated, rows⟩ := Holding.database.inj same
      exact answer_congr_database own closed migrated rows

/-- **What storage holds for other accounts** a call leaves as it is. -/
theorem holding_answer_of_ne (own : c.Of account) (ne : other ≠ account) :
    (s.answer c).2.holding other = s.holding other := by
  have put : ∀ (m : Memory) name l, (m.put account name l).ofAccount other = m.ofAccount other := by
    intro m name l
    rw [Memory.ofAccount_put, if_neg (Ne.symm ne)]
  cases c with
  | record kind value =>
    cases s with
    | inl m => rfl
    | inr d =>
      simp only [answer, Database.answer]
      split <;> rfl
  | select a name => rw [answer_select]
  | list a => rw [answer_list]
  | save a name l =>
    obtain rfl := own
    cases s with
    | inl m =>
      simp only [answer, Memory.answer]
      split
      · rfl
      · exact congrArg Holding.memory (put m name l)
    | inr d =>
      rw [answer]
      rcases d.answer_save a name l with ⟨e, refused⟩ | ⟨-, -, added⟩
      · rw [refused]
      · simp only [added, holding, Database.rowsOf_addRow, if_neg (Ne.symm ne), List.append_nil]
        rfl
  | update a name l =>
    obtain rfl := own
    cases s with
    | inl m =>
      simp only [answer, Memory.answer]
      split
      · exact congrArg Holding.memory (put m name l)
      · rfl
    | inr d =>
      rw [answer]
      rcases d.answer_update a name l with ⟨r, -, left⟩ | ⟨-, -, replaced⟩
      · rw [left]
      · simp only [replaced, holding, Database.rowsOf_setText_of_ne ne]
        rfl

end Shelf

end Store
end Armory
