/-! Finite tables: lists of entries in ascending order of their keys. The reading of a table is `get?`; each
operation is described by what it does to that reading. -/
namespace Armory

/-- A table from keys to values. -/
structure Table (κ α : Type) where
  entries : List (κ × α)
  deriving Repr, BEq

namespace Table

variable {κ α β : Type}

/-- The table without entries. -/
def empty : Table κ α := ⟨[]⟩

instance : Inhabited (Table κ α) := ⟨empty⟩

/-- The value that the first entry of a key holds. -/
def find [DecidableEq κ] (k : κ) : List (κ × α) → Option α
  | [] => none
  | e :: rest => if e.1 = k then some e.2 else find k rest

/-- The value under a key. -/
def get? [DecidableEq κ] (t : Table κ α) (k : κ) : Option α := find k t.entries

/-- Whether a key has a value. -/
def contains [DecidableEq κ] (t : Table κ α) (k : κ) : Bool := (t.get? k).isSome

/-- The keys of a table in ascending order. -/
def keys (t : Table κ α) : List κ := t.entries.map (·.1)

/-- The values of a table in the order of their keys. -/
def values (t : Table κ α) : List α := t.entries.map (·.2)

/-- How many keys a table has. -/
def size (t : Table κ α) : Nat := t.entries.length

/-- Entries with one value set or replaced, in the place that the order of the keys gives it. -/
def place [DecidableEq κ] [LT κ] [DecidableLT κ] (k : κ) (a : α) : List (κ × α) → List (κ × α)
  | [] => [(k, a)]
  | e :: rest =>
    if e.1 = k then (k, a) :: rest
    else if k < e.1 then (k, a) :: e :: rest
    else e :: place k a rest

/-- A table with the value under a key set or replaced. -/
def insert [DecidableEq κ] [LT κ] [DecidableLT κ] (t : Table κ α) (k : κ) (a : α) : Table κ α :=
  ⟨place k a t.entries⟩

/-- A table without a key. -/
def erase [DecidableEq κ] (t : Table κ α) (k : κ) : Table κ α :=
  ⟨t.entries.filter fun e => !decide (e.1 = k)⟩

/-- The table of a list of entries; of repeated keys the last one counts. -/
def ofList [DecidableEq κ] [LT κ] [DecidableLT κ] (es : List (κ × α)) : Table κ α :=
  es.foldl (fun t e => t.insert e.1 e.2) empty

/-- The table of a list of entries; of repeated keys the first one counts. -/
def ofListFirst [DecidableEq κ] [LT κ] [DecidableLT κ] (es : List (κ × α)) : Table κ α :=
  es.foldl (fun t e => if t.contains e.1 then t else t.insert e.1 e.2) empty

section Laws

variable [DecidableEq κ]

@[simp] theorem get?_empty (k : κ) : (empty : Table κ α).get? k = none := rfl

theorem find_place [LT κ] [DecidableLT κ] (k j : κ) (a : α) (es : List (κ × α)) :
    find j (place k a es) = if k = j then some a else find j es := by
  induction es with
  | nil => by_cases h : k = j <;> simp [place, find, h]
  | cons e rest ih =>
    by_cases he : e.1 = k
    · by_cases h : k = j
      · simp [place, find, he, h]
      · have hj : ¬ e.1 = j := fun hj => h (he ▸ hj)
        simp [place, find, he, h]
    · by_cases hl : k < e.1
      · by_cases h : k = j
        · subst h
          simp [place, find, he, hl]
        · simp [place, find, he, hl, h]
      · simp only [place, he, hl, if_false, find, ih]
        by_cases hj : e.1 = j
        · have h : ¬ k = j := fun h => he (hj.trans h.symm)
          simp [hj, h]
        · simp [hj]

@[simp] theorem get?_insert [LT κ] [DecidableLT κ] (t : Table κ α) (k j : κ) (a : α) :
    (t.insert k a).get? j = if k = j then some a else t.get? j :=
  find_place k j a t.entries

theorem get?_foldl_insert [LT κ] [DecidableLT κ] (es : List (κ × α)) (t : Table κ α) (k : κ) :
    (es.foldl (fun t e => t.insert e.1 e.2) t).get? k =
      ((es.reverse.find? fun e => decide (e.1 = k)).map (·.2)).or (t.get? k) := by
  induction es generalizing t with
  | nil => simp
  | cons e rest ih =>
    rw [List.foldl_cons, ih, get?_insert, List.reverse_cons, List.find?_append]
    cases rest.reverse.find? fun e => decide (e.1 = k) with
    | some e' => simp
    | none => by_cases h : e.1 = k <;> simp [h]

/-- The table of a list gives each key the value of its last entry. -/
theorem get?_ofList [LT κ] [DecidableLT κ] (es : List (κ × α)) (k : κ) :
    (ofList es).get? k = (es.reverse.find? fun e => decide (e.1 = k)).map (·.2) := by
  rw [ofList, get?_foldl_insert, get?_empty, Option.or_none]

end Laws

end Table
end Armory
