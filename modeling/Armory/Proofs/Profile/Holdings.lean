import Mathlib.Data.List.Basic
import Armory.Profile

/-! What a profile made from plain items says about each bucket of each character. Main statements: a bucket
holds exactly the items that its character owns there, the first worn one in the slot and the others in
their order (`Profile.contents_ofItems`, `Contents.pushAll_empty`). -/
namespace Armory

/-! ## One bucket -/

namespace Contents

/-- A bucket after items have been put into it one after the other. -/
def pushAll (c : Contents) (items : List Item) : Contents := items.foldl push c

@[simp] theorem pushAll_nil (c : Contents) : c.pushAll [] = c := rfl

@[simp] theorem pushAll_cons (c : Contents) (i : Item) (rest : List Item) :
    c.pushAll (i :: rest) = (c.push i).pushAll rest := rfl

/-- Once the slot is taken, everything else lines up behind. -/
theorem pushAll_of_isSome {c : Contents} (h : c.equipped.isSome) (items : List Item) :
    c.pushAll items = { c with unequipped := c.unequipped ++ items } := by
  induction items generalizing c with
  | nil => simp
  | cons i rest ih =>
    have hpush : c.push i = { c with unequipped := c.unequipped ++ [i] } := by
      have hnone : c.equipped.isNone = false := by
        cases hc : c.equipped <;> simp_all
      simp [push, hnone]
    rw [pushAll_cons, hpush, @ih ⟨c.equipped, c.unequipped ++ [i]⟩ h]
    simp

/-- An open slot goes to the first worn item. -/
theorem pushAll_of_isNone {c : Contents} (h : c.equipped = none) (items : List Item) :
    c.pushAll items =
      ⟨items.find? (·.isEquipped), c.unequipped ++ items.eraseP (·.isEquipped)⟩ := by
  induction items generalizing c with
  | nil =>
    obtain ⟨equipped, unequipped⟩ := c
    cases h
    simp
  | cons i rest ih =>
    cases worn : i.isEquipped with
    | true =>
      have hpush : c.push i = ⟨some i, c.unequipped⟩ := by simp [push, h, worn]
      rw [pushAll_cons, hpush, pushAll_of_isSome rfl]
      simp [worn]
    | false =>
      have hpush : c.push i = ⟨none, c.unequipped ++ [i]⟩ := by simp [push, h, worn]
      rw [pushAll_cons, hpush, ih rfl]
      simp [worn]

/-- **A bucket filled from nothing**: its slot holds the first worn item, and the others follow in their
order. -/
theorem pushAll_empty (items : List Item) :
    pushAll {} items = ⟨items.find? (·.isEquipped), items.eraseP (·.isEquipped)⟩ := by
  simpa using pushAll_of_isNone (c := {}) rfl items

theorem occupancy_push (c : Contents) (i : Item) : (c.push i).occupancy = c.occupancy + 1 := by
  unfold push
  split
  · rename_i h
    have hnone : c.equipped = none := by simp_all
    simp [occupancy, hnone]
    omega
  · simp [occupancy]
    omega

theorem occupancy_pushAll (c : Contents) (items : List Item) :
    (c.pushAll items).occupancy = c.occupancy + items.length := by
  induction items generalizing c with
  | nil => rfl
  | cons i rest ih =>
    rw [pushAll_cons, ih, occupancy_push, List.length_cons]
    omega

/-- With at most one worn item, none is left behind the slot. -/
theorem not_worn_of_mem_unequipped {items : List Item} (one : items.countP (·.isEquipped) ≤ 1)
    {i : Item} (h : i ∈ (pushAll {} items).unequipped) : i.isEquipped = false := by
  rw [pushAll_empty] at h
  induction items with
  | nil => simp at h
  | cons x rest ih =>
    cases worn : x.isEquipped with
    | true =>
      -- the slot is taken here, so the rest holds no worn item at all
      have hzero : rest.countP (·.isEquipped) = 0 := by
        simp only [List.countP_cons, worn, if_true] at one
        omega
      have hrest : i ∈ rest := by simpa [worn] using h
      simpa using List.countP_eq_zero.mp hzero i hrest
    | false =>
      have hone : rest.countP (·.isEquipped) ≤ 1 := by simpa [worn] using one
      have hmem : i = x ∨ i ∈ rest.eraseP (·.isEquipped) := by simpa [worn] using h
      rcases hmem with rfl | hmem
      · exact worn
      · exact ih hone hmem

theorem mem_of_mem_unequipped {items : List Item} {i : Item}
    (h : i ∈ (pushAll {} items).unequipped) : i ∈ items := by
  rw [pushAll_empty] at h
  exact List.mem_of_mem_eraseP h

end Contents

/-! ## All buckets -/

/-- Whether a character holds an item in a bucket. -/
def Item.isIn (i : Item) (id : CharacterId) (b : Bucket) : Bool :=
  i.ownedBy id && Catalog.standard.bucketOf? i.bucketHash == some b

theorem Item.isIn_iff {i : Item} {id : CharacterId} {b : Bucket} :
    i.isIn id b = true ↔
      i.owner = some id ∧ Catalog.standard.bucketOf? i.bucketHash = some b := by
  simp [isIn, ownedBy]

namespace Profile

/-- What a profile says that a character holds in a bucket. -/
def contents (p : Profile) (id : CharacterId) (b : Bucket) : Contents :=
  ((p.equipment? id).getD .empty).contents b

theorem equipment?_hold (p : Profile) (i : Item) (id : CharacterId) :
    (p.hold i).equipment? id =
      match i.owner, Catalog.standard.bucketOf? i.bucketHash with
      | some owner, some b =>
        if owner = id then some (((p.equipment? id).getD .empty).push b i) else p.equipment? id
      | _, _ => p.equipment? id := by
  unfold hold equipment?
  cases i.owner with
  | none => rfl
  | some owner =>
    cases Catalog.standard.bucketOf? i.bucketHash with
    | none => rfl
    | some b =>
      by_cases h : owner = id
      · subst h
        by_cases worn : i.isEquipped <;> simp [worn]
      · by_cases worn : i.isEquipped <;> simp [worn, h]

/-- Holding one more item puts it into the bucket of its owner and leaves every other bucket alone. -/
theorem contents_hold (p : Profile) (i : Item) (id : CharacterId) (b : Bucket) :
    (p.hold i).contents id b =
      if i.isIn id b then (p.contents id b).push i else p.contents id b := by
  unfold contents
  rw [equipment?_hold]
  cases ho : i.owner with
  | none => simp [Item.isIn, Item.ownedBy, ho]
  | some owner =>
    cases hb : Catalog.standard.bucketOf? i.bucketHash with
    | none => simp [Item.isIn, hb]
    | some b' =>
      by_cases h : owner = id
      · subst h
        by_cases hbb : b = b'
        · simp [Item.isIn, Item.ownedBy, ho, hb, hbb, Equipment.contents_push]
        · have hbb' : ¬ b' = b := fun e => hbb e.symm
          simp [Item.isIn, Item.ownedBy, ho, hb, hbb, hbb', Equipment.contents_push]
      · simp [Item.isIn, Item.ownedBy, ho, h]

theorem contents_foldl_hold (items : List Item) (p : Profile) (id : CharacterId) (b : Bucket) :
    (items.foldl hold p).contents id b =
      (p.contents id b).pushAll (items.filter (·.isIn id b)) := by
  induction items generalizing p with
  | nil => rfl
  | cons i rest ih =>
    rw [List.foldl_cons, ih, contents_hold]
    by_cases h : i.isIn id b <;> simp [h]

theorem isSome_equipment?_foldl_hold (items : List Item) {p : Profile} {id : CharacterId}
    (h : (p.equipment? id).isSome) : ((items.foldl hold p).equipment? id).isSome := by
  induction items generalizing p with
  | nil => exact h
  | cons i rest ih =>
    refine ih ?_
    rw [equipment?_hold]
    split
    · split
      · rfl
      · exact h
    · exact h

@[simp] theorem characters_hold (p : Profile) (i : Item) :
    (p.hold i).characters = p.characters := by
  unfold hold
  split
  · split <;> rfl
  · rfl

@[simp] theorem items_hold (p : Profile) (i : Item) : (p.hold i).items = p.items := by
  unfold hold
  split
  · split <;> rfl
  · rfl

theorem characters_ofItems (characters : List Character) (items : List Item) :
    (ofItems characters items).characters = Character.latestFirst characters := by
  have keep : ∀ (is : List Item) (p : Profile), (is.foldl hold p).characters = p.characters := by
    intro is
    induction is with
    | nil => intro p; rfl
    | cons i rest ih => intro p; rw [List.foldl_cons, ih, characters_hold]
  exact keep items _

theorem items_ofItems (characters : List Character) (items : List Item) :
    (ofItems characters items).items = items := by
  have keep : ∀ (is : List Item) (p : Profile), (is.foldl hold p).items = p.items := by
    intro is
    induction is with
    | nil => intro p; rfl
    | cons i rest ih => intro p; rw [List.foldl_cons, ih, items_hold]
  exact keep items _

theorem character?_ofItems_singleton (c : Character) (items : List Item) :
    (ofItems [c] items).character? c.id = some c := by
  have hall : (ofItems [c] items).characters = [c] := by
    rw [characters_ofItems]
    exact List.mergeSort_singleton c
  simp [character?, hall]

/-- A table that has one and the same value for every character. -/
theorem get?_ofList_const {β : Type} (characters : List Character) (a : β) (id : CharacterId) :
    (Table.ofList (characters.map fun c => (c.id, a))).get? id =
      if characters.any (·.id == id) then some a else none := by
  rw [Table.get?_ofList, ← List.map_reverse, List.find?_map, Option.map_map]
  split
  · rename_i h
    obtain ⟨c, hc, hid⟩ := List.any_eq_true.mp h
    have hsome : (characters.reverse.find? fun c => decide (c.id = id)).isSome := by
      rw [List.find?_isSome]
      exact ⟨c, by simpa using hc, by simpa using hid⟩
    obtain ⟨c', hc'⟩ := Option.isSome_iff_exists.mp hsome
    simp only [Function.comp_def, hc', Option.map_some]
  · rename_i h
    have hnone : (characters.reverse.find? fun c => decide (c.id = id)) = none := by
      rw [List.find?_eq_none]
      intro c hc hid
      exact h (List.any_eq_true.mpr ⟨c, by simpa using hc, by simpa using hid⟩)
    simp only [Function.comp_def, hnone, Option.map_none]

theorem isSome_equipment?_ofItems {characters : List Character} {id : CharacterId}
    (h : ∃ c ∈ characters, c.id = id) (items : List Item) :
    ((ofItems characters items).equipment? id).isSome := by
  obtain ⟨c, hc, hid⟩ := h
  refine isSome_equipment?_foldl_hold items ?_
  have hany : characters.any (·.id == id) = true :=
    List.any_eq_true.mpr ⟨c, hc, by simpa using hid⟩
  show ((Table.ofList _).get? id).isSome
  rw [get?_ofList_const, if_pos hany]
  rfl

/-- **What a profile made from items says of a bucket** is what the bucket makes of the items that its
character owns there. -/
theorem contents_ofItems (characters : List Character) (items : List Item) (id : CharacterId)
    (b : Bucket) :
    (ofItems characters items).contents id b =
      Contents.pushAll {} (items.filter (·.isIn id b)) := by
  unfold ofItems
  rw [contents_foldl_hold]
  congr 1
  show (((Table.ofList _).get? id).getD Equipment.empty).contents b = {}
  rw [get?_ofList_const]
  split <;> rfl

end Profile
end Armory
