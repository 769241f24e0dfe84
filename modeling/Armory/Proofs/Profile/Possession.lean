import Armory.Proofs.Profile.Holdings

/-! Whose things a profile lists. A profile is made from plain items or from a snapshot, and in both cases
each character gets buckets of its own. Main statement: whatever lies in a bucket of a character is recorded
as owned by that character (`Profile.Made.owner_of_mem`). -/
namespace Armory

variable {p : Profile} {id : CharacterId} {b : Bucket} {i : Item}

/-- What fills an empty bucket is what is in it afterwards. -/
theorem Contents.mem_of_mem_items {items : List Item} (h : i ∈ (pushAll {} items).items) :
    i ∈ items := by
  rw [Contents.items, List.mem_append] at h
  rcases h with slot | behind
  · rw [pushAll_empty, Option.mem_toList] at slot
    exact List.mem_of_find?_eq_some slot
  · exact mem_of_mem_unequipped behind

/-- Equipment made from items has in each bucket what belongs there. -/
theorem Catalog.contents_equipmentOf (c : Catalog) (items : List Item) (b : Bucket) :
    (c.equipmentOf items).contents b =
      Contents.pushAll {} (items.filter fun i => c.bucketOf? i.bucketHash == some b) := by
  -- the induction is on the items, over whatever has been put in before them
  show _ = (Equipment.empty.contents b).pushAll _
  unfold Catalog.equipmentOf
  generalize Equipment.empty = e
  induction items generalizing e with
  | nil => rfl
  | cons i rest ih =>
    rw [List.foldl_cons, ih]
    cases hb : c.bucketOf? i.bucketHash with
    | none => simp [hb]
    | some b' =>
      simp only [Equipment.contents_push]
      by_cases here : b = b'
      · simp [hb, here]
      · have there : ¬ b' = b := fun e => here e.symm
        simp [hb, here, there]

namespace Profile

/-- The two ways in which profiles are made. -/
inductive Made : Profile → Prop
  | ofItems (characters : List Character) (items : List Item) : Made (.ofItems characters items)
  | assemble (s : Snapshot) (c : Catalog) (detailedOnly : Bool) : Made (.assemble s c detailedOnly)

/-- A table with an entry for each character of a snapshot gives what belongs to one with that id. -/
theorem exists_of_get?_ofList {β : Type} {s : Snapshot} {f : CharacterSnapshot → β} {v : β}
    (h : (Table.ofList (s.characters.map fun e => (e.character.id, f e))).get? id = some v) :
    ∃ reported ∈ s.characters, reported.character.id = id ∧ v = f reported := by
  rw [Table.get?_ofList] at h
  obtain ⟨entry, found, rfl⟩ := Option.map_eq_some_iff.mp h
  obtain ⟨reported, hr, rfl⟩ := List.mem_map.mp (List.mem_reverse.mp (List.mem_of_find?_eq_some found))
  exact ⟨reported, hr, by simpa using List.find?_some found, rfl⟩

/-- The equipment in a profile of a snapshot is made from what the snapshot reports of that character. -/
theorem equipment?_assemble {s : Snapshot} {c : Catalog} {detailedOnly : Bool} {e : Equipment}
    (h : (assemble s c detailedOnly).equipment? id = some e) :
    ∃ reported ∈ s.characters, reported.character.id = id ∧
      e = c.equipmentOf ((s.wornItems c reported ++ s.carriedItems c reported).map (·.1)) :=
  exists_of_get?_ofList h

/-- What lies in a bucket of a character in a profile of a snapshot is an entry of what that character wears
or carries. -/
theorem mem_contents_assemble {s : Snapshot} {c : Catalog} {detailedOnly : Bool}
    (h : i ∈ ((assemble s c detailedOnly).contents id b).items) :
    ∃ reported ∈ s.characters, reported.character.id = id ∧
      ((∃ raw ∈ reported.equipment, c.resolve raw (s.details? raw) (some id) true = i) ∨
        ∃ raw ∈ reported.inventory, c.resolve raw (s.details? raw) (some id) false = i) := by
  unfold contents at h
  cases he : (Profile.assemble s c detailedOnly).equipment? id with
  | none =>
    rw [he] at h
    cases h
  | some e =>
    obtain ⟨reported, hr, rfl, rfl⟩ := equipment?_assemble he
    rw [he, Option.getD_some, Catalog.contents_equipmentOf] at h
    have mem := (List.mem_filter.mp (Contents.mem_of_mem_items h)).1
    simp only [Snapshot.wornItems, Snapshot.carriedItems, Snapshot.resolveAll, List.map_append,
      List.map_map, List.mem_append, List.mem_map, Function.comp_apply] at mem
    exact ⟨reported, hr, rfl, mem⟩

/-- **Nothing of another owner** lies in a bucket of a character. -/
theorem Made.owner_of_mem (made : p.Made) (h : i ∈ (p.contents id b).items) : i.owner = some id := by
  cases made with
  | ofItems characters items =>
    rw [contents_ofItems] at h
    have own := (List.mem_filter.mp (Contents.mem_of_mem_items h)).2
    exact (Item.isIn_iff.mp own).1
  | assemble s c detailedOnly =>
    -- worn or carried, an entry is resolved for the character that reports it
    obtain ⟨-, -, -, ⟨raw, -, rfl⟩ | ⟨raw, -, rfl⟩⟩ := mem_contents_assemble h <;> rfl

end Profile
end Armory
