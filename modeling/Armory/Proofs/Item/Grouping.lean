import Mathlib.Data.List.Perm.Basic
import Armory.Proofs.Item.Choice

/-! Items grouped by bucket. One item after another goes to the end of the group of its bucket
(`Catalog.items_putInGroup`), so that before it is sorted a group holds the items of its bucket in the order in which
they came (`Catalog.items_foldl_putInGroup`). Main statement: the groups share out all items of known buckets, each
group in the order of power and, where powers are equal, in the order of the input
(`Catalog.groupGear_stable_partition`). -/
namespace Armory

variable {c : Catalog} {g : Groups} {items group : List Item} {b : Bucket} {i : Item}

/-! ## The order within a group -/

namespace Item

theorem strongestFirst_perm (items : List Item) : (strongestFirst items).Perm items := List.mergeSort_perm _ _

@[simp] theorem strongestFirst_eq_nil_iff : strongestFirst items = [] ↔ items = [] := by
  constructor
  · intro h
    have perm := strongestFirst_perm items
    rw [h] at perm
    exact List.nil_perm.mp perm
  · rintro rfl
    exact List.mergeSort_nil

/-- **Items of one power keep their order.** -/
theorem filter_strongestFirst (power : Nat) (items : List Item) :
    (strongestFirst items).filter (·.power == power) = items.filter (·.power == power) := by
  have level : (items.filter (·.power == power)).Pairwise fun i j => decide (j.power ≤ i.power) = true := by
    refine List.pairwise_of_forall_mem_list fun i hi j hj => ?_
    have hi := (List.mem_filter.mp hi).2
    have hj := (List.mem_filter.mp hj).2
    simp only [beq_iff_eq] at hi hj
    simp only [decide_eq_true_eq]
    omega
  -- they are in the order of power as they stand, so the sort leaves them one after the other
  have kept : (items.filter (·.power == power)).Sublist (strongestFirst items) :=
    List.sublist_mergeSort descending_trans descending_total level List.filter_sublist
  have among := kept.filter (·.power == power)
  rw [List.filter_filter] at among
  simp only [Bool.and_self] at among
  exact (among.eq_of_length ((strongestFirst_perm items).filter _).length_eq.symm).symm

end Item

/-! ## One item after another -/

namespace Groups

/-- No bucket is present without items. -/
def Sound (g : Groups) : Prop := ∀ b, g.get? b ≠ some []

theorem sound_empty : empty.Sound := fun _ => nofun

theorem Sound.push (h : g.Sound) (b : Bucket) (i : Item) : (g.push b i).Sound := by
  intro b'
  by_cases same : b' = b
  · simp [Groups.push, same]
  · simpa [Groups.push, same] using h b'

theorem Sound.get?_eq (h : g.Sound) (b : Bucket) :
    g.get? b = if g.items b = [] then none else some (g.items b) := by
  cases found : g.get? b with
  | none => simp [items, found]
  | some group =>
    have filled : group ≠ [] := fun none => h b (none ▸ found)
    simp [items, found, filled]

theorem items_strongestFirst (g : Groups) (b : Bucket) :
    g.strongestFirst.items b = Item.strongestFirst (g.items b) := by
  cases found : g.get? b <;> simp [items, strongestFirst, found, Item.strongestFirst]

theorem Sound.strongestFirst (h : g.Sound) : g.strongestFirst.Sound := by
  intro b none
  obtain ⟨group, found, sorted⟩ := Option.map_eq_some_iff.mp none
  exact h b (Item.strongestFirst_eq_nil_iff.mp sorted ▸ found)

theorem flatMap_entries (g : Groups) : g.entries.flatMap (·.2) = Bucket.all.flatMap g.items := by
  rw [entries]
  induction Bucket.all with
  | nil => rfl
  | cons b rest ih => cases found : g.get? b <;> simp [found, items, ih]

end Groups

namespace Catalog

/-- **What one item does to the groups**: it comes last in that of its bucket. -/
theorem items_putInGroup (c : Catalog) (g : Groups) (i : Item) (b : Bucket) :
    (c.putInGroup g i).items b = g.items b ++ [i].filter (c.bucketOf? ·.bucketHash == some b) := by
  unfold putInGroup
  cases known : c.bucketOf? i.bucketHash with
  | none => simp [known]
  | some own =>
    rw [Groups.items_push]
    by_cases same : b = own
    · simp [known, same]
    · simp [known, same, Ne.symm same]

theorem sound_putInGroup (h : g.Sound) (i : Item) : (c.putInGroup g i).Sound := by
  unfold putInGroup
  split
  · exact h.push _ i
  · exact h

/-- **The groups before they are sorted** hold the items of their buckets in order. -/
theorem items_foldl_putInGroup (c : Catalog) (g : Groups) (items : List Item) (b : Bucket) :
    (items.foldl c.putInGroup g).items b = g.items b ++ items.filter (c.bucketOf? ·.bucketHash == some b) := by
  induction items generalizing g with
  | nil => exact (List.append_nil _).symm
  | cons i rest ih =>
    rw [List.foldl_cons, ih, items_putInGroup, List.append_assoc, ← List.filter_append]
    rfl

theorem sound_foldl_putInGroup (h : g.Sound) (items : List Item) : (items.foldl c.putInGroup g).Sound := by
  induction items generalizing g with
  | nil => exact h
  | cons i rest ih => exact ih (sound_putInGroup h i)

/-- The group of a bucket is what the choice for that bucket is made from. -/
theorem items_groups (c : Catalog) (items : List Item) (b : Bucket) :
    (c.groups items).items b = c.gearFor b items := by
  rw [groups, Groups.items_strongestFirst, items_foldl_putInGroup, Groups.items_empty, List.nil_append]
  rfl

theorem sound_groups (c : Catalog) (items : List Item) : (c.groups items).Sound :=
  (sound_foldl_putInGroup Groups.sound_empty items).strongestFirst

theorem mem_groupGear : (b, group) ∈ c.groupGear items ↔ c.gearFor b items = group ∧ group ≠ [] := by
  rw [groupGear, Groups.mem_entries, (c.sound_groups items).get?_eq, items_groups]
  by_cases none : c.gearFor b items = []
  · rw [if_pos none, none]
    constructor
    · nofun
    · rintro ⟨rfl, filled⟩
      exact absurd rfl filled
  · rw [if_neg none, Option.some.injEq]
    constructor
    · rintro rfl
      exact ⟨rfl, none⟩
    · exact And.left

end Catalog

/-! ## All groups together -/

/-- What bears one of some keys, key after key, is all that bears one of them. -/
theorem perm_flatMap_filter {α κ : Type} [DecidableEq κ] (key : α → Option κ) (l : List α) {keys : List κ}
    (once : keys.Nodup) :
    (keys.flatMap fun k => l.filter fun a => key a == some k).Perm
      (l.filter fun a => (key a).any (keys.contains ·)) := by
  induction keys with
  | nil =>
    refine .of_eq (List.filter_eq_nil_iff.mpr fun a _ => ?_).symm
    cases key a <;> simp
  | cons k rest ih =>
    obtain ⟨new, once⟩ := List.nodup_cons.mp once
    have split := List.filter_append_perm (fun a => key a == some k)
      (l.filter fun a => (key a).any ((k :: rest).contains ·))
    rw [List.filter_filter, List.filter_filter] at split
    have first : l.filter (fun a => key a == some k && (key a).any ((k :: rest).contains ·)) =
        l.filter fun a => key a == some k := by
      refine List.filter_congr fun a _ => ?_
      cases key a with
      | none => rfl
      | some k' => by_cases same : k' = k <;> simp [same]
    have others : l.filter (fun a => !(key a == some k) && (key a).any ((k :: rest).contains ·)) =
        l.filter fun a => (key a).any (rest.contains ·) := by
      refine List.filter_congr fun a _ => ?_
      cases key a with
      | none => rfl
      | some k' => by_cases same : k' = k <;> simp [same, new]
    rw [first, others] at split
    rw [List.flatMap_cons]
    exact ((ih once).append_left _).trans split

namespace Catalog

/-- The groups together hold the items of known buckets. -/
theorem perm_groupGear (c : Catalog) (items : List Item) :
    ((c.groupGear items).flatMap (·.2)).Perm (items.filter fun i => (c.bucketOf? i.bucketHash).isSome) := by
  have known : (fun i : Item => (c.bucketOf? i.bucketHash).isSome) =
      fun i => (c.bucketOf? i.bucketHash).any (Bucket.all.contains ·) := by
    funext i
    cases c.bucketOf? i.bucketHash <;> simp [Bucket.mem_all]
  rw [groupGear, Groups.flatMap_entries, known]
  refine .trans (List.Perm.flatMap_left _ fun b _ => ?_) (perm_flatMap_filter _ items Bucket.all_nodup)
  rw [items_groups]
  exact Item.strongestFirst_perm _

/-- **Grouping shares the items out.** There is one group for each bucket into which some item belongs; together the
groups hold the items of known buckets, each as often as it came; and a group has the more powerful items first, and
those of one power in the order in which they came. -/
theorem groupGear_stable_partition (c : Catalog) (items : List Item) :
    (∀ b, (∃ group, (b, group) ∈ c.groupGear items) ↔ ∃ i ∈ items, c.bucketOf? i.bucketHash = some b) ∧
    (c.groupGear items).Pairwise (fun e e' => e.1.index < e'.1.index) ∧
    ((c.groupGear items).flatMap (·.2)).Perm (items.filter fun i => (c.bucketOf? i.bucketHash).isSome) ∧
    ∀ b group, (b, group) ∈ c.groupGear items →
      (∀ i ∈ group, c.bucketOf? i.bucketHash = some b) ∧
      group.Pairwise (fun i j => j.power ≤ i.power) ∧
      ∀ power, group.filter (·.power == power) =
        items.filter fun i => i.power == power && c.bucketOf? i.bucketHash == some b := by
  refine ⟨fun b => ?_, Bucket.filterMap_all_ascends _, perm_groupGear c items, fun b group here => ?_⟩
  · constructor
    · rintro ⟨group, here⟩
      obtain ⟨rfl, filled⟩ := mem_groupGear.mp here
      obtain ⟨i, mem⟩ := List.exists_mem_of_ne_nil _ filled
      exact ⟨i, mem_gearFor.mp mem⟩
    · rintro ⟨i, mem⟩
      exact ⟨_, mem_groupGear.mpr ⟨rfl, List.ne_nil_of_mem (mem_gearFor.mpr mem)⟩⟩
  · obtain ⟨rfl, -⟩ := mem_groupGear.mp here
    refine ⟨fun i mem => (mem_gearFor.mp mem).2, c.gearFor_descends b items, fun power => ?_⟩
    rw [gearFor, Item.filter_strongestFirst, List.filter_filter]

end Catalog
end Armory
