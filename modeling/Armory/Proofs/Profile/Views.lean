import Armory.Proofs.Lone
import Armory.Proofs.Profile.Reported
import Armory.Proofs.Table

/-! The views of a profile: its items, and what each character wears and carries. Main statements: the buckets of a
character hold the items that are listed as its own, and its loadout what it wears of them; and a profile that is made
of the listed items alone has the same views (`Profile.views_agree`). -/
namespace Armory

/-! ## Buckets made of items -/

theorem Contents.items_pushAll_perm (items : List Item) : (pushAll {} items).items.Perm items := by
  rw [pushAll_empty, Contents.items]
  induction items with
  | nil => exact .nil
  | cons i rest ih =>
    cases worn : i.isEquipped with
    | true => simp [worn]
    | false =>
      rw [List.find?_cons_of_neg (by simp [worn]), List.eraseP_cons_of_neg (by simp [worn])]
      exact List.perm_middle.trans (ih.cons i)

namespace Catalog

/-- An item put into the equipment, if it belongs into a bucket. -/
def shelve (c : Catalog) (e : Equipment) (i : Item) : Equipment :=
  match c.bucketOf? i.bucketHash with
  | some b => e.push b i
  | none => e

theorem equipmentOf_eq_foldl (c : Catalog) (items : List Item) :
    c.equipmentOf items = items.foldl c.shelve .empty := rfl

end Catalog

/-! ## What is reported of one character -/

namespace Snapshot

variable {s : Snapshot} {c : Catalog} {e : CharacterSnapshot} {b : Bucket} {i : Item}

/-- What a character carries without wearing it. -/
def carried (s : Snapshot) (c : Catalog) (e : CharacterSnapshot) : List Item :=
  (s.carriedItems c e).map (·.1)

/-- All items but the currencies, each with whether details are reported for it. -/
def resolvedGear (s : Snapshot) (c : Catalog) : List (Item × Bool) :=
  s.resolveAll c none false s.profileInventory ++
    s.characters.flatMap fun e => s.wornItems c e ++ s.carriedItems c e

theorem resolvedItems_eq (s : Snapshot) (c : Catalog) :
    s.resolvedItems c = s.currencyItems c ++ s.resolvedGear c :=
  List.append_assoc _ _ _

theorem isEquipped_of_mem_worn (h : i ∈ s.worn c e) : i.isEquipped = true :=
  (Bool.and_eq_true_iff.mp (equippedOn_of_mem_worn h)).1

/-- No character wears two items that belong into one bucket. -/
def WornApart (s : Snapshot) (c : Catalog) : Prop :=
  ∀ e ∈ s.characters, ((s.worn c e).filterMap fun i => c.bucketOf? i.bucketHash).Nodup

instance (s : Snapshot) (c : Catalog) : Decidable (s.WornApart c) :=
  inferInstanceAs (Decidable (∀ e, e ∈ s.characters → _))

theorem WornApart.lone (h : s.WornApart c) (he : e ∈ s.characters) (hi : i ∈ s.worn c e)
    (hb : c.bucketOf? i.bucketHash = some b) : Lone (c.inBucket b) i (s.worn c e) :=
  Lone.of_nodup (h e he) hi hb

end Snapshot

namespace Profile

variable {s : Snapshot} {c : Catalog} {detailedOnly : Bool} {e : CharacterSnapshot} {p : Profile}
  {id : CharacterId} {b : Bucket} {i : Item}

theorem loadout?_of_mem (apart : (s.characters.map (·.character.id)).Nodup) (he : e ∈ s.characters) :
    (assemble s c detailedOnly).loadout? e.character.id = some (c.loadoutOf (s.worn c e)) :=
  Table.get?_ofList_of_mem (by rwa [List.map_map]) (List.mem_map.mpr ⟨e, he, rfl⟩)

theorem equipment?_of_mem (apart : (s.characters.map (·.character.id)).Nodup) (he : e ∈ s.characters) :
    (assemble s c detailedOnly).equipment? e.character.id =
      some (c.equipmentOf (s.worn c e ++ s.carried c e)) := by
  rw [Snapshot.worn, Snapshot.carried, ← List.map_append]
  exact Table.get?_ofList_of_mem (by rwa [List.map_map]) (List.mem_map.mpr ⟨e, he, rfl⟩)

/-- Without a condition on details, all items are listed, currencies first. -/
theorem items_assemble (s : Snapshot) (c : Catalog) :
    (assemble s c false).items = (s.currencyItems c).map (·.1) ++ (s.resolvedGear c).map (·.1) := by
  simp [assemble, Snapshot.resolvedItems_eq]

theorem items_eq (s : Snapshot) (c : Catalog) :
    (assemble s c false).items = (s.currencyItems c).map (·.1) ++
      ((s.resolveAll c none false s.profileInventory).map (·.1) ++
        s.characters.flatMap fun e => s.worn c e ++ s.carried c e) := by
  rw [items_assemble, Snapshot.resolvedGear, List.map_append, List.map_flatMap]
  simp only [List.map_append, Snapshot.worn, Snapshot.carried]

theorem owner_of_mem_currencyItems (h : i ∈ (s.currencyItems c).map (·.1)) : i.owner = none := by
  simp only [Snapshot.currencyItems, List.map_map, List.mem_map, Function.comp_apply] at h
  obtain ⟨raw, -, rfl⟩ := h
  rfl

/-- What a list of entries is resolved to has the owner that it is resolved for. -/
theorem owner_of_mem_resolveAll {owner : Option CharacterId} {worn : Bool} {raws : List RawItem}
    (h : i ∈ (s.resolveAll c owner worn raws).map (·.1)) : i.owner = owner := by
  simp only [Snapshot.resolveAll, List.map_map, List.mem_map, Function.comp_apply] at h
  obtain ⟨raw, -, rfl⟩ := h
  rfl

/-- What a character wears or carries is its own. -/
theorem owner_of_mem (h : i ∈ s.worn c e ++ s.carried c e) : i.owner = some e.character.id := by
  rcases List.mem_append.mp h with worn | carried
  · exact owner_of_mem_resolveAll worn
  · exact owner_of_mem_resolveAll carried

/-- **The items that are listed as a character's own** are what it wears and carries. -/
theorem filter_items (apart : (s.characters.map (·.character.id)).Nodup) (he : e ∈ s.characters) :
    (assemble s c false).items.filter (·.ownedBy e.character.id) = s.worn c e ++ s.carried c e := by
  have unowned : ∀ {items : List Item}, (∀ i ∈ items, i.owner = none) →
      items.filter (·.ownedBy e.character.id) = [] := by
    intro items h
    rw [List.filter_eq_nil_iff]
    intro i hi
    simp [Item.ownedBy, h i hi]
  have lone : Lone (fun x : CharacterSnapshot => some x.character.id == some e.character.id) e
      s.characters := by
    refine Lone.of_nodup ?_ he rfl
    rwa [List.filterMap_eq_map']
  rw [items_eq, List.filter_append, List.filter_append, unowned fun i hi => owner_of_mem_currencyItems hi,
    unowned fun i hi => owner_of_mem_resolveAll hi, List.nil_append, List.nil_append,
    List.filter_flatMap]
  refine (lone.flatMap fun x hx other => ?_).trans ?_
  · -- another character has another id
    rw [List.filter_eq_nil_iff]
    intro i hi own
    rw [Item.ownedBy, owner_of_mem hi] at own
    rw [own] at other
    cases other
  · rw [List.filter_eq_self]
    intro i hi
    simp [Item.ownedBy, owner_of_mem hi]

/-- Whatever is listed with an owner belongs to a character of the snapshot. -/
theorem exists_of_owner (h : i ∈ (assemble s c false).items) (own : i.owner = some id) :
    ∃ e ∈ s.characters, e.character.id = id := by
  rw [items_eq, List.mem_append, List.mem_append] at h
  rcases h with currency | vault | gear
  · rw [owner_of_mem_currencyItems currency] at own
    cases own
  · rw [owner_of_mem_resolveAll vault] at own
    cases own
  · obtain ⟨e, he, hi⟩ := List.mem_flatMap.mp gear
    exact ⟨e, he, Option.some.inj ((owner_of_mem hi).symm.trans own)⟩

/-! ## What each item adds to a profile that is made of items -/

/-- An item of another owner leaves what a character wears and carries as it is. -/
theorem hold_of_not_owned (other : i.ownedBy id = false) :
    (p.hold i).loadout? id = p.loadout? id ∧ (p.hold i).equipment? id = p.equipment? id := by
  have ne : ∀ {owner}, i.owner = some owner → owner ≠ id := by
    rintro owner own rfl
    simp [Item.ownedBy, own] at other
  unfold hold
  split
  · rename_i owner b own named
    split <;> simp [loadout?, equipment?, ne own]
  · exact ⟨rfl, rfl⟩

/-- An item of its own is put into its equipment, and into its loadout if it is worn. -/
theorem hold_of_owned (own : i.ownedBy id = true) {l : Loadout} {q : Equipment}
    (hl : p.loadout? id = some l) (hq : p.equipment? id = some q) :
    (p.hold i).loadout? id = some (if i.isEquipped then Catalog.standard.fit l i else l) ∧
      (p.hold i).equipment? id = some (Catalog.standard.shelve q i) := by
  have owner : i.owner = some id := by simpa [Item.ownedBy] using own
  unfold hold Catalog.fit Catalog.shelve
  cases named : Catalog.standard.bucketOf? i.bucketHash with
  | none => simp [owner, hl, hq]
  | some b =>
    simp only [loadout?, equipment?] at hl hq
    cases worn : i.isEquipped <;> simp [owner, loadout?, equipment?, hl, hq]

theorem foldl_hold_of_not_owned {items : List Item} (others : ∀ i ∈ items, i.ownedBy id = false)
    (p : Profile) : (items.foldl hold p).loadout? id = p.loadout? id ∧
      (items.foldl hold p).equipment? id = p.equipment? id := by
  induction items generalizing p with
  | nil => exact ⟨rfl, rfl⟩
  | cons i rest ih =>
    obtain ⟨here, later⟩ := List.forall_mem_cons.mp others
    obtain ⟨loadout, equipment⟩ := hold_of_not_owned (p := p) here
    rw [List.foldl_cons, (ih later _).1, (ih later _).2]
    exact ⟨loadout, equipment⟩

/-- A character ends up with all items of its own in its equipment, and with the worn ones in its loadout. -/
theorem foldl_hold_of_some (items : List Item) {l : Loadout} {q : Equipment}
    (hl : p.loadout? id = some l) (hq : p.equipment? id = some q) :
    (items.foldl hold p).loadout? id = some
        (((items.filter (·.ownedBy id)).filter (·.isEquipped)).foldl Catalog.standard.fit l) ∧
      (items.foldl hold p).equipment? id = some
        ((items.filter (·.ownedBy id)).foldl Catalog.standard.shelve q) := by
  induction items generalizing p l q with
  | nil => exact ⟨hl, hq⟩
  | cons i rest ih =>
    rw [List.foldl_cons]
    cases own : i.ownedBy id with
    | false =>
      obtain ⟨loadout, equipment⟩ := hold_of_not_owned (p := p) own
      rw [List.filter_cons_of_neg (by simp [own])]
      exact ih (loadout.trans hl) (equipment.trans hq)
    | true =>
      obtain ⟨loadout, equipment⟩ := hold_of_owned own hl hq
      rw [List.filter_cons_of_pos (by simp [own])]
      obtain ⟨fitted, shelved⟩ := ih loadout equipment
      refine ⟨fitted.trans ?_, shelved⟩
      cases worn : i.isEquipped <;> simp [worn]

/-- What a profile that is made of items says of one of its characters. -/
theorem ofItems_of_mem {characters : List Character} (items : List Item)
    (h : characters.any (·.id == id) = true) :
    (ofItems characters items).loadout? id = some
        (Catalog.standard.loadoutOf ((items.filter (·.ownedBy id)).filter (·.isEquipped))) ∧
      (ofItems characters items).equipment? id = some
        (Catalog.standard.equipmentOf (items.filter (·.ownedBy id))) := by
  rw [Catalog.loadoutOf_eq_foldl, Catalog.equipmentOf_eq_foldl]
  unfold ofItems
  refine foldl_hold_of_some items ?_ ?_
  · exact (get?_ofList_const characters Loadout.empty id).trans (if_pos h)
  · exact (get?_ofList_const characters Equipment.empty id).trans (if_pos h)

/-- Of anybody else, who owns nothing, it says nothing. -/
theorem ofItems_of_not_mem {characters : List Character} {items : List Item}
    (h : ¬ characters.any (·.id == id) = true) (others : ∀ i ∈ items, i.ownedBy id = false) :
    (ofItems characters items).loadout? id = none ∧ (ofItems characters items).equipment? id = none := by
  unfold ofItems
  obtain ⟨loadout, equipment⟩ := foldl_hold_of_not_owned others _
  refine ⟨loadout.trans ?_, equipment.trans ?_⟩
  · exact (get?_ofList_const characters Loadout.empty id).trans (if_neg h)
  · exact (get?_ofList_const characters Equipment.empty id).trans (if_neg h)

theorem ordered_hold (h : p.loadouts.Ordered ∧ p.equipments.Ordered) (i : Item) :
    (p.hold i).loadouts.Ordered ∧ (p.hold i).equipments.Ordered := by
  unfold hold
  split
  · split
    · exact ⟨h.1.insert _ _, h.2.insert _ _⟩
    · exact ⟨h.1, h.2.insert _ _⟩
  · exact h

theorem ordered_ofItems (characters : List Character) (items : List Item) :
    (ofItems characters items).loadouts.Ordered ∧ (ofItems characters items).equipments.Ordered := by
  have keeps : ∀ (items : List Item) (p : Profile), p.loadouts.Ordered ∧ p.equipments.Ordered →
      (items.foldl hold p).loadouts.Ordered ∧ (items.foldl hold p).equipments.Ordered := by
    intro items
    induction items with
    | nil => exact fun p h => h
    | cons i rest ih => exact fun p h => ih _ (ordered_hold h i)
  exact keeps items _ ⟨Table.ordered_ofList _, Table.ordered_ofList _⟩

/-! ## The views agree -/

/-- Where no entry of an inventory has details that call it worn, the worn ones of a character's items are what it
wears. -/
theorem filter_isEquipped (unworn : ∀ raw ∈ e.inventory, ∀ d, s.details? raw = some d → d.isEquipped = false) :
    (s.worn c e ++ s.carried c e).filter (·.isEquipped) = s.worn c e := by
  have none : (s.carried c e).filter (·.isEquipped) = [] := by
    rw [List.filter_eq_nil_iff]
    intro i hi
    simp only [Snapshot.carried, Snapshot.carriedItems, Snapshot.resolveAll, List.map_map, List.mem_map,
      Function.comp_apply] at hi
    obtain ⟨raw, hraw, rfl⟩ := hi
    cases details : s.details? raw with
    | none => simp [Catalog.resolve]
    | some d => simp [Catalog.resolve, unworn raw hraw d details]
  rw [List.filter_append, none, List.append_nil, List.filter_eq_self]
  exact fun i hi => Snapshot.isEquipped_of_mem_worn hi

/-- **A profile that is made of the listed items alone** has the characters, loadouts and equipment of the profile that
lists them. -/
theorem ofItems_assemble (apart : (s.characters.map (·.character.id)).Nodup)
    (standard : ∀ h, c.bucketOf? h = Catalog.standard.bucketOf? h)
    (unworn : ∀ e ∈ s.characters, ∀ raw ∈ e.inventory, ∀ d, s.details? raw = some d → d.isEquipped = false) :
    let p := assemble s c false
    let q := ofItems (s.characters.map (·.character)) p.items
    q.characters = p.characters ∧ q.loadouts = p.loadouts ∧ q.equipments = p.equipments := by
  intro p q
  have loadoutOf : ∀ items, c.loadoutOf items = Catalog.standard.loadoutOf items := by
    intro items
    simp only [Catalog.loadoutOf, standard]
  have equipmentOf : ∀ items, c.equipmentOf items = Catalog.standard.equipmentOf items := by
    intro items
    simp only [Catalog.equipmentOf, standard]
  have both : ∀ id, q.loadout? id = p.loadout? id ∧ q.equipment? id = p.equipment? id := by
    intro id
    have known : (s.characters.map (·.character)).any (·.id == id) = true ↔
        ∃ e ∈ s.characters, e.character.id = id := by simp [List.any_map]
    by_cases member : ∃ e ∈ s.characters, e.character.id = id
    · obtain ⟨loadout, equipment⟩ := ofItems_of_mem p.items (known.mpr member)
      obtain ⟨e, he, rfl⟩ := member
      have own : p.items.filter (·.ownedBy e.character.id) = s.worn c e ++ s.carried c e :=
        filter_items apart he
      rw [own, filter_isEquipped (unworn e he), ← loadoutOf] at loadout
      rw [own, ← equipmentOf] at equipment
      exact ⟨loadout.trans (loadout?_of_mem apart he).symm, equipment.trans (equipment?_of_mem apart he).symm⟩
    · have others : ∀ i ∈ p.items, i.ownedBy id = false := by
        intro i hi
        rw [← Bool.not_eq_true]
        exact fun own => member (exists_of_owner hi (by simpa [Item.ownedBy] using own))
      obtain ⟨loadout, equipment⟩ := ofItems_of_not_mem (fun h => member (known.mp h)) others
      have absent : p.loadout? id = none ∧ p.equipment? id = none := by
        constructor <;> rw [Option.eq_none_iff_forall_ne_some] <;> intro v found <;>
          obtain ⟨e, he, same, -⟩ := exists_of_get?_ofList found <;> exact member ⟨e, he, same⟩
      exact ⟨loadout.trans absent.1.symm, equipment.trans absent.2.symm⟩
  obtain ⟨loadouts, equipments⟩ := ordered_ofItems (s.characters.map (·.character)) p.items
  refine ⟨characters_ofItems _ _, ?_, ?_⟩
  · exact loadouts.ext (Table.ordered_ofList _) fun id => (both id).1
  · exact equipments.ext (Table.ordered_ofList _) fun id => (both id).2

/-- The one item that a character wears in a bucket is in its loadout, and in the slot of the bucket. -/
theorem worn_in_bucket (single : s.WornApart c) (he : e ∈ s.characters) (hi : i ∈ s.worn c e)
    (hb : c.bucketOf? i.bucketHash = some b) :
    (c.loadoutOf (s.worn c e)).get? b = some i ∧
      ((c.equipmentOf (s.worn c e ++ s.carried c e)).contents b).equipped = some i := by
  have lone : (s.worn c e).filter (c.inBucket b) = [i] := single.lone he hi hb
  constructor
  · rw [Catalog.get?_loadoutOf, lone, List.getLast?_singleton]
  · rw [Catalog.contents_equipmentOf, Contents.pushAll_empty]
    show ((s.worn c e ++ s.carried c e).filter (c.inBucket b)).find? (·.isEquipped) = some i
    rw [List.filter_append, lone, List.singleton_append,
      List.find?_cons_of_pos (Snapshot.isEquipped_of_mem_worn hi)]

/-- **The views of a profile agree.** The characters of a snapshot have different ids, and none wears two items that
belong into one bucket. Then the slot of each bucket of a character together with what lies behind it is, up to order,
what the profile lists as that character's own and as belonging there. What the character wears there is in the slot
and in the loadout, and flagged as worn; where it wears nothing, the loadout has nothing. And if the catalog names the
standard buckets, and no details call an item worn that is only carried, then a profile that is made of the
characters and the listed items alone has the same characters, loadouts and equipment. -/
theorem views_agree (s : Snapshot) (c : Catalog) (apart : (s.characters.map (·.character.id)).Nodup)
    (single : s.WornApart c) :
    let p := assemble s c false
    (∀ e ∈ s.characters, ∃ l q, p.loadout? e.character.id = some l ∧ p.equipment? e.character.id = some q ∧
      ∀ b, (q.contents b).items.Perm (p.items.filter fun i => c.inBucket b i && i.ownedBy e.character.id) ∧
        q.occupancy b = p.items.countP (fun i => c.inBucket b i && i.ownedBy e.character.id) ∧
        (∀ i ∈ s.worn c e, c.bucketOf? i.bucketHash = some b →
          l.get? b = some i ∧ (q.contents b).equipped = some i ∧ i.isEquipped = true) ∧
        ((∀ i ∈ s.worn c e, c.bucketOf? i.bucketHash ≠ some b) → l.get? b = none)) ∧
      ((∀ h, c.bucketOf? h = Catalog.standard.bucketOf? h) →
        (∀ e ∈ s.characters, ∀ raw ∈ e.inventory, ∀ d, s.details? raw = some d → d.isEquipped = false) →
        let q := ofItems (s.characters.map (·.character)) p.items
        q.characters = p.characters ∧ q.loadouts = p.loadouts ∧ q.equipments = p.equipments) := by
  intro p
  refine ⟨fun e he => ⟨_, _, loadout?_of_mem apart he, equipment?_of_mem apart he, fun b => ?_⟩,
    fun standard unworn => ofItems_assemble apart standard unworn⟩
  have perm : ((c.equipmentOf (s.worn c e ++ s.carried c e)).contents b).items.Perm
      (p.items.filter fun i => c.inBucket b i && i.ownedBy e.character.id) := by
    rw [← List.filter_filter, filter_items apart he, Catalog.contents_equipmentOf]
    exact Contents.items_pushAll_perm _
  refine ⟨perm, ?_, fun i hi hb => ?_, fun nothing => ?_⟩
  · rw [Equipment.occupancy, Contents.occupancy_eq, perm.length_eq, List.countP_eq_length_filter]
  · obtain ⟨loadout, slot⟩ := worn_in_bucket single he hi hb
    exact ⟨loadout, slot, Snapshot.isEquipped_of_mem_worn hi⟩
  · have none : (s.worn c e).filter (c.inBucket b) = [] := by
      rw [List.filter_eq_nil_iff]
      exact fun i hi here => nothing i hi (Catalog.inBucket_iff.mp here)
    rw [Catalog.get?_loadoutOf, none, List.getLast?_nil]

/-! ### A character with an item worn and one carried -/

/-- A titan. -/
def sentry : Character := ⟨"sentry", "person", 2, .titan, 50, 0, ⟨1, 0⟩⟩

/-- An account whose one character wears a kinetic weapon and carries another one. -/
def gate : Snapshot where
  membership := ⟨"person", 2, "person"⟩
  characters := [⟨sentry, [⟨7, some "70", 1498876634, 1, 0⟩], [⟨8, some "80", 1498876634, 1, 0⟩]⟩]
  profileInventory := [⟨9, some "90", 1498876634, 1, 0⟩]
  currencies := []
  instances := .ofList [("80", ⟨300, 10, true, false⟩)]

/-- The weapon that is worn is in the slot, both weapons are in the bucket, and the items alone tell the same. -/
theorem views_agree_gate :
    let p := assemble gate .standard false
    (∃ l q i, p.loadout? "sentry" = some l ∧ p.equipment? "sentry" = some q ∧ i.instanceId = some "70" ∧
      l.get? .kinetic = some i ∧ (q.contents .kinetic).equipped = some i ∧ q.occupancy .kinetic = 2) ∧
      (ofItems [sentry] p.items).equipments = p.equipments := by
  intro p
  obtain ⟨views, rebuilt⟩ := views_agree gate .standard (by decide) (by decide +kernel)
  obtain ⟨l, q, hl, hq, buckets⟩ := views _ List.mem_cons_self
  obtain ⟨-, occupancy, worn, -⟩ := buckets .kinetic
  obtain ⟨loadout, slot, -⟩ := worn _ List.mem_cons_self (by decide +kernel)
  obtain ⟨-, -, equipments⟩ := rebuilt (fun _ => rfl) (by decide +kernel)
  refine ⟨⟨l, q, _, hl, hq, ?_, loadout, slot, occupancy.trans (by decide +kernel)⟩, equipments⟩
  rfl

end Profile
end Armory
