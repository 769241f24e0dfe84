import Mathlib.Logic.Relation
import Armory.Proofs.Game.Placement

/-! The inventory of a simulated game over a run. A call changes an inventory by moves and by changes of
clothes, one after the other, and each of these obeys the same laws: nothing is created or lost, a bucket is
filled up to its capacity at most, and nobody comes to wear two items of one bucket. Main statement: these
laws hold between the first and every later state of a game, whatever is called
(`Simulation.inventory_laws`). -/
namespace Armory

/-- The record of an item apart from whether it is worn. -/
def Item.unworn (i : Item) : Item := { i with isEquipped := false }

namespace Simulation

variable {s t u : Simulation} {r : TransferRequest} {items : List Item} {n q : Nat} {i : Item}
  {o : Option CharacterId}

/-! ## What stays and what goes -/

/-- What stays where it is of some items when a quantity of one of them goes. -/
def remaining (items : List Item) (n : Nat) (i : Item) (q : Nat) : List Item :=
  if q < i.quantity then items.modify n fun i => { i with quantity := i.quantity - q }
  else items.eraseIdx n

/-- A move takes something away and adds it elsewhere. -/
theorem place_eq (enough : q ≤ i.quantity) :
    place items n i q o =
      add { i with quantity := q, owner := o, isEquipped := false } (remaining items n i q) := by
  unfold place remaining
  split
  · rfl
  · have whole : q = i.quantity := by omega
    rw [whole]

/-! ## How much there is -/

/-- How much there is of the items that some hashes and owners select. -/
def amount (sel : Hash → Option CharacterId → Bool) (items : List Item) : Nat :=
  sumOf (·.quantity) (items.filter fun i => sel i.itemHash i.owner)

/-- How much of an item hash all owners and the vault hold together. -/
def total (s : Simulation) (h : Hash) : Nat := amount (fun h' _ => h' == h) s.items

theorem held_eq_amount (s : Simulation) (o : Option CharacterId) (h : Hash) :
    s.held o h = amount (fun h' o' => h' == h && o' == o) s.items := rfl

section Amount

variable (sel : Hash → Option CharacterId → Bool)

theorem amount_cons (i : Item) (items : List Item) :
    amount sel (i :: items) =
      (if sel i.itemHash i.owner then i.quantity else 0) + amount sel items := by
  unfold amount
  cases h : sel i.itemHash i.owner <;> simp [h, sumOf]

theorem amount_perm {l l' : List Item} (h : l.Perm l') : amount sel l = amount sel l' :=
  sumOf_perm _ (h.filter _)

/-- What is added counts where it is added, whether it joins a stack or not. -/
theorem amount_add (moved : Item) (items : List Item) :
    amount sel (add moved items) =
      amount sel items + (if sel moved.itemHash moved.owner then moved.quantity else 0) := by
  have append : amount sel (items ++ [moved]) =
      amount sel items + (if sel moved.itemHash moved.owner then moved.quantity else 0) := by
    rw [amount_perm sel List.perm_append_comm, List.singleton_append, amount_cons]
    omega
  unfold add
  split
  · split
    · rename_i n hn
      obtain ⟨hlt, hj, -⟩ := List.findIdx?_eq_some_iff_getElem.mp hn
      have hget := List.getElem?_eq_getElem hlt
      simp only [Bool.and_eq_true, beq_iff_eq] at hj
      rw [amount_perm sel (modify_perm hget _), amount_perm sel (perm_cons_eraseIdx hget),
        amount_cons, amount_cons]
      simp only [hj.1.2, hj.2]
      split <;> omega
    · exact append
  · exact append

theorem amount_remaining (found : items[n]? = some i) (enough : q ≤ i.quantity) :
    amount sel (remaining items n i q) + (if sel i.itemHash i.owner then q else 0) =
      amount sel items := by
  have before := amount_perm sel (perm_cons_eraseIdx found)
  rw [amount_cons] at before
  unfold remaining
  split
  · have rest := amount_perm sel (modify_perm found fun i => { i with quantity := i.quantity - q })
    rw [amount_cons] at rest
    simp only at rest
    rw [rest, before]
    split <;> omega
  · have whole : q = i.quantity := by omega
    rw [before, whole]
    omega

/-- **A move takes from one owner what it gives to another.** -/
theorem amount_place (found : items[n]? = some i) (enough : q ≤ i.quantity)
    (o : Option CharacterId) :
    amount sel (place items n i q o) + (if sel i.itemHash i.owner then q else 0) =
      amount sel items + (if sel i.itemHash o then q else 0) := by
  have rest := amount_remaining sel found enough
  have added := amount_add sel { i with quantity := q, owner := o, isEquipped := false }
    (remaining items n i q)
  simp only at added
  rw [place_eq enough, added]
  omega

end Amount

/-! ## How many entries there are -/

section Count

variable {p : Item → Bool}

/-- Entries are counted alike whatever their quantities are. -/
def IgnoresQuantity (p : Item → Bool) : Prop := ∀ (i : Item) (q : Nat), p { i with quantity := q } = p i

theorem countP_modify_quantity (hp : IgnoresQuantity p) (found : items[n]? = some i)
    (f : Nat → Nat) :
    (items.modify n fun i => { i with quantity := f i.quantity }).countP p = items.countP p := by
  rw [(modify_perm found _).countP_eq, (perm_cons_eraseIdx found).countP_eq, List.countP_cons,
    List.countP_cons, hp]

theorem countP_add_le (hp : IgnoresQuantity p) (moved : Item) (items : List Item) :
    (add moved items).countP p ≤ items.countP p + if p moved then 1 else 0 := by
  unfold add
  split
  · split
    · rename_i n hn
      obtain ⟨hlt, -, -⟩ := List.findIdx?_eq_some_iff_getElem.mp hn
      rw [countP_modify_quantity hp (List.getElem?_eq_getElem hlt) (· + moved.quantity)]
      exact Nat.le_add_right _ _
    · simp [List.countP_append, List.countP_singleton]
  · simp [List.countP_append, List.countP_singleton]

theorem countP_remaining_le (hp : IgnoresQuantity p) (found : items[n]? = some i) (q : Nat) :
    (remaining items n i q).countP p ≤ items.countP p := by
  unfold remaining
  split
  · exact Nat.le_of_eq (countP_modify_quantity hp found (· - q))
  · exact (List.eraseIdx_sublist items n).countP_le

/-- A move adds at most one entry, the one that it brings. -/
theorem countP_place_le (hp : IgnoresQuantity p) (found : items[n]? = some i)
    (enough : q ≤ i.quantity) (o : Option CharacterId) :
    (place items n i q o).countP p ≤
      items.countP p + if p { i with owner := o, isEquipped := false } then 1 else 0 := by
  have rest := countP_remaining_le hp found q
  have added := countP_add_le hp { i with quantity := q, owner := o, isEquipped := false }
    (remaining items n i q)
  rw [hp { i with owner := o, isEquipped := false } q] at added
  rw [place_eq enough]
  omega

end Count

/-! ## Clothes -/

theorem amount_map_unworn (sel : Hash → Option CharacterId → Bool) (items : List Item) :
    amount sel (items.map Item.unworn) = amount sel items := by
  induction items with
  | nil => rfl
  | cons i rest ih =>
    rw [List.map_cons, amount_cons, amount_cons, ih]
    rfl

/-- A change of clothes changes nothing but what is worn. -/
theorem map_unworn_wearAt (items : List Item) (n : Nat) (h : Hash) (c : CharacterId) :
    (wearAt items n h c).map Item.unworn = items.map Item.unworn := by
  apply List.ext_getElem?
  intro k
  simp only [wearAt, List.getElem?_map, List.getElem?_modify]
  cases items[k]? with
  | none => rfl
  | some i =>
    simp only [Option.map_some, Option.map_eq_map, Item.unworn]
    split <;> split <;> rfl

theorem map_unworn_equipAll (s : Simulation) (c : CharacterId) (ids : List Int) :
    (s.equipAll c ids).2.items.map Item.unworn = s.items.map Item.unworn := by
  induction ids generalizing s with
  | nil => rfl
  | cons id ids ih =>
    unfold equipAll
    split
    · rfl
    · split
      · rfl
      · split
        · rfl
        · rw [ih, map_unworn_wearAt]

theorem map_unworn_equipOne (s : Simulation) (r : EquipRequest) :
    (s.equipOne r).2.items.map Item.unworn = s.items.map Item.unworn := by
  unfold equipOne
  split
  · rfl
  · exact map_unworn_equipAll s _ _

@[simp] theorem ownedBy_undress (c d : CharacterId) (h : Hash) (i : Item) :
    (undress c h i).ownedBy d = i.ownedBy d := by
  unfold undress
  split <;> rfl

@[simp] theorem bucketHash_undress (c : CharacterId) (h : Hash) (i : Item) :
    (undress c h i).bucketHash = i.bucketHash := by
  unfold undress
  split <;> rfl

@[simp] theorem isEquipped_undress (c : CharacterId) (h : Hash) (i : Item) :
    (undress c h i).isEquipped = (i.isEquipped && !(i.ownedBy c && i.bucketHash == h)) := by
  unfold undress
  cases hi : i.ownedBy c && i.bucketHash == h <;> simp

/-- Whether a character wears an item of a bucket hash. -/
def isWornIn (c : CharacterId) (bucketHash : Hash) (i : Item) : Bool :=
  i.equippedOn c && i.bucketHash == bucketHash

theorem isWornIn_undress (c d : CharacterId) (h h' : Hash) (i : Item) :
    isWornIn d h' (undress c h i) =
      (isWornIn d h' i && !(i.ownedBy c && i.bucketHash == h)) := by
  simp [isWornIn, Item.equippedOn, Bool.and_right_comm]

theorem isWornIn_undress_self (c : CharacterId) (h : Hash) (i : Item) :
    isWornIn c h (undress c h i) = false := by
  rw [isWornIn_undress, isWornIn, Item.equippedOn, Bool.and_assoc i.isEquipped, Bool.and_assoc,
    Bool.and_not_self, Bool.and_false]

theorem isWornIn_worn (d : CharacterId) (h : Hash) (i : Item) :
    isWornIn d h { i with isEquipped := true } = (i.ownedBy d && i.bucketHash == h) := by
  simp [isWornIn, Item.equippedOn, Item.ownedBy]

/-- How many items of a bucket hash a character wears. -/
def wornCount (s : Simulation) (c : CharacterId) (bucketHash : Hash) : Nat :=
  s.items.countP (isWornIn c bucketHash)

/-- After a change of clothes a character wears one item of the bucket hash, and everybody wears of every
other bucket hash what they wore. -/
theorem countP_isWornIn_wearAt_le (found : items[n]? = some i) {c : CharacterId}
    (held : i.ownedBy c = true) (d : CharacterId) (h : Hash) :
    (wearAt items n i.bucketHash c).countP (isWornIn d h) ≤ max 1 (items.countP (isWornIn d h)) := by
  have hget : (items.map (undress c i.bucketHash))[n]? = some (undress c i.bucketHash i) := by
    rw [List.getElem?_map, found, Option.map_some]
  have rest : ((items.map (undress c i.bucketHash)).eraseIdx n).countP (isWornIn d h) ≤
      items.countP (isWornIn d h ∘ undress c i.bucketHash) := by
    rw [← List.countP_map]
    exact (List.eraseIdx_sublist _ n).countP_le
  have front := (modify_perm hget fun j => { j with isEquipped := true }).countP_eq (isWornIn d h)
  rw [List.countP_cons] at front
  have result : (wearAt items n i.bucketHash c).countP (isWornIn d h) = _ := front
  rw [result]
  by_cases same : c = d ∧ i.bucketHash = h
  · -- everything of the bucket hash has come off, so only the one item is worn
    obtain ⟨rfl, rfl⟩ := same
    have off : items.countP (isWornIn c i.bucketHash ∘ undress c i.bucketHash) = 0 := by
      rw [List.countP_eq_zero]
      intro j _
      simp [isWornIn_undress_self]
    split <;> omega
  · have kept : items.countP (isWornIn d h ∘ undress c i.bucketHash) ≤
        items.countP (isWornIn d h) := by
      apply List.countP_mono_left
      intro j _ hj
      simp only [Function.comp_apply, isWornIn_undress, Bool.and_eq_true] at hj
      exact hj.1
    have other : isWornIn d h { undress c i.bucketHash i with isEquipped := true } = false := by
      rw [isWornIn_worn, ownedBy_undress, bucketHash_undress]
      simp only [Item.ownedBy, beq_iff_eq] at held
      simpa [Item.ownedBy, held] using same
    rw [other]
    simp only [Bool.false_eq_true, if_false]
    omega

/-! ## Changes -/

/-- One change of a simulated game: a quantity of an item goes to another owner, a character with room in
the bucket or the vault; a character puts on an item that it holds; or one more hash cannot be touched. -/
inductive Change (s : Simulation) : Simulation → Prop
  | move {n : Nat} {i : Item} {q : Nat} {o : Option CharacterId} (found : s.items[n]? = some i)
      (enough : q ≤ i.quantity)
      (room : ∀ c, o = some c → isBucket i.bucketHash = true →
        s.occupancy c i.bucketHash < Bucket.capacity) :
      Change s { s with items := place s.items n i q o }
  | wear {n : Nat} {i : Item} {c : CharacterId} (found : s.items[n]? = some i) (held : i.ownedBy c = true) :
      Change s { s with items := wearAt s.items n i.bucketHash c }
  | bar (h : Hash) : Change s (s.fail h)

/-- Any number of changes, one after the other. -/
abbrev Changes : Simulation → Simulation → Prop := Relation.ReflTransGen Change

theorem locate?_eq_some {o : Option CharacterId} (h : s.locate? r o = some (n, i)) :
    s.items[n]? = some i ∧ isWanted r o i = true := by
  obtain ⟨m, hm, hget⟩ := Option.bind_eq_some_iff.mp h
  obtain ⟨j, hj, heq⟩ := Option.map_eq_some_iff.mp hget
  obtain ⟨rfl, rfl⟩ := Prod.mk.inj heq
  obtain ⟨hlt, hp, -⟩ := List.findIdx?_eq_some_iff_getElem.mp hm
  rw [List.getElem?_eq_getElem hlt] at hj
  exact ⟨by rw [List.getElem?_eq_getElem hlt, hj], Option.some.inj hj ▸ hp⟩

theorem enough_of_isWanted (wanted : isWanted r o i = true) : r.stackSize ≤ i.quantity := by
  simp only [isWanted, Bool.and_eq_true, decide_eq_true_eq] at wanted
  exact wanted.2

/-- An accepted transfer moves an item that it asks for to where there is room for it. -/
theorem transferred_eq_ok (h : s.transferred r = .ok items) :
    ∃ n i, s.items[n]? = some i ∧ isWanted r r.source i = true ∧
      (∀ c, r.target = some c → isBucket i.bucketHash = true →
        s.occupancy c i.bucketHash < Bucket.capacity) ∧
      items = place s.items n i r.stackSize r.target := by
  unfold transferred at h
  unfold TransferRequest.source TransferRequest.target
  split at h
  · cases h
  · split at h
    · rename_i toVault
      cases hloc : s.locate? r (some r.characterId) with
      | none => simp [hloc] at h
      | some e =>
        obtain ⟨n, i⟩ := e
        simp only [hloc] at h
        split at h
        · cases h
        · cases h
          obtain ⟨found, wanted⟩ := locate?_eq_some hloc
          exact ⟨n, i, found, by simpa [toVault] using wanted, by simp [toVault], by simp [toVault]⟩
    · rename_i fromVault
      cases hloc : s.locate? r none with
      | none => simp [hloc] at h
      | some e =>
        obtain ⟨n, i⟩ := e
        simp only [hloc] at h
        split at h
        · cases h
        · rename_i room
          cases h
          obtain ⟨found, wanted⟩ := locate?_eq_some hloc
          refine ⟨n, i, found, by simpa [fromVault] using wanted, ?_, by simp [fromVault]⟩
          rintro c hc bucket
          simp only [fromVault, Bool.false_eq_true, if_false, Option.some.injEq] at hc
          subst hc
          simpa [bucket] using room

/-- A transfer is refused and changes nothing, or is one change. -/
theorem transfer_cases (s : Simulation) (r : TransferRequest) :
    (∃ e, s.transfer r = (.error e, s)) ∨ ∃ t, s.transfer r = (.ok (), t) ∧ Change s t := by
  unfold transfer
  cases h : s.transferred r with
  | error e => exact .inl ⟨e, rfl⟩
  | ok items =>
    obtain ⟨n, i, found, wanted, room, rfl⟩ := transferred_eq_ok h
    exact .inr ⟨_, rfl, .move found (enough_of_isWanted wanted) room⟩

/-- Every item of a call that is put on is one change. -/
theorem changes_equipAll (s : Simulation) (c : CharacterId) (ids : List Int) :
    Changes s (s.equipAll c ids).2 := by
  induction ids generalizing s with
  | nil => exact .refl
  | cons id ids ih =>
    unfold equipAll
    cases hn : s.items.findIdx? fun i => i.numericId? == some id && i.ownedBy c with
    | none => exact .refl
    | some n =>
      obtain ⟨hlt, hp, -⟩ := List.findIdx?_eq_some_iff_getElem.mp hn
      have found := List.getElem?_eq_getElem hlt
      simp only [found]
      split
      · exact .refl
      · simp only [Bool.and_eq_true] at hp
        exact .head (.wear found hp.2) (ih _)

theorem changes_answer (c : Game.Call) (s : Simulation) : Changes s (answer c s).2 := by
  cases c with
  | currentAccount => exact .refl
  | loadProfile m => exact .refl
  | loadProgressions m => exact .refl
  | transferItem r =>
    rcases transfer_cases s r with ⟨e, he⟩ | ⟨t, ht, change⟩
    · rw [answer, he]
    · rw [answer, ht]
      exact .single change
  | equipItem r =>
    show Changes s (s.equipOne r).2
    unfold equipOne
    split
    · exact .refl
    · exact changes_equipAll s _ _
  | equipItems r => exact changes_equipAll s _ _

/-! ## Laws -/

theorem total_eq_unworn (s : Simulation) (h : Hash) :
    s.total h = amount (fun h' _ => h' == h) (s.items.map Item.unworn) := by
  simp [total, amount_map_unworn]

theorem occupancy_eq_unworn (s : Simulation) (c : CharacterId) (h : Hash) :
    s.occupancy c h =
      (s.items.map Item.unworn).countP fun i => i.ownedBy c && i.bucketHash == h := by
  rw [List.countP_map]
  rfl

/-- What holds between a state of a game and any later one: of every hash there is as much as before, a
bucket is filled up to its capacity at most, and nobody comes to wear two items of one bucket hash. -/
structure Keeps (s t : Simulation) : Prop where
  total : ∀ h, t.total h = s.total h
  room : ∀ c h, isBucket h = true → t.occupancy c h ≤ max Bucket.capacity (s.occupancy c h)
  worn : ∀ c h, t.wornCount c h ≤ max 1 (s.wornCount c h)

theorem Keeps.refl (s : Simulation) : Keeps s s :=
  ⟨fun _ => rfl, fun _ _ _ => Nat.le_max_right _ _, fun _ _ => Nat.le_max_right _ _⟩

theorem Keeps.trans (h : Keeps s t) (h' : Keeps t u) : Keeps s u where
  total a := (h'.total a).trans (h.total a)
  room c a bucket := by
    have first := h.room c a bucket
    have second := h'.room c a bucket
    omega
  worn c a := by
    have first := h.worn c a
    have second := h'.worn c a
    omega

/-- **One change keeps the laws.** -/
theorem Change.keeps (h : Change s t) : Keeps s t := by
  cases h with
  | @move n i q o found enough room =>
    constructor
    case total =>
      intro h
      have moved := amount_place (fun h' _ => h' == h) found enough o
      exact Nat.add_right_cancel moved
    case room =>
      intro c h bucket
      have count := countP_place_le (p := fun i => i.ownedBy c && i.bucketHash == h)
        (fun _ _ => rfl) found enough o
      show (place s.items n i q o).countP _ ≤ _
      by_cases here : o = some c ∧ i.bucketHash = h
      · obtain ⟨rfl, rfl⟩ := here
        have free := room c rfl bucket
        unfold Simulation.occupancy at *
        split at count <;> omega
      · have elsewhere : ¬ (o == some c && i.bucketHash == h) = true := by simpa using here
        simp only [Item.ownedBy, elsewhere, Bool.false_eq_true, if_false] at count
        unfold Simulation.occupancy
        simp only [Item.ownedBy]
        omega
    case worn =>
      intro c h
      have count := countP_place_le (p := isWornIn c h) (fun _ _ => rfl) found enough o
      simp only [isWornIn, Item.equippedOn, Bool.false_and, Bool.false_eq_true, if_false] at count
      exact Nat.le_trans count (Nat.le_max_right _ _)
  | @wear n i c found held =>
    -- only what is worn is counted differently
    have same := map_unworn_wearAt s.items n i.bucketHash c
    constructor
    case total =>
      intro h
      rw [total_eq_unworn, total_eq_unworn, same]
    case room =>
      intro d h _
      rw [occupancy_eq_unworn, occupancy_eq_unworn, same]
      exact Nat.le_max_right _ _
    case worn => exact fun d h => countP_isWornIn_wearAt_le found held d h
  | bar h => exact ⟨fun _ => rfl, fun _ _ _ => Nat.le_max_right _ _, fun _ _ => Nat.le_max_right _ _⟩

theorem Changes.keeps (h : Changes s t) : Keeps s t := by
  induction h with
  | refl => exact .refl s
  | tail _ change ih => exact ih.trans change.keeps

/-! ## Runs -/

/-- What can happen to a simulated game: a call is made, or the items of one more hash cannot be touched
from then on. -/
inductive Event where
  | call (c : Game.Call)
  | bar (h : Hash)

/-- A game after one event. -/
def next (s : Simulation) : Event → Simulation
  | .call c => (answer c s).2
  | .bar h => s.fail h

/-- A game after several events, one after the other. -/
def after (s : Simulation) (events : List Event) : Simulation := events.foldl next s

theorem changes_next (s : Simulation) (e : Event) : Changes s (s.next e) := by
  cases e with
  | call c => exact changes_answer c s
  | bar h => exact .single (.bar h)

theorem changes_after (s : Simulation) (events : List Event) : Changes s (s.after events) := by
  induction events generalizing s with
  | nil => exact .refl
  | cons e rest ih => exact (changes_next s e).trans (ih (s.next e))

theorem quantity_le_total (h : i ∈ s.items) : i.quantity ≤ s.total i.itemHash := by
  obtain ⟨n, hn⟩ := List.getElem?_of_mem h
  have front := amount_perm (fun h' _ => h' == i.itemHash) (perm_cons_eraseIdx hn)
  rw [amount_cons, beq_self_eq_true, if_pos rfl] at front
  rw [total, front]
  exact Nat.le_add_right _ _

/-- **The laws of the inventory**, over every run from every inventory. Between the first and the last state
the total of every hash is the same, no bucket has been filled beyond its capacity, and nobody has come to
wear two items of a bucket; so no quantity ever exceeds the total that its hash had at the start. In the last
state, a transfer that is not accepted changes nothing, and calls to wear something change nothing but what
is worn, so neither an owner nor a quantity. -/
theorem inventory_laws (s : Simulation) (events : List Event) :
    Keeps s (s.after events) ∧
      (∀ i ∈ (s.after events).items, i.quantity ≤ s.total i.itemHash) ∧
      (∀ r, (answer (.transferItem r) (s.after events)).1 = .ok () ∨
        (answer (.transferItem r) (s.after events)).2 = s.after events) ∧
      (∀ r, (answer (.equipItem r) (s.after events)).2.items.map Item.unworn =
        (s.after events).items.map Item.unworn) ∧
      ∀ r, (answer (.equipItems r) (s.after events)).2.items.map Item.unworn =
        (s.after events).items.map Item.unworn := by
  have keeps := (changes_after s events).keeps
  refine ⟨keeps, fun i hi => ?_, fun r => ?_, fun r => map_unworn_equipOne _ r,
    fun r => map_unworn_equipAll _ _ _⟩
  · rw [← keeps.total]
    exact quantity_le_total hi
  rcases transfer_cases (s.after events) r with ⟨e, he⟩ | ⟨t, ht, -⟩
  · exact .inr (congrArg Prod.snd he)
  · exact .inl (congrArg Prod.fst ht)

end Simulation
end Armory
