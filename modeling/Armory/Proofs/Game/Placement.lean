import Armory.Game.Simulation
import Armory.Gear.Transfer
import Armory.Proofs.Lone
import Armory.Proofs.Profile.Holdings

/-! The simulated game seen as a placement: a fixed list of items, and for each of them who holds it and
whether it is worn. Main statements: each call moves one item to another place or changes what one character
wears in one bucket, and leaves the rest of the placement alone (`Simulation.Shows.toVault`,
`Simulation.Shows.fromVault`, `Simulation.Shows.equip`). -/
namespace Armory

/-! ## Buckets and their hashes -/

theorem mem_of_lastWith {κ α : Type} [BEq κ] [LawfulBEq κ] {k : κ} {a : α} {es : List (κ × α)}
    (h : lastWith k es = some a) : (k, a) ∈ es := by
  obtain ⟨e, he, rfl⟩ := Option.map_eq_some_iff.mp h
  have hk : e.1 = k := by simpa using List.find?_some he
  subst hk
  exact List.mem_reverse.mp (List.mem_of_find?_eq_some he)

/-- In the standard catalog no two hashes name one bucket. -/
theorem bucketOf?_standard_inj {h h' : Hash} {b : Bucket}
    (hb : Catalog.standard.bucketOf? h = some b) (hb' : Catalog.standard.bucketOf? h' = some b) :
    h = h' := by
  have distinct : ∀ e ∈ Catalog.standard.bucketHashes, ∀ e' ∈ Catalog.standard.bucketHashes,
      e.2 = e'.2 → e.1 = e'.1 := by decide
  exact distinct _ (mem_of_lastWith hb) _ (mem_of_lastWith hb') rfl

/-! ## Placements -/

/-- A place for an item: who holds it there, none for the vault, and whether it is worn. -/
structure Spot where
  owner : Option CharacterId
  worn : Bool

/-- A place for every item. -/
abbrev Placement := Item → Spot

namespace Placement

/-- The record of an item at its place. -/
def put (π : Placement) (i : Item) : Item :=
  { i with owner := (π i).owner, isEquipped := (π i).worn }

/-- The placement that the records of the items report. -/
def reported : Placement := fun i => ⟨i.owner, i.isEquipped⟩

/-- A placement with one item given to an owner, who does not wear it. -/
def move (π : Placement) (i : Item) (owner : Option CharacterId) : Placement :=
  fun j => if j = i then ⟨owner, false⟩ else π j

/-- A placement in which the holder of an item wears it, and nothing else of its bucket hash. -/
def wear (π : Placement) (i : Item) : Placement := fun j =>
  if (π j).owner = (π i).owner ∧ j.bucketHash = i.bucketHash then ⟨(π j).owner, decide (j = i)⟩
  else π j

/-- How many items a character holds in a bucket. -/
def carries (π : Placement) (items : List Item) (c : CharacterId) (b : Bucket) : Nat :=
  items.countP fun i => (π.put i).isIn c b

variable {π : Placement} {i j : Item} {o : Option CharacterId}

@[simp] theorem put_reported (i : Item) : reported.put i = i := rfl

@[simp] theorem sameInstance_put (π : Placement) (i j : Item) :
    (π.put i).sameInstance j = i.sameInstance j := rfl

@[simp] theorem numericId?_put (π : Placement) (i : Item) :
    (π.put i).numericId? = i.numericId? := rfl

@[simp] theorem ownedBy_put {c : CharacterId} :
    (π.put i).ownedBy c = ((π i).owner == some c) := rfl

@[simp] theorem isIn_put {c : CharacterId} {b : Bucket} :
    (π.put i).isIn c b =
      ((π i).owner == some c && Catalog.standard.bucketOf? i.bucketHash == some b) := rfl

@[simp] theorem move_self (π : Placement) (i : Item) (o : Option CharacterId) :
    π.move i o i = ⟨o, false⟩ := if_pos rfl

theorem move_of_ne (h : j ≠ i) : π.move i o j = π j := if_neg h

@[simp] theorem owner_wear (π : Placement) (i j : Item) : (π.wear i j).owner = (π j).owner := by
  unfold wear
  split <;> rfl

@[simp] theorem worn_wear_self (π : Placement) (i : Item) : (π.wear i i).worn = true := by
  simp [wear]

theorem wear_of_owner_ne (h : (π j).owner ≠ (π i).owner) : π.wear i j = π j :=
  if_neg fun hj => h hj.1

theorem wear_of_bucketHash_ne (h : j.bucketHash ≠ i.bucketHash) : π.wear i j = π j :=
  if_neg fun hj => h hj.2

theorem worn_wear_of_ne (hj : j ≠ i) (owner : (π j).owner = (π i).owner)
    (bucket : j.bucketHash = i.bucketHash) : (π.wear i j).worn = false := by
  simp [wear, owner, bucket, hj]

/-- What a character holds in a bucket changes with a move only by the item that moves. -/
theorem carries_move {p : Item → Bool} {items : List Item} (only : Lone p i items)
    (c : CharacterId) (b : Bucket) :
    (π.move i o).carries items c b + (if (π.put i).isIn c b then 1 else 0) =
      π.carries items c b + (if ((π.move i o).put i).isIn c b then 1 else 0) := by
  -- all other items are counted alike on both sides
  have rest : (items.filter fun x => !p x).countP (fun x => ((π.move i o).put x).isIn c b) =
      (items.filter fun x => !p x).countP (fun x => (π.put x).isIn c b) := by
    apply List.countP_congr
    intro x hx
    have hne : x ≠ i := by
      rintro rfl
      simp [only.holds] at hx
    simp [move_of_ne hne]
  unfold carries
  rw [only.perm_cons.countP_eq, only.perm_cons.countP_eq, List.countP_cons, List.countP_cons,
    rest]
  omega

theorem carries_wear (π : Placement) (i : Item) (items : List Item) (c : CharacterId)
    (b : Bucket) : (π.wear i).carries items c b = π.carries items c b := by
  unfold carries
  apply List.countP_congr
  intro x _
  simp

end Placement

/-! ## The game as a placement -/

/-- The character or the vault that a transfer takes from. -/
def TransferRequest.source (r : TransferRequest) : Option CharacterId :=
  if r.transferToVault then some r.characterId else none

/-- The character or the vault that a transfer brings to. -/
def TransferRequest.target (r : TransferRequest) : Option CharacterId :=
  if r.transferToVault then none else some r.characterId

namespace Simulation

/-- A simulated game holds certain items, each at its place. -/
def Shows (s : Simulation) (items : List Item) (π : Placement) : Prop :=
  s.items.Perm (items.map π.put)

theorem shows_ofProfile (p : Profile) : (ofProfile p).Shows p.items .reported := by
  have same : p.items.map Placement.reported.put = p.items := List.map_id _
  unfold Shows
  rw [same]
  exact .refl _

/-! ### What an accepted transfer does -/

section Transferred

variable {s : Simulation} {r : TransferRequest} {n : Nat} {j : Item}

theorem transfer_of_ok {items : List Item} (h : s.transferred r = .ok items) :
    s.transfer r = (.ok (), { s with items }) := by
  rw [transfer, h]

/-- A transfer of an item that can go and has room where it goes is accepted. -/
theorem transferred_of_locate? (free : s.failing.contains r.itemHash = false)
    (found : s.locate? r r.source = some (n, j))
    (unworn : r.transferToVault = true → j.isEquipped = false)
    (room : ∀ c, r.target = some c → isBucket j.bucketHash = true →
      s.occupancy c j.bucketHash < Bucket.capacity) :
    s.transferred r = .ok (place s.items n j r.stackSize r.target) := by
  unfold TransferRequest.source at found
  unfold TransferRequest.target at room ⊢
  rw [transferred, if_neg (by simpa using free)]
  cases kind : r.transferToVault with
  | true =>
    rw [kind, if_pos rfl] at found
    simp [found, unworn kind]
  | false =>
    rw [kind, if_neg Bool.false_ne_true] at found
    have fits : ¬ (isBucket j.bucketHash &&
        decide (Bucket.capacity ≤ s.occupancy r.characterId j.bucketHash)) = true := by
      intro full
      simp only [Bool.and_eq_true, decide_eq_true_eq] at full
      have free := room r.characterId (by simp [kind]) full.1
      omega
    simp [found, fits]

end Transferred

/-- An item taken off by a character, if it has a bucket hash. -/
def undress (c : CharacterId) (bucketHash : Hash) (i : Item) : Item :=
  if i.ownedBy c && i.bucketHash == bucketHash then { i with isEquipped := false } else i

/-- What is taken off for an item is what the placement then reports as not worn. -/
theorem undress_put {π : Placement} {i j : Item} {c : CharacterId} (held : (π i).owner = some c)
    (hne : j ≠ i) : undress c i.bucketHash (π.put j) = (π.wear i).put j := by
  by_cases hc : (π j).owner = some c ∧ j.bucketHash = i.bucketHash
  · simp [undress, Placement.put, Placement.wear, Item.ownedBy, held, hc, hne]
  · have hf : ¬ ((π.put j).ownedBy c && (π.put j).bucketHash == i.bucketHash) = true := by
      simpa [Placement.put, Item.ownedBy] using hc
    have hw : π.wear i j = π j := by
      rw [Placement.wear, held]
      exact if_neg hc
    rw [undress, if_neg hf, Placement.put, Placement.put, hw]

/-! ### Calls as changes of the placement -/

namespace Shows

variable {s : Simulation} {items : List Item} {π : Placement} {i : Item} {p : Item → Bool}

/-- An item that stands alone in the list stands alone in the game. -/
theorem lone (h : s.Shows items π) (only : Lone p i items) {q : Item → Bool}
    (hq : ∀ j ∈ items, q (π.put j) = p j) : Lone q (π.put i) s.items :=
  (only.map π.put hq).perm h.symm

/-- What the game holds besides one item. -/
theorem eraseIdx (h : s.Shows items π) (only : Lone p i items) {n : Nat}
    (hn : s.items[n]? = some (π.put i)) :
    (s.items.eraseIdx n).Perm ((items.filter fun x => !p x).map π.put) := by
  have hl := (perm_cons_eraseIdx hn).symm.trans (h.trans (only.perm_cons.map π.put))
  exact hl.cons_inv

/-- A whole item given to another owner. -/
theorem place (h : s.Shows items π) (only : Lone p i items) (single : i.instanceId.isSome)
    {n : Nat} (hn : s.items[n]? = some (π.put i)) (o : Option CharacterId) :
    (Simulation.place s.items n (π.put i) i.quantity o).Perm
      (items.map (π.move i o).put) := by
  -- the whole of it goes, and an item with an identity joins no stack
  have hadd : Simulation.place s.items n (π.put i) i.quantity o =
      s.items.eraseIdx n ++ [(π.move i o).put i] := by
    have hsingle : i.instanceId.isNone = false := by
      cases hid : i.instanceId <;> simp_all
    simp [Simulation.place, Placement.put, add, hsingle]
  have rest : (items.filter fun x => !p x).map (π.move i o).put =
      (items.filter fun x => !p x).map π.put := by
    apply List.map_congr_left
    intro x hx
    have hne : x ≠ i := by
      rintro rfl
      simp [only.holds] at hx
    simp [Placement.put, Placement.move_of_ne hne]
  have front : (items.map (π.move i o).put).Perm
      ((π.move i o).put i :: (items.filter fun x => !p x).map π.put) := by
    have hmap := only.perm_cons.map (π.move i o).put
    rwa [List.map_cons, rest] at hmap
  rw [hadd]
  exact (List.perm_append_comm.trans ((h.eraseIdx only hn).cons _)).trans front.symm

theorem occupancy (h : s.Shows items π) {hash : Hash} {b : Bucket}
    (hb : Catalog.standard.bucketOf? hash = some b) (c : CharacterId) :
    s.occupancy c hash = π.carries items c b := by
  unfold Simulation.occupancy Placement.carries
  rw [h.countP_eq, List.countP_map]
  apply List.countP_congr
  intro x _
  have same : x.bucketHash = hash ↔ Catalog.standard.bucketOf? x.bucketHash = some b :=
    ⟨fun e => e ▸ hb, fun e => bucketOf?_standard_inj e hb⟩
  simp [Placement.put, Item.isIn, Item.ownedBy, same]

/-- A request for a whole item finds it with its owner. -/
theorem locate? (h : s.Shows items π) (only : Lone (·.sameInstance i) i items)
    {r : TransferRequest} (hash : r.itemHash = i.itemHash) (id : r.itemId = i.instanceId)
    (size : r.stackSize = i.quantity) {o : Option CharacterId} (held : (π i).owner = o) :
    ∃ n, s.locate? r o = some (n, π.put i) ∧ s.items[n]? = some (π.put i) := by
  -- what is wanted has the hash and the instance id of the item, and only the item has both
  have alone : Lone (isWanted r o) (π.put i) s.items := by
    refine (h.lone (q := (·.sameInstance i)) only fun _ _ => rfl).narrow ?_ ?_
    · intro x _ hx
      simp only [isWanted, Bool.and_eq_true] at hx
      simpa [Item.sameInstance, hash, id] using hx.1.1
    · simp [isWanted, Placement.put, hash, id, size, held]
  obtain ⟨n, hn, hget⟩ := alone.findIdx?
  exact ⟨n, by simp [Simulation.locate?, hn, hget], hget⟩

/-- **To the vault**: a whole item leaves a character who does not wear it. -/
theorem toVault (h : s.Shows items π) (only : Lone (·.sameInstance i) i items)
    (single : i.instanceId.isSome) {c : CharacterId} (held : (π i).owner = some c)
    (unworn : (π i).worn = false) (free : s.failing.contains i.itemHash = false)
    (membershipType : Int) :
    ∃ t : Simulation,
      s.transfer (Transfer.toVaultRequest ⟨i, i.quantity⟩ c membershipType) = (.ok (), t) ∧
        t.Shows items (π.move i none) ∧ t.failing = s.failing := by
  obtain ⟨n, hloc, hn⟩ := h.locate? (r := Transfer.toVaultRequest ⟨i, i.quantity⟩ c membershipType)
    only rfl rfl rfl held
  have hitems := transferred_of_locate? free hloc (fun _ => unworn) (fun _ hc => nomatch hc)
  exact ⟨_, transfer_of_ok hitems, h.place only single hn none, rfl⟩

/-- **From the vault**: a whole item arrives at a character who has room for it. -/
theorem fromVault (h : s.Shows items π) (only : Lone (·.sameInstance i) i items)
    (single : i.instanceId.isSome) (held : (π i).owner = none) {c : CharacterId} {b : Bucket}
    (bucket : Catalog.standard.bucketOf? i.bucketHash = some b)
    (room : π.carries items c b < Bucket.capacity)
    (free : s.failing.contains i.itemHash = false) (membershipType : Int) :
    ∃ t : Simulation,
      s.transfer (Transfer.fromVaultRequest ⟨i, i.quantity⟩ c membershipType) = (.ok (), t) ∧
        t.Shows items (π.move i (some c)) ∧ t.failing = s.failing := by
  obtain ⟨n, hloc, hn⟩ := h.locate?
    (r := Transfer.fromVaultRequest ⟨i, i.quantity⟩ c membershipType) only rfl rfl rfl held
  have fits : s.occupancy c i.bucketHash < Bucket.capacity := by rwa [h.occupancy bucket]
  have hitems := transferred_of_locate? free hloc (fun hk => nomatch hk)
    (fun _ hc _ => Option.some.inj hc ▸ fits)
  exact ⟨_, transfer_of_ok hitems, h.place only single hn (some c), rfl⟩

/-- A change of clothes is a change of the placement. -/
theorem wearAt (h : s.Shows items π) (only : Lone p i items) {c : CharacterId}
    (held : (π i).owner = some c) {n : Nat} (hn : s.items[n]? = some (π.put i)) :
    (Simulation.wearAt s.items n i.bucketHash c).Perm (items.map (π.wear i).put) := by
  have hget : (s.items.map (undress c i.bucketHash))[n]? =
      some (undress c i.bucketHash (π.put i)) := by
    simp [hn]
  -- first everything of the bucket hash comes off, then the one item is put on
  have front := modify_perm hget fun j => { j with isEquipped := true }
  have self : { undress c i.bucketHash (π.put i) with isEquipped := true } = (π.wear i).put i := by
    simp [undress, Placement.put, Placement.wear, Item.ownedBy, held]
  have rest : ∀ x ∈ items.filter fun x => !p x,
      undress c i.bucketHash (π.put x) = (π.wear i).put x := by
    intro x hx
    refine undress_put held ?_
    rintro rfl
    simp [only.holds] at hx
  have others : ((s.items.map (undress c i.bucketHash)).eraseIdx n).Perm
      ((items.filter fun x => !p x).map (π.wear i).put) := by
    have hmap := (h.eraseIdx only hn).map (undress c i.bucketHash)
    rwa [List.map_map, List.map_congr_left (f := undress c i.bucketHash ∘ π.put) rest,
      ← List.eraseIdx_map] at hmap
  rw [self] at front
  exact (front.trans (others.cons _)).trans (only.perm_cons.map (π.wear i).put).symm

/-- **Putting on**: the first id of a call dresses its holder, and the call goes on from there. -/
theorem equip (h : s.Shows items π) {id : Int} (only : Lone (·.numericId? == some id) i items)
    {c : CharacterId} (held : (π i).owner = some c)
    (free : s.failing.contains i.itemHash = false) (ids : List Int) :
    ∃ t : Simulation, s.equipAll c (id :: ids) = t.equipAll c ids ∧ t.Shows items (π.wear i) ∧
      t.failing = s.failing := by
  have alone : Lone (fun j => j.numericId? == some id && j.ownedBy c) (π.put i) s.items := by
    refine (h.lone (q := (·.numericId? == some id)) only fun _ _ => rfl).narrow ?_ ?_
    · intro x _ hx
      exact (Bool.and_eq_true _ _ ▸ hx).1
    · have hid := only.holds
      simpa [held] using hid
  obtain ⟨n, hn, hget⟩ := alone.findIdx?
  refine ⟨{ s with items := Simulation.wearAt s.items n i.bucketHash c }, ?_,
    h.wearAt only held hget, rfl⟩
  rw [Simulation.equipAll, hn]
  simp only [hget]
  rw [if_neg (by simpa [Placement.put] using free)]
  rfl

end Shows
end Simulation
end Armory
