import Armory.Gear.Equip
import Armory.Proofs.Dialogue.Batch
import Armory.Proofs.Game.Placement

/-! Batches of whole items carried out by the simulated game. Main statements: a batch in which no two items
share a bucket hash is moved completely if each of its items has room where it goes
(`Simulation.Shows.deliver`), and one call puts on all of it (`Simulation.Shows.equipAll`). -/
namespace Armory

/-! ## Placements after a batch -/

namespace Placement

variable {π : Placement} {items batch : List Item} {i j : Item} {o : Option CharacterId}
  {c : CharacterId} {b : Bucket}

/-- A placement with several items given to an owner, who wears none of them. -/
def moveAll (π : Placement) (batch : List Item) (o : Option CharacterId) : Placement :=
  fun j => if j ∈ batch then ⟨o, false⟩ else π j

/-- A placement in which several items are put on one after the other. -/
def wearAll (π : Placement) (batch : List Item) : Placement := batch.foldl wear π

@[simp] theorem moveAll_nil (π : Placement) (o : Option CharacterId) : π.moveAll [] o = π := by
  funext j
  exact if_neg List.not_mem_nil

theorem moveAll_of_mem (h : j ∈ batch) : π.moveAll batch o j = ⟨o, false⟩ := if_pos h

theorem moveAll_of_not_mem (h : j ∉ batch) : π.moveAll batch o j = π j := if_neg h

/-- Of a batch only its members count, in any order. -/
theorem moveAll_congr {batch' : List Item} (h : ∀ j, j ∈ batch ↔ j ∈ batch') :
    π.moveAll batch o = π.moveAll batch' o := by
  funext j
  simp only [moveAll, h]

theorem moveAll_cons (π : Placement) (i : Item) (rest : List Item) (o : Option CharacterId) :
    π.moveAll (i :: rest) o = (π.moveAll rest o).move i o := by
  funext j
  by_cases hj : j = i <;> simp [moveAll, move, hj]

theorem moveAll_concat (π : Placement) (done : List Item) (i : Item) (o : Option CharacterId) :
    π.moveAll (done ++ [i]) o = (π.moveAll done o).move i o := by
  rw [← moveAll_cons]
  exact moveAll_congr (by simp [or_comm])

theorem move_move (π : Placement) (i : Item) (o o' : Option CharacterId) :
    (π.move i o).move i o' = π.move i o' := by
  funext j
  by_cases hj : j = i <;> simp [move, hj]

/-- A bucket hash with which nothing moves holds what it held. -/
theorem carries_moveAll_of_ne
    (h : ∀ x ∈ batch, Catalog.standard.bucketOf? x.bucketHash ≠ some b) :
    (π.moveAll batch o).carries items c b = π.carries items c b := by
  unfold carries
  apply List.countP_congr
  intro x _
  by_cases hx : x ∈ batch
  · simp [h x hx]
  · simp [moveAll_of_not_mem hx]

/-- What goes to the vault leaves no bucket fuller. -/
theorem carries_moveAll_none_le (π : Placement) (items batch : List Item) (c : CharacterId)
    (b : Bucket) : (π.moveAll batch none).carries items c b ≤ π.carries items c b := by
  apply List.countP_mono_left
  intro x _ hx
  by_cases hmem : x ∈ batch
  · simp [moveAll_of_mem hmem] at hx
  · simpa [moveAll_of_not_mem hmem] using hx

theorem carries_move_none_le {p : Item → Bool} (only : Lone p i items) (c : CharacterId)
    (b : Bucket) : (π.move i none).carries items c b ≤ π.carries items c b := by
  have h := carries_move (π := π) (o := none) only c b
  have gone : ((π.move i none).put i).isIn c b = false := by simp
  rw [gone] at h
  simp only [Bool.false_eq_true, if_false] at h
  omega

/-- An item sent to the vault frees a place in the bucket it was in. -/
theorem carries_moveAll_none_lt {p : Item → Bool} (only : Lone p i items) (mem : i ∈ batch)
    (there : (π.put i).isIn c b = true) :
    (π.moveAll batch none).carries items c b < π.carries items c b := by
  have h := carries_move (π := π) (o := none) only c b
  have gone : ((π.move i none).put i).isIn c b = false := by simp
  rw [gone, there] at h
  simp only [Bool.false_eq_true, if_false, if_true] at h
  -- the others of the batch can only free more places
  have same : (π.move i none).moveAll batch none = π.moveAll batch none := by
    funext j
    by_cases hj : j ∈ batch
    · rw [moveAll_of_mem hj, moveAll_of_mem hj]
    · have hne : j ≠ i := fun e => hj (e ▸ mem)
      rw [moveAll_of_not_mem hj, moveAll_of_not_mem hj, move_of_ne hne]
  have rest := carries_moveAll_none_le (π.move i none) items batch c b
  rw [same] at rest
  omega

/-- An arrival takes one place. -/
theorem carries_move_le {p : Item → Bool} (only : Lone p i items) (c : CharacterId) (b : Bucket) :
    (π.move i o).carries items c b ≤ π.carries items c b + 1 := by
  have h := carries_move (π := π) (o := o) only c b
  split at h <;> split at h <;> omega

@[simp] theorem wearAll_nil (π : Placement) : π.wearAll [] = π := rfl

@[simp] theorem wearAll_cons (π : Placement) (i : Item) (rest : List Item) :
    π.wearAll (i :: rest) = (π.wear i).wearAll rest := rfl

@[simp] theorem owner_wearAll (π : Placement) (batch : List Item) (j : Item) :
    (π.wearAll batch j).owner = (π j).owner := by
  induction batch generalizing π with
  | nil => rfl
  | cons x rest ih => rw [wearAll_cons, ih, owner_wear]

theorem carries_wearAll (π : Placement) (batch items : List Item) (c : CharacterId)
    (b : Bucket) : (π.wearAll batch).carries items c b = π.carries items c b := by
  induction batch generalizing π with
  | nil => rfl
  | cons x rest ih => rw [wearAll_cons, ih, carries_wear]

theorem wearAll_of_bucketHash_ne (h : ∀ x ∈ batch, j.bucketHash ≠ x.bucketHash) :
    π.wearAll batch j = π j := by
  induction batch generalizing π with
  | nil => rfl
  | cons x rest ih =>
    rw [wearAll_cons, ih fun y hy => h y (List.mem_cons_of_mem x hy),
      wear_of_bucketHash_ne (h x List.mem_cons_self)]

/-- Whatever is put on stays on, if nothing later goes into its bucket. -/
theorem worn_wearAll (apart : batch.Pairwise fun x y => x.bucketHash ≠ y.bucketHash)
    (h : j ∈ batch) : (π.wearAll batch j).worn = true := by
  induction batch generalizing π with
  | nil => cases h
  | cons x rest ih =>
    obtain ⟨hx, hrest⟩ := List.pairwise_cons.mp apart
    rw [wearAll_cons]
    rcases List.mem_cons.mp h with rfl | hj
    · rw [wearAll_of_bucketHash_ne hx, worn_wear_self]
    · exact ih hrest hj

/-! ## Batches that can be moved -/

/-- The items of a batch that are not with an owner yet. -/
def incoming (batch : List Item) (o : Option CharacterId) : List Item :=
  batch.filter fun i => !decide (i.owner = o)

/-- A batch that a plan made from the recorded owners can bring to an owner: each of its items is one of
a kind and still where it was recorded, nobody wears it, and there is room for it. -/
structure Ready (π : Placement) (items batch : List Item) (o : Option CharacterId) : Prop where
  sole : ∀ i ∈ batch, Lone (·.sameInstance i) i items
  single : ∀ i ∈ batch, i.instanceId.isSome
  placed : ∀ i ∈ batch, (π i).owner = i.owner
  unworn : ∀ i ∈ batch, ∀ c, i.owner = some c → o ≠ some c → (π i).worn = false
  apart : batch.Pairwise fun i j => i.bucketHash ≠ j.bucketHash
  room : ∀ c, o = some c → ∀ i ∈ batch, i.owner ≠ o →
    ∃ b, Catalog.standard.bucketOf? i.bucketHash = some b ∧ π.carries items c b < Bucket.capacity

namespace Ready

theorem incoming (h : π.Ready items batch o) : π.Ready items (Placement.incoming batch o) o where
  sole i hi := h.sole i (List.mem_filter.mp hi).1
  single i hi := h.single i (List.mem_filter.mp hi).1
  placed i hi := h.placed i (List.mem_filter.mp hi).1
  unworn i hi := h.unworn i (List.mem_filter.mp hi).1
  apart := h.apart.sublist List.filter_sublist
  room c hc i hi := h.room c hc i (List.mem_filter.mp hi).1

/-- An arriving batch fills no bucket beyond its capacity. -/
theorem carries_le (h : π.Ready items batch (some c))
    (before : π.carries items c b ≤ Bucket.capacity) :
    (π.moveAll (Placement.incoming batch (some c)) (some c)).carries items c b
      ≤ Bucket.capacity := by
  by_cases hin : ∃ x ∈ Placement.incoming batch (some c),
      Catalog.standard.bucketOf? x.bucketHash = some b
  · -- one item of the batch goes into this bucket, and it has room for one more
    obtain ⟨x, hx, hb⟩ := hin
    obtain ⟨done, rest, hsplit⟩ := List.append_of_mem hx
    have front : π.moveAll (Placement.incoming batch (some c)) (some c) =
        (π.moveAll (done ++ rest) (some c)).move x (some c) := by
      rw [← moveAll_cons, hsplit]
      exact moveAll_congr (by simp [or_left_comm])
    have others : ∀ y ∈ done ++ rest, Catalog.standard.bucketOf? y.bucketHash ≠ some b := by
      intro y hy hyb
      have hsame := bucketOf?_standard_inj hyb hb
      have hapart := h.incoming.apart
      rw [hsplit, List.pairwise_append, List.pairwise_cons] at hapart
      obtain ⟨-, ⟨after, -⟩, before⟩ := hapart
      rcases List.mem_append.mp hy with hy | hy
      · exact before y hy x List.mem_cons_self hsame
      · exact after y hy hsame.symm
    have hnot : x.owner ≠ some c := by simpa using (List.mem_filter.mp hx).2
    obtain ⟨b', hb', hroom⟩ := h.room c rfl x (List.mem_filter.mp hx).1 hnot
    have hbb : b = b' := Option.some.inj (hb.symm.trans hb')
    subst hbb
    have hle := carries_move_le (π := π.moveAll (done ++ rest) (some c)) (o := some c)
      (h.incoming.sole x hx) c b
    rw [carries_moveAll_of_ne others] at hle
    rw [front]
    omega
  · have hne : ∀ x ∈ Placement.incoming batch (some c),
        Catalog.standard.bucketOf? x.bucketHash ≠ some b := fun x hx hb => hin ⟨x, hx, hb⟩
    rw [carries_moveAll_of_ne hne]
    exact before

end Ready
end Placement

/-! ## Batches in the game -/

/-- Without a limit, a plan moves the whole of every item that is not there yet. -/
theorem Transfer.plan_whole (batch : List Item) (o : Option CharacterId) :
    plan batch o none = (Placement.incoming batch o).map fun i => ⟨i, i.quantity⟩ := by
  unfold plan Placement.incoming
  induction batch with
  | nil => rfl
  | cons i rest ih => by_cases h : i.owner = o <;> simp [planFrom, h, ih]

/-- The report of moves that all succeed. -/
def Transfer.Report.complete (moves : List Move) : Report :=
  ⟨Bits.wrap 32 (quantity moves), moves.map fun m => .ofMove m .completed⟩

@[simp] theorem Transfer.Report.failures_complete (moves : List Move) :
    (complete moves).failures = [] := by
  simp [failures, complete, Result.isCompleted, Result.ofMove]

namespace Simulation

/-- A run that ends with a value, in a game that shows a placement and holds no item back. -/
structure Ends {α : Type} (r : Dialogue.Run Game α Simulation) (a : α) (items : List Item)
    (π : Placement) : Prop where
  value : r.value = a
  shows : r.state.Shows items π
  free : r.state.failing = []

theorem Ends.done {s : Simulation} {items : List Item} {π : Placement} (h : s.Shows items π)
    (free : s.failing = []) {α : Type} (a : α) :
    Ends (Dialogue.run answer (.done a) s) a items π := ⟨rfl, h, free⟩

/-- What ends one way goes on from there. -/
theorem Ends.andThen {α β : Type} {d : Dialogue Game α} {f : α → Dialogue Game β} {s : Simulation}
    {a : α} {b : β} {items : List Item} {π π' : Placement}
    (first : Ends (Dialogue.run answer d s) a items π)
    (second : Ends (Dialogue.run answer (f a) (Dialogue.run answer d s).state) b items π') :
    Ends (Dialogue.run answer (d.andThen f) s) b items π' := by
  rw [Dialogue.run_andThen, first.value]
  exact ⟨second.value, second.shows, second.free⟩

namespace Shows

variable {s : Simulation} {items batch : List Item} {π : Placement} {i : Item}
  {o : Option CharacterId} {c : CharacterId} {b : Bucket}

/-- The second half of a move, from the vault to a character with room for the item. -/
theorem arrive (h : s.Shows items π) (free : s.failing = [])
    (only : Lone (·.sameInstance i) i items) (single : i.instanceId.isSome)
    (held : (π i).owner = none) (bucket : Catalog.standard.bucketOf? i.bucketHash = some b)
    (room : π.carries items c b < Bucket.capacity) (membershipType : Int) :
    Ends (Dialogue.run answer (Transfer.deliver ⟨i, i.quantity⟩ (some c) membershipType) s)
      .completed items (π.move i (some c)) := by
  obtain ⟨t, ht, shows, failing⟩ := h.fromVault only single held bucket room
    (by rw [free]; rfl) membershipType
  constructor <;> simp [Transfer.deliver, Transfer.hop, answer, ht, shows, failing, free]

/-- **One move**: an item that its holder does not wear goes all the way to another owner. -/
theorem perform (h : s.Shows items π) (free : s.failing = [])
    (only : Lone (·.sameInstance i) i items) (single : i.instanceId.isSome)
    (placed : (π i).owner = i.owner) (unworn : ∀ c, i.owner = some c → (π i).worn = false)
    (away : i.owner ≠ o)
    (room : ∀ c, o = some c → ∃ b, Catalog.standard.bucketOf? i.bucketHash = some b ∧
      π.carries items c b < Bucket.capacity) (membershipType : Int) :
    Ends (Dialogue.run answer (Transfer.perform o membershipType ⟨i, i.quantity⟩) s)
      (.ofMove ⟨i, i.quantity⟩ .completed) items (π.move i o) := by
  suffices carried : Ends (Dialogue.run answer (Transfer.carry ⟨i, i.quantity⟩ o membershipType) s)
      .completed items (π.move i o) from carried.andThen (.done carried.shows carried.free _)
  cases ho : i.owner with
  | none =>
    -- the item lies in the vault, so only the second half is left
    cases o with
    | none => exact absurd ho away
    | some c =>
      obtain ⟨b, hb, hroom⟩ := room c rfl
      have arrives := h.arrive free only single (placed.trans ho) hb hroom membershipType
      simpa [Transfer.carry, ho] using arrives
  | some holder =>
    obtain ⟨t, ht, shows, failing⟩ := h.toVault only single (placed.trans ho) (unworn holder ho)
      (by rw [free]; rfl) membershipType
    cases o with
    | none =>
      constructor <;>
        simp [Transfer.carry, ho, Transfer.hop, Transfer.deliver, answer, ht, shows, failing, free]
    | some c =>
      obtain ⟨b, hb, hroom⟩ := room c rfl
      have hroom' : (π.move i none).carries items c b < Bucket.capacity :=
        Nat.lt_of_le_of_lt (Placement.carries_move_none_le only c b) hroom
      have arrives := shows.arrive (failing.trans free) only single (by simp) hb hroom'
        membershipType
      rw [Placement.move_move] at arrives
      constructor <;>
        simp [Transfer.carry, ho, Transfer.hop, answer, ht, arrives.value, arrives.shows,
          arrives.free]

/-- **A batch of moves**: everything that is not there yet goes to the owner, and no move fails. -/
theorem deliver (h : s.Shows items π) (free : s.failing = []) (ready : π.Ready items batch o)
    (membershipType : Int) :
    Ends (Dialogue.run answer (Transfer.run batch o none membershipType) s)
      (.complete (Transfer.plan batch o none)) items
      (π.moveAll (Placement.incoming batch o) o) := by
  have hready := ready.incoming
  -- what is done so far is at its destination, and nothing else has moved
  have goes := Dialogue.run_each_values answer
    (fun i => Transfer.perform o membershipType ⟨i, i.quantity⟩)
    (fun done t => t.Shows items (π.moveAll done o) ∧ t.failing = [])
    (fun i => .ofMove ⟨i, i.quantity⟩ .completed)
    (Placement.incoming batch o) s ⟨by simpa using h, free⟩ ?_
  · obtain ⟨values, shows, free⟩ := goes
    simp only [Transfer.run_eq, Transfer.plan_whole, Dialogue.each_map, Transfer.Report.complete,
      List.map_map]
    exact Ends.andThen ⟨values, shows, free⟩ (.done shows free _)
  · rintro done i rest t hsplit ⟨shows, free⟩
    have hi : i ∈ Placement.incoming batch o := by simp [hsplit]
    have hapart := hready.apart
    rw [hsplit, List.pairwise_append] at hapart
    obtain ⟨-, -, before⟩ := hapart
    have fresh : i ∉ done := fun hmem => before i hmem i List.mem_cons_self rfl
    have away : i.owner ≠ o := by simpa using (List.mem_filter.mp hi).2
    have same : π.moveAll done o i = π i := Placement.moveAll_of_not_mem fresh
    have ends := shows.perform free (hready.sole i hi) (hready.single i hi)
      (by rw [same, hready.placed i hi])
      (fun c hc => by rw [same, hready.unworn i hi c hc (hc ▸ away.symm)]) away ?_ membershipType
    · rw [Placement.moveAll_concat]
      exact ⟨ends.value, ends.shows, ends.free⟩
    · intro c hc
      obtain ⟨b, hb, hroom⟩ := hready.room c hc i hi away
      refine ⟨b, hb, ?_⟩
      rwa [Placement.carries_moveAll_of_ne]
      intro x hx hxb
      exact before x hx i List.mem_cons_self (bucketOf?_standard_inj hxb hb)

/-- **One call puts on all of a batch**, if no two of its items share a bucket hash. -/
theorem equipAll (h : s.Shows items π) (free : s.failing = [])
    (sole : ∀ i ∈ batch, ∀ id, i.numericId? = some id → Lone (·.numericId? == some id) i items)
    (numbered : ∀ i ∈ batch, i.numericId?.isSome) (held : ∀ i ∈ batch, (π i).owner = some c) :
    ∃ t : Simulation, s.equipAll c (batch.filterMap (·.numericId?)) = (.ok (), t) ∧
      t.Shows items (π.wearAll batch) ∧ t.failing = [] := by
  induction batch generalizing s π with
  | nil => exact ⟨s, rfl, h, free⟩
  | cons i rest ih =>
    obtain ⟨id, hid⟩ := Option.isSome_iff_exists.mp (numbered i List.mem_cons_self)
    obtain ⟨t, ht, shows, failing⟩ := h.equip (sole i List.mem_cons_self id hid)
      (held i List.mem_cons_self) (by rw [free]; rfl) (rest.filterMap (·.numericId?))
    obtain ⟨u, hu, last⟩ := ih shows (failing.trans free)
      (fun j hj => sole j (List.mem_cons_of_mem i hj))
      (fun j hj => numbered j (List.mem_cons_of_mem i hj))
      (fun j hj => by rw [Placement.owner_wear, held j (List.mem_cons_of_mem i hj)])
    refine ⟨u, ?_, last⟩
    rw [List.filterMap_cons_some hid, ht, hu]

end Shows
end Simulation
end Armory
