import Mathlib.Data.List.Nodup
import Armory.Proofs.Game.Inventory

/-! Stacks in the simulated game. An item hash that occurs only as stacks, one for each owner, is as good as
an amount for each owner: a transfer that the amounts allow is accepted and carries over what it asks for.
Main statement: the game moves a part of a stack, and the stacks stay in order
(`Simulation.Loose.transfer`). -/
namespace Armory

/-- Whether an entry is of an item hash and with an owner. -/
def Item.isAt (h : Hash) (o : Option CharacterId) (i : Item) : Bool := i.itemHash == h && i.owner == o

namespace Simulation

variable {s : Simulation} {r : TransferRequest} {items : List Item} {n q : Nat} {i moved : Item}
  {h : Hash} {o : Option CharacterId} {P : Item → Prop}

/-! ## Entries after a move -/

/-- What holds of every entry and survives a larger quantity holds of every entry after one more is
added. -/
theorem forall_mem_add (new : P moved) (old : ∀ i ∈ items, P i)
    (grow : ∀ i q, P i → P { i with quantity := i.quantity + q }) :
    ∀ i ∈ add moved items, P i := by
  have append : ∀ i ∈ items ++ [moved], P i := by
    intro i hi
    rcases List.mem_append.mp hi with hi | hi
    · exact old i hi
    · exact List.mem_singleton.mp hi ▸ new
  intro i hi
  unfold add at hi
  split at hi
  · split at hi
    · rename_i n hn
      obtain ⟨hlt, -, -⟩ := List.findIdx?_eq_some_iff_getElem.mp hn
      have front := (modify_perm (List.getElem?_eq_getElem hlt) _).mem_iff.mp hi
      rcases List.mem_cons.mp front with rfl | hi
      · exact grow _ _ (old _ (List.getElem_mem hlt))
      · exact old i (List.mem_of_mem_eraseIdx hi)
    · exact append i hi
  · exact append i hi

theorem forall_mem_remaining (found : items[n]? = some i) (old : ∀ i ∈ items, P i)
    (shrink : q < i.quantity → P { i with quantity := i.quantity - q }) :
    ∀ j ∈ remaining items n i q, P j := by
  intro j hj
  unfold remaining at hj
  split at hj
  · rename_i part
    rcases List.mem_cons.mp ((modify_perm found _).mem_iff.mp hj) with rfl | hj
    · exact shrink part
    · exact old j (List.mem_of_mem_eraseIdx hj)
  · exact old j (List.mem_of_mem_eraseIdx hj)

/-- Where every entry of a hash is a stack, a stack that is added makes no second one. -/
theorem countP_isAt_add_le (moved : Item) (items : List Item) (loose : moved.instanceId = none)
    (single : ∀ i ∈ items, i.itemHash = moved.itemHash → i.instanceId = none) :
    (add moved items).countP (Item.isAt moved.itemHash moved.owner) ≤
      max 1 (items.countP (Item.isAt moved.itemHash moved.owner)) := by
  unfold add
  rw [if_pos (by simp [loose])]
  split
  · rename_i n hn
    obtain ⟨hlt, -, -⟩ := List.findIdx?_eq_some_iff_getElem.mp hn
    rw [countP_modify_quantity (fun _ _ => rfl) (List.getElem?_eq_getElem hlt)
      (· + moved.quantity)]
    exact Nat.le_max_right _ _
  · rename_i hn
    -- nothing is there to join, so there is no stack of the kind yet
    have absent : items.countP (Item.isAt moved.itemHash moved.owner) = 0 := by
      rw [List.countP_eq_zero]
      intro j hj hat
      have nothing := List.findIdx?_eq_none_iff.mp hn j hj
      simp only [Item.isAt, Bool.and_eq_true, beq_iff_eq] at hat
      simp [single j hj hat.1, hat.1, hat.2] at nothing
    rw [List.countP_append, absent]
    simp [Item.isAt]

/-! ## Loose stacks -/

/-- How much of an item hash is held by everybody but one owner. -/
def heldOutside (s : Simulation) (o : Option CharacterId) (h : Hash) : Nat :=
  sumOf (·.quantity) (s.items.filter fun i => i.itemHash == h && i.owner != o)

/-- An item hash occurs only as stacks that nobody wears and that belong into no bucket, and every owner has
at most one of them. -/
structure Loose (s : Simulation) (h : Hash) : Prop where
  stack : ∀ i ∈ s.items, i.itemHash = h →
    i.instanceId = none ∧ i.isEquipped = false ∧ isBucket i.bucketHash = false ∧ 0 < i.quantity
  one : ∀ o, s.items.countP (Item.isAt h o) ≤ 1

namespace Loose

/-- An entry is all that its owner holds of the hash. -/
theorem lone (loose : s.Loose h) (hi : i ∈ s.items) (hat : i.isAt h o = true) :
    Lone (Item.isAt h o) i s.items := by
  have few := loose.one o
  rw [List.countP_eq_length_filter] at few
  have mem : i ∈ s.items.filter (Item.isAt h o) := List.mem_filter.mpr ⟨hi, hat⟩
  match hl : s.items.filter (Item.isAt h o) with
  | [] => simp [hl] at mem
  | [x] =>
    rw [hl, List.mem_singleton] at mem
    rw [Lone, hl, mem]
  | x :: y :: rest =>
    rw [hl] at few
    simp at few

theorem held_eq (loose : s.Loose h) (hi : i ∈ s.items) (hat : i.isAt h o = true) :
    s.held o h = i.quantity := by
  have only : s.items.filter (Item.isAt h o) = [i] := loose.lone hi hat
  show sumOf (·.quantity) (s.items.filter (Item.isAt h o)) = _
  rw [only]
  simp [sumOf]

/-- The stacks of the hash have different owners. -/
theorem nodup_owners (loose : s.Loose h) :
    ((s.items.filter (·.itemHash == h)).map (·.owner)).Nodup := by
  rw [List.nodup_iff_count_le_one]
  intro o
  rw [List.count, List.countP_map, List.countP_filter]
  refine Nat.le_trans (Nat.le_of_eq (List.countP_congr fun i _ => ?_)) (loose.one o)
  simp [Item.isAt, and_comm]

/-- Whoever holds something of the hash has a stack of it. -/
theorem exists_of_held_pos (pos : 0 < s.held o h) : ∃ i ∈ s.items, i.isAt h o = true := by
  by_contra none
  have empty : s.items.filter (Item.isAt h o) = [] := by
    rw [List.filter_eq_nil_iff]
    exact fun i hi hat => none ⟨i, hi, hat⟩
  have zero : s.held o h = sumOf (·.quantity) (s.items.filter (Item.isAt h o)) := rfl
  rw [zero, empty] at pos
  exact absurd pos (Nat.lt_irrefl 0)

/-- A part of a stack in another place leaves the stacks in order. -/
theorem place (loose : s.Loose h) (found : s.items[n]? = some i) (hash : i.itemHash = h)
    (pos : 0 < q) (enough : q ≤ i.quantity) (o : Option CharacterId) :
    Loose { s with items := Simulation.place s.items n i q o } h := by
  have here := loose.stack i (List.mem_of_getElem? found) hash
  have kept : ∀ j ∈ remaining s.items n i q, j.itemHash = h →
      j.instanceId = none ∧ j.isEquipped = false ∧ isBucket j.bucketHash = false ∧ 0 < j.quantity :=
    forall_mem_remaining found loose.stack fun part _ =>
      ⟨here.1, here.2.1, here.2.2.1, Nat.sub_pos_of_lt part⟩
  constructor
  · show ∀ j ∈ Simulation.place s.items n i q o, _
    rw [place_eq enough]
    refine forall_mem_add (fun _ => ⟨here.1, rfl, here.2.2.1, pos⟩) kept ?_
    intro j more hj hjh
    obtain ⟨hid, worn, bucket, hpos⟩ := hj hjh
    exact ⟨hid, worn, bucket, Nat.add_pos_left hpos more⟩
  · intro o'
    show (Simulation.place s.items n i q o).countP _ ≤ 1
    rw [place_eq enough]
    have rest := Nat.le_trans (countP_remaining_le (p := Item.isAt h o') (fun _ _ => rfl) found q)
      (loose.one o')
    by_cases ho : o = o'
    · subst ho hash
      have joined := countP_isAt_add_le
        { i with quantity := q, owner := o, isEquipped := false } (remaining s.items n i q) here.1
        fun j hj hjh => (kept j hj hjh).1
      simp only at joined
      omega
    · have elsewhere : ({ i with quantity := q, owner := o, isEquipped := false } : Item).isAt h o' =
          false := by simp [Item.isAt, ho]
      have joined := countP_add_le (p := Item.isAt h o') (fun _ _ => rfl)
        { i with quantity := q, owner := o, isEquipped := false } (remaining s.items n i q)
      rw [elsewhere] at joined
      simp only [Bool.false_eq_true, if_false] at joined
      omega

/-- **Part of a stack moves.** A transfer of no more than its source holds is accepted; what its source loses
its target gains, and every other amount stays. -/
theorem transfer (loose : s.Loose h) (free : h ∉ s.failing) (hash : r.itemHash = h)
    (id : r.itemId = none) (pos : 0 < r.stackSize) (enough : r.stackSize ≤ s.held r.source h) :
    ∃ t : Simulation, s.transfer r = (.ok (), t) ∧ t.Loose h ∧ t.failing = s.failing ∧
      ∀ o h', t.held o h' + (if h = h' ∧ r.source = o then r.stackSize else 0) =
        s.held o h' + (if h = h' ∧ r.target = o then r.stackSize else 0) := by
  obtain ⟨i, hi, hat⟩ := exists_of_held_pos (Nat.lt_of_lt_of_le pos enough)
  have size := loose.held_eq hi hat
  obtain ⟨hih, howner⟩ : i.itemHash = h ∧ i.owner = r.source := by simpa [Item.isAt] using hat
  obtain ⟨hid, worn, bucket, -⟩ := loose.stack i hi hih
  -- the one entry of the source is what the request asks for
  have alone : Lone (isWanted r r.source) i s.items := by
    refine (loose.lone hi hat).narrow ?_ ?_
    · intro j _ hj
      simp only [isWanted, Bool.and_eq_true, beq_iff_eq] at hj
      simp [Item.isAt, hj.1.1.1, hj.1.2, hash]
    · have big : r.stackSize ≤ i.quantity := size ▸ enough
      simp [isWanted, hih, hash, hid, id, howner, big]
  obtain ⟨n, hn, found⟩ := alone.findIdx?
  have located : s.locate? r r.source = some (n, i) := by simp [locate?, hn, found]
  have big : r.stackSize ≤ i.quantity := size ▸ enough
  have accepted := transferred_of_locate? (by simpa [hash] using free) located (fun _ => worn)
    fun _ _ hb => by simp [bucket] at hb
  refine ⟨_, transfer_of_ok accepted, loose.place found hih pos big _, rfl, fun o h' => ?_⟩
  have ledger := amount_place (fun a b => a == h' && b == o) found big r.target
  simp only [hih, howner, Bool.and_eq_true, beq_iff_eq] at ledger
  rw [held_eq_amount, held_eq_amount]
  exact ledger

end Loose
end Simulation
end Armory
