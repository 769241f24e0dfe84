import Mathlib.Data.List.Count
import Armory.Proofs.Dialogue.Parts
import Armory.Proofs.Game.Stacks

/-! The simulated game bucket by bucket. A transfer looks at the items of one bucket hash and changes these
alone, so the game falls into parts, one for each bucket hash (`Simulation.parted`). What all parts of a
game are says what the game is, but for the order of its items (`Simulation.same_of_inBucket`). -/
namespace Armory

/-! ## Entries among those that meet a condition -/

section Rank

variable {α : Type} {p q : α → Bool} {l : List α} {a : α} {n : Nat}

/-- How many entries in front of a place meet a condition. -/
def rank (q : α → Bool) (l : List α) (n : Nat) : Nat := ((l.take n).filter q).length

theorem rank_succ_cons (q : α → Bool) (a : α) (l : List α) (n : Nat) :
    rank q (a :: l) (n + 1) = rank q l n + if q a then 1 else 0 := by
  cases h : q a <;> simp [rank, h]

/-- A search for entries that all meet a condition finds the same one among those that meet it. -/
theorem findIdx?_filter (sub : ∀ x ∈ l, p x = true → q x = true) :
    (l.filter q).findIdx? p = (l.findIdx? p).map (rank q l) := by
  induction l with
  | nil => rfl
  | cons x rest ih =>
    obtain ⟨first, sub⟩ := List.forall_mem_cons.mp sub
    cases hp : p x with
    | true => simp [List.findIdx?_cons, hp, first hp, rank]
    | false =>
      cases hq : q x with
      | true => simp [List.findIdx?_cons, hp, hq, ih sub, Function.comp_def, rank_succ_cons]
      | false => simp [List.findIdx?_cons, hp, hq, ih sub, Function.comp_def, rank_succ_cons]

theorem getElem?_filter_rank (found : l[n]? = some a) (holds : q a = true) :
    (l.filter q)[rank q l n]? = some a := by
  induction l generalizing n with
  | nil => simp at found
  | cons x rest ih =>
    cases n with
    | zero =>
      obtain rfl : x = a := by simpa using found
      simp [rank, holds]
    | succ n =>
      have later := ih (by simpa using found)
      cases hq : q x <;> simp [rank_succ_cons, hq, later]

theorem filter_modify {f : α → α} (found : l[n]? = some a) (same : q (f a) = q a) :
    (l.modify n f).filter q = if q a then (l.filter q).modify (rank q l n) f else l.filter q := by
  induction l generalizing n with
  | nil => simp at found
  | cons x rest ih =>
    cases n with
    | zero =>
      obtain rfl : x = a := by simpa using found
      cases hq : q x <;> simp [rank, hq, same]
    | succ n =>
      have later := ih (by simpa using found)
      cases hx : q x <;> cases ha : q a <;> simp [rank_succ_cons, hx, ha, later]

theorem filter_eraseIdx (found : l[n]? = some a) :
    (l.eraseIdx n).filter q = if q a then (l.filter q).eraseIdx (rank q l n) else l.filter q := by
  induction l generalizing n with
  | nil => simp at found
  | cons x rest ih =>
    cases n with
    | zero =>
      obtain rfl : x = a := by simpa using found
      cases hq : q x <;> simp [rank, hq]
    | succ n =>
      have later := ih (by simpa using found)
      cases hx : q x <;> cases ha : q a <;> simp [rank_succ_cons, hx, ha, later]

end Rank

namespace Simulation

variable {s t : Simulation} {r : TransferRequest} {items : List Item} {n k : Nat} {i moved : Item}
  {h h' : Hash} {o : Option CharacterId}

/-! ## The items of one bucket hash -/

/-- The items of a bucket hash. -/
def ofBucket (h : Hash) (items : List Item) : List Item := items.filter (·.bucketHash == h)

/-- A game with the items of one bucket hash alone. -/
def inBucket (h : Hash) (s : Simulation) : Simulation := { s with items := ofBucket h s.items }

/-- The place of an entry among those of its bucket hash. -/
def placeIn (h : Hash) (items : List Item) (n : Nat) : Nat := rank (·.bucketHash == h) items n

theorem ofBucket_remaining (found : items[n]? = some i) (h : Hash) (k : Nat) :
    ofBucket h (remaining items n i k) =
      if i.bucketHash = h then remaining (ofBucket h items) (placeIn h items n) i k
      else ofBucket h items := by
  unfold remaining ofBucket placeIn
  split
  · rw [filter_modify found rfl]
    simp
  · rw [filter_eraseIdx found]
    simp

/-- What is added joins a stack of its own bucket hash, if it joins any. -/
theorem ofBucket_add (moved : Item) (items : List Item) (h : Hash)
    (alike : ∀ j ∈ items, j.sameInstance moved = true → j.bucketHash = moved.bucketHash) :
    ofBucket h (add moved items) =
      if moved.bucketHash = h then add moved (ofBucket h items) else ofBucket h items := by
  have append : ofBucket h (items ++ [moved]) =
      if moved.bucketHash = h then ofBucket h items ++ [moved] else ofBucket h items := by
    unfold ofBucket
    rw [List.filter_append]
    split <;> simp [*]
  unfold add
  by_cases loose : moved.instanceId.isNone = true
  · rw [if_pos loose, if_pos loose]
    have joins : ∀ j ∈ items, (j.instanceId.isNone && j.itemHash == moved.itemHash &&
        j.owner == moved.owner) = true → j.bucketHash = moved.bucketHash := by
      intro j hj stack
      simp only [Bool.and_eq_true, beq_iff_eq, Option.isNone_iff_eq_none] at stack loose
      exact alike j hj (by simp [Item.sameInstance, stack.1.1, stack.1.2, loose])
    cases hn : items.findIdx? fun j =>
        j.instanceId.isNone && j.itemHash == moved.itemHash && j.owner == moved.owner with
    | none =>
      rw [append]
      split
      · rename_i here
        rw [ofBucket, findIdx?_filter fun j hj stack => by simp [joins j hj stack, here], hn]
        rfl
      · rfl
    | some n =>
      obtain ⟨hlt, stack, -⟩ := List.findIdx?_eq_some_iff_getElem.mp hn
      have same := joins _ (List.getElem_mem hlt) stack
      show (items.modify n _).filter _ = _
      rw [filter_modify (List.getElem?_eq_getElem hlt) (by rfl)]
      simp only [same, beq_iff_eq]
      split
      · rename_i here
        rw [ofBucket, findIdx?_filter fun j hj stack => by simp [joins j hj stack, here], hn]
        rfl
      · rfl
  · rw [if_neg loose, if_neg loose]
    exact append

/-- **A move stays within a bucket hash**, that of the item that moves. -/
theorem ofBucket_place (found : items[n]? = some i) (enough : k ≤ i.quantity) (o : Option CharacterId)
    (h : Hash) (alike : ∀ j ∈ items, j.sameInstance i = true → j.bucketHash = i.bucketHash) :
    ofBucket h (place items n i k o) =
      if i.bucketHash = h then place (ofBucket h items) (placeIn h items n) i k o
      else ofBucket h items := by
  rw [place_eq enough, place_eq enough, ofBucket_add, ofBucket_remaining found]
  · split <;> rfl
  · exact forall_mem_remaining found alike fun _ => alike i (List.mem_of_getElem? found)

/-! ## Transfers -/

/-- What a transfer asks for is of one bucket hash, wherever it is. -/
def Asks (h : Hash) (s : Simulation) (r : TransferRequest) : Prop :=
  ∀ j ∈ s.items, j.itemHash = r.itemHash → j.instanceId = r.itemId → j.bucketHash = h

theorem Asks.bucketHash (asks : s.Asks h r) {j : Item} (hj : j ∈ s.items)
    (wanted : isWanted r o j = true) : j.bucketHash = h := by
  simp only [isWanted, Bool.and_eq_true, beq_iff_eq] at wanted
  exact asks j hj wanted.1.1.1 wanted.1.1.2

theorem Asks.alike (asks : s.Asks h r) (found : s.items[n]? = some i)
    (wanted : isWanted r o i = true) :
    ∀ j ∈ s.items, j.sameInstance i = true → j.bucketHash = i.bucketHash := by
  intro j hj same
  rw [asks.bucketHash (List.mem_of_getElem? found) wanted]
  simp only [isWanted, Item.sameInstance, Bool.and_eq_true, beq_iff_eq] at wanted same
  exact asks j hj (same.1.trans wanted.1.1.1) (same.2.trans wanted.1.1.2)

theorem locate?_inBucket (asks : s.Asks h r) (o : Option CharacterId) :
    (s.inBucket h).locate? r o = (s.locate? r o).map fun e => (placeIn h s.items e.1, e.2) := by
  unfold locate? inBucket ofBucket
  rw [findIdx?_filter fun j hj wanted => by simp [asks.bucketHash hj wanted]]
  cases hn : s.items.findIdx? (isWanted r o) with
  | none => rfl
  | some n =>
    obtain ⟨hlt, wanted, -⟩ := List.findIdx?_eq_some_iff_getElem.mp hn
    have found := List.getElem?_eq_getElem hlt
    have here := asks.bucketHash (List.getElem_mem hlt) wanted
    have found' := getElem?_filter_rank (q := (·.bucketHash == h)) found (by simpa using here)
    simp [found, found', placeIn]

theorem occupancy_inBucket (s : Simulation) (c : CharacterId) (h : Hash) :
    (s.inBucket h).occupancy c h = s.occupancy c h := by
  unfold occupancy inBucket ofBucket
  rw [List.countP_filter]
  exact List.countP_congr fun j _ => by simp

/-- A transfer of something of a bucket hash goes as if there were no other items. -/
theorem transferred_inBucket (asks : s.Asks h r) :
    (s.inBucket h).transferred r = (s.transferred r).map (ofBucket h) := by
  have arrives : ∀ {o : Option CharacterId} {n : Nat} {i : Item} (o' : Option CharacterId),
      s.locate? r o = some (n, i) → ofBucket h (place s.items n i r.stackSize o') =
        place (ofBucket h s.items) (placeIn h s.items n) i r.stackSize o' := by
    intro o n i o' located
    obtain ⟨found, wanted⟩ := locate?_eq_some located
    rw [ofBucket_place found (enough_of_isWanted wanted) o' h (asks.alike found wanted),
      if_pos (asks.bucketHash (List.mem_of_getElem? found) wanted)]
  unfold transferred
  rw [locate?_inBucket asks, locate?_inBucket asks]
  show (if s.failing.contains r.itemHash then _ else _) = _
  split
  · rfl
  split
  · cases located : s.locate? r (some r.characterId) with
    | none => rfl
    | some e =>
      simp only [Option.map_some]
      split
      · rfl
      · simp only [Except.map, arrives none located]
        rfl
  · cases located : s.locate? r none with
    | none => rfl
    | some e =>
      obtain ⟨found, wanted⟩ := locate?_eq_some located
      have here := asks.bucketHash (List.mem_of_getElem? found) wanted
      simp only [Option.map_some, here, occupancy_inBucket]
      split
      · rfl
      · simp only [Except.map, arrives (some r.characterId) located]
        rfl

theorem transfer_inBucket (asks : s.Asks h r) :
    (s.inBucket h).transfer r = ((s.transfer r).1, (s.transfer r).2.inBucket h) := by
  unfold transfer
  rw [transferred_inBucket asks]
  cases s.transferred r <;> rfl

/-- A transfer of something of a bucket hash leaves the items of every other one as they are. -/
theorem inBucket_transfer_of_ne (asks : s.Asks h r) (ne : h' ≠ h) :
    (s.transfer r).2.inBucket h' = s.inBucket h' := by
  unfold transfer
  cases ht : s.transferred r with
  | error e => rfl
  | ok items =>
    obtain ⟨n, i, found, wanted, -, rfl⟩ := transferred_eq_ok ht
    have here := asks.bucketHash (List.mem_of_getElem? found) wanted
    have kept := ofBucket_place found (enough_of_isWanted wanted) r.target h'
      (asks.alike found wanted)
    rw [if_neg (fun e => ne (e.symm.trans here))] at kept
    simp only [inBucket, kept]

/-! ## Batches -/

/-- The items of a batch occur under their own bucket hashes only. -/
def Filed (batch : List Item) (s : Simulation) : Prop :=
  ∀ i ∈ batch, ∀ j ∈ s.items, j.sameInstance i = true → j.bucketHash = i.bucketHash

/-- A call that moves an item of a batch, one of a certain bucket hash. -/
def Moves (batch : List Item) (h : Hash) : Game.Call → Prop
  | .transferItem r =>
    ∃ i ∈ batch, i.itemHash = r.itemHash ∧ i.instanceId = r.itemId ∧ i.bucketHash = h
  | _ => False

variable {batch : List Item}

/-- Items that occur once are filed. -/
theorem filed_of_lone (once : ∀ i ∈ batch, Lone (·.sameInstance i) i s.items) : s.Filed batch :=
  fun i hi _ hj same => congrArg (·.bucketHash) ((once i hi).eq_of_mem hj same)

theorem Filed.asks (filed : s.Filed batch) (hi : i ∈ batch) (hash : i.itemHash = r.itemHash)
    (id : i.instanceId = r.itemId) : s.Asks i.bucketHash r := by
  intro j hj hash' id'
  exact filed i hi j hj (by simp [Item.sameInstance, hash, id, hash', id'])

theorem Filed.transfer (filed : s.Filed batch) (r : TransferRequest) :
    (s.transfer r).2.Filed batch := by
  unfold Simulation.transfer
  cases ht : s.transferred r with
  | error e => exact filed
  | ok items =>
    obtain ⟨n, i, found, wanted, -, rfl⟩ := transferred_eq_ok ht
    intro a ha
    show ∀ j ∈ place s.items n i r.stackSize r.target, _
    rw [place_eq (enough_of_isWanted wanted)]
    have old := filed a ha
    exact forall_mem_add (old i (List.mem_of_getElem? found))
      (forall_mem_remaining found old fun _ => old i (List.mem_of_getElem? found))
      fun _ _ same => same

/-- **The game falls into parts**, one for each bucket hash, as far as the items of a batch are moved. -/
theorem parted (batch : List Item) :
    Dialogue.Parted answer answer inBucket (Moves batch) (Filed batch) := by
  -- the only calls that belong anywhere are transfers of what a batch has
  have transfers : ∀ {h c s}, Moves batch h c → Filed batch s →
      ∃ r, c = .transferItem r ∧ s.Asks h r := by
    intro h c s moves filed
    cases c with
    | transferItem r =>
      obtain ⟨i, hi, hash, id, rfl⟩ := moves
      exact ⟨r, rfl, filed.asks hi hash id⟩
    | _ => exact moves.elim
  constructor
  case keeps =>
    intro h c s moves filed
    obtain ⟨r, rfl, asks⟩ := transfers moves filed
    exact filed.transfer r
  case reply =>
    intro h c s moves filed
    obtain ⟨r, rfl, asks⟩ := transfers moves filed
    exact (congrArg Prod.fst (transfer_inBucket asks)).symm
  case here =>
    intro h c s moves filed
    obtain ⟨r, rfl, asks⟩ := transfers moves filed
    exact (congrArg Prod.snd (transfer_inBucket asks)).symm
  case elsewhere =>
    intro h c s h' moves filed ne
    obtain ⟨r, rfl, asks⟩ := transfers moves filed
    exact inBucket_transfer_of_ne asks ne

/-- Games that agree on every bucket hash are the same, but for the order of their items. -/
theorem same_of_inBucket (same : ∀ h, s.inBucket h = t.inBucket h) :
    s.items.Perm t.items ∧ s.failing = t.failing ∧ s.membership = t.membership := by
  refine ⟨?_, congrArg (·.failing) (same 0), congrArg (·.membership) (same 0)⟩
  rw [List.perm_iff_count]
  intro a
  have here : ofBucket a.bucketHash s.items = ofBucket a.bucketHash t.items :=
    congrArg (·.items) (same a.bucketHash)
  have counted : ∀ items : List Item, items.count a = (ofBucket a.bucketHash items).count a :=
    fun items => (List.count_filter (by simp)).symm
  rw [counted s.items, counted t.items, here]

end Simulation
end Armory
