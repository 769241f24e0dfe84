import Armory.Proofs.Game.Separation
import Armory.Proofs.Gear.Accounting
import Armory.Proofs.Item.Choice

/-! Batches in any order. The moves of a batch whose items are of different bucket hashes keep out of each
other's way, so it does not matter in which order they make their calls, or in which order they are done.
Main statement: in the simulated game such a batch ends with the report and the inventory that its moves
would leave one after the other (`Transfer.batch_in_any_order`). -/
namespace Armory.Transfer

variable {items batch : List Item} {destination : Option CharacterId} {count : Option Nat}
  {membershipType : Int} {s t : Simulation} {m : Move} {report : Report}
  {talk : List (Nat × Dialogue.Exchange Game)}

/-! ## The calls of a move -/

theorem calls_hop {p : Game.Call → Prop} {stage : Stage} {r : TransferRequest}
    {next : Dialogue Game Outcome} (here : p (.transferItem r)) (later : next.Calls p) :
    (hop stage r next).Calls p := by
  refine .ask here fun reply => ?_
  cases reply with
  | ok _ => exact later
  | error e => exact .done _

/-- A move makes no other calls than those of its route. -/
theorem calls_perform_of_route {p : Game.Call → Prop}
    (h : ∀ hop ∈ route destination membershipType m, p (.transferItem hop.2)) :
    (perform destination membershipType m).Calls p := by
  have delivers : (deliver m destination membershipType).Calls p := by
    cases destination with
    | none => exact .done _
    | some receiver => exact calls_hop (h (.fromVault, fromVaultRequest m receiver _) (by simp [route])) (.done _)
  refine Dialogue.Calls.andThen ?_ fun _ => .done _
  unfold carry
  cases held : m.item.owner with
  | none => exact delivers
  | some holder => exact calls_hop (h (.toVault, toVaultRequest m holder _) (by simp [route, held])) delivers

/-- A batch makes no other calls than those of the routes of its moves. -/
theorem calls_batch_of_route {p : Game.Call → Prop}
    (h : ∀ m ∈ plan items destination count, ∀ hop ∈ route destination membershipType m,
      p (.transferItem hop.2)) :
    (Transfer.batch items destination count membershipType).Calls p :=
  .together (List.forall_mem_map.mpr fun m hm => calls_perform_of_route (h m hm)) fun _ => .done _

/-- The hops of a route: from who holds the item, and to who is to have it. -/
theorem eq_of_mem_route {hop : Stage × TransferRequest} (h : hop ∈ route destination membershipType m) :
    (∃ holder, m.item.owner = some holder ∧ hop = (.toVault, toVaultRequest m holder membershipType)) ∨
      ∃ receiver, destination = some receiver ∧
        hop = (.fromVault, fromVaultRequest m receiver membershipType) := by
  rcases List.mem_append.mp h with h | h
  · obtain ⟨holder, held, rfl⟩ := List.mem_map.mp h
    exact .inl ⟨holder, by simpa using held, rfl⟩
  · obtain ⟨receiver, goal, rfl⟩ := List.mem_map.mp h
    exact .inr ⟨receiver, by simpa using goal, rfl⟩

/-- A move calls for nothing but its own item. -/
theorem calls_perform (destination : Option CharacterId) (membershipType : Int)
    (hm : m.item ∈ batch) :
    (perform destination membershipType m).Calls (Simulation.Moves batch m.item.bucketHash) := by
  refine calls_perform_of_route fun hop hhop => ?_
  rcases eq_of_mem_route hhop with ⟨_, -, rfl⟩ | ⟨_, -, rfl⟩ <;> exact ⟨m.item, hm, rfl, rfl, rfl⟩

theorem map_item_plan_sublist (items : List Item) (destination : Option CharacterId)
    (count : Option Nat) :
    ((plan items destination count).map (·.item)).Sublist items := by
  rw [(fills_plan items destination count).taken]
  exact (List.take_sublist _ _).trans List.filter_sublist

/-- The moves of a plan keep to the bucket hashes of their items. -/
theorem keeping_plan (batch : List Item) (destination : Option CharacterId) (count : Option Nat)
    (membershipType : Int) :
    Dialogue.Parted.Keeping (Simulation.Moves batch)
      ((plan batch destination count).map (·.item.bucketHash))
      ((plan batch destination count).map (perform destination membershipType)) := by
  refine ⟨by simp, fun {n h d} hh hd => ?_⟩
  rw [List.getElem?_map] at hh hd
  obtain ⟨m, hm, rfl⟩ := Option.map_eq_some_iff.mp hh
  rw [hm] at hd
  obtain rfl := Option.some.inj hd
  have listed : m.item ∈ (plan batch destination count).map (·.item) :=
    List.mem_map_of_mem (List.mem_of_getElem? hm)
  exact calls_perform destination membershipType
    ((map_item_plan_sublist batch destination count).subset listed)

/-! ## Results as they come in -/

/-- The places in a batch of the items that a plan moves. -/
def places (items : List Item) (destination : Option CharacterId) (count : Option Nat) : List Nat :=
  ((items.zipIdx.filter fun e => !decide (e.1.owner = destination)).map (·.2)).take
    (plan items destination count).length

/-- Results in the order of their places, from the order in which they came in. -/
def collected (finished : List (Nat × Result)) : List Result :=
  (finished.mergeSort fun a b => decide (a.1 ≤ b.1)).map (·.2)

theorem map_fst_away (items : List Item) (destination : Option CharacterId) :
    (items.zipIdx.filter fun e => !decide (e.1.owner = destination)).map (·.1) =
      Placement.incoming items destination := by
  unfold Placement.incoming
  conv_rhs => rw [← List.zipIdx_map_fst 0 items]
  rw [List.filter_map]
  rfl

theorem length_places (items : List Item) (destination : Option CharacterId) (count : Option Nat) :
    (places items destination count).length = (plan items destination count).length := by
  have taken := congrArg List.length (fills_plan items destination count).taken
  rw [← map_fst_away] at taken
  simp only [List.length_map, List.length_take] at taken
  simp only [places, List.length_take, List.length_map]
  omega

theorem pairwise_places (items : List Item) (destination : Option CharacterId)
    (count : Option Nat) : (places items destination count).Pairwise (· < ·) := by
  have increasing : (items.zipIdx.map (·.2)).Pairwise (· < ·) := by
    rw [List.zipIdx_map_snd]
    exact List.pairwise_lt_range'
  exact increasing.sublist ((List.take_sublist _ _).trans (List.filter_sublist.map _))

/-- However they come in, results are collected in the order of increasing places. -/
theorem collected_eq {finished : List (Nat × Result)} {places : List Nat} {results : List Result}
    (increasing : places.Pairwise (· < ·)) (length_eq : places.length = results.length)
    (came : finished.Perm (places.zip results)) : collected finished = results := by
  have keys : (places.zip results).map (·.1) = places := List.map_fst_zip (Nat.le_of_eq length_eq)
  have ascending : ((places.zip results).map (·.1)).Pairwise (· ≤ ·) := by
    rw [keys]
    exact increasing.imp Nat.le_of_lt
  have ordered : (places.zip results).Pairwise fun a b => a.1 ≤ b.1 := List.pairwise_map.mp ascending
  have distinct : ((places.zip results).map (·.1)).Nodup := by
    rw [keys]
    exact increasing.imp Nat.ne_of_lt
  have sorted : (finished.mergeSort fun a b => decide (a.1 ≤ b.1)).Pairwise
      fun a b => a.1 ≤ b.1 := by
    refine (List.pairwise_mergeSort ?_ ?_ finished).imp of_decide_eq_true
    · intro a b c hab hbc
      simp only [decide_eq_true_eq] at hab hbc ⊢
      exact Nat.le_trans hab hbc
    · intro a b
      simp only [Bool.or_eq_true, decide_eq_true_eq]
      exact Nat.le_total a.1 b.1
  -- no two results have the same place, so there is one way to order them
  have unique : (finished.mergeSort fun a b => decide (a.1 ≤ b.1)) = places.zip results := by
    have same : (finished.mergeSort fun a b => decide (a.1 ≤ b.1)).Perm (places.zip results) :=
      (List.mergeSort_perm finished _).trans came
    refine same.eq_of_pairwise (fun a b ha hb hab hba => ?_) sorted ordered
    exact List.inj_on_of_nodup_map distinct (same.subset ha) hb (Nat.le_antisymm hab hba)
  unfold collected
  rw [unique, List.map_snd_zip (Nat.le_of_eq length_eq.symm)]

/-! ## Batches -/

/-- Moves of items that keep out of each other's way leave what they leave one after the other. -/
theorem AtOnce.alike_run (apart : (batch.map (·.bucketHash)).Nodup) (filed : s.Filed batch)
    (h : AtOnce Simulation.answer batch destination count membershipType s report talk t) :
    let r := Dialogue.run Simulation.answer (run batch destination count membershipType) s
    report = r.value ∧ t.items.Perm r.state.items ∧ t.failing = r.state.failing ∧
      t.membership = r.state.membership := by
  intro r
  obtain ⟨talk', inTurn, -⟩ :=
    atOnce_run Simulation.answer batch destination count membershipType s
  have keys : ((plan batch destination count).map (·.item.bucketHash)).Nodup := by
    have sub := (map_item_plan_sublist batch destination count).map (·.bucketHash)
    rw [List.map_map] at sub
    exact apart.sublist sub
  obtain ⟨values, parts⟩ := (Simulation.parted batch).any_order h.moved inTurn.moved filed keys
    (keeping_plan batch destination count membershipType)
  have results : report.results = r.value.results := values
  have planned : report.planned = r.value.planned := h.planned.trans inTurn.planned.symm
  refine ⟨?_, Simulation.same_of_inBucket parts⟩
  cases report
  simp_all

/-- **The order of the moves does not matter.** In the simulated game, let the items of a batch be of
different bucket hashes, and let each of them occur in the inventory under its own bucket hash only, as an
item with an identity does that occurs once. Then for every destination and count, whatever cannot be touched,
and in whatever order the calls of the moves are made, the batch ends with the report of its moves made one
after the other, in whatever order the results come in, and with the same inventory up to the order of its
entries. -/
theorem batch_in_any_order (s : Simulation) (batch : List Item) (destination : Option CharacterId)
    (count : Option Nat) (membershipType : Int) (apart : (batch.map (·.bucketHash)).Nodup)
    (filed : s.Filed batch)
    (h : AtOnce Simulation.answer batch destination count membershipType s report talk t) :
    let r := Dialogue.run Simulation.answer (run batch destination count membershipType) s
    report = r.value ∧
      (∀ finished, finished.Perm ((places batch destination count).zip report.results) →
        collected finished = r.value.results) ∧
      t.items.Perm r.state.items ∧ t.failing = r.state.failing ∧
        t.membership = r.state.membership := by
  intro r
  obtain ⟨same, left⟩ := h.alike_run apart filed
  refine ⟨same, fun finished came => ?_, left⟩
  have size : (places batch destination count).length = report.results.length := by
    rw [length_places, h.moved.length_eq, List.length_map]
  exact (collected_eq (pairwise_places batch destination count) size came).trans (congrArg (·.results) same)

/-! ### Two weapons on their way -/

/-- A weapon of a hunter that can be moved, and one that cannot be touched. -/
def satchel : Simulation where
  membership := ⟨"person", 2, "person"⟩
  items := [.weapon 1498876634 "1" .legendary 600 "hunter" false,
    { Item.weapon 2465295065 "2" .legendary 600 "hunter" false with itemHash := 2 }]
  failing := [2]

/-- The second weapon is refused before the first is taken up, and the first arrives as it would have. -/
theorem batch_in_any_order_satchel :
    let r := Dialogue.run Simulation.answer (run satchel.items (some "titan") none 2) satchel
    ∃ report talk t,
      AtOnce Simulation.answer satchel.items (some "titan") none 2 satchel report talk t ∧
        talk.map (·.1) = [1, 0, 0] ∧ report.results.map (·.isCompleted) = [true, false] ∧
        report = r.value ∧ t.items.Perm r.state.items := by
  intro r
  let first := perform (some "titan") 2 ⟨.weapon 1498876634 "1" .legendary 600 "hunter" false, 1⟩
  let second := perform (some "titan") 2
    ⟨{ Item.weapon 2465295065 "2" .legendary 600 "hunter" false with itemHash := 2 }, 1⟩
  let after := Dialogue.run Simulation.answer second satchel
  let last := Dialogue.run Simulation.answer first after.state
  have finished : Dialogue.Interleaving Simulation.answer
      [.done last.value, .done after.value] last.state [] [last.value, after.value] last.state :=
    .done [last.value, after.value] last.state
  have moved := Dialogue.Interleaving.ofRun [first] [] second
    (Dialogue.Interleaving.ofRun [] [.done after.value] first finished)
  have atOnce : AtOnce Simulation.answer satchel.items (some "titan") none 2 satchel
      ⟨2, [last.value, after.value]⟩ _ last.state := ⟨by decide, moved⟩
  obtain ⟨same, -, inventory, -⟩ :=
    batch_in_any_order satchel satchel.items (some "titan") none 2 (by decide)
      (Simulation.filed_of_lone (by unfold Lone; decide)) atOnce
  exact ⟨_, _, _, atOnce, by decide, by decide, same, inventory⟩

end Armory.Transfer
