import Armory.Proofs.Game.Stacks
import Armory.Proofs.Gear.Accounting

/-! Stacks that are moved at the same time. A move takes its share of a stack to the vault and on to the
destination, and on the way the share lies with whatever else is there. At every moment an owner holds what it
held at first, less the shares that have left it, plus those that are with it just now; so no move can take
what belongs to another. Main statement: a batch of stacks brings exactly what was planned to its destination,
in whatever order the calls are made (`Transfer.stacks_delivered`). -/
namespace Armory

/-- A move under way, and who holds its share of the stack just now. -/
structure Parcel where
  move : Move
  holder : Option CharacterId

namespace Parcel

variable {destination : Option CharacterId} {membershipType : Int} {x : Parcel}

/-- What is left to do of a move. -/
def onward (destination : Option CharacterId) (membershipType : Int) (x : Parcel) :
    Dialogue Game Transfer.Outcome :=
  if x.holder = destination then .done .completed
  else match x.holder with
    | none => Transfer.deliver x.move destination membershipType
    | some c =>
      Transfer.hop .toVault (Transfer.toVaultRequest x.move c membershipType)
        (Transfer.deliver x.move destination membershipType)

/-- What is left to do of a move and of its entry in the report. -/
def finish (destination : Option CharacterId) (membershipType : Int) (x : Parcel) :
    Dialogue Game Transfer.Result :=
  (x.onward destination membershipType).andThen fun outcome => .done (.ofMove x.move outcome)

theorem onward_arrived (h : x.holder = destination) :
    x.onward destination membershipType = .done .completed := if_pos h

theorem deliver_eq_onward (m : Move) (destination : Option CharacterId) (membershipType : Int) :
    Transfer.deliver m destination membershipType =
      Parcel.onward destination membershipType ⟨m, none⟩ := by
  cases destination <;> rfl

theorem carry_eq_onward {m : Move} (away : m.item.owner ≠ destination) (membershipType : Int) :
    Transfer.carry m destination membershipType =
      Parcel.onward destination membershipType ⟨m, m.item.owner⟩ := by
  refine ((if_neg away).trans ?_).symm
  unfold Transfer.carry
  cases m.item.owner <;> rfl

/-- A share that has not arrived goes one hop further. -/
theorem onward_away (membershipType : Int) (away : x.holder ≠ destination) :
    ∃ stage r, x.onward destination membershipType =
        Transfer.hop stage r (onward destination membershipType { x with holder := r.target }) ∧
      r.itemHash = x.move.item.itemHash ∧ r.itemId = x.move.item.instanceId ∧
      r.stackSize = x.move.quantity ∧ r.source = x.holder := by
  obtain ⟨m, holder⟩ := x
  rw [onward, if_neg away]
  cases holder with
  | some c =>
    refine ⟨.toVault, Transfer.toVaultRequest m c membershipType, ?_, rfl, rfl, rfl, rfl⟩
    show Transfer.hop _ _ (Transfer.deliver m destination membershipType) = _
    rw [deliver_eq_onward]
    rfl
  | none =>
    cases destination with
    | none => exact absurd rfl away
    | some c =>
      refine ⟨.fromVault, Transfer.fromVaultRequest m c membershipType, ?_, rfl, rfl, rfl, rfl⟩
      have arrived : onward (some c) membershipType ⟨m, some c⟩ = .done .completed :=
        onward_arrived rfl
      show Transfer.hop _ _ (.done .completed) = _
      rw [← arrived]
      rfl

/-- Whatever is left to do either is nothing, as the share has arrived, or begins with a hop. -/
theorem finish_cases (destination : Option CharacterId) (membershipType : Int) (x : Parcel) :
    (x.holder = destination ∧
        x.finish destination membershipType = .done (.ofMove x.move .completed)) ∨
      ∃ r next, x.finish destination membershipType = .ask (.transferItem r) next ∧
        next (.ok ()) = finish destination membershipType { x with holder := r.target } ∧
        r.itemHash = x.move.item.itemHash ∧ r.itemId = x.move.item.instanceId ∧
        r.stackSize = x.move.quantity ∧ r.source = x.holder := by
  by_cases arrived : x.holder = destination
  · exact .inl ⟨arrived, by rw [finish, onward_arrived arrived]; rfl⟩
  · obtain ⟨stage, r, hop, request⟩ := onward_away membershipType arrived
    exact .inr ⟨r, _, by rw [finish, hop]; rfl, rfl, request⟩

/-- How much of what is under way an owner holds just now. -/
def amountAt (parcels : List Parcel) (o : Option CharacterId) : Nat :=
  sumOf (fun x => if x.holder = o then x.move.quantity else 0) parcels

/-- The parcels of moves that have not begun. -/
def start (moves : List Move) : List Parcel := moves.map fun m => ⟨m, m.item.owner⟩

theorem amountAt_start_cons (m : Move) (moves : List Move) (o : Option CharacterId) :
    amountAt (start (m :: moves)) o =
      (if m.item.owner = o then m.quantity else 0) + amountAt (start moves) o := rfl

theorem amountAt_start_of_forall_ne {moves : List Move} {o : Option CharacterId}
    (h : ∀ m ∈ moves, m.item.owner ≠ o) : amountAt (start moves) o = 0 := by
  refine (sumOf_map _ _ _).trans (sumOf_eq_zero fun m hm => ?_)
  exact if_neg (h m hm)

/-- Where no two moves begin with one owner, what is to leave an owner is the share of one move. -/
theorem amountAt_start_of_mem {moves : List Move} (apart : (moves.map (·.item.owner)).Nodup)
    {m : Move} (hm : m ∈ moves) : amountAt (start moves) m.item.owner = m.quantity := by
  induction moves with
  | nil => cases hm
  | cons m' rest ih =>
    obtain ⟨new, apart⟩ := List.nodup_cons.mp apart
    have others : ∀ x ∈ rest, x.item.owner ≠ m'.item.owner := fun x hx e =>
      new (List.mem_map.mpr ⟨x, hx, e⟩)
    rw [amountAt_start_cons]
    rcases List.mem_cons.mp hm with rfl | hm
    · rw [if_pos rfl, amountAt_start_of_forall_ne others, Nat.add_zero]
    · rw [if_neg (others m hm).symm, ih apart hm, Nat.zero_add]

theorem amountAt_arrived {parcels : List Parcel} (arrived : ∀ x ∈ parcels, x.holder = destination)
    (o : Option CharacterId) :
    amountAt parcels o =
      if destination = o then Transfer.quantity (parcels.map (·.move)) else 0 := by
  split
  · rename_i here
    rw [Transfer.quantity, sumOf_map]
    exact sumOf_congr fun x hx => if_pos ((arrived x hx).trans here)
  · rename_i away
    exact sumOf_eq_zero fun x hx => if_neg ((arrived x hx).symm ▸ away)

end Parcel

namespace Transfer

variable {s t : Simulation} {h : Hash} {moves : List Move} {parcels front back : List Parcel}
  {x : Parcel} {destination : Option CharacterId} {membershipType : Int}

/-! ## Shares on their way -/

/-- Moves of stacks of a hash, at most one for each owner and no more of it than the owner holds. -/
structure Sendable (s : Simulation) (h : Hash) (destination : Option CharacterId)
    (moves : List Move) : Prop where
  stack : ∀ m ∈ moves, m.item.itemHash = h ∧ m.item.instanceId = none ∧ 0 < m.quantity
  away : ∀ m ∈ moves, m.item.owner ≠ destination
  apart : (moves.map (·.item.owner)).Nodup
  enough : ∀ m ∈ moves, m.quantity ≤ s.held m.item.owner h

theorem Sendable.amountAt_start_le (sendable : Sendable s h destination moves)
    (o : Option CharacterId) : Parcel.amountAt (Parcel.start moves) o ≤ s.held o h := by
  by_cases sends : ∃ m ∈ moves, m.item.owner = o
  · obtain ⟨m, hm, rfl⟩ := sends
    rw [Parcel.amountAt_start_of_mem sendable.apart hm]
    exact sendable.enough m hm
  · rw [Parcel.amountAt_start_of_forall_ne fun m hm e => sends ⟨m, hm, e⟩]
    exact Nat.zero_le _

/-- Moves under way between a first state of the game and the present one. -/
structure UnderWay (s : Simulation) (h : Hash) (moves : List Move) (parcels : List Parcel)
    (t : Simulation) : Prop where
  moves_eq : parcels.map (·.move) = moves
  loose : t.Loose h
  failing : t.failing = s.failing
  /-- An owner holds what it held, less what was to leave it, plus what is with it just now. -/
  ledger : ∀ o, t.held o h + Parcel.amountAt (Parcel.start moves) o =
    s.held o h + Parcel.amountAt parcels o
  other : ∀ o h', h ≠ h' → t.held o h' = s.held o h'

theorem UnderWay.init (loose : s.Loose h) (moves : List Move) :
    UnderWay s h moves (Parcel.start moves) s where
  moves_eq := by simp [Parcel.start, Function.comp_def]
  loose := loose
  failing := rfl
  ledger _ := rfl
  other _ _ _ := rfl

/-- **One hop** of one of the moves is accepted and takes its share, and no other, one step further. -/
theorem UnderWay.step (u : UnderWay s h moves (front ++ x :: back) t)
    (sendable : Sendable s h destination moves) (free : h ∉ s.failing) {r : TransferRequest}
    (hash : r.itemHash = x.move.item.itemHash) (id : r.itemId = x.move.item.instanceId)
    (size : r.stackSize = x.move.quantity) (source : r.source = x.holder) :
    ∃ t' : Simulation, t.transfer r = (.ok (), t') ∧
      UnderWay s h moves (front ++ { x with holder := r.target } :: back) t' := by
  have mem : x.move ∈ moves := by simp [← u.moves_eq]
  obtain ⟨hitem, hid, hpos⟩ := sendable.stack x.move mem
  have split : ∀ (y : Parcel) o, Parcel.amountAt (front ++ y :: back) o =
      Parcel.amountAt front o + ((if y.holder = o then y.move.quantity else 0) +
        Parcel.amountAt back o) := fun y o => sumOf_append _ front (y :: back)
  -- the share is with its holder, over and above what the other moves leave or bring there
  have enough : r.stackSize ≤ t.held r.source h := by
    have ledger := u.ledger r.source
    have within := sendable.amountAt_start_le r.source
    rw [split, if_pos source.symm] at ledger
    omega
  obtain ⟨t', accepted, loose, failing, moved⟩ := u.loose.transfer (u.failing ▸ free)
    (hash.trans hitem) (id.trans hid) (size ▸ hpos) enough
  refine ⟨t', accepted, ⟨?_, loose, failing.trans u.failing, fun o => ?_, fun o h' hne => ?_⟩⟩
  · rw [← u.moves_eq]
    simp
  · have before := u.ledger o
    have change := moved o h
    rw [split] at before ⊢
    simp only [true_and, size, source] at change ⊢
    omega
  · have change := moved o h'
    simp only [hne, false_and, if_false, Nat.add_zero] at change
    rw [change, u.other o h' hne]

/-- **Any order of hops** ends with every share at the destination and no move failed. -/
theorem Sendable.finished (sendable : Sendable s h destination moves) (loose : s.Loose h)
    (free : h ∉ s.failing) {talk : List (Nat × Dialogue.Exchange Game)} {results : List Result}
    (moved : Dialogue.Interleaving Simulation.answer
      ((Parcel.start moves).map (·.finish destination membershipType)) s talk results t) :
    results = moves.map (.ofMove · .completed) ∧
      ∃ parcels, UnderWay s h moves parcels t ∧ ∀ x ∈ parcels, x.holder = destination := by
  have last : ∃ parcels, results.map .done = parcels.map (·.finish destination membershipType) ∧
      UnderWay s h moves parcels t := by
    refine moved.invariant
      (fun pool t => ∃ parcels, pool = parcels.map (·.finish destination membershipType) ∧
        UnderWay s h moves parcels t) ⟨_, rfl, .init loose moves⟩ ?_
    rintro front c next back t ⟨parcels, pool, u⟩
    obtain ⟨before, rest, rfl, rfl, hrest⟩ := List.map_eq_append_iff.mp pool.symm
    obtain ⟨x, after, rfl, hx, rfl⟩ := List.map_eq_cons_iff.mp hrest
    -- a call is still to be made, so the share has not arrived
    rcases x.finish_cases destination membershipType with
      ⟨-, done⟩ | ⟨r, next', hop, onward, hash, id, size, source⟩
    · rw [done] at hx
      cases hx
    · rw [hop] at hx
      cases hx
      obtain ⟨t', accepted, u'⟩ := u.step sendable free hash id size source
      refine ⟨before ++ { x with holder := r.target } :: after, ?_, ?_⟩
      · rw [Simulation.answer, accepted, onward]
        simp
      · rw [Simulation.answer, accepted]
        exact u'
  obtain ⟨parcels, pool, u⟩ := last
  have ended : ∀ x ∈ parcels, x.holder = destination ∧
      x.finish destination membershipType = .done (.ofMove x.move .completed) := by
    intro x hx
    rcases x.finish_cases destination membershipType with arrived | ⟨r, next, hop, -⟩
    · exact arrived
    · obtain ⟨result, -, hresult⟩ :=
        List.mem_map.mp (pool ▸ List.mem_map_of_mem hx : x.finish destination membershipType ∈ _)
      rw [hop] at hresult
      cases hresult
  refine ⟨?_, parcels, u, fun x hx => (ended x hx).1⟩
  have same : results.map (Dialogue.done (I := Game)) =
      (moves.map (Result.ofMove · .completed)).map .done := by
    rw [pool, ← u.moves_eq, List.map_map, List.map_map]
    exact List.map_congr_left fun x hx => (ended x hx).2
  exact List.map_injective_iff.mpr (fun a b e => by cases e; rfl) same

/-! ## Batches of stacks -/

variable {batch : List Item} {count : Option Nat} {report : Report}
  {talk : List (Nat × Dialogue.Exchange Game)}

theorem perm_incoming (listed : batch.Perm (s.items.filter (·.itemHash == h)))
    (destination : Option CharacterId) :
    (Placement.incoming batch destination).Perm
      (s.items.filter fun i => i.itemHash == h && i.owner != destination) := by
  have outside := listed.filter fun i => !decide (i.owner = destination)
  rw [List.filter_filter] at outside
  refine outside.trans (.of_eq (List.filter_congr fun i _ => ?_))
  rw [Bool.and_comm, bne, Bool.beq_eq_decide_eq i.owner]

/-- The moves of a plan for the stacks of a hash can all be made. -/
theorem sendable_plan (loose : s.Loose h)
    (listed : batch.Perm (s.items.filter (·.itemHash == h))) (destination : Option CharacterId)
    (count : Option Nat) : Sendable s h destination (plan batch destination count) := by
  have fills := fills_plan batch destination count
  have entry : ∀ i ∈ batch, i ∈ s.items ∧ i.itemHash = h := fun i hi => by
    simpa using listed.mem_iff.mp hi
  have item : ∀ m ∈ plan batch destination count, m.item ∈ batch ∧ m.item.owner ≠ destination := by
    intro m hm
    have hin : m.item ∈ Placement.incoming batch destination :=
      List.mem_of_mem_take (fills.taken ▸ List.mem_map_of_mem hm)
    simpa [Placement.incoming] using hin
  have pos : ∀ i ∈ batch, 0 < i.quantity := fun i hi =>
    (loose.stack i (entry i hi).1 (entry i hi).2).2.2.2
  refine ⟨fun m hm => ?_, fun m hm => (item m hm).2, ?_, fun m hm => ?_⟩
  · obtain ⟨hi, hash⟩ := entry m.item (item m hm).1
    exact ⟨hash, (loose.stack m.item hi hash).1, quantity_pos_of_mem_plan pos m hm⟩
  · -- the moves take some of the stacks, and these have different owners
    have some_of : ((plan batch destination count).map (·.item)).Sublist batch := by
      rw [fills.taken]
      exact (List.take_sublist _ _).trans List.filter_sublist
    have owners := ((listed.map _).nodup_iff.mpr loose.nodup_owners).sublist
      (some_of.map (·.owner))
    rwa [List.map_map] at owners
  · obtain ⟨hi, hash⟩ := entry m.item (item m hm).1
    rw [loose.held_eq hi (by simp [Item.isAt, hash])]
    exact fills.part m hm

/-- How much of a hash a batch brings to a destination: what was asked for, or all that lies outside it. -/
def delivery (s : Simulation) (h : Hash) (destination : Option CharacterId) (count : Option Nat) : Nat :=
  count.elim (s.heldOutside destination h) (min · (s.heldOutside destination h))

/-- What a batch of the stacks of a hash brings about, and what its report says. -/
structure Delivered (s : Simulation) (h : Hash) (batch : List Item)
    (destination : Option CharacterId) (count : Option Nat) (report : Report) (t : Simulation) :
    Prop where
  planned : report.planned = Bits.wrap 32 (delivery s h destination count)
  confirmed : report.confirmed = report.planned
  /-- As long as it fits into 32 bits, what is reported is what was delivered. -/
  exact : delivery s h destination count < Bits.size 32 →
    report.planned = delivery s h destination count
  arrived : t.held destination h = s.held destination h + delivery s h destination count
  /-- In the order of the list, each stack that is moved is less by what the report says. -/
  left : List.Forall₂ (fun r i => t.held i.owner h + r.quantity = s.held i.owner h) report.results
    ((Placement.incoming batch destination).take report.results.length)
  others : ∀ o ≠ destination,
    (∀ i ∈ (Placement.incoming batch destination).take report.results.length, i.owner ≠ o) →
      t.held o h = s.held o h
  elsewhere : ∀ o h', h ≠ h' → t.held o h' = s.held o h'

theorem AtOnce.delivered (loose : s.Loose h) (free : h ∉ s.failing)
    (listed : batch.Perm (s.items.filter (·.itemHash == h)))
    (moved : AtOnce Simulation.answer batch destination count membershipType s report talk t) :
    Delivered s h batch destination count report t := by
  have sendable := sendable_plan loose listed destination count
  have fills := fills_plan batch destination count
  have pool : (plan batch destination count).map (perform destination membershipType) =
      (Parcel.start (plan batch destination count)).map
        (·.finish destination membershipType) := by
    rw [Parcel.start, List.map_map]
    refine List.map_congr_left fun m hm => ?_
    rw [perform, Parcel.carry_eq_onward (sendable.away m hm)]
    rfl
  obtain ⟨results, parcels, u, arrived⟩ := sendable.finished loose free (pool ▸ moved.moved)
  have total : quantity (plan batch destination count) = delivery s h destination count := by
    rw [fills.total, sumOf_perm _ (perm_incoming listed destination)]
    rfl
  have planned : report.planned = Bits.wrap 32 (delivery s h destination count) := by
    rw [moved.planned, total]
  have ledger : ∀ o, t.held o h +
      Parcel.amountAt (Parcel.start (plan batch destination count)) o =
        s.held o h + if destination = o then delivery s h destination count else 0 := fun o => by
    rw [u.ledger o, Parcel.amountAt_arrived arrived, u.moves_eq, total]
  have few : report.results.length = (plan batch destination count).length := by
    rw [results, List.length_map]
  refine ⟨planned, ?_, fun fits => planned.trans (Bits.wrap_of_lt fits), ?_, ?_,
    fun o away unmoved => ?_, u.other⟩
  · have completed : report.results.filter (·.isCompleted) = report.results := by
      rw [results, List.filter_eq_self]
      intro r hr
      obtain ⟨m, -, rfl⟩ := List.mem_map.mp hr
      rfl
    rw [Report.confirmed, completed, moved.carried.sum, moved.planned]
  · have here := ledger destination
    rwa [Parcel.amountAt_start_of_forall_ne sendable.away, Nat.add_zero, if_pos rfl] at here
  · rw [few, ← fills.taken, results, List.forall₂_map_left_iff, List.forall₂_map_right_iff,
      List.forall₂_same]
    intro m hm
    have here := ledger m.item.owner
    rwa [Parcel.amountAt_start_of_mem sendable.apart hm, if_neg (sendable.away m hm).symm,
      Nat.add_zero] at here
  · have here := ledger o
    rw [few, ← fills.taken, List.forall_mem_map] at unmoved
    rwa [Parcel.amountAt_start_of_forall_ne unmoved, if_neg away.symm] at here

/-- **Stacks arrive as planned.** Let a hash occur only as stacks, one for each owner, and let nothing bar it.
However the list of its stacks is ordered, and whether the moves are made one after the other or at the same
time, the report confirms all that was planned, which is the count or all that lies outside the destination, kept
in 32 bits. The destination gains exactly this quantity, every stack that is moved loses what the report says of
it, and everything else stays. -/
theorem stacks_delivered (loose : s.Loose h) (free : h ∉ s.failing)
    (listed : batch.Perm (s.items.filter (·.itemHash == h))) (destination : Option CharacterId)
    (count : Option Nat) (membershipType : Int) :
    (∀ report talk t,
      AtOnce Simulation.answer batch destination count membershipType s report talk t →
        Delivered s h batch destination count report t) ∧
      let r := Dialogue.run Simulation.answer (run batch destination count membershipType) s
      Delivered s h batch destination count r.value r.state := by
  refine ⟨fun report talk t moved => moved.delivered loose free listed, ?_⟩
  obtain ⟨talk, moved, -⟩ :=
    atOnce_run Simulation.answer batch destination count membershipType s
  exact moved.delivered loose free listed

/-! ### Three stacks and a fourth owner -/

/-- A stack of coins. -/
def coins (quantity : Nat) (holder : Option CharacterId) : Item where
  itemHash := 777
  instanceId := none
  bucketHash := 0
  quantity
  power := 0
  tier := .currency
  guardian := .unknown
  requiredLevel := 0
  canEquip := false
  isEquipped := false
  isEngram := false
  transferStatus := .canTransfer
  owner := holder

/-- Coins of two characters and of the vault, where they are moved through. -/
def purses : Simulation where
  membership := ⟨"person", 3, "person"⟩
  items := [coins 5 (some "titan"), coins 3 (some "hunter"), coins 4 none]

theorem loose_purses : purses.Loose 777 := by
  constructor
  · decide
  · intro o
    have owners : (purses.items.map (·.owner)).Nodup := by decide
    have one := List.nodup_iff_count_le_one.mp owners o
    rw [List.count, List.countP_map] at one
    refine Nat.le_trans (List.countP_mono_left fun i _ hi => ?_) one
    simp only [Item.isAt, Bool.and_eq_true] at hi
    exact hi.2

/-- A warlock without coins asks for ten of twelve and gets them. -/
theorem stacks_delivered_purses :
    let batch := [coins 5 (some "titan"), coins 4 none, coins 3 (some "hunter")]
    let r := Dialogue.run Simulation.answer (run batch (some "warlock") (some 10) 3) purses
    r.value.confirmed = 10 ∧ r.state.held (some "warlock") 777 = 10 := by
  intro batch r
  have listed : batch.Perm (purses.items.filter (·.itemHash == 777)) := by decide
  obtain ⟨-, delivered⟩ :=
    stacks_delivered loose_purses (by decide) listed (some "warlock") (some 10) 3
  have asked : delivery purses 777 (some "warlock") (some 10) = 10 := by decide
  have exact := delivered.exact
  have arrived := delivered.arrived
  have before : purses.held (some "warlock") 777 = 0 := by decide
  rw [asked] at exact
  rw [asked, before] at arrived
  exact ⟨delivered.confirmed.trans (exact (by decide)), arrived⟩

end Transfer
end Armory
