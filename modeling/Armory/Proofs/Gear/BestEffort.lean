import Armory.Proofs.Gear.Accounting
import Armory.Proofs.Gear.Realisation
import Armory.Proofs.Profile.Possession

/-! A loadout put on as far as the game allows. Loadout, profile and destination alone say which calls there
are to be, and none of them waits for the success of another but the second hop of an item for its first. What
makes room is under way at the same time, and so is what moves to the destination. Main statement: against
whatever game and in whatever order such calls are made, the calls are those of the schedule, block by block, and
the report is clean iff the game has refused none of them (`Equip.loadout_best_effort`). -/
namespace Armory

open Dialogue (Exchange)

/-! ## Lists side by side -/

section Lists

variable {α β : Type}

/-- Some of the entries of a list, each with what a function gives for it. -/
theorem exists_sublist_forall₂_filterMap {f : α → Option β} {R : α → β → Prop}
    {xs : List α} (h : ∀ x ∈ xs, ∀ y, f x = some y → R x y) :
    ∃ ys, ys.Sublist xs ∧ List.Forall₂ R ys (xs.filterMap f) := by
  induction xs with
  | nil => exact ⟨[], .slnil, .nil⟩
  | cons x rest ih =>
    obtain ⟨first, later⟩ := List.forall_mem_cons.mp h
    obtain ⟨ys, sub, related⟩ := ih later
    cases hx : f x with
    | none => exact ⟨ys, sub.cons x, by rwa [List.filterMap_cons_none hx]⟩
    | some y =>
      rw [List.filterMap_cons_some hx]
      exact ⟨x :: ys, sub.cons_cons x, .cons (first y hx) related⟩

end Lists

namespace Transfer

variable {destination : Option CharacterId} {membershipType : Int} {items : List Item}
  {count : Option Nat} {report : Report} {talk : List (Exchange Game)}

/-- No result is a failure iff all moves have succeeded. -/
theorem Report.failures_isEmpty_iff :
    report.failures.isEmpty = true ↔ ∀ r ∈ report.results, r.isCompleted = true := by
  rw [failures, List.isEmpty_iff, List.filter_eq_nil_iff]
  simp

/-- Moves that are made one after the other follow their routes in the order of the plan. -/
theorem goes_run (h : (run items destination count membershipType).Goes talk report) :
    ∃ here, talk = here.map (·.2) ∧
      Carried destination membershipType (plan items destination count) report.results here ∧
      Dialogue.InOrder here := by
  rw [run_eq, ← Dialogue.each_map_id] at h
  obtain ⟨results, first, rest, rfl, each, last⟩ := Dialogue.goes_andThen.mp h
  obtain ⟨rfl, rfl⟩ := Dialogue.goes_done.mp last
  obtain ⟨here, rfl, abreast, order⟩ := Dialogue.exists_abreast_of_goes_each each
  exact ⟨here, List.append_nil _, carried_of_abreast abreast, order⟩

end Transfer

namespace Equip

variable {p : Profile} {l : Loadout} {destination holder : CharacterId} {i v : Item} {b : Bucket}

/-! ## What is to be called -/

/-- The call that puts something else on the wearer of an item, if there is something else to wear. -/
def swapRequest? (p : Profile) (i : Item) (holder : CharacterId) : Option EquipRequest :=
  (substitute? i holder p).map fun s => ⟨s.2, holder, p.membershipType⟩

/-- The call that puts items on, if there is anything to put on. -/
def equipRequest? (items : List Item) (destination : CharacterId) (membershipType : Int) :
    Option EquipItemsRequest :=
  match idsToEquip items destination with
  | [] => none
  | id :: ids => some ⟨id :: ids, destination, membershipType⟩

/-- The calls that are to put a loadout on, in four blocks. -/
structure Schedule where
  swaps : List EquipRequest
  evictions : List TransferRequest
  /-- For each item that is to arrive, its one or two hops. -/
  routes : List (List (Transfer.Stage × TransferRequest))
  equip : Option EquipItemsRequest

/-- The schedule of a loadout: what others wear of it is replaced, full buckets give something to the vault,
what the destination does not have comes in, and what it does not wear is put on. -/
def schedule (l : Loadout) (destination : CharacterId) (p : Profile) : Schedule where
  swaps := (wornElsewhere l destination).filterMap fun w => swapRequest? p w.2.1 w.2.2
  evictions := (evictions l destination p).map fun v =>
    Transfer.toVaultRequest ⟨v, v.quantity⟩ destination p.membershipType
  routes := (Placement.incoming l.items (some destination)).map fun i =>
    Transfer.route (some destination) p.membershipType ⟨i, i.quantity⟩
  equip := equipRequest? l.items destination p.membershipType

/-- The calls of a schedule if one item is moved after the other and none is refused. -/
def Schedule.calls (s : Schedule) : List Game.Call :=
  s.swaps.map .equipItem ++ s.evictions.map .transferItem ++
    s.routes.flatten.map (fun hop => .transferItem hop.2) ++ s.equip.toList.map .equipItems

/-! ## What is called -/

/-- The exchanges of a run, block by block. Those of an eviction or of a move come with its place among all
evictions or all moves, since others may come in between. -/
structure Course where
  swaps : List (Exchange Game)
  evictions : List (Nat × Exchange Game)
  moves : List (Nat × Exchange Game)
  equip : List (Exchange Game)

/-- All exchanges in order. -/
def Course.talk (c : Course) : List (Exchange Game) :=
  c.swaps ++ c.evictions.map (·.2) ++ c.moves.map (·.2) ++ c.equip

/-- A course makes the calls of a schedule, except that an item goes no further once a hop has failed. The hops
of an item come in their order, whatever comes in between. -/
structure Course.Obeys (c : Course) (s : Schedule) : Prop where
  swaps : c.swaps.map (·.1) = s.swaps.map .equipItem
  evictions : ∀ k r, s.evictions[k]? = some r →
    (Dialogue.partOf k c.evictions).map (·.1) = [.transferItem r]
  evictions_only : ∀ e ∈ c.evictions, e.1 < s.evictions.length
  moves : ∀ k route, s.routes[k]? = some route →
    ∃ outcome, Transfer.Follows route (Dialogue.partOf k c.moves) outcome
  moves_only : ∀ e ∈ c.moves, e.1 < s.routes.length
  equip : c.equip.map (·.1) = s.equip.toList.map .equipItems

/-- One item is moved after the other, in the order of the buckets. -/
def Course.InTurn (c : Course) : Prop := Dialogue.InOrder c.evictions ∧ Dialogue.InOrder c.moves

variable {talk : List (Exchange Game)}

theorem goes_swap {r : Swap} (h : (swap b i holder p).Goes talk r) :
    talk.map (·.1) = (swapRequest? p i holder).toList.map .equipItem ∧
      ((!r.outcome.any (·.isFailure)) = true ↔ ∀ e ∈ talk, e.2.isOk = true) := by
  unfold swap at h
  unfold swapRequest?
  cases hs : substitute? i holder p with
  | none =>
    simp only [hs] at h
    obtain ⟨rfl, rfl⟩ := Dialogue.goes_done.mp h
    simp
  | some s =>
    simp only [hs] at h
    obtain ⟨reply, rfl, rfl⟩ := Dialogue.goes_ask_done.mp h
    cases reply <;> simp [Outcome.ofReply, Outcome.isFailure, Except.isOk, Except.toBool]

theorem goes_putOn {items : List Item} {membershipType : Int} {r : Option Batch}
    (h : (putOn items destination membershipType).Goes talk r) :
    talk.map (·.1) = (equipRequest? items destination membershipType).toList.map .equipItems ∧
      ((!r.any (·.outcome.isFailure)) = true ↔ ∀ e ∈ talk, e.2.isOk = true) := by
  unfold putOn at h
  unfold equipRequest?
  cases hids : idsToEquip items destination with
  | nil =>
    simp only [hids] at h
    obtain ⟨rfl, rfl⟩ := Dialogue.goes_done.mp h
    simp
  | cons id ids =>
    simp only [hids] at h
    obtain ⟨reply, rfl, rfl⟩ := Dialogue.goes_ask_done.mp h
    cases reply <;> simp [Outcome.ofReply, Outcome.isFailure, Except.isOk, Except.toBool]

/-- The block of swaps. -/
theorem goes_swaps {swaps : List Swap}
    (h : (Dialogue.each (fun (b, i, holder) => swap b i holder p)
      (wornElsewhere l destination)).Goes talk swaps) :
    talk.map (·.1) = (schedule l destination p).swaps.map .equipItem ∧
      (swaps.all (fun s => !s.outcome.any (·.isFailure)) = true ↔ ∀ e ∈ talk, e.2.isOk = true) := by
  obtain ⟨parts, members, rfl, rfl⟩ := Dialogue.goes_each h
  have each := members.imp fun w part => goes_swap
  constructor
  · rw [Dialogue.map_fst_flatten (List.forall₂_map_right_iff.mpr (each.imp fun w part => And.left))]
    rw [schedule, List.filterMap_eq_flatMap_toList, List.map_flatMap]
  · rw [List.all_eq_true]
    exact Dialogue.forall_flatten_iff (P := fun e : Exchange Game => e.2.isOk = true)
      (each.imp fun w part => And.right)

/-- The block of evictions: everything that is evicted is with the destination, so one hop takes it to the
vault. -/
theorem called_evictions {here : List (Nat × Exchange Game)} {results : List Transfer.Result}
    (held : ∀ v ∈ evictions l destination p, v.owner = some destination)
    (h : Transfer.Carried none p.membershipType (Transfer.plan (evictions l destination p) none none)
      results here) :
    (∀ k r, (schedule l destination p).evictions[k]? = some r →
      (Dialogue.partOf k here).map (·.1) = [.transferItem r]) ∧
    ∀ e ∈ here, e.1 < (schedule l destination p).evictions.length := by
  have all : Placement.incoming (evictions l destination p) none = evictions l destination p := by
    rw [Placement.incoming, List.filter_eq_self]
    intro v hv
    simp [held v hv]
  rw [Transfer.plan_whole, all] at h
  refine ⟨fun k r hr => ?_, fun e he => by simpa [schedule] using h.only e he⟩
  rw [schedule, List.getElem?_map] at hr
  obtain ⟨v, hv, rfl⟩ := Option.map_eq_some_iff.mp hr
  obtain ⟨outcome, -, follows⟩ := h.followed k ⟨v, v.quantity⟩ (by rw [List.getElem?_map, hv]; rfl)
  rw [Transfer.route, held v (List.mem_of_getElem? hv)] at follows
  exact follows.calls_one

/-- The block of moves: what is not with the destination follows its route. -/
theorem called_moves {here : List (Nat × Exchange Game)} {results : List Transfer.Result}
    (h : Transfer.Carried (some destination) p.membershipType
      (Transfer.plan l.items (some destination) none) results here) :
    (∀ k route, (schedule l destination p).routes[k]? = some route →
      ∃ outcome, Transfer.Follows route (Dialogue.partOf k here) outcome) ∧
    ∀ e ∈ here, e.1 < (schedule l destination p).routes.length := by
  rw [Transfer.plan_whole] at h
  refine ⟨fun k route hr => ?_, fun e he => by simpa [schedule] using h.only e he⟩
  rw [schedule, List.getElem?_map] at hr
  obtain ⟨i, hi, rfl⟩ := Option.map_eq_some_iff.mp hr
  obtain ⟨outcome, -, follows⟩ := h.followed k ⟨i, i.quantity⟩ (by rw [List.getElem?_map, hi]; rfl)
  exact ⟨outcome, follows⟩

/-- **Four blocks** that are carried out obey the schedule together, and the report is clean iff no call is
refused. -/
theorem obeys_of_blocks {first fourth : List (Exchange Game)} {second third : List (Nat × Exchange Game)}
    (report : Report) (held : ∀ v ∈ evictions l destination p, v.owner = some destination)
    (swapped : (Dialogue.each (fun (b, i, holder) => swap b i holder p)
      (wornElsewhere l destination)).Goes first report.swaps)
    (evicted : Transfer.Carried none p.membershipType
      (Transfer.plan (evictions l destination p) none none) report.evictions.results second)
    (moved : Transfer.Carried (some destination) p.membershipType
      (Transfer.plan l.items (some destination) none) report.transfers.results third)
    (equipped : (putOn l.items destination p.membershipType).Goes fourth report.equip) :
    (Course.mk first second third fourth).Obeys (schedule l destination p) ∧
      (report.isClean = true ↔ ∀ e ∈ (Course.mk first second third fourth).talk, e.2.isOk = true) := by
  obtain ⟨swapCalls, swapsClean⟩ := goes_swaps swapped
  obtain ⟨evictionCalls, evictionsOnly⟩ := called_evictions held evicted
  obtain ⟨moveCalls, movesOnly⟩ := called_moves moved
  obtain ⟨equipCalls, equipClean⟩ := goes_putOn equipped
  refine ⟨⟨swapCalls, evictionCalls, evictionsOnly, moveCalls, movesOnly, equipCalls⟩, ?_⟩
  rw [Report.isClean, Bool.and_eq_true, Bool.and_eq_true, Bool.and_eq_true, swapsClean, equipClean,
    Transfer.Report.failures_isEmpty_iff, Transfer.Report.failures_isEmpty_iff, evicted.isCompleted_iff,
    moved.isCompleted_iff]
  simp only [Course.talk, List.forall_mem_append, List.forall_mem_map]
  constructor
  · rintro ⟨⟨⟨hevicted, hmoved⟩, hswaps⟩, hequip⟩
    exact ⟨⟨⟨hswaps, hevicted⟩, hmoved⟩, hequip⟩
  · rintro ⟨⟨⟨hswaps, hevicted⟩, hmoved⟩, hequip⟩
    exact ⟨⟨⟨hevicted, hmoved⟩, hswaps⟩, hequip⟩

/-- **A loadout put on** makes the calls of its schedule, and its report is clean iff none is refused. -/
theorem goes_wearing {report : Report}
    (held : ∀ v ∈ evictions l destination p, v.owner = some destination)
    (h : (wearing l destination p).Goes talk report) :
    ∃ c : Course, talk = c.talk ∧ c.Obeys (schedule l destination p) ∧
      (report.isClean = true ↔ ∀ e ∈ c.talk, e.2.isOk = true) := by
  simp only [wearing, Procedure.bind_eq, Procedure.pure_eq] at h
  obtain ⟨swaps, first, rest, rfl, hswaps, h⟩ := Procedure.goes_andThen.mp h
  obtain ⟨evicted, second, rest, rfl, hevicted, h⟩ := Procedure.goes_andThen.mp h
  obtain ⟨moved, third, rest, rfl, hmoved, h⟩ := Procedure.goes_andThen.mp h
  obtain ⟨equip, fourth, rest, rfl, hequip, h⟩ := Procedure.goes_andThen.mp h
  obtain ⟨rfl, rfl⟩ := Procedure.goes_done.mp h
  obtain ⟨second, rfl, evictedCarried, -⟩ := Transfer.goes_batch hevicted
  obtain ⟨third, rfl, movedCarried, -⟩ := Transfer.goes_batch hmoved
  exact ⟨⟨first, second, third, fourth⟩, by simp [Course.talk],
    obeys_of_blocks ⟨evicted, swaps, moved, equip⟩ held (Procedure.goes_ofDialogue.mp hswaps)
      evictedCarried movedCarried (Procedure.goes_ofDialogue.mp hequip)⟩

/-- With one move after the other, the blocks are in the order of the buckets as well. -/
theorem goes_wear {report : Report}
    (held : ∀ v ∈ evictions l destination p, v.owner = some destination)
    (h : (wear l destination p).Goes talk report) :
    ∃ c : Course, talk = c.talk ∧ c.Obeys (schedule l destination p) ∧ c.InTurn := by
  simp only [wear_eq, Dialogue.bind_eq, Dialogue.pure_eq] at h
  obtain ⟨swaps, first, rest, rfl, hswaps, h⟩ := Dialogue.goes_andThen.mp h
  obtain ⟨evicted, second, rest, rfl, hevicted, h⟩ := Dialogue.goes_andThen.mp h
  obtain ⟨moved, third, rest, rfl, hmoved, h⟩ := Dialogue.goes_andThen.mp h
  obtain ⟨equip, fourth, rest, rfl, hequip, h⟩ := Dialogue.goes_andThen.mp h
  obtain ⟨rfl, rfl⟩ := Dialogue.goes_done.mp h
  obtain ⟨second, rfl, evictedCarried, evictedOrder⟩ := Transfer.goes_run hevicted
  obtain ⟨third, rfl, movedCarried, movedOrder⟩ := Transfer.goes_run hmoved
  obtain ⟨obeys, -⟩ := obeys_of_blocks ⟨evicted, swaps, moved, equip⟩ held hswaps
    evictedCarried movedCarried hequip
  exact ⟨⟨first, second, third, fourth⟩, by simp [Course.talk], obeys, evictedOrder, movedOrder⟩

/-- A character of the profile has a loadout put on. -/
theorem equipping_eq_wearing (member : ∃ ch ∈ p.characters, ch.id = destination) :
    equipping l destination p =
      (wearing l destination p).andThen fun report => .done (.ok report) := by
  obtain ⟨ch, known⟩ := Profile.exists_requireCharacter member
  rw [equipping, known]

/-- A loadout that cannot be put on is given up before anything is called. -/
theorem goes_equipping {q : Except DomainError Report} (h : (equipping l destination p).Goes talk q) :
    (talk = [] ∧ ∃ e, q = .error e) ∨
      ∃ report, q = .ok report ∧ (wearing l destination p).Goes talk report := by
  unfold equipping at h
  split at h
  · obtain ⟨rfl, rfl⟩ := Procedure.goes_done.mp h
    exact .inl ⟨rfl, _, rfl⟩
  · obtain ⟨report, first, last, rfl, goes, h⟩ := Procedure.goes_andThen.mp h
    obtain ⟨rfl, rfl⟩ := Procedure.goes_done.mp h
    exact .inr ⟨report, rfl, by rwa [List.append_nil]⟩

/-- Nothing has to be moved for a loadout of what the destination holds. -/
theorem schedule_of_owned (owned : ∀ i ∈ l.items, i.owner = some destination) :
    evictions l destination p = [] ∧
      schedule l destination p =
        ⟨[], [], [], equipRequest? l.items destination p.membershipType⟩ := by
  have own : ∀ e ∈ l.entries, e.2.owner = some destination := fun e he =>
    owned e.2 (List.mem_map_of_mem he)
  have worn : wornElsewhere l destination = [] := by
    rw [wornElsewhere, List.filterMap_eq_nil_iff]
    intro e he
    simp [own e he]
  have evicted : evictions l destination p = [] := by
    unfold evictions
    split
    · rfl
    · rw [List.filterMap_eq_nil_iff]
      intro e he
      simp [Item.ownedBy, own e he]
  have incoming : Placement.incoming l.items (some destination) = [] := by
    rw [Placement.incoming, List.filter_eq_nil_iff]
    intro i hi
    simp [owned i hi]
  refine ⟨evicted, ?_⟩
  rw [schedule, worn, evicted, incoming]
  rfl

/-- **A loadout of what the destination holds** takes one call at most, to put on what is not worn yet. -/
theorem goes_wearing_of_owned {report : Report} (owned : ∀ i ∈ l.items, i.owner = some destination)
    (h : (wearing l destination p).Goes talk report) :
    talk.map (·.1) =
      (equipRequest? l.items destination p.membershipType).toList.map .equipItems := by
  obtain ⟨nothing, planned⟩ := schedule_of_owned (p := p) owned
  obtain ⟨course, rfl, obeys, -⟩ := goes_wearing (by simp [nothing]) h
  rw [planned] at obeys
  have swaps := List.map_eq_nil_iff.mp obeys.swaps
  have evicted := List.eq_nil_iff_forall_not_mem.mpr fun e he => Nat.not_lt_zero _ (obeys.evictions_only e he)
  have moves := List.eq_nil_iff_forall_not_mem.mpr fun e he => Nat.not_lt_zero _ (obeys.moves_only e he)
  simp only [Course.talk, swaps, evicted, moves, List.map_nil, List.nil_append]
  exact obeys.equip

/-! ## Any two courses -/

/-- The exchanges of an item that stops after the first of two hops, as it is refused, where in another course
both hops are called. -/
def CutShort (part whole : List (Exchange Game)) : Prop :=
  ∃ first second e, part = [⟨.transferItem first, .error e⟩] ∧
    whole.map (·.1) = [.transferItem first, .transferItem second]

/-- Two courses make the same calls, except that in each of them an item may be cut short, and that the calls of
different items of a block may come in another order. -/
structure Course.Alike (c c' : Course) : Prop where
  swaps : c.swaps.map (·.1) = c'.swaps.map (·.1)
  evictions : ∀ k, (Dialogue.partOf k c.evictions).map (·.1) = (Dialogue.partOf k c'.evictions).map (·.1)
  moves : ∀ k, (Dialogue.partOf k c.moves).map (·.1) = (Dialogue.partOf k c'.moves).map (·.1) ∨
    CutShort (Dialogue.partOf k c.moves) (Dialogue.partOf k c'.moves) ∨
      CutShort (Dialogue.partOf k c'.moves) (Dialogue.partOf k c.moves)
  equip : c.equip.map (·.1) = c'.equip.map (·.1)

/-- Two ways along the route of an item part only where the first hop is refused. -/
theorem follows_alike {m : Move} {membershipType : Int} {talk talk' : List (Exchange Game)}
    {outcome outcome' : Transfer.Outcome}
    (h : Transfer.Follows (Transfer.route (some destination) membershipType m) talk outcome)
    (h' : Transfer.Follows (Transfer.route (some destination) membershipType m) talk' outcome') :
    talk.map (·.1) = talk'.map (·.1) ∨ CutShort talk talk' ∨ CutShort talk' talk := by
  unfold Transfer.route at h h'
  cases ho : m.item.owner with
  | none =>
    rw [ho] at h h'
    exact .inl (h.calls_one.trans h'.calls_one.symm)
  | some holder =>
    rw [ho] at h h'
    rcases h.calls_two with both | ⟨e, rfl⟩ <;> rcases h'.calls_two with both' | ⟨e', rfl⟩
    · exact .inl (both.trans both'.symm)
    · exact .inr (.inr ⟨_, _, e', rfl, both⟩)
    · exact .inr (.inl ⟨_, _, e, rfl, both'⟩)
    · exact .inl rfl

theorem Course.Obeys.alike {c c' : Course} (h : c.Obeys (schedule l destination p))
    (h' : c'.Obeys (schedule l destination p)) : c.Alike c' := by
  refine ⟨h.swaps.trans h'.swaps.symm, fun k => ?_, fun k => ?_, h.equip.trans h'.equip.symm⟩
  · cases hr : (schedule l destination p).evictions[k]? with
    | some r => exact (h.evictions k r hr).trans (h'.evictions k r hr).symm
    | none =>
      have out := List.getElem?_eq_none_iff.mp hr
      rw [Dialogue.partOf_eq_nil h.evictions_only out, Dialogue.partOf_eq_nil h'.evictions_only out]
  · cases hr : (schedule l destination p).routes[k]? with
    | some route =>
      obtain ⟨outcome, follows⟩ := h.moves k route hr
      obtain ⟨outcome', follows'⟩ := h'.moves k route hr
      rw [schedule, List.getElem?_map] at hr
      obtain ⟨i, -, rfl⟩ := Option.map_eq_some_iff.mp hr
      exact follows_alike follows follows'
    | none =>
      have out := List.getElem?_eq_none_iff.mp hr
      rw [Dialogue.partOf_eq_nil h.moves_only out, Dialogue.partOf_eq_nil h'.moves_only out]
      exact .inl rfl

/-! ## What the schedule leaves alone -/

/-- Why an item is evicted for an entry of a loadout. -/
structure Evicted (l : Loadout) (destination : CharacterId) (p : Profile) (entry : Bucket × Item)
    (v : Item) : Prop where
  /-- The entry is still to come into the bucket, and that is full. -/
  arriving : entry.2.owner ≠ some destination
  full : Bucket.capacity ≤ (p.contents destination entry.1).occupancy
  held : v.owner = some destination
  /-- It lies in the bucket, behind the equipped slot. -/
  behind : v ∈ (p.contents destination entry.1).unequipped
  /-- If it is the item in the slot as well, then the bucket lists this item twice. -/
  unworn : ∀ w, (p.contents destination entry.1).equipped = some w → v.sameInstance w = true →
    2 ≤ (p.contents destination entry.1).items.countP (·.sameInstance w)
  untargeted : ∀ j ∈ l.items, j.sameInstance v = false

theorem evicted_of_victim? (made : p.Made) {e : Equipment} (he : p.equipment? destination = some e)
    (arriving : i.owner ≠ some destination) (full : Bucket.capacity ≤ e.occupancy b)
    (h : victim? l e b = some v) : Evicted l destination p (b, i) v := by
  have bucket := Profile.contents_eq he b
  have behind : v ∈ (p.contents destination b).unequipped := by
    rw [← bucket]
    exact List.mem_reverse.mp (List.mem_of_find?_eq_some h)
  refine ⟨arriving, bucket ▸ full, ?_, behind, fun w slot same => ?_, fun j hj => ?_⟩
  · exact made.owner_of_mem (b := b) (List.mem_append_right _ behind)
  · have again : 0 < (p.contents destination b).unequipped.countP (·.sameInstance w) :=
      List.countP_pos_iff.mpr ⟨v, behind, same⟩
    have self : w.sameInstance w = true := by simp [Item.sameInstance]
    rw [Contents.items, slot, Option.toList_some, List.singleton_append, List.countP_cons,
      if_pos self]
    exact Nat.succ_le_succ again
  · have spared := List.find?_some h
    rw [Bool.not_eq_true', List.any_eq_false] at spared
    simpa using spared j hj

/-- What a schedule leaves alone. -/
structure Sparing (l : Loadout) (destination : CharacterId) (p : Profile) : Prop where
  /-- At most one swap for each item that another character wears, in the order of the buckets. -/
  swaps : ∃ worn, worn.Sublist l.entries ∧
    List.Forall₂ (fun e r => e.2.equippedOn r.characterId = true ∧ r.characterId ≠ destination)
      worn (schedule l destination p).swaps
  /-- At most one eviction for each entry, in the order of the buckets. -/
  evictions : ∃ crowded, crowded.Sublist l.entries ∧
    List.Forall₂ (Evicted l destination p) crowded (evictions l destination p)
  /-- What the destination wears is not swapped, not moved and not put on. -/
  worn : ∀ b i, l.get? b = some i → i.equippedOn destination = true →
    schedule (l.erase b) destination p =
      { schedule l destination p with evictions := (schedule (l.erase b) destination p).evictions }

theorem filterMap_entries_erase {β : Type} {f : Bucket × Item → Option β}
    (h : ∀ i, l.get? b = some i → f (b, i) = none) :
    (l.erase b).entries.filterMap f = l.entries.filterMap f := by
  unfold Loadout.entries
  rw [List.filterMap_filterMap, List.filterMap_filterMap]
  refine List.filterMap_congr fun c _ => ?_
  by_cases hc : c = b
  · subst hc
    cases hget : l.get? c with
    | none => simp
    | some i => simp [h i hget]
  · simp [hc]

theorem filter_items_erase {q : Item → Bool} (h : ∀ i, l.get? b = some i → q i = false) :
    (l.erase b).items.filter q = l.items.filter q := by
  unfold Loadout.items
  rw [← List.filterMap_eq_filter, List.filterMap_map, List.filterMap_map]
  exact filterMap_entries_erase fun i hi => by simp [h i hi]

theorem sparing (made : p.Made) (l : Loadout) (destination : CharacterId) :
    Sparing l destination p := by
  constructor
  case swaps =>
    rw [schedule, wornElsewhere, List.filterMap_filterMap]
    refine exists_sublist_forall₂_filterMap ?_
    rintro ⟨b, i⟩ - r hr
    obtain ⟨w, hw, hr⟩ := Option.bind_eq_some_iff.mp hr
    obtain ⟨s, -, rfl⟩ := Option.map_eq_some_iff.mp hr
    cases ho : i.owner with
    | none => simp [ho] at hw
    | some holder =>
      simp only [ho, Option.ite_none_right_eq_some, Bool.and_eq_true, bne_iff_ne] at hw
      obtain ⟨⟨worn, away⟩, hw⟩ := hw
      obtain rfl := Option.some.inj hw
      exact ⟨by simp [Item.equippedOn, Item.ownedBy, worn, ho], away⟩
  case evictions =>
    unfold Equip.evictions
    cases he : p.equipment? destination with
    | none => exact ⟨[], List.nil_sublist _, .nil⟩
    | some e =>
      refine exists_sublist_forall₂_filterMap ?_
      rintro ⟨b, i⟩ - v hv
      simp only [Option.ite_none_left_eq_some, Bool.or_eq_true, not_or, decide_eq_true_eq,
        Nat.not_lt] at hv
      obtain ⟨⟨arriving, full⟩, victim⟩ := hv
      exact evicted_of_victim? made he (by simpa [Item.ownedBy] using arriving) full victim
  case worn =>
    intro b i hget worn
    have same : ∀ j, l.get? b = some j → j.isEquipped = true ∧ j.owner = some destination := by
      intro j hj
      obtain rfl := Option.some.inj (hget.symm.trans hj)
      simpa [Item.equippedOn, Item.ownedBy] using worn
    have swaps : wornElsewhere (l.erase b) destination = wornElsewhere l destination := by
      refine filterMap_entries_erase fun j hj => ?_
      simp [same j hj]
    have moved : Placement.incoming (l.erase b).items (some destination) =
        Placement.incoming l.items (some destination) := by
      refine filter_items_erase fun j hj => ?_
      simp [same j hj]
    have ids : idsToEquip (l.erase b).items destination = idsToEquip l.items destination := by
      unfold idsToEquip
      rw [filter_items_erase fun j hj => ?_]
      simp [Item.equippedOn, Item.ownedBy, same j hj]
    simp only [schedule, swaps, moved, equipRequest?, ids]

/-- **Best effort.** Without a character to put the loadout on there is an error, and nothing is called. For a
character there is always a report, whatever the game replies and in whatever order the calls of a block are made:
they are those of the schedule, in four blocks, each of them made whether or not another was refused, but for the
second hop of an item whose first hop was; and the report is clean iff no call was refused. With one move after the
other, each block is in the order of the buckets. So the calls against any two games differ by such second hops
and by their order within a block alone. The schedule swaps only what others wear, makes room only in full
buckets, and has nothing to do with what the character already wears. -/
theorem loadout_best_effort (made : p.Made) (l : Loadout) (destination : CharacterId) :
    (p.character? destination = none → ∀ {σ : Type} (answer : Dialogue.Answering Game σ) s talk q t,
      (equipping l destination p).Runs answer s talk q t →
        q = .error (.characterNotFound destination) ∧ talk = [] ∧ t = s) ∧
    ((p.character? destination).isSome → ∀ {σ : Type} (answer : Dialogue.Answering Game σ) (s : σ),
      (∀ talk q t, (equipping l destination p).Runs answer s talk q t →
        ∃ (report : Report) (course : Course), q = .ok report ∧ talk = course.talk ∧
          course.Obeys (schedule l destination p) ∧
          (report.isClean = true ↔ ∀ e ∈ talk, e.2.isOk = true)) ∧
      let r := Dialogue.run answer (loadout l destination p) s
      ∃ course : Course, (equipping l destination p).Runs answer s course.talk r.value r.state ∧
        r.calls = course.talk.map (·.1) ∧ course.Obeys (schedule l destination p) ∧ course.InTurn) ∧
    (∀ c c' : Course, c.Obeys (schedule l destination p) → c'.Obeys (schedule l destination p) →
      c.Alike c') ∧
    Sparing l destination p := by
  have sparing := sparing made l destination
  refine ⟨fun missing σ answer s talk q t h => ?_, fun found σ answer s => ?_, fun c c' h h' => h.alike h',
    sparing⟩
  · rw [equipping, Profile.requireCharacter, missing] at h
    cases h
    exact ⟨rfl, rfl, rfl⟩
  obtain ⟨character, found⟩ := Option.isSome_iff_exists.mp found
  have known : p.requireCharacter destination = .ok character := by
    rw [Profile.requireCharacter, found]
  obtain ⟨crowded, -, evicted⟩ := sparing.evictions
  have held : ∀ v ∈ evictions l destination p, v.owner = some destination := by
    have back : List.Forall₂ (fun v e => v.owner = some destination ∧
        Evicted l destination p e v) (evictions l destination p) crowded :=
      .flip (evicted.imp fun e v h => ⟨h.held, h⟩)
    exact ((List.forall₂_and_left _ _).mp back).1
  refine ⟨fun talk q t run => ?_, ?_⟩
  · rcases goes_equipping run.goes with ⟨-, e, failed⟩ | ⟨report, rfl, wears⟩
    · have goes := run.goes
      rw [equipping, known, failed] at goes
      obtain ⟨report, _, _, -, -, last⟩ := Procedure.goes_andThen.mp goes
      obtain ⟨-, same⟩ := Procedure.goes_done.mp last
      cases same
    · obtain ⟨course, rfl, obeys, clean⟩ := goes_wearing held wears
      exact ⟨report, course, rfl, rfl, obeys, clean⟩
  · have run := Procedure.runs_inTurn answer (equipping l destination p) s
    obtain ⟨course, talk, obeys, order⟩ :=
      goes_wear held (Dialogue.goes_exchanges answer (wear l destination p) s)
    have exchanges : Dialogue.exchanges answer (loadout l destination p) s = course.talk := by
      rw [loadout_eq, known]
      simp only [Dialogue.exchanges_andThen, Dialogue.exchanges_done, List.append_nil, talk]
    refine ⟨course, exchanges ▸ run, ?_, obeys, order⟩
    rw [← exchanges, Dialogue.map_fst_exchanges]

/-- Even if the game refuses everything, the titan is made room for what the hunter wears, and the call to
wear it is made. -/
theorem loadout_best_effort_rivals :
    let refuse : Dialogue.Answering Game Unit := fun _ s => (.error (.transport "refused"), s)
    let prize := Loadout.empty.insert .kinetic (sidearm "201" "hunter" true)
    ∀ talk q t, (equipping prize "titan" (Profile.ofItems rivals rivalItems)).Runs refuse () talk q t →
      ∃ (report : Report) (course : Course), q = .ok report ∧ talk = course.talk ∧
        (Dialogue.partOf 0 course.evictions).map (·.1) =
          [.transferItem (Transfer.toVaultRequest ⟨sidearm "110" "titan" false, 1⟩ "titan" 2)] ∧
        course.equip.map (·.1) = [.equipItems ⟨[201], "titan", 2⟩] := by
  intro refuse prize talk q t run
  obtain ⟨-, found, -⟩ := loadout_best_effort (.ofItems rivals rivalItems) prize "titan"
  have titan : ((Profile.ofItems rivals rivalItems).character? "titan").isSome := by
    rw [Profile.character?, List.find?_isSome, Profile.characters_ofItems]
    exact ⟨.veteran "titan" .titan, List.mem_mergeSort.mpr List.mem_cons_self, by decide⟩
  obtain ⟨every, -⟩ := found titan refuse ()
  obtain ⟨report, course, value, made, obeys, -⟩ := every talk q t run
  have evicted : (schedule prize "titan" (Profile.ofItems rivals rivalItems)).evictions =
      [Transfer.toVaultRequest ⟨sidearm "110" "titan" false, 1⟩ "titan" 2] := by decide
  have equipped : (schedule prize "titan" (Profile.ofItems rivals rivalItems)).equip =
      some ⟨[201], "titan", 2⟩ := by decide
  refine ⟨report, course, value, made, obeys.evictions 0 _ (by rw [evicted]; rfl), ?_⟩
  rw [obeys.equip, equipped]
  rfl

/-! ### Two weapons on their way at the same time -/

/-- A weapon that a hunter carries. -/
def spoil (itemHash : Hash) (instanceId : String) : Item := .weapon itemHash instanceId .legendary 600 "hunter" false

/-- Two such weapons. -/
def spoils : List Item := [spoil 1498876634 "301", spoil 2465295065 "302"]

/-- Both of them, for a titan to wear. -/
def spoilsWorn : Loadout := Loadout.ofList ([Bucket.kinetic, .energy].zip spoils)

/-- A game that accepts whatever changes something. -/
def willing : Dialogue.Answering Game Unit
  | .transferItem _, s | .equipItem _, s | .equipItems _, s => (.ok (), s)
  | .currentAccount, s | .loadProfile _, s | .loadProgressions _, s => (.error .noLinkedAccount, s)

/-- The second weapon arrives while the first one is still on its way to the vault. -/
def overtaking : List (Nat × Exchange Game) :=
  let first := Move.mk (spoil 1498876634 "301") 1
  let second := Move.mk (spoil 2465295065 "302") 1
  [(0, ⟨.transferItem (Transfer.toVaultRequest first "hunter" 2), .ok ()⟩),
    (1, ⟨.transferItem (Transfer.toVaultRequest second "hunter" 2), .ok ()⟩),
    (1, ⟨.transferItem (Transfer.fromVaultRequest second "titan" 2), .ok ()⟩),
    (0, ⟨.transferItem (Transfer.fromVaultRequest first "titan" 2), .ok ()⟩)]

theorem runs_moves_spoils :
    (Transfer.batch spoilsWorn.items (some "titan") none 2).Runs willing () (overtaking.map (·.2))
      (.complete (spoils.map (⟨·, 1⟩))) () := by
  have moved : Dialogue.Interleaving willing (spoils.map fun i => Transfer.perform (some "titan") 2 ⟨i, 1⟩)
      () overtaking (spoils.map fun i => Transfer.Result.ofMove ⟨i, 1⟩ .completed) () :=
    .step [] [_] _ _ (.step [_] [] _ _ (.step [_] [] _ _ (.step [] [_] _ _
      (.done (spoils.map fun i => Transfer.Result.ofMove ⟨i, 1⟩ .completed) ()))))
  exact Transfer.runs_batch_iff.mpr ⟨overtaking, rfl, by decide, moved⟩

/-- The second weapon arrives before the first one has left the vault, so the calls are not those of one target after
the other, though none is refused. -/
theorem moves_intertwined :
    let p := Profile.ofItems rivals spoils
    ∃ talk report, (equipping spoilsWorn "titan" p).Runs willing () talk (.ok report) () ∧
      (∀ e ∈ talk, e.2.isOk = true) ∧ talk.map (·.1) ≠ (schedule spoilsWorn "titan" p).calls := by
  intro p
  have member : ∃ ch ∈ p.characters, ch.id = "titan" := by
    rw [Profile.characters_ofItems]
    exact ⟨.veteran "titan" .titan, List.mem_mergeSort.mpr List.mem_cons_self, rfl⟩
  have swapped := Procedure.runs_ofDialogue willing
    (Dialogue.each (fun (b, i, holder) => swap b i holder p) (wornElsewhere spoilsWorn "titan")) ()
  have quiet := Procedure.runs_inTurn willing (Transfer.batch (evictions spoilsWorn "titan" p) none none 2) ()
  have equipped := Procedure.runs_ofDialogue willing (putOn spoilsWorn.items "titan" 2) ()
  rw [equipping_eq_wearing member]
  simp only [wearing, Procedure.bind_eq, Procedure.pure_eq]
  refine ⟨_, _, Procedure.Runs.andThen (swapped.andThen (quiet.andThen (runs_moves_spoils.andThen
    (equipped.andThen (.done _ ()))))) (.done _ ()), ?_, ?_⟩
  · decide
  · decide

end Equip
end Armory
