import Armory.Proofs.Gear.AnyOrder
import Armory.Proofs.Gear.Preparation

/-! Putting a loadout on in the simulated game. The plan is made from a profile, and the game changes while it
is carried out; each phase is described by what it makes of the placement that the profile reports. Main
statement: in an orderly profile a realisable loadout ends up worn by its destination without a failed call, in
whatever order the moves are made that are under way at the same time, and no bucket of the destination is overfilled
(`Equip.loadout_realised`). -/
namespace Armory.Equip

variable {p : Profile} {l : Loadout} {destination : CharacterId} {items : List Item}

/-! ## The placement after each phase -/

/-- Room has been made: the targets are where the profile has them, those that others wore are off, and
every bucket that is to receive one has room. -/
structure Cleared (items : List Item) (l : Loadout) (destination : CharacterId)
    (π : Placement) : Prop where
  placed : ∀ i ∈ l.items, (π i).owner = i.owner
  kept : ∀ i ∈ l.items, i.owner = some destination → (π i).worn = i.isEquipped
  off : ∀ i ∈ l.items, ∀ c, i.owner = some c → c ≠ destination → (π i).worn = false
  room : ∀ b i, l.get? b = some i → i.owner ≠ some destination →
    π.carries items destination b < Bucket.capacity
  within : ∀ b, π.carries items destination b ≤ Bucket.capacity

/-- The destination holds every target, and wears those that it wore. -/
structure Gathered (items : List Item) (l : Loadout) (destination : CharacterId)
    (π : Placement) : Prop where
  held : ∀ i ∈ l.items, (π i).owner = some destination
  kept : ∀ i ∈ l.items, i.equippedOn destination = true → (π i).worn = true
  within : ∀ b, π.carries items destination b ≤ Bucket.capacity

/-- The destination wears every target. -/
structure Dressed (items : List Item) (l : Loadout) (destination : CharacterId)
    (π : Placement) : Prop where
  worn : ∀ i ∈ l.items, π i = ⟨some destination, true⟩
  within : ∀ b, π.carries items destination b ≤ Bucket.capacity

theorem Undressed.carries_eq {done : List (Bucket × Item × CharacterId)} {π : Placement}
    (h : Undressed l destination done π) (items : List Item) (b : Bucket) :
    π.carries items destination b = items.countP (·.isIn destination b) := by
  unfold Placement.carries
  apply List.countP_congr
  intro x _
  rw [Placement.isIn_put, h.owners]
  exact Iff.rfl

/-- Off to the vault with what has to make room. -/
theorem Undressed.cleared {π : Placement} {victims : List Item} {only : Item → Item → Bool}
    (h : Undressed l destination (wornElsewhere l destination) π)
    (frees : Frees items l destination victims)
    (sole : ∀ v ∈ victims, Lone (only v) v items)
    (roomy : ∀ b, items.countP (·.isIn destination b) ≤ Bucket.capacity) :
    Cleared items l destination (π.moveAll victims none) := by
  have stays : ∀ i ∈ l.items, π.moveAll victims none i = π i := fun i hi =>
    Placement.moveAll_of_not_mem fun hv => (frees.held i hv).2.2.1 hi
  have before : ∀ b, π.carries items destination b ≤ Bucket.capacity := fun b => by
    rw [h.carries_eq]
    exact roomy b
  have after := Placement.carries_moveAll_none_le π items victims destination
  refine ⟨fun i hi => ?_, fun i hi howner => ?_, fun i hi c hc hne => ?_, fun b i hget away => ?_,
    fun b => Nat.le_trans (after b) (before b)⟩
  · rw [stays i hi, h.owners]
  · rw [stays i hi, h.kept i howner]
  · rw [stays i hi]
    refine h.off i hi c hc hne fun hworn => ?_
    obtain ⟨b, hget⟩ := Loadout.mem_items.mp hi
    exact ⟨b, mem_wornElsewhere.mpr
      ⟨hget, by simp [Item.equippedOn, Item.ownedBy, hworn, hc], hne⟩⟩
  · -- a full bucket has given something away, and any other had room before
    by_cases hfull : Bucket.capacity ≤ items.countP (·.isIn destination b)
    · obtain ⟨v, hv, hin⟩ := frees.full b i hget away hfull
      have there : (π.put v).isIn destination b = true := by
        rw [Placement.isIn_put, h.owners]
        exact hin
      exact Nat.lt_of_lt_of_le (Placement.carries_moveAll_none_lt (sole v hv) hv there) (before b)
    · have hle := after b
      rw [h.carries_eq] at hle
      omega

/-- Everything that is not there yet goes to the destination. -/
theorem Cleared.gathered {π : Placement} (h : Cleared items l destination π)
    (ready : π.Ready items l.items (some destination)) :
    Gathered items l destination
      (π.moveAll (Placement.incoming l.items (some destination)) (some destination)) := by
  have arrives : ∀ i ∈ l.items, i.owner ≠ some destination →
      i ∈ Placement.incoming l.items (some destination) := fun i hi away =>
    List.mem_filter.mpr ⟨hi, by simpa using away⟩
  have stays : ∀ i, i.owner = some destination →
      π.moveAll (Placement.incoming l.items (some destination)) (some destination) i = π i :=
    fun i howner => Placement.moveAll_of_not_mem fun hin => by
      simpa [howner] using (List.mem_filter.mp hin).2
  refine ⟨fun i hi => ?_, fun i hi hworn => ?_, fun b => ready.carries_le (h.within b)⟩
  · by_cases howner : i.owner = some destination
    · rw [stays i howner, h.placed i hi, howner]
    · rw [Placement.moveAll_of_mem (arrives i hi howner)]
  · simp only [Item.equippedOn, Item.ownedBy, Bool.and_eq_true, beq_iff_eq] at hworn
    rw [stays i hworn.2, h.kept i hi hworn.2, hworn.1]

/-- Once all of it is on, every target is worn by the destination. -/
theorem Gathered.dressed {π : Placement} (h : Gathered items l destination π)
    (realisable : Realisable p l destination) :
    Dressed items l destination
      (π.wearAll (l.items.filter fun i => !i.equippedOn destination)) := by
  refine ⟨fun i hi => ?_, fun b => ?_⟩
  rotate_left
  · rw [Placement.carries_wearAll]
    exact h.within b
  have howner := Placement.owner_wearAll π (l.items.filter fun i => !i.equippedOn destination) i
  rw [h.held i hi] at howner
  have hworn : (π.wearAll (l.items.filter fun i => !i.equippedOn destination) i).worn = true := by
    cases hon : i.equippedOn destination with
    | false =>
      have apart := realisable.items_apart.sublist
        (List.filter_sublist (p := fun i => !i.equippedOn destination))
      exact Placement.worn_wearAll apart (List.mem_filter.mpr ⟨hi, by simp [hon]⟩)
    | true =>
      -- it is worn already, and what is put on goes into other buckets
      rw [Placement.wearAll_of_bucketHash_ne, h.kept i hi hon]
      intro x hx hsame
      obtain ⟨hxl, hxon⟩ := List.mem_filter.mp hx
      rw [← realisable.eq_of_bucketHash hi hxl hsame, hon] at hxon
      cases hxon
  rw [← howner, ← hworn]

/-! ## The whole run -/

theorem Undressed.ready {done : List (Bucket × Item × CharacterId)} {π : Placement}
    {victims : List Item} (h : Undressed l destination done π) (orderly : p.Orderly)
    (frees : Frees p.items l destination victims) : π.Ready p.items victims none where
  sole v hv := by
    obtain ⟨hmem, -, -, b, hin⟩ := frees.held v hv
    exact orderly.lone_sameInstance hmem (orderly.gear_instanced hmem (Item.isIn_iff.mp hin).2)
  single v hv := by
    obtain ⟨hmem, -, -, b, hin⟩ := frees.held v hv
    exact orderly.gear_instanced hmem (Item.isIn_iff.mp hin).2
  placed v _ := h.owners v
  unworn v hv c _ _ := by
    obtain ⟨-, hworn, -, b, hin⟩ := frees.held v hv
    rw [h.kept v (Item.isIn_iff.mp hin).1, hworn]
  apart := frees.apart
  room c hc := nomatch hc

theorem Cleared.ready {π : Placement} (h : Cleared p.items l destination π)
    (orderly : p.Orderly) (realisable : Realisable p l destination) :
    π.Ready p.items l.items (some destination) where
  sole i hi := orderly.lone_sameInstance (realisable.mem hi) (realisable.instanced orderly hi)
  single i hi := realisable.instanced orderly hi
  placed := h.placed
  unworn i hi c hc hne := h.off i hi c hc fun e => hne (e ▸ rfl)
  apart := realisable.items_apart
  room c hc i hi away := by
    cases hc
    obtain ⟨b, hget⟩ := Loadout.mem_items.mp hi
    exact ⟨b, (realisable.filed b i hget).2, h.room b i hget away⟩

theorem Frees.incoming_eq {victims : List Item} (h : Frees items l destination victims) :
    Placement.incoming victims none = victims := by
  refine List.filter_eq_self.mpr fun v hv => ?_
  obtain ⟨-, -, -, b, hin⟩ := h.held v hv
  simp [(Item.isIn_iff.mp hin).1]

/-- A batch that can be moved is moved completely, in whatever order its calls are made. -/
theorem delivered_of_runs {s t : Simulation} {π : Placement} {batch : List Item} {o : Option CharacterId}
    {talk : List (Dialogue.Exchange Game)} {report : Transfer.Report} (h : s.Shows items π)
    (free : s.failing = []) (ready : π.Ready items batch o) (membershipType : Int)
    (run : (Transfer.batch batch o none membershipType).Runs Simulation.answer s talk report t) :
    report = .complete (Transfer.plan batch o none) ∧
      t.Shows items (π.moveAll (Placement.incoming batch o) o) ∧ t.failing = [] := by
  obtain ⟨here, -, atOnce⟩ := Transfer.runs_batch_iff.mp run
  have apart : (batch.map (·.bucketHash)).Nodup := List.pairwise_map.mpr ready.apart
  have filed : s.Filed batch := fun i hi j hj same => by
    have alone := h.lone (q := (·.sameInstance i)) (ready.sole i hi) fun _ _ => rfl
    rw [alone.eq_of_mem hj same]
    rfl
  obtain ⟨same, inventory, failing, -⟩ := atOnce.alike_run apart filed
  have inTurn := h.deliver free ready membershipType
  exact ⟨same.trans inTurn.value, inventory.trans inTurn.shows, failing.trans inTurn.free⟩

/-- The last call puts on what is not worn yet, if there is such an item. -/
theorem putOn_run {s : Simulation} {π : Placement} (h : s.Shows p.items π) (free : s.failing = [])
    (orderly : p.Orderly) (realisable : Realisable p l destination)
    (gathered : Gathered p.items l destination π) (membershipType : Int) :
    ∃ equip π', equip.any (·.outcome.isFailure) = false ∧
      Simulation.Ends (Dialogue.run Simulation.answer (putOn l.items destination membershipType) s)
        equip p.items π' ∧
      Dressed p.items l destination π' := by
  have target : ∀ i ∈ l.items.filter fun i => !i.equippedOn destination, i ∈ l.items :=
    fun i hi => (List.mem_filter.mp hi).1
  obtain ⟨t, ht, shows, free'⟩ := h.equipAll free
    (fun i hi id hid => orderly.lone_numericId (realisable.mem (target i hi)) hid)
    (fun i hi => orderly.numbered i (realisable.mem (target i hi))
      (realisable.instanced orderly (target i hi)))
    (fun i hi => gathered.held i (target i hi))
  unfold putOn idsToEquip
  cases hids : (l.items.filter fun i => !i.equippedOn destination).filterMap (·.numericId?) with
  | nil =>
    rw [hids] at ht
    cases ht
    exact ⟨none, _, rfl, ⟨rfl, shows, free'⟩, gathered.dressed realisable⟩
  | cons id ids =>
    rw [hids] at ht
    refine ⟨some ⟨id :: ids, .completed⟩, _, rfl, ?_, gathered.dressed realisable⟩
    simp only [Dialogue.run_ask, Simulation.answer, ht, Dialogue.run_done]
    exact ⟨rfl, shows, free'⟩

/-- The report of a loadout that is put on without a failed call. -/
def Report.complete (l : Loadout) (destination : CharacterId) (p : Profile)
    (equip : Option Batch) : Report where
  evictions := .complete (Transfer.plan (Equip.evictions l destination p) none none)
  swaps := (wornElsewhere l destination).map (replaced p)
  transfers := .complete (Transfer.plan l.items (some destination) none)
  equip

theorem Report.isClean_complete {equip : Option Batch}
    (h : equip.any (·.outcome.isFailure) = false) :
    (complete l destination p equip).isClean = true := by
  have completed : Outcome.completed.isFailure = false := rfl
  simp [isClean, complete, replaced, completed, h]

/-- A loadout was put on in the simulated game: without a failed call, so that each of its items is worn by the
destination, and no bucket of that holds more than it can. -/
structure Realised (l : Loadout) (destination : CharacterId) (q : Except DomainError Report)
    (t : Simulation) : Prop where
  clean : ∃ report, q = .ok report ∧ report.isClean = true
  worn : ∀ i ∈ l.items, t.items.filter (·.sameInstance i) =
    [{ i with owner := some destination, isEquipped := true }]
  within : ∀ b, t.items.countP (·.isIn destination b) ≤ Bucket.capacity

/-- **The four phases** one after the other, each of them in whatever order its calls are made. -/
theorem wearing_ends {characters : List Character} {talk : List (Dialogue.Exchange Game)} {report : Report}
    {t : Simulation} (orderly : (Profile.ofItems characters items).Orderly)
    (realisable : Realisable (Profile.ofItems characters items) l destination)
    (member : ∃ c ∈ (Profile.ofItems characters items).characters, c.id = destination)
    (roomy : ∀ b, items.countP (·.isIn destination b) ≤ Bucket.capacity)
    (run : (wearing l destination (Profile.ofItems characters items)).Runs Simulation.answer
      (Simulation.ofProfile (Profile.ofItems characters items)) talk report t) :
    report.isClean = true ∧ ∃ π, t.Shows items π ∧ Dressed items l destination π := by
  have hitems := Profile.items_ofItems characters items
  have frees := evictions_free orderly realisable member
  -- from here on only the items of the profile count, not how it was built
  generalize Profile.ofItems characters items = p at *
  subst hitems
  simp only [wearing, Procedure.bind_eq, Procedure.pure_eq] at run
  obtain ⟨swaps, u, _, _, -, swap, run⟩ := Procedure.runs_andThen.mp run
  obtain ⟨evicted, v, _, _, -, evict, run⟩ := Procedure.runs_andThen.mp run
  obtain ⟨moved, w, _, _, -, move, run⟩ := Procedure.runs_andThen.mp run
  obtain ⟨equip, x, _, _, -, put, run⟩ := Procedure.runs_andThen.mp run
  obtain ⟨-, rfl, rfl⟩ := Procedure.runs_done.mp run
  obtain ⟨-, rfl, rfl⟩ := Procedure.runs_ofDialogue_iff.mp swap
  obtain ⟨-, rfl, rfl⟩ := Procedure.runs_ofDialogue_iff.mp put
  obtain ⟨π, swapped, undressed⟩ := (Simulation.shows_ofProfile p).replace rfl orderly realisable
  have ready := undressed.ready orderly frees
  obtain ⟨rfl, shows, free⟩ := delivered_of_runs swapped.shows swapped.free ready p.membershipType evict
  rw [frees.incoming_eq] at shows
  have cleared := undressed.cleared frees ready.sole roomy
  have ready' := cleared.ready orderly realisable
  obtain ⟨rfl, shows, free⟩ := delivered_of_runs shows free ready' p.membershipType move
  have gathered := cleared.gathered ready'
  obtain ⟨equip, π', hequip, ends, dressed⟩ :=
    putOn_run shows free orderly realisable gathered p.membershipType
  rw [swapped.value, ends.value]
  exact ⟨Report.isClean_complete hequip, π', ends.shows, dressed⟩

theorem realised_of_runs {characters : List Character} {talk : List (Dialogue.Exchange Game)}
    {q : Except DomainError Report} {t : Simulation}
    (orderly : (Profile.ofItems characters items).Orderly)
    (realisable : Realisable (Profile.ofItems characters items) l destination)
    (member : ∃ c ∈ (Profile.ofItems characters items).characters, c.id = destination)
    (roomy : ∀ b, items.countP (·.isIn destination b) ≤ Bucket.capacity)
    (run : (equipping l destination (Profile.ofItems characters items)).Runs Simulation.answer
      (Simulation.ofProfile (Profile.ofItems characters items)) talk q t) : Realised l destination q t := by
  obtain ⟨c, hc⟩ := Profile.exists_requireCharacter member
  rw [equipping, hc] at run
  obtain ⟨report, u, _, _, -, worn, last⟩ := Procedure.runs_andThen.mp run
  obtain ⟨-, rfl, rfl⟩ := Procedure.runs_done.mp last
  obtain ⟨clean, π, shows, dressed⟩ := wearing_ends orderly realisable member roomy worn
  have hitems := Profile.items_ofItems characters items
  refine ⟨⟨report, rfl, clean⟩, fun i hi => ?_, fun b => ?_⟩
  · have only : Lone (·.sameInstance i) i items := by
      have h := orderly.lone_sameInstance (realisable.mem hi) (realisable.instanced orderly hi)
      rwa [hitems] at h
    have alone := shows.lone (q := (·.sameInstance i)) only fun _ _ => rfl
    rw [Placement.put, dressed.worn i hi] at alone
    exact alone
  · have count := shows.countP_eq (·.isIn destination b)
    rw [List.countP_map] at count
    rw [count]
    exact dressed.within b

/-- **A realisable loadout is realised**, with one move after the other as well as in whatever order the calls of
the evictions, and then those of the moves, are made. -/
theorem loadout_realised (characters : List Character) (items : List Item) (l : Loadout)
    (destination : CharacterId)
    (orderly : (Profile.ofItems characters items).Orderly)
    (realisable : Realisable (Profile.ofItems characters items) l destination)
    (member : ∃ c ∈ (Profile.ofItems characters items).characters, c.id = destination)
    (roomy : ∀ b, items.countP (·.isIn destination b) ≤ Bucket.capacity) :
    let p := Profile.ofItems characters items
    let r := Dialogue.run Simulation.answer (loadout l destination p) (Simulation.ofProfile p)
    Realised l destination r.value r.state ∧
      ∀ talk q t, (equipping l destination p).Runs Simulation.answer (Simulation.ofProfile p) talk q t →
        Realised l destination q t := by
  intro p r
  have every : ∀ talk q t, (equipping l destination p).Runs Simulation.answer (Simulation.ofProfile p) talk q t →
      Realised l destination q t :=
    fun _ _ _ run => realised_of_runs orderly realisable member roomy run
  exact ⟨every _ _ _ (Procedure.runs_inTurn Simulation.answer _ _), every⟩

/-! ### A full bucket and a rival -/

/-- A kinetic weapon of a character. -/
def sidearm (id : String) (holder : CharacterId) (worn : Bool) : Item :=
  .weapon 1498876634 id .legendary 600 holder worn

/-- The items of a titan whose bucket is full, and of a hunter who wears one of two weapons. -/
def rivalItems : List Item :=
  [sidearm "101" "titan" true, sidearm "102" "titan" false, sidearm "103" "titan" false,
   sidearm "104" "titan" false, sidearm "105" "titan" false, sidearm "106" "titan" false,
   sidearm "107" "titan" false, sidearm "108" "titan" false, sidearm "109" "titan" false,
   sidearm "110" "titan" false, sidearm "201" "hunter" true, sidearm "202" "hunter" false]

/-- The two of them. -/
def rivals : List Character := [.veteran "titan" .titan, .veteran "hunter" .hunter]

theorem orderly_rivals : (Profile.ofItems rivals rivalItems).Orderly := by
  constructor
  · rw [Profile.items_ofItems]
    decide
  · rw [Profile.items_ofItems]
    decide
  · rw [Profile.items_ofItems]
    decide
  · rw [Profile.items_ofItems, Profile.characters_ofItems]
    intro c hc b
    have one : ∀ c ∈ rivals, ∀ b ∈ Bucket.all,
        rivalItems.countP (fun i => i.isIn c.id b && i.isEquipped) ≤ 1 := by decide
    exact one c (List.mem_mergeSort.mp hc) b (Bucket.mem_all b)

/-- What the hunter wears can go to the titan, as the hunter has something else to wear. -/
theorem realisable_rivals :
    Realisable (Profile.ofItems rivals rivalItems)
      (Loadout.empty.insert .kinetic (sidearm "201" "hunter" true)) "titan" := by
  constructor
  · intro b i hget
    rw [Loadout.get?_insert, Loadout.get?_empty, Option.ite_none_right_eq_some] at hget
    obtain ⟨rfl, hi⟩ := hget
    cases hi
    rw [Profile.items_ofItems]
    decide
  · intro b i holder hget hworn _
    rw [Loadout.get?_insert, Loadout.get?_empty, Option.ite_none_right_eq_some] at hget
    obtain ⟨rfl, hi⟩ := hget
    cases hi
    obtain rfl : "hunter" = holder := by
      simpa [sidearm, Item.weapon, Item.equippedOn, Item.ownedBy] using hworn
    refine ⟨sidearm "202" "hunter" false, ?_, rfl, rfl, by decide, rfl, fun _ _ => rfl, rfl,
      by decide⟩
    rw [Profile.items_ofItems]
    decide

/-- The titan ends up with the weapon that the hunter wore, and still has a bucket of ten. -/
theorem loadout_realised_rivals :
    let prize := sidearm "201" "hunter" true
    let r := Dialogue.run Simulation.answer
      (loadout (Loadout.empty.insert .kinetic prize) "titan" (Profile.ofItems rivals rivalItems))
      (Simulation.ofProfile (Profile.ofItems rivals rivalItems))
    (∃ report, r.value = .ok report ∧ report.isClean = true) ∧
      r.state.items.filter (·.sameInstance prize) =
        [{ prize with owner := some "titan", isEquipped := true }] ∧
      r.state.items.countP (·.isIn "titan" .kinetic) ≤ Bucket.capacity := by
  have member : ∃ c ∈ (Profile.ofItems rivals rivalItems).characters, c.id = "titan" := by
    rw [Profile.characters_ofItems]
    exact ⟨.veteran "titan" .titan, List.mem_mergeSort.mpr List.mem_cons_self, rfl⟩
  have roomy : ∀ b, rivalItems.countP (·.isIn "titan" b) ≤ Bucket.capacity := by
    have all : ∀ b ∈ Bucket.all, rivalItems.countP (·.isIn "titan" b) ≤ Bucket.capacity := by
      decide
    exact fun b => all b (Bucket.mem_all b)
  obtain ⟨realised, -⟩ := loadout_realised _ _ _ _ orderly_rivals realisable_rivals member roomy
  exact ⟨realised.clean, realised.worn _ (by decide), realised.within .kinetic⟩

end Armory.Equip
