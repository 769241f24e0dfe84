import Armory.Proofs.Dialogue.Together
import Armory.Proofs.Gear.Delivery

/-! What a batch of moves amounts to. A plan takes items in their order until the quantity asked for is
reached; every planned move then makes its own calls, and the report says of each how it ended. Main
statement: whatever the replies are, the quantities of plan and report agree, and no move has anything to do
with the calls and the outcome of another (`Transfer.batch_accounting`). -/
namespace Armory.Transfer

variable {items : List Item} {destination : Option CharacterId} {count : Option Nat}
  {moves : List Move} {i : Item}

/-! ## Planning -/

/-- Moves that take items in their order until a quantity is reached, if one is given. -/
structure Fills (items : List Item) (count : Option Nat) (moves : List Move) : Prop where
  /-- There is one move for each of the first items. -/
  taken : moves.map (·.item) = items.take moves.length
  /-- An item is among them iff the items before it do not reach the quantity. -/
  reached : ∀ k < items.length,
    k < moves.length ↔ ∀ n ∈ count, sumOf (·.quantity) (items.take k) < n
  /-- Every item but the last one is moved whole. -/
  whole : ∀ k m, moves[k]? = some m → k + 1 < moves.length → m.quantity = m.item.quantity
  part : ∀ m ∈ moves, m.quantity ≤ m.item.quantity
  total : Transfer.quantity moves =
    count.elim (sumOf (·.quantity) items) (min · (sumOf (·.quantity) items))
  /-- At no time has more been planned than the quantity. -/
  within : ∀ n ∈ count, ∀ k, Transfer.quantity (moves.take k) ≤ n

namespace Fills

theorem nil (count : Option Nat) : Fills [] count [] where
  taken := rfl
  reached k hk := nomatch hk
  whole k m h := nomatch h
  part m h := nomatch h
  total := by cases count <;> simp [Transfer.quantity, sumOf]
  within n _ k := by simp [Transfer.quantity, sumOf]

theorem full (items : List Item) : Fills items (some 0) [] where
  taken := rfl
  reached k _ := by simp
  whole k m h := nomatch h
  part m h := nomatch h
  total := by simp [Transfer.quantity, sumOf]
  within n _ k := by simp [Transfer.quantity, sumOf]

/-- The first item is taken, and the rest of the items fills the rest of the quantity. -/
theorem cons (h : Fills items (count.map fun n => n - min i.quantity n) moves)
    (short : count ≠ some 0) :
    Fills (i :: items) count (⟨i, count.elim i.quantity (min i.quantity)⟩ :: moves) where
  taken := by simp [h.taken]
  reached k hk := by
    cases k with
    | zero =>
      cases count with
      | none => simp
      | some n =>
        have pos : 0 < n := Nat.pos_of_ne_zero fun e => short (e ▸ rfl)
        simpa [sumOf] using pos
    | succ k =>
      have rest := h.reached k (by simpa using hk)
      cases count with
      | none => simpa using rest
      | some n =>
        have bound : sumOf (·.quantity) (items.take k) < n - min i.quantity n ↔
            i.quantity + sumOf (·.quantity) (items.take k) < n := by omega
        simpa [sumOf, bound] using rest
  whole k m hm hk := by
    cases k with
    | succ k => exact h.whole k m (by simpa using hm) (by simpa using hk)
    | zero =>
      simp only [List.getElem?_cons_zero, Option.some.injEq] at hm
      subst hm
      cases count with
      | none => rfl
      | some n =>
        -- the next item was reached, so this one left something of the quantity
        have more : 0 < moves.length := by simpa using hk
        have some_left : 0 < items.length := by
          have hlen := congrArg List.length h.taken
          simp only [List.length_map, List.length_take] at hlen
          omega
        have left := (h.reached 0 some_left).mp more _ rfl
        simp only [List.take_zero, sumOf] at left
        show min i.quantity n = i.quantity
        omega
  part m hm := by
    rcases List.mem_cons.mp hm with rfl | hm
    · cases count with
      | none => exact Nat.le_refl _
      | some n => exact Nat.min_le_left _ _
    · exact h.part m hm
  total := by
    have rest := h.total
    cases count with
    | none => simpa [Transfer.quantity, sumOf] using rest
    | some n =>
      simp only [Option.map_some, Option.elim_some, Transfer.quantity, sumOf] at rest ⊢
      omega
  within n hn k := by
    cases k with
    | zero => exact Nat.zero_le _
    | succ k =>
      obtain rfl : count = some n := hn
      have rest := h.within _ rfl k
      simp only [List.take_succ_cons, Transfer.quantity, sumOf, Option.elim_some] at rest ⊢
      omega

end Fills

theorem planFrom_skip (count : Option Nat) (rest : List Item) (there : i.owner = destination) :
    planFrom destination count (i :: rest) = planFrom destination count rest := by
  match count with
  | none => simp [planFrom, there]
  | some 0 => cases rest <;> simp [planFrom]
  | some (n + 1) => simp [planFrom, there]

theorem planFrom_take (rest : List Item) (short : count ≠ some 0) (away : i.owner ≠ destination) :
    planFrom destination count (i :: rest) =
      ⟨i, count.elim i.quantity (min i.quantity)⟩ ::
        planFrom destination (count.map fun n => n - min i.quantity n) rest := by
  match count with
  | none => simp [planFrom, away]
  | some 0 => exact absurd rfl short
  | some (n + 1) => simp [planFrom, away]

/-- **A plan** takes the items that are not at the destination, in their order, until the quantity asked
for is reached. -/
theorem fills_plan (items : List Item) (destination : Option CharacterId) (count : Option Nat) :
    Fills (Placement.incoming items destination) count (plan items destination count) := by
  unfold plan
  induction items generalizing count with
  | nil =>
    have none_left : planFrom destination count [] = [] := by simp [planFrom]
    rw [none_left]
    exact .nil count
  | cons i rest ih =>
    by_cases there : i.owner = destination
    · rw [planFrom_skip count rest there]
      simpa [Placement.incoming, there] using ih count
    · by_cases short : count = some 0
      · subst short
        simpa [planFrom] using Fills.full _
      · rw [planFrom_take rest short there]
        have next := (ih (count.map fun n => n - min i.quantity n)).cons short
        simpa [Placement.incoming, there] using next

/-- Nothing is planned for nothing: where every item has a quantity, so has every move. -/
theorem quantity_pos_of_mem_plan (pos : ∀ i ∈ items, 0 < i.quantity) :
    ∀ m ∈ plan items destination count, 0 < m.quantity := by
  unfold plan
  induction items generalizing count with
  | nil => simp [planFrom]
  | cons i rest ih =>
    obtain ⟨first, pos⟩ := List.forall_mem_cons.mp pos
    by_cases there : i.owner = destination
    · rw [planFrom_skip count rest there]
      exact ih pos
    · by_cases short : count = some 0
      · subst short
        simp [planFrom]
      · rw [planFrom_take rest short there]
        refine List.forall_mem_cons.mpr ⟨?_, ih pos⟩
        cases count with
        | none => exact first
        | some n =>
          have asked : 0 < n := Nat.pos_of_ne_zero fun e => short (e ▸ rfl)
          exact Nat.lt_min.mpr ⟨first, asked⟩

/-! ## One move -/

/-- The calls of a move if none of them fails: to the vault if a character holds the item, and from the
vault if a character is to have it. -/
def route (destination : Option CharacterId) (membershipType : Int) (m : Move) :
    List (Stage × TransferRequest) :=
  (m.item.owner.toList.map fun holder => (.toVault, toVaultRequest m holder membershipType)) ++
    destination.toList.map fun receiver => (.fromVault, fromVaultRequest m receiver membershipType)

/-- The calls of a route are made one after the other until one fails, and the outcome says which one. -/
inductive Follows : List (Stage × TransferRequest) → List (Dialogue.Exchange Game) → Outcome → Prop
  | arrived : Follows [] [] .completed
  | onward {stage : Stage} {r : TransferRequest} {rest : List (Stage × TransferRequest)}
      {talk : List (Dialogue.Exchange Game)} {outcome : Outcome} (h : Follows rest talk outcome) :
      Follows ((stage, r) :: rest) (⟨.transferItem r, .ok ()⟩ :: talk) outcome
  | stopped {stage : Stage} {r : TransferRequest} {rest : List (Stage × TransferRequest)}
      {e : GameError} :
      Follows ((stage, r) :: rest) [⟨.transferItem r, .error e⟩] (.failed stage e.message)

/-- A move succeeds iff all of its calls do. -/
theorem Follows.completed_iff {calls : List (Stage × TransferRequest)}
    {talk : List (Dialogue.Exchange Game)} {outcome : Outcome} (h : Follows calls talk outcome) :
    outcome = .completed ↔ ∀ x ∈ talk, x.2.isOk = true := by
  induction h with
  | arrived => simp
  | onward _ ih => simpa [Except.isOk, Except.toBool] using ih
  | stopped => simp [Except.isOk, Except.toBool]

/-- A route of one hop has one call. -/
theorem Follows.calls_one {hop : Stage × TransferRequest} {talk : List (Dialogue.Exchange Game)}
    {outcome : Outcome} (h : Follows [hop] talk outcome) :
    talk.map (·.1) = [.transferItem hop.2] := by
  cases h with
  | onward rest =>
    cases rest
    rfl
  | stopped => rfl

/-- A route of two hops has two calls, or only the first of them if that one is refused. -/
theorem Follows.calls_two {first second : Stage × TransferRequest}
    {talk : List (Dialogue.Exchange Game)} {outcome : Outcome}
    (h : Follows [first, second] talk outcome) :
    talk.map (·.1) = [.transferItem first.2, .transferItem second.2] ∨
      ∃ e, talk = [⟨.transferItem first.2, .error e⟩] := by
  cases h with
  | onward rest =>
    rw [List.map_cons, rest.calls_one]
    exact .inl rfl
  | stopped => exact .inr ⟨_, rfl⟩

theorem follows_hop {stage : Stage} {r : TransferRequest} {rest : List (Stage × TransferRequest)}
    {next : Dialogue Game Outcome}
    (later : ∀ {talk outcome}, next.Goes talk outcome → Follows rest talk outcome)
    {talk : List (Dialogue.Exchange Game)} {outcome : Outcome}
    (h : (hop stage r next).Goes talk outcome) : Follows ((stage, r) :: rest) talk outcome := by
  obtain ⟨reply, talk, rfl, hrest⟩ := Dialogue.goes_ask.mp h
  cases reply with
  | ok u => exact .onward (later hrest)
  | error e =>
    obtain ⟨rfl, rfl⟩ := Dialogue.goes_done.mp hrest
    exact .stopped

/-- **A move follows its route**, whatever the replies are. -/
theorem follows_carry {m : Move} {membershipType : Int} {talk : List (Dialogue.Exchange Game)}
    {outcome : Outcome} (h : (carry m destination membershipType).Goes talk outcome) :
    Follows (route destination membershipType m) talk outcome := by
  have arrives : ∀ {talk outcome}, (Dialogue.done (I := Game) Outcome.completed).Goes talk outcome →
      Follows [] talk outcome := fun h => by
    obtain ⟨rfl, rfl⟩ := Dialogue.goes_done.mp h
    exact .arrived
  have delivers : ∀ {talk outcome}, (deliver m destination membershipType).Goes talk outcome →
      Follows (destination.toList.map fun receiver =>
        (.fromVault, fromVaultRequest m receiver membershipType)) talk outcome := fun h => by
    cases destination with
    | none => exact arrives h
    | some receiver => exact follows_hop arrives h
  unfold carry at h
  unfold route
  cases ho : m.item.owner with
  | none =>
    rw [ho] at h
    exact delivers h
  | some holder =>
    rw [ho] at h
    exact follows_hop delivers h

theorem follows_perform {m : Move} {membershipType : Int} {talk : List (Dialogue.Exchange Game)}
    {r : Result} (h : (perform destination membershipType m).Goes talk r) :
    ∃ outcome, r = .ofMove m outcome ∧ Follows (route destination membershipType m) talk outcome := by
  obtain ⟨outcome, first, second, rfl, hcarry, hdone⟩ := Dialogue.goes_andThen.mp h
  obtain ⟨rfl, rfl⟩ := Dialogue.goes_done.mp hdone
  exact ⟨outcome, rfl, by simpa using follows_carry hcarry⟩

/-! ## Batches -/

section Batch

variable {σ : Type} {membershipType : Int} {report : Report} {results : List Result}
  {talk : List (Nat × Dialogue.Exchange Game)} {s t : σ}

/-- Moves have been carried out, whatever came in between: each has followed its route, and the results say in
the order of the moves how each of them did. -/
structure Carried (destination : Option CharacterId) (membershipType : Int) (moves : List Move)
    (results : List Result) (talk : List (Nat × Dialogue.Exchange Game)) : Prop where
  /-- There is one result for each move. -/
  entries : results.length = moves.length
  followed : ∀ k m, moves[k]? = some m → ∃ outcome, results[k]? = some (.ofMove m outcome) ∧
    Follows (route destination membershipType m) (Dialogue.partOf k talk) outcome
  /-- No other calls are made. -/
  only : ∀ e ∈ talk, e.1 < moves.length

theorem carried_of_abreast
    (h : Dialogue.Abreast (moves.map (perform destination membershipType)) talk results) :
    Carried destination membershipType moves results talk := by
  refine ⟨by simpa using h.length_eq, fun k m hm => ?_, fun e he => by simpa using h.lt_length e he⟩
  obtain ⟨r, hr, goes⟩ := h.goes (k := k) (by rw [List.getElem?_map, hm]; rfl)
  obtain ⟨outcome, rfl, follows⟩ := follows_perform goes
  exact ⟨outcome, hr, follows⟩

namespace Carried

/-- The results make up the quantity of the moves. -/
theorem sum (h : Carried destination membershipType moves results talk) :
    sumOf (·.quantity) results = Transfer.quantity moves := by
  have same : results.map (·.quantity) = moves.map (·.quantity) := by
    apply List.ext_getElem?
    intro k
    rw [List.getElem?_map, List.getElem?_map]
    cases hm : moves[k]? with
    | none =>
      have out := List.getElem?_eq_none_iff.mp hm
      rw [← h.entries] at out
      rw [List.getElem?_eq_none_iff.mpr out]
      rfl
    | some m =>
      obtain ⟨outcome, hr, -⟩ := h.followed k m hm
      rw [hr]
      rfl
  calc sumOf (·.quantity) results
      = sumOf id (results.map (·.quantity)) := (sumOf_map id _ _).symm
    _ = sumOf id (moves.map (·.quantity)) := by rw [same]
    _ = Transfer.quantity moves := sumOf_map id _ _

/-- No move is reported as failed iff no call is refused. -/
theorem isCompleted_iff (h : Carried destination membershipType moves results talk) :
    (∀ r ∈ results, r.isCompleted = true) ↔ ∀ e ∈ talk, e.2.2.isOk = true := by
  have own : ∀ k m, moves[k]? = some m → ∃ r, results[k]? = some r ∧
      (r.isCompleted = true ↔ ∀ x ∈ Dialogue.partOf k talk, x.2.isOk = true) := by
    intro k m hm
    obtain ⟨outcome, hr, follows⟩ := h.followed k m hm
    exact ⟨_, hr, beq_iff_eq.trans follows.completed_iff⟩
  constructor
  · intro completed e he
    obtain ⟨r, hr, iff⟩ := own e.1 _ (List.getElem?_eq_getElem (h.only e he))
    exact iff.mp (completed r (List.mem_of_getElem? hr)) e.2 (Dialogue.mem_partOf.mpr he)
  · intro accepted r hr
    obtain ⟨k, hk⟩ := List.getElem?_of_mem hr
    have bound : k < moves.length := h.entries ▸ (List.getElem?_eq_some_iff.mp hk).1
    obtain ⟨r', hr', iff⟩ := own k _ (List.getElem?_eq_getElem bound)
    obtain rfl := Option.some.inj (hk.symm.trans hr')
    exact iff.mpr fun x hx => accepted _ (Dialogue.mem_partOf.mp hx)

end Carried

/-- The totals of a report on moves of a quantity. They are kept in 32 bits, and are right if the quantity fits
into these. -/
structure Report.Balanced (r : Report) (quantity : Nat) : Prop where
  planned : r.planned = Bits.wrap 32 quantity
  added : r.planned = Bits.wrap 32 (r.confirmed + sumOf (·.quantity) r.failures)
  exact : quantity < Bits.size 32 →
    r.planned = quantity ∧ r.confirmed + sumOf (·.quantity) r.failures = quantity

/-- Results that make up a quantity balance a report that has planned it. -/
theorem Report.balanced_of_sum {r : Report} {quantity : Nat}
    (planned : r.planned = Bits.wrap 32 quantity) (sum : sumOf (·.quantity) r.results = quantity) :
    r.Balanced quantity := by
  have whole : sumOf (·.quantity) (r.results.filter (·.isCompleted)) +
      sumOf (·.quantity) r.failures = quantity :=
    (sumOf_filter_add_filter_not _ _ _).trans sum
  refine ⟨planned, ?_, fun fits => ⟨planned.trans (Bits.wrap_of_lt fits), ?_⟩⟩
  · rw [Report.confirmed, Bits.wrap_wrap_add, whole, planned]
  · rwa [Report.confirmed, Bits.wrap_of_lt (by omega)]

theorem Report.Balanced.planned_le {r : Report} {quantity : Nat} (h : r.Balanced quantity) :
    r.planned ≤ quantity := by
  rw [h.planned]
  exact Bits.wrap_le 32 quantity

/-- **A batch carries out its plan**, in whatever order its calls are made. -/
theorem goes_batch {count : Option Nat} {talk : List (Dialogue.Exchange Game)}
    (h : (batch items destination count membershipType).Goes talk report) :
    ∃ here, talk = here.map (·.2) ∧
      Carried destination membershipType (plan items destination count) report.results here ∧
      report.Balanced (Transfer.quantity (plan items destination count)) := by
  obtain ⟨here, results, rest, rfl, abreast, last⟩ := Procedure.goes_together.mp h
  obtain ⟨rfl, rfl⟩ := Procedure.goes_done.mp last
  have carried := carried_of_abreast abreast
  exact ⟨here, List.append_nil _, carried, Report.balanced_of_sum rfl carried.sum⟩

/-- A batch whose moves are under way at the same time, from a state up to its report. -/
structure AtOnce (answer : Dialogue.Answering Game σ) (items : List Item)
    (destination : Option CharacterId) (count : Option Nat) (membershipType : Int) (s : σ)
    (report : Report) (talk : List (Nat × Dialogue.Exchange Game)) (t : σ) : Prop where
  planned : report.planned = Bits.wrap 32 (Transfer.quantity (plan items destination count))
  moved : Dialogue.Interleaving answer
    ((plan items destination count).map (perform destination membershipType)) s talk report.results t

/-- The runs of a batch are its moves, under way at the same time. -/
theorem runs_batch_iff {answer : Dialogue.Answering Game σ} {items : List Item}
    {talk : List (Dialogue.Exchange Game)} :
    (batch items destination count membershipType).Runs answer s talk report t ↔
      ∃ here, talk = here.map (·.2) ∧
        AtOnce answer items destination count membershipType s report here t := by
  constructor
  · intro h
    cases h with
    | together moved rest =>
      cases rest
      exact ⟨_, List.append_nil _, rfl, moved⟩
  · rintro ⟨here, rfl, planned, moved⟩
    obtain ⟨total, results⟩ := report
    obtain rfl : total = _ := planned
    have run : (batch items destination count membershipType).Runs answer s (here.map (·.2) ++ [])
        ⟨_, results⟩ t := .together moved (.done _ t)
    rwa [List.append_nil] at run

/-- To carry the moves out one after the other is one of the ways. -/
theorem atOnce_run (answer : Dialogue.Answering Game σ) (items : List Item)
    (destination : Option CharacterId) (count : Option Nat) (membershipType : Int) (s : σ) :
    let r := Dialogue.run answer (run items destination count membershipType) s
    ∃ talk, AtOnce answer items destination count membershipType s r.value talk r.state ∧
      talk.map (·.2) =
        Dialogue.exchanges answer (run items destination count membershipType) s := by
  obtain ⟨talk, same, atOnce⟩ := runs_batch_iff.mp
    (Procedure.runs_inTurn answer (batch items destination count membershipType) s)
  exact ⟨talk, atOnce, same.symm⟩

/-- What a report says of a batch of moves whose calls get fixed replies, and which calls they make. -/
structure Accounted (reply : (c : Game.Call) → Game.Reply c) (destination : Option CharacterId)
    (membershipType : Int) (moves : List Move) (report : Report)
    (talk : List (Nat × Dialogue.Exchange Game)) : Prop where
  carried : Carried destination membershipType moves report.results talk
  /-- Each move makes the calls and ends with the entry that it would have if it were the only one. -/
  alone : ∀ k m, moves[k]? = some m →
    Dialogue.partOf k talk =
        Dialogue.exchanges (Dialogue.fixed reply) (perform destination membershipType m) () ∧
      report.results[k]? =
        some (Dialogue.run (Dialogue.fixed reply) (perform destination membershipType m) ()).value
  sum : sumOf (·.quantity) report.results = Transfer.quantity moves
  totals : report.Balanced (Transfer.quantity moves)

theorem AtOnce.carried {answer : Dialogue.Answering Game σ}
    (h : AtOnce answer items destination count membershipType s report talk t) :
    Carried destination membershipType (plan items destination count) report.results talk :=
  carried_of_abreast h.moved.abreast

theorem AtOnce.accounted {reply : (c : Game.Call) → Game.Reply c} {change : Game.Call → σ → σ}
    (h : AtOnce (fun c s => (reply c, change c s)) items destination count membershipType s report
      talk t) :
    Accounted reply destination membershipType (plan items destination count) report talk := by
  refine ⟨h.carried, fun k m hm => ?_, h.carried.sum, Report.balanced_of_sum h.planned h.carried.sum⟩
  obtain ⟨r, hr, goes⟩ := h.moved.goes (k := k) (by rw [List.getElem?_map, hm]; rfl)
  have replies : ∀ x ∈ Dialogue.partOf k talk, x.2 = reply x.1 := by
    intro x hx
    obtain ⟨u, hu⟩ := h.moved.replies (Dialogue.mem_partOf.mp hx)
    exact hu
  obtain ⟨same, value⟩ := goes.unique replies
  exact ⟨same, by rw [hr, value]⟩

/-- **Transfers add up, and failures stay apart.** Of the items that are not at the destination a batch takes
those that it needs, in their order, all but the last of them whole; so the planned quantity is the one
asked for or all that there is, and is never exceeded on the way. Against a game whose replies depend only
on the call, whether the moves are carried out one after the other or at the same time, the report has an
entry for each of them, its quantities make up the planned one, and each move makes its own calls and ends
as if there were no other. The totals of the report are right as long as they fit into 32 bits. -/
theorem batch_accounting (reply : (c : Game.Call) → Game.Reply c) (change : Game.Call → σ → σ)
    (items : List Item) (destination : Option CharacterId) (count : Option Nat)
    (membershipType : Int) (s : σ) :
    let answer : Dialogue.Answering Game σ := fun c s => (reply c, change c s)
    let batch := run items destination count membershipType
    let moves := plan items destination count
    Fills (Placement.incoming items destination) count moves ∧
      (∀ report talk t, AtOnce answer items destination count membershipType s report talk t →
        Accounted reply destination membershipType moves report talk) ∧
      ∃ talk, talk.map (·.2) = Dialogue.exchanges answer batch s ∧
        Accounted reply destination membershipType moves (Dialogue.run answer batch s).value talk := by
  intro answer batch moves
  refine ⟨fills_plan items destination count, fun report talk t h => h.accounted, ?_⟩
  obtain ⟨talk, atOnce, same⟩ := atOnce_run answer items destination count membershipType s
  exact ⟨talk, same, atOnce.accounted⟩

end Batch

end Armory.Transfer
