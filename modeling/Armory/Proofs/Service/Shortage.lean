import Armory.Proofs.Service.Scope

/-! When a request to move items says that there was too little. What it reports is what was planned, if that is less
than what was asked for, and a plan leaves out what is at the destination already. Main statement: for a positive
count, the report says how much there was not to be moved rather than how much there was, so it is right exactly if
nothing of the item is at the destination or there is enough elsewhere (`Service.onlyHad_truthful_iff`). -/
namespace Armory.Service

open Dialogue (Exchange)

variable {items : List Item} {destination : Option CharacterId} {count : Nat}

theorem amountAway_le (destination : Option CharacterId) (items : List Item) :
    amountAway destination items ≤ amount items :=
  sumOf_sublist_le _ List.filter_sublist

/-! ## What is reported -/

/-- A report on a count that fits into a word tells how much is elsewhere, if that is less than what was asked for. -/
theorem onlyHad_summaryOf (p : Profile) (itemName : String) (word : count < Bits.size 32) {membershipType : Int}
    {games : List (Exchange Game)} {report : Transfer.Report}
    (goes : (Transfer.batch items destination (some count) membershipType).Goes games report) :
    (summaryOf p itemName destination (some count) report).onlyHad =
      if amountAway destination items < count then some (amountAway destination items) else none := by
  have planned : report.planned = min count (amountAway destination items) := by
    obtain ⟨-, -, -, balanced⟩ := Transfer.goes_batch goes
    have fits : Transfer.quantity (Transfer.plan items destination (some count)) < Bits.size 32 :=
      (Transfer.quantity_plan_le count rfl).trans_lt word
    rw [(balanced.exact fits).1, (Transfer.fills_plan items destination (some count)).total]
    rfl
  by_cases short : amountAway destination items < count
  · have all : report.planned = amountAway destination items := by omega
    simp [summaryOf, Option.filter, all, short]
  · have enough : report.planned = count := by omega
    simp [summaryOf, Option.filter, enough, short]

/-- What is told of what is elsewhere is right if that is everything, or enough. -/
theorem shortage_eq_iff {elsewhere everything : Nat} (part : elsewhere ≤ everything) :
    (if elsewhere < count then some elsewhere else none) = (if everything < count then some everything else none) ↔
      elsewhere = everything ∨ count ≤ elsewhere := by
  split <;> split <;> simp <;> omega

/-- **A shortage is reported as if what is at the destination did not exist.** Whatever the partners reply, whatever
profile they tell of, and in whatever order the calls for different items come: if a request for a positive count finds
something, it reports how much of the item is at its source and not at its destination, if that is less than the count.
The report is right about how much there is exactly if nothing of it is at the destination, or there is enough
elsewhere. -/
theorem onlyHad_truthful_iff {σ : Type} (c : Catalog) (order : TransferOrder)
    (answer : Dialogue.Answering Service σ) (w : σ) {n : Int} (counted : order.count = some n) (positive : 0 < n)
    {talk : List (Exchange Service)} {summary : TransferSummary} {w' : σ}
    (run : (transferItem c order).procedure.Runs answer w talk (.ok (.found summary)) w') :
    ∃ s hash destination source, Tells talk s ∧ Meant c order s hash destination source ∧
      let items := wantedItems (.assemble s c false) hash source
      let elsewhere := amountAway destination items
      let count := min n.toNat (Bits.size 32 - 1)
      summary.requested = some count ∧ summary.onlyHad = (if elsewhere < count then some elsewhere else none) ∧
      (summary.onlyHad = (if amount items < count then some (amount items) else none) ↔
        elsewhere = amount items ∨ count ≤ elsewhere) := by
  cases resolves_transferItem c order talk _ run.goes with
  | moved told meant known split still goes =>
    rw [counted, requestedQuantity_of_pos positive] at known
    cases known
    rw [itemsToMove_eq_wantedItems] at goes
    have word : min n.toNat (Bits.size 32 - 1) < Bits.size 32 := by
      have some : 0 < Bits.size 32 := by decide
      omega
    refine ⟨_, _, _, _, told, meant, rfl, onlyHad_summaryOf _ _ word goes, ?_⟩
    rw [onlyHad_summaryOf _ _ word goes]
    exact shortage_eq_iff (amountAway_le _ _)

/-- Asked for two hundred from the vault, the report is right that there was only a hundred. -/
theorem onlyHad_truthful_iff_hoard :
    let order : TransferOrder := ⟨"spinmetal", some 200, some "vault", some "warlock"⟩
    ∃ summary s hash destination source,
      (Dialogue.run (partners (keeper hoard)) (transferItem materials order).run ((), .inl {})).value =
        .ok (.found summary) ∧
      Meant materials order s hash destination source ∧ summary.onlyHad = some 100 ∧
      amountAway destination (wantedItems (.assemble s materials false) hash source) = 100 := by
  intro order
  have found : (Dialogue.run (partners (keeper hoard)) (transferItem materials order).run ((), .inl {})).value =
      .ok (.found ⟨"spinmetal", .character "quartermaster" .warlock, some 200, 100, 100, some 100, []⟩) := by
    decide +kernel
  have run := Operation.runs_run (partners (keeper hoard)) (transferItem materials order) ((), .inl {})
  rw [found] at run
  obtain ⟨s, hash, destination, source, -, meant, -, onlyHad, -⟩ :=
    onlyHad_truthful_iff materials order (partners (keeper hoard)) ((), .inl {}) rfl (by decide) run
  refine ⟨_, s, hash, destination, source, found, meant, rfl, ?_⟩
  dsimp only at onlyHad
  split at onlyHad
  · exact (Option.some.inj onlyHad).symm
  · cases onlyHad

/-- A warlock has a hundred and fifty, and a hundred more are in the vault. Asked for two hundred of them to be in the
vault, the report says that there were a hundred and fifty. -/
theorem present_not_counted :
    let order : TransferOrder := ⟨"spinmetal", some 200, none, none⟩
    amount (wantedItems (.assemble hoard materials false) 7 none) = 250 ∧
    materials.itemHash? (materials.itemName order.itemName) = some 7 ∧
    ∃ summary, (Dialogue.run (partners (keeper hoard)) (transferItem materials order).run ((), .inl {})).value =
        .ok (.found summary) ∧ summary.requested = some 200 ∧ summary.onlyHad = some 150 := by
  intro order
  refine ⟨by decide +kernel, by decide +kernel, ⟨"spinmetal", .vault, some 200, 150, 150, some 150, []⟩, ?_, rfl,
    rfl⟩
  decide +kernel

end Armory.Service
