import Armory.Proofs.Item.Choice

/-! Ties in the choice of an item. Among the most powerful items of a bucket the scan moves on to a nearer one,
where worn is nearer than held, held nearer than in the vault, and the vault nearer than another character; but it
never leaves an item in the vault (`Item.preferred_eq`). Main statement: the choice is the first of the nearest ties,
except where a tie in the vault stands before all those that the destination holds, and is chosen for it
(`Item.best?_nearest_iff`). -/
namespace Armory.Item

variable {destination : CharacterId} {candidate next i j : Item} {rest items ties : List Item}

/-! ## Nearness -/

/-- How near an item is to being worn by a character. -/
def nearness (destination : CharacterId) (i : Item) : Nat :=
  if i.equippedOn destination then 3
  else if i.ownedBy destination then 2
  else if i.inVault then 1
  else 0

theorem inVault_of_ownedBy (h : i.ownedBy destination = true) : i.inVault = false := by
  rw [ownedBy, beq_iff_eq] at h
  rw [inVault, h]
  rfl

theorem ownedBy_of_equippedOn (h : i.equippedOn destination = true) : i.ownedBy destination = true := by
  rw [equippedOn, Bool.and_eq_true] at h
  exact h.2

theorem nearness_le (destination : CharacterId) (i : Item) : i.nearness destination ≤ 3 := by
  unfold nearness
  grind

theorem nearness_of_equippedOn (h : i.equippedOn destination = true) : i.nearness destination = 3 := by
  rw [nearness, if_pos h]

theorem nearness_of_inVault (h : i.inVault = true) : i.nearness destination = 1 := by
  have := @inVault_of_ownedBy destination i
  have := @ownedBy_of_equippedOn destination i
  unfold nearness
  grind

theorem nearness_of_elsewhere (h : i.ownedBy destination = false) (h' : i.inVault = false) :
    i.nearness destination = 0 := by
  simp [nearness, equippedOn, h, h']

/-- What the destination holds is nearer than all that it does not hold. -/
theorem two_le_nearness_iff : 2 ≤ i.nearness destination ↔ i.ownedBy destination = true := by
  have := @ownedBy_of_equippedOn destination i
  unfold nearness
  grind

/-- **The scan goes on to a nearer item, but never leaves the vault.** -/
theorem preferred_eq (destination : CharacterId) (candidate next : Item) :
    preferred destination candidate next =
      if candidate.nearness destination < next.nearness destination ∧ candidate.inVault = false then next
      else candidate := by
  have held := @inVault_of_ownedBy destination candidate
  have held' := @inVault_of_ownedBy destination next
  unfold preferred nearness equippedOn
  grind

/-! ## The scan over the ties -/

theorem foldl_preferred_of_inVault (h : candidate.inVault = true) (rest : List Item) :
    rest.foldl (preferred destination) candidate = candidate := by
  induction rest with
  | nil => rfl
  | cons next rest ih => rw [List.foldl_cons, preferred_eq, if_neg (by simp [h]), ih]

theorem foldl_preferred_of_equippedOn (h : candidate.equippedOn destination = true) (rest : List Item) :
    rest.foldl (preferred destination) candidate = candidate := by
  induction rest with
  | nil => rfl
  | cons next rest ih =>
    have far := nearness_le destination next
    rw [List.foldl_cons, preferred_eq, nearness_of_equippedOn h, if_neg (by omega), ih]

/-- The items of a power. -/
def ofPower (power : Nat) (items : List Item) : List Item := items.filter (·.power == power)

theorem ofPower_cons {power : Nat} (h : i.power = power) (items : List Item) :
    ofPower power (i :: items) = i :: ofPower power items :=
  List.filter_cons_of_pos (by simp [h])

/-- The search compares the candidate with every item of its power: to stop once the destination wears the candidate
makes no difference. -/
theorem bestAfter_eq_foldl (sorted : (candidate :: rest).Pairwise fun i j => j.power ≤ i.power)
    (destination : CharacterId) :
    bestAfter destination candidate rest =
      (ofPower candidate.power rest).foldl (preferred destination) candidate := by
  induction rest generalizing candidate with
  | nil => rfl
  | cons next rest ih =>
    obtain ⟨top, later⟩ := List.pairwise_cons.mp sorted
    unfold bestAfter
    split
    · rename_i stop
      rw [Bool.or_eq_true, decide_eq_true_eq] at stop
      rcases stop with weaker | worn
      · -- everything from here on is weaker
        have none : ofPower candidate.power (next :: rest) = [] := by
          rw [ofPower, List.filter_eq_nil_iff]
          intro j hj
          have := (List.pairwise_cons.mp later).1
          grind
        rw [none]
        rfl
      · exact (foldl_preferred_of_equippedOn worn _).symm
    · rename_i go
      have bound := top next List.mem_cons_self
      have level : next.power = candidate.power := by
        simp only [Bool.or_eq_true, decide_eq_true_eq] at go
        omega
      have kept : (preferred destination candidate next).power = candidate.power := by
        rcases preferred_eq_or destination candidate next with h | h <;> rw [h]
        exact level
      have sorted' : (preferred destination candidate next :: rest).Pairwise fun i j => j.power ≤ i.power := by
        refine List.pairwise_cons.mpr ⟨fun j hj => ?_, (List.pairwise_cons.mp later).2⟩
        rw [kept]
        exact top j (List.mem_cons_of_mem _ hj)
      rw [ih sorted', kept, ofPower_cons level, List.foldl_cons]

/-- One of the ties before the first that the destination holds lies in the vault. -/
def VaultAhead (destination : CharacterId) (ties : List Item) : Prop :=
  (∃ v ∈ ties.takeWhile fun j => !j.ownedBy destination, v.inVault = true) ∧
    ∃ j ∈ ties, j.ownedBy destination = true

instance : Decidable (VaultAhead destination ties) :=
  inferInstanceAs (Decidable (_ ∧ _))

theorem not_vaultAhead_of_ownedBy (h : i.ownedBy destination = true) : ¬ VaultAhead destination (i :: rest) := by
  rintro ⟨⟨v, hv, -⟩, -⟩
  simp [h] at hv

theorem vaultAhead_of_inVault (h : i.inVault = true) :
    VaultAhead destination (i :: rest) ↔ ∃ j ∈ rest, j.ownedBy destination = true := by
  have away : i.ownedBy destination = false := by
    have := @inVault_of_ownedBy destination i
    grind
  simp [VaultAhead, away, h]

theorem vaultAhead_cons_of_elsewhere (h : i.ownedBy destination = false) (h' : i.inVault = false) :
    VaultAhead destination (i :: rest) ↔ VaultAhead destination rest := by
  simp [VaultAhead, h, h']

/-- Which of the ties the scan settles on: the first in the vault if the vault is ahead, and else the first of the
nearest. -/
structure Settled (destination : CharacterId) (ties : List Item) (i : Item) : Prop where
  ahead : VaultAhead destination ties → ties.find? (·.inVault) = some i
  nearest : ¬ VaultAhead destination ties → ∀ j ∈ ties, j.nearness destination ≤ i.nearness destination
  first : ¬ VaultAhead destination ties →
    ties.find? (fun j => j.nearness destination == i.nearness destination) = some i

theorem settled_of_inVault (h : i.inVault = true) (rest : List Item) :
    Settled destination (i :: rest) i := by
  have near : i.nearness destination = 1 := nearness_of_inVault h
  refine ⟨fun _ => by simp [h], fun behind j hj => ?_, fun _ => by simp⟩
  rw [vaultAhead_of_inVault h] at behind
  rcases List.mem_cons.mp hj with rfl | hj
  · exact Nat.le_refl _
  · -- nothing behind an item in the vault is held, so nothing is nearer
    have unheld : ¬ 2 ≤ j.nearness destination := fun held =>
      behind ⟨j, hj, two_le_nearness_iff.mp held⟩
    omega

/-- A tie that is nearer than the one before it is settled on among both. -/
theorem Settled.cons_nearer (h : Settled destination (next :: rest) i)
    (nearer : candidate.nearness destination < next.nearness destination)
    (outside : candidate.inVault = false) : Settled destination (candidate :: next :: rest) i := by
  have same : VaultAhead destination (candidate :: next :: rest) ↔ VaultAhead destination (next :: rest) := by
    cases held : candidate.ownedBy destination with
    | false => exact vaultAhead_cons_of_elsewhere held outside
    | true =>
      have held' : next.ownedBy destination = true := by
        have := two_le_nearness_iff.mpr held
        exact two_le_nearness_iff.mp (by omega)
      exact iff_of_false (not_vaultAhead_of_ownedBy held) (not_vaultAhead_of_ownedBy held')
  constructor
  · intro ahead
    rw [List.find?_cons_of_neg (by simp [outside])]
    exact h.ahead (same.mp ahead)
  · intro behind
    have bound := h.nearest (mt same.mpr behind)
    refine List.forall_mem_cons.mpr ⟨?_, bound⟩
    have := bound next List.mem_cons_self
    omega
  · intro behind
    have := h.nearest (mt same.mpr behind) next List.mem_cons_self
    rw [List.find?_cons_of_neg (by simp; omega)]
    exact h.first (mt same.mpr behind)

/-- A tie that is no nearer than the one before it makes no difference. -/
theorem Settled.cons_no_nearer (h : Settled destination (candidate :: rest) i)
    (nearer : next.nearness destination ≤ candidate.nearness destination)
    (outside : candidate.inVault = false) : Settled destination (candidate :: next :: rest) i := by
  -- if the candidate is with another character, then so is what is no nearer
  have elsewhere : candidate.ownedBy destination = false →
      next.ownedBy destination = false ∧ next.inVault = false := by
    intro held
    rw [nearness_of_elsewhere held outside] at nearer
    constructor
    · by_contra own
      have := two_le_nearness_iff.mpr (Bool.of_not_eq_false own)
      omega
    · by_contra inside
      rw [nearness_of_inVault (Bool.of_not_eq_false inside)] at nearer
      omega
  have same : VaultAhead destination (candidate :: next :: rest) ↔
      VaultAhead destination (candidate :: rest) := by
    cases held : candidate.ownedBy destination with
    | true => exact iff_of_false (not_vaultAhead_of_ownedBy held) (not_vaultAhead_of_ownedBy held)
    | false =>
      obtain ⟨held', outside'⟩ := elsewhere held
      rw [vaultAhead_cons_of_elsewhere held outside, vaultAhead_cons_of_elsewhere held' outside',
        vaultAhead_cons_of_elsewhere held outside]
  constructor
  · intro ahead
    have held : candidate.ownedBy destination = false := by
      by_contra own
      exact not_vaultAhead_of_ownedBy (Bool.of_not_eq_false own) ahead
    have found := h.ahead (same.mp ahead)
    rw [List.find?_cons_of_neg (by simp [outside])] at found
    rwa [List.find?_cons_of_neg (by simp [outside]), List.find?_cons_of_neg (by simp [elsewhere held])]
  · intro behind
    obtain ⟨bound, later⟩ := List.forall_mem_cons.mp (h.nearest (mt same.mpr behind))
    exact List.forall_mem_cons.mpr ⟨bound, List.forall_mem_cons.mpr ⟨Nat.le_trans nearer bound, later⟩⟩
  · intro behind
    have bound := h.nearest (mt same.mpr behind) candidate List.mem_cons_self
    have found := h.first (mt same.mpr behind)
    by_cases level : candidate.nearness destination = i.nearness destination
    · rw [List.find?_cons_of_pos (by simp [level])] at found ⊢
      exact found
    · rw [List.find?_cons_of_neg (by simp [level])] at found
      rwa [List.find?_cons_of_neg (by simp [level]), List.find?_cons_of_neg (by simp; omega)]

/-- **The scan settles**, whatever the ties are. -/
theorem settled_foldl (candidate : Item) (rest : List Item) :
    Settled destination (candidate :: rest) (rest.foldl (preferred destination) candidate) := by
  induction rest generalizing candidate with
  | nil =>
    have alone : ¬ VaultAhead destination [candidate] := by
      rintro ⟨⟨v, hv, inside⟩, j, hj, held⟩
      obtain rfl := List.mem_singleton.mp hj
      simp [held] at hv
    exact ⟨fun ahead => absurd ahead alone, fun _ j hj => by simp_all, fun _ => by simp⟩
  | cons next rest ih =>
    cases outside : candidate.inVault with
    | true =>
      rw [foldl_preferred_of_inVault outside]
      exact settled_of_inVault outside _
    | false =>
      rw [List.foldl_cons, preferred_eq]
      split
      · rename_i h
        exact (ih next).cons_nearer h.1 outside
      · rename_i h
        exact (ih candidate).cons_no_nearer (by simpa [outside] using h) outside

/-- What is settled on is a nearest tie iff the vault is not ahead. -/
theorem Settled.nearest_iff (h : Settled destination ties i) :
    (∀ j ∈ ties, j.nearness destination ≤ i.nearness destination) ↔ ¬ VaultAhead destination ties := by
  refine ⟨fun bound ahead => ?_, h.nearest⟩
  have ⟨_, j, hj, held⟩ := ahead
  have inside : i.inVault = true := by simpa using List.find?_some (h.ahead ahead)
  have := two_le_nearness_iff.mpr held
  have := bound j hj
  rw [nearness_of_inVault inside] at this
  omega

/-! ## The choice -/

/-- **The choice is a nearest one among the strongest, unless the vault is ahead.** From items with the most powerful
first, of which there are some, a character chooses one of the greatest power. Among the items of this power it
chooses the first of the nearest; but where one in the vault stands before all those that the character holds, of
which there are some, it chooses the first one in the vault, and then the choice is not a nearest one. -/
theorem best?_nearest_iff (sorted : items.Pairwise fun i j => j.power ≤ i.power) (nonempty : items ≠ [])
    (destination : CharacterId) :
    ∃ i, best? destination items = some i ∧ i ∈ items ∧ (∀ j ∈ items, j.power ≤ i.power) ∧
      Settled destination (ofPower i.power items) i ∧
      ((∀ j ∈ items, j.power = i.power → j.nearness destination ≤ i.nearness destination) ↔
        ¬ VaultAhead destination (ofPower i.power items)) := by
  obtain ⟨first, rest, rfl⟩ := List.exists_cons_of_ne_nil nonempty
  have tops := tops_best? sorted destination
  -- the scan over all items is one over the ties
  have ties : ofPower (bestAfter destination first rest).power (first :: rest) =
      first :: ofPower first.power rest := by
    rw [power_bestAfter sorted, ofPower_cons rfl]
  have settled : Settled destination (ofPower (bestAfter destination first rest).power (first :: rest))
      (bestAfter destination first rest) := by
    rw [ties, bestAfter_eq_foldl sorted]
    exact settled_foldl first _
  refine ⟨bestAfter destination first rest, rfl, tops.1, tops.2, settled, ?_⟩
  rw [← settled.nearest_iff]
  simp [ofPower]

/-! ### Five weapons -/

/-- Weapons of a ranger, of a scout and of the vault; all but the last are equally powerful. -/
def armRack : List Item :=
  [weapon 1498876634 "1" .legendary 600 "scout" true, weapon 1498876634 "2" .legendary 600 "ranger" false,
    { weapon 1498876634 "3" .legendary 600 "ranger" false with owner := none },
    weapon 1498876634 "4" .legendary 600 "ranger" true, weapon 1498876634 "5" .legendary 590 "ranger" false]

/-- The ranger chooses what the ranger wears: a weapon at hand stands before the one in the vault. -/
theorem best?_nearest_iff_armRack :
    (armRack.Pairwise fun i j => j.power ≤ i.power) ∧ armRack ≠ [] ∧
      ∃ i, best? "ranger" armRack = some i ∧ i.instanceId = some "4" ∧
        ∀ j ∈ armRack, j.power = i.power → j.nearness "ranger" ≤ i.nearness "ranger" := by
  have sorted : armRack.Pairwise fun i j => j.power ≤ i.power := by decide
  have nonempty : armRack ≠ [] := by decide
  obtain ⟨i, chosen, -, -, -, nearest⟩ := best?_nearest_iff sorted nonempty "ranger"
  have worn : best? "ranger" armRack = armRack[3]? := by decide
  obtain rfl : weapon 1498876634 "4" .legendary 600 "ranger" true = i :=
    Option.some.inj (worn.symm.trans chosen)
  exact ⟨sorted, nonempty, _, chosen, rfl, nearest.mpr (by decide)⟩

/-- With the weapon in the vault first, the one at hand is not chosen, though it is nearer. -/
theorem vault_kept :
    let items := [{ weapon 1498876634 "3" .legendary 600 "ranger" false with owner := none },
      weapon 1498876634 "2" .legendary 600 "ranger" false]
    (items.Pairwise fun i j => j.power ≤ i.power) ∧
      ¬ ∃ i, best? "ranger" items = some i ∧
        ∀ j ∈ items, j.power = i.power → j.nearness "ranger" ≤ i.nearness "ranger" := by
  intro items
  refine ⟨by decide, ?_⟩
  rintro ⟨i, chosen, bound⟩
  have first : best? "ranger" items = items.head? := by decide
  obtain rfl := Option.some.inj (first.symm.trans chosen)
  exact absurd (bound _ (List.mem_cons_of_mem _ List.mem_cons_self) rfl) (by decide)

end Armory.Item
