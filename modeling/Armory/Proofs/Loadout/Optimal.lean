import Armory.Proofs.Loadout.Wearing

/-! How close the most powerful loadout comes to the best that the rules allow. In each category the engine takes
the exotic of the greatest power, which need not be the one that adds most to its bucket; the difference is
the lag of the category. Main statement: no admissible loadout beats the engine's by more than the lags of the
weapons and of the armor, and one beats it by exactly that (`Loadout.strongest_optimal_up_to_lag`). -/
namespace Armory

/-! ## Gains -/

namespace Offer

variable {o : Offer} {category : List Bucket} {b : Bucket}

/-- How much the exotic of a bucket adds to what else there is. -/
def gain (o : Offer) (b : Bucket) : Nat := o.exotic b - o.plain b

/-- The most that an exotic adds in a category. -/
def topGain (o : Offer) (category : List Bucket) : Nat :=
  category.foldr (fun b m => max (o.gain b) m) 0

/-- What the exotic of the leading bucket adds. -/
def ledGain (o : Offer) (category : List Bucket) : Nat :=
  sumOf (fun b => if o.Leads category b then o.gain b else 0) category

/-- How much more than the exotic of the leading bucket another one would add. -/
def lag (o : Offer) (category : List Bucket) : Nat := o.topGain category - o.ledGain category

/-- The bucket in which an exotic adds most, if one adds anything. -/
def topBucket? (o : Offer) (category : List Bucket) : Option Bucket :=
  category.find? fun b => decide (o.Beats b ∧ o.gain b = o.topGain category)

theorem topBucket?_spec (h : o.topBucket? category = some b) :
    b ∈ category ∧ o.Beats b ∧ o.gain b = o.topGain category := by
  unfold topBucket? at h
  have hfound := List.find?_some h
  exact ⟨List.mem_of_find?_eq_some h, of_decide_eq_true hfound⟩

theorem exists_gain_eq_topGain (h : 0 < o.topGain category) :
    ∃ b ∈ category, o.gain b = o.topGain category := by
  induction category with
  | nil => cases h
  | cons x rest ih =>
    have hmax : o.topGain (x :: rest) = max (o.gain x) (o.topGain rest) := rfl
    by_cases hx : o.topGain rest ≤ o.gain x
    · exact ⟨x, List.mem_cons_self, by omega⟩
    · obtain ⟨b, hb, hgain⟩ := ih (by omega)
      exact ⟨b, List.mem_cons_of_mem x hb, by omega⟩

theorem topGain_of_topBucket?_none (h : o.topBucket? category = none) : o.topGain category = 0 := by
  by_contra hne
  obtain ⟨b, hb, hgain⟩ := exists_gain_eq_topGain (Nat.pos_of_ne_zero hne)
  have hbeats : o.Beats b := by
    unfold Beats
    unfold gain at hgain
    omega
  have hnot := List.find?_eq_none.mp h b hb
  exact hnot (decide_eq_true ⟨hbeats, hgain⟩)

/-- Alone in its category, a bucket has no lag. -/
theorem lag_classArmor : o.lag [.classArmor] = 0 := by
  have htop : o.topGain [.classArmor] = max (o.gain .classArmor) 0 := rfl
  have hled : o.ledGain [.classArmor] =
      (if o.Leads [.classArmor] .classArmor then o.gain .classArmor else 0) + 0 := rfl
  have hlead : o.Leads [.classArmor] .classArmor ↔ o.Beats .classArmor :=
    (overrides_iff (by decide) (List.mem_singleton_self _)).symm.trans overrides_classArmor
  unfold lag
  rw [htop, hled]
  split
  · omega
  · rename_i hnot
    have hzero : o.gain .classArmor = 0 := by
      have hbehind : ¬ o.plain .classArmor < o.exotic .classArmor := fun h => hnot (hlead.mpr h)
      unfold gain
      omega
    omega

end Offer

/-! ## Admissible loadouts -/

namespace Loadout

variable {c : Catalog} {items : List Item} {ch : Character} {a l : Loadout} {o : Offer}
  {category : List Bucket} {b : Bucket}

/-- Whether a character could put a loadout on: outside of the ghost and the subclass every item is one of
the character's that fits, and the rule of one exotic is kept. -/
structure Admissible (c : Catalog) (items : List Item) (ch : Character) (a : Loadout) : Prop where
  wearable : ∀ b i, b ≠ .ghost → b ≠ .subclass → a.get? b = some i →
    i ∈ items ∧ ch.canWear c b i = true
  rule : a.KeepsRule

/-- A loadout has no more power in a bucket than is on offer there. -/
def Within (o : Offer) (a : Loadout) (b : Bucket) : Prop :=
  a.powerAt b ≤ if a.exoticAt b then o.exotic b else o.plain b

theorem Admissible.within (h : Admissible c items ch a) (hghost : b ≠ .ghost)
    (hsubclass : b ≠ .subclass) : Within (ch.offer c items) a b := by
  unfold Within powerAt exoticAt
  cases hget : a.get? b with
  | none => exact Nat.zero_le _
  | some i =>
    obtain ⟨hmem, hwear⟩ := h.wearable b i hghost hsubclass hget
    have candidate : i ∈ ch.candidates c items i.isExotic b :=
      Character.mem_candidates.mpr ⟨hmem, hwear, rfl⟩
    have hle := Item.power_le_topPower candidate
    cases hexotic : i.isExotic with
    | false =>
      rw [hexotic] at hle
      simpa [hexotic, Character.offer] using hle
    | true =>
      rw [hexotic] at hle
      simpa [hexotic, Character.offer] using hle

theorem sumOf_powerAt_le_plain (within : ∀ b ∈ category, Within o a b)
    (none : a.exoticCount category = 0) :
    sumOf a.powerAt category ≤ sumOf o.plain category := by
  apply sumOf_le_sumOf
  intro b hb
  have hplain : ¬ a.exoticAt b = true := List.countP_eq_zero.mp none b hb
  have hle := within b hb
  rwa [Within, if_neg hplain] at hle

/-- With one exotic in a category, its power exceeds the plain offer by one gain at most. -/
theorem sumOf_powerAt_le (within : ∀ b ∈ category, Within o a b)
    (one : a.exoticCount category ≤ 1) :
    sumOf a.powerAt category ≤ sumOf o.plain category + o.topGain category := by
  induction category with
  | nil => exact Nat.zero_le _
  | cons b rest ih =>
    have hb := within b List.mem_cons_self
    have hrest : ∀ b' ∈ rest, Within o a b' := fun b' hb' => within b' (List.mem_cons_of_mem b hb')
    have hcount : a.exoticCount (b :: rest) =
        a.exoticCount rest + if a.exoticAt b then 1 else 0 := List.countP_cons
    have htop : o.topGain (b :: rest) = max (o.gain b) (o.topGain rest) := rfl
    simp only [sumOf]
    unfold Within at hb
    split at hcount
    · -- the exotic is here, so the rest of the category is plain
      rename_i hexotic
      have hplain := sumOf_powerAt_le_plain hrest (by omega)
      rw [if_pos hexotic] at hb
      have hgain : o.exotic b ≤ o.plain b + o.gain b := by
        unfold Offer.gain
        omega
      omega
    · rename_i hexotic
      have hle := ih hrest (by omega)
      rw [if_neg hexotic] at hb
      omega

/-! ## Powers of mixed loadouts -/

theorem powerAt_mixed {chosen : Bucket → Bool} (hb : filledBuckets.contains b = true)
    (beats : chosen b = true → (ch.offer c items).Beats b) :
    (mixed c items ch chosen).powerAt b = (ch.offer c items).plain b +
      if chosen b = true then (ch.offer c items).gain b else 0 := by
  rw [powerAt, get?_mixed hb]
  cases hc : chosen b with
  | false =>
    have top := (tops_pick c items ch false b).topPower
    rw [if_neg Bool.false_ne_true, Nat.add_zero]
    exact top.symm
  | true =>
    have top := (tops_pick c items ch true b).topPower
    have hlt : (ch.offer c items).plain b < (ch.offer c items).exotic b := beats hc
    rw [if_pos rfl, ← top]
    show (ch.offer c items).exotic b = _
    unfold Offer.gain
    omega

/-- The power of a category is the plain offer with the gains of the exotics that were chosen. -/
theorem sumOf_powerAt_mixed {chosen : Bucket → Bool} (hc : category ∈ Bucket.categories)
    (beats : ∀ b ∈ category, chosen b = true → (ch.offer c items).Beats b) :
    sumOf (mixed c items ch chosen).powerAt category = sumOf (ch.offer c items).plain category +
      sumOf (fun b => if chosen b = true then (ch.offer c items).gain b else 0) category := by
  rw [← sumOf_add]
  exact sumOf_congr fun b hb => powerAt_mixed (Bucket.filled_of_mem_categories hc hb) (beats b hb)

theorem admissible_mixed {chosen : Bucket → Bool}
    (beats : ∀ b, chosen b = true → (ch.offer c items).Beats b)
    (one : ∀ category ∈ Bucket.categories, ∀ b ∈ category, ∀ b' ∈ category,
      chosen b = true → chosen b' = true → b = b') :
    Admissible c items ch (mixed c items ch chosen) where
  wearable b i _ _ h := by
    obtain ⟨-, hmem, hwear, -⟩ := mixed_spec h
    exact ⟨hmem, hwear⟩
  rule category hc := by
    have hc' := mem_categories hc
    rw [exoticCount_le_one (Bucket.nodup_of_mem_categories hc')]
    intro b hb b' hb' hexotic hexotic'
    rw [exoticAt_mixed (Bucket.filled_of_mem_categories hc' hb) (beats b)] at hexotic
    rw [exoticAt_mixed (Bucket.filled_of_mem_categories hc' hb') (beats b')] at hexotic'
    exact one category hc' b hb b' hb' hexotic hexotic'

theorem admissible_strongestFor (c : Catalog) (items : List Item) (ch : Character) :
    Admissible c items ch (strongestFor c items ch) := by
  have shape := shape_strongestFor c items ch
  exact ⟨fun b i _ _ => shape.wearable b i, shape.rule⟩

/-- The engine adds the gain of the leading bucket to the plain offer. -/
theorem sumOf_powerAt_strongestFor (hc : category ∈ Bucket.categories) :
    sumOf (strongestFor c items ch).powerAt category =
      sumOf (ch.offer c items).plain category + (ch.offer c items).ledGain category := by
  rw [strongestFor_eq, sumOf_powerAt_mixed hc fun b _ h => (of_decide_eq_true h).beats]
  congr 1
  refine sumOf_congr fun b hb => if_congr ?_ rfl rfl
  rw [decide_eq_true_eq, Offer.overrides_iff hc hb]

/-- The loadout with the exotic of each category where it adds most. -/
def best (c : Catalog) (items : List Item) (ch : Character) : Loadout :=
  mixed c items ch fun b => decide
    (∃ category ∈ Bucket.categories, (ch.offer c items).topBucket? category = some b)

theorem topBucket?_iff (hc : category ∈ Bucket.categories) (hb : b ∈ category) :
    (∃ category' ∈ Bucket.categories, o.topBucket? category' = some b) ↔
      o.topBucket? category = some b := by
  constructor
  · rintro ⟨category', hc', h⟩
    rwa [Bucket.eq_of_mem_categories hc hc' hb (Offer.topBucket?_spec h).1]
  · exact fun h => ⟨category, hc, h⟩

theorem admissible_best (c : Catalog) (items : List Item) (ch : Character) :
    Admissible c items ch (best c items ch) := by
  apply admissible_mixed
  · intro b h
    obtain ⟨category, -, htop⟩ := of_decide_eq_true h
    exact (Offer.topBucket?_spec htop).2.1
  · intro category hc b hb b' hb' h h'
    have htop := (topBucket?_iff hc hb).mp (of_decide_eq_true h)
    have htop' := (topBucket?_iff hc hb').mp (of_decide_eq_true h')
    exact Option.some.inj (htop.symm.trans htop')

theorem sumOf_powerAt_best (hc : category ∈ Bucket.categories) :
    sumOf (best c items ch).powerAt category =
      sumOf (ch.offer c items).plain category + (ch.offer c items).topGain category := by
  have beats : ∀ b ∈ category, decide (∃ category ∈ Bucket.categories,
      (ch.offer c items).topBucket? category = some b) = true → (ch.offer c items).Beats b := by
    intro b hb h
    exact (Offer.topBucket?_spec ((topBucket?_iff hc hb).mp (of_decide_eq_true h))).2.1
  rw [best, sumOf_powerAt_mixed hc beats]
  congr 1
  have hgains : sumOf (fun b => if decide (∃ category ∈ Bucket.categories,
        (ch.offer c items).topBucket? category = some b) = true
      then (ch.offer c items).gain b else 0) category =
      sumOf (fun b => if (ch.offer c items).topBucket? category = some b
        then (ch.offer c items).gain b else 0) category :=
    sumOf_congr fun b hb => if_congr (decide_eq_true_iff.trans (topBucket?_iff hc hb)) rfl rfl
  rw [hgains]
  cases htop : (ch.offer c items).topBucket? category with
  | none =>
    rw [Offer.topGain_of_topBucket?_none htop]
    exact sumOf_eq_zero fun b _ => if_neg nofun
  | some b =>
    obtain ⟨hb, -, hgain⟩ := Offer.topBucket?_spec htop
    have hsingle := sumOf_single (ch.offer c items).gain (Bucket.nodup_of_mem_categories hc) hb
    rw [← hgain, ← hsingle]
    exact sumOf_congr fun b' _ => if_congr Option.some_inj rfl rfl

/-! ## The engine against all others -/

theorem totalPower_eq (a : Loadout) :
    a.totalPower = sumOf a.powerAt Bucket.weapons + sumOf a.powerAt Bucket.armor +
      sumOf a.powerAt [.classArmor] := by
  rw [totalPower, Bucket.powered, sumOf_append, sumOf_append]

theorem Admissible.sumOf_le (h : Admissible c items ch a) (hc : category ∈ Bucket.categories) :
    sumOf a.powerAt category ≤
      sumOf (ch.offer c items).plain category + (ch.offer c items).topGain category := by
  have hfilled : ∀ b ∈ category, b ≠ .ghost ∧ b ≠ .subclass := fun b hb =>
    contains_filledBuckets.mp (Bucket.filled_of_mem_categories hc hb)
  refine sumOf_powerAt_le (fun b hb => h.within (hfilled b hb).1 (hfilled b hb).2) ?_
  rcases List.mem_cons.mp hc with rfl | hc
  · -- class armor is one bucket, which the rule does not speak of
    exact List.countP_le_length
  · exact h.rule category hc

theorem ledGain_le_topGain (hc : category ∈ Bucket.categories) :
    (ch.offer c items).ledGain category ≤ (ch.offer c items).topGain category := by
  have hle := (admissible_strongestFor c items ch).sumOf_le hc
  rw [sumOf_powerAt_strongestFor hc] at hle
  omega

/-- Putting a loadout on takes no power from what it holds. -/
theorem totalPower_le_putOver (l worn : Loadout) : l.totalPower ≤ (l.putOver worn).totalPower := by
  apply sumOf_le_sumOf
  intro b _
  unfold powerAt
  rw [get?_putOver]
  cases l.get? b with
  | none => exact Nat.zero_le _
  | some i => exact Nat.le_refl _

/-- The engine's loadout falls short of the best one by the lags of the weapons and of the armor. -/
theorem totalPower_best (c : Catalog) (items : List Item) (ch : Character) :
    (best c items ch).totalPower = (strongestFor c items ch).totalPower +
      ((ch.offer c items).lag Bucket.weapons + (ch.offer c items).lag Bucket.armor) := by
  have hweapons : Bucket.weapons ∈ Bucket.categories := by decide
  have harmor : Bucket.armor ∈ Bucket.categories := by decide
  have hclass : [Bucket.classArmor] ∈ Bucket.categories := by decide
  have lagless : (ch.offer c items).lag [.classArmor] = 0 := Offer.lag_classArmor
  rw [totalPower_eq, totalPower_eq, sumOf_powerAt_best hweapons, sumOf_powerAt_best harmor,
    sumOf_powerAt_best hclass, sumOf_powerAt_strongestFor hweapons,
    sumOf_powerAt_strongestFor harmor, sumOf_powerAt_strongestFor hclass]
  -- a lag is a difference of natural numbers, so it needs that the leader gains no more than the top
  have gains : ∀ category ∈ Bucket.categories, (ch.offer c items).topGain category =
      (ch.offer c items).ledGain category + (ch.offer c items).lag category := by
    intro category hc
    have hle : (ch.offer c items).ledGain category ≤ (ch.offer c items).topGain category :=
      ledGain_le_topGain hc
    unfold Offer.lag
    omega
  rw [gains _ hweapons, gains _ harmor, gains _ hclass, lagless]
  omega

theorem Admissible.totalPower_le (h : Admissible c items ch a) :
    a.totalPower ≤ (best c items ch).totalPower := by
  have hweapons : Bucket.weapons ∈ Bucket.categories := by decide
  have harmor : Bucket.armor ∈ Bucket.categories := by decide
  have hclass : [Bucket.classArmor] ∈ Bucket.categories := by decide
  rw [totalPower_eq, totalPower_eq, sumOf_powerAt_best hweapons, sumOf_powerAt_best harmor,
    sumOf_powerAt_best hclass]
  have w := h.sumOf_le hweapons
  have r := h.sumOf_le harmor
  have k := h.sumOf_le hclass
  omega

/-- **Optimal up to the lag.** No admissible loadout has more power than the engine's and the lags of the
weapons and of the armor together, and one has as much; so the engine's is the most powerful one exactly if
neither category lags. Putting it on costs an admissible loadout the lags at most. -/
theorem strongest_optimal_up_to_lag (c : Catalog) (p : Profile) {destination : CharacterId}
    {ch : Character} (member : p.character? destination = some ch) :
    let lags := (ch.offer c p.items).lag Bucket.weapons + (ch.offer c p.items).lag Bucket.armor
    ∃ r, strongest c p destination = .ok r ∧ Admissible c p.items ch r ∧
      (∀ a, Admissible c p.items ch a → a.totalPower ≤ r.totalPower + lags) ∧
      (∃ a, Admissible c p.items ch a ∧ a.totalPower = r.totalPower + lags) ∧
      ((∀ a, Admissible c p.items ch a → a.totalPower ≤ r.totalPower) ↔ lags = 0) ∧
      ∀ worn, Admissible c p.items ch worn →
        worn.totalPower ≤ (r.putOver worn).totalPower + lags := by
  intro lags
  have top : (best c p.items ch).totalPower = (strongestFor c p.items ch).totalPower + lags :=
    totalPower_best c p.items ch
  have bound : ∀ a, Admissible c p.items ch a →
      a.totalPower ≤ (strongestFor c p.items ch).totalPower + lags := fun a ha =>
    top ▸ ha.totalPower_le
  refine ⟨strongestFor c p.items ch, by rw [strongest_eq, member],
    admissible_strongestFor c p.items ch, bound, ⟨_, admissible_best c p.items ch, top⟩,
    ⟨fun h => ?_, fun h a ha => ?_⟩, fun worn hworn => ?_⟩
  · have hbest := h _ (admissible_best c p.items ch)
    omega
  · have hle := bound a ha
    omega
  · have hle := bound worn hworn
    have hover := totalPower_le_putOver (strongestFor c p.items ch) worn
    omega

/-! ### A strong exotic that adds little -/

/-- A titan's weapons: the kinetic exotic is the stronger one, and the energy exotic is needed more. -/
def unevenItems : List Item :=
  [.weapon 1498876634 "101" .legendary 600 "titan" false,
   .weapon 1498876634 "102" .exotic 610 "titan" false,
   .weapon 2465295065 "103" .legendary 100 "titan" false,
   .weapon 2465295065 "104" .exotic 605 "titan" false]

/-- The titan with these weapons. -/
def uneven : Profile := .ofItems [.veteran "titan" .titan] unevenItems

theorem uneven_lags :
    ((Character.veteran "titan" .titan).offer .standard unevenItems).lag Bucket.weapons = 495 ∧
      ((Character.veteran "titan" .titan).offer .standard unevenItems).lag Bucket.armor = 0 := by
  decide

/-- The titan could have 495 more than the engine finds. -/
theorem strongest_optimal_up_to_lag_uneven :
    uneven.character? "titan" = some (.veteran "titan" .titan) ∧
      ∃ r, strongest .standard uneven "titan" = .ok r ∧
        ∃ a, Admissible .standard unevenItems (.veteran "titan" .titan) a ∧
          a.totalPower = r.totalPower + 495 := by
  have member : uneven.character? "titan" = some (.veteran "titan" .titan) :=
    Profile.character?_ofItems_singleton _ _
  obtain ⟨r, hr, -, -, ⟨a, ha, hpower⟩, -⟩ := strongest_optimal_up_to_lag .standard uneven member
  rw [uneven, Profile.items_ofItems] at ha hpower
  rw [uneven_lags.1, uneven_lags.2] at hpower
  exact ⟨member, r, hr, a, ha, hpower⟩

/-- The engine's loadout is not always the most powerful one that the rules allow. -/
theorem strongest_not_optimal :
    ¬ ∀ (c : Catalog) (p : Profile) (destination : CharacterId) (ch : Character) (l a : Loadout),
      p.character? destination = some ch → strongest c p destination = .ok l →
        Admissible c p.items ch a → a.totalPower ≤ l.totalPower := by
  intro h
  have member : uneven.character? "titan" = some (.veteran "titan" .titan) :=
    Profile.character?_ofItems_singleton _ _
  have hle := h .standard uneven "titan" _ _ _ member (by rw [strongest_eq, member])
    (admissible_best .standard uneven.items (.veteran "titan" .titan))
  rw [totalPower_best, uneven, Profile.items_ofItems, uneven_lags.1] at hle
  omega

end Loadout
end Armory
