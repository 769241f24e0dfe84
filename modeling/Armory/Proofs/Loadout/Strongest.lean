import Armory.Proofs.Loadout.Offer

/-! The most powerful loadout of a character, bucket by bucket. In every bucket it has either a strongest plain
item or a strongest exotic, and the exotics stand where the offer leads (`Loadout.strongestFor_eq`). Main
statement: the shape of the loadout follows from the items alone (`Loadout.strongest_shape`). -/
namespace Armory

/-! ## Leading buckets -/

/-- The groups of buckets of which one at most is given an exotic. -/
def Bucket.categories : List (List Bucket) := [[.classArmor], weapons, armor]

namespace Bucket

variable {category category' : List Bucket} {b : Bucket}

theorem categories_ordered :
    ∀ category ∈ categories, category.Pairwise fun b b' => b.index < b'.index := by decide

theorem categories_disjoint :
    categories.Pairwise fun category category' => ∀ b ∈ category', b ∉ category := by decide

theorem eq_of_mem_categories (hc : category ∈ categories) (hc' : category' ∈ categories)
    (hb : b ∈ category) (hb' : b ∈ category') : category = category' := by
  have all : ∀ category ∈ categories, ∀ category' ∈ categories, ∀ b ∈ category,
      b ∈ category' → category = category' := by decide
  exact all category hc category' hc' b hb hb'

theorem filled_of_mem_categories (hc : category ∈ categories) (hb : b ∈ category) :
    Loadout.filledBuckets.contains b = true := by
  have all : ∀ category ∈ categories, ∀ b ∈ category,
      Loadout.filledBuckets.contains b = true := by decide
  exact all category hc b hb

theorem nodup_of_mem_categories (hc : category ∈ categories) : category.Nodup := by
  have all : ∀ category ∈ categories, category.Nodup := by decide
  exact all category hc

end Bucket

namespace Offer

variable {o : Offer} {category : List Bucket} {b : Bucket}

/-- Whether the offer puts an exotic into a bucket. -/
def Overrides (o : Offer) (b : Bucket) : Prop :=
  ∃ category ∈ Bucket.categories, o.Leads category b

instance (o : Offer) (b : Bucket) : Decidable (o.Overrides b) :=
  inferInstanceAs (Decidable (∃ category, category ∈ Bucket.categories ∧ _))

theorem Overrides.beats (h : o.Overrides b) : o.Beats b := by
  obtain ⟨category, -, -, hbeats, -⟩ := h
  exact hbeats

theorem overrides_iff (hc : category ∈ Bucket.categories) (hb : b ∈ category) :
    o.Overrides b ↔ o.Leads category b := by
  constructor
  · rintro ⟨category', hc', hlead⟩
    rwa [Bucket.eq_of_mem_categories hc hc' hb hlead.1]
  · exact fun hlead => ⟨category, hc, hlead⟩

/-- A bucket that is alone in its category leads if its exotic beats the rest. -/
theorem overrides_classArmor : o.Overrides .classArmor ↔ o.Beats .classArmor := by
  refine ⟨Overrides.beats, fun h => ⟨[.classArmor], by decide, List.mem_singleton_self _, h, ?_⟩⟩
  intro b' hb' _
  obtain rfl := List.mem_singleton.mp hb'
  exact .inr ⟨rfl, Nat.le_refl _⟩

end Offer

/-! ## Loadouts mixed from plain items and exotics -/

namespace Loadout

variable {c : Catalog} {items : List Item} {ch : Character} {l : Loadout} {category : List Bucket}
  {b : Bucket} {i : Item}

/-- The loadout with an exotic in some buckets and a plain item in the others. -/
def mixed (c : Catalog) (items : List Item) (ch : Character) (chosen : Bucket → Bool) : Loadout :=
  ⟨fun b => if filledBuckets.contains b then pick c items ch (chosen b) b else none⟩

/-- Whether a bucket holds an exotic. -/
def exoticAt (l : Loadout) (b : Bucket) : Bool := (l.get? b).any (·.isExotic)

theorem powerAt_congr {l' : Loadout} (h : l.get? b = l'.get? b) : l.powerAt b = l'.powerAt b := by
  rw [powerAt, powerAt, h]

/-- Exotics put on category after category go where the offer leads. -/
theorem get?_foldl_putExotic {categories : List (List Bucket)}
    (order : ∀ category ∈ categories, category.Pairwise fun b b' => b.index < b'.index)
    (disjoint : categories.Pairwise fun category category' => ∀ b ∈ category', b ∉ category)
    (hl : ∀ category ∈ categories, ∀ b ∈ category, l.powerAt b = (ch.offer c items).plain b)
    (b : Bucket) :
    (categories.foldl (putExotic c ch.id (exotics items ch)) l).get? b =
      if ∃ category ∈ categories, (ch.offer c items).Leads category b
      then pick c items ch true b else l.get? b := by
  induction categories generalizing l with
  | nil => simp
  | cons category rest ih =>
    obtain ⟨hapart, hrest⟩ := List.pairwise_cons.mp disjoint
    have hput := get?_putExotic (order category List.mem_cons_self) (hl category List.mem_cons_self)
    -- the categories that follow still find the plain items
    have hnext : ∀ category' ∈ rest, ∀ b ∈ category',
        (putExotic c ch.id (exotics items ch) l category).powerAt b =
          (ch.offer c items).plain b := by
      intro category' hc' b hb
      have same : (putExotic c ch.id (exotics items ch) l category).get? b = l.get? b := by
        rw [hput, if_neg fun h => hapart category' hc' b hb h.1]
      rw [powerAt_congr same, hl category' (List.mem_cons_of_mem category hc') b hb]
    have horder := fun category' hc' => order category' (List.mem_cons_of_mem category hc')
    rw [List.foldl_cons, ih horder hrest hnext, hput]
    -- a bucket can lead in one of the categories that follow, in this one, or in none
    by_cases h : ∃ category' ∈ rest, (ch.offer c items).Leads category' b
    · rw [if_pos h, if_pos]
      obtain ⟨category', hc', hlead⟩ := h
      exact ⟨category', List.mem_cons_of_mem category hc', hlead⟩
    · rw [if_neg h]
      refine if_congr ⟨fun hlead => ⟨category, List.mem_cons_self, hlead⟩, ?_⟩ rfl rfl
      rintro ⟨category', hc', hlead⟩
      rcases List.mem_cons.mp hc' with rfl | hc'
      · exact hlead
      · exact absurd ⟨category', hc', hlead⟩ h

theorem powerAt_bestOf (hb : filledBuckets.contains b = true) :
    (bestOf c ch.id (Filter.select (ch.eligible (.ofExotic false)) items)).powerAt b =
      (ch.offer c items).plain b := by
  have hget : (bestOf c ch.id (Filter.select (ch.eligible (.ofExotic false)) items)).get? b =
      pick c items ch false b := if_pos hb
  rw [powerAt, hget]
  exact (tops_pick c items ch false b).topPower.symm

/-- A category in which some exotic beats its bucket has a leading bucket. -/
theorem exists_leads (hc : category ∈ Bucket.categories)
    (h : ∃ b ∈ category, (ch.offer c items).Beats b) :
    ∃ b, (ch.offer c items).Leads category b := by
  have hplain : ∀ b ∈ category,
      (bestOf c ch.id (Filter.select (ch.eligible (.ofExotic false)) items)).powerAt b =
        (ch.offer c items).plain b := fun b hb =>
    powerAt_bestOf (Bucket.filled_of_mem_categories hc hb)
  have leads := exoticOf_leads (Bucket.categories_ordered category hc) hplain
  obtain ⟨b, hb, hbeats⟩ := h
  split at leads
  · exact absurd hbeats (leads b hb)
  · exact ⟨_, leads.1⟩

/-- **The most powerful loadout is mixed**: exotics stand where the offer leads, plain items elsewhere. -/
theorem strongestFor_eq (c : Catalog) (items : List Item) (ch : Character) :
    strongestFor c items ch =
      mixed c items ch fun b => decide ((ch.offer c items).Overrides b) := by
  apply Loadout.ext
  funext b
  refine (get?_foldl_putExotic Bucket.categories_ordered Bucket.categories_disjoint
    (fun category hc b hb => powerAt_bestOf (Bucket.filled_of_mem_categories hc hb)) b).trans ?_
  show (if (ch.offer c items).Overrides b then _ else _) = _
  unfold mixed
  by_cases ho : (ch.offer c items).Overrides b
  · obtain ⟨category, hc, hlead⟩ := ho
    have hfilled := Bucket.filled_of_mem_categories hc hlead.1
    have ho : (ch.offer c items).Overrides b := ⟨category, hc, hlead⟩
    simp only [ho, hfilled, if_true, decide_true]
  · simp only [ho, if_false, decide_false]
    rfl

/-! ### What a mixed loadout holds -/

theorem pick_spec {exotic : Bool} (h : pick c items ch exotic b = some i) :
    i ∈ items ∧ ch.canWear c b i = true ∧ i.isExotic = exotic := by
  have top := tops_pick c items ch exotic b
  rw [h] at top
  exact Character.mem_candidates.mp top.1

theorem contains_filledBuckets : filledBuckets.contains b = true ↔ b ≠ .ghost ∧ b ≠ .subclass := by
  cases b <;> decide

theorem get?_mixed {chosen : Bucket → Bool} (hb : filledBuckets.contains b = true) :
    (mixed c items ch chosen).get? b = pick c items ch (chosen b) b := if_pos hb

theorem mixed_spec {chosen : Bucket → Bool} (h : (mixed c items ch chosen).get? b = some i) :
    filledBuckets.contains b = true ∧ i ∈ items ∧ ch.canWear c b i = true ∧
      i.isExotic = chosen b := by
  simp only [mixed, Option.ite_none_right_eq_some] at h
  exact ⟨h.1, pick_spec h.2⟩

/-- A mixed loadout has its exotics where it was told to, if they exist. -/
theorem exoticAt_mixed {chosen : Bucket → Bool} (hb : filledBuckets.contains b = true)
    (hchosen : chosen b = true → (ch.offer c items).Beats b) :
    (mixed c items ch chosen).exoticAt b = chosen b := by
  rw [exoticAt, get?_mixed hb]
  cases hp : pick c items ch (chosen b) b with
  | none =>
    cases hc : chosen b with
    | false => rfl
    | true =>
      obtain ⟨i, hi⟩ := pick_of_beats (hchosen hc)
      rw [hc, hi] at hp
      cases hp
  | some i => exact (pick_spec hp).2.2

/-- At most one of some distinct buckets holds an exotic if any two that do are the same. -/
theorem exoticCount_le_one (nodup : category.Nodup) :
    l.exoticCount category ≤ 1 ↔ ∀ b ∈ category, ∀ b' ∈ category, l.exoticAt b = true →
      l.exoticAt b' = true → b = b' := by
  show category.countP l.exoticAt ≤ 1 ↔ _
  rw [List.countP_eq_length_filter]
  constructor
  · intro h b hb b' hb' hexotic hexotic'
    have hmem := List.mem_filter.mpr ⟨hb, hexotic⟩
    have hmem' := List.mem_filter.mpr ⟨hb', hexotic'⟩
    match hlist : category.filter l.exoticAt, h with
    | [], _ =>
      rw [hlist] at hmem
      cases hmem
    | [x], _ =>
      rw [hlist] at hmem hmem'
      exact (List.mem_singleton.mp hmem).trans (List.mem_singleton.mp hmem').symm
  · intro h
    by_contra hlong
    obtain ⟨x, y, rest, hlist⟩ : ∃ x y rest, category.filter l.exoticAt = x :: y :: rest := by
      match hlist : category.filter l.exoticAt with
      | [] => simp [hlist] at hlong
      | [x] => simp [hlist] at hlong
      | x :: y :: rest => exact ⟨x, y, rest, rfl⟩
    have hx : x ∈ category.filter l.exoticAt := by simp [hlist]
    have hy : y ∈ category.filter l.exoticAt := by simp [hlist]
    obtain ⟨hx, hxe⟩ := List.mem_filter.mp hx
    obtain ⟨hy, hye⟩ := List.mem_filter.mp hy
    have hdistinct := nodup.filter l.exoticAt
    rw [hlist] at hdistinct
    exact (List.nodup_cons.mp hdistinct).1 (h x hx y hy hxe hye ▸ List.mem_cons_self)

/-! ## The shape of the most powerful loadout -/

theorem exoticAt_strongestFor (hb : filledBuckets.contains b = true) :
    (strongestFor c items ch).exoticAt b = true ↔ (ch.offer c items).Overrides b := by
  rw [strongestFor_eq, exoticAt_mixed hb, decide_eq_true_eq]
  exact fun h => (of_decide_eq_true h).beats

/-- In a category, the exotic of the leading bucket is the only one. -/
theorem exoticAt_strongestFor_iff (hc : category ∈ Bucket.categories) (hb : b ∈ category) :
    (strongestFor c items ch).exoticAt b = true ↔ (ch.offer c items).Leads category b :=
  (exoticAt_strongestFor (Bucket.filled_of_mem_categories hc hb)).trans
    (Offer.overrides_iff hc hb)

theorem exoticCount_strongestFor (hc : category ∈ Bucket.categories) :
    (strongestFor c items ch).exoticCount category ≤ 1 := by
  rw [exoticCount_le_one (Bucket.nodup_of_mem_categories hc)]
  intro b hb b' hb' h h'
  exact ((exoticAt_strongestFor_iff hc hb).mp h).unique ((exoticAt_strongestFor_iff hc hb').mp h')

/-- The rule that at most one weapon and at most one piece of armor, class armor apart, is an exotic. -/
def KeepsRule (l : Loadout) : Prop :=
  ∀ category ∈ [Bucket.weapons, Bucket.armor], l.exoticCount category ≤ 1

instance (l : Loadout) : Decidable l.KeepsRule :=
  inferInstanceAs (Decidable (∀ category, category ∈ [Bucket.weapons, Bucket.armor] → _))

/-- What a loadout looks like in which every bucket has been filled as well as one exotic for each category
allows. A bucket is overridden if it holds an exotic. -/
structure Shape (c : Catalog) (items : List Item) (ch : Character) (l : Loadout) : Prop where
  wearable : ∀ b i, l.get? b = some i → i ∈ items ∧ ch.canWear c b i = true
  unfilled : l.get? .ghost = none ∧ l.get? .subclass = none
  artifact : l.exoticAt .artifact = false
  plain : ∀ b, b ≠ .ghost → b ≠ .subclass → l.exoticAt b = false →
    Item.Tops (ch.candidates c items false b) (l.get? b)
  overridden : ∀ b, l.exoticAt b = true → Item.Tops (ch.candidates c items true b) (l.get? b)
  classArmor : l.exoticAt .classArmor = true ↔ (ch.offer c items).Beats .classArmor
  leading : ∀ category ∈ [Bucket.weapons, Bucket.armor], ∀ b ∈ category,
    l.exoticAt b = true ↔ (ch.offer c items).Leads category b
  one : ∀ category ∈ [Bucket.weapons, Bucket.armor],
    (∃! b, b ∈ category ∧ l.exoticAt b = true) ↔ ∃ b ∈ category, (ch.offer c items).Beats b
  rule : l.KeepsRule

theorem mem_categories (hc : category ∈ [Bucket.weapons, Bucket.armor]) :
    category ∈ Bucket.categories := List.mem_cons_of_mem _ hc

/-- An exotic stands only in a bucket that the loadout fills. -/
theorem filled_of_exoticAt (h : (strongestFor c items ch).exoticAt b = true) :
    filledBuckets.contains b = true := by
  obtain ⟨i, hi, -⟩ := (Option.any_eq_true _ _).mp h
  rw [strongestFor_eq] at hi
  exact (mixed_spec hi).1

/-- What a bucket holds is picked from the exotics if it is overridden, and from the others if not. -/
theorem get?_strongestFor (hb : filledBuckets.contains b = true) :
    (strongestFor c items ch).get? b =
      pick c items ch ((strongestFor c items ch).exoticAt b) b := by
  have hexotic : (strongestFor c items ch).exoticAt b = true ↔ (ch.offer c items).Overrides b :=
    exoticAt_strongestFor hb
  rw [strongestFor_eq, get?_mixed hb, ← strongestFor_eq]
  congr 1
  rw [Bool.eq_iff_iff, hexotic, decide_eq_true_eq]

theorem shape_strongestFor (c : Catalog) (items : List Item) (ch : Character) :
    Shape c items ch (strongestFor c items ch) := by
  constructor
  case wearable =>
    intro b i h
    rw [strongestFor_eq] at h
    obtain ⟨-, hmem, hwear, -⟩ := mixed_spec h
    exact ⟨hmem, hwear⟩
  case unfilled =>
    rw [strongestFor_eq]
    exact ⟨rfl, rfl⟩
  case artifact =>
    have hnot : ¬ (ch.offer c items).Overrides .artifact := by
      rintro ⟨category, hc, hmem, -⟩
      revert category
      decide
    rw [← exoticAt_strongestFor (by decide)] at hnot
    simpa using hnot
  case plain =>
    intro b hghost hsubclass hexotic
    rw [get?_strongestFor (contains_filledBuckets.mpr ⟨hghost, hsubclass⟩), hexotic]
    exact tops_pick c items ch false b
  case overridden =>
    intro b hexotic
    rw [get?_strongestFor (filled_of_exoticAt hexotic), hexotic]
    exact tops_pick c items ch true b
  case classArmor =>
    rw [exoticAt_strongestFor (by decide)]
    exact Offer.overrides_classArmor
  case leading =>
    exact fun category hc b hb => exoticAt_strongestFor_iff (mem_categories hc) hb
  case one =>
    intro category hc
    have hc' := mem_categories hc
    constructor
    · rintro ⟨b, ⟨hb, hexotic⟩, -⟩
      exact ⟨b, hb, ((exoticAt_strongestFor_iff hc' hb).mp hexotic).2.1⟩
    · intro h
      obtain ⟨b, hlead⟩ := exists_leads hc' h
      refine ⟨b, ⟨hlead.1, (exoticAt_strongestFor_iff hc' hlead.1).mpr hlead⟩, ?_⟩
      rintro b' ⟨hb', hexotic⟩
      exact ((exoticAt_strongestFor_iff hc' hb').mp hexotic).unique hlead
  case rule =>
    exact fun category hc => exoticCount_strongestFor (mem_categories hc)

theorem strongest_eq (c : Catalog) (p : Profile) (destination : CharacterId) :
    strongest c p destination = match p.character? destination with
      | none => .error (.characterNotFound destination)
      | some ch => .ok (strongestFor c p.items ch) := by
  unfold strongest Profile.requireCharacter
  cases p.character? destination <;> rfl

/-- **The shape of the most powerful loadout.** It fails exactly for characters that the profile does not
have, and otherwise it is what the items make it. -/
theorem strongest_shape (c : Catalog) (p : Profile) (destination : CharacterId) :
    ((∃ e, strongest c p destination = .error e) ↔ ∀ ch ∈ p.characters, ch.id ≠ destination) ∧
      match p.character? destination with
      | none => strongest c p destination = .error (.characterNotFound destination)
      | some ch => ch ∈ p.characters ∧ ch.id = destination ∧
          ∃ l, strongest c p destination = .ok l ∧ Shape c p.items ch l := by
  rw [strongest_eq]
  cases hch : p.character? destination with
  | none =>
    have habsent := List.find?_eq_none.mp hch
    refine ⟨⟨fun _ ch hmem => by simpa using habsent ch hmem, fun _ => ⟨_, rfl⟩⟩, rfl⟩
  | some ch =>
    have hmem : ch ∈ p.characters := List.mem_of_find?_eq_some hch
    have hid : ch.id = destination := by simpa using List.find?_some hch
    refine ⟨⟨?_, fun habsent => absurd hid (habsent ch hmem)⟩, hmem, hid, _, rfl,
      shape_strongestFor c p.items ch⟩
    rintro ⟨e, he⟩
    cases he

end Loadout
end Armory
