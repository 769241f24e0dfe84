import Mathlib.Data.List.Induction
import Armory.Loadout.Strongest
import Armory.Proofs.Item.Choice

/-! What the items of a profile offer to a character: in each bucket a strongest plain item and a strongest
exotic. Of the buckets of a category whose exotic beats the plain item, the one with the most powerful
exotic leads. Main statement: the exotic chosen for a category is the one of the leading bucket
(`Loadout.get?_putExotic`). -/
namespace Armory

/-! ## Candidates -/

/-- Whether a character may wear an item in a bucket. -/
def Character.canWear (ch : Character) (c : Catalog) (b : Bucket) (i : Item) : Bool :=
  i.guardian.accepts ch.guardian && i.requiredLevel ≤ ch.level && i.canEquip &&
    c.bucketOf? i.bucketHash == some b

/-- The items that a character may wear in a bucket, either the exotics or all others. -/
def Character.candidates (ch : Character) (c : Catalog) (items : List Item) (exotic : Bool)
    (b : Bucket) : List Item :=
  items.filter fun i => ch.canWear c b i && i.isExotic == exotic

/-- The condition on the tier that selects the exotics, or all others. -/
def Filter.ofExotic : Bool → Filter
  | true => .tier .exotic
  | false => .notTier .exotic

/-- The item that the engine takes for a bucket, among the exotics or among all others. -/
def Loadout.pick (c : Catalog) (items : List Item) (ch : Character) (exotic : Bool)
    (b : Bucket) : Option Item :=
  bestFor c ch.id (Filter.select (ch.eligible (.ofExotic exotic)) items) b

theorem Character.mem_candidates {ch : Character} {c : Catalog} {items : List Item}
    {exotic : Bool} {b : Bucket} {i : Item} :
    i ∈ ch.candidates c items exotic b ↔
      i ∈ items ∧ ch.canWear c b i = true ∧ i.isExotic = exotic := by
  simp [candidates]

/-- **The engine takes a strongest candidate**, and none only where there is none. -/
theorem Loadout.tops_pick (c : Catalog) (items : List Item) (ch : Character) (exotic : Bool)
    (b : Bucket) : Item.Tops (ch.candidates c items exotic b) (pick c items ch exotic b) := by
  refine (Item.tops_best? (c.gearFor_descends b _) ch.id).congr fun i => ?_
  rw [Catalog.mem_gearFor, Filter.mem_select, Character.mem_candidates]
  cases exotic <;>
    simp [Character.eligible, Character.canWear, Filter.ofExotic, Filter.accepts, Item.isExotic] <;>
    tauto

/-! ## Offers -/

namespace Item

/-- The greatest power of some items, zero if there are none. -/
def topPower (items : List Item) : Nat := items.foldr (fun i m => max i.power m) 0

theorem power_le_topPower {items : List Item} {i : Item} (h : i ∈ items) :
    i.power ≤ topPower items := by
  induction items with
  | nil => cases h
  | cons x rest ih =>
    show i.power ≤ max x.power (topPower rest)
    rcases List.mem_cons.mp h with rfl | h
    · omega
    · have hrest := ih h
      omega

theorem topPower_le {items : List Item} {n : Nat} (h : ∀ i ∈ items, i.power ≤ n) :
    topPower items ≤ n := by
  induction items with
  | nil => exact Nat.zero_le n
  | cons x rest ih =>
    show max x.power (topPower rest) ≤ n
    have hx := h x List.mem_cons_self
    have hrest := ih fun i hi => h i (List.mem_cons_of_mem x hi)
    omega

/-- A strongest item has the greatest power. -/
theorem Tops.topPower {items : List Item} {choice : Option Item} (h : Tops items choice) :
    topPower items = (choice.map (·.power)).getD 0 := by
  cases choice with
  | none =>
    have hnil : items = [] := h
    rw [hnil]
    rfl
  | some i =>
    obtain ⟨hi, hmax⟩ := h
    exact Nat.le_antisymm (topPower_le hmax) (power_le_topPower hi)

end Item

/-- The powers on offer in each bucket, zero where there is nothing. -/
structure Offer where
  plain : Bucket → Nat
  exotic : Bucket → Nat

/-- What the items of a profile offer to a character. -/
def Character.offer (ch : Character) (c : Catalog) (items : List Item) : Offer where
  plain b := Item.topPower (ch.candidates c items false b)
  exotic b := Item.topPower (ch.candidates c items true b)

namespace Offer

/-- Whether the exotic of a bucket beats everything else there. -/
def Beats (o : Offer) (b : Bucket) : Prop := o.plain b < o.exotic b

instance (o : Offer) (b : Bucket) : Decidable (o.Beats b) :=
  inferInstanceAs (Decidable (_ < _))

/-- Whether a bucket has the most powerful of the exotics of a category that beat their buckets, and is the
first that has. -/
def Leads (o : Offer) (category : List Bucket) (b : Bucket) : Prop :=
  b ∈ category ∧ o.Beats b ∧ ∀ b' ∈ category, o.Beats b' →
    o.exotic b' < o.exotic b ∨ (o.exotic b' = o.exotic b ∧ b.index ≤ b'.index)

instance (o : Offer) (category : List Bucket) (b : Bucket) : Decidable (o.Leads category b) :=
  inferInstanceAs (Decidable (_ ∧ _ ∧ _))

theorem Leads.unique {o : Offer} {category : List Bucket} {b b' : Bucket}
    (h : o.Leads category b) (h' : o.Leads category b') : b = b' := by
  obtain ⟨hmem, hbeats, hmax⟩ := h
  obtain ⟨hmem', hbeats', hmax'⟩ := h'
  have hindex : b.index = b'.index := by
    rcases hmax b' hmem' hbeats' with hlt | ⟨heq, hle⟩ <;>
      rcases hmax' b hmem hbeats with hlt' | ⟨heq', hle'⟩ <;> omega
  revert hindex
  cases b <;> cases b' <;> decide

end Offer

/-! ## The exotic of a category -/

namespace Loadout

variable {c : Catalog} {items : List Item} {ch : Character} {l : Loadout} {category : List Bucket}
  {b : Bucket} {i : Item}

/-- Whether an outcome is the first of the strongest options of a category, or nothing if it has none. -/
def FirstTop (option : Bucket → Option Item) (category : List Bucket) :
    Option (Bucket × Item) → Prop
  | none => ∀ b ∈ category, option b = none
  | some (b, i) => b ∈ category ∧ option b = some i ∧ ∀ b' ∈ category, ∀ j, option b' = some j →
      j.power < i.power ∨ (j.power = i.power ∧ b.index ≤ b'.index)

namespace FirstTop

variable {option : Bucket → Option Item} {before : List Bucket} {best : Option (Bucket × Item)}

/-- A bucket without an option changes nothing. -/
theorem append_none (h : FirstTop option before best) (hb : option b = none) :
    FirstTop option (before ++ [b]) best := by
  cases best with
  | none =>
    intro b' hb'
    rcases List.mem_append.mp hb' with hmem | hmem
    · exact h b' hmem
    · rw [List.mem_singleton.mp hmem, hb]
  | some e =>
    obtain ⟨hmem, hget, hmax⟩ := h
    refine ⟨List.mem_append_left _ hmem, hget, fun b' hb' j hj => ?_⟩
    rcases List.mem_append.mp hb' with hmem' | hmem'
    · exact hmax b' hmem' j hj
    · rw [List.mem_singleton.mp hmem', hb] at hj
      cases hj

/-- An option that is stronger than all before it comes first. -/
theorem append_ahead (hb : option b = some i)
    (ahead : ∀ b' ∈ before, ∀ j, option b' = some j → j.power < i.power) :
    FirstTop option (before ++ [b]) (some (b, i)) := by
  refine ⟨List.mem_append_right _ (List.mem_singleton_self b), hb, fun b' hb' j hj => ?_⟩
  rcases List.mem_append.mp hb' with hmem | hmem
  · exact .inl (ahead b' hmem j hj)
  · obtain rfl := List.mem_singleton.mp hmem
    obtain rfl := Option.some.inj (hb.symm.trans hj)
    exact .inr ⟨rfl, Nat.le_refl _⟩

/-- An option that is no stronger than the first so far stays behind it, as its bucket comes later. -/
theorem append_behind {b₀ : Bucket} {i₀ : Item} (h : FirstTop option before (some (b₀, i₀)))
    (hb : option b = some i) (behind : ¬ i₀.power < i.power) (later : b₀.index < b.index) :
    FirstTop option (before ++ [b]) (some (b₀, i₀)) := by
  obtain ⟨hmem, hget, hmax⟩ := h
  refine ⟨List.mem_append_left _ hmem, hget, fun b' hb' j hj => ?_⟩
  rcases List.mem_append.mp hb' with hmem' | hmem'
  · exact hmax b' hmem' j hj
  · obtain rfl := List.mem_singleton.mp hmem'
    obtain rfl := Option.some.inj (hb.symm.trans hj)
    rcases Nat.lt_or_ge i.power i₀.power with h | h
    · exact .inl h
    · exact .inr ⟨by omega, by omega⟩

end FirstTop

theorem exoticOf_firstTop (c : Catalog) (destination : CharacterId) (exotics : List Item)
    (l : Loadout) (order : category.Pairwise fun b b' => b.index < b'.index) :
    FirstTop (exoticFor c destination exotics l) category
      (exoticOf c destination exotics l category) := by
  -- the scan adds buckets at the end, so the induction takes the last one off
  induction category using List.reverseRecOn with
  | nil => exact fun b hb => absurd hb List.not_mem_nil
  | append_singleton before b ih =>
    obtain ⟨hbefore, -, hlast⟩ := List.pairwise_append.mp order
    have first := ih hbefore
    unfold exoticOf at first ⊢
    rw [List.foldl_append, List.foldl_cons, List.foldl_nil]
    generalize before.foldl _ none = best at first
    cases hb : exoticFor c destination exotics l b with
    | none => exact first.append_none hb
    | some i =>
      cases best with
      | none =>
        refine .append_ahead hb fun b' hb' j hj => ?_
        rw [first b' hb'] at hj
        cases hj
      | some e =>
        obtain ⟨b₀, i₀⟩ := e
        have later := hlast b₀ first.1 b (List.mem_singleton_self b)
        simp only
        split
        · rename_i hless
          refine .append_ahead hb fun b' hb' j hj => ?_
          rcases first.2.2 b' hb' j hj with h | ⟨h, -⟩ <;> omega
        · rename_i hless
          exact first.append_behind hb hless later

/-- The exotics that an offer is made of. -/
abbrev exotics (items : List Item) (ch : Character) : List Item :=
  Filter.select (ch.eligible (.ofExotic true)) items

theorem power_pick (h : pick c items ch true b = some i) :
    i.power = (ch.offer c items).exotic b := by
  have top := (tops_pick c items ch true b).topPower
  rw [h] at top
  exact top.symm

theorem pick_of_beats (h : (ch.offer c items).Beats b) : ∃ i, pick c items ch true b = some i := by
  have top := (tops_pick c items ch true b).topPower
  cases hp : pick c items ch true b with
  | none =>
    rw [hp] at top
    have hzero : (ch.offer c items).exotic b = 0 := top
    have hlt : (ch.offer c items).plain b < (ch.offer c items).exotic b := h
    omega
  | some i => exact ⟨i, rfl⟩

/-- Where the loadout has the power of the plain offer, an exotic is an option if it beats it. -/
theorem exoticFor_eq_some (hl : l.powerAt b = (ch.offer c items).plain b) :
    exoticFor c ch.id (exotics items ch) l b = some i ↔
      pick c items ch true b = some i ∧ (ch.offer c items).Beats b := by
  unfold exoticFor
  rw [hl, Option.filter_eq_some_iff]
  constructor
  · rintro ⟨hi, hlt⟩
    refine ⟨hi, ?_⟩
    rw [Offer.Beats, ← power_pick hi]
    simpa using hlt
  · rintro ⟨hi, hlt⟩
    refine ⟨hi, ?_⟩
    rw [Offer.Beats, ← power_pick hi] at hlt
    simpa using hlt

/-- The scan ends with the leading bucket and its exotic, or finds that none leads. -/
theorem exoticOf_leads (order : category.Pairwise fun b b' => b.index < b'.index)
    (hl : ∀ b ∈ category, l.powerAt b = (ch.offer c items).plain b) :
    match exoticOf c ch.id (exotics items ch) l category with
    | none => ∀ b ∈ category, ¬ (ch.offer c items).Beats b
    | some (b, i) => (ch.offer c items).Leads category b ∧ pick c items ch true b = some i := by
  have first := exoticOf_firstTop c ch.id (exotics items ch) l order
  cases hbest : exoticOf c ch.id (exotics items ch) l category with
  | none =>
    rw [hbest] at first
    intro b hmem hbeats
    obtain ⟨i, hi⟩ := pick_of_beats hbeats
    have hnone := first b hmem
    rw [(exoticFor_eq_some (hl b hmem)).mpr ⟨hi, hbeats⟩] at hnone
    cases hnone
  | some e =>
    obtain ⟨b₀, i₀⟩ := e
    rw [hbest] at first
    obtain ⟨hmem, hget, hmax⟩ := first
    obtain ⟨hpick, hbeats⟩ := (exoticFor_eq_some (hl b₀ hmem)).mp hget
    refine ⟨⟨hmem, hbeats, fun b' hb' hbeats' => ?_⟩, hpick⟩
    obtain ⟨j, hj⟩ := pick_of_beats hbeats'
    rw [← power_pick hj, ← power_pick hpick]
    exact hmax b' hb' j ((exoticFor_eq_some (hl b' hb')).mpr ⟨hj, hbeats'⟩)

/-- **The exotic of a category goes where the offer leads**, and nothing else changes. -/
theorem get?_putExotic (order : category.Pairwise fun b b' => b.index < b'.index)
    (hl : ∀ b ∈ category, l.powerAt b = (ch.offer c items).plain b) (b : Bucket) :
    (putExotic c ch.id (exotics items ch) l category).get? b =
      if (ch.offer c items).Leads category b then pick c items ch true b else l.get? b := by
  have leads := exoticOf_leads order hl
  unfold putExotic
  cases hbest : exoticOf c ch.id (exotics items ch) l category with
  | none =>
    rw [hbest] at leads
    rw [if_neg fun h => leads b h.1 h.2.1]
  | some e =>
    obtain ⟨b₀, i₀⟩ := e
    rw [hbest] at leads
    simp only [get?_insert]
    by_cases hb : b = b₀
    · rw [if_pos hb, hb, if_pos leads.1, leads.2]
    · rw [if_neg hb, if_neg fun h => hb (h.unique leads.1)]

end Loadout
end Armory
