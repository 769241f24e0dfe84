import Armory.Proofs.Loadout.Strongest
import Armory.Proofs.Profile.Holdings

/-! Putting the most powerful loadout on over what a character wears. Buckets that the loadout leaves empty keep
what is worn there, an exotic too. Main statement: the rule of one exotic for each category survives exactly
if every bucket that loses its say to an exotic elsewhere has something plain to wear
(`Loadout.keepsRule_putOver_strongest_iff`). -/
namespace Armory.Loadout

variable {c : Catalog} {items : List Item} {ch : Character} {l worn : Loadout}
  {category : List Bucket} {b : Bucket}

/-- What is worn after a loadout has been put on over another one. -/
def putOver (l worn : Loadout) : Loadout := ⟨fun b => (l.get? b).or (worn.get? b)⟩

@[simp] theorem get?_putOver (l worn : Loadout) (b : Bucket) :
    (l.putOver worn).get? b = (l.get? b).or (worn.get? b) := rfl

/-- Where the most powerful loadout has no exotic, it leaves the bucket empty only for want of a plain item. -/
theorem get?_strongestFor_eq_none (hc : category ∈ Bucket.categories) (hb : b ∈ category)
    (behind : ¬ (ch.offer c items).Leads category b) :
    (strongestFor c items ch).get? b = none ↔ ch.candidates c items false b = [] := by
  have hfilled := Bucket.filled_of_mem_categories hc hb
  have plain : (strongestFor c items ch).get? b = pick c items ch false b := by
    have hnot : ¬ (ch.offer c items).Overrides b := (Offer.overrides_iff hc hb).not.mpr behind
    rw [strongestFor_eq, get?_mixed hfilled, decide_eq_false hnot]
  have top := tops_pick c items ch false b
  rw [plain]
  cases hp : pick c items ch false b with
  | none =>
    rw [hp] at top
    exact ⟨fun _ => top, fun _ => rfl⟩
  | some i =>
    rw [hp] at top
    refine ⟨nofun, fun hnil => ?_⟩
    have hmem := top.1
    rw [hnil] at hmem
    cases hmem

/-- After putting the most powerful loadout on, a bucket has an exotic if it leads, or if it had one and
there is nothing plain to replace it. -/
theorem exoticAt_putOver_strongestFor (hc : category ∈ Bucket.categories) (hb : b ∈ category) :
    ((strongestFor c items ch).putOver worn).exoticAt b = true ↔
      (ch.offer c items).Leads category b ∨
        (ch.candidates c items false b = [] ∧ ¬ (ch.offer c items).Leads category b ∧
          worn.exoticAt b = true) := by
  have hlead : (strongestFor c items ch).exoticAt b = true ↔ (ch.offer c items).Leads category b :=
    exoticAt_strongestFor_iff hc hb
  by_cases leads : (ch.offer c items).Leads category b
  · obtain ⟨i, hi, hexotic⟩ := (Option.any_eq_true _ _).mp (hlead.mpr leads)
    simp [exoticAt, hi, hexotic, leads]
  · have hempty := get?_strongestFor_eq_none hc hb leads
    cases hget : (strongestFor c items ch).get? b with
    | none => simp [exoticAt, hget, hempty.mp hget, leads]
    | some i =>
      have hplain : i.isExotic = false := by
        simpa [exoticAt, hget, leads] using hlead
      have hcandidates : ch.candidates c items false b ≠ [] := fun hnil => by
        rw [hempty.mpr hnil] at hget
        cases hget
      simp [exoticAt, hget, hplain, leads, hcandidates]

/-- In one category the rule survives exactly if an exotic that is worn away from the leading bucket can be
replaced by something plain. -/
theorem exoticCount_putOver_le_one_iff (hc : category ∈ Bucket.categories)
    (rule : worn.exoticCount category ≤ 1) :
    ((strongestFor c items ch).putOver worn).exoticCount category ≤ 1 ↔
      ∀ b ∈ category, ∀ b' ∈ category, (ch.offer c items).Leads category b →
        worn.exoticAt b' = true → b' ≠ b → ch.candidates c items false b' ≠ [] := by
  have nodup := Bucket.nodup_of_mem_categories hc
  rw [exoticCount_le_one nodup] at rule ⊢
  constructor
  · intro h b hb b' hb' leads hexotic hne hnone
    have behind : ¬ (ch.offer c items).Leads category b' := fun leads' => hne (leads'.unique leads)
    refine hne (h b' hb' b hb ?_ ?_)
    · exact (exoticAt_putOver_strongestFor hc hb').mpr (.inr ⟨hnone, behind, hexotic⟩)
    · exact (exoticAt_putOver_strongestFor hc hb).mpr (.inl leads)
  · -- each of the two exotics was put on or was left on, and one left on has nothing plain to replace it
    intro h b hb b' hb' hexotic hexotic'
    rcases (exoticAt_putOver_strongestFor hc hb).mp hexotic with leads | ⟨hnone, -, hon⟩ <;>
      rcases (exoticAt_putOver_strongestFor hc hb').mp hexotic' with leads' | ⟨hnone', -, hon'⟩
    · exact leads.unique leads'
    · by_contra hne
      exact h b hb b' hb' leads hon' (fun e => hne e.symm) hnone'
    · by_contra hne
      exact h b' hb' b hb leads' hon hne hnone
    · exact rule b hb b' hb' hon hon'

/-- **When the rule of one exotic survives.** Of a character that keeps the rule, putting the most powerful
loadout on keeps it exactly if, wherever the exotic that is put on leads a category, an exotic worn in another
bucket of that category can be replaced by something plain. -/
theorem keepsRule_putOver_strongest_iff (c : Catalog) (p : Profile) {destination : CharacterId}
    {ch : Character} (member : p.character? destination = some ch) (worn : Loadout)
    (rule : worn.KeepsRule) :
    ∃ l, strongest c p destination = .ok l ∧
      ((l.putOver worn).KeepsRule ↔
        ∀ category ∈ [Bucket.weapons, Bucket.armor], ∀ b ∈ category, ∀ b' ∈ category,
          (ch.offer c p.items).Leads category b → worn.exoticAt b' = true → b' ≠ b →
            ch.candidates c p.items false b' ≠ []) := by
  refine ⟨strongestFor c p.items ch, by rw [strongest_eq, member], ?_⟩
  constructor
  · intro h category hc
    have kept := h category hc
    rwa [exoticCount_putOver_le_one_iff (mem_categories hc) (rule category hc)] at kept
  · intro h category hc
    rw [exoticCount_putOver_le_one_iff (mem_categories hc) (rule category hc)]
    exact h category hc

/-! ### An exotic that stays on -/

/-- A titan's weapons: a kinetic exotic and a plain energy weapon that are worn, and an energy exotic. -/
def sidearms : List Item :=
  [.weapon 1498876634 "101" .exotic 600 "titan" true,
   .weapon 2465295065 "102" .legendary 500 "titan" true,
   .weapon 2465295065 "103" .exotic 650 "titan" false]

/-- The titan with these weapons. -/
def armed : Profile := .ofItems [.veteran "titan" .titan] sidearms

theorem character?_armed : armed.character? "titan" = some (.veteran "titan" .titan) :=
  Profile.character?_ofItems_singleton _ _

/-- What the titan wears. -/
def sidearmsWorn : Loadout :=
  (Loadout.empty.insert .kinetic (.weapon 1498876634 "101" .exotic 600 "titan" true)).insert .energy
    (.weapon 2465295065 "102" .legendary 500 "titan" true)

/-- The energy exotic leads, and there is no plain kinetic weapon. -/
theorem sidearms_offer :
    ((Character.veteran "titan" .titan).offer .standard sidearms).Leads Bucket.weapons .energy ∧
      (Character.veteran "titan" .titan).candidates .standard sidearms false .kinetic = [] := by
  decide

/-- So the condition fails for the titan, who ends up with two exotic weapons. -/
theorem keepsRule_putOver_strongest_armed :
    sidearmsWorn.KeepsRule ∧
      ∃ l, strongest .standard armed "titan" = .ok l ∧ ¬ (l.putOver sidearmsWorn).KeepsRule := by
  have rule : sidearmsWorn.KeepsRule := by decide
  obtain ⟨l, hl, hrule⟩ :=
    keepsRule_putOver_strongest_iff .standard armed character?_armed sidearmsWorn rule
  refine ⟨rule, l, hl, fun h => ?_⟩
  have hplain := hrule.mp h Bucket.weapons (by decide) .energy (by decide) .kinetic (by decide)
  rw [armed, Profile.items_ofItems] at hplain
  exact hplain sidearms_offer.1 (by decide) (by decide) sidearms_offer.2

/-- Keeping the rule before the most powerful loadout is put on does not mean keeping it afterwards. -/
theorem exotic_left_worn :
    ¬ ∀ (c : Catalog) (p : Profile) (destination : CharacterId) (worn l : Loadout),
      p.loadout? destination = some worn → worn.KeepsRule →
        strongest c p destination = .ok l → (l.putOver worn).KeepsRule := by
  intro h
  have hl : strongest .standard armed "titan" =
      .ok (strongestFor .standard sidearms (.veteran "titan" .titan)) := by
    rw [strongest_eq, character?_armed, armed, Profile.items_ofItems]
  have rule : sidearmsWorn.KeepsRule := by decide
  have after := h .standard armed "titan" sidearmsWorn _ rfl rule hl Bucket.weapons (by decide)
  rw [exoticCount_putOver_le_one_iff (by decide) (rule Bucket.weapons (by decide))] at after
  exact after .energy (by decide) .kinetic (by decide) sidearms_offer.1 (by decide) (by decide)
    sidearms_offer.2

end Armory.Loadout
