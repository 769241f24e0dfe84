import Armory.Loadout.Drawn
import Armory.Proofs.Loadout.Strongest

/-! What a loadout drawn by lot looks like, whatever the lots are. A draw puts a candidate into one bucket or
leaves it alone, and the buckets of a category that can be given an exotic are narrowed down to one before
anything is drawn for it. Main statement: the loadout has no more exotics of a category than one, or than are
worn, and takes nothing but what the character carries and can use (`Loadout.drawn_shape`). -/
namespace Armory

/-! ## Lots -/

namespace Lots

variable {α : Type}

theorem belowFrom_lt {n : Nat} (pos : 0 < n) (drawn : Nat) (words : List UInt32) :
    (belowFrom n drawn words).1 < n := by
  induction words generalizing drawn with
  | nil => exact pos
  | cons w rest ih =>
    unfold belowFrom
    dsimp only
    split
    · -- a word is less than the size of its type, so its share of `n` is less than `n`
      have word : w.toNat < Bits.size 32 := w.toNat_lt
      exact Nat.div_lt_of_lt_mul (Nat.mul_lt_mul_of_pos_right word pos)
    · exact ih _

/-- **A choice** is one of the given things, and there is none only if there is nothing to choose. -/
theorem choose_spec (l : Lots) (xs : List α) :
    match (l.choose xs).1 with
    | some a => a ∈ xs
    | none => xs = [] := by
  unfold choose
  cases xs with
  | nil => rfl
  | cons x rest =>
    have bound : (l.below (x :: rest).length).1 < (x :: rest).length :=
      belowFrom_lt (Nat.succ_pos _) _ _
    simp only [List.isEmpty_cons, Bool.false_eq_true, if_false, List.getElem?_eq_getElem bound]
    exact List.getElem_mem bound

end Lots

/-! ## Candidates -/

/-- Whether a character may use an item, whatever bucket it is for. -/
def Character.mayUse (ch : Character) (i : Item) : Bool :=
  i.guardian.accepts ch.guardian && i.requiredLevel ≤ ch.level && i.canEquip

namespace Loadout

variable {ch : Character} {e : Equipment} {filters : List Filter} {l l' worn : Loadout} {lots : Lots}
  {s : Loadout × Lots} {category buckets : List Bucket} {categories : List (List Bucket)}
  {candidates : List Item} {b c : Bucket} {i : Item} {exotic includeArmor : Bool}

theorem mem_spare :
    i ∈ spare e (ch.eligible (.ofExotic exotic)) b ↔
      i ∈ e.unequipped b ∧ ch.mayUse i = true ∧ i.isExotic = exotic := by
  rw [spare, Filter.mem_select]
  cases exotic <;>
    simp [Character.eligible, Character.mayUse, Filter.ofExotic, Filter.accepts, Item.isExotic] <;>
    tauto

/-! ## One draw after the other -/

/-- What a draw for a bucket does there: it puts a candidate into it, or leaves it alone for want of one. -/
def Draws (candidates : List Item) (before after : Option Item) : Prop :=
  (candidates = [] ∧ after = before) ∨ ∃ i ∈ candidates, after = some i

theorem get?_drawInto_of_ne (candidates : List Item) (s : Loadout × Lots) (h : c ≠ b) :
    (drawInto b candidates s).1.get? c = s.1.get? c := by
  unfold drawInto
  split
  · exact if_neg h
  · rfl

theorem draws_drawInto (b : Bucket) (candidates : List Item) (s : Loadout × Lots) :
    Draws candidates (s.1.get? b) ((drawInto b candidates s).1.get? b) := by
  have chosen := s.2.choose_spec candidates
  unfold drawInto
  split
  · rename_i i lots h
    rw [h] at chosen
    exact .inr ⟨i, chosen, if_pos rfl⟩
  · rename_i lots h
    rw [h] at chosen
    exact .inl ⟨chosen, rfl⟩

/-- Several draws, each for a bucket of its own, leave all other buckets alone. -/
theorem get?_foldl_drawInto_of_not_mem {candidates : Bucket → List Item} (h : b ∉ buckets) :
    (buckets.foldl (fun s c => drawInto c (candidates c) s) s).1.get? b = s.1.get? b := by
  induction buckets generalizing s with
  | nil => rfl
  | cons c rest ih =>
    rw [List.mem_cons, not_or] at h
    rw [List.foldl_cons, ih h.2, get?_drawInto_of_ne _ _ h.1]

theorem draws_foldl_drawInto {candidates : Bucket → List Item} (nodup : buckets.Nodup)
    (h : b ∈ buckets) :
    Draws (candidates b) (s.1.get? b)
      ((buckets.foldl (fun s c => drawInto c (candidates c) s) s).1.get? b) := by
  induction buckets generalizing s with
  | nil => cases h
  | cons c rest ih =>
    obtain ⟨apart, nodup⟩ := List.nodup_cons.mp nodup
    rw [List.foldl_cons]
    rcases List.mem_cons.mp h with rfl | h
    · rw [get?_foldl_drawInto_of_not_mem apart]
      exact draws_drawInto b _ s
    · have ne : b ≠ c := fun same => apart (same ▸ h)
      have later := ih (s := drawInto c (candidates c) s) nodup h
      rwa [get?_drawInto_of_ne _ _ ne] at later

/-! ## Exotics -/

/-- What may happen to a category that is given an exotic: one of its buckets gets a candidate, and if the
category has an exotic already, that bucket has one. -/
def Adds (candidates : Bucket → List Item) (category : List Bucket) (l l' : Loadout) : Prop :=
  ∃ b₀, (∀ b ∈ category, l.exoticAt b = true → b₀ ∈ category ∧ l.exoticAt b₀ = true) ∧
    ∀ b ∈ category, l'.get? b = l.get? b ∨ (b = b₀ ∧ ∃ i ∈ candidates b, l'.get? b = some i)

/-- The bucket for the exotic of a category is one that has an exotic, if any of them has. -/
theorem exoticBucket_spec (category : List Bucket) (s : Loadout × Lots) :
    match (exoticBucket category s).1 with
    | some b₀ => b₀ ∈ category ∧ ∀ b ∈ category, s.1.exoticAt b = true → s.1.exoticAt b₀ = true
    | none => category = [] := by
  unfold exoticBucket
  cases found : category.find? fun b => (s.1.get? b).any (·.isExotic) with
  | some b₀ => exact ⟨List.mem_of_find?_eq_some found, fun _ _ _ => List.find?_some found⟩
  | none =>
    have plain := List.find?_eq_none.mp found
    have chosen := s.2.choose_spec category
    dsimp only
    cases h : (s.2.choose category).1 with
    | some b₀ =>
      rw [h] at chosen
      exact ⟨chosen, fun b hb exotic => absurd exotic (plain b hb)⟩
    | none => rwa [h] at chosen

theorem adds_drawExotic (e : Equipment) (filters : List Filter) (s : Loadout × Lots)
    (category : List Bucket) :
    Adds (spare e filters) category s.1 (drawExotic e filters s category).1 := by
  have bucket := exoticBucket_spec category s
  unfold drawExotic
  split
  · rename_i b₀ lots h
    rw [h] at bucket
    refine ⟨b₀, fun b hb exotic => ⟨bucket.1, bucket.2 b hb exotic⟩, fun b _ => ?_⟩
    by_cases here : b = b₀
    · subst here
      rcases draws_drawInto b (spare e filters b) (s.1, lots) with ⟨-, same⟩ | drawn
      · exact .inl same
      · exact .inr ⟨rfl, drawn⟩
    · exact .inl (get?_drawInto_of_ne _ _ here)
  · rename_i lots h
    rw [h] at bucket
    have none : category = [] := bucket
    subst none
    exact ⟨.kinetic, by simp, by simp⟩

theorem get?_drawExotic_of_not_mem (e : Equipment) (filters : List Filter) (s : Loadout × Lots)
    (h : b ∉ category) : (drawExotic e filters s category).1.get? b = s.1.get? b := by
  have bucket := exoticBucket_spec category s
  unfold drawExotic
  split
  · rename_i b₀ lots h₀
    rw [h₀] at bucket
    exact get?_drawInto_of_ne _ _ fun same => h (same ▸ bucket.1)
  · rfl

theorem get?_foldl_drawExotic_of_not_mem (h : ∀ category ∈ categories, b ∉ category) :
    (categories.foldl (drawExotic e filters) s).1.get? b = s.1.get? b := by
  induction categories generalizing s with
  | nil => rfl
  | cons category rest ih =>
    obtain ⟨here, rest'⟩ := List.forall_mem_cons.mp h
    rw [List.foldl_cons, ih rest', get?_drawExotic_of_not_mem e filters s here]

/-- What happens to a category is a matter of its own buckets. -/
theorem Adds.congr {l₁ l₁' : Loadout} {candidates : Bucket → List Item}
    (h : Adds candidates category l l') (before : ∀ b ∈ category, l₁.get? b = l.get? b)
    (after : ∀ b ∈ category, l₁'.get? b = l'.get? b) : Adds candidates category l₁ l₁' := by
  obtain ⟨b₀, pinned, added⟩ := h
  refine ⟨b₀, fun b hb exotic => ?_, fun b hb => ?_⟩
  · rw [exoticAt, before b hb] at exotic
    obtain ⟨hb₀, exotic₀⟩ := pinned b hb exotic
    exact ⟨hb₀, by rwa [exoticAt, before b₀ hb₀]⟩
  · rw [after b hb, before b hb]
    exact added b hb

/-- Categories without a common bucket are given their exotics independently. -/
theorem adds_foldl_drawExotic
    (disjoint : categories.Pairwise fun category category' => ∀ b ∈ category', b ∉ category)
    (h : category ∈ categories) :
    Adds (spare e filters) category s.1 (categories.foldl (drawExotic e filters) s).1 := by
  induction categories generalizing s with
  | nil => cases h
  | cons first rest ih =>
    obtain ⟨apart, disjoint⟩ := List.pairwise_cons.mp disjoint
    rw [List.foldl_cons]
    rcases List.mem_cons.mp h with rfl | h
    · refine (adds_drawExotic e filters s category).congr (fun _ _ => rfl) fun b hb => ?_
      exact get?_foldl_drawExotic_of_not_mem fun other ho hb' => apart other ho b hb' hb
    · refine (ih disjoint h).congr (fun b hb => ?_) fun _ _ => rfl
      exact (get?_drawExotic_of_not_mem e filters s (apart category h b hb)).symm

/-- **An exotic at most is added**: a category has no more exotics than before, or no more than one. -/
theorem Adds.exoticCount_le {candidates : Bucket → List Item} (h : Adds candidates category l l')
    (nodup : category.Nodup) : l'.exoticCount category ≤ max 1 (l.exoticCount category) := by
  obtain ⟨b₀, pinned, added⟩ := h
  by_cases any : ∃ b ∈ category, l.exoticAt b = true
  · -- the bucket that gets a candidate has an exotic, so it makes no difference
    obtain ⟨b, hb, exotic⟩ := any
    obtain ⟨-, exotic₀⟩ := pinned b hb exotic
    have fewer : l'.exoticCount category ≤ l.exoticCount category := by
      refine List.countP_mono_left fun b hb exotic' => ?_
      rcases added b hb with same | ⟨rfl, -⟩
      · rwa [same] at exotic'
      · exact exotic₀
    exact Nat.le_trans fewer (Nat.le_max_right _ _)
  · -- no bucket has one, so only the one that gets a candidate can
    have only : ∀ b ∈ category, l'.exoticAt b = true → b = b₀ := by
      intro b hb exotic'
      rcases added b hb with same | ⟨here, -⟩
      · rw [exoticAt, same] at exotic'
        exact absurd ⟨b, hb, exotic'⟩ any
      · exact here
    refine Nat.le_trans ?_ (Nat.le_max_left _ _)
    rw [exoticCount_le_one nodup]
    exact fun b hb b' hb' h h' => (only b hb h).trans (only b' hb' h').symm

/-! ## The shape of a drawn loadout -/

theorem mem_categories_of_drawn (hc : category ∈ drawnCategories includeArmor) :
    category ∈ Bucket.categories := by
  have all : ∀ a, ∀ category ∈ drawnCategories a, category ∈ Bucket.categories := by decide
  exact all includeArmor category hc

theorem nodup_drawnCategories (includeArmor : Bool) : (drawnCategories includeArmor).flatten.Nodup := by
  cases includeArmor <;> decide

theorem disjoint_drawnCategories (includeArmor : Bool) :
    (drawnCategories includeArmor).Pairwise
      fun category category' => ∀ b ∈ category', b ∉ category := by
  cases includeArmor <;> decide

/-- What a loadout is like that has been drawn for a character from what it carries, starting from what it
wears. -/
structure Redrawn (ch : Character) (e : Equipment) (includeArmor : Bool) (worn l : Loadout) :
    Prop where
  rule : ∀ category ∈ drawnCategories includeArmor,
    l.exoticCount category ≤ max 1 (worn.exoticCount category)
  entries : ∀ b, l.get? b = worn.get? b ∨
    ∃ i ∈ e.unequipped b, ch.mayUse i = true ∧ l.get? b = some i
  renewed : ∀ category ∈ drawnCategories includeArmor, ∀ b ∈ category,
    (∃ i ∈ e.unequipped b, ch.mayUse i = true ∧ i.isExotic = false) →
      ∃ i ∈ e.unequipped b, l.get? b = some i
  /-- One bucket at most gets an exotic; the others keep what they have or get something plain. -/
  one : ∀ category ∈ drawnCategories includeArmor, ∃ b₀, ∀ b ∈ category, b ≠ b₀ →
    l.get? b = worn.get? b ∨ ∃ i ∈ e.unequipped b, i.isExotic = false ∧ l.get? b = some i
  kept : ∀ b ∉ (drawnCategories includeArmor).flatten, l.get? b = worn.get? b

theorem redrawn_redraw (ch : Character) (e : Equipment) (includeArmor : Bool) (worn : Loadout)
    (lots : Lots) : Redrawn ch e includeArmor worn (redraw ch e includeArmor (worn, lots)).1 := by
  let plain := spare e (ch.eligible (.ofExotic false))
  let exotic := spare e (ch.eligible (.ofExotic true))
  let s := (drawnCategories includeArmor).flatten.foldl (fun s b => drawInto b (plain b) s) (worn, lots)
  let l := ((drawnCategories includeArmor).foldl (drawExotic e (ch.eligible (.ofExotic true))) s).1
  show Redrawn ch e includeArmor worn l
  -- a bucket is drawn for once without exotics, and then once more if an exotic falls to it
  have first : ∀ category ∈ drawnCategories includeArmor, ∀ b ∈ category,
      Draws (plain b) (worn.get? b) (s.1.get? b) := fun category hc b hb =>
    draws_foldl_drawInto (nodup_drawnCategories includeArmor) (List.mem_flatten_of_mem hc hb)
  have second : ∀ category ∈ drawnCategories includeArmor, Adds exotic category s.1 l :=
    fun category hc => adds_foldl_drawExotic (disjoint_drawnCategories includeArmor) hc
  have outcomes : ∀ category ∈ drawnCategories includeArmor, ∃ b₀, ∀ b ∈ category,
      Draws (plain b) (worn.get? b) (l.get? b) ∨ (b = b₀ ∧ ∃ i ∈ exotic b, l.get? b = some i) := by
    intro category hc
    obtain ⟨b₀, -, added⟩ := second category hc
    refine ⟨b₀, fun b hb => (added b hb).imp_left fun same => ?_⟩
    rw [same]
    exact first category hc b hb
  have plain_of_mem : ∀ {b i}, i ∈ plain b →
      i ∈ e.unequipped b ∧ ch.mayUse i = true ∧ i.isExotic = false := mem_spare.mp
  have exotic_of_mem : ∀ {b i}, i ∈ exotic b →
      i ∈ e.unequipped b ∧ ch.mayUse i = true ∧ i.isExotic = true := mem_spare.mp
  have kept : ∀ b ∉ (drawnCategories includeArmor).flatten, l.get? b = worn.get? b := by
    intro b hb
    have away : ∀ category ∈ drawnCategories includeArmor, b ∉ category :=
      fun category hc hmem => hb (List.mem_flatten_of_mem hc hmem)
    exact (get?_foldl_drawExotic_of_not_mem away).trans (get?_foldl_drawInto_of_not_mem hb)
  constructor
  case kept => exact kept
  case rule =>
    intro category hc
    have fewer : s.1.exoticCount category ≤ worn.exoticCount category := by
      refine List.countP_mono_left fun b hb isExotic => ?_
      rcases first category hc b hb with ⟨-, same⟩ | ⟨i, hi, new⟩
      · rwa [same] at isExotic
      · rw [new] at isExotic
        have isPlain := (plain_of_mem hi).2.2
        simp [isPlain] at isExotic
    have most := (second category hc).exoticCount_le
      (Bucket.nodup_of_mem_categories (mem_categories_of_drawn hc))
    omega
  case entries =>
    intro b
    by_cases hb : b ∈ (drawnCategories includeArmor).flatten
    · obtain ⟨category, hc, hb⟩ := List.mem_flatten.mp hb
      obtain ⟨b₀, outcome⟩ := outcomes category hc
      rcases outcome b hb with (⟨-, same⟩ | ⟨i, hi, new⟩) | ⟨-, i, hi, new⟩
      · exact .inl same
      · exact .inr ⟨i, (plain_of_mem hi).1, (plain_of_mem hi).2.1, new⟩
      · exact .inr ⟨i, (exotic_of_mem hi).1, (exotic_of_mem hi).2.1, new⟩
    · exact .inl (kept b hb)
  case renewed =>
    rintro category hc b hb ⟨i, mem, usable, isPlain⟩
    obtain ⟨b₀, outcome⟩ := outcomes category hc
    rcases outcome b hb with (⟨none, -⟩ | ⟨j, hj, new⟩) | ⟨-, j, hj, new⟩
    · have candidate : i ∈ plain b := mem_spare.mpr ⟨mem, usable, isPlain⟩
      rw [none] at candidate
      cases candidate
    · exact ⟨j, (plain_of_mem hj).1, new⟩
    · exact ⟨j, (exotic_of_mem hj).1, new⟩
  case one =>
    intro category hc
    obtain ⟨b₀, outcome⟩ := outcomes category hc
    refine ⟨b₀, fun b hb ne => ?_⟩
    rcases outcome b hb with (⟨-, same⟩ | ⟨i, hi, new⟩) | ⟨here, -⟩
    · exact .inl same
    · exact .inr ⟨i, (plain_of_mem hi).1, (plain_of_mem hi).2.2, new⟩
    · exact absurd here ne

theorem drawn_eq (p : Profile) (destination : CharacterId) (includeArmor : Bool) (lots : Lots) :
    drawn p destination includeArmor lots =
      match p.character? destination, p.equipment? destination with
      | none, _ => .error (.characterNotFound destination)
      | some _, none => .ok ((p.loadout? destination).getD .empty, lots)
      | some ch, some e => .ok (redraw ch e includeArmor ((p.loadout? destination).getD .empty, lots)) := by
  unfold drawn Profile.requireCharacter
  cases p.character? destination with
  | none => rfl
  | some ch => cases p.equipment? destination <;> rfl

/-- Every item of a drawn loadout is worn already, or carried by the character. -/
theorem get?_drawn {p : Profile} {destination : CharacterId} {rest : Lots}
    (h : drawn p destination includeArmor lots = .ok (l, rest)) (hi : l.get? b = some i) :
    ((p.loadout? destination).getD .empty).get? b = some i ∨
      ∃ e, p.equipment? destination = some e ∧ i ∈ e.unequipped b := by
  rw [drawn_eq] at h
  cases hch : p.character? destination with
  | none => simp [hch] at h
  | some ch =>
    cases he : p.equipment? destination with
    | none =>
      simp only [hch, he, Except.ok.injEq, Prod.mk.injEq] at h
      exact .inl (h.1 ▸ hi)
    | some e =>
      simp only [hch, he, Except.ok.injEq] at h
      have redrawn := redrawn_redraw ch e includeArmor ((p.loadout? destination).getD .empty) lots
      rw [h] at redrawn
      rcases redrawn.entries b with same | ⟨j, hj, -, new⟩
      · exact .inl (same ▸ hi)
      · obtain rfl := Option.some.inj (new.symm.trans hi)
        exact .inr ⟨e, rfl, hj⟩

/-- **The shape of a drawn loadout**, for every sequence of random words. Nothing is drawn for a character
that the profile does not have; one without equipment keeps what it wears; and for every other character the
loadout is what the draws make of what the character wears and carries. -/
theorem drawn_shape (p : Profile) (destination : CharacterId) (includeArmor : Bool) (lots : Lots) :
    let worn := (p.loadout? destination).getD .empty
    match p.character? destination, p.equipment? destination with
    | none, _ => drawn p destination includeArmor lots = .error (.characterNotFound destination)
    | some _, none => drawn p destination includeArmor lots = .ok (worn, lots)
    | some ch, some e => ∃ l rest, drawn p destination includeArmor lots = .ok (l, rest) ∧
        Redrawn ch e includeArmor worn l := by
  intro worn
  rw [drawn_eq]
  cases p.character? destination with
  | none => rfl
  | some ch =>
    cases p.equipment? destination with
    | none => rfl
    | some e => exact ⟨_, _, rfl, redrawn_redraw ch e includeArmor worn lots⟩

end Loadout
end Armory
