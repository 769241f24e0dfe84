import Armory.Proofs.Gear.AnyOrder
import Armory.Proofs.Gear.BestEffort
import Armory.Proofs.Item.First
import Armory.Proofs.Item.InPlace

/-! What others put on instead. An item that is to come from another character, and is worn there, is replaced by the
first of the weakest items that its holder can wear in its place (`Equip.weakest_of_substitute?`). Main statement:
against whatever game, there is one call for each such item for which there is a replacement, to its holder and for
that replacement; the others are reported without one, and nothing else is worn one by one
(`Equip.replacements_sent`). -/
namespace Armory.Equip

open Dialogue (Exchange)
open Item (FirstWith)

variable {p : Profile} {l : Loadout} {destination holder : CharacterId} {b : Bucket} {i s : Item}
  {talk : List (Exchange Game)}

/-! ## The choice -/

/-- The items that can take the place of another one, after one pass over the items of the profile for what the
holder has, and one for what its class can wear. -/
def candidates (i : Item) (holder : CharacterId) (p : Profile) : Array Item :=
  let owned := Filter.retain
    [.ownedBy (some holder), .bucketHash i.bucketHash, .notTier .exotic, .equippable true] p.items.toArray
  match p.character? holder with
  | some c => Filter.retain [.usableBy c.guardian] owned
  | none => owned

/-- The passes can be made in place. -/
theorem substitutes_eq (i : Item) (holder : CharacterId) (p : Profile) :
    substitutes i holder p = Item.weakestFirst
      ((candidates i holder p).toList.filter fun s => !s.sameInstance i && s.instanceId.isSome) := by
  unfold substitutes candidates
  cases p.character? holder <;> simp only [Filter.select_eq_filter, Filter.toList_retain]

/-- An item that can take the place of another one, and is the first of the weakest ones that can. -/
def Weakest (p : Profile) (holder : CharacterId) (i s : Item) : Prop :=
  FirstWith (fun s => Replaces p holder i s ∧ ∀ t, Replaces p holder i t → s.power ≤ t.power) p.items s

/-- The candidates stand in the order of the profile. -/
theorem exists_substitutes_eq_filter (i : Item) (holder : CharacterId) (p : Profile) :
    ∃ q : Item → Bool, substitutes i holder p = Item.weakestFirst (p.items.filter q) := by
  rw [substitutes_eq]
  unfold candidates
  cases p.character? holder <;> simp only [Filter.toList_retain, List.filter_filter] <;> exact ⟨_, rfl⟩

theorem head?_substitutes (h : (substitutes i holder p).head? = some s) : Weakest p holder i s := by
  obtain ⟨q, ordered⟩ := exists_substitutes_eq_filter i holder p
  have picked : ∀ t, (t ∈ p.items ∧ q t = true) ↔ Replaces p holder i t := by
    intro t
    rw [← mem_substitutes, ordered, Item.mem_weakestFirst, List.mem_filter]
  rw [ordered, Item.head?_weakestFirst, List.find?_filter, Item.find?_eq_some_iff_firstWith] at h
  refine (Item.firstWith_congr fun t ht => ?_).mp h
  simp only [decide_eq_true_eq, List.mem_filter, picked]
  rw [← picked t]
  simp [ht]

theorem weakest_of_substitute? {id : String} (h : substitute? i holder p = some (s, id)) :
    Weakest p holder i s ∧ s.instanceId = some id := by
  unfold substitute? at h
  split at h
  · cases h
  · rename_i first rest listed
    obtain ⟨id, hid, same⟩ := Option.map_eq_some_iff.mp h
    cases same
    exact ⟨head?_substitutes (by rw [listed, List.head?_cons]), hid⟩

theorem not_replaces_of_substitute? (h : substitute? i holder p = none) : ¬ ∃ s, Replaces p holder i s := by
  rintro ⟨s, replaces⟩
  obtain ⟨s, id, found, -⟩ := exists_substitute? replaces
  rw [h] at found
  cases found

/-! ## One item -/

/-- What is done about an item that its holder wears: the calls that are made, and what is reported. -/
structure Handled (p : Profile) (b : Bucket) (i : Item) (holder : CharacterId) (talk : List (Exchange Game))
    (r : Swap) : Prop where
  called_iff : (∃ request reply, talk = [⟨.equipItem request, reply⟩] ∧ request.characterId = holder) ↔
    ∃ s, Replaces p holder i s
  /-- What is sent, and reported with the reply, is the first of the weakest. -/
  weakest : (∃ s, Replaces p holder i s) → ∃ s id reply, Weakest p holder i s ∧ s.instanceId = some id ∧
    talk = [⟨.equipItem ⟨id, holder, p.membershipType⟩, reply⟩] ∧
    r = ⟨holder, b, i.itemHash, some s.itemHash, some (.ofReply reply)⟩
  skipped : (¬ ∃ s, Replaces p holder i s) → talk = [] ∧ r = ⟨holder, b, i.itemHash, none, none⟩

theorem handled_of_goes_swap {r : Swap} (h : (swap b i holder p).Goes talk r) :
    Handled p b i holder talk r := by
  unfold swap at h
  cases hs : substitute? i holder p with
  | none =>
    simp only [hs] at h
    obtain ⟨rfl, rfl⟩ := Dialogue.goes_done.mp h
    have none := not_replaces_of_substitute? hs
    exact {
      called_iff := iff_of_false (by simp) none
      weakest replaces := absurd replaces none
      skipped _ := ⟨rfl, rfl⟩ }
  | some s =>
    obtain ⟨s, id⟩ := s
    simp only [hs] at h
    obtain ⟨reply, rfl, rfl⟩ := Dialogue.goes_ask_done.mp h
    obtain ⟨weakest, hid⟩ := weakest_of_substitute? hs
    have replaces : ∃ s, Replaces p holder i s := ⟨s, weakest.1.1⟩
    exact {
      called_iff := iff_of_true ⟨_, reply, rfl, rfl⟩ replaces
      weakest _ := ⟨s, id, reply, weakest, hid, rfl, rfl⟩
      skipped none := absurd replaces none }

/-! ## All of them -/

/-- A call that does not ask a character to wear a single item. -/
def NotEquipItem (c : Game.Call) : Prop := ∀ r, c ≠ .equipItem r

theorem notEquipItem_batch (items : List Item) (goal : Option CharacterId) (count : Option Nat)
    (membershipType : Int) : (Transfer.batch items goal count membershipType).Calls NotEquipItem :=
  Transfer.calls_batch_of_route fun _ _ _ _ _ => by simp

theorem notEquipItem_putOn (items : List Item) (membershipType : Int) :
    (putOn items destination membershipType).Calls NotEquipItem := by
  unfold putOn
  split
  · exact .done _
  · exact .ask (by simp [NotEquipItem]) fun _ => .done _

/-- The replacements come first when a loadout is put on. -/
theorem handled_of_goes_wearing {report : Report} (h : (wearing l destination p).Goes talk report) :
    ∃ parts rest, talk = (parts.map (·.1)).flatten ++ rest ∧ report.swaps = parts.map (·.2) ∧
      List.Forall₂ (fun (b, i, holder) (talk, r) => Handled p b i holder talk r) (wornElsewhere l destination) parts ∧
      ∀ e ∈ rest, NotEquipItem e.1 := by
  simp only [wearing, Procedure.bind_eq, Procedure.pure_eq] at h
  obtain ⟨swaps, first, rest, rfl, hswaps, h⟩ := Procedure.goes_andThen.mp h
  obtain ⟨parts, members, rfl, rfl⟩ := Dialogue.goes_each (Procedure.goes_ofDialogue.mp hswaps)
  refine ⟨parts, rest, rfl, ?_, members.imp fun w part => handled_of_goes_swap, ?_⟩
  · obtain ⟨_, _, _, -, -, h⟩ := Procedure.goes_andThen.mp h
    obtain ⟨_, _, _, -, -, h⟩ := Procedure.goes_andThen.mp h
    obtain ⟨_, _, _, -, -, h⟩ := Procedure.goes_andThen.mp h
    obtain ⟨-, rfl⟩ := Procedure.goes_done.mp h
    rfl
  · refine Procedure.Calls.of_goes ?_ h
    exact (notEquipItem_batch _ _ _ _).andThen fun _ => (notEquipItem_batch _ _ _ _).andThen fun _ =>
      (Procedure.Calls.ofDialogue (notEquipItem_putOn _ _)).andThen fun _ => .done _

/-- Where everything leads back to what it was made of, what is made of a list stands in its order. -/
theorem map_filterMap_sublist {α β : Type} {f : α → Option β} {g : β → α}
    (back : ∀ x y, f x = some y → g y = x) (xs : List α) : ((xs.filterMap f).map g).Sublist xs := by
  induction xs with
  | nil => exact .slnil
  | cons x xs ih =>
    cases h : f x with
    | none =>
      rw [List.filterMap_cons_none h]
      exact ih.cons x
    | some y =>
      rw [List.filterMap_cons_some h, List.map_cons, back x y h]
      exact ih.cons_cons x

/-- No bucket has two items that others wear. -/
theorem wornElsewhere_sublist (l : Loadout) (destination : CharacterId) :
    ((wornElsewhere l destination).map (·.1)).Sublist Bucket.all := by
  rw [wornElsewhere, Loadout.entries, List.filterMap_filterMap]
  refine map_filterMap_sublist (fun b w h => ?_) Bucket.all
  obtain ⟨e, he, h⟩ := Option.bind_eq_some_iff.mp h
  obtain ⟨i, -, rfl⟩ := Option.map_eq_some_iff.mp he
  cases held : i.owner with
  | none => simp [held] at h
  | some holder =>
    simp only [held, Option.ite_none_right_eq_some, Option.some.injEq] at h
    obtain ⟨-, rfl⟩ := h
    rfl

/-- **What others wear of a loadout is replaced on them.** Without a character to put the loadout on there is an
error, and nothing is called. For a character the loadout can be put on, and in every run there is a report, whatever
the game replies: the items of the loadout that others wear come first, one for a bucket at most, and each is handled
for itself; after them no single item is worn. -/
theorem replacements_sent (p : Profile) (l : Loadout) (destination : CharacterId) :
    (∀ b i holder, (b, i, holder) ∈ wornElsewhere l destination ↔
      l.get? b = some i ∧ i.equippedOn holder = true ∧ holder ≠ destination) ∧
    ((wornElsewhere l destination).map (·.1)).Sublist Bucket.all ∧
    (p.character? destination = none → ∀ {σ : Type} (answer : Dialogue.Answering Game σ) (s t : σ) talk q,
      (equipping l destination p).Runs answer s talk q t ↔
        talk = [] ∧ .error (.characterNotFound destination) = q ∧ s = t) ∧
    ((p.character? destination).isSome → ∀ {σ : Type} (answer : Dialogue.Answering Game σ) (s : σ),
      (∃ talk q t, (equipping l destination p).Runs answer s talk q t) ∧
      ∀ talk q t, (equipping l destination p).Runs answer s talk q t →
        ∃ (report : Report) (parts : List (List (Exchange Game) × Swap)) (rest : List (Exchange Game)),
          q = .ok report ∧ talk = (parts.map (·.1)).flatten ++ rest ∧ report.swaps = parts.map (·.2) ∧
          List.Forall₂ (fun (b, i, holder) (talk, r) => Handled p b i holder talk r)
            (wornElsewhere l destination) parts ∧
          ∀ e ∈ rest, NotEquipItem e.1) := by
  refine ⟨fun b i holder => mem_wornElsewhere, wornElsewhere_sublist l destination,
    fun missing σ answer s t talk q => ?_,
    fun found σ answer s => ⟨⟨_, _, _, Procedure.runs_inTurn answer _ s⟩, fun talk q t run => ?_⟩⟩
  · rw [equipping, Profile.requireCharacter, missing]
    exact Procedure.runs_done
  · obtain ⟨character, found⟩ := Option.isSome_iff_exists.mp found
    have member : ∃ ch ∈ p.characters, ch.id = destination :=
      ⟨character, List.mem_of_find?_eq_some found, by simpa using List.find?_some found⟩
    have goes := run.goes
    rw [equipping_eq_wearing member] at goes
    obtain ⟨report, talk, last, rfl, wears, ended⟩ := Procedure.goes_andThen.mp goes
    obtain ⟨rfl, rfl⟩ := Procedure.goes_done.mp ended
    obtain ⟨parts, rest, rfl, swaps, handled, later⟩ := handled_of_goes_wearing wears
    exact ⟨report, parts, rest, rfl, List.append_nil _, swaps, handled, later⟩

/-! ### A tie behind an exotic -/

/-- What a hunter wears and carries: an exotic that is weaker than the rest, and two legendaries of one power. -/
def wardrobe : List Item :=
  [sidearm "201" "hunter" true, .weapon 1498876634 "202" .exotic 500 "hunter" false,
    .weapon 1498876634 "203" .legendary 590 "hunter" false, .weapon 1498876634 "204" .legendary 580 "hunter" false,
    .weapon 1498876634 "205" .legendary 580 "hunter" false]

/-- The weapon in hand does not replace itself, and an exotic replaces nothing. -/
theorem replaces_wardrobe_iff :
    Replaces (Profile.ofItems rivals wardrobe) "hunter" (sidearm "201" "hunter" true) s ↔ s ∈ wardrobe.drop 2 := by
  constructor
  · rintro ⟨mem, -, -, plain, -, -, -, other⟩
    rw [Profile.items_ofItems] at mem
    simp only [wardrobe, List.mem_cons, List.not_mem_nil, or_false] at mem
    rcases mem with rfl | rfl | rfl | rfl | rfl
    · exact absurd other (by decide)
    · exact absurd rfl plain
    · decide
    · decide
    · decide
  · intro hs
    have legendary : ∀ s ∈ wardrobe.drop 2, s ∈ wardrobe ∧ s.owner = some "hunter" ∧
        s.bucketHash = 1498876634 ∧
        s.tier ≠ .exotic ∧ s.canEquip = true ∧ s.guardian = .unknown ∧ s.instanceId.isSome ∧
        s.sameInstance (sidearm "201" "hunter" true) = false := by decide
    obtain ⟨mem, held, bucket, plain, wearable, anyone, instanced, other⟩ := legendary s hs
    exact ⟨by rwa [Profile.items_ofItems], held, bucket, plain, wearable, fun c _ => by rw [anyone]; rfl, instanced,
      other⟩

theorem weakest_wardrobe :
    Weakest (Profile.ofItems rivals wardrobe) "hunter" (sidearm "201" "hunter" true)
      (.weapon 1498876634 "204" .legendary 580 "hunter" false) := by
  simp only [Weakest, replaces_wardrobe_iff, Profile.items_ofItems]
  exact ⟨by decide, wardrobe.take 3, wardrobe.drop 4, rfl, by decide⟩

/-- Even if the game refuses everything, the hunter is asked once to wear something else: the first of the weakest
legendaries. -/
theorem replacements_sent_wardrobe :
    let refuse : Dialogue.Answering Game Unit := fun _ s => (.error (.transport "refused"), s)
    let d := loadout (Loadout.empty.insert .kinetic (sidearm "201" "hunter" true)) "titan"
      (Profile.ofItems rivals wardrobe)
    ∃ report rest, (Dialogue.run refuse d ()).value = .ok report ∧
      (Dialogue.exchanges refuse d ()).map (·.1) = .equipItem ⟨"204", "hunter", 2⟩ :: rest ∧
      (∀ c ∈ rest, NotEquipItem c) ∧ report.swaps.map (·.substitute) = [some 1] := by
  intro refuse d
  obtain ⟨-, -, -, found⟩ := replacements_sent (Profile.ofItems rivals wardrobe)
    (Loadout.empty.insert .kinetic (sidearm "201" "hunter" true)) "titan"
  have titan : ((Profile.ofItems rivals wardrobe).character? "titan").isSome := by
    rw [Profile.character?, List.find?_isSome, Profile.characters_ofItems]
    exact ⟨.veteran "titan" .titan, List.mem_mergeSort.mpr List.mem_cons_self, by decide⟩
  obtain ⟨report, parts, rest, value, talk, swaps, handled, later⟩ :=
    (found titan refuse ()).2 _ _ _ (Procedure.runs_inTurn refuse _ ())
  have worn : wornElsewhere (Loadout.empty.insert .kinetic (sidearm "201" "hunter" true)) "titan" =
      [(.kinetic, sidearm "201" "hunter" true, "hunter")] := by decide
  rw [worn] at handled
  obtain ⟨⟨calls, swap⟩, parts, one, others, rfl⟩ := List.forall₂_cons_left_iff.mp handled
  rw [List.forall₂_nil_left_iff] at others
  subst others
  obtain ⟨s, id, reply, weakest, hid, rfl, rfl⟩ := one.weakest ⟨_, weakest_wardrobe.1.1⟩
  obtain rfl := weakest.unique weakest_wardrobe
  cases hid
  refine ⟨report, rest.map (·.1), value, ?_, ?_, ?_⟩
  · rw [show Dialogue.exchanges refuse d () = _ from talk]
    rfl
  · intro c hc
    obtain ⟨e, he, rfl⟩ := List.mem_map.mp hc
    exact later e he
  · rw [swaps]
    rfl

end Armory.Equip
