import Armory.Proofs.Profile.Reported
import Armory.Proofs.Table

/-! The order in which a snapshot lists its characters. Main statement: where characters are told apart by their ids
and by when they were played, profiles of snapshots that list them in different orders differ in the order of their
items only (`Profile.assemble_reordered`). -/
namespace Armory

variable {s s' : Snapshot} {c : Catalog} {detailedOnly : Bool}

/-- Two snapshots that differ at most in the order of their characters. -/
structure Snapshot.Reordered (s s' : Snapshot) : Prop where
  membership : s'.membership = s.membership
  characters : s'.characters.Perm s.characters
  profileInventory : s'.profileInventory = s.profileInventory
  currencies : s'.currencies = s.currencies
  instances : s'.instances = s.instances

namespace Snapshot.Reordered

theorem details? (h : s.Reordered s') (raw : RawItem) : s'.details? raw = s.details? raw := by
  rw [Snapshot.details?, Snapshot.details?, h.instances]

theorem resolveAll (h : s.Reordered s') (owner : Option CharacterId) (worn : Bool) (raws : List RawItem) :
    s'.resolveAll c owner worn raws = s.resolveAll c owner worn raws := by
  simp only [Snapshot.resolveAll, h.details?]

theorem currencyItems (h : s.Reordered s') : s'.currencyItems c = s.currencyItems c := by
  rw [Snapshot.currencyItems, Snapshot.currencyItems, h.currencies]

theorem wornItems (h : s.Reordered s') (e : CharacterSnapshot) : s'.wornItems c e = s.wornItems c e :=
  h.resolveAll _ _ _

theorem carriedItems (h : s.Reordered s') (e : CharacterSnapshot) :
    s'.carriedItems c e = s.carriedItems c e :=
  h.resolveAll _ _ _

/-- The items come in another order. -/
theorem resolvedItems (h : s.Reordered s') : (s'.resolvedItems c).Perm (s.resolvedItems c) := by
  simp only [Snapshot.resolvedItems, h.currencyItems, h.resolveAll, h.profileInventory, h.wornItems,
    h.carriedItems]
  exact (h.characters.flatMap_right _).append_left _

theorem items (h : s.Reordered s') :
    (Profile.assemble s' c detailedOnly).items.Perm (Profile.assemble s c detailedOnly).items :=
  (h.resolvedItems.filter _).map _

end Snapshot.Reordered

/-! ## What the order has no bearing on -/

theorem Time.Instant.notAfter_antisymm {a b : Instant} (h : a.notAfter b = true)
    (h' : b.notAfter a = true) : a = b := by
  cases a
  cases b
  simp only [notAfter, Bool.or_eq_true, Bool.and_eq_true, decide_eq_true_eq, beq_iff_eq] at h h'
  rw [mk.injEq]
  omega

/-- Characters that were played at different instants have one order. -/
theorem Character.latestFirst_perm {cs cs' : List Character} (perm : cs'.Perm cs)
    (apart : (cs.map (·.lastPlayed)).Nodup) : latestFirst cs' = latestFirst cs := by
  have same : (latestFirst cs').Perm (latestFirst cs) :=
    (List.mergeSort_perm _ _).trans (perm.trans (List.mergeSort_perm _ _).symm)
  refine same.eq_of_pairwise (fun a b ha hb h h' => ?_) (pairwise_latestFirst cs')
    (pairwise_latestFirst cs)
  have ha : a ∈ cs := perm.mem_iff.mp (List.mem_mergeSort.mp ha)
  have hb : b ∈ cs := List.mem_mergeSort.mp hb
  exact List.inj_on_of_nodup_map apart ha hb (Time.Instant.notAfter_antisymm h' h)

/-- A table with an entry for each of some characters with different ids does not depend on their order. -/
theorem Snapshot.Reordered.ofList {β : Type} (h : s.Reordered s')
    (apart : (s.characters.map (·.character.id)).Nodup) {f f' : CharacterSnapshot → β} (same : f' = f) :
    Table.ofList (s'.characters.map fun e => (e.character.id, f' e)) =
      Table.ofList (s.characters.map fun e => (e.character.id, f e)) := by
  subst same
  refine (Table.ofList_perm (h.characters.map _).symm ?_).symm
  rwa [List.map_map]

/-- **The order of the characters shows in the order of the items only**, if their ids and the instants at which they
were played tell them apart. -/
theorem Profile.assemble_reordered (h : s.Reordered s')
    (apart : (s.characters.map (·.character.id)).Nodup)
    (instants : (s.characters.map (·.character.lastPlayed)).Nodup) :
    assemble s' c detailedOnly =
      { assemble s c detailedOnly with items := (assemble s' c detailedOnly).items } := by
  have characters : (assemble s' c detailedOnly).characters = (assemble s c detailedOnly).characters := by
    refine Character.latestFirst_perm (h.characters.map _) ?_
    rwa [List.map_map]
  have loadouts : (assemble s' c detailedOnly).loadouts = (assemble s c detailedOnly).loadouts :=
    h.ofList apart (funext fun e => by rw [h.wornItems])
  have equipments : (assemble s' c detailedOnly).equipments = (assemble s c detailedOnly).equipments :=
    h.ofList apart (funext fun e => by rw [h.wornItems, h.carriedItems])
  dsimp only
  rw [← characters, ← loadouts, ← equipments]
  simp only [assemble, h.membership]

end Armory
