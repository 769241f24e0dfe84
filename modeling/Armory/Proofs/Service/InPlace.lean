import Armory.Proofs.Gear.BestEffort
import Armory.Proofs.Loadout.Drawn
import Armory.Proofs.Profile.Reported
import Armory.Proofs.Service.Count
import Armory.Proofs.Service.Operation
import Armory.Service.Loadouts

/-! A drawn loadout is put on where it is. It is drawn from what the profile says that the character wears and
carries, and the profile says so of nothing else, so that nothing has to be fetched. Main statement: against
whatever partners, the operation changes nothing, or makes one call to put on what the character carries
(`Service.drawn_in_place`). -/
namespace Armory

open Dialogue (Exchange)

variable {c : Catalog} {s : Snapshot} {ch : Character} {l : Loadout} {lots rest : Lots}
  {includeArmor detailedOnly : Bool} {i : Item}

/-- Every item of a drawn loadout is worn by the character, or lies in one of its buckets. -/
theorem Loadout.held_of_drawn
    (h : drawn (.assemble s c detailedOnly) ch.id includeArmor lots = .ok (l, rest))
    (hi : i ∈ l.items) :
    i.equippedOn ch.id = true ∨
      ∃ b, i ∈ ((Profile.assemble s c detailedOnly).contents ch.id b).items := by
  obtain ⟨b, hb⟩ := Loadout.mem_items.mp hi
  rcases get?_drawn h hb with worn | ⟨e, he, carried⟩
  · cases found : (Profile.assemble s c detailedOnly).loadout? ch.id with
    | none => simp [found] at worn
    | some l =>
      rw [found] at worn
      exact .inl (Profile.worn_of_loadout? found worn)
  · refine .inr ⟨b, List.mem_append_right _ ?_⟩
    rw [Profile.contents, he]
    exact carried

/-- The character holds every item of a drawn loadout. -/
theorem Loadout.owned_of_drawn
    (h : drawn (.assemble s c detailedOnly) ch.id includeArmor lots = .ok (l, rest)) :
    ∀ i ∈ l.items, i.owner = some ch.id := by
  intro i hi
  rcases held_of_drawn h hi with worn | ⟨b, held⟩
  · simp only [Item.equippedOn, Item.ownedBy, Bool.and_eq_true, beq_iff_eq] at worn
    exact worn.2
  · exact (Profile.Made.assemble s c detailedOnly).owner_of_mem held

/-- What there is to put on of a drawn loadout, the character carries. -/
theorem Equip.carries_of_mem_idsToEquip
    (h : Loadout.drawn (.assemble s c detailedOnly) ch.id includeArmor lots = .ok (l, rest))
    {id : Int} (hid : id ∈ idsToEquip l.items ch.id) :
    ∃ raw, s.Carries ch.id raw ∧ raw.instanceId.bind parseLong? = some id := by
  obtain ⟨i, hi, number⟩ := List.mem_filterMap.mp hid
  obtain ⟨hi, unworn⟩ := List.mem_filter.mp hi
  rw [Bool.not_eq_true'] at unworn
  rcases Loadout.held_of_drawn h hi with worn | ⟨b, held⟩
  · rw [worn] at unworn
    cases unworn
  · have owner := Loadout.owned_of_drawn h i hi
    have idle : i.isEquipped = false := by
      simpa [Item.equippedOn, Item.ownedBy, owner] using unworn
    obtain ⟨raw, carries, same⟩ := Profile.carries_of_mem_contents held idle
    exact ⟨raw, carries, by rwa [same]⟩

namespace Service

variable {σ : Type} {p : Profile} {talk : List (Exchange Service)}

/-- Putting a loadout on of what the character holds takes one call at most. -/
theorem ends_equip_of_owned {r : Except ServiceError EquippedLoadout}
    (owned : ∀ i ∈ l.items, i.owner = some ch.id) (h : (equip l ch p).Ends talk r) :
    talk = [] ∨ ∃ reply : Except GameError Unit,
      talk = [⟨.game (.equipItems ⟨Equip.idsToEquip l.items ch.id, ch.id, p.membershipType⟩), reply⟩] := by
  obtain ⟨q, goes, -⟩ := ends_attempt_require h
  obtain ⟨games, rfl, own⟩ := goes_withGame goes
  rcases Equip.goes_equipping own with ⟨rfl, -⟩ | ⟨report, -, wears⟩
  · exact .inl rfl
  have calls := Equip.goes_wearing_of_owned owned wears
  unfold Equip.equipRequest? at calls
  split at calls
  · rename_i none
    rw [List.map_eq_nil_iff.mp calls]
    exact .inl rfl
  · rename_i id ids some
    obtain ⟨⟨call, reply⟩, rfl, rfl⟩ := List.map_eq_singleton_iff.mp calls
    rw [some]
    exact .inr ⟨reply, rfl⟩

/-- Once the profile of a snapshot is loaded, a loadout is drawn and put on with one call at most. -/
theorem ends_drawn {r : Except ServiceError EquippedLoadout}
    (h : Operation.Ends (do
      let character ← currentCharacter (.assemble s c detailedOnly)
      let (l, _) ← require
        (Loadout.drawn (.assemble s c detailedOnly) character.id includeArmor lots)
      equip l character (.assemble s c detailedOnly)) talk r) :
    talk = [] ∨ ∃ (ch : Character) (ids : List Int) (reply : Except GameError Unit),
      talk = [⟨.game (.equipItems ⟨ids, ch.id, s.membership.membershipType⟩), reply⟩] ∧
        s.LastPlayed ch ∧
        ∀ id ∈ ids, ∃ raw, s.Carries ch.id raw ∧ raw.instanceId.bind parseLong? = some id := by
  rcases Operation.ends_bind.mp h with ⟨e, hcurrent, -⟩ | ⟨ch, first, last, rfl, hcurrent, hdraw⟩
  · obtain ⟨rfl, -⟩ := ends_currentCharacter.mp hcurrent
    exact .inl rfl
  obtain ⟨rfl, current⟩ := ends_currentCharacter.mp hcurrent
  rcases Operation.ends_bind.mp hdraw with ⟨e, hdrawn, -⟩ | ⟨⟨l, rest⟩, first, last, rfl, hdrawn, hequip⟩
  · obtain ⟨rfl, -⟩ := ends_require.mp hdrawn
    exact .inl rfl
  obtain ⟨rfl, drawn⟩ := ends_require.mp hdrawn
  have hch : (Profile.assemble s c detailedOnly).current? = some ch := by
    split at current <;> cases current
    assumption
  have hl : Loadout.drawn (.assemble s c detailedOnly) ch.id includeArmor lots = .ok (l, rest) := by
    cases hq : Loadout.drawn (.assemble s c detailedOnly) ch.id includeArmor lots with
    | error e =>
      rw [hq] at drawn
      cases drawn
    | ok q =>
      rw [hq] at drawn
      cases drawn
      rfl
  rcases ends_equip_of_owned (Loadout.owned_of_drawn hl) hequip with rfl | ⟨reply, rfl⟩
  · exact .inl rfl
  · exact .inr ⟨ch, _, reply, rfl, Profile.lastPlayed_current? hch,
      fun id hid => Equip.carries_of_mem_idsToEquip hl hid⟩

/-- **A drawn loadout moves nothing.** For every catalog, every sequence of random words, and against partners
that reply in whatever way, every run of an operation that draws a loadout either changes nothing in the game, or
consists of three calls: it asks for the account, loads its profile, and has the character that was played last put
on items that this character carries and does not wear. -/
theorem drawn_in_place (c : Catalog) (includeArmor : Bool) (lots : Lots)
    (answer : Dialogue.Answering Service σ) {s t : σ} {result : Except ServiceError EquippedLoadout}
    (run : (equipDrawn c includeArmor lots).procedure.Runs answer s talk result t) :
    (∀ e ∈ talk, Call.changes e.1 = false) ∨
      ∃ (account : Account) (profile : Snapshot) (ch : Character) (ids : List Int)
        (reply : Except GameError Unit),
        talk = [⟨.game .currentAccount, .ok account⟩,
          ⟨.game (.loadProfile account.membership), .ok profile⟩,
          ⟨.game (.equipItems ⟨ids, ch.id, profile.membership.membershipType⟩), reply⟩] ∧
        profile.LastPlayed ch ∧
        ∀ id ∈ ids, ∃ raw, profile.Carries ch.id raw ∧ raw.instanceId.bind parseLong? = some id := by
  have ends : (equipDrawn c includeArmor lots).Ends talk result := run.goes
  rcases Operation.ends_bind.mp ends with ⟨e, hload, -⟩ | ⟨⟨a, p⟩, first, last, split, hload, hdrawn⟩
  · obtain ⟨quiet, -⟩ | ⟨_, _, -, same⟩ := ends_load hload
    · exact .inl quiet
    · cases same
  obtain ⟨-, e, same⟩ | ⟨a, profile, rfl, same⟩ := ends_load hload
  · cases same
  cases same
  rcases ends_drawn hdrawn with rfl | ⟨ch, ids, reply, rfl, played, carried⟩
  · rw [split]
    exact .inl (by simp [Call.changes, Game.Call.changes])
  · exact .inr ⟨a, profile, ch, ids, reply, split, played, carried⟩

/-- An account with a warlock, who wears one weapon and carries another one. -/
def rack : Snapshot where
  membership := ⟨"person", 2, "person"⟩
  characters := [⟨quartermaster, [⟨7, some "70", 1498876634, 1, 0⟩], [⟨8, some "80", 1498876634, 1, 0⟩]⟩]
  profileInventory := []
  currencies := []
  instances := .ofList (["70", "80"].map fun id => (id, ⟨600, 1, true, false⟩))

/-- The weapon that is carried is drawn, and put on with one call. -/
theorem drawn_in_place_rack :
    let operation := equipDrawn .standard false {}
    let talk := Dialogue.exchanges (partners (keeper rack)) operation.run ((), .inl {})
    talk.any (fun e => Call.changes e.1) = true ∧
      ∃ (account : Account) (profile : Snapshot) (ch : Character) (ids : List Int)
        (reply : Except GameError Unit),
        talk = [⟨.game .currentAccount, .ok account⟩,
          ⟨.game (.loadProfile account.membership), .ok profile⟩,
          ⟨.game (.equipItems ⟨ids, ch.id, profile.membership.membershipType⟩), reply⟩] ∧
        profile.LastPlayed ch ∧
        ∀ id ∈ ids, ∃ raw, profile.Carries ch.id raw ∧ raw.instanceId.bind parseLong? = some id := by
  intro operation talk
  have changes : talk.any (fun e => Call.changes e.1) = true := by decide +kernel
  refine ⟨changes, (drawn_in_place .standard false {} (partners (keeper rack))
    (operation.runs_run (partners (keeper rack)) ((), .inl {}))).resolve_left fun quiet => ?_⟩
  obtain ⟨e, made, effect⟩ := List.any_eq_true.mp changes
  rw [quiet e made] at effect
  cases effect

end Service
end Armory
