import Armory.Proofs.Gear.BestEffort
import Armory.Proofs.Loadout.Restored
import Armory.Proofs.Service.Partners
import Armory.Proofs.Store.Shelf
import Armory.Service.Loadouts

/-! Loadouts under a name, from saving to putting on. Saving and looking up meet in storage, where a loadout is put
under the name without the white space at its ends. Main statements: after a save, that name is found besides those
that were found before (`Service.saved_found_iff`), and what is restored under it is what was worn, with nothing to be
moved for it (`Service.saved_restored`). -/
namespace Armory

open Dialogue (Exchange)
open Store (Shelf)

/-! ## Nothing to do -/

/-- Nothing is called for a loadout that is worn already. -/
theorem Equip.goes_wearing_of_worn {l : Loadout} {destination : CharacterId} {p : Profile}
    {talk : List (Exchange Game)} {report : Equip.Report}
    (worn : ∀ i ∈ l.items, i.equippedOn destination = true) (h : (wearing l destination p).Goes talk report) :
    talk = [] := by
  have owned : ∀ i ∈ l.items, i.owner = some destination := by
    intro i hi
    have on := worn i hi
    simp only [Item.equippedOn, Item.ownedBy, Bool.and_eq_true, beq_iff_eq] at on
    exact on.2
  have nothing : equipRequest? l.items destination p.membershipType = none := by
    have unworn : l.items.filter (fun i => !i.equippedOn destination) = [] := by
      rw [List.filter_eq_nil_iff]
      intro i hi
      simp [worn i hi]
    simp [equipRequest?, idsToEquip, unworn]
  have calls := goes_wearing_of_owned owned h
  rw [nothing] at calls
  exact List.map_eq_nil_iff.mp calls

namespace Service

open Operation (Ran)

variable {γ : Type} {game : Dialogue.Answering Game γ} {a : Account} {s : Snapshot}
  {c : Catalog} {ch : Character} {w t : γ × Shelf} {name : String} {l : StoredLoadout}
  {overwrite : Bool} {calls : List Service.Call}

/-! ## Saving -/

/-- A save that ends well has either left what was there, or put the loadout under the name. -/
theorem ran_store {accountId : String} {status : SaveStatus}
    (h : Ran (partners game) (store accountId name l overwrite) w (.ok status) t calls) :
    (status = .conflict ∧ t.2 = w.2 ∧ w.2.Has accountId name) ∨
      (status ≠ .conflict ∧ w.2.Put accountId name l t.2) := by
  have saves : ∀ {w : γ × Shelf} {status' : SaveStatus} {calls : List Service.Call},
      Ran (partners game) (askStore (.save accountId name l) >>= fun _ =>
        (pure status' : Operation SaveStatus)) w (.ok status) t calls →
      status = status' ∧ w.2.Put accountId name l t.2 := by
    intro w status' calls h
    obtain ⟨_, u, first, second, asked, last, rfl⟩ := Operation.ran_bind_ok h
    obtain ⟨reply, rfl, -⟩ := ran_askStore_ok asked
    obtain ⟨same, rfl, -⟩ := last.unique Operation.ran_pure
    cases same
    exact ⟨rfl, Shelf.put_of_save reply⟩
  unfold store at h
  split at h
  · obtain ⟨replaced, u, first, second, asked, last, rfl⟩ := Operation.ran_bind_ok h
    obtain ⟨reply, rfl, -⟩ := ran_askStore_ok asked
    cases replaced with
    | true =>
      obtain ⟨same, rfl, -⟩ := last.unique Operation.ran_pure
      cases same
      exact .inr ⟨by decide, Shelf.put_of_update reply⟩
    | false =>
      -- nothing was replaced, so the loadout is saved
      obtain ⟨rfl, put⟩ := saves last
      rw [Shelf.answer_update_of_absent reply] at put
      exact .inr ⟨by decide, put⟩
  · obtain ⟨existing, u, first, second, asked, last, rfl⟩ := Operation.ran_bind_ok h
    obtain ⟨reply, rfl, -⟩ := ran_askStore_ok asked
    rw [Shelf.answer_select] at reply last
    cases existing with
    | some l' =>
      obtain ⟨same, rfl, -⟩ := last.unique Operation.ran_pure
      cases same
      exact .inl ⟨rfl, rfl, l', reply⟩
    | none =>
      obtain ⟨rfl, put⟩ := saves last
      exact .inr ⟨by decide, put⟩

/-- What the current character wears. -/
def wornLoadout (s : Snapshot) (c : Catalog) (ch : Character) : Loadout :=
  ((Profile.assemble s c false).loadout? ch.id).getD .empty

/-- A save that ends well has stored what the current character wears, under the name without the white space at its
ends. -/
theorem exists_store_of_ran {saved : SavedLoadout} (reports : Reports game a s)
    (h : Ran (partners game) (saveLoadout c name overwrite) w (.ok saved) t calls) :
    ∃ ch g stores, (Profile.assemble s c false).current? = some ch ∧ saved.name = Text.trim name ∧
      Ran (partners game)
        (store a.accountId (Text.trim name) (.ofLoadout (wornLoadout s c ch)) overwrite) (g, w.2)
        (.ok saved.status) t stores := by
  unfold saveLoadout at h
  dsimp only at h
  split at h
  · obtain ⟨_, _, _, _, refused, -, -⟩ := Operation.ran_bind_ok h
    obtain ⟨same, -⟩ := refused.unique Operation.ran_throw
    cases same
  obtain ⟨⟨a', p⟩, u, _, _, loaded, rest, -⟩ := Operation.ran_bind_ok h
  obtain ⟨g, known⟩ := reports.ran_load c false w
  obtain ⟨same, rfl, -⟩ := known.unique loaded
  cases same
  obtain ⟨ch, u, _, _, asked, rest, -⟩ := Operation.ran_bind_ok rest
  obtain ⟨current, rfl, -⟩ := ran_currentCharacter_ok asked
  obtain ⟨status, u, _, _, stored, last, -⟩ := Operation.ran_bind_ok rest
  obtain ⟨same, rfl, -⟩ := last.unique Operation.ran_pure
  cases same
  exact ⟨ch, g, _, current, rfl, stored⟩

/-- A loadout is saved under the name without the white space at its ends, and it is what the current character
wears. -/
theorem ran_saveLoadout {saved : SavedLoadout} (reports : Reports game a s)
    (h : Ran (partners game) (saveLoadout c name overwrite) w (.ok saved) t calls) :
    ∃ ch, (Profile.assemble s c false).current? = some ch ∧ saved.name = Text.trim name ∧
      ((saved.status = .conflict ∧ t.2 = w.2 ∧ w.2.Has a.accountId (Text.trim name)) ∨
        (saved.status ≠ .conflict ∧
          w.2.Put a.accountId (Text.trim name) (.ofLoadout (wornLoadout s c ch)) t.2)) := by
  obtain ⟨ch, g, _, current, named, stored⟩ := exists_store_of_ran reports h
  have ended := ran_store (w := (g, w.2)) stored
  exact ⟨ch, current, named, ended⟩

/-! ## Looking up -/

/-- Looking up brings what is found, and changes nothing. -/
theorem ran_select {accountId : String} {existing : Option StoredLoadout}
    (reply : w.2.select accountId name = .ok existing) :
    Ran (partners game) (askStore (.select accountId name)) w (.ok existing) w
      [.store (.select accountId name)] := by
  have asked := ran_askStore game (.select accountId name) w
  rw [Shelf.answer_select, reply] at asked
  exact asked

theorem ran_select_ok {accountId : String} {existing : Option StoredLoadout}
    (h : Ran (partners game) (askStore (.select accountId name)) w (.ok existing) t calls) :
    w.2.select accountId name = .ok existing ∧ t = w := by
  obtain ⟨reply, rfl, -⟩ := ran_askStore_ok h
  rw [Shelf.answer_select] at reply ⊢
  exact ⟨reply, rfl⟩

/-- A name is taken iff a loadout is found under it, just as the name is given. -/
theorem loadoutExists_iff (reports : Reports game a s) :
    (Dialogue.run (partners game) (loadoutExists name).run w).value = .ok true ↔
      w.2.Has a.accountId name := by
  obtain ⟨g, known⟩ := reports.ran_account w
  rw [Operation.value_eq_iff]
  constructor
  · rintro ⟨t, calls, h⟩
    obtain ⟨a', u, _, _, asked, rest, -⟩ := Operation.ran_bind_ok h
    obtain ⟨same, rfl, -⟩ := known.unique asked
    cases same
    obtain ⟨existing, u, _, _, asked, last, -⟩ := Operation.ran_bind_ok rest
    obtain ⟨found, rfl⟩ := ran_select_ok asked
    obtain ⟨same, -⟩ := last.unique Operation.ran_pure
    cases existing with
    | none => cases same
    | some l => exact ⟨l, found⟩
  · rintro ⟨l, found⟩
    exact ⟨_, _, known.bind ((ran_select (w := (g, w.2)) found).bind Operation.ran_pure)⟩

/-- A look-up brings what storage has, and changes nothing. -/
theorem runs_select {accountId : String} {talk : List (Exchange Service)}
    {r : Except ServiceError (Option StoredLoadout)}
    (h : (askStore (.select accountId name)).procedure.Runs (partners game) w talk r t) :
    (∀ existing, r = .ok existing ↔ w.2.select accountId name = .ok existing) ∧ w = t ∧
      ∀ e ∈ talk, Call.changes e.1 = false := by
  have asked := ran_askStore game (.select accountId name) w
  rw [Shelf.answer_select] at asked
  obtain ⟨rfl, state, calls⟩ := asked.unique ((serial_askStore _).ran h)
  have quiet : ∀ call ∈ talk.map (·.1), Call.changes call = false := by
    rw [← calls]
    simp [Call.changes]
  refine ⟨fun existing => ?_, state, List.forall_mem_map.mp quiet⟩
  cases w.2.select accountId name <;> simp [Except.mapError]

/-- A procedure with the game that is tried leaves storage as it is. -/
theorem runs_attempt {α : Type} {p : Procedure Game α} {talk : List (Exchange Service)}
    {r : Except ServiceError α} (h : (attempt (withGame p)).procedure.Runs (partners game) w talk r t) :
    ∃ b games, .ok b = r ∧ talk = games.map ofGame ∧ p.Goes games b ∧ t.2 = w.2 := by
  obtain ⟨b, u, first, last, rfl, run, h⟩ := Procedure.runs_andThen.mp h
  obtain ⟨rfl, same, rfl⟩ := Procedure.runs_done.mp h
  obtain ⟨games, rfl, goes⟩ := goes_withGame run.goes
  refine ⟨b, games, same, List.append_nil _, goes, ?_⟩
  refine run.keeps (· ∈ Set.range ofGame) (fun v => v.2 = w.2) ?_ ?_ rfl
  · exact List.forall_mem_map.mpr fun e _ => ⟨e, rfl⟩
  · rintro call v ⟨e, same⟩ kept
    obtain ⟨rfl, -⟩ := Sigma.mk.inj same
    exact kept

/-- A loadout that is put on by a character of the profile is reported on, and storage stays as it is. -/
theorem runs_putOn {destination : CharacterId} {p : Profile} {l : Loadout} {α : Type} {f : Equip.Report → α}
    {talk : List (Exchange Service)} {r : Except ServiceError α}
    (member : ∃ ch ∈ p.characters, ch.id = destination)
    (h : (attempt (withGame (Equip.equipping l destination p)) >>= fun q =>
      require q >>= fun report => pure (f report)).procedure.Runs (partners game) w talk r t) :
    ∃ report games, .ok (f report) = r ∧ talk = games.map ofGame ∧
      (Equip.wearing l destination p).Goes games report ∧ t.2 = w.2 := by
  rcases Operation.runs_bind.mp h with ⟨e, tries, -⟩ | ⟨q, u, first, rest, rfl, tries, h⟩
  · obtain ⟨b, games, failed, -⟩ := runs_attempt tries
    cases failed
  obtain ⟨q, games, same, rfl, goes, kept⟩ := runs_attempt tries
  cases same
  rw [Equip.equipping_eq_wearing member] at goes
  obtain ⟨report, games, last, rfl, worn, ended⟩ := Procedure.goes_andThen.mp goes
  obtain ⟨rfl, rfl⟩ := Procedure.goes_done.mp ended
  obtain ⟨rfl, told, rfl⟩ := Procedure.runs_done.mp h
  exact ⟨report, games, told, by simp, worn, kept⟩

/-- Either nothing is found under a name and no loadout is put on, or what is found there is restored and put on, and
storage stays as it is. -/
theorem runs_equipNamed {r : Except ServiceError (Outcome RestoredLoadout)} {talk : List (Exchange Service)}
    (reports : Reports game a s) (current : (Profile.assemble s c false).current? = some ch)
    (h : (equipNamed c name).procedure.Runs (partners game) w talk r t) :
    (¬ w.2.Has a.accountId name ∧ ∀ restored, r ≠ .ok (.found restored)) ∨
      ∃ l report first games, w.2.select a.accountId name = .ok (some l) ∧
        let p := Profile.assemble s c false
        let restored := Restored.ofStored l p.items
        r = .ok (.found ⟨name, ch.id, restored, report⟩) ∧ t.2 = w.2 ∧ talk = first ++ games.map ofGame ∧
          (∀ e ∈ first, Call.changes e.1 = false) ∧ (Equip.wearing restored.loadout ch.id p).Goes games report := by
  rcases Operation.runs_bind.mp h with ⟨e, loads, -⟩ | ⟨⟨a', p⟩, u, first, rest, rfl, loads, h⟩
  · cases (reports.runs_load loads).1
  obtain ⟨same, kept, asked⟩ := reports.runs_load loads
  cases same
  rw [← kept]
  rcases Operation.runs_bind.mp h with ⟨e, looks, rfl⟩ | ⟨existing, u, second, rest, rfl, looks, h⟩
  · refine .inl ⟨?_, nofun⟩
    rintro ⟨l, found⟩
    cases ((runs_select looks).1 _).mpr found
  obtain ⟨found, rfl, looked⟩ := runs_select looks
  replace found := (found existing).mp rfl
  cases existing with
  | none =>
    refine .inl ⟨fun ⟨l, there⟩ => ?_, ?_⟩
    · cases found.symm.trans there
    · rintro restored rfl
      rcases Operation.ends_bind.mp h.goes with ⟨e, -, failed⟩ | ⟨_, _, _, -, -, last⟩
      · cases failed
      · obtain ⟨-, other⟩ := Operation.ends_pure.mp last
        cases other
  | some l =>
    have member : ∃ ch' ∈ (Profile.assemble s c false).characters, ch'.id = ch.id :=
      ⟨ch, List.mem_of_mem_head? current, rfl⟩
    have plays : currentCharacter (Profile.assemble s c false) = pure ch := by
      rw [currentCharacter, current]
    simp only [plays] at h
    obtain ⟨report, games, told, rfl, worn, still⟩ := runs_putOn member h
    exact .inr ⟨l, report, first ++ second, games, found, told.symm, still, (List.append_assoc _ _ _).symm,
      List.forall_mem_append.mpr ⟨asked, looked⟩, worn⟩

/-- A loadout is restored iff one is found under the name, just as the name is given. -/
theorem equipNamed_found_iff {r : Except ServiceError (Outcome RestoredLoadout)}
    {talk : List (Exchange Service)} (reports : Reports game a s)
    (current : (Profile.assemble s c false).current? = some ch)
    (h : (equipNamed c name).procedure.Runs (partners game) w talk r t) :
    (∃ restored, r = .ok (.found restored)) ↔ w.2.Has a.accountId name := by
  rcases runs_equipNamed reports current h with ⟨absent, other⟩ | ⟨l, report, _, _, found, rfl, -⟩
  · exact ⟨fun ⟨restored, same⟩ => absurd same (other restored), fun there => absurd there absent⟩
  · exact ⟨fun _ => ⟨l, found⟩, fun _ => ⟨_, rfl⟩⟩

/-! ## What is found after a save -/

/-- **A saved loadout is found under its name without the white space at its ends.** Whatever game reports the
account and its profile and whatever is stored, after a save that succeeds, be it that the name was taken, a name
is found by asking for it and by putting its loadout on if it is the given one without the white space at its ends,
or if it was found before; and no other name is found. So the given name itself is found if no white space stands
at its ends, and else only if it was found before. Whether a loadout is found does not depend on the order in which
the calls come that put it on. -/
theorem saved_found_iff (c : Catalog) (reports : Reports game a s) (w : γ × Shelf) (name : String)
    (overwrite : Bool) {saved : SavedLoadout}
    (h : (Dialogue.run (partners game) (saveLoadout c name overwrite).run w).value = .ok saved)
    (other : String) :
    let after := (Dialogue.run (partners game) (saveLoadout c name overwrite).run w).state
    ((Dialogue.run (partners game) (loadoutExists other).run after).value = .ok true ↔
      other = Text.trim name ∨
        (Dialogue.run (partners game) (loadoutExists other).run w).value = .ok true) ∧
    ((∃ restored, (Dialogue.run (partners game) (equipNamed c other).run after).value =
        .ok (.found restored)) ↔
      other = Text.trim name ∨
        ∃ restored, (Dialogue.run (partners game) (equipNamed c other).run w).value =
          .ok (.found restored)) ∧
    ∀ talk result u, (equipNamed c other).procedure.Runs (partners game) after talk result u →
      ((∃ restored, result = .ok (.found restored)) ↔
        ∃ restored, (Dialogue.run (partners game) (equipNamed c other).run after).value =
          .ok (.found restored)) := by
  intro after
  obtain ⟨t, calls, ran⟩ := Operation.value_eq_iff.mp h
  have state : after = t := congrArg Dialogue.Run.state ran
  obtain ⟨ch, current, -, stored⟩ := ran_saveLoadout reports ran
  have found : t.2.Has a.accountId other ↔ other = Text.trim name ∨ w.2.Has a.accountId other := by
    rcases stored with ⟨-, same, taken⟩ | ⟨-, put⟩
    · rw [same]
      exact ⟨.inr, fun before => before.elim (fun own => own ▸ taken) id⟩
    · rw [put.has_iff]
      simp [eq_comm]
  have restores : ∀ u : γ × Shelf, (∃ restored, (Dialogue.run (partners game) (equipNamed c other).run u).value =
      .ok (.found restored)) ↔ u.2.Has a.accountId other :=
    fun u => equipNamed_found_iff reports current (Operation.runs_run (partners game) (equipNamed c other) u)
  rw [state, loadoutExists_iff reports, loadoutExists_iff reports, restores, restores]
  exact ⟨found, found, fun talk result u run => equipNamed_found_iff reports current run⟩

/-! ### A name with white space before it -/

/-- A titan. -/
def sentinel : Character where
  id := "sentinel"
  membershipId := "person"
  membershipType := 2
  guardian := .titan
  level := 50
  light := 600
  lastPlayed := .epoch

/-- An account with one titan, who wears one weapon. -/
def watch : Snapshot where
  membership := ⟨"person", 2, "person"⟩
  characters := [⟨sentinel, [⟨7, some "70", 1498876634, 1, 0⟩], []⟩]
  profileInventory := []
  currencies := []
  instances := .empty

/-- A game that knows this account and refuses everything else. -/
def watchtower : Dialogue.Answering Game Unit
  | .currentAccount, g => (.ok ⟨"person", watch.membership⟩, g)
  | .loadProfile _, g => (.ok watch, g)
  | .loadProgressions _, g => (.error (.transport "down"), g)
  | .transferItem _, g => (.error (.transport "down"), g)
  | .equipItem _, g => (.error (.transport "down"), g)
  | .equipItems _, g => (.error (.transport "down"), g)

theorem reports_watchtower : Reports watchtower ⟨"person", watch.membership⟩ watch where
  account _ := rfl
  profile _ := rfl

/-- What is saved under a name with white space before it is found under the name without it. -/
theorem saved_found_iff_spaced :
    let save := Dialogue.run (partners watchtower) (saveLoadout .standard " raid" false).run
      ((), .inl {})
    save.value = .ok ⟨"raid", .created, 1⟩ ∧
      (Dialogue.run (partners watchtower) (loadoutExists "raid").run save.state).value = .ok true ∧
      ∃ restored, (Dialogue.run (partners watchtower) (equipNamed .standard "raid").run
        save.state).value = .ok (.found restored) := by
  intro save
  have saved : save.value = .ok ⟨"raid", .created, 1⟩ := by decide +kernel
  have tidy : "raid" = Text.trim " raid" := by decide +kernel
  obtain ⟨exists?, found, -⟩ := saved_found_iff .standard reports_watchtower ((), .inl {}) " raid" false
    saved "raid"
  exact ⟨saved, exists?.mpr (.inl tidy), found.mpr (.inl tidy)⟩

/-- Under the very name that was given it is not found. -/
theorem spaced_name_not_found :
    let save := Dialogue.run (partners watchtower) (saveLoadout .standard " raid" false).run
      ((), .inl {})
    save.value = .ok ⟨"raid", .created, 1⟩ ∧
      (Dialogue.run (partners watchtower) (loadoutExists " raid").run save.state).value = .ok false ∧
      ¬ ∃ restored, (Dialogue.run (partners watchtower) (equipNamed .standard " raid").run
        save.state).value = .ok (.found restored) := by
  intro save
  have saved : save.value = .ok ⟨"raid", .created, 1⟩ := by decide +kernel
  have absent : ¬ save.state.2.Has "person" " raid" := by
    rintro ⟨l, found⟩
    have none : (save.state.2.select "person" " raid").map (·.isSome) = .ok false := by decide +kernel
    rw [found] at none
    cases none
  have current : (Profile.assemble watch .standard false).current? = some sentinel := by
    decide +kernel
  refine ⟨saved, by decide +kernel, fun found => ?_⟩
  exact absent ((equipNamed_found_iff reports_watchtower current (Operation.runs_run _ _ _)).mp found)

/-! ## What is restored after a save -/

/-- Storage stays sound, whatever is asked of it. -/
theorem sound_run {α : Type} (game : Dialogue.Answering Game γ) (d : Dialogue Service α) (sound : w.2.Sound) :
    (Dialogue.run (partners game) d w).state.2.Sound := by
  induction d generalizing w with
  | done b => exact sound
  | ask call next ih =>
    cases call with
    | game call => exact ih _ sound
    | store call => exact ih _ (sound.answer call)

/-- What the current character wears is among the items of its profile, and worn by that character. -/
theorem worn_of_mem_wornLoadout {i : Item} (hi : i ∈ (wornLoadout s c ch).items) :
    i ∈ (Profile.assemble s c false).items ∧ i.equippedOn ch.id = true := by
  obtain ⟨b, hb⟩ := Loadout.mem_items.mp hi
  unfold wornLoadout at hb
  cases found : (Profile.assemble s c false).loadout? ch.id with
  | none => simp [found] at hb
  | some l =>
    rw [found] at hb
    exact ⟨Profile.mem_items_of_loadout? found hb, Profile.worn_of_loadout? found hb⟩

/-- **Saving and restoring gives back what is worn, and moves nothing.** In a profile with a current character,
all of whose worn items have an identity, and in which items can be told apart, a loadout is saved under a name
without white space at its ends, and not refused because the name is taken. Then the loadout can be put on, and in
every run that puts it on, it is the one that the character wears; every reference is found exactly; no call moves an
item or puts one on; storage stays as it is; and afterwards the name is listed once. -/
theorem saved_restored (c : Catalog) (reports : Reports game a s) (w : γ × Shelf) (sound : w.2.Sound)
    (current : (Profile.assemble s c false).current? = some ch)
    (single : ∀ i ∈ (wornLoadout s c ch).items, i.instanceId.isSome)
    (apart : Item.ToldApart (Profile.assemble s c false).items) {name : String}
    (tidy : Text.trim name = name) (overwrite : Bool) {saved : SavedLoadout}
    (h : (Dialogue.run (partners game) (saveLoadout c name overwrite).run w).value = .ok saved)
    (written : saved.status ≠ .conflict) :
    let after := (Dialogue.run (partners game) (saveLoadout c name overwrite).run w).state
    let putsOn := (equipNamed c name).procedure.Runs (partners game) after
    (∃ talk result u, putsOn talk result u) ∧
      ∀ talk result u, putsOn talk result u →
        (∃ report, result = .ok (.found ⟨name, ch.id, ⟨wornLoadout s c ch, [], []⟩, report⟩)) ∧
          (∀ e ∈ talk, Call.changes e.1 = false) ∧ u.2 = after.2 ∧
          ∃ names, (Dialogue.run (partners game) loadoutNames.run u).value = .ok names ∧
            names.count name = 1 := by
  intro after putsOn
  obtain ⟨t, calls, ran⟩ := Operation.value_eq_iff.mp h
  have state : after = t := congrArg Dialogue.Run.state ran
  obtain ⟨ch', current', -, ⟨taken, -⟩ | ⟨-, put⟩⟩ := ran_saveLoadout reports ran
  · exact absurd taken written
  obtain rfl := Option.some.inj (current.symm.trans current')
  rw [tidy] at put
  have found : t.2.select a.accountId name = .ok (some (.ofLoadout (wornLoadout s c ch))) := by
    rw [put, if_pos ⟨rfl, rfl⟩]
  have worn : ∀ i ∈ (wornLoadout s c ch).items,
      i ∈ (Profile.assemble s c false).items ∧ i.equippedOn ch.id = true :=
    fun i hi => worn_of_mem_wornLoadout hi
  have restored : Restored.ofStored (.ofLoadout (wornLoadout s c ch))
      (Profile.assemble s c false).items = ⟨wornLoadout s c ch, [], []⟩ :=
    Restored.ofStored_ofLoadout apart (fun i hi => (worn i hi).1) single
  obtain ⟨names, listed, once⟩ : ∃ names, (t.2.answer (.list a.accountId)).1 = .ok names ∧
      names.count name = 1 := by
    have sound' := sound_run game (saveLoadout c name overwrite).run sound
    rw [show Dialogue.run (partners game) (saveLoadout c name overwrite).run w = _ from ran] at sound'
    exact sound'.count_names ⟨_, found⟩
  refine ⟨⟨_, _, _, Operation.runs_run (partners game) (equipNamed c name) after⟩, fun talk result u run => ?_⟩
  simp only [putsOn, state] at run ⊢
  rcases runs_equipNamed reports current run with ⟨absent, -⟩ | ⟨l, report, first, games, stored, rest⟩
  · exact absurd ⟨_, found⟩ absent
  cases found.symm.trans stored
  simp only [restored] at rest
  obtain ⟨rfl, kept, rfl, quiet, wears⟩ := rest
  -- what is worn already takes no calls
  obtain rfl := Equip.goes_wearing_of_worn (fun i hi => (worn i hi).2) wears
  obtain ⟨g, known⟩ := reports.ran_account u
  have lists := ran_askStore game (.list a.accountId) (g, u.2)
  rw [kept, listed] at lists
  exact ⟨⟨report, rfl⟩, by simpa using quiet, kept, names,
    Operation.value_eq_iff.mpr ⟨_, _, known.bind (kept ▸ lists)⟩, once⟩

/-- What the titan wears, saved in a database and put on again. -/
theorem saved_restored_watch :
    let database : Shelf := .inr (Store.Database.migrate {})
    let save := Dialogue.run (partners watchtower) (saveLoadout .standard "raid" false).run ((), database)
    let equipped := Dialogue.run (partners watchtower) (equipNamed .standard "raid").run save.state
    save.value = .ok ⟨"raid", .created, 1⟩ ∧
      (∃ report, equipped.value =
        .ok (.found ⟨"raid", sentinel.id, ⟨wornLoadout watch .standard sentinel, [], []⟩, report⟩)) ∧
      (∀ call ∈ equipped.calls, Call.changes call = false) ∧ equipped.state.2 = save.state.2 ∧
      ∃ names, (Dialogue.run (partners watchtower) loadoutNames.run equipped.state).value = .ok names ∧
        names.count "raid" = 1 := by
  intro database save equipped
  have saved : save.value = .ok ⟨"raid", .created, 1⟩ := by decide +kernel
  have current : (Profile.assemble watch .standard false).current? = some sentinel := by
    decide +kernel
  have apart : Item.ToldApart (Profile.assemble watch .standard false).items := by
    unfold Item.ToldApart
    decide +kernel
  obtain ⟨-, every⟩ := saved_restored .standard reports_watchtower ((), database) Store.Database.keyed_empty
    current (by decide +kernel) apart (by decide +kernel) false saved (by decide)
  obtain ⟨found, quiet, kept, listed⟩ := every _ _ _ (Operation.runs_run _ _ _)
  refine ⟨saved, found, fun call made => ?_, kept, listed⟩
  rw [← Dialogue.map_fst_exchanges] at made
  obtain ⟨e, he, rfl⟩ := List.mem_map.mp made
  exact quiet e he

end Service
end Armory
