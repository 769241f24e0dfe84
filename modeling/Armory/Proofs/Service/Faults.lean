import Armory.Proofs.Gear.AnyOrder
import Armory.Proofs.Service.FirstSave

/-!
# What an operation fails for

A call that goes wrong makes an operation fail if it asks for the account, for the profile or progressions, or for
something in storage; `faults` lists what went wrong so in some exchanges. An operation ends at the first such fault,
with that error (`Accountable`). For all else it fails only for what was asked, and then before any exchange, or for
want of a current character, and then after it was told of a profile that has none (`Excuses`).
-/

namespace Armory

open Dialogue (Calls Exchange)

/-! ## Calls that only change -/

namespace Transfer

theorem calls_batch_changes (items : List Item) (destination : Option CharacterId) (count : Option Nat)
    (membershipType : Int) :
    (batch items destination count membershipType).Calls fun c : Game.Call => c.changes = true :=
  calls_batch_of_route fun _ _ _ _ => rfl

end Transfer

namespace Equip

theorem calls_swap_changes (b : Bucket) (i : Item) (holder : CharacterId) (p : Profile) :
    (swap b i holder p).Calls fun c : Game.Call => c.changes = true := by
  unfold swap
  split
  · exact .done _
  · exact .ask rfl fun _ => .done _

theorem calls_putOn_changes (items : List Item) (destination : CharacterId) (membershipType : Int) :
    (putOn items destination membershipType).Calls fun c : Game.Call => c.changes = true := by
  unfold putOn
  split
  · exact .done _
  · exact .ask rfl fun _ => .done _

/-- Putting a loadout on asks the game nothing. -/
theorem calls_equipping_changes (l : Loadout) (destination : CharacterId) (p : Profile) :
    (equipping l destination p).Calls fun c : Game.Call => c.changes = true := by
  unfold equipping
  split
  · exact .done _
  · have wears : (wearing l destination p).Calls fun c : Game.Call => c.changes = true :=
      (Procedure.Calls.ofDialogue (.each fun w _ => calls_swap_changes w.1 w.2.1 w.2.2 p)).andThen fun _ =>
        (Transfer.calls_batch_changes _ _ _ _).andThen fun _ =>
          (Transfer.calls_batch_changes _ _ _ _).andThen fun _ =>
            (Procedure.Calls.ofDialogue (calls_putOn_changes _ _ _)).andThen fun _ => .done _
    exact wears.andThen fun _ => .done _

end Equip

/-! ## Loadouts of a character of the profile -/

namespace Loadout

variable {p : Profile} {destination : CharacterId}

theorem exists_strongest (c : Catalog) (member : ∃ ch ∈ p.characters, ch.id = destination) :
    ∃ l, strongest c p destination = .ok l := by
  obtain ⟨ch, known⟩ := Profile.exists_requireCharacter member
  exact ⟨_, by rw [strongest, known]; rfl⟩

theorem exists_drawn (includeArmor : Bool) (lots : Lots) (member : ∃ ch ∈ p.characters, ch.id = destination) :
    ∃ r, drawn p destination includeArmor lots = .ok r := by
  obtain ⟨ch, known⟩ := Profile.exists_requireCharacter member
  rw [drawn, known]
  cases p.equipment? destination <;> exact ⟨_, rfl⟩

end Loadout

namespace Service

variable {α β : Type}

/-! ## Faults -/

/-- What an operation relies on. -/
inductive Reliance where
  | account | profile | storage
  deriving DecidableEq, Repr

/-- The error of an operation that could not rely on it. -/
def Reliance.error : Reliance → String → ServiceError
  | account => .accountResolution
  | profile => .profileFetch
  | storage => .persistence

/-- What a call is relied on for; none if it makes no difference to the operation whether it goes wrong. -/
def Call.reliance? : Service.Call → Option Reliance
  | .game .currentAccount => some .account
  | .game (.loadProfile _) | .game (.loadProgressions _) => some .profile
  | .game (.transferItem _) | .game (.equipItem _) | .game (.equipItems _) => none
  | .store (.record _ _) => none
  | .store (.select _ _) | .store (.save _ _ _) | .store (.update _ _ _) | .store (.list _) => some .storage

/-- What went wrong with a call, if anything did. -/
def wrong? : (c : Service.Call) → Service.Reply c → Option String
  | .game _, .error e => some e.message
  | .store _, .error e => some e.message
  | .game _, .ok _ | .store _, .ok _ => none

/-- What could not be relied on in an exchange, and why. -/
def fault? (m : Exchange Service) : Option (Reliance × String) :=
  m.1.reliance?.bind fun reliance => (wrong? m.1 m.2).map (reliance, ·)

/-- What could not be relied on in some exchanges. -/
def faults (talk : List (Exchange Service)) : List (Reliance × String) := talk.filterMap fault?

@[simp] theorem faults_nil : faults [] = [] := rfl

@[simp] theorem faults_append (first second : List (Exchange Service)) :
    faults (first ++ second) = faults first ++ faults second :=
  List.filterMap_append

/-- What excuses an error about characters and gear, after some exchanges. -/
inductive Excuses (talk : List (Exchange Service)) : DomainError → Prop
  /-- What was asked makes no sense, so nobody was asked anything. -/
  | request (detail : String) (silent : talk = []) : Excuses talk (.invariantViolation detail)
  /-- The profile that was loaded has no characters. -/
  | deserted {membership : Membership} {s : Snapshot}
      (loaded : ⟨.game (.loadProfile membership), (.ok s : Except GameError Snapshot)⟩ ∈ talk)
      (empty : s.characters = []) : Excuses talk (.characterNotFound "current")

/-- The result of an operation is owed to its exchanges, and to those before them. -/
inductive Owed (before talk : List (Exchange Service)) : Except ServiceError α → Prop
  | ok (a : α) (clean : faults talk = []) : Owed before talk (.ok a)
  | domain {e : DomainError} (clean : faults talk = []) (excuse : Excuses (before ++ talk) e) :
      Owed before talk (.error (.domain e))
  | fault (reliance : Reliance) (detail : String) (only : faults talk = [(reliance, detail)]) :
      Owed before talk (.error (reliance.error detail))

/-- After some exchanges, an operation that makes some more ends with the first fault, and fails for nothing else
without an excuse. -/
def Accountable (before : List (Exchange Service)) (x : Operation α) : Prop :=
  ∀ talk r, x.Ends talk r → Owed before talk r

section Accountable

variable {before : List (Exchange Service)} {x : Operation α} {f : α → Operation β}

theorem accountable_pure (a : α) : Accountable before (pure a : Operation α) := by
  intro talk r h
  obtain ⟨rfl, rfl⟩ := Operation.ends_pure.mp h
  exact .ok a rfl

theorem accountable_pure_bind {a : α} (h : Accountable before (f a)) : Accountable before (pure a >>= f) := h

theorem accountable_require_bind {q : Except DomainError α} {a : α} (known : q = .ok a)
    (h : Accountable before (f a)) : Accountable before (require q >>= f) := by
  rw [known]
  exact h

theorem accountable_throw {e : DomainError} (excuse : Excuses before e) :
    Accountable before (throw (.domain e) : Operation α) := by
  intro talk r h
  obtain ⟨rfl, rfl⟩ := Operation.ends_throw.mp h
  exact .domain rfl (by rwa [List.append_nil])

/-- **One accountable operation after another.** -/
theorem Accountable.bind (hx : Accountable before x)
    (hf : ∀ a first, x.Ends first (.ok a) → Accountable (before ++ first) (f a)) :
    Accountable before (x >>= f) := by
  intro talk r h
  rcases Operation.ends_bind.mp h with ⟨e, failed, rfl⟩ | ⟨a, first, second, rfl, ended, rest⟩
  · -- the first has failed, and the second is not begun
    cases hx _ _ failed with
    | domain clean excuse => exact .domain clean excuse
    | fault reliance detail only => exact .fault reliance detail only
  · obtain ⟨_, clean⟩ := hx _ _ ended
    cases hf a first ended _ _ rest with
    | ok b later => exact .ok b (by rw [faults_append, clean, later]; rfl)
    | domain later excuse =>
      rw [List.append_assoc] at excuse
      exact .domain (by rw [faults_append, clean, later]; rfl) excuse
    | fault reliance detail only =>
      exact .fault reliance detail (by rw [faults_append, clean, only]; rfl)

/-- A question to the game, classed by what the operation relies on it for. -/
theorem accountable_askGame {c : Game.Call} {reliance : Reliance} {failed : String → ServiceError}
    (relied : Call.reliance? (.game c) = some reliance) (classed : failed = reliance.error) :
    Accountable before (askGame c failed) := by
  intro talk r h
  subst classed
  obtain ⟨reply, rfl, rfl⟩ := ends_askGame.mp h
  cases reply with
  | ok a => exact .ok a (by simp [faults, fault?, wrong?])
  | error e => exact .fault reliance e.message (by simp [faults, fault?, wrong?, relied])

theorem accountable_account : Accountable before account := accountable_askGame rfl rfl

theorem accountable_loadProfile (membership : Membership) :
    Accountable before (askGame (.loadProfile membership) .profileFetch) := accountable_askGame rfl rfl

theorem accountable_progressions : Accountable before progressions :=
  accountable_account.bind fun _ _ _ => accountable_askGame rfl rfl

theorem accountable_askStore {c : Store.Call} (relied : Call.reliance? (.store c) = some .storage) :
    Accountable before (askStore c) := by
  intro talk r h
  obtain ⟨reply, rfl, rfl⟩ := ends_askStore.mp h
  cases reply with
  | ok a => exact .ok a (by simp [faults, fault?, wrong?])
  | error e => exact .fault .storage e.message (by simp [faults, fault?, wrong?, relied])

theorem accountable_recordUnknown (kind : Store.NameKind) (value : String) :
    Accountable before (recordUnknown kind value) := by
  intro talk r h
  obtain ⟨reply, rfl, rfl⟩ := ends_recordUnknown.mp h
  exact .ok () rfl

/-- What only changes the game makes no operation fail. -/
theorem accountable_attempt {p : Procedure Game α} (changing : p.Calls fun c : Game.Call => c.changes = true) :
    Accountable before (attempt (withGame p)) := by
  intro talk r h
  obtain ⟨a, through, rfl⟩ := ends_attempt.mp h
  obtain ⟨games, rfl, goes⟩ := goes_withGame through
  refine .ok a (List.filterMap_eq_nil_iff.mpr fun m hm => ?_)
  obtain ⟨⟨c, reply⟩, hg, rfl⟩ := List.mem_map.mp hm
  have changes := changing.of_goes goes _ hg
  cases c with
  | transferItem | equipItem | equipItems => rfl
  | currentAccount | loadProfile | loadProgressions => cases changes

/-! ### Profiles -/

/-- Some exchanges tell of the snapshot of an account. -/
def Tells (talk : List (Exchange Service)) (s : Snapshot) : Prop :=
  ∃ membership, ⟨.game (.loadProfile membership), (.ok s : Except GameError Snapshot)⟩ ∈ talk

theorem Tells.append {s : Snapshot} (tells : Tells before s) (more : List (Exchange Service)) :
    Tells (before ++ more) s :=
  tells.imp fun _ mem => List.mem_append_left more mem

theorem accountable_load (c : Catalog) (detailedOnly : Bool) : Accountable before (load c detailedOnly) :=
  accountable_account.bind fun _ _ _ => (accountable_loadProfile _).bind fun _ _ _ => accountable_pure _

/-- What goes on with a profile goes on with one that was told of. -/
theorem accountable_load_bind {c : Catalog} {detailedOnly : Bool} {f : Account × Profile → Operation β}
    (hf : ∀ (a : Account) (s : Snapshot) (talk : List (Exchange Service)), Tells talk s →
      Accountable talk (f (a, .assemble s c detailedOnly))) :
    Accountable before (load c detailedOnly >>= f) := by
  refine (accountable_load c detailedOnly).bind fun r first ended => ?_
  rcases ends_load ended with ⟨-, e, same⟩ | ⟨a, s, rfl, same⟩
  · cases same
  · cases same
    exact hf a s _ ⟨a.membership, by simp⟩

/-- The current character of a profile that was told of, and what goes on with it. -/
theorem accountable_currentCharacter_bind {c : Catalog} {detailedOnly : Bool} {s : Snapshot}
    (tells : Tells before s) {f : Character → Operation β}
    (hf : ∀ ch, (∃ ch' ∈ (Profile.assemble s c detailedOnly).characters, ch'.id = ch.id) →
      Accountable before (f ch)) :
    Accountable before (currentCharacter (.assemble s c detailedOnly) >>= f) := by
  unfold currentCharacter
  cases current : (Profile.assemble s c detailedOnly).current? with
  | some ch => exact hf ch ⟨ch, List.mem_of_mem_head? current, rfl⟩
  | none =>
    have empty : s.characters = [] := by
      by_contra some
      obtain ⟨ch, found⟩ := exists_current? c detailedOnly some
      rw [current] at found
      cases found
    obtain ⟨membership, loaded⟩ := tells
    exact (accountable_throw (.deserted loaded empty)).bind fun _ _ ended => by
      obtain ⟨-, same⟩ := Operation.ends_throw.mp ended
      cases same

/-- Putting a loadout on a character of the profile does not fail. -/
theorem accountable_wear {l : Loadout} {destination : CharacterId} {p : Profile}
    (member : ∃ ch ∈ p.characters, ch.id = destination) (f : Equip.Report → β) :
    Accountable before (attempt (withGame (Equip.equipping l destination p)) >>= fun q =>
      require q >>= fun report => pure (f report)) := by
  refine (accountable_attempt (Equip.calls_equipping_changes l destination p)).bind fun q first ended => ?_
  obtain ⟨_, through, same⟩ := ends_attempt.mp ended
  cases same
  obtain ⟨games, rfl, goes⟩ := goes_withGame through
  rw [Equip.equipping_eq_wearing member] at goes
  obtain ⟨report, _, _, -, -, last⟩ := Procedure.goes_andThen.mp goes
  obtain ⟨-, rfl⟩ := Procedure.goes_done.mp last
  exact accountable_pure (f report)

/-! ### The operations -/

theorem accountable_countItem (c : Catalog) (name : String) : Accountable before (countItem c name) := by
  unfold countItem
  dsimp only
  split
  · exact (accountable_recordUnknown _ _).bind fun _ _ _ => accountable_pure _
  · refine (accountable_load c false).bind fun r _ _ => ?_
    split <;> exact accountable_pure _

theorem accountable_moveItems (p : Profile) (itemName : String) (items : List Item)
    (destination : Option CharacterId) (requested : Option Nat) :
    Accountable before (moveItems p itemName items destination requested) := by
  unfold moveItems
  split
  · exact accountable_pure _
  · exact (accountable_attempt (Transfer.calls_batch_changes _ _ _ _)).bind fun _ _ _ => accountable_pure _

theorem accountable_transferResolved (c : Catalog) (itemName : String) (itemHash : Hash)
    (requested : Option Nat) (destination : ClassTarget) (source : Option ClassTarget) :
    Accountable before (transferResolved c itemName itemHash requested destination source) := by
  unfold transferResolved
  refine (accountable_load c false).bind fun r _ _ => ?_
  dsimp only
  split
  · exact (accountable_recordUnknown _ _).bind fun _ _ _ => accountable_pure _
  · split
    · exact accountable_pure _
    · exact accountable_moveItems _ _ _ _ _

/-- A class name is understood, or it is written into the log. -/
theorem accountable_classTarget_bind (c : Catalog) (name : String) {f : Option ClassTarget → Operation β}
    (known : ∀ t talk, Accountable talk (f (some t))) (unknown : ∀ talk, Accountable talk (f none)) :
    Accountable before (classTarget c name >>= f) := by
  unfold classTarget
  split
  · rename_i t _
    exact known t before
  · exact (accountable_recordUnknown .guardian _).bind fun _ _ _ => unknown _

/-- A count that makes no sense is refused before anything is called. -/
theorem accountable_requestedQuantity (count : Option Int) :
    Accountable [] (require (requestedQuantity count)) := by
  unfold requestedQuantity
  split
  · exact accountable_pure _
  · split
    · exact accountable_pure _
    · split
      · exact accountable_pure _
      · exact accountable_throw (.request _ rfl)

theorem accountable_transferItem (c : Catalog) (order : TransferOrder) :
    Accountable [] (transferItem c order) := by
  unfold transferItem
  refine (accountable_requestedQuantity order.count).bind fun requested _ _ => ?_
  dsimp only
  split
  · exact (accountable_recordUnknown _ _).bind fun _ _ _ => accountable_pure _
  · split
    on_goal 1 => refine accountable_pure_bind ?_
    on_goal 2 => refine accountable_classTarget_bind c _ (fun destination _ => ?_) fun _ => accountable_pure _
    -- the source is understood in the same way, whatever the destination is
    all_goals
      dsimp only
      split
      · exact accountable_transferResolved _ _ _ _ _ _
      · exact accountable_classTarget_bind c _ (fun _ _ => accountable_transferResolved _ _ _ _ _ _) fun _ =>
          accountable_pure _

theorem accountable_unloadEngrams (c : Catalog) : Accountable before (unloadEngrams c) := by
  unfold unloadEngrams
  refine (accountable_load c false).bind fun r _ _ => ?_
  dsimp only
  split
  · exact accountable_pure _
  · exact (accountable_attempt (Transfer.calls_batch_changes _ _ _ _)).bind fun _ _ _ => accountable_pure _

theorem accountable_equipStrongest (c : Catalog) : Accountable before (equipStrongest c) :=
  accountable_load_bind fun _ _ _ tells => accountable_currentCharacter_bind tells fun _ member =>
    have ⟨_, known⟩ := Loadout.exists_strongest c member
    accountable_require_bind known (accountable_wear member _)

theorem accountable_equipDrawn (c : Catalog) (includeArmor : Bool) (lots : Lots) :
    Accountable before (equipDrawn c includeArmor lots) :=
  accountable_load_bind fun _ _ _ tells => accountable_currentCharacter_bind tells fun _ member =>
    have ⟨_, known⟩ := Loadout.exists_drawn includeArmor lots member
    accountable_require_bind known (accountable_wear member _)

theorem accountable_equipNamed (c : Catalog) (name : String) : Accountable before (equipNamed c name) := by
  unfold equipNamed
  refine accountable_load_bind fun a s _ tells => ?_
  dsimp only
  refine (accountable_askStore rfl).bind fun existing more _ => ?_
  cases existing with
  | none => exact (accountable_recordUnknown _ _).bind fun _ _ _ => accountable_pure _
  | some stored =>
    exact accountable_currentCharacter_bind (tells.append more) fun _ member => accountable_wear member _

theorem accountable_store (accountId name : String) (stored : StoredLoadout) (overwrite : Bool) :
    Accountable before (store accountId name stored overwrite) := by
  have saves : ∀ status talk, Accountable talk (askStore (.save accountId name stored) >>= fun _ =>
      (pure status : Operation SaveStatus)) := fun _ _ =>
    (accountable_askStore rfl).bind fun _ _ _ => accountable_pure _
  unfold store
  split
  · refine (accountable_askStore rfl).bind fun updated _ _ => ?_
    cases updated with
    | true => exact accountable_pure _
    | false => exact saves .overwritten _
  · refine (accountable_askStore rfl).bind fun existing _ _ => ?_
    split
    · exact accountable_pure _
    · exact saves .created _

/-- A name that is blank is refused before anything is called. -/
theorem accountable_saveLoadout (c : Catalog) (name : String) (overwrite : Bool) :
    Accountable [] (saveLoadout c name overwrite) := by
  unfold saveLoadout
  dsimp only
  split
  · refine (accountable_throw (.request _ rfl)).bind fun _ _ ended => ?_
    obtain ⟨-, same⟩ := Operation.ends_throw.mp ended
    cases same
  · exact accountable_load_bind fun _ _ _ tells => accountable_currentCharacter_bind tells fun _ _ =>
      (accountable_store _ _ _ _).bind fun _ _ _ => accountable_pure _

theorem accountable_loadoutExists (name : String) : Accountable before (loadoutExists name) :=
  accountable_account.bind fun _ _ _ => (accountable_askStore rfl).bind fun _ _ _ => accountable_pure _

theorem accountable_loadoutNames : Accountable before loadoutNames :=
  accountable_account.bind fun _ _ _ => accountable_askStore rfl

theorem accountable_crucibleRanks : Accountable before crucibleRanks := by
  refine accountable_progressions.bind fun ps _ _ => ?_
  split <;> exact accountable_pure _

theorem accountable_gambitRank : Accountable before gambitRank := by
  refine accountable_progressions.bind fun ps _ _ => ?_
  split <;> exact accountable_pure _

end Accountable

/-- **Every operation is accountable.** -/
theorem Request.accountable_operation (c : Catalog) (q : Request) : Accountable [] (q.operation c) := by
  cases q with
  | countItem name => exact accountable_countItem c name
  | transferItem order => exact accountable_transferItem c order
  | equipStrongest => exact accountable_equipStrongest c
  | equipDrawn includeArmor lots => exact accountable_equipDrawn c includeArmor lots
  | unloadEngrams => exact accountable_unloadEngrams c
  | loadoutExists name => exact accountable_loadoutExists name
  | saveLoadout name overwrite => exact accountable_saveLoadout c name overwrite
  | equipNamed name => exact accountable_equipNamed c name
  | loadoutNames => exact accountable_loadoutNames
  | crucibleRanks => exact accountable_crucibleRanks
  | gambitRank => exact accountable_gambitRank

/-! ## What can be told from a result -/

/-- A call that an operation relies on has gone wrong. -/
def Broke (talk : List (Exchange Service)) (reliance : Reliance) : Prop :=
  ∃ m ∈ talk, m.1.reliance? = some reliance ∧ ∃ detail, wrong? m.1 m.2 = some detail

section Owed

variable {talk : List (Exchange Service)} {reliance : Reliance} {r : Except ServiceError α}

theorem broke_iff : Broke talk reliance ↔ ∃ detail, (reliance, detail) ∈ faults talk := by
  simp only [Broke, faults, List.mem_filterMap, fault?, Option.bind_eq_some_iff, Option.map_eq_some_iff,
    Prod.mk.injEq]
  constructor
  · rintro ⟨m, hm, relied, detail, wrong⟩
    exact ⟨detail, m, hm, reliance, relied, detail, wrong, rfl, rfl⟩
  · rintro ⟨detail, m, hm, _, relied, _, wrong, rfl, rfl⟩
    exact ⟨m, hm, relied, _, wrong⟩

/-- An operation fails with the error of what it relies on exactly if that has gone wrong. -/
theorem Owed.broke_iff (owed : Owed [] talk r) :
    Broke talk reliance ↔ ∃ detail, r = .error (reliance.error detail) := by
  rw [Service.broke_iff]
  cases owed with
  | ok a clean => simp [clean]
  | domain clean excuse => cases reliance <;> simp [clean, Reliance.error]
  | fault reliance' detail only => cases reliance <;> cases reliance' <;> simp [only, Reliance.error]

end Owed

end Service
end Armory
