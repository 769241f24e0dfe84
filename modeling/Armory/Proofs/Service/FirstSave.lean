import Armory.Proofs.Dialogue.Schedule
import Armory.Proofs.Service.Failure
import Armory.Proofs.Service.Named

/-! Saves that come at the same time. A save that does not overwrite asks first whether the name is taken, and only
then saves, so several of them can be told that the name is free; storage lets one of them have it. Main statement:
however the calls of any number of such saves come in between each other, one save has created its loadout, and all
others have changed nothing (`Service.first_save_wins`). -/
namespace Armory

open Dialogue (Chain Exchange Interleaving partOf)
open Store (Shelf)

namespace Service

variable {γ : Type} {game : Dialogue.Answering Game γ} {c : Catalog} {account name : String}
  {l l' : StoredLoadout} {w w' : γ × Shelf} {talk : List (Exchange Service)}
  {r : Except ServiceError SaveStatus}

/-! ## One save -/

/-- How a loadout is stored under a name that is not to be taken over: the exchanges with storage, and the result. -/
inductive Course (account name : String) (l : StoredLoadout) :
    List (Exchange Service) → Except ServiceError SaveStatus → Prop
  | taken (l' : StoredLoadout) :
      Course account name l [⟨.store (.select account name), .ok (some l')⟩] (.ok .conflict)
  | created :
      Course account name l
        [⟨.store (.select account name), .ok none⟩, ⟨.store (.save account name l), .ok ()⟩]
        (.ok .created)
  /-- The name was free, and is taken by now. -/
  | refused (e : StoreError) :
      Course account name l
        [⟨.store (.select account name), .ok none⟩, ⟨.store (.save account name l), .error e⟩]
        (.error (.persistence e.message))
  | unread (e : StoreError) :
      Course account name l [⟨.store (.select account name), .error e⟩]
        (.error (.persistence e.message))

theorem ends_store (h : (store account name l false).Ends talk r) : Course account name l talk r := by
  rcases ends_askStore_bind.mp h with ⟨e, rfl, rfl⟩ | ⟨existing, rest, rfl, asked⟩
  · exact .unread e
  cases existing with
  | some l' =>
    obtain ⟨rfl, rfl⟩ := Operation.ends_pure.mp asked
    exact .taken l'
  | none =>
    rcases ends_askStore_bind.mp asked with ⟨e, rfl, rfl⟩ | ⟨⟨⟩, rest, rfl, saved⟩
    · exact .refused e
    · obtain ⟨rfl, rfl⟩ := Operation.ends_pure.mp saved
      exact .created

/-- A game that knows the account, and always has a profile of it with a character. -/
structure Serves (game : Dialogue.Answering Game γ) (account : String) : Prop where
  account : ∀ g, ∃ a : Account, (game .currentAccount g).1 = .ok a ∧ a.accountId = account
  profile : ∀ m g, ∃ s : Snapshot, (game (.loadProfile m) g).1 = .ok s ∧ s.characters ≠ []

/-- What a game that serves an account replies. -/
def Served (account : String) : Exchange Service → Prop
  | ⟨.game .currentAccount, reply⟩ => ∃ a : Account, reply = .ok a ∧ a.accountId = account
  | ⟨.game (.loadProfile _), reply⟩ => ∃ s : Snapshot, reply = .ok s ∧ s.characters ≠ []
  | _ => True

theorem Serves.served (serves : Serves game account) (call : Service.Call) (w : γ × Shelf) :
    Served account ⟨call, (partners game call w).1⟩ := by
  cases call with
  | store call => trivial
  | game call =>
    cases call with
    | currentAccount => exact serves.account w.1
    | loadProfile m => exact serves.profile m w.1
    | loadProgressions m => trivial
    | transferItem q => trivial
    | equipItem q => trivial
    | equipItems q => trivial

/-- A game that serves the account lets a profile be loaded. -/
theorem ends_load_of_served {detailedOnly : Bool} {r : Except ServiceError (Account × Profile)}
    (served : ∀ e ∈ talk, Served account e) (h : (load c detailedOnly).Ends talk r) :
    ∃ (a : Account) (s : Snapshot), a.accountId = account ∧ s.characters ≠ [] ∧
      talk = [⟨.game .currentAccount, .ok a⟩, ⟨.game (.loadProfile a.membership), .ok s⟩] ∧
      r = .ok (a, .assemble s c detailedOnly) := by
  rcases ends_askGame_bind.mp h with ⟨e, rfl, -⟩ | ⟨a, rest, rfl, known⟩
  · obtain ⟨a, failed, -⟩ := served _ List.mem_cons_self
    cases failed
  rcases ends_askGame_bind.mp known with ⟨e, rfl, -⟩ | ⟨s, rest, rfl, last⟩
  · obtain ⟨s, failed, -⟩ := served _ (List.mem_cons_of_mem _ List.mem_cons_self)
    cases failed
  obtain ⟨rfl, rfl⟩ := Operation.ends_pure.mp last
  obtain ⟨a', same, named⟩ := served _ List.mem_cons_self
  cases same
  obtain ⟨s', same, some⟩ := served _ (List.mem_cons_of_mem _ List.mem_cons_self)
  cases same
  exact ⟨a, s, named, some, rfl, rfl⟩

/-- A profile of a snapshot with a character has a current one. -/
theorem exists_current? (c : Catalog) (detailedOnly : Bool) {s : Snapshot} (h : s.characters ≠ []) :
    ∃ ch, (Profile.assemble s c detailedOnly).current? = some ch := by
  have some : Character.latestFirst (s.characters.map (·.character)) ≠ [] := by
    rw [← List.length_pos_iff, Character.latestFirst, List.length_mergeSort, List.length_map,
      List.length_pos_iff]
    exact h
  exact ⟨_, List.head?_eq_some_head some⟩

/-- What the current character wears in a profile that the exchanges have brought. -/
def Brings (c : Catalog) (talk : List (Exchange Service)) (l : StoredLoadout) : Prop :=
  ∃ (m : Membership) (s : Snapshot) (ch : Character),
    ⟨.game (.loadProfile m), .ok s⟩ ∈ talk ∧ (Profile.assemble s c false).current? = some ch ∧
      l = .ofLoadout (wornLoadout s c ch)

/-- How a save goes: it asks the game for what is worn, and that goes its course with storage. -/
structure Attempt (c : Catalog) (account name : String) (l : StoredLoadout)
    (talk : List (Exchange Service)) (r : Except ServiceError SavedLoadout) : Prop where
  brings : Brings c talk l
  course : ∃ (a : Account) (s : Snapshot) (rest : _) (r' : _),
    talk = ⟨.game .currentAccount, .ok a⟩ :: ⟨.game (.loadProfile a.membership), .ok s⟩ :: rest ∧
      Course account name l rest r' ∧ r = r'.map fun status => ⟨name, status, l.size⟩

/-- Where the game serves the account, this is the only way for a save to go. -/
theorem exists_attempt {given : String} {r : Except ServiceError SavedLoadout}
    (filled : Text.trim given ≠ "") (served : ∀ e ∈ talk, Served account e)
    (h : (saveLoadout c given false).Ends talk r) : ∃ l, Attempt c account (Text.trim given) l talk r := by
  unfold saveLoadout at h
  dsimp only at h
  rw [if_neg filled] at h
  rcases Operation.ends_bind.mp h with ⟨e, failed, -⟩ | ⟨⟨a, p⟩, first, rest, rfl, loaded, later⟩
  · obtain ⟨a, s, -, -, -, ok⟩ := ends_load_of_served served failed
    cases ok
  obtain ⟨served, -⟩ := List.forall_mem_append.mp served
  obtain ⟨a', s, rfl, some, rfl, ok⟩ := ends_load_of_served served loaded
  cases ok
  obtain ⟨ch, current⟩ := exists_current? c false some
  have brings : ∀ rest, Brings c ([⟨.game .currentAccount, .ok a⟩,
      ⟨.game (.loadProfile a.membership), .ok s⟩] ++ rest) (.ofLoadout (wornLoadout s c ch)) :=
    fun rest => ⟨a.membership, s, ch, by simp, current, rfl⟩
  rcases Operation.ends_bind.mp later with ⟨e, asked, -⟩ | ⟨ch', nothing, rest, rfl, asked, later⟩
  · obtain ⟨-, found⟩ := ends_currentCharacter.mp asked
    rw [current] at found
    cases found
  obtain ⟨rfl, found⟩ := ends_currentCharacter.mp asked
  rw [current] at found
  cases found
  rcases Operation.ends_bind.mp later with ⟨e, stored, rfl⟩ | ⟨status, stores, none, rfl, stored, last⟩
  · exact ⟨_, brings _, a, s, rest, _, rfl, ends_store stored, rfl⟩
  · obtain ⟨rfl, rfl⟩ := Operation.ends_pure.mp last
    rw [List.append_nil]
    exact ⟨_, brings _, a, s, stores, _, rfl, ends_store stored, rfl⟩

/-! ## What the calls of such saves do -/

/-- The calls that such saves make. -/
inductive Saving (account name : String) : Service.Call → Prop
  | account : Saving account name (.game .currentAccount)
  | profile (m : Membership) : Saving account name (.game (.loadProfile m))
  | select : Saving account name (.store (.select account name))
  | save (l : StoredLoadout) : Saving account name (.store (.save account name l))

theorem Course.saving (h : Course account name l talk r) : ∀ e ∈ talk, Saving account name e.1 := by
  cases h with
  | taken l' => simp [Saving.select]
  | created => simp [Saving.select, Saving.save]
  | refused e => simp [Saving.select, Saving.save]
  | unread e => simp [Saving.select]

/-- Where the name is taken, such a call changes nothing. -/
theorem Saving.step_of_taken (game : Dialogue.Answering Game γ) {call : Service.Call}
    (saving : Saving account name call) (taken : w.2.Has account name) :
    effective ⟨call, (partners game call w).1⟩ = false ∧ (partners game call w).2.2 = w.2 := by
  cases saving with
  | account => exact ⟨rfl, rfl⟩
  | profile m => exact ⟨rfl, rfl⟩
  | select =>
    refine ⟨rfl, ?_⟩
    rw [partners, Shelf.answer_select]
  | save l =>
    obtain ⟨e, refused⟩ := Shelf.save_of_taken taken l
    simp [partners, refused, effective, Store.Call.writes]

/-- **Once the name is taken, nothing changes** any more. -/
theorem quiet_of_taken (chain : Chain (partners game) w talk w')
    (saving : ∀ e ∈ talk, Saving account name e.1) (taken : w.2.Has account name) :
    Quiet talk ∧ w'.2 = w.2 := by
  induction chain with
  | nil w => exact ⟨List.forall_mem_nil _, rfl⟩
  | cons call rest ih =>
    obtain ⟨here, later⟩ := List.forall_mem_cons.mp saving
    obtain ⟨idle, same⟩ := here.step_of_taken game taken
    obtain ⟨quiet, last⟩ := ih later (same ▸ taken)
    exact ⟨List.forall_mem_cons.mpr ⟨idle, quiet⟩, last.trans same⟩

/-- Exchanges before anything is saved: the name is free, and remains so. -/
def Idle : Exchange Service → Prop
  | ⟨.store (.save _ _ _), _⟩ => False
  | ⟨.store (.select _ _), reply⟩ => reply = .ok none
  | _ => True

/-- Where the name is free, such a call is without effect, or saves a loadout under it. -/
theorem Saving.step_of_free (game : Dialogue.Answering Game γ) {call : Service.Call}
    (saving : Saving account name call) (free : w.2.select account name = .ok none) :
    (Idle ⟨call, (partners game call w).1⟩ ∧ effective ⟨call, (partners game call w).1⟩ = false ∧
      (partners game call w).2.2 = w.2) ∨
    ∃ l, (⟨call, (partners game call w).1⟩ : Exchange Service) = ⟨.store (.save account name l), .ok ()⟩ ∧
      (partners game call w).2.2 = (w.2.answer (.save account name l)).2 := by
  cases saving with
  | account => exact .inl ⟨trivial, rfl, rfl⟩
  | profile m => exact .inl ⟨trivial, rfl, rfl⟩
  | select =>
    refine .inl ⟨free, rfl, ?_⟩
    rw [partners, Shelf.answer_select]
  | save l =>
    refine .inr ⟨l, ?_, rfl⟩
    rw [← Shelf.save_of_free free l]
    rfl

/-- **A free name is taken once**: nothing is saved, or there is one call that takes the name, and no call before
it and none after it changes anything. -/
theorem one_save_of_free (chain : Chain (partners game) w talk w')
    (saving : ∀ e ∈ talk, Saving account name e.1) (free : w.2.select account name = .ok none) :
    (∀ e ∈ talk, Idle e) ∨
      ∃ before l after, talk = before ++ ⟨.store (.save account name l), .ok ()⟩ :: after ∧
        Quiet before ∧ Quiet after ∧ w'.2 = (w.2.answer (.save account name l)).2 := by
  -- the name stays free along idle calls, and the first save takes it for good
  induction chain with
  | nil w => exact .inl (List.forall_mem_nil _)
  | cons call rest ih =>
    obtain ⟨here, later⟩ := List.forall_mem_cons.mp saving
    rcases here.step_of_free game free with ⟨idle, still, same⟩ | ⟨l, save, put⟩
    · rcases ih later (same ▸ free) with none | ⟨before, l, after, rfl, quiet, quiet', last⟩
      · exact .inl (List.forall_mem_cons.mpr ⟨idle, none⟩)
      · exact .inr ⟨_ :: before, l, after, rfl, List.forall_mem_cons.mpr ⟨still, quiet⟩, quiet',
          same ▸ last⟩
    · have taken := (Shelf.put_of_save (Shelf.save_of_free free l)).has_iff.mpr (.inl ⟨rfl, rfl⟩)
      obtain ⟨quiet, last⟩ := quiet_of_taken rest later (put ▸ taken)
      exact .inr ⟨[], l, _, by rw [save, List.nil_append], List.forall_mem_nil _, quiet, last.trans put⟩

/-! ## What becomes of one save -/

/-- A save that is told that the name is free saves. -/
theorem Course.not_idle (h : Course account name l talk r) : ¬ ∀ e ∈ talk, Idle e := by
  intro idle
  cases h with
  | taken l' => exact absurd (idle _ List.mem_cons_self) (by simp [Idle])
  | created => exact idle _ (List.mem_cons_of_mem _ List.mem_cons_self)
  | refused e => exact idle _ (List.mem_cons_of_mem _ List.mem_cons_self)
  | unread e => exact absurd (idle _ List.mem_cons_self) (by simp [Idle])

/-- One of whose calls takes the name has created its loadout. -/
theorem Course.created_of_mem (h : Course account name l talk r)
    (mem : ⟨.store (.save account name l'), .ok ()⟩ ∈ talk) : l' = l ∧ r = .ok .created := by
  have other : ∀ {reply : Except StoreError (Option StoredLoadout)},
      (⟨.store (.save account name l'), .ok ()⟩ : Exchange Service) ≠
        ⟨.store (.select account name), reply⟩ := by
    intro reply same
    cases same
  cases h with
  | taken l'' => exact absurd (List.mem_singleton.mp mem) other
  | unread e => exact absurd (List.mem_singleton.mp mem) other
  | created =>
    cases List.mem_singleton.mp ((List.mem_cons.mp mem).resolve_left other)
    exact ⟨rfl, rfl⟩
  | refused e => cases List.mem_singleton.mp ((List.mem_cons.mp mem).resolve_left other)

/-- One without effect is told that the name is taken, or fails. -/
theorem Course.lost (h : Course account name l talk r) (quiet : Quiet talk) :
    r = .ok .conflict ∨ ∃ m, r = .error (.persistence m) := by
  cases h with
  | taken l' => exact .inl rfl
  | created =>
    have still := quiet _ (List.mem_cons_of_mem _ List.mem_cons_self)
    cases still
  | refused e => exact .inr ⟨_, rfl⟩
  | unread e => exact .inr ⟨_, rfl⟩

namespace Attempt

variable {r : Except ServiceError SavedLoadout}

theorem saving (h : Attempt c account name l talk r) : ∀ e ∈ talk, Saving account name e.1 := by
  obtain ⟨a, s, rest, r', rfl, course, -⟩ := h.course
  exact List.forall_mem_cons.mpr ⟨.account, List.forall_mem_cons.mpr ⟨.profile _, course.saving⟩⟩

theorem not_idle (h : Attempt c account name l talk r) : ¬ ∀ e ∈ talk, Idle e := by
  obtain ⟨a, s, rest, r', rfl, course, -⟩ := h.course
  intro idle
  exact course.not_idle (List.forall_mem_cons.mp (List.forall_mem_cons.mp idle).2).2

theorem created_of_mem (h : Attempt c account name l talk r)
    (mem : ⟨.store (.save account name l'), .ok ()⟩ ∈ talk) :
    l' = l ∧ r = .ok ⟨name, .created, l.size⟩ := by
  obtain ⟨a, s, rest, r', rfl, course, rfl⟩ := h.course
  have stored : ⟨.store (.save account name l'), .ok ()⟩ ∈ rest := by
    rcases List.mem_cons.mp mem with other | mem
    · cases other
    · rcases List.mem_cons.mp mem with other | mem
      · cases other
      · exact mem
  obtain ⟨rfl, rfl⟩ := course.created_of_mem stored
  exact ⟨rfl, rfl⟩

theorem lost (h : Attempt c account name l talk r) (quiet : Quiet talk) :
    (∃ n, r = .ok ⟨name, .conflict, n⟩) ∨ ∃ m, r = .error (.persistence m) := by
  obtain ⟨a, s, rest, r', rfl, course, rfl⟩ := h.course
  have still : Quiet rest := (List.forall_mem_cons.mp (List.forall_mem_cons.mp quiet).2).2
  rcases course.lost still with rfl | ⟨m, rfl⟩
  · exact .inl ⟨_, rfl⟩
  · exact .inr ⟨m, rfl⟩

end Attempt

/-! ## Saves at the same time -/

/-- Each of several saves at the same time goes in this way. -/
theorem attempt_of_interleaving {givens : List String} {talk : List (Nat × Exchange Service)}
    {answers : List (Except ServiceError SavedLoadout)} (serves : Serves game account)
    (same : ∀ n ∈ givens, Text.trim n = name) (filled : name ≠ "")
    (h : Interleaving (partners game) (givens.map fun n => (saveLoadout c n false).run) w talk answers w')
    {k : Nat} (hk : k < givens.length) :
    ∃ l r, answers[k]? = some r ∧ Attempt c account name l (partOf k talk) r := by
  obtain ⟨r, hr, goes⟩ := h.goes (k := k) (d := (saveLoadout c givens[k] false).run) (by simp [hk])
  have served : ∀ e ∈ partOf k talk, Served account e := by
    intro e he
    obtain ⟨v, reply⟩ := h.replies (Dialogue.mem_partOf.mp he)
    have served := serves.served e.1 v
    rwa [← reply] at served
  have named := same _ (List.getElem_mem hk)
  obtain ⟨l, attempt⟩ := exists_attempt (named ▸ filled) served (Operation.ends_of_goes_run goes)
  exact ⟨l, r, hr, named ▸ attempt⟩

/-- **Of several first saves, one wins, and nothing is lost.** Any number of saves without taking over, for one
account and one name, are under way at the same time, and the name is free. However their calls come in between each
other, one of them has created the loadout that it found worn; storage is as that one call has left it, so this
loadout is found under the name at the end; and every other save is told that the name is taken, or that storage
refuses, and has changed nothing. -/
theorem first_save_wins (c : Catalog) (serves : Serves game account) (givens : List String)
    (some : givens ≠ []) (same : ∀ n ∈ givens, Text.trim n = name) (filled : name ≠ "")
    (free : w.2.select account name = .ok none) {talk : List (Nat × Exchange Service)}
    {answers : List (Except ServiceError SavedLoadout)}
    (h : Interleaving (partners game) (givens.map fun n => (saveLoadout c n false).run) w talk answers w') :
    ∃ k l, answers[k]? = .some (.ok ⟨name, .created, l.size⟩) ∧ Brings c (partOf k talk) l ∧
      w'.2.select account name = .ok (.some l) ∧ w'.2 = (w.2.answer (.save account name l)).2 ∧
      ∀ j r, j ≠ k → answers[j]? = .some r →
        ((∃ n, r = .ok ⟨name, .conflict, n⟩) ∨ ∃ m, r = .error (.persistence m)) ∧
          Quiet (partOf j talk) := by
  have attempt := fun {k : Nat} (hk : k < givens.length) =>
    attempt_of_interleaving serves same filled h hk
  have place : ∀ {k : Nat} {e : Exchange Service}, e ∈ partOf k talk → k < givens.length := by
    intro k e he
    have bound := h.lt_length (Dialogue.mem_partOf.mp he)
    rwa [List.length_map] at bound
  have saving : ∀ e ∈ talk.map (·.2), Saving account name e.1 := by
    intro e he
    obtain ⟨⟨k, x⟩, hx, rfl⟩ := List.mem_map.mp he
    have mem := Dialogue.mem_partOf.mpr hx
    obtain ⟨l, r, -, goes⟩ := attempt (place mem)
    exact goes.saving _ mem
  rcases one_save_of_free h.chain saving free with idle | ⟨before, l, after, split, quiet, quiet', last⟩
  · -- the first of the saves has been told that the name is free, and has gone on to save
    obtain ⟨l, r, -, goes⟩ := attempt (List.length_pos_iff.mpr some)
    exact absurd (fun e he => idle e (List.mem_map_of_mem (Dialogue.mem_partOf.mp he))) goes.not_idle
  obtain ⟨k, mem, others⟩ := Dialogue.exists_partOf split
  obtain ⟨l', r, answer, goes⟩ := attempt (place mem)
  obtain ⟨rfl, rfl⟩ := goes.created_of_mem mem
  refine ⟨k, l, answer, goes.brings, ?_, last, fun j r' ne answer' => ?_⟩
  · rw [last, Shelf.put_of_save (Shelf.save_of_free free l), if_pos ⟨rfl, rfl⟩]
  · have still : Quiet (partOf j talk) := fun e he =>
      (List.mem_append.mp (others j ne e he)).elim (quiet e) (quiet' e)
    have bound : j < givens.length := by
      have bound := (List.getElem?_eq_some_iff.mp answer').1
      rwa [h.length_eq, List.length_map] at bound
    obtain ⟨l', r, answer, goes⟩ := attempt bound
    obtain rfl : r = r' := Option.some.inj (answer.symm.trans answer')
    exact ⟨goes.lost still, still⟩

/-! ### A save that is told too late that the name is taken -/

/-- The account of the watch, whose titan wears another weapon each time. -/
def restless : Dialogue.Answering Game Nat
  | .currentAccount, g => (.ok ⟨"person", watch.membership⟩, g)
  | .loadProfile _, g =>
    (.ok { watch with characters := [⟨sentinel, [⟨.ofNat g, some "70", 1498876634, 1, 0⟩], []⟩] }, g + 1)
  | .loadProgressions _, g => (.error (.transport "down"), g)
  | .transferItem _, g => (.error (.transport "down"), g)
  | .equipItem _, g => (.error (.transport "down"), g)
  | .equipItems _, g => (.error (.transport "down"), g)

theorem serves_restless : Serves restless "person" where
  account _ := ⟨_, rfl, rfl⟩
  profile _ _ := ⟨_, rfl, List.cons_ne_nil _ _⟩

/-- The first two saves ask whether the name is free before either has taken it, and the second one takes it. -/
theorem first_save_wins_restless :
    ∃ talk answers w', Interleaving (partners restless)
        (["raid", " raid", "raid "].map fun n => (saveLoadout .standard n false).run) (0, .inl {}) talk
        answers w' ∧
      answers = [.error (.persistence (Store.Memory.taken "raid").message), .ok ⟨"raid", .created, 1⟩,
        .ok ⟨"raid", .conflict, 1⟩] ∧
      Quiet (partOf 0 talk) ∧ Quiet (partOf 2 talk) ∧
      ∃ l, Brings .standard (partOf 1 talk) l ∧ w'.2.select "person" "raid" = .ok (some l) := by
  have ends : (Dialogue.scheduled (partners restless) [0, 0, 1, 1, 0, 1, 1, 0, 2, 2, 2]
      (["raid", " raid", "raid "].map fun n => (saveLoadout .standard n false).run) (0, .inl {})).map
        (·.2.1) = some [.error (.persistence (Store.Memory.taken "raid").message),
          .ok ⟨"raid", .created, 1⟩, .ok ⟨"raid", .conflict, 1⟩] := by decide +kernel
  obtain ⟨⟨talk, answers, w'⟩, scheduled, rfl⟩ := Option.map_eq_some_iff.mp ends
  have goes := Dialogue.interleaving_of_scheduled scheduled
  have one_name : ∀ n ∈ ["raid", " raid", "raid "], Text.trim n = "raid" := by decide +kernel
  obtain ⟨k, l, created, brings, stored, -, others⟩ := first_save_wins .standard serves_restless
    ["raid", " raid", "raid "] (List.cons_ne_nil _ _) one_name (by decide) rfl goes
  have second : k = 1 := by
    rcases k with _ | _ | _ | k
    · cases created
    · rfl
    · cases created
    · cases created
  subst second
  exact ⟨talk, _, w', goes, rfl, (others 0 _ (by decide) rfl).2, (others 2 _ (by decide) rfl).2, l,
    brings, stored⟩

end Service
end Armory
