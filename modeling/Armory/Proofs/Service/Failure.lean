import Armory.Proofs.Gear.BestEffort
import Armory.Proofs.Service.Operation
import Armory.Service.Items
import Armory.Service.Loadouts
import Armory.Service.Ranks
import Armory.Store.Database
import Armory.Store.Memory

/-! Operations that fail. An operation asks its questions first, and once it has changed something it goes on
without fail. Main statement: an operation that ends with an error has left the game, the stored loadouts and
the log of unknown names as they were, and whether the log could be written never shows in a result
(`Service.failed_without_effect`). -/
namespace Armory

open Dialogue (Exchange)

/-! ## Replies that make no difference -/

namespace Dialogue

variable {I : Interface} {α β σ τ : Type} {p : I.Call → Prop} {d : Dialogue I α} {f : α → Dialogue I β}

/-- A dialogue goes on in one way after calls of some kind, whatever the replies to them are. -/
inductive Ignores (p : I.Call → Prop) : Dialogue I α → Prop
  | done (a : α) : Ignores p (.done a)
  | ask {c : I.Call} {next : I.Reply c → Dialogue I α}
      (same : p c → ∀ reply reply', next reply = next reply')
      (later : ∀ reply, Ignores p (next reply)) : Ignores p (.ask c next)

namespace Ignores

theorem andThen (h : Ignores p d) (hf : ∀ a, Ignores p (f a)) : Ignores p (d.andThen f) := by
  induction h with
  | done a => exact hf a
  | ask same _ ih => exact .ask (fun hc reply reply' => by rw [same hc reply reply']) ih

/-- A dialogue that makes no such calls. -/
theorem of_calls (h : Calls (fun c => ¬ p c) d) : Ignores p d := by
  induction h with
  | done a => exact .done a
  | ask here _ ih => exact .ask (fun hc => absurd hc here) ih

/-- **Two partners that reply alike**, except to calls whose replies make no difference, bring a dialogue to the
same value. -/
theorem value_eq (h : Ignores p d) {answer : Answering I σ} {answer' : Answering I τ} {R : σ → τ → Prop}
    (alike : ∀ c s t, R s t → R (answer c s).2 (answer' c t).2 ∧
      (¬ p c → (answer c s).1 = (answer' c t).1)) {s : σ} {t : τ} (start : R s t) :
    (run answer d s).value = (run answer' d t).value := by
  induction h generalizing s t with
  | done a => rfl
  | @ask c next same _ ih =>
    obtain ⟨state, reply⟩ := alike c s t start
    have onward : next (answer c s).1 = next (answer' c t).1 := by
      by_cases hc : p c
      · exact same hc _ _
      · rw [reply hc]
    rw [run_ask, run_ask, ← onward]
    exact ih _ state

end Ignores

/-- **Dialogues under way at the same time** that make no such calls can go the same way with the other partner. -/
theorem Interleaving.exists_alike {answer : Answering I σ} {answer' : Answering I τ} {R : σ → τ → Prop}
    (alike : ∀ c s t, R s t → R (answer c s).2 (answer' c t).2 ∧
      (¬ p c → (answer c s).1 = (answer' c t).1)) {lanes : List (Dialogue I β)} {s u : σ} {t : τ}
    {talk : List (Nat × Exchange I)} {values : List β} (h : Interleaving answer lanes s talk values u)
    (others : ∀ d ∈ lanes, d.Calls fun c => ¬ p c) (start : R s t) :
    ∃ u', Interleaving answer' lanes t talk values u' ∧ R u u' := by
  induction h generalizing t with
  | done values s => exact ⟨t, .done values t, start⟩
  | @step front back c next s u talk values _ ih =>
    obtain ⟨state, reply⟩ := alike c s t start
    have mine : (Dialogue.ask c next).Calls fun c => ¬ p c := others _ (by simp)
    obtain ⟨u', moved, related⟩ := ih (t := (answer' c t).2) (fun d hd => by
      rcases List.mem_append.mp hd with hd | hd
      · exact others d (List.mem_append_left _ hd)
      · rcases List.mem_cons.mp hd with rfl | hd
        · exact mine.tail _
        · exact others d (List.mem_append_right _ (List.mem_cons_of_mem _ hd))) state
    rw [reply mine.head] at moved ⊢
    exact ⟨u', .step front back c next moved, related⟩

end Dialogue

namespace Procedure

variable {I : Interface} {α β σ τ : Type} {p : I.Call → Prop} {q : Procedure I α} {f : α → Procedure I β}

/-- A procedure goes on in one way after calls of some kind, whatever the replies to them are, and what it has under
way at the same time makes no such calls. -/
inductive Ignores (p : I.Call → Prop) {α : Type} : Procedure I α → Prop
  | done (a : α) : Ignores p (.done a)
  | ask {c : I.Call} {next : I.Reply c → Procedure I α}
      (same : p c → ∀ reply reply', next reply = next reply')
      (later : ∀ reply, Ignores p (next reply)) : Ignores p (.ask c next)
  | together {β : Type} {lanes : List (Dialogue I β)} {next : List β → Procedure I α}
      (here : ∀ d ∈ lanes, d.Calls fun c => ¬ p c) (later : ∀ values, Ignores p (next values)) :
      Ignores p (.together lanes next)

namespace Ignores

theorem andThen (h : Ignores p q) (hf : ∀ a, Ignores p (f a)) : Ignores p (q.andThen f) := by
  induction h with
  | done a => exact hf a
  | ask same _ ih => exact .ask (fun hc reply reply' => by rw [same hc reply reply']) ih
  | together here _ ih => exact .together here ih

/-- A procedure that makes no such calls. -/
theorem of_calls (h : Calls (fun c => ¬ p c) q) : Ignores p q := by
  induction h with
  | done a => exact .done a
  | ask here _ ih => exact .ask (fun hc => absurd hc here) ih
  | together here _ ih => exact .together here ih

theorem inTurn (h : Ignores p q) : Dialogue.Ignores p q.inTurn := by
  induction h with
  | done a => exact .done a
  | ask same _ ih => exact .ask (fun hc reply reply' => by rw [same hc reply reply']) ih
  | together here _ ih => exact (Dialogue.Ignores.of_calls (Dialogue.Calls.each here)).andThen ih

/-- **Two partners that reply alike**, except to calls whose replies make no difference: whatever a procedure comes
to with one of them, it can come to with the other. -/
theorem exists_runs (h : Ignores p q) {answer : Dialogue.Answering I σ} {answer' : Dialogue.Answering I τ}
    {R : σ → τ → Prop}
    (alike : ∀ c s t, R s t → R (answer c s).2 (answer' c t).2 ∧
      (¬ p c → (answer c s).1 = (answer' c t).1)) {s u : σ} {t : τ} (start : R s t)
    {talk : List (Exchange I)} {a : α} (run : Runs answer q s talk a u) :
    ∃ talk' u', Runs answer' q t talk' a u' ∧ R u u' := by
  induction run generalizing t with
  | done a s => exact ⟨[], t, .done a t, start⟩
  | @ask c next s u talk a rest ih =>
    cases h with
    | ask same later =>
      obtain ⟨state, reply⟩ := alike c s t start
      obtain ⟨talk', u', run', related⟩ := ih (later _) state
      have onward : next (answer c s).1 = next (answer' c t).1 := by
        by_cases hc : p c
        · exact same hc _ _
        · rw [reply hc]
      exact ⟨_, u', .ask (onward ▸ run'), related⟩
  | together moved rest ih =>
    cases h with
    | together here later =>
      obtain ⟨v, moved', state⟩ := moved.exists_alike alike here start
      obtain ⟨talk', u', run', related⟩ := ih (later _) state
      exact ⟨_, u', .together moved' run', related⟩

end Ignores
end Procedure

/-! ## Effects -/

/-- Whether a call to storage has written something, by its reply. -/
def Store.Call.writes : (c : Store.Call) → Except StoreError c.Success → Bool
  | .save _ _ _, .ok _ => true
  | .update _ _ _, .ok replaced => replaced
  | .record _ _, .ok _ => true
  | _, _ => false

/-- Storage in memory is as it was after a call that has written nothing. -/
theorem Store.Memory.answer_of_not_writes {c : Store.Call} {m : Memory}
    (h : c.writes (answer c m).1 = false) : (answer c m).2 = m := by
  cases c with
  | select account name => rfl
  | list account => rfl
  | record kind value => cases h
  | save account name l =>
    simp only [answer] at h ⊢
    split at h
    · rw [if_pos ‹_›]
    · cases h
  | update account name l =>
    simp only [answer] at h ⊢
    split at h
    · cases h
    · rw [if_neg ‹_›]

/-- A database is as it was after a call that has written nothing. -/
theorem Store.Database.answer_of_not_writes {c : Store.Call} {d : Database}
    (h : c.writes (answer c d).1 = false) : (answer c d).2 = d := by
  cases c with
  | select account name =>
    simp only [answer]
    split <;> rfl
  | list account =>
    simp only [answer]
    split <;> rfl
  | record kind value =>
    simp only [answer] at h ⊢
    split
    · rfl
    · simp_all [Store.Call.writes]
  | save account name l =>
    simp only [answer] at h ⊢
    split
    · rfl
    · split
      · rfl
      · simp_all [Store.Call.writes]
  | update account name l =>
    simp only [answer] at h ⊢
    split
    · rfl
    · split
      · simp_all [Store.Call.writes]
      · rfl

namespace Service

/-- Whether an exchange has an effect: a call that changes the game, even if it is refused, or a call to storage
that has written something. -/
def effective : Exchange Service → Bool
  | ⟨.game c, _⟩ => c.changes
  | ⟨.store c, reply⟩ => c.writes reply

/-- Exchanges without effect. -/
def Quiet (talk : List (Exchange Service)) : Prop := ∀ m ∈ talk, effective m = false

/-- A call that writes an unknown name into the log. -/
def Call.IsRecord : Service.Call → Prop
  | .store (.record _ _) => True
  | _ => False

theorem Quiet.append {first second : List (Exchange Service)} (h : Quiet first) (h' : Quiet second) :
    Quiet (first ++ second) := List.forall_mem_append.mpr ⟨h, h'⟩

end Service

/-! ## Safe operations -/

namespace Operation

open Service

variable {α β : Type} {x : Operation α} {f : α → Operation β}

/-- An operation that has had no effect if it fails, and whose result does not depend on the log. -/
structure Safe (x : Operation α) : Prop where
  harmless : ∀ talk e, x.Ends talk (.error e) → Quiet talk
  heedless : x.procedure.Ignores Call.IsRecord

/-- An operation that has no effect at all. -/
structure Asks (x : Operation α) : Prop where
  quiet : ∀ talk r, x.Ends talk r → Quiet talk
  heedless : x.procedure.Ignores Call.IsRecord

/-- An operation that does not fail. -/
structure Sure (x : Operation α) : Prop where
  certain : ∀ talk e, ¬ x.Ends talk (.error e)
  heedless : x.procedure.Ignores Call.IsRecord

theorem Asks.safe (h : Asks x) : Safe x := ⟨fun talk e => h.quiet talk (.error e), h.heedless⟩

theorem Sure.safe (h : Sure x) : Safe x :=
  ⟨fun talk e ends => absurd ends (h.certain talk e), h.heedless⟩

theorem ignores_bind {p : Service.Call → Prop} (hx : x.procedure.Ignores p)
    (hf : ∀ a, (f a).procedure.Ignores p) : (x >>= f).procedure.Ignores p := by
  refine hx.andThen fun r => ?_
  cases r with
  | error e => exact .done _
  | ok a => exact hf a

/-- **One safe operation after another** is safe if nothing can fail any more once the first has had an
effect. -/
theorem Safe.bind (hx : Safe x) (hf : ∀ a, Safe (f a))
    (order : ∀ talk a, x.Ends talk (.ok a) → Quiet talk ∨ Sure (f a)) : Safe (x >>= f) := by
  refine ⟨fun talk e ends => ?_, ignores_bind hx.heedless fun a => (hf a).heedless⟩
  rcases ends_bind.mp ends with ⟨e', failed, -⟩ | ⟨a, first, second, rfl, done, failed⟩
  · exact hx.harmless talk e' failed
  · rcases order first a done with quiet | sure
    · exact quiet.append ((hf a).harmless second e failed)
    · exact absurd failed (sure.certain second e)

theorem Asks.bind (hx : Asks x) (hf : ∀ a, Safe (f a)) : Safe (x >>= f) :=
  hx.safe.bind hf fun talk a ends => .inl (hx.quiet talk (.ok a) ends)

theorem Safe.andSurely (hx : Safe x) (hf : ∀ a, Sure (f a)) : Safe (x >>= f) :=
  hx.bind (fun a => (hf a).safe) fun _ a _ => .inr (hf a)

theorem Asks.andAsks (hx : Asks x) (hf : ∀ a, Asks (f a)) : Asks (x >>= f) := by
  refine ⟨fun talk r ends => ?_, ignores_bind hx.heedless fun a => (hf a).heedless⟩
  rcases ends_bind.mp ends with ⟨e, failed, -⟩ | ⟨a, first, second, rfl, done, ends⟩
  · exact hx.quiet talk _ failed
  · exact (hx.quiet first _ done).append ((hf a).quiet second r ends)

theorem Sure.bind (hx : Sure x) (hf : ∀ a, Sure (f a)) : Sure (x >>= f) := by
  refine ⟨fun talk e ends => ?_, ignores_bind hx.heedless fun a => (hf a).heedless⟩
  rcases ends_bind.mp ends with ⟨e', failed, -⟩ | ⟨a, first, second, rfl, -, failed⟩
  · exact hx.certain talk e' failed
  · exact (hf a).certain second e failed

theorem asks_pure (a : α) : Asks (pure a : Operation α) := by
  refine ⟨fun talk r ends => ?_, .done _⟩
  obtain ⟨rfl, -⟩ := ends_pure.mp ends
  simp [Quiet]

theorem asks_throw (e : ServiceError) : Asks (throw e : Operation α) := by
  refine ⟨fun talk r ends => ?_, .done _⟩
  obtain ⟨rfl, -⟩ := ends_throw.mp ends
  simp [Quiet]

theorem safe_pure_bind {a : α} (h : Safe (f a)) : Safe (pure a >>= f) := h

theorem sure_pure (a : α) : Sure (pure a : Operation α) := by
  refine ⟨fun talk e ends => ?_, .done _⟩
  obtain ⟨-, same⟩ := ends_pure.mp ends
  cases same

end Operation

/-! ## The parts of operations -/

namespace Service

open Operation

variable {α β : Type}

theorem calls_through_toGame (d : Dialogue Game α) : (d.through toGame).Calls fun c => ¬ Call.IsRecord c := by
  induction d with
  | done a => exact .done a
  | ask c next ih => exact .ask id ih

theorem calls_withGame (p : Procedure Game α) : (withGame p).Calls fun c => ¬ Call.IsRecord c := by
  induction p with
  | done a => exact .done a
  | ask c next ih => exact .ask id ih
  | together lanes next ih => exact .together (List.forall_mem_map.mpr fun d _ => calls_through_toGame d) ih

theorem asks_askGame {c : Game.Call} (question : c.changes = false) (failed : String → ServiceError) :
    Asks (askGame c failed) := by
  refine ⟨fun talk r ends => ?_, .of_calls (.ask id fun reply => ?_)⟩
  · obtain ⟨reply, rfl, -⟩ := ends_askGame.mp ends
    simpa [Quiet, effective] using question
  · cases reply <;> exact .done _

/-- A call to storage that fails has written nothing. -/
theorem safe_askStore {c : Store.Call} (other : ¬ Call.IsRecord (.store c)) : Safe (askStore c) := by
  refine ⟨fun talk e ends => ?_, .of_calls (.ask other fun reply => ?_)⟩
  · obtain ⟨reply | a, rfl, same⟩ := ends_askStore.mp ends
    · cases c <;> simp [Quiet, effective, Store.Call.writes]
    · cases same
  · cases reply <;> exact .done _

/-- Reading from storage writes nothing. -/
theorem asks_askStore {c : Store.Call} (reads : ∀ reply, c.writes reply = false)
    (other : ¬ Call.IsRecord (.store c)) : Asks (askStore c) := by
  refine ⟨fun talk r ends => ?_, (safe_askStore other).heedless⟩
  obtain ⟨reply, rfl, -⟩ := ends_askStore.mp ends
  simpa [Quiet, effective] using reads reply

theorem asks_select (account name : String) : Asks (askStore (.select account name)) :=
  asks_askStore (fun reply => by cases reply <;> rfl) id

theorem asks_list (account : String) : Asks (askStore (.list account)) :=
  asks_askStore (fun reply => by cases reply <;> rfl) id

theorem sure_recordUnknown (kind : Store.NameKind) (value : String) :
    Sure (recordUnknown kind value) := by
  refine ⟨fun talk e ends => ?_, .ask (fun _ _ _ => rfl) fun _ => .done _⟩
  obtain ⟨reply, -, same⟩ := ends_recordUnknown.mp ends
  cases same

theorem heedless_attempt (p : Procedure Game α) :
    (attempt (withGame p)).procedure.Ignores Call.IsRecord :=
  .of_calls ((calls_withGame p).andThen fun _ => .done _)

theorem sure_attempt (p : Procedure Game α) : Sure (attempt (withGame p)) := by
  refine ⟨fun talk e ends => ?_, heedless_attempt p⟩
  obtain ⟨a, -, same⟩ := ends_attempt.mp ends
  cases same

theorem asks_require (q : Except DomainError α) : Asks (require q) := by
  cases q with
  | ok a => exact asks_pure a
  | error e => exact asks_throw _

theorem asks_currentCharacter (p : Profile) : Asks (currentCharacter p) := by
  unfold currentCharacter
  split
  · exact asks_pure _
  · exact asks_throw _

theorem asks_account : Asks account := asks_askGame rfl _

theorem asks_load (c : Catalog) (detailedOnly : Bool) : Asks (load c detailedOnly) :=
  asks_account.andAsks fun _ => (asks_askGame rfl _).andAsks fun _ => asks_pure _

theorem asks_progressions : Asks progressions :=
  asks_account.andAsks fun _ => asks_askGame rfl _

/-- Putting a loadout on fails only before anything is called. -/
theorem safe_wear (l : Loadout) (destination : CharacterId) (p : Profile) (f : Equip.Report → β) :
    Safe (attempt (withGame (Equip.equipping l destination p)) >>= fun q =>
      require q >>= fun report => pure (f report)) := by
  refine ⟨fun talk e ends => ?_, ignores_bind (heedless_attempt _) fun q => ?_⟩
  · obtain ⟨q, goes, failed⟩ := ends_attempt_require ends
    obtain ⟨games, rfl, own⟩ := goes_withGame goes
    rcases Equip.goes_equipping own with ⟨rfl, -⟩ | ⟨report, rfl, -⟩
    · simp [Quiet]
    · cases failed
  · exact ((asks_require q).andAsks fun _ => asks_pure _).heedless

/-! ## The operations -/

theorem safe_countItem (c : Catalog) (name : String) : Safe (countItem c name) := by
  unfold countItem
  dsimp only
  split
  · exact ((sure_recordUnknown _ _).bind fun _ => sure_pure _).safe
  · refine (asks_load c false).bind fun r => ?_
    split <;> exact (sure_pure _).safe

theorem sure_moveItems (p : Profile) (itemName : String) (items : List Item)
    (destination : Option CharacterId) (requested : Option Nat) :
    Sure (moveItems p itemName items destination requested) := by
  unfold moveItems
  split
  · exact sure_pure _
  · exact (sure_attempt _).bind fun _ => sure_pure _

theorem safe_transferResolved (c : Catalog) (itemName : String) (itemHash : Hash)
    (requested : Option Nat) (destination : ClassTarget) (source : Option ClassTarget) :
    Safe (transferResolved c itemName itemHash requested destination source) := by
  unfold transferResolved
  refine (asks_load c false).bind fun r => ?_
  dsimp only
  split
  · exact ((sure_recordUnknown _ _).bind fun _ => sure_pure _).safe
  · split
    · exact (sure_pure _).safe
    · exact (sure_moveItems _ _ _ _ _).safe

/-- A class name is understood, or it is written into the log. -/
theorem safe_classTarget_bind (c : Catalog) (name : String) {f : Option ClassTarget → Operation β}
    (known : ∀ t, Safe (f (some t))) (unknown : Sure (f none)) : Safe (classTarget c name >>= f) := by
  unfold classTarget
  split
  · rename_i t _
    exact known t
  · exact ((sure_recordUnknown .guardian _).bind fun _ => unknown).safe

theorem safe_transferItem (c : Catalog) (order : TransferOrder) : Safe (transferItem c order) := by
  unfold transferItem
  refine (asks_require _).bind fun requested => ?_
  dsimp only
  split
  · exact ((sure_recordUnknown _ _).bind fun _ => sure_pure _).safe
  · split
    on_goal 1 => refine safe_pure_bind ?_
    on_goal 2 => refine safe_classTarget_bind c _ (fun destination => ?_) (sure_pure _)
    -- the source is understood in the same way, whatever the destination is
    all_goals
      dsimp only
      split
      · exact safe_transferResolved _ _ _ _ _ _
      · exact safe_classTarget_bind c _ (fun _ => safe_transferResolved _ _ _ _ _ _) (sure_pure _)

theorem safe_unloadEngrams (c : Catalog) : Safe (unloadEngrams c) := by
  unfold unloadEngrams
  refine (asks_load c false).bind fun r => ?_
  dsimp only
  split
  · exact (sure_pure _).safe
  · exact ((sure_attempt _).bind fun _ => sure_pure _).safe

theorem safe_equipStrongest (c : Catalog) : Safe (equipStrongest c) :=
  (asks_load c true).bind fun r => (asks_currentCharacter r.2).bind fun _ =>
    (asks_require _).bind fun l => safe_wear l _ r.2 _

theorem safe_equipDrawn (c : Catalog) (includeArmor : Bool) (lots : Lots) :
    Safe (equipDrawn c includeArmor lots) :=
  (asks_load c true).bind fun r => (asks_currentCharacter r.2).bind fun _ =>
    (asks_require _).bind fun l => safe_wear l.1 _ r.2 _

theorem safe_equipNamed (c : Catalog) (name : String) : Safe (equipNamed c name) := by
  unfold equipNamed
  refine (asks_load c false).bind fun r => ?_
  dsimp only
  refine (asks_select _ _).bind fun existing => ?_
  cases existing with
  | none => exact ((sure_recordUnknown _ _).bind fun _ => sure_pure _).safe
  | some stored => exact (asks_currentCharacter r.2).bind fun _ => safe_wear _ _ r.2 _

/-- A loadout is stored by one call that writes, and no call comes after it. -/
theorem safe_store (accountId name : String) (stored : StoredLoadout) (overwrite : Bool) :
    Safe (store accountId name stored overwrite) := by
  have saves : ∀ status, Safe (askStore (.save accountId name stored) >>= fun _ =>
      (pure status : Operation SaveStatus)) := fun status =>
    (safe_askStore id).andSurely fun _ => sure_pure _
  unfold store
  split
  · refine (safe_askStore id).bind (fun updated => ?_) fun talk updated ends => ?_
    · cases updated with
      | true => exact (sure_pure _).safe
      | false => exact saves .overwritten
    · -- a loadout that was replaced is not saved again
      cases updated with
      | true => exact .inr (sure_pure _)
      | false =>
        obtain ⟨reply | replaced, rfl, same⟩ := ends_askStore.mp ends
        · cases same
        · cases same
          exact .inl (by simp [Quiet, effective, Store.Call.writes])
  · refine (asks_select _ _).bind fun existing => ?_
    split
    · exact (sure_pure _).safe
    · exact saves .created

theorem safe_saveLoadout (c : Catalog) (name : String) (overwrite : Bool) :
    Safe (saveLoadout c name overwrite) := by
  unfold saveLoadout
  dsimp only
  split
  · exact (asks_throw (.domain (.invariantViolation "loadout name must not be empty"))).safe
  · exact (asks_load c false).bind fun r => (asks_currentCharacter r.2).bind fun _ =>
      (safe_store _ _ _ _).andSurely fun _ => sure_pure _

theorem safe_loadoutExists (name : String) : Safe (loadoutExists name) :=
  asks_account.bind fun _ => (asks_select _ _).bind fun _ => (sure_pure _).safe

theorem safe_loadoutNames : Safe loadoutNames := asks_account.bind fun _ => (asks_list _).safe

theorem safe_crucibleRanks : Safe crucibleRanks := by
  refine asks_progressions.bind fun ps => ?_
  split <;> exact (sure_pure _).safe

theorem safe_gambitRank : Safe gambitRank := by
  refine asks_progressions.bind fun ps => ?_
  split <;> exact (sure_pure _).safe

/-! ## Requests -/

/-- A request to the service, with all that it says. -/
inductive Request where
  | countItem (name : String)
  | transferItem (order : TransferOrder)
  | equipStrongest
  | equipDrawn (includeArmor : Bool) (lots : Lots)
  | unloadEngrams
  | loadoutExists (name : String)
  | saveLoadout (name : String) (overwrite : Bool)
  | equipNamed (name : String)
  | loadoutNames
  | crucibleRanks
  | gambitRank

namespace Request

/-- What a request is answered with, if it does not fail. -/
abbrev Answer : Request → Type
  | .countItem _ => Outcome ItemCount
  | .transferItem _ => Outcome TransferSummary
  | .equipStrongest => EquippedLoadout
  | .equipDrawn _ _ => EquippedLoadout
  | .unloadEngrams => Outcome EngramUnload
  | .loadoutExists _ => Bool
  | .saveLoadout _ _ => SavedLoadout
  | .equipNamed _ => Outcome RestoredLoadout
  | .loadoutNames => List String
  | .crucibleRanks => Outcome CrucibleRanks
  | .gambitRank => Outcome Ranking

/-- The operation that a request asks for. -/
def operation (c : Catalog) : (q : Request) → Operation q.Answer
  | .countItem name => Service.countItem c name
  | .transferItem order => Service.transferItem c order
  | .equipStrongest => Service.equipStrongest c
  | .equipDrawn includeArmor lots => Service.equipDrawn c includeArmor lots
  | .unloadEngrams => Service.unloadEngrams c
  | .loadoutExists name => Service.loadoutExists name
  | .saveLoadout name overwrite => Service.saveLoadout c name overwrite
  | .equipNamed name => Service.equipNamed c name
  | .loadoutNames => Service.loadoutNames
  | .crucibleRanks => Service.crucibleRanks
  | .gambitRank => Service.gambitRank

/-- **Every operation is safe.** -/
theorem safe_operation (c : Catalog) (q : Request) : Safe (q.operation c) := by
  cases q with
  | countItem name => exact safe_countItem c name
  | transferItem order => exact safe_transferItem c order
  | equipStrongest => exact safe_equipStrongest c
  | equipDrawn includeArmor lots => exact safe_equipDrawn c includeArmor lots
  | unloadEngrams => exact safe_unloadEngrams c
  | loadoutExists name => exact safe_loadoutExists name
  | saveLoadout name overwrite => exact safe_saveLoadout c name overwrite
  | equipNamed name => exact safe_equipNamed c name
  | loadoutNames => exact safe_loadoutNames
  | crucibleRanks => exact safe_crucibleRanks
  | gambitRank => exact safe_gambitRank

end Request

/-! ## Runs -/

section Runs

variable {σ τ κ : Type}

/-- Partners whose storage, as it is seen by `kept`, is changed by nothing but a call to it that has written
something. -/
structure Atomic (answer : Dialogue.Answering Service σ) (kept : σ → κ) : Prop where
  game : ∀ c s, kept (answer (.game c) s).2 = kept s
  store : ∀ c s, c.writes (answer (.store c) s).1 = false → kept (answer (.store c) s).2 = kept s

theorem Atomic.kept_of_quiet {answer : Dialogue.Answering Service σ} {kept : σ → κ}
    (atomic : Atomic answer kept) {x : Operation α} {talk : List (Exchange Service)}
    {r : Except ServiceError α} {s t : σ} (run : x.procedure.Runs answer s talk r t) (quiet : Quiet talk) :
    kept t = kept s := by
  refine run.keeps (effective · = false) (kept · = kept s) quiet (fun c t harmless same => ?_) rfl
  cases c with
  | game c => exact (atomic.game c t).trans same
  | store c => exact (atomic.store c t harmless).trans same

theorem changes_of_quiet {talk : List (Exchange Service)} (quiet : Quiet talk) :
    ∀ call ∈ talk.map (·.1), Call.changes call = false := by
  intro call hcall
  obtain ⟨⟨call, reply⟩, hm, rfl⟩ := List.mem_map.mp hcall
  cases call with
  | game c => exact quiet _ hm
  | store c => rfl

/-- Two kinds of partners, in states that correspond, reply alike to everything but a call that writes an
unknown name into the log. -/
def AlikeButLog (answer : Dialogue.Answering Service σ) (answer' : Dialogue.Answering Service τ)
    (R : σ → τ → Prop) : Prop :=
  ∀ c s t, R s t → R (answer c s).2 (answer' c t).2 ∧
    (¬ Call.IsRecord c → (answer c s).1 = (answer' c t).1)

/-- **A failed operation has no effect.** For every catalog and every request, against a game that behaves in
whatever way and a storage whose calls are atomic, and in whatever order moves are made that are under way at the
same time: if the operation fails, it has made no call that changes the game, and everything in storage is as it was
before. And its result is the same against any partners that reply alike to everything but the calls that write
unknown names into the log. -/
theorem failed_without_effect (c : Catalog) (q : Request) (answer : Dialogue.Answering Service σ)
    (s : σ) {kept : σ → κ} (atomic : Atomic answer kept) :
    (∀ talk r t, (q.operation c).procedure.Runs answer s talk r t → ∀ e, r = .error e →
      (∀ call ∈ talk.map (·.1), Call.changes call = false) ∧ kept t = kept s) ∧
    ∀ {τ : Type} (answer' : Dialogue.Answering Service τ) (R : σ → τ → Prop) (t : τ),
      AlikeButLog answer answer' R → R s t →
        (∀ talk r u, (q.operation c).procedure.Runs answer s talk r u →
          ∃ talk' u', (q.operation c).procedure.Runs answer' t talk' r u') ∧
        (Dialogue.run answer' (q.operation c).run t).value = (Dialogue.run answer (q.operation c).run s).value := by
  have safe := Request.safe_operation c q
  refine ⟨fun talk r t run e failed => ?_, fun answer' R t alike start => ⟨fun talk r u run => ?_, ?_⟩⟩
  · subst failed
    have quiet := safe.harmless talk e run.goes
    exact ⟨changes_of_quiet quiet, atomic.kept_of_quiet run quiet⟩
  · obtain ⟨talk', u', run', -⟩ := safe.heedless.exists_runs alike start run
    exact ⟨talk', u', run'⟩
  · exact (safe.heedless.inTurn.value_eq alike start).symm

end Runs

/-! ### A game without profiles -/

/-- A game that knows the account and nothing else, and storage in memory. -/
def profileless : Dialogue.Answering Service Store.Memory
  | .game .currentAccount, m => (.ok ⟨"person", ⟨"person", 2, "person"⟩⟩, m)
  | .game (.loadProfile _), m => (.error (.transport "down"), m)
  | .game (.loadProgressions _), m => (.error (.transport "down"), m)
  | .game (.transferItem _), m => (.error (.transport "down"), m)
  | .game (.equipItem _), m => (.error (.transport "down"), m)
  | .game (.equipItems _), m => (.error (.transport "down"), m)
  | .store c, m => m.answer c

/-- The same with a log that cannot be written. -/
def logless : Dialogue.Answering Service Store.Memory
  | .store (.record _ _), m => (.error (.database "disk full"), m)
  | c, m => profileless c m

theorem atomic_profileless : Atomic profileless id where
  game c m := by cases c <;> rfl
  store _ _ h := Store.Memory.answer_of_not_writes h

theorem alikeButLog_logless : AlikeButLog profileless logless fun m m' => m.loadouts = m'.loadouts := by
  intro c m m' same
  have found : ∀ account name, m.get? account name = m'.get? account name := by
    intro account name
    rw [Store.Memory.get?, Store.Memory.ofAccount, same]
    rfl
  cases c with
  | game c => cases c <;> exact ⟨same, fun _ => rfl⟩
  | store c =>
    cases c with
    | select account name => exact ⟨same, fun _ => congrArg Except.ok (found account name)⟩
    | list account =>
      refine ⟨same, fun _ => ?_⟩
      simp [profileless, logless, Store.Memory.answer, Store.Memory.names, Store.Memory.ofAccount, same]
    | record kind value => exact ⟨same, fun log => absurd trivial log⟩
    | save account name l =>
      simp only [profileless, logless, Store.Memory.answer, found]
      split
      · exact ⟨same, fun _ => rfl⟩
      · exact ⟨by simp [Store.Memory.put, Store.Memory.ofAccount, same], fun _ => rfl⟩
    | update account name l =>
      simp only [profileless, logless, Store.Memory.answer, found]
      split
      · exact ⟨by simp [Store.Memory.put, Store.Memory.ofAccount, same], fun _ => rfl⟩
      · exact ⟨same, fun _ => rfl⟩

/-- A loadout that would be overwritten stays as it is, and an item that nobody knows is not found, whether its
name can be written into the log or not. -/
theorem failed_without_effect_profileless :
    let m := Store.Memory.put {} "person" "raid" (.ofLoadout .empty)
    let save := Dialogue.run profileless (saveLoadout .standard "raid" true).run m
    let count := Dialogue.run profileless (countItem .standard "grail").run m
    save.value = .error (.profileFetch "remote transport failed: down") ∧ save.state = m ∧
      (∀ call ∈ save.calls, Call.changes call = false) ∧
      count.value = .ok (.notFound "could not find any items named grail") ∧
      (Dialogue.run logless (countItem .standard "grail").run m).value = count.value := by
  intro m save count
  have failed : save.value = .error (.profileFetch "remote transport failed: down") := by
    decide +kernel
  obtain ⟨harmless, -⟩ := failed_without_effect .standard (.saveLoadout "raid" true) profileless m
    atomic_profileless
  obtain ⟨unchanged, kept⟩ := harmless _ _ _ (Procedure.runs_inTurn profileless _ m) _ failed
  obtain ⟨-, heedless⟩ := failed_without_effect .standard (.countItem "grail") profileless m
    atomic_profileless
  rw [Dialogue.map_fst_exchanges] at unchanged
  exact ⟨failed, kept, unchanged, by decide +kernel, (heedless logless _ m alikeButLog_logless rfl).2⟩

end Service
end Armory
