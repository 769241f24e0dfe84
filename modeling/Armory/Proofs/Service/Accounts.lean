import Mathlib.Logic.Function.Basic
import Armory.Proofs.Dialogue.Unwinding
import Armory.Proofs.Service.Failure
import Armory.Proofs.Service.Named
import Armory.Proofs.Store.Accounts

/-! Callers of the service, each with an account. An operation calls storage for no other account than the one that
the game has named (`Service.Request.stays_operation`), and storage keeps accounts apart. Main statement: however
the requests of several callers come in between each other, each caller is answered, and has its loadouts stored, as
if there were no others (`Service.accounts_isolated`). -/
namespace Armory

open Dialogue (Exchange)
open Procedure (Interleaving Keeps)
open Store (Shelf)

namespace Service

variable {α β : Type} {account : String}

/-! ## Operations that mind an account -/

/-- The call is not about the loadouts of any other account. -/
def Call.Of (account : String) : Service.Call → Prop
  | .game _ => True
  | .store c => c.Of account

/-- If the reply names an account, it is this one. -/
def Names (account : String) : (c : Service.Call) → Service.Reply c → Prop
  | .game .currentAccount, reply => ∀ a : Account, reply = .ok a → a.accountId = account
  | _, _ => True

/-- As long as the game names an account, an operation makes no call about another one; and what it brings, if it
does not fail, meets a condition. -/
def Minds (account : String) (post : α → Prop) (x : Operation α) : Prop :=
  Keeps (Call.Of account) (Names account) (fun r => ∀ a, r = .ok a → post a) x.procedure

section Minds

variable {post : α → Prop} {post' : β → Prop} {x : Operation α} {f : α → Operation β} {a : α}

theorem Minds.bind (h : Minds account post x) (hf : ∀ a, post a → Minds account post' (f a)) :
    Minds account post' (x >>= f) := by
  refine Keeps.andThen h fun r hr => ?_
  cases r with
  | error e => exact .done nofun
  | ok a => exact hf a (hr a rfl)

theorem minds_pure (h : post a) : Minds account post (pure a) :=
  .done fun _ same => Except.ok.inj same ▸ h

theorem minds_throw (e : ServiceError) : Minds account post (throw e : Operation α) := .done nofun

end Minds

/-- The operation makes no call about another account. -/
abbrev Stays (account : String) (x : Operation α) : Prop := Minds account (fun _ => True) x

theorem stays_pure (a : α) : Stays account (pure a) := minds_pure trivial

theorem minds_account : Minds account (fun a => a.accountId = account) Service.account := by
  rw [Minds, Service.account, askGame_procedure]
  refine .ask trivial fun reply named => .done fun a brought => ?_
  cases reply with
  | error e => cases brought
  | ok a' =>
    cases brought
    exact named a rfl

theorem stays_askGame (c : Game.Call) (failed : String → ServiceError) :
    Stays account (askGame c failed) := by
  rw [Stays, Minds, askGame_procedure]
  exact .ask trivial fun _ _ => .done fun _ _ => trivial

theorem stays_askStore (c : Store.Call) (own : c.Of account) : Stays account (askStore c) := by
  rw [Stays, Minds, askStore_procedure]
  exact .ask own fun _ _ => .done fun _ _ => trivial

theorem stays_recordUnknown (kind : Store.NameKind) (value : String) :
    Stays account (recordUnknown kind value) :=
  .ask trivial fun _ _ => .done fun _ _ => trivial

theorem stays_attempt (p : Procedure Game α) : Stays account (attempt (withGame p)) := by
  have games : Keeps (Call.Of account) (Names account) (fun _ => True) (withGame p) :=
    p.keeps_true.through fun _ _ => .ask trivial fun _ _ => .done trivial
  exact games.andThen fun _ _ => .done fun _ _ => trivial

theorem stays_require (q : Except DomainError α) : Stays account (require q) := by
  cases q with
  | ok a => exact stays_pure _
  | error e => exact minds_throw _

theorem stays_currentCharacter (p : Profile) : Stays account (currentCharacter p) := by
  unfold currentCharacter
  split
  · exact stays_pure _
  · exact minds_throw _

theorem minds_load (c : Catalog) (detailedOnly : Bool) :
    Minds account (fun r => r.1.accountId = account) (load c detailedOnly) :=
  minds_account.bind fun _ own => (stays_askGame _ _).bind fun _ _ => minds_pure own

theorem stays_progressions : Stays account progressions :=
  minds_account.bind fun a _ => stays_askGame (.loadProgressions a.membership) _

theorem stays_wear (l : Loadout) (destination : CharacterId) (p : Profile) (f : Equip.Report → β) :
    Stays account (attempt (withGame (Equip.equipping l destination p)) >>= fun q =>
      require q >>= fun report => pure (f report)) :=
  (stays_attempt _).bind fun _ _ => (stays_require _).bind fun _ _ => stays_pure _

/-! ### The operations -/

theorem stays_countItem (c : Catalog) (name : String) : Stays account (countItem c name) := by
  unfold countItem
  dsimp only
  split
  · exact (stays_recordUnknown _ _).bind fun _ _ => stays_pure _
  · refine (minds_load c false).bind fun r _ => ?_
    split <;> exact stays_pure _

theorem stays_classTarget (c : Catalog) (name : String) : Stays account (classTarget c name) := by
  unfold classTarget
  split
  · exact stays_pure _
  · exact (stays_recordUnknown _ _).bind fun _ _ => stays_pure _

theorem stays_moveItems (p : Profile) (itemName : String) (items : List Item)
    (destination : Option CharacterId) (requested : Option Nat) :
    Stays account (moveItems p itemName items destination requested) := by
  unfold moveItems
  split
  · exact stays_pure _
  · exact (stays_attempt _).bind fun _ _ => stays_pure _

theorem stays_transferResolved (c : Catalog) (itemName : String) (itemHash : Hash)
    (requested : Option Nat) (destination : ClassTarget) (source : Option ClassTarget) :
    Stays account (transferResolved c itemName itemHash requested destination source) := by
  unfold transferResolved
  refine (minds_load c false).bind fun r _ => ?_
  dsimp only
  split
  · exact (stays_recordUnknown _ _).bind fun _ _ => stays_pure _
  · split
    · exact stays_pure _
    · exact stays_moveItems _ _ _ _ _

theorem stays_transferItem (c : Catalog) (order : TransferOrder) : Stays account (transferItem c order) := by
  unfold transferItem
  refine (stays_require _).bind fun requested _ => ?_
  dsimp only
  split
  · exact (stays_recordUnknown _ _).bind fun _ _ => stays_pure _
  · split
    on_goal 1 => refine Minds.bind (stays_pure (some ClassTarget.vault)) fun destination _ => ?_
    on_goal 2 => refine (stays_classTarget c _).bind fun destination _ => ?_
    -- the source is understood in the same way, whatever the destination is
    all_goals
      cases destination with
      | none => exact stays_pure _
      | some destination =>
        dsimp only
        split
        · exact stays_transferResolved _ _ _ _ _ _
        · refine (stays_classTarget c _).bind fun source _ => ?_
          cases source with
          | none => exact stays_pure _
          | some source => exact stays_transferResolved _ _ _ _ _ _

theorem stays_unloadEngrams (c : Catalog) : Stays account (unloadEngrams c) := by
  unfold unloadEngrams
  refine (minds_load c false).bind fun r _ => ?_
  dsimp only
  split
  · exact stays_pure _
  · exact (stays_attempt _).bind fun _ _ => stays_pure _

theorem stays_equipStrongest (c : Catalog) : Stays account (equipStrongest c) :=
  (minds_load c true).bind fun r _ => (stays_currentCharacter r.2).bind fun _ _ =>
    (stays_require _).bind fun l _ => stays_wear l _ r.2 _

theorem stays_equipDrawn (c : Catalog) (includeArmor : Bool) (lots : Lots) :
    Stays account (equipDrawn c includeArmor lots) :=
  (minds_load c true).bind fun r _ => (stays_currentCharacter r.2).bind fun _ _ =>
    (stays_require _).bind fun l _ => stays_wear l.1 _ r.2 _

theorem stays_equipNamed (c : Catalog) (name : String) : Stays account (equipNamed c name) := by
  unfold equipNamed
  refine (minds_load c false).bind fun r own => ?_
  dsimp only
  refine (stays_askStore (.select _ _) own).bind fun existing _ => ?_
  cases existing with
  | none => exact (stays_recordUnknown _ _).bind fun _ _ => stays_pure _
  | some stored =>
    exact (stays_currentCharacter r.2).bind fun _ _ => stays_wear _ _ r.2 _

theorem stays_store (name : String) (stored : StoredLoadout) (overwrite : Bool) :
    Stays account (store account name stored overwrite) := by
  have saves : ∀ status, Stays account (askStore (.save account name stored) >>= fun _ =>
      (pure status : Operation SaveStatus)) := fun status =>
    (stays_askStore (.save _ _ _) rfl).bind fun _ _ => stays_pure _
  unfold store
  split
  · refine (stays_askStore (.update _ _ _) rfl).bind fun updated _ => ?_
    cases updated with
    | true => exact stays_pure _
    | false => exact saves .overwritten
  · refine (stays_askStore (.select _ _) rfl).bind fun existing _ => ?_
    split
    · exact stays_pure _
    · exact saves .created

theorem stays_saveLoadout (c : Catalog) (name : String) (overwrite : Bool) :
    Stays account (saveLoadout c name overwrite) := by
  unfold saveLoadout
  dsimp only
  split
  · exact minds_throw (.domain (.invariantViolation "loadout name must not be empty"))
  · refine (minds_load c false).bind fun r own => (stays_currentCharacter r.2).bind fun _ _ => ?_
    rw [own]
    exact (stays_store _ _ _).bind fun _ _ => stays_pure _

theorem stays_loadoutExists (name : String) : Stays account (loadoutExists name) :=
  minds_account.bind fun _ own => (stays_askStore (.select _ _) own).bind fun _ _ => stays_pure _

theorem stays_loadoutNames : Stays account loadoutNames :=
  minds_account.bind fun a own => stays_askStore (.list a.accountId) own

theorem stays_crucibleRanks : Stays account crucibleRanks := by
  refine stays_progressions.bind fun ps _ => ?_
  split <;> exact stays_pure _

theorem stays_gambitRank : Stays account gambitRank := by
  refine stays_progressions.bind fun ps _ => ?_
  split <;> exact stays_pure _

/-- **Every operation minds the account** that the game names. -/
theorem Request.stays_operation (c : Catalog) (q : Request) : Stays account (q.operation c) := by
  cases q with
  | countItem name => exact stays_countItem c name
  | transferItem order => exact stays_transferItem c order
  | equipStrongest => exact stays_equipStrongest c
  | equipDrawn includeArmor lots => exact stays_equipDrawn c includeArmor lots
  | unloadEngrams => exact stays_unloadEngrams c
  | loadoutExists name => exact stays_loadoutExists name
  | saveLoadout name overwrite => exact stays_saveLoadout c name overwrite
  | equipNamed name => exact stays_equipNamed c name
  | loadoutNames => exact stays_loadoutNames
  | crucibleRanks => exact stays_crucibleRanks
  | gambitRank => exact stays_gambitRank

/-! ## Callers over one storage -/

section Callers

variable {κ γ : Type} {k : κ} {ids : κ → String}

/-- The service of several callers: every call is made for one of them. -/
abbrev Callers (κ : Type) : Interface where
  Call := κ × Service.Call
  Reply c := Service.Reply c.2

/-- What a caller does, among other callers. -/
def asCaller (k : κ) (p : Procedure Service α) : Procedure (Callers κ) α :=
  p.through (J := Callers κ) fun c => .ask (k, c) .done

/-- Requests of one caller, one after another, each with its answer. -/
def session (c : Catalog) :
    List Request → Procedure Service (List ((q : Request) × Except ServiceError q.Answer))
  | [] => .done []
  | q :: rest => (q.operation c).procedure.andThen fun r =>
      (session c rest).andThen fun rs => .done (⟨q, r⟩ :: rs)

/-- Storage that all callers share, and for each of them the game with its account. -/
def together [DecidableEq κ] (game : κ → Dialogue.Answering Game γ) :
    Dialogue.Answering (Callers κ) ((κ → γ) × Shelf)
  | (k, .game c), w =>
    ((game k c (w.1 k)).1, (Function.update w.1 k (game k c (w.1 k)).2, w.2))
  | (_, .store c), w => ((w.2.answer c).1, (w.1, (w.2.answer c).2))

/-- A call of a caller about no account but its own. -/
def OwnCall (ids : κ → String) (c : (Callers κ).Call) : Prop := c.2.Of (ids c.1)

/-- A reply to a caller that names no account but its own. -/
def NamesOwn (ids : κ → String) (c : (Callers κ).Call) (reply : (Callers κ).Reply c) : Prop :=
  Names (ids c.1) c.2 reply

theorem keeps_session (c : Catalog) (qs : List Request) :
    Keeps (Call.Of account) (Names account) (fun _ => True) (session c qs) := by
  induction qs with
  | nil => exact .done trivial
  | cons q rest ih =>
    exact (Request.stays_operation c q).andThen fun _ _ => ih.andThen fun _ _ => .done trivial

theorem keeps_asCaller {post : α → Prop} {p : Procedure Service α}
    (h : Keeps (Call.Of (ids k)) (Names (ids k)) post p) :
    Keeps (fun c : (Callers κ).Call => c.1 = k ∧ OwnCall ids c) (NamesOwn ids) post (asCaller k p) :=
  h.through fun _ own => .ask ⟨rfl, own⟩ fun _ named => .done named

/-- What a caller sees: its game, and what storage holds for its account. -/
def viewOf (ids : κ → String) (k : κ) (w : (κ → γ) × Shelf) : γ × Store.Holding :=
  (w.1 k, w.2.holding (ids k))

/-- Callers with different accounts see nothing of each other. -/
theorem unwinding_together [DecidableEq κ] (game : κ → Dialogue.Answering Game γ)
    (apart : Function.Injective ids)
    (names : ∀ k g a, (game k .currentAccount g).1 = .ok a → a.accountId = ids k) :
    Dialogue.Unwinding (together game) Prod.fst (viewOf ids) (OwnCall ids) (NamesOwn ids) where
  told := by
    rintro ⟨k, c⟩ w -
    cases c with
    | store c => trivial
    | game c =>
      cases c with
      | currentAccount => exact names k (w.1 k)
      | loadProfile m => trivial
      | loadProgressions m => trivial
      | transferItem r => trivial
      | equipItem r => trivial
      | equipItems r => trivial
  own := by
    rintro ⟨k, c⟩ w w' own same
    obtain ⟨played, held⟩ := Prod.mk.inj same
    cases c with
    | game c => simp [together, viewOf, played, held]
    | store c =>
      obtain ⟨reply, held'⟩ := Shelf.answer_congr own held
      exact ⟨reply, Prod.ext played held'⟩
  others := by
    rintro ⟨k, c⟩ w other own ne
    cases c with
    | game c => simp [together, viewOf, Function.update_of_ne ne]
    | store c => exact Prod.ext rfl (Shelf.holding_answer_of_ne own fun e => ne (apart e))

/-- **Accounts are isolated.** Several callers, whose games name different accounts, send requests over one storage
of either kind, and the requests are under way at the same time, in any order of their calls, those that one request
makes at the same time among them. Then the requests of one caller can go without all others: the answers are the same,
so are its calls to the game and to storage and the replies to them, in the same order, its game ends up the same, and
storage holds the same for its account. -/
theorem accounts_isolated [DecidableEq κ] (c : Catalog) (game : κ → Dialogue.Answering Game γ)
    (apart : Function.Injective ids)
    (names : ∀ k g a, (game k .currentAccount g).1 = .ok a → a.accountId = ids k)
    (sessions : List (κ × List Request)) {w w' : (κ → γ) × Shelf}
    {talk : List (Nat × Exchange (Callers κ))}
    {answers : List (List ((q : Request) × Except ServiceError q.Answer))}
    (h : Interleaving (together game) (sessions.map fun x => asCaller x.1 (session c x.2)) w talk
      answers w') (k : κ) :
    ∃ talk' t,
      Interleaving (together game)
        ((sessions.filter (·.1 = k)).map fun x => asCaller x.1 (session c x.2)) w talk'
        (Dialogue.ofCaller k (sessions.map (·.1)) answers) t ∧
      talk'.map (·.2) = (talk.map (·.2)).filter (fun e => e.1.1 = k) ∧
      t.1 k = w'.1 k ∧ t.2.holding (ids k) = w'.2.holding (ids k) := by
  have members : List.Forall₂
      (fun j p => Keeps (fun c : (Callers κ).Call => c.1 = j ∧ OwnCall ids c) (NamesOwn ids) (fun _ => True) p)
      (sessions.map (·.1)) (sessions.map fun x => asCaller x.1 (session c x.2)) := by
    rw [List.forall₂_map_left_iff, List.forall₂_map_right_iff, List.forall₂_same]
    exact fun x _ => keeps_asCaller (keeps_session c x.2)
  obtain ⟨talk', t, alone, order, same⟩ :=
    (unwinding_together game apart names).alone h members k rfl
  obtain ⟨played, held⟩ := Prod.mk.inj same
  rw [Dialogue.ofCaller_map, Dialogue.ofCaller_callers] at alone
  exact ⟨talk', t, alone, order, played.symm, held.symm⟩

/-- The accounts of two posts. -/
def postId : Bool → String
  | true => "east"
  | false => "west"

/-- Two games, which name different accounts; else they know what the watchtower knows. -/
def posts (k : Bool) : Dialogue.Answering Game Unit
  | .currentAccount, g => (.ok ⟨postId k, watch.membership⟩, g)
  | c, g => watchtower c g

/-- One post saves a loadout, and the other asks for its name and for all names. -/
theorem accounts_isolated_posts :
    let questions : List Request := [.loadoutExists "raid", .loadoutNames]
    let sessions : List (Bool × List Request) :=
      [(true, [.saveLoadout "raid" false]), (false, questions)]
    let w : (Bool → Unit) × Shelf := (fun _ => (), .inl {})
    ∃ talk answers w',
      Interleaving (together posts) (sessions.map fun x => asCaller x.1 (session .standard x.2)) w talk
        answers w' ∧
      ∃ talk' t,
        Interleaving (together posts) [asCaller false (session .standard questions)] w talk'
          (Dialogue.ofCaller false (sessions.map (·.1)) answers) t ∧
        talk'.map (·.2) = (talk.map (·.2)).filter (fun e => e.1.1 = false) ∧
        t.1 false = w'.1 false ∧ t.2.holding "west" = w'.2.holding "west" := by
  intro questions sessions w
  obtain ⟨talk, answers, w', h⟩ := Procedure.exists_interleaving (together posts)
    (sessions.map fun x => asCaller x.1 (session .standard x.2)) w
  have apart : Function.Injective postId := by
    unfold Function.Injective
    decide
  have names : ∀ k g a, (posts k .currentAccount g).1 = .ok a → a.accountId = postId k := by
    intro k g a named
    cases named
    rfl
  exact ⟨talk, answers, w', h, accounts_isolated .standard posts apart names sessions h false⟩

end Callers

end Service
end Armory
