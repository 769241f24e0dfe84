import Armory.Game

/-! The game as a script: fixed answers to the questions about an account, and rules that say which changes
fail. Its replies depend only on the call. -/
namespace Armory

/-- The calls that a rule can apply to. -/
inductive Game.Script.Target where
  | transferItem | equipItem | equipItems
  deriving DecidableEq, Repr

/-- A rule by which calls fail; an absent field applies to every call. -/
structure Game.Script.Rule where
  target : Game.Script.Target
  error : GameError
  itemHash : Option Hash := none
  itemId : Option String := none
  toVault : Option Bool := none
  characterId : Option CharacterId := none

/-- A scripted game; an error given for a question comes before its answer. -/
structure Game.Script where
  account : Option Account := none
  accountError : Option GameError := none
  snapshot : Option Snapshot := none
  snapshotError : Option GameError := none
  progressions : Option Progressions := none
  progressionsError : Option GameError := none
  rules : List Game.Script.Rule := []

namespace Game.Script

/-- Whether an expected value, if there is one, is the given one. -/
def agrees {α : Type} [DecidableEq α] (expected : Option α) (actual : Option α) : Bool :=
  match expected with
  | none => true
  | some a => actual == some a

/-- Whether a rule applies to a call. -/
def Rule.applies (rule : Rule) : Call → Bool
  | .transferItem r => rule.target == .transferItem && agrees rule.itemHash (some r.itemHash)
      && agrees rule.itemId r.itemId && agrees rule.toVault (some r.transferToVault)
      && agrees rule.characterId (some r.characterId)
  | .equipItem r => rule.target == .equipItem && rule.itemHash.isNone && rule.toVault.isNone
      && agrees rule.itemId (some r.itemId) && agrees rule.characterId (some r.characterId)
  | .equipItems r => rule.target == .equipItems && rule.itemHash.isNone && rule.toVault.isNone
      && rule.itemId.isNone && agrees rule.characterId (some r.characterId)
  | _ => false

/-- The reply to a change: the error of the first rule that applies, or success. -/
def change (s : Script) (c : Call) : Except GameError Unit :=
  match s.rules.find? (·.applies c) with
  | some rule => .error rule.error
  | none => .ok ()

/-- An answer that an error comes before. -/
def answerOr {α : Type} (error : Option GameError) (value : Option α) (absent : GameError) :
    Except GameError α :=
  match error, value with
  | some e, _ => .error e
  | none, some a => .ok a
  | none, none => .error absent

/-- The reply to a call. -/
def reply (s : Script) : (c : Call) → Except GameError c.Success
  | .currentAccount => answerOr s.accountError s.account .noLinkedAccount
  | .loadProfile _ => answerOr s.snapshotError s.snapshot (.transport "no snapshot")
  | .loadProgressions _ => answerOr s.progressionsError s.progressions (.transport "no progressions")
  | .transferItem r => s.change (.transferItem r)
  | .equipItem r => s.change (.equipItem r)
  | .equipItems r => s.change (.equipItems r)

/-- The replies of a script, which never changes. -/
def answer : Dialogue.Answering Game Script := fun c s => (s.reply c, s)

end Game.Script
end Armory
