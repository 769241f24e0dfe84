import Armory.Bits
import Armory.Game
import Armory.Procedure
import Armory.Sum

/-! Moving items. A batch is planned first: which items move, and how much of each. All planned moves are then
under way at the same time, each from a character to the vault and from the vault to its destination, and a
failed call ends only the move it belongs to. -/
namespace Armory

/-- The two ways of a move, by which it can fail. -/
inductive Transfer.Stage where
  | toVault | fromVault
  deriving DecidableEq, Repr

/-- How a move ended. -/
inductive Transfer.Outcome where
  | completed
  | failed (stage : Transfer.Stage) (message : String)
  deriving DecidableEq, Repr

/-- An item that is to be moved, with the quantity to move. -/
structure Move where
  item : Item
  quantity : Nat
  deriving DecidableEq, Repr

/-- A move and how it ended. -/
structure Transfer.Result where
  itemHash : Hash
  instanceId : Option String
  quantity : Nat
  outcome : Transfer.Outcome
  deriving DecidableEq, Repr

/-- A batch of moves and how they ended. -/
structure Transfer.Report where
  /-- The quantity that was to be moved, added up in 32 bits. -/
  planned : Nat := 0
  /-- One entry for each move, in the order of the plan. -/
  results : List Transfer.Result := []
  deriving DecidableEq, Repr

namespace Transfer

/-- Whether a move succeeded. -/
def Result.isCompleted (r : Result) : Bool := r.outcome == .completed

/-- The quantity that was moved, added up in 32 bits. -/
def Report.confirmed (r : Report) : Nat :=
  Bits.wrap 32 (sumOf (·.quantity) (r.results.filter (·.isCompleted)))

/-- The moves that failed. -/
def Report.failures (r : Report) : List Result := r.results.filter fun r => !r.isCompleted

/-! ## Planning -/

/-- The moves for a batch of items, with the quantity that may still be moved if it is limited. Items that
are at the destination already are passed over, and the last item moved may be split. -/
def planFrom (destination : Option CharacterId) : Option Nat → List Item → List Move
  | _, [] => []
  | some 0, _ => []
  | left, i :: rest =>
    if i.owner = destination then planFrom destination left rest
    else match left with
      | none => ⟨i, i.quantity⟩ :: planFrom destination none rest
      | some n =>
        ⟨i, min i.quantity n⟩ :: planFrom destination (some (n - min i.quantity n)) rest

/-- The moves that bring items to a destination, or at most `count` of them. -/
def plan (items : List Item) (destination : Option CharacterId) (count : Option Nat) : List Move :=
  planFrom destination count items

/-- The quantity that a plan moves. -/
def quantity (moves : List Move) : Nat := sumOf (·.quantity) moves

/-! ## Carrying out -/

/-- The call that takes an item from its holder to the vault. -/
def toVaultRequest (m : Move) (holder : CharacterId) (membershipType : Int) : TransferRequest where
  itemHash := m.item.itemHash
  stackSize := m.quantity
  transferToVault := true
  itemId := m.item.instanceId
  characterId := holder
  membershipType

/-- The call that brings an item from the vault to a character. -/
def fromVaultRequest (m : Move) (receiver : CharacterId) (membershipType : Int) :
    TransferRequest where
  itemHash := m.item.itemHash
  stackSize := m.quantity
  transferToVault := false
  itemId := m.item.instanceId
  characterId := receiver
  membershipType

/-- One call of a move, after which the move goes on only if the call succeeded. -/
def hop (stage : Stage) (request : TransferRequest) (next : Dialogue Game Outcome) :
    Dialogue Game Outcome :=
  .ask (.transferItem request) fun
    | .ok _ => next
    | .error e => .done (.failed stage e.message)

/-- The second half of a move: from the vault to its destination, if that is a character. -/
def deliver (m : Move) (destination : Option CharacterId) (membershipType : Int) :
    Dialogue Game Outcome :=
  match destination with
  | none => .done .completed
  | some receiver =>
    hop .fromVault (fromVaultRequest m receiver membershipType) (.done .completed)

/-- A whole move: from the holder to the vault, if a character holds the item, and then on. -/
def carry (m : Move) (destination : Option CharacterId) (membershipType : Int) :
    Dialogue Game Outcome :=
  match m.item.owner with
  | none => deliver m destination membershipType
  | some holder =>
    hop .toVault (toVaultRequest m holder membershipType) (deliver m destination membershipType)

/-- The entry of a report for a move. -/
def Result.ofMove (m : Move) (outcome : Outcome) : Result :=
  ⟨m.item.itemHash, m.item.instanceId, m.quantity, outcome⟩

/-- A move with the entry for its report. -/
def perform (destination : Option CharacterId) (membershipType : Int) (m : Move) :
    Dialogue Game Result :=
  (carry m destination membershipType).andThen fun outcome => .done (.ofMove m outcome)

/-- A batch of items brought to a destination, or at most `count` of them. The entries of its report are in
the order of the plan, in whatever order the moves end. -/
def batch (items : List Item) (destination : Option CharacterId) (count : Option Nat)
    (membershipType : Int) : Procedure Game Report :=
  let moves := plan items destination count
  .together (moves.map (perform destination membershipType)) fun results =>
    .done ⟨Bits.wrap 32 (quantity moves), results⟩

/-- A batch whose moves are made one after the other. -/
def run (items : List Item) (destination : Option CharacterId) (count : Option Nat)
    (membershipType : Int) : Dialogue Game Report :=
  (batch items destination count membershipType).inTurn

theorem run_eq (items : List Item) (destination : Option CharacterId) (count : Option Nat)
    (membershipType : Int) :
    run items destination count membershipType =
      (Dialogue.each (perform destination membershipType) (plan items destination count)).andThen
        fun results => .done ⟨Bits.wrap 32 (quantity (plan items destination count)), results⟩ := by
  simp only [run, batch, Procedure.inTurn, Procedure.along_together, Procedure.along_done,
    Dialogue.each_map, id]

end Transfer
end Armory
