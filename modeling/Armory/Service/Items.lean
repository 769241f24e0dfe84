import Armory.Bits
import Armory.Gear.Transfer
import Armory.Item.Filter
import Armory.Service
import Armory.Sum

/-! Counting and moving items by name. Names that mean nothing, and items that nobody has, are no errors: the
answer says what could not be found. -/
namespace Armory.Service

/-- Where an item is: with a character, or in the vault. -/
inductive Location where
  | character (id : CharacterId) (guardian : Guardian)
  | vault
  deriving DecidableEq, Repr

/-- Where the items of an owner are; an owner that the profile does not have counts as the vault. -/
def locationOf (p : Profile) (owner : Option CharacterId) : Location :=
  match owner.bind p.character? with
  | some c => .character c.id c.guardian
  | none => .vault

/-- How much of an item is at one place. -/
structure Holding where
  location : Location
  quantity : Nat
  deriving DecidableEq, Repr

/-- How much of an item there is, and where. -/
structure ItemCount where
  itemName : String
  itemHash : Hash
  holdings : List Holding
  total : Nat
  deriving DecidableEq, Repr

/-- Holdings with a quantity added at a place; what is there is added up in 32 bits. -/
def addHolding (location : Location) (quantity : Nat) : List Holding → List Holding
  | [] => [⟨location, quantity⟩]
  | h :: rest =>
    if h.location = location then { h with quantity := Bits.wrap 32 (h.quantity + quantity) } :: rest
    else h :: addHolding location quantity rest

/-- The holdings of items, each place once, in the order of the first item at it. -/
def holdingsOf (p : Profile) (items : List Item) : List Holding :=
  items.foldl (fun hs i => addHolding (locationOf p i.owner) i.quantity hs) []

/-- The answer for an item name that nobody knows. -/
def unknownItem (name : String) : String := "could not find any items named " ++ name

/-- The answer for an item that nobody has. -/
def noneHeld (name : String) : String :=
  "you don't have any " ++ name ++ " on any of your characters"

/-- How much of an item there is, and where; the total is added up in 32 bits. -/
def countItem (c : Catalog) (name : String) : Operation (Outcome ItemCount) := do
  let itemName := c.itemName name
  match c.itemHash? itemName with
  | none =>
    recordUnknown .item itemName
    pure (.notFound (unknownItem itemName))
  | some itemHash =>
    let (_, p) ← load c false
    let items := Filter.select [.itemHash itemHash] p.items
    if items.isEmpty then pure (.notFound (noneHeld itemName))
    else
      let holdings := holdingsOf p items
      pure (.found { itemName, itemHash, holdings, total := Bits.wrap 32 (sumOf (·.quantity) holdings) })

/-! ## Moving items -/

/-- A request to move items by name. -/
structure TransferOrder where
  itemName : String
  /-- None or -1 moves everything. -/
  count : Option Int := none
  source : Option String := none
  destination : Option String := none
  deriving DecidableEq, Repr

/-- What became of a request to move items. -/
structure TransferSummary where
  itemName : String
  destination : Location
  requested : Option Nat
  planned : Nat
  confirmed : Nat
  /-- What there was, if it was less than was asked for. -/
  onlyHad : Option Nat
  failures : List Transfer.Result
  deriving DecidableEq, Repr

/-- What a typed class name points to. -/
inductive ClassTarget where
  | guardian (g : Guardian)
  | vault
  deriving DecidableEq, Repr

/-- What a name in the form of the catalog points to. -/
def ClassTarget.ofName? (name : String) : Option ClassTarget :=
  if name = "vault" then some .vault else (Guardian.ofName? name).map .guardian

/-- What a typed class name points to; a name that means nothing is written into the log. -/
def classTarget (c : Catalog) (name : String) : Operation (Option ClassTarget) :=
  match ClassTarget.ofName? (c.className name) with
  | some t => pure (some t)
  | none => do
    recordUnknown .guardian (c.className name)
    pure none

/-- The quantity that a count asks for; counts above 32 bits ask for as much as 32 bits can hold. -/
def requestedQuantity : Option Int → Except DomainError (Option Nat)
  | none => .ok none
  | some n =>
    if n = -1 then .ok none
    else if 0 < n then .ok (some (min n.toNat (Bits.size 32 - 1)))
    else .error (.invariantViolation
      ("transfer count must be positive or -1, got " ++ toString n))

/-- The answer for a name that is no class. -/
def notAClass (name : String) : String := name ++ " is not a character class"

/-- The answer for a class without characters. -/
def noSuchCharacter (g : Guardian) : String :=
  "you do not have any " ++ g.name ++ " characters"

/-- The items that a request names and that are at its source, if it has one. -/
def itemsToMove (p : Profile) (itemHash : Hash) (source : Option (Option CharacterId)) :
    List Item :=
  let filters : List Filter := match source with
    | none => [.itemHash itemHash]
    | some owner => [.itemHash itemHash, .ownedBy owner]
  p.items.filter (Filter.acceptsAll filters)

/-- The owner that a target stands for, or the class that has no character. -/
def ownerOf (p : Profile) : ClassTarget → Except Guardian (Option CharacterId)
  | .vault => .ok none
  | .guardian g => match p.ofClass? g with
    | some c => .ok (some c.id)
    | none => .error g

/-- The chosen items moved to their destination, or at most a requested quantity of them. -/
def moveItems (p : Profile) (itemName : String) (items : List Item)
    (destination : Option CharacterId) (requested : Option Nat) :
    Operation (Outcome TransferSummary) := do
  if items.isEmpty then pure (.notFound (noneHeld itemName))
  else
    let report ← attempt (withGame (Transfer.batch items destination requested p.membershipType))
    pure (.found {
      itemName
      destination := locationOf p destination
      requested
      planned := report.planned
      confirmed := report.confirmed
      onlyHad := (requested.filter fun n => report.planned < n).map fun _ => report.planned
      failures := report.failures })

/-- The rest of a request to move items, once its names are understood. -/
def transferResolved (c : Catalog) (itemName : String) (itemHash : Hash) (requested : Option Nat)
    (destination : ClassTarget) (source : Option ClassTarget) :
    Operation (Outcome TransferSummary) := do
  let (_, p) ← load c false
  match ownerOf p destination with
  | .error g =>
    recordUnknown .guardian g.name
    pure (.notFound (noSuchCharacter g))
  | .ok destination =>
    match source.mapM (ownerOf p) with
    | .error g => pure (.notFound (noSuchCharacter g))
    | .ok source => moveItems p itemName (itemsToMove p itemHash source) destination requested

/-- Items moved by name: to the vault, if no destination is given, and from everywhere, if no source is. -/
def transferItem (c : Catalog) (order : TransferOrder) : Operation (Outcome TransferSummary) := do
  let requested ← require (requestedQuantity order.count)
  let itemName := c.itemName order.itemName
  match c.itemHash? itemName with
  | none =>
    recordUnknown .item itemName
    pure (.notFound (unknownItem itemName))
  | some itemHash =>
    let destination ← match order.destination with
      | none => pure (some .vault)
      | some name => classTarget c name
    match destination with
    | none => pure (.notFound (notAClass (order.destination.getD "")))
    | some destination =>
      match order.source with
      | none => transferResolved c itemName itemHash requested destination none
      | some name => match ← classTarget c name with
        | none => pure (.notFound (notAClass name))
        | some source => transferResolved c itemName itemHash requested destination (some source)

/-! ## Engrams -/

/-- What became of a request to empty the characters of engrams. -/
structure EngramUnload where
  /-- How much the characters carried, added up in 32 bits. -/
  found : Nat
  report : Transfer.Report
  deriving DecidableEq, Repr

/-- The engrams that characters carry. -/
def carriedEngrams (p : Profile) : List Item := p.items.filter fun i => i.isEngram && !i.inVault

/-- All engrams moved to the vault. -/
def unloadEngrams (c : Catalog) : Operation (Outcome EngramUnload) := do
  let (_, p) ← load c false
  let engrams := carriedEngrams p
  if engrams.isEmpty then pure (.notFound "you don't have any engrams on your characters")
  else
    let report ← attempt (withGame (Transfer.batch engrams none none p.membershipType))
    pure (.found ⟨Bits.wrap 32 (sumOf (·.quantity) engrams), report⟩)

end Armory.Service
