import Armory.Store.Database
import Armory.Store.Memory

/-! Storage of either kind: in memory, which lasts as long as the program does, or in a database. -/
namespace Armory.Store

/-- One of the two kinds of storage. -/
abbrev Shelf := Memory ⊕ Database

/-- The replies of storage of either kind. -/
def Shelf.answer : Dialogue.Answering Store Shelf
  | c, .inl m => ((m.answer c).1, .inl (m.answer c).2)
  | c, .inr d => ((d.answer c).1, .inr (d.answer c).2)

/-- The log of unknown names, as long as it can be read. -/
def Shelf.log? : Shelf → Option (List (NameKind × String))
  | .inl m => some m.log
  | .inr d => if d.closed then none else some d.log

end Armory.Store
