import Armory.Store
import Armory.Table

/-! Storage in memory: for each account a table of its loadouts by name. -/
namespace Armory.Store

/-- Stored loadouts and the log of unknown names. -/
structure Memory where
  loadouts : Table String (Table String StoredLoadout) := .empty
  log : List (NameKind × String) := []

namespace Memory

/-- The loadouts of an account. -/
def ofAccount (m : Memory) (account : String) : Table String StoredLoadout :=
  (m.loadouts.get? account).getD .empty

/-- The loadout under a name. -/
def get? (m : Memory) (account name : String) : Option StoredLoadout :=
  (m.ofAccount account).get? name

/-- The memory with a loadout put under a name. -/
def put (m : Memory) (account name : String) (l : StoredLoadout) : Memory :=
  { m with loadouts := m.loadouts.insert account ((m.ofAccount account).insert name l) }

/-- The names of an account's loadouts in order. -/
def names (m : Memory) (account : String) : List String := (m.ofAccount account).keys

/-- The error of saving under a name that is taken. -/
def taken (name : String) : StoreError := .decode ("loadout \x60" ++ name ++ "\x60 already exists")

/-- The replies of storage in memory. -/
def answer : Dialogue.Answering Store Memory
  | .select account name, m => (.ok (m.get? account name), m)
  | .save account name l, m =>
    if (m.get? account name).isSome then (.error (taken name), m)
    else (.ok (), m.put account name l)
  | .update account name l, m =>
    if (m.get? account name).isSome then (.ok true, m.put account name l) else (.ok false, m)
  | .list account, m => (.ok (m.names account), m)
  | .record kind value, m => (.ok (), { m with log := m.log ++ [(kind, value)] })

end Memory
end Armory.Store
