import Armory.Dialogue
import Armory.Loadout.Stored

/-! Storage as a partner in a dialogue: named loadouts, each belonging to an account, and a log of names that
nobody knew. -/
namespace Armory

/-- Why a call to storage failed. -/
inductive StoreError where
  | database (detail : String)
  | decode (detail : String)
  deriving DecidableEq, Repr

/-- The wording of a failed call. -/
def StoreError.message : StoreError → String
  | database m => "database error: " ++ m
  | decode m => "decode error: " ++ m

/-- What is known of a failed call, without the kind of the error. -/
def StoreError.detail : StoreError → String
  | database m | decode m => m

/-- What an unknown name was taken for. -/
inductive Store.NameKind where
  | item | guardian | loadout
  deriving DecidableEq, Repr

/-- The name of a kind in the log. -/
def Store.NameKind.name : Store.NameKind → String
  | item => "item_name" | guardian => "class_name" | loadout => "loadout_name"

/-- A call to storage. -/
inductive Store.Call where
  | select (account name : String)
  /-- Stores a loadout under a name that is free. -/
  | save (account name : String) (loadout : StoredLoadout)
  /-- Replaces a loadout, and says whether there was one. -/
  | update (account name : String) (loadout : StoredLoadout)
  | list (account : String)
  /-- Writes an unknown name into the log. -/
  | record (kind : Store.NameKind) (value : String)

/-- What a call brings if it does not fail. -/
abbrev Store.Call.Success : Store.Call → Type
  | .select _ _ => Option StoredLoadout
  | .save _ _ _ => Unit
  | .update _ _ _ => Bool
  | .list _ => List String
  | .record _ _ => Unit

/-- The calls of storage and their replies. -/
abbrev Store : Interface where
  Call := Store.Call
  Reply c := Except StoreError c.Success

end Armory
