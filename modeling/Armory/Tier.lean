/-! Rarity of items. -/
namespace Armory

/-- How rare an item is. -/
inductive Tier where
  | unknown | currency | common | uncommon | rare | legendary | exotic
  deriving DecidableEq, Repr

namespace Tier

/-- The tier that a numeric code names; codes without a tier name the unknown one. -/
def ofCode (code : Int) : Tier :=
  if code = 1 then currency
  else if code = 2 then common
  else if code = 3 then uncommon
  else if code = 4 then rare
  else if code = 5 then legendary
  else if code = 6 then exotic
  else unknown

/-- The numeric code of a tier. -/
def code : Tier → Int
  | unknown => 0 | currency => 1 | common => 2 | uncommon => 3 | rare => 4 | legendary => 5
  | exotic => 6

/-- The name of a tier. -/
def name : Tier → String
  | unknown => "unknown" | currency => "currency" | common => "common" | uncommon => "uncommon"
  | rare => "rare" | legendary => "legendary" | exotic => "exotic"

theorem ofCode_code (t : Tier) : ofCode t.code = t := by cases t <;> decide

end Tier
end Armory
