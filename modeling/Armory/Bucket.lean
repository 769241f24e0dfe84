/-! Equipment buckets: the eleven places in which a character carries gear, in the order in which every
loadout lists them. -/
namespace Armory

/-- A place for gear. -/
inductive Bucket where
  | kinetic | energy | power | ghost | helmet | gauntlets | chest | legs | classArmor | artifact
  | subclass
  deriving DecidableEq, Repr

namespace Bucket

/-- Every bucket, in order. -/
def all : List Bucket :=
  [kinetic, energy, power, ghost, helmet, gauntlets, chest, legs, classArmor, artifact, subclass]

/-- The weapon buckets. -/
def weapons : List Bucket := [kinetic, energy, power]

/-- The armor buckets of which at most one may hold an exotic; class armor stands apart. -/
def armor : List Bucket := [helmet, gauntlets, chest, legs]

/-- The buckets whose items count for the power level. -/
def powered : List Bucket := weapons ++ armor ++ [classArmor]

/-- The most items that one character can carry in a bucket, the equipped one included. -/
def capacity : Nat := 10

/-- Whether a bucket counts for the power level. -/
def countsForPower (b : Bucket) : Bool := powered.contains b

/-- Whether a bucket holds weapons. -/
def isWeapon (b : Bucket) : Bool := weapons.contains b

/-- Whether a bucket holds armor, class armor included. -/
def isArmor (b : Bucket) : Bool := armor.contains b || b == classArmor

/-- The place of a bucket in the order. -/
def index : Bucket → Nat
  | kinetic => 0 | energy => 1 | power => 2 | ghost => 3 | helmet => 4 | gauntlets => 5
  | chest => 6 | legs => 7 | classArmor => 8 | artifact => 9 | subclass => 10

/-- The name of a bucket in messages. -/
def name : Bucket → String
  | kinetic => "kinetic" | energy => "energy" | power => "power" | ghost => "ghost"
  | helmet => "helmet" | gauntlets => "gauntlets" | chest => "chest" | legs => "legs"
  | classArmor => "class_armor" | artifact => "artifact" | subclass => "subclass"

/-- The name of a bucket as a key of stored and reported loadouts. -/
def key : Bucket → String
  | kinetic => "Kinetic" | energy => "Energy" | power => "Power" | ghost => "Ghost"
  | helmet => "Helmet" | gauntlets => "Gauntlets" | chest => "Chest" | legs => "Legs"
  | classArmor => "ClassArmor" | artifact => "Artifact" | subclass => "Subclass"

/-- The bucket that has a key. -/
def ofKey? (k : String) : Option Bucket := all.find? (·.key == k)

theorem mem_all (b : Bucket) : b ∈ all := by cases b <;> decide

theorem all_nodup : all.Nodup := by decide

theorem all_ascends : all.Pairwise fun b c => b.index < c.index := by decide

theorem ofKey?_key (b : Bucket) : ofKey? b.key = some b := by cases b <;> decide

/-! ## Entries of buckets

Whatever is kept by bucket is listed with the bucket in front of each entry. -/

section Entries

variable {α : Type} {f : Bucket → Option α} {b : Bucket} {a : α}

theorem mem_filterMap_all : (b, a) ∈ all.filterMap (fun c => (f c).map (c, ·)) ↔ f b = some a := by
  simp only [List.mem_filterMap, Option.map_eq_some_iff, Prod.mk.injEq]
  constructor
  · rintro ⟨c, -, a', h, rfl, rfl⟩
    exact h
  · intro h
    exact ⟨b, mem_all b, a, h, rfl, rfl⟩

theorem filterMap_all_ascends (f : Bucket → Option α) :
    (all.filterMap fun c => (f c).map (c, ·)).Pairwise fun e e' => e.1.index < e'.1.index := by
  rw [List.pairwise_filterMap]
  refine all_ascends.imp fun {b c} before e he e' he' => ?_
  obtain ⟨_, -, rfl⟩ := Option.map_eq_some_iff.mp he
  obtain ⟨_, -, rfl⟩ := Option.map_eq_some_iff.mp he'
  exact before

end Entries

end Bucket
end Armory
