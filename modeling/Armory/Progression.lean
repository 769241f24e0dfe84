import Armory.Item
import Armory.Table

/-! Competitive ranks: how far each character has come on the three tracks of ranked play. -/
namespace Armory

/-- How far a character has come on one track. -/
structure Progression where
  progressionHash : Hash
  currentProgress : Nat
  level : Nat
  levelCap : Nat
  stepIndex : Nat
  progressToNextLevel : Nat
  nextLevelAt : Nat
  deriving DecidableEq, Repr

/-- The progressions of each character, by their hash. -/
abbrev Progressions := Table CharacterId (Table Hash Progression)

/-- A track of ranked play. -/
inductive Track where
  | glory | valor | infamy
  deriving DecidableEq, Repr

namespace Track

/-- The hash of the progression that a track is read from. -/
def hash : Track → Hash
  | glory => 2679551909
  | valor => 3882308435
  | infamy => 2772425241

/-- The name of a track. -/
def name : Track → String
  | glory => "glory" | valor => "valor" | infamy => "infamy"

/-- The ranks of a track from the lowest to the highest. -/
def ranks : Track → List String
  | infamy =>
    ["Guardian 1", "Guardian 2", "Guardian 3", "Brave 1", "Brave 2", "Brave 3", "Heroic 1",
     "Heroic 2", "Heroic 3", "Fabled 1", "Fabled 2", "Fabled 3", "Mythic 1", "Mythic 2",
     "Mythic 3", "Legend"]
  | _ => ["Guardian", "Brave", "Heroic", "Fabled", "Mythic", "Legend"]

/-- The rank of a level; levels past the last rank stay on it. -/
def rankName (t : Track) (level : Nat) : String := (t.ranks[level]?).getD "Legend"

end Track

/-- Where a character stands relative to the cap of a track. -/
inductive Standing where
  /-- At the cap, so that the track can be reset. -/
  | capped
  /-- One level below the cap. -/
  | legend
  | climbing
  deriving DecidableEq, Repr

/-- The name of a standing. -/
def Standing.name : Standing → String
  | capped => "capped" | legend => "legend" | climbing => "climbing"

/-- A rank on a track. -/
structure Ranking where
  track : Track
  rank : String
  stepIndex : Nat
  level : Nat
  levelCap : Nat
  progressToNextLevel : Nat
  nextLevelAt : Nat
  pointsToNextRank : Nat
  standing : Standing
  deriving DecidableEq, Repr

namespace Ranking

/-- The rank that a progression amounts to. -/
def ofProgression (t : Track) (p : Progression) : Ranking where
  track := t
  rank := t.rankName p.level
  stepIndex := p.stepIndex
  level := p.level
  levelCap := p.levelCap
  progressToNextLevel := p.progressToNextLevel
  nextLevelAt := p.nextLevelAt
  pointsToNextRank := p.nextLevelAt - p.progressToNextLevel
  standing :=
    if p.levelCap ≤ p.level then .capped
    else if p.level + 1 = p.levelCap then .legend
    else .climbing

/-- The rank on a track, read from the first character that has a progression on it. -/
def find? (t : Track) (ps : Progressions) : Option Ranking :=
  (ps.values.findSome? fun own => own.get? t.hash).map (ofProgression t)

end Ranking
end Armory
