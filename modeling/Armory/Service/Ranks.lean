import Armory.Service

/-! Ranks on the tracks of ranked play. -/
namespace Armory.Service

/-- The ranks of the two crucible tracks, of which at least one is there. -/
structure CrucibleRanks where
  glory : Option Ranking
  valor : Option Ranking
  deriving DecidableEq, Repr

/-- The crucible ranks. -/
def crucibleRanks : Operation (Outcome CrucibleRanks) := do
  let ps ← progressions
  match Ranking.find? .glory ps, Ranking.find? .valor ps with
  | none, none => pure (.notFound "could not find your current crucible rankings")
  | glory, valor => pure (.found ⟨glory, valor⟩)

/-- The gambit rank. -/
def gambitRank : Operation (Outcome Ranking) := do
  let ps ← progressions
  match Ranking.find? .infamy ps with
  | none => pure (.notFound "could not find your current gambit ranking")
  | some r => pure (.found r)

end Armory.Service
