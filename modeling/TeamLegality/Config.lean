/-!
# Config — the limits that resolution and validation observe
-/

namespace TeamLegality

/-- Numeric limits and the mod that formats fall back on. -/
structure Config where
  maxTeamSize : Int := 6
  maxMoves : Int := 4
  maxRuleDepth : Int := 16
  maxIv : Int := 31
  maxEv : Int := 255
  maxTotalEvs : Int := 510
  littleCupLevel : Int := 5
  defaultMod : String := "gen7"
deriving DecidableEq, Repr

end TeamLegality
