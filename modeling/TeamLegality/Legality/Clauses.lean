import TeamLegality.Dex.Basic
import TeamLegality.Error
import TeamLegality.Rule.Ban
import TeamLegality.RuleTable.Basic

/-!
# Clauses — rules that no ban list can express

A clause is a rule whose presence in a table switches on a check of its own.  This module holds the
names and the fixed lists that those checks use, and the facts about species that they ask for.
-/

namespace TeamLegality

namespace Clause

/-- Bans one-hit knock-out moves. -/
def ohko : RuleKey := .rule "ohkoclause"

/-- Allows one Baton Pass per team, and none that passes Speed with another stat. -/
def batonPass : RuleKey := .rule "batonpassclause"

/-- Admits only species at the start of an evolution family. -/
def littleCup : RuleKey := .rule "littlecup"

/-- Admits each species once. -/
def species : RuleKey := .rule "speciesclause"

/-- Admits each nickname once. -/
def nickname : RuleKey := .rule "nicknameclause"

/-- Admits what belongs to no game. -/
def allowNonstandard : RuleKey := .rule "allowcap"

/-- A clause that bans a list of moves or abilities. -/
structure Listed where
  rule : RuleKey
  label : String
  ban : Ban

/-- The clauses that ban moves. -/
def moveClauses : List Listed :=
  [⟨.rule "evasionmovesclause", "Evasion Moves Clause", { moves := ["minimize", "doubleteam"] }⟩,
   ⟨.rule "swaggerclause", "Swagger Clause", { moves := ["swagger"] }⟩]

/-- The clauses that ban abilities. -/
def abilityClauses : List Listed :=
  [⟨.rule "evasionabilitiesclause", "Evasion Abilities Clause",
      { abilities := ["sandveil", "snowcloak"] }⟩,
   ⟨.rule "moodyclause", "Moody Clause", { abilities := ["moody"] }⟩]

/-- The ban of what no game has. -/
def illegal : RuleKey := .ban (.plain "illegal")

/-- The ban of what is not released. -/
def unreleased : RuleKey := .ban (.plain "unreleased")

/-- Moves that put to sleep. -/
def sleepMoves : List String := ["hypnosis", "lovelykiss", "sing", "sleeppowder", "spore"]

/-- Moves that trap. -/
def trapMoves : List String := ["meanlook", "spiderweb"]

/-- Whether a move that puts to sleep stands with one that traps. -/
def hasSleepTrap (moveIds : List String) : Bool :=
  moveIds.any sleepMoves.contains && moveIds.any trapMoves.contains

/-- The format in which weather abilities must not meet those that profit from them. -/
def weatherFormat : String := "gen5ou"

/-- The abilities that must not meet on a team. -/
def weatherPairs : List (String × String) := [("Drizzle", "Swift Swim"), ("Drought", "Chlorophyll")]

/-- The groups of formes of which a team may have one. -/
def formeGroups : List String :=
  ["Kyurem-Black/Kyurem-White", "Necrozma-Dusk-Mane", "Necrozma-Dawn-Wings"]

/-- The group of a forme. -/
def formeGroup? (name : String) : Option String :=
  [("Kyurem-Black", "Kyurem-Black/Kyurem-White"), ("Kyurem-White", "Kyurem-Black/Kyurem-White"),
   ("Necrozma-Dusk-Mane", "Necrozma-Dusk-Mane"),
   ("Necrozma-Dawn-Wings", "Necrozma-Dawn-Wings")].lookup name

theorem formeGroup?_eq_some_iff {name group : String} : formeGroup? name = some group ↔
    group = "Kyurem-Black/Kyurem-White" ∧ (name = "Kyurem-Black" ∨ name = "Kyurem-White")
      ∨ group = name ∧ (name = "Necrozma-Dusk-Mane" ∨ name = "Necrozma-Dawn-Wings") := by
  by_cases hname : name ∈ ["Kyurem-Black", "Kyurem-White", "Necrozma-Dusk-Mane",
    "Necrozma-Dawn-Wings"]
  · simp only [List.mem_cons, List.not_mem_nil, or_false] at hname
    rcases hname with rfl | rfl | rfl | rfl <;> simp [formeGroup?, List.lookup_cons, eq_comm]
  · simp only [List.mem_cons, List.not_mem_nil, or_false, not_or] at hname
    obtain ⟨hblack, hwhite, hdusk, hdawn⟩ := hname
    have hnone : formeGroup? name = none :=
      List.lookup_eq_none_iff.mpr (by simp [hblack, hwhite, hdusk, hdawn])
    simp [hnone, hblack, hwhite, hdusk, hdawn]

end Clause

namespace Species

/-- Whether a species is sure to have three perfect values from generation 6 on. -/
def isLegendary (s : Species) (shiny : Bool) : Bool :=
  (s.eggGroups.head? == some "Undiscovered" || s.name == "Manaphy")
    && s.preEvolution == "" && !s.canEvolve && s.name != "Unown" && s.baseSpecies != "Pikachu"
    && (s.baseSpecies != "Diancie" || !shiny)

/-- The part of a species that is female: half unless its gender ratio says otherwise. -/
def femaleRatio (s : Species) : Binary64 :=
  ((s.genderRatio.bind (·.get? "F"))).getD (Binary64.ofDecimal false 5 (-1))

/-- The Attack determinant value from which on a set is male in generation 2: the sixteenths of
the female part, with two values moved. -/
def genderThreshold (s : Species) : Except RatioError Int :=
  match s.femaleRatio.scale 16 with
  | .notANumber => .error .notANumber
  | .infinite _ => .error .infinite
  | finite =>
    let sixteenths := finite.truncate?.getD 0
    .ok (if sixteenths = 4 then 5 else if sixteenths = 8 then 7 else sixteenths)

/-- The targets that a species is banned by, the most specific first. -/
def features (s : Species) : List Target :=
  [.entry .pokemon s.id, .entry .baseSpecies (Text.toId s.baseSpecies)]
    ++ (if Text.toId s.tier = "" then [] else [.entry .tag (Text.toId s.tier)])
    ++ (if s.isMega then [.entry .tag "mega"] else [])

end Species

namespace RuleTable

/-- Why the first banned of several targets is banned; an unban before it shields the rest. -/
def firstReason (t : RuleTable) : List Target → String
  | [] => ""
  | target :: rest =>
    if t.banReason target ≠ "" then t.banReason target
    else if t.has (.unban target) then ""
    else firstReason t rest

/-- Why a species is banned, empty when it is not. -/
def speciesReason (t : RuleTable) (s : Species) : String := t.firstReason s.features

end RuleTable

end TeamLegality
