import TeamLegality.Dex.Basic

/-!
# Baton Pass — passing Speed together with another stat

A set can boost a stat by a move, an ability or an item, and, holding the crystal of a move's type,
by that move in its Z form.  Only one Z move can be used, so two boosts that both come from Z moves
go together only when it is the same move.
-/

namespace TeamLegality.BatonPass

/-- Abilities that boost Speed. -/
def speedAbilities : List String :=
  ["motordrive", "rattled", "speedboost", "steadfast", "weakarmor"]

/-- Items that boost Speed. -/
def speedItems : List String := ["blazikenite", "eeviumz", "kommoniumz", "salacberry"]

/-- Moves that boost Speed as a side effect. -/
def speedMoves : List String := ["flamecharge"]

/-- Abilities that boost another stat. -/
def otherAbilities : List String :=
  ["angerpoint", "competitive", "defiant", "download", "justified", "lightningrod", "moxie",
   "sapsipper", "stormdrain"]

/-- Items that boost another stat. -/
def otherItems : List String :=
  ["absorbbulb", "apicotberry", "cellbattery", "eeviumz", "ganlonberry", "keeberry", "kommoniumz",
   "liechiberry", "luminousmoss", "marangaberry", "petayaberry", "snowball", "starfberry",
   "weaknesspolicy"]

/-- Moves that boost another stat as a side effect. -/
def otherMoves : List String :=
  ["acupressure", "bellydrum", "chargebeam", "curse", "diamondstorm", "fellstinger", "fierydance",
   "flowershield", "poweruppunch", "rage", "rototiller", "skullbash", "stockpile"]

/-- The stats other than Speed that can be passed on. -/
def otherStats : List Stat := [.attack, .defense, .specialAttack, .specialDefense]

/-- Whether boosts raise one of some stats. -/
def raises (boosts : Option Boosts) (stats : List Stat) : Bool :=
  boosts.any fun b => stats.any fun s => decide (0 < (b.get? s.key).getD 0)

/-- Where a boost comes from: nowhere yet, from something that can always be used, or from a move
in its Z form. -/
inductive Source where
  | nowhere
  | free
  | crystal (move : String)
deriving DecidableEq, Repr

/-- The sources found so far for Speed and for the other stats. -/
structure Sources where
  speed : Source := .nowhere
  other : Source := .nowhere
deriving DecidableEq, Repr

/-- Whether an item is the crystal for moves of a type. -/
def isCrystalFor (item : Option Item) (type : String) : Bool :=
  item.any fun i => i.zMove.any Marker.isSet && i.zMoveType == some type

/-- The sources with the own effect of a move. -/
def addMove (move : Move) (s : Sources) : Sources where
  speed := if speedMoves.contains move.id || raises move.boosts [.speed] then .free else s.speed
  other := if otherMoves.contains move.id || raises move.boosts otherStats then .free else s.other

/-- The sources with the effect of a move in its Z form: for Speed the first such move counts, for
the other stats also a later one that is the source of the Speed boost. -/
def addZMove (move : Move) (s : Sources) : Sources :=
  let speed := if raises move.zMoveBoost [.speed] && s.speed == .nowhere then .crystal move.name
    else s.speed
  let other := if raises move.zMoveBoost otherStats
      && (s.other == .nowhere || speed == .crystal move.name) then .crystal move.name
    else s.other
  { speed, other }

/-- The sources with one more move. -/
def step (item : Option Item) (s : Sources) (move : Move) : Sources :=
  let s := addMove move s
  if isCrystalFor item move.type then addZMove move s else s

/-- The sources that moves, ability and item give together. -/
def sources (moves : List Move) (abilityId : String) (item : Option Item) : Sources :=
  let s := moves.foldl (step item) {}
  let itemId := (item.map (·.id)).getD ""
  { speed := if speedAbilities.contains abilityId || speedItems.contains itemId then .free
      else s.speed
    other := if otherAbilities.contains abilityId || otherItems.contains itemId then .free
      else s.other }

/-- Whether two boosts can be used together. -/
def goTogether : Source → Source → Bool
  | .nowhere, _ => false
  | _, .nowhere => false
  | .crystal a, .crystal b => a == b
  | _, _ => true

@[simp] theorem goTogether_free_left {source : Source} :
    goTogether .free source = true ↔ source ≠ .nowhere := by
  cases source <;> simp [goTogether]

@[simp] theorem goTogether_free_right {source : Source} :
    goTogether source .free = true ↔ source ≠ .nowhere := by
  cases source <;> simp [goTogether]

/-- Whether a set can pass Speed together with another stat. -/
def canPassSpeedAndOther (moves : List Move) (abilityId : String) (item : Option Item) : Bool :=
  let s := sources moves abilityId item
  goTogether s.speed s.other

end TeamLegality.BatonPass
