import TeamLegality.Rule.Target

/-!
# Grouped bans — targets sorted by what they say about a set

A set has one species, one base species, one ability and one item, but several moves and tags.  So
a ban is matched by category: of the single-valued categories one of the listed values has to be
present, of the others all of them.
-/

namespace TeamLegality

/-- Target identifiers grouped by category, each at most once, with the plain targets apart. -/
structure Ban where
  species : List String := []
  baseSpecies : List String := []
  moves : List String := []
  abilities : List String := []
  items : List String := []
  tags : List String := []
  other : List String := []
deriving DecidableEq, Repr

namespace Ban

/-- The identifiers that targets have in a category, each once. -/
def idsIn (category : Category) (targets : List Target) : List String :=
  (targets.filterMap fun
    | .entry c id => if c = category then some id else none
    | .plain _ => none).eraseDups

/-- The plain targets, each once. -/
def plainOnes (targets : List Target) : List String :=
  (targets.filterMap fun
    | .entry _ _ => none
    | .plain text => some text).eraseDups

/-- Targets grouped. -/
def ofTargets (targets : List Target) : Ban where
  species := idsIn .pokemon targets
  baseSpecies := idsIn .baseSpecies targets
  moves := idsIn .move targets
  abilities := idsIn .ability targets
  items := idsIn .item targets
  tags := idsIn .tag targets
  other := plainOnes targets

/-- The group of a category. -/
def group (b : Ban) : Category → List String
  | .pokemon => b.species
  | .baseSpecies => b.baseSpecies
  | .move => b.moves
  | .ability => b.abilities
  | .item => b.items
  | .tag => b.tags

/-- The targets of a ban, ungrouped. -/
def keys (b : Ban) : List Target :=
  (Category.all.flatMap fun c => (b.group c).map (.entry c)) ++ b.other.map .plain

/-- The number of targets that are present. -/
def count (b : Ban) (has : List Target) : Nat := (b.keys.filter has.contains).length

/-- The categories of which a set has a single value. -/
def singleValued : List Category := [.pokemon, .baseSpecies, .ability, .item]

/-- The categories of which a set may have several values. -/
def multiValued : List Category := [.move, .tag]

/-- Whether what is present falls under the ban. -/
def isMatchedBy (b : Ban) (has : List Target) : Bool :=
  (singleValued.all fun c =>
    (b.group c).isEmpty || (b.group c).any fun id => has.contains (.entry c id))
  && (multiValued.all fun c => (b.group c).all fun id => has.contains (.entry c id))
  && b.other.all fun text => has.contains (.plain text)

/-- Whether a move is among the targets. -/
def bansMove (b : Ban) (id : String) : Bool := b.moves.contains id

/-- Whether an ability is among the targets. -/
def bansAbility (b : Ban) (id : String) : Bool := b.abilities.contains id

end Ban

end TeamLegality
