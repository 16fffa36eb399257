import TeamLegality.Assoc

/-!
# Stats — stat tables and determinant values

A stat table has a value for each of the six stats.  Before generation 3 the values that count are
determinant values, half of the individual value rounded down; the HP value and shininess then
follow from the other stats.
-/

namespace TeamLegality

/-- One of the six stats. -/
inductive Stat where
  | hp | attack | defense | specialAttack | specialDefense | speed
deriving DecidableEq, Repr

namespace Stat

/-- The stats in the order of every table. -/
def all : List Stat := [hp, attack, defense, specialAttack, specialDefense, speed]

/-- The key of a stat in documents. -/
def key : Stat → String
  | hp => "hp"
  | attack => "atk"
  | defense => "def"
  | specialAttack => "spa"
  | specialDefense => "spd"
  | speed => "spe"

/-- The label of a stat in texts. -/
def label : Stat → String
  | hp => "HP"
  | attack => "Atk"
  | defense => "Def"
  | specialAttack => "SpA"
  | specialDefense => "SpD"
  | speed => "Spe"

theorem mem_all (s : Stat) : s ∈ all := by
  cases s <;> decide

end Stat

/-- A value for each stat. -/
structure StatTable where
  hp : Int
  attack : Int
  defense : Int
  specialAttack : Int
  specialDefense : Int
  speed : Int
deriving DecidableEq, Repr

namespace StatTable

/-- The value of a stat. -/
def get (t : StatTable) : Stat → Int
  | .hp => t.hp
  | .attack => t.attack
  | .defense => t.defense
  | .specialAttack => t.specialAttack
  | .specialDefense => t.specialDefense
  | .speed => t.speed

/-- The table with the values of a function. -/
def ofFn (f : Stat → Int) : StatTable :=
  ⟨f .hp, f .attack, f .defense, f .specialAttack, f .specialDefense, f .speed⟩

/-- The table with one value throughout. -/
def const (n : Int) : StatTable := ofFn fun _ => n

/-- The table of the values given, if every stat is given one. -/
def complete? (given : Stat → Option Int) : Option StatTable := do
  some ⟨← given .hp, ← given .attack, ← given .defense, ← given .specialAttack,
    ← given .specialDefense, ← given .speed⟩

/-- The sum of all values. -/
def total (t : StatTable) : Int :=
  t.hp + t.attack + t.defense + t.specialAttack + t.specialDefense + t.speed

@[simp] theorem get_ofFn (f : Stat → Int) (s : Stat) : (ofFn f).get s = f s := by
  cases s <;> rfl

@[simp] theorem get_const (n : Int) (s : Stat) : (const n).get s = n := by
  simp [const]

/-! ### Determinant values -/

/-- The determinant value of an individual value. -/
def dv (iv : Int) : Int := iv / 2

/-- The determinant values of a table. -/
def dvs (ivs : StatTable) : StatTable := ofFn fun s => dv (ivs.get s)

/-- The HP determinant value implied by the low bits of four others. -/
def expectedHpDv (ivs : StatTable) : Int :=
  dv ivs.attack % 2 * 8 + dv ivs.defense % 2 * 4 + dv ivs.speed % 2 * 2 + dv ivs.specialAttack % 2

/-- Whether the determinant values make a set shiny in generation 2. -/
def isShinyByDvs (ivs : StatTable) : Bool :=
  dv ivs.defense == 10 && dv ivs.speed == 10 && dv ivs.specialAttack == 10
    && decide (2 ≤ dv ivs.attack % 4)

end StatTable

/-- A default for every stat, in table order, overlaid by the values given; keys that name no stat
follow. -/
def fillStats {α : Type} (given : Assoc String α) (default : α) : Assoc String α :=
  (Assoc.ofList (Stat.all.map fun s => (s.key, default))).overlay given

end TeamLegality
