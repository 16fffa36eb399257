import TeamLegality.Dex.Basic

/-!
# Generations — what one generation finds, the later ones find

The view of a generation hides what later generations introduced, and nothing else
(`lookup_withGen_eq_some_iff`).  So a later view finds all that an earlier one does.  Only a Hidden
Power that stands in for a name, because no move is listed for it yet, may give way: to the move
that a generation in between introduced under that name (`found_later`).
-/

namespace TeamLegality.Dex

variable {d : Dex} {name : String} {g g' : Int}

/-! ### Entries of tables -/

section Tables

variable {α : Type} {table : Assoc String α} {gen : α → Int} {a : α}

/-- **A view finds the entry of a name** unless a later generation introduced it. -/
theorem lookup_withGen_eq_some_iff : (d.withGen g).lookup table gen name = some a
    ↔ d.entry? table name = some a ∧ gen a ≤ g := by
  show (d.entry? table name).filter (fun e => gen e ≤ g) = some a ↔ _
  rw [Option.filter_eq_some_iff, decide_eq_true_iff]

theorem lookup_withGen_of_le (hle : g ≤ g')
    (h : (d.withGen g).lookup table gen name = some a) :
    (d.withGen g').lookup table gen name = some a := by
  obtain ⟨hentry, hgen⟩ := lookup_withGen_eq_some_iff.mp h
  exact lookup_withGen_eq_some_iff.mpr ⟨hentry, Int.le_trans hgen hle⟩

theorem lt_gen_of_lookup_withGen (hnone : (d.withGen g).lookup table gen name = none)
    (hentry : d.entry? table name = some a) : g < gen a := by
  refine Int.not_le.mp fun hle => ?_
  have hfound := lookup_withGen_eq_some_iff.mpr ⟨hentry, hle⟩
  rw [hnone] at hfound
  cases hfound

end Tables

/-! ### Moves -/

/-- A move stands in for a name in a generation: no move is listed for the name there, and it is the
Hidden Power of that generation with the type that the name adds to it. -/
structure StandsIn (d : Dex) (g : Int) (name : String) (move : Move) : Prop where
  unlisted : (d.withGen g).lookup d.moves (·.gen) name = none
  typed : ∃ t base, typedHiddenPower? (d.resolveAlias (Text.toId name)) = some t
    ∧ (d.withGen g).lookup d.moves (·.gen) hiddenPowerId = some base ∧ move = withType base t

variable {move : Move}

/-- **A move is listed or stands in.** -/
theorem findMove?_withGen_eq_some_iff : (d.withGen g).findMove? name = some move
    ↔ (d.withGen g).lookup d.moves (·.gen) name = some move ∨ d.StandsIn g name move := by
  have hfind : (d.withGen g).findMove? name = ((d.withGen g).lookup d.moves (·.gen) name).or
      ((typedHiddenPower? (d.resolveAlias (Text.toId name))).bind fun t =>
        ((d.withGen g).lookup d.moves (·.gen) hiddenPowerId).bind fun base =>
          some (withType base t)) := by
    show _ = ((d.withGen g).lookup (d.withGen g).moves (·.gen) name).or _
    unfold findMove?
    cases (d.withGen g).lookup (d.withGen g).moves (·.gen) name <;> rfl
  rw [hfind]
  cases hlisted : (d.withGen g).lookup d.moves (·.gen) name with
  | some listed =>
    refine ⟨.inl, fun h => h.resolve_right fun hstands => ?_⟩
    rw [hstands.unlisted] at hlisted
    cases hlisted
  | none =>
    simp only [Option.none_or, Option.bind_eq_some_iff, Option.some.injEq]
    constructor
    · rintro ⟨t, ht, base, hbase, rfl⟩
      exact .inr ⟨hlisted, t, base, ht, hbase, rfl⟩
    · rintro (h | h)
      · cases h
      · obtain ⟨t, base, ht, hbase, rfl⟩ := h.typed
        exact ⟨t, ht, base, hbase, rfl⟩

theorem StandsIn.gen_le (h : d.StandsIn g name move) : move.gen ≤ g := by
  obtain ⟨t, base, -, hbase, rfl⟩ := h.typed
  exact (lookup_withGen_eq_some_iff.mp hbase).2

/-- What stands in goes on to do so as long as no move is listed. -/
theorem StandsIn.of_le (h : d.StandsIn g name move) (hle : g ≤ g')
    (hnone : (d.withGen g').lookup d.moves (·.gen) name = none) : d.StandsIn g' name move := by
  obtain ⟨t, base, ht, hbase, hmove⟩ := h.typed
  exact ⟨hnone, t, base, ht, lookup_withGen_of_le hle hbase, hmove⟩

theorem gen_le_of_findMove? (h : (d.withGen g).findMove? name = some move) : move.gen ≤ g := by
  rcases findMove?_withGen_eq_some_iff.mp h with hlisted | hstands
  · exact (lookup_withGen_eq_some_iff.mp hlisted).2
  · exact hstands.gen_le

/-- A later generation finds the same move, or one that was introduced in between for what stood
in. -/
theorem exists_findMove?_of_le (hle : g ≤ g') (h : (d.withGen g).findMove? name = some move) :
    ∃ later, (d.withGen g').findMove? name = some later ∧ (later = move
      ∨ d.StandsIn g name move ∧ d.entry? d.moves name = some later ∧ g < later.gen) := by
  rcases findMove?_withGen_eq_some_iff.mp h with hlisted | hstands
  · have hlater := lookup_withGen_of_le hle hlisted
    exact ⟨move, findMove?_withGen_eq_some_iff.mpr (.inl hlater), .inl rfl⟩
  · cases hlater : (d.withGen g').lookup d.moves (·.gen) name with
    | none =>
      exact ⟨move, findMove?_withGen_eq_some_iff.mpr (.inr (hstands.of_le hle hlater)), .inl rfl⟩
    | some later =>
      have hentry := (lookup_withGen_eq_some_iff.mp hlater).1
      have hsince := lt_gen_of_lookup_withGen hstands.unlisted hentry
      exact ⟨later, findMove?_withGen_eq_some_iff.mpr (.inl hlater),
        .inr ⟨hstands, hentry, hsince⟩⟩

/-! ### Views -/

/-- **What a generation finds is of that generation or before, and later ones find it too.**
Species, items and abilities are found unchanged.  So are moves, but where Hidden Power stands in
for a name, a later generation may find the move that is listed for the name and was introduced
since. -/
theorem found_later (d : Dex) (name : String) {g g' : Int} (hle : g ≤ g') :
    (∀ s, (d.withGen g).findSpecies? name = some s →
        s.gen ≤ g ∧ (d.withGen g').findSpecies? name = some s)
      ∧ (∀ i, (d.withGen g).findItem? name = some i →
        i.gen ≤ g ∧ (d.withGen g').findItem? name = some i)
      ∧ (∀ a, (d.withGen g).findAbility? name = some a →
        a.gen ≤ g ∧ (d.withGen g').findAbility? name = some a)
      ∧ ∀ m, (d.withGen g).findMove? name = some m →
        m.gen ≤ g ∧ ∃ later, (d.withGen g').findMove? name = some later ∧ (later = m
          ∨ d.StandsIn g name m ∧ d.entry? d.moves name = some later ∧ g < later.gen) := by
  refine ⟨fun s h => ?_, fun i h => ?_, fun a h => ?_, fun m h => ?_⟩
  · exact ⟨(lookup_withGen_eq_some_iff.mp h).2, lookup_withGen_of_le hle h⟩
  · exact ⟨(lookup_withGen_eq_some_iff.mp h).2, lookup_withGen_of_le hle h⟩
  · exact ⟨(lookup_withGen_eq_some_iff.mp h).2, lookup_withGen_of_le hle h⟩
  · exact ⟨gen_le_of_findMove? h, exists_findMove?_of_le hle h⟩

namespace Sample

/-- Hidden Power, introduced with generation 2. -/
def hiddenPower : Move where
  name := "Hidden Power"
  num := 237
  gen := 2
  nonstandard := none
  type := "Normal"
  category := "Special"
  ohko := .flag false
  boosts := none
  zMoveBoost := none

/-- A move that generation 4 lists under a name that Hidden Power stood in for. -/
def listedFire : Move := { hiddenPower with name := "Hidden Power Fire", gen := 4, type := "Fire" }

/-- A dex that lists both. -/
def lateFire : Dex where
  mod := "gen7"
  gen := 7
  species := .empty
  moves := .ofList [("hiddenpower", hiddenPower), ("hiddenpowerfire", listedFire)]
  items := .empty
  abilities := .empty
  aliases := .ofList [("hpfire", "hiddenpowerfire")]

end Sample

open Sample in
/-- What stood in under an alias gives way to what is listed under the identifier behind it. -/
theorem found_later_lateFire : (2 : Int) ≤ 7
    ∧ (lateFire.withGen 2).findMove? "HP Fire" = some (withType hiddenPower .fire)
    ∧ (lateFire.withGen 7).findMove? "HP Fire" = some listedFire
    ∧ ∀ m, (lateFire.withGen 2).findMove? "HP Fire" = some m →
        m.gen ≤ 2 ∧ ∃ later, (lateFire.withGen 7).findMove? "HP Fire" = some later ∧ (later = m
          ∨ lateFire.StandsIn 2 "HP Fire" m
            ∧ lateFire.entry? lateFire.moves "HP Fire" = some later ∧ 2 < later.gen) :=
  ⟨by decide, by decide +kernel, by decide +kernel,
    (found_later lateFire "HP Fire" (by decide)).2.2.2⟩

end TeamLegality.Dex
