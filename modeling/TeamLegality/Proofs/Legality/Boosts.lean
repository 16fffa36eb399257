import TeamLegality.Legality.BatonPass
import Mathlib.Data.List.Basic
import Mathlib.Data.List.Induction
import Mathlib.Data.List.Perm.Basic
import Mathlib.Data.List.TakeWhile
import Mathlib.Tactic.SplitIfs

/-!
# Boosts — which sets can pass Speed together with another stat

A boost comes from a move, the ability or the item, and can then always be used, or from a move in
its Z form (`Gives`).  A set can pass Speed with another stat if it has two boosts that go together
(`CanBoostBoth`).  The scan of the moves remembers one source for each of the two.  Of the moves
that boost Speed in their Z form it remembers the first (`scan_speed`), and so it can miss a later
one that boosts both.  It is exact, in any order of the moves, wherever there is nothing to choose
between (`canPassSpeedAndOther_iff`).
-/

namespace TeamLegality.BatonPass

/-- What a boost raises: Speed, or one of the other stats. -/
inductive Kind where
  | speed | other
deriving DecidableEq

namespace Kind

/-- The stats of a kind. -/
def stats : Kind → List Stat
  | speed => [.speed]
  | other => otherStats

/-- The moves that boost a kind as a side effect. -/
def moves : Kind → List String
  | speed => speedMoves
  | other => otherMoves

/-- The abilities that boost a kind. -/
def abilities : Kind → List String
  | speed => speedAbilities
  | other => otherAbilities

/-- The items that boost a kind. -/
def items : Kind → List String
  | speed => speedItems
  | other => otherItems

end Kind

/-- Whether a move boosts a kind by itself. -/
def boostsItself (k : Kind) (m : Move) : Bool := k.moves.contains m.id || raises m.boosts k.stats

/-- Whether a move boosts a kind in its Z form, the item being its crystal. -/
def boostsByCrystal (item : Option Item) (k : Kind) (m : Move) : Bool :=
  isCrystalFor item m.type && raises m.zMoveBoost k.stats

/-- The sources of boosts of a kind that a set has. -/
inductive Gives (moves : List Move) (abilityId : String) (item : Option Item) (k : Kind) :
    Source → Prop where
  | ofMove {m : Move} : m ∈ moves → boostsItself k m = true → Gives moves abilityId item k .free
  | ofAbility : abilityId ∈ k.abilities → Gives moves abilityId item k .free
  | ofItem {i : Item} : item = some i → i.id ∈ k.items → Gives moves abilityId item k .free
  | ofCrystal {m : Move} : m ∈ moves → boostsByCrystal item k m = true →
      Gives moves abilityId item k (.crystal m.name)

/-- A set has a boost of Speed and one of another stat that go together. -/
def CanBoostBoth (moves : List Move) (abilityId : String) (item : Option Item) : Prop :=
  ∃ s o, Gives moves abilityId item .speed s ∧ Gives moves abilityId item .other o
    ∧ goTogether s o = true

variable {moves moves' : List Move} {m : Move} {abilityId : String} {item : Option Item} {k : Kind}
  {s : Sources} {source : Source}

/-! ### What the scan remembers -/

/-- What the moves of a set come to. -/
def scan (item : Option Item) (moves : List Move) : Sources := moves.foldl (step item) {}

/-- The source of a Z move, if there is one. -/
def ofCrystal : Option String → Source
  | none => .nowhere
  | some name => .crystal name

/-- The Z move that is remembered for Speed: the first that boosts it. -/
def speedCrystal? (item : Option Item) (moves : List Move) : Option String :=
  (moves.find? (boostsByCrystal item .speed)).map (·.name)

/-- The names of the moves that boost another stat in their Z form, from the one on that is
remembered for Speed. -/
def laterCrystals (item : Option Item) (moves : List Move) : List String :=
  ((moves.dropWhile (!boostsByCrystal item .speed ·)).filter (boostsByCrystal item .other)).map
    (·.name)

/-- The Z move that is remembered for the other stats: that of Speed if it is seen to boost one of
them there or later, else the first that boosts one. -/
def otherCrystal? (item : Option Item) (moves : List Move) : Option String :=
  if (speedCrystal? item moves).any ((laterCrystals item moves).contains ·) then
    speedCrystal? item moves
  else (moves.find? (boostsByCrystal item .other)).map (·.name)

theorem step_speed : (step item s m).speed =
    if boostsItself .speed m then .free
    else if boostsByCrystal item .speed m ∧ s.speed = .nowhere then .crystal m.name
    else s.speed := by
  unfold step addZMove addMove boostsItself boostsByCrystal
  simp only [Kind.moves, Kind.stats]
  split_ifs <;> simp_all

theorem addMove_other : (addMove m s).other = if boostsItself .other m then .free else s.other :=
  rfl

/-- A Z move takes over where there is no other source yet, or where Speed comes from it. -/
def takesOver (item : Option Item) (s : Sources) (m : Move) : Prop :=
  boostsByCrystal item .other m = true
    ∧ ((addMove m s).other = .nowhere ∨ (step item s m).speed = .crystal m.name)

theorem step_other_cases (item : Option Item) (s : Sources) (m : Move) :
    takesOver item s m ∧ (step item s m).other = .crystal m.name
      ∨ ¬ takesOver item s m ∧ (step item s m).other = (addMove m s).other := by
  unfold takesOver
  cases hcrystal : isCrystalFor item m.type with
  | false => simp [step, boostsByCrystal, hcrystal]
  | true =>
    have hstep : step item s m = addZMove m (addMove m s) := by simp [step, hcrystal]
    have hother : (addZMove m (addMove m s)).other = if raises m.zMoveBoost otherStats
        && ((addMove m s).other == .nowhere
          || (addZMove m (addMove m s)).speed == .crystal m.name)
        then .crystal m.name else (addMove m s).other := rfl
    have htakes : boostsByCrystal item .other m = raises m.zMoveBoost otherStats := by
      rw [boostsByCrystal, hcrystal, Bool.true_and]
      rfl
    rw [hstep, hother, htakes]
    split_ifs with h
    · exact .inl ⟨by simpa using h, rfl⟩
    · exact .inr ⟨by simpa using h, rfl⟩

@[simp] theorem scan_nil : scan item [] = {} := rfl

theorem scan_concat : scan item (moves ++ [m]) = step item (scan item moves) m := by
  simp [scan, List.foldl_append]

@[simp] theorem ofCrystal_eq_nowhere_iff {crystal : Option String} :
    ofCrystal crystal = .nowhere ↔ crystal = none := by
  cases crystal <;> simp [ofCrystal]

@[simp] theorem ofCrystal_eq_crystal_iff {crystal : Option String} {name : String} :
    ofCrystal crystal = .crystal name ↔ crystal = some name := by
  cases crystal <;> simp [ofCrystal]

theorem speedCrystal?_concat : speedCrystal? item (moves ++ [m]) =
    (speedCrystal? item moves).or
      (if boostsByCrystal item .speed m then some m.name else none) := by
  unfold speedCrystal?
  rw [List.find?_append]
  cases moves.find? (boostsByCrystal item .speed) <;>
    by_cases hm : boostsByCrystal item .speed m = true <;> simp [hm]

/-- For Speed a boost that can always be used counts before every Z move, and of these the first. -/
theorem scan_speed : (scan item moves).speed =
    if moves.any (boostsItself .speed) then .free else ofCrystal (speedCrystal? item moves) := by
  induction moves using List.reverseRecOn with
  | nil => rfl
  | append_singleton moves m ih =>
    rw [scan_concat, step_speed, ih, List.any_append, speedCrystal?_concat]
    cases hown : boostsItself .speed m with
    | true => simp [hown]
    | false =>
      cases hany : moves.any (boostsItself .speed) with
      | true => simp [hown]
      | false =>
        cases hfirst : speedCrystal? item moves with
        | none => cases hm : boostsByCrystal item .speed m <;> simp [hown, ofCrystal]
        | some name => simp [hown, ofCrystal]

/-- For the other stats nothing is remembered only where no move boosts one of them. -/
theorem scan_other_eq_nowhere_iff : (scan item moves).other = .nowhere ↔
    ∀ m ∈ moves, boostsItself .other m = false ∧ boostsByCrystal item .other m = false := by
  induction moves using List.reverseRecOn with
  | nil => simp
  | append_singleton moves m ih =>
    rw [scan_concat, List.forall_mem_append, ← ih]
    have hown : (addMove m (scan item moves)).other = .nowhere ↔
        (scan item moves).other = .nowhere ∧ boostsItself .other m = false := by
      rw [addMove_other]
      cases boostsItself .other m <;> simp
    obtain ⟨⟨hm, -⟩, hother⟩ | ⟨hkeep, hother⟩ := step_other_cases item (scan item moves) m
    · simp [hother, hm]
    · rw [hother, hown]
      refine ⟨fun h => ⟨h.1, ?_⟩, fun h => ⟨h.1, (h.2 m List.mem_cons_self).1⟩⟩
      have hm : boostsByCrystal item .other m = false := by
        by_contra hm
        exact hkeep ⟨Bool.not_eq_false _ ▸ hm, .inl (hown.mpr h)⟩
      simpa using ⟨h.2, hm⟩

/-- A source of Speed is only given up for a boost that can always be used. -/
theorem step_speed_of_ne (item : Option Item) (m : Move) (h : s.speed ≠ .nowhere) :
    (step item s m).speed = s.speed ∨ (step item s m).speed = .free := by
  rw [step_speed]
  split_ifs with hown hm
  · exact .inr rfl
  · exact absurd hm.2 h
  · exact .inl rfl

/-- A source that can be used together with that of Speed: one that can always be used, or the same
Z move. -/
def Usable (speed : Source) (source : Source) : Prop :=
  source = .free ∨ ∃ name, source = .crystal name ∧ (speed = .crystal name ∨ speed = .free)

/-- A boost of another stat that can always be used is at most given up for the Z move that is
remembered for Speed. -/
theorem usable_scan (h : moves.any (boostsItself .other) = true) :
    Usable (scan item moves).speed (scan item moves).other := by
  induction moves using List.reverseRecOn with
  | nil => simp at h
  | append_singleton moves m ih =>
    rw [scan_concat]
    have hown : Usable (step item (scan item moves) m).speed
        (addMove m (scan item moves)).other := by
      rw [addMove_other]
      split_ifs with hm
      · exact .inl rfl
      · have hmoves : moves.any (boostsItself .other) = true := by simpa [hm] using h
        obtain hfree | ⟨name, hname, hspeed⟩ := ih hmoves
        · exact .inl hfree
        · have hne : (scan item moves).speed ≠ .nowhere := by
            rcases hspeed with hspeed | hspeed <;> simp [hspeed]
          refine .inr ⟨name, hname, ?_⟩
          rcases step_speed_of_ne item m hne with hstep | hstep
          · rwa [hstep]
          · exact .inr hstep
    obtain ⟨⟨-, hwhy⟩, hother⟩ | ⟨-, hother⟩ := step_other_cases item (scan item moves) m
    · rcases hwhy with hnone | hspeed
      · rw [hnone] at hown
        rcases hown with hfree | ⟨name, hname, -⟩
        · cases hfree
        · cases hname
      · exact .inr ⟨m.name, hother, .inl hspeed⟩
    · rwa [hother]

theorem speedCrystal?_eq_none_iff : speedCrystal? item moves = none ↔
    moves.dropWhile (!boostsByCrystal item .speed ·) = [] := by
  simp [speedCrystal?, List.dropWhile_eq_nil_iff]

theorem laterCrystals_of_none (h : speedCrystal? item moves = none) :
    laterCrystals item moves = [] := by
  rw [laterCrystals, speedCrystal?_eq_none_iff.mp h]
  rfl

theorem laterCrystals_concat : laterCrystals item (moves ++ [m]) = laterCrystals item moves ++
    if (speedCrystal? item (moves ++ [m])).isSome ∧ boostsByCrystal item .other m then [m.name]
    else [] := by
  cases hfirst : speedCrystal? item moves with
  | none =>
    have hnone := speedCrystal?_eq_none_iff.mp hfirst
    rw [laterCrystals, List.dropWhile_append, hnone, laterCrystals_of_none hfirst,
      speedCrystal?_concat, hfirst]
    cases hspeed : boostsByCrystal item .speed m <;>
      cases hother : boostsByCrystal item .other m <;> simp [hspeed, hother]
  | some name =>
    have hsome : moves.dropWhile (!boostsByCrystal item .speed ·) ≠ [] := by
      rw [Ne, ← speedCrystal?_eq_none_iff, hfirst]
      nofun
    rw [laterCrystals, List.dropWhile_append, if_neg (by simpa using hsome), List.filter_append,
      List.map_append, speedCrystal?_concat, hfirst]
    cases hother : boostsByCrystal item .other m <;> simp [laterCrystals, hother]

/-- The first move that boosts another stat in its Z form. -/
theorem find?_other_concat : ((moves ++ [m]).find? (boostsByCrystal item .other)).map (·.name) =
    ((moves.find? (boostsByCrystal item .other)).map (·.name)).or
      (if boostsByCrystal item .other m then some m.name else none) := by
  rw [List.find?_append]
  cases moves.find? (boostsByCrystal item .other) <;>
    cases hm : boostsByCrystal item .other m <;> simp [hm]

/-- One more Z move takes over exactly as in the scan. -/
theorem otherCrystal?_concat : otherCrystal? item (moves ++ [m]) =
    if boostsByCrystal item .other m ∧ (otherCrystal? item moves = none
      ∨ speedCrystal? item (moves ++ [m]) = some m.name) then some m.name
    else otherCrystal? item moves := by
  unfold otherCrystal?
  rw [laterCrystals_concat, find?_other_concat]
  cases hfirst : speedCrystal? item moves with
  | none =>
    rw [speedCrystal?_concat, hfirst, laterCrystals_of_none hfirst]
    cases boostsByCrystal item .speed m <;> cases boostsByCrystal item .other m <;>
      cases moves.find? (boostsByCrystal item .other) <;> simp
  | some name =>
    rw [speedCrystal?_concat, hfirst]
    by_cases hlater : name ∈ laterCrystals item moves
    · cases boostsByCrystal item .other m <;> simp [hlater]
    · by_cases hname : name = m.name
      · cases boostsByCrystal item .other m <;> simp [hname]
      · cases boostsByCrystal item .other m <;>
          cases moves.find? (boostsByCrystal item .other) <;> simp [hlater, hname]

/-- Where no boost can always be used, both sources are Z moves. -/
theorem scan_other_of_crystals (hspeed : moves.any (boostsItself .speed) = false)
    (hother : moves.any (boostsItself .other) = false) :
    (scan item moves).other = ofCrystal (otherCrystal? item moves) := by
  induction moves using List.reverseRecOn with
  | nil => rfl
  | append_singleton moves m ih =>
    have hstep : (scan item (moves ++ [m])).speed
        = ofCrystal (speedCrystal? item (moves ++ [m])) := by
      rw [scan_speed, hspeed]
      rfl
    simp only [List.any_append, List.any_cons, List.any_nil, Bool.or_false,
      Bool.or_eq_false_iff] at hspeed hother
    have hown : (addMove m (scan item moves)).other = ofCrystal (otherCrystal? item moves) := by
      rw [addMove_other, hother.2, ← ih hspeed.1 hother.1]
      rfl
    rw [scan_concat] at hstep ⊢
    have htakes : takesOver item (scan item moves) m ↔ boostsByCrystal item .other m = true
        ∧ (otherCrystal? item moves = none
          ∨ speedCrystal? item (moves ++ [m]) = some m.name) := by
      rw [takesOver, hown, hstep, ofCrystal_eq_nowhere_iff, ofCrystal_eq_crystal_iff]
    rw [otherCrystal?_concat]
    obtain ⟨ht, h⟩ | ⟨ht, h⟩ := step_other_cases item (scan item moves) m
    · rw [h, if_pos (htakes.mp ht)]
      rfl
    · rw [h, hown, if_neg (mt htakes.mpr ht)]

/-! ### All sources of a set -/

/-- Whether the ability or the item boosts a kind. -/
def boostedFromOutside (k : Kind) (abilityId : String) (item : Option Item) : Bool :=
  k.abilities.contains abilityId || k.items.contains ((item.map (·.id)).getD "")

theorem boostedFromOutside_iff : boostedFromOutside k abilityId item = true ↔
    abilityId ∈ k.abilities ∨ ∃ i, item = some i ∧ i.id ∈ k.items := by
  have hblank : "" ∉ k.items := by cases k <;> decide
  cases item with
  | none => simp [boostedFromOutside, hblank]
  | some i => simp [boostedFromOutside]

theorem gives_free_iff : Gives moves abilityId item k .free ↔
    moves.any (boostsItself k) = true ∨ boostedFromOutside k abilityId item = true := by
  rw [boostedFromOutside_iff, List.any_eq_true]
  constructor
  · rintro (⟨hmem, hown⟩ | ha | ⟨hi, hid⟩)
    · exact .inl ⟨_, hmem, hown⟩
    · exact .inr (.inl ha)
    · exact .inr (.inr ⟨_, hi, hid⟩)
  · rintro (⟨m, hmem, hown⟩ | ha | ⟨i, hi, hid⟩)
    · exact .ofMove hmem hown
    · exact .ofAbility ha
    · exact .ofItem hi hid

theorem gives_crystal_iff {name : String} : Gives moves abilityId item k (.crystal name) ↔
    ∃ m ∈ moves, boostsByCrystal item k m = true ∧ m.name = name := by
  constructor
  · rintro ⟨⟩
    exact ⟨_, ‹_›, ‹_›, rfl⟩
  · rintro ⟨m, hmem, hm, rfl⟩
    exact .ofCrystal hmem hm

theorem Gives.ne_nowhere (h : Gives moves abilityId item k source) : source ≠ .nowhere := by
  cases h <;> simp

theorem Gives.perm (h : Gives moves abilityId item k source) (hperm : moves.Perm moves') :
    Gives moves' abilityId item k source := by
  cases h with
  | ofMove hmem hown => exact .ofMove (hperm.mem_iff.mp hmem) hown
  | ofAbility ha => exact .ofAbility ha
  | ofItem hi hid => exact .ofItem hi hid
  | ofCrystal hmem hm => exact .ofCrystal (hperm.mem_iff.mp hmem) hm

theorem CanBoostBoth.perm (h : CanBoostBoth moves abilityId item) (hperm : moves.Perm moves') :
    CanBoostBoth moves' abilityId item := by
  obtain ⟨s, o, hs, ho, htogether⟩ := h
  exact ⟨s, o, hs.perm hperm, ho.perm hperm, htogether⟩

theorem sources_speed_of_free (h : Gives moves abilityId item .speed .free) :
    (sources moves abilityId item).speed = .free := by
  show (if boostedFromOutside .speed abilityId item then Source.free
    else (scan item moves).speed) = .free
  split_ifs with hout
  · rfl
  · rw [scan_speed, if_pos ((gives_free_iff.mp h).resolve_right hout)]

theorem sources_speed_of_not_free (h : ¬ Gives moves abilityId item .speed .free) :
    (sources moves abilityId item).speed = ofCrystal (speedCrystal? item moves) := by
  rw [gives_free_iff, not_or] at h
  show (if boostedFromOutside .speed abilityId item then Source.free
    else (scan item moves).speed) = _
  rw [if_neg h.2, scan_speed, if_neg h.1]

theorem sources_other_eq_nowhere_iff : (sources moves abilityId item).other = .nowhere ↔
    ∀ source, ¬ Gives moves abilityId item .other source := by
  show (if boostedFromOutside .other abilityId item then Source.free
    else (scan item moves).other) = .nowhere ↔ _
  split_ifs with hout
  · exact iff_of_false nofun fun h => h _ (gives_free_iff.mpr (.inr hout))
  · rw [scan_other_eq_nowhere_iff]
    constructor
    · intro h source hgives
      cases source with
      | nowhere => exact hgives.ne_nowhere rfl
      | free =>
        obtain ⟨m, hmem, hown⟩ :=
          List.any_eq_true.mp ((gives_free_iff.mp hgives).resolve_right hout)
        exact absurd hown (Bool.eq_false_iff.mp (h m hmem).1)
      | crystal name =>
        obtain ⟨m, hmem, hm, -⟩ := gives_crystal_iff.mp hgives
        exact absurd hm (Bool.eq_false_iff.mp (h m hmem).2)
    · intro h m hmem
      refine ⟨?_, ?_⟩
      · exact Bool.eq_false_iff.mpr fun hown => h _ (.ofMove hmem hown)
      · exact Bool.eq_false_iff.mpr fun hm => h _ (.ofCrystal hmem hm)

/-- A boost of another stat that can always be used is never lost to a Z move that cannot. -/
theorem usable_sources (h : Gives moves abilityId item .other .free) :
    Usable (sources moves abilityId item).speed (sources moves abilityId item).other := by
  show Usable (if boostedFromOutside .speed abilityId item then Source.free
      else (scan item moves).speed)
    (if boostedFromOutside .other abilityId item then Source.free else (scan item moves).other)
  by_cases hout : boostedFromOutside .other abilityId item = true
  · rw [if_pos hout]
    exact .inl rfl
  · rw [if_neg hout]
    have hscan : Usable (scan item moves).speed (scan item moves).other :=
      usable_scan ((gives_free_iff.mp h).resolve_right hout)
    split_ifs
    · rcases hscan with hfree | ⟨name, hname, -⟩
      · exact .inl hfree
      · exact .inr ⟨name, hname, .inr rfl⟩
    · exact hscan

theorem sources_other_of_crystals (hspeed : ¬ Gives moves abilityId item .speed .free)
    (hother : ¬ Gives moves abilityId item .other .free) :
    (sources moves abilityId item).other = ofCrystal (otherCrystal? item moves) := by
  rw [gives_free_iff, not_or, Bool.not_eq_true] at hspeed hother
  show (if boostedFromOutside .other abilityId item then Source.free
    else (scan item moves).other) = _
  rw [if_neg hother.2, scan_other_of_crystals hspeed.1 hother.1]

theorem gives_of_speedCrystal? {name : String} (h : speedCrystal? item moves = some name) :
    Gives moves abilityId item .speed (.crystal name) := by
  obtain ⟨m, hfind, rfl⟩ := Option.map_eq_some_iff.mp h
  exact .ofCrystal (List.mem_of_find?_eq_some hfind) (List.find?_some hfind)

theorem gives_of_mem_laterCrystals {name : String} (h : name ∈ laterCrystals item moves) :
    Gives moves abilityId item .other (.crystal name) := by
  obtain ⟨m, hmem, rfl⟩ := List.mem_map.mp h
  obtain ⟨hlater, hm⟩ := List.mem_filter.mp hmem
  exact .ofCrystal ((List.dropWhile_sublist _).subset hlater) hm

theorem gives_of_otherCrystal? {name : String} (h : otherCrystal? item moves = some name) :
    Gives moves abilityId item .other (.crystal name) := by
  unfold otherCrystal? at h
  split_ifs at h with hlater
  · rw [h, Option.any_some, List.contains_iff_mem] at hlater
    exact gives_of_mem_laterCrystals hlater
  · obtain ⟨m, hfind, rfl⟩ := Option.map_eq_some_iff.mp h
    exact .ofCrystal (List.mem_of_find?_eq_some hfind) (List.find?_some hfind)

/-- Where Speed comes from Z moves only, the first of them is remembered. -/
theorem speedCrystal?_isSome (hfree : ¬ Gives moves abilityId item .speed .free)
    (h : Gives moves abilityId item .speed source) : (speedCrystal? item moves).isSome := by
  cases source with
  | nowhere => exact absurd rfl h.ne_nowhere
  | free => exact absurd h hfree
  | crystal name =>
    obtain ⟨m, hmem, hm, -⟩ := gives_crystal_iff.mp h
    rw [speedCrystal?, Option.isSome_map, List.find?_isSome]
    exact ⟨m, hmem, hm⟩

/-! ### What goes together -/

theorem goTogether_ofCrystal {a b : Option String} :
    goTogether (ofCrystal a) (ofCrystal b) = true ↔ a = b ∧ a.isSome := by
  cases a <;> cases b <;> simp [ofCrystal, goTogether]

theorem goTogether_of_usable {speed : Source} (h : Usable speed source) :
    goTogether speed source = true ↔ speed ≠ .nowhere := by
  obtain rfl | ⟨name, rfl, rfl | rfl⟩ := h
  · exact goTogether_free_right
  · simp [goTogether]
  · simp [goTogether]

theorem CanBoostBoth.of_free_left (h : Gives moves abilityId item .speed .free)
    (hsource : Gives moves abilityId item .other source) : CanBoostBoth moves abilityId item :=
  ⟨_, _, h, hsource, goTogether_free_left.mpr hsource.ne_nowhere⟩

theorem CanBoostBoth.of_free_right (h : Gives moves abilityId item .other .free)
    (hsource : Gives moves abilityId item .speed source) : CanBoostBoth moves abilityId item :=
  ⟨_, _, hsource, h, goTogether_free_right.mpr hsource.ne_nowhere⟩

/-- No other move competes with a move that boosts Speed in its Z form: none does the same, and none
has its name. -/
def Unrivalled (item : Option Item) (moves : List Move) : Prop :=
  ∀ m ∈ moves, boostsByCrystal item .speed m = true →
    ∀ m' ∈ moves, boostsByCrystal item .speed m' = true ∨ m'.name = m.name → m' = m

/-- There is nothing to choose between: a boost can always be used, or Speed comes from one Z move
at most. -/
def Unambiguous (moves : List Move) (abilityId : String) (item : Option Item) : Prop :=
  Gives moves abilityId item .speed .free ∨ Gives moves abilityId item .other .free
    ∨ Unrivalled item moves

theorem Unambiguous.perm (h : Unambiguous moves abilityId item) (hperm : moves.Perm moves') :
    Unambiguous moves' abilityId item := by
  obtain hspeed | hother | hone := h
  · exact .inl (hspeed.perm hperm)
  · exact .inr (.inl (hother.perm hperm))
  · refine .inr (.inr fun m hmem hm m' hmem' => ?_)
    exact hone m (hperm.mem_iff.mpr hmem) hm m' (hperm.mem_iff.mpr hmem')

theorem mem_laterCrystals (hmem : m ∈ moves) (hspeed : boostsByCrystal item .speed m = true)
    (hother : boostsByCrystal item .other m = true) :
    m.name ∈ laterCrystals item moves := by
  refine List.mem_map_of_mem (List.mem_filter.mpr ⟨?_, hother⟩)
  have hkept : m ∈ moves.takeWhile (!boostsByCrystal item .speed ·)
      ++ moves.dropWhile (!boostsByCrystal item .speed ·) := by
    rwa [List.takeWhile_append_dropWhile]
  refine (List.mem_append.mp hkept).resolve_left fun hbefore => ?_
  simpa [hspeed] using List.mem_takeWhile_imp hbefore

/-- Without a rival, the two Z moves that are remembered are one if any two go together. -/
theorem speedCrystal?_eq_otherCrystal? (hone : Unrivalled item moves)
    (hspeed : ¬ Gives moves abilityId item .speed .free)
    (hother : ¬ Gives moves abilityId item .other .free)
    (h : CanBoostBoth moves abilityId item) :
    speedCrystal? item moves = otherCrystal? item moves := by
  obtain ⟨s, o, hs, ho, htogether⟩ := h
  cases s with
  | nowhere => exact absurd rfl hs.ne_nowhere
  | free => exact absurd hs hspeed
  | crystal a =>
    cases o with
    | nowhere => exact absurd rfl ho.ne_nowhere
    | free => exact absurd ho hother
    | crystal b =>
      obtain rfl : a = b := by simpa [goTogether] using htogether
      obtain ⟨m, hmem, hm, rfl⟩ := gives_crystal_iff.mp hs
      obtain ⟨m', hmem', hm', hname⟩ := gives_crystal_iff.mp ho
      obtain rfl : m' = m := hone m hmem hm m' hmem' (.inr hname)
      obtain ⟨first, hfirst⟩ := Option.isSome_iff_exists.mp
        (List.find?_isSome.mpr ⟨m', hmem, hm⟩)
      have heq : first = m' := hone m' hmem hm first (List.mem_of_find?_eq_some hfirst)
        (.inl (List.find?_some hfirst))
      have hcrystal : speedCrystal? item moves = some m'.name := by
        rw [speedCrystal?, hfirst, heq]
        rfl
      have hlater : m'.name ∈ laterCrystals item moves := mem_laterCrystals hmem hm hm'
      rw [otherCrystal?, hcrystal, if_pos (by simpa using hlater)]

/-- What the check answers: two boosts go together, and where both can only come from Z moves the
same one is remembered for both. -/
theorem canPassSpeedAndOther_eq_true_iff : canPassSpeedAndOther moves abilityId item = true ↔
    CanBoostBoth moves abilityId item ∧ (Gives moves abilityId item .speed .free
      ∨ Gives moves abilityId item .other .free
      ∨ speedCrystal? item moves = otherCrystal? item moves) := by
  show goTogether (sources moves abilityId item).speed (sources moves abilityId item).other = true
    ↔ _
  by_cases hspeed : Gives moves abilityId item .speed .free
  · rw [sources_speed_of_free hspeed, goTogether_free_left, Ne, sources_other_eq_nowhere_iff]
    constructor
    · intro h
      obtain ⟨source, hsource⟩ := not_forall_not.mp h
      exact ⟨.of_free_left hspeed hsource, .inl hspeed⟩
    · rintro ⟨⟨s, o, -, ho, -⟩, -⟩ h
      exact h o ho
  · rw [sources_speed_of_not_free hspeed]
    by_cases hother : Gives moves abilityId item .other .free
    · have husable := usable_sources hother
      rw [sources_speed_of_not_free hspeed] at husable
      rw [goTogether_of_usable husable, Ne, ofCrystal_eq_nowhere_iff, ← Ne,
        Option.ne_none_iff_exists']
      constructor
      · rintro ⟨name, hname⟩
        exact ⟨.of_free_right hother (gives_of_speedCrystal? hname), .inr (.inl hother)⟩
      · rintro ⟨⟨s, o, hs, -, -⟩, -⟩
        exact Option.isSome_iff_exists.mp (speedCrystal?_isSome hspeed hs)
    · rw [sources_other_of_crystals hspeed hother, goTogether_ofCrystal]
      constructor
      · rintro ⟨heq, hsome⟩
        obtain ⟨name, hname⟩ := Option.isSome_iff_exists.mp hsome
        refine ⟨⟨_, _, gives_of_speedCrystal? hname, gives_of_otherCrystal? (heq ▸ hname), ?_⟩,
          .inr (.inr heq)⟩
        simp [goTogether]
      · rintro ⟨⟨s, o, hs, -, -⟩, hwhy⟩
        exact ⟨(hwhy.resolve_left hspeed).resolve_left hother, speedCrystal?_isSome hspeed hs⟩

/-- Where there is nothing to choose between, the check is exact. -/
theorem canPassSpeedAndOther_of_unambiguous (h : Unambiguous moves abilityId item) :
    canPassSpeedAndOther moves abilityId item = true ↔ CanBoostBoth moves abilityId item := by
  rw [canPassSpeedAndOther_eq_true_iff]
  refine ⟨And.left, fun hboth => ⟨hboth, ?_⟩⟩
  by_cases hspeed : Gives moves abilityId item .speed .free
  · exact .inl hspeed
  · by_cases hother : Gives moves abilityId item .other .free
    · exact .inr (.inl hother)
    · have hone : Unrivalled item moves := (h.resolve_left hspeed).resolve_left hother
      exact .inr (.inr (speedCrystal?_eq_otherCrystal? hone hspeed hother hboth))

/-- **When the check is exact.**  It says yes only to sets that have two boosts that go together,
and to all of them where a boost can always be used or one Z move is remembered for both; so it
depends on the order of the moves only where several Z moves compete. -/
theorem canPassSpeedAndOther_iff (moves : List Move) (abilityId : String) (item : Option Item) :
    (canPassSpeedAndOther moves abilityId item = true ↔
      CanBoostBoth moves abilityId item ∧ (Gives moves abilityId item .speed .free
        ∨ Gives moves abilityId item .other .free
        ∨ speedCrystal? item moves = otherCrystal? item moves))
    ∧ (Unambiguous moves abilityId item →
      (canPassSpeedAndOther moves abilityId item = true ↔ CanBoostBoth moves abilityId item)
      ∧ ∀ moves', moves.Perm moves' →
        canPassSpeedAndOther moves' abilityId item
          = canPassSpeedAndOther moves abilityId item) := by
  refine ⟨canPassSpeedAndOther_eq_true_iff, fun h => ⟨canPassSpeedAndOther_of_unambiguous h, ?_⟩⟩
  intro moves' hperm
  have hboth : CanBoostBoth moves' abilityId item ↔ CanBoostBoth moves abilityId item :=
    ⟨fun hb => hb.perm hperm.symm, fun hb => hb.perm hperm⟩
  rw [Bool.eq_iff_iff, canPassSpeedAndOther_of_unambiguous h,
    canPassSpeedAndOther_of_unambiguous (h.perm hperm), hboth]

namespace Sample

/-- A status move of type Normal that raises some stats, by itself and in its Z form. -/
def normalMove (name : String) (boosts zMoveBoost : Option Boosts) : Move where
  name
  num := 0
  gen := 6
  nonstandard := none
  type := "Normal"
  category := "Status"
  ohko := .flag false
  boosts
  zMoveBoost

/-- Its Z form raises Speed only. -/
def scaryFace : Move := normalMove "Scary Face" none (some { entries := [("spe", 1)] })

/-- Its Z form raises Attack only. -/
def splash : Move := normalMove "Splash" none (some { entries := [("atk", 3)] })

/-- Its Z form raises every stat. -/
def celebrate : Move :=
  normalMove "Celebrate" none
    (some { entries := [("atk", 1), ("def", 1), ("spa", 1), ("spd", 1), ("spe", 1)] })

/-- It raises Attack by itself. -/
def swordsDance : Move := normalMove "Swords Dance" (some { entries := [("atk", 2)] }) none

/-- The crystal for moves of type Normal. -/
def normalium : Item where
  name := "Normalium Z"
  num := 776
  gen := 7
  nonstandard := none
  zMove := some (.flag true)
  zMoveType := some "Normal"
  megaStone := none
  forcedForme := none

theorem boostsBoth_celebrate (h : celebrate ∈ moves) :
    CanBoostBoth moves "owntempo" (some normalium) := by
  refine ⟨.crystal "Celebrate", .crystal "Celebrate", ?_, ?_, by decide⟩
  · exact .ofCrystal h (by decide)
  · exact .ofCrystal h (by decide)

end Sample

open Sample in
/-- Celebrate is found on either side of a move that boosts another stat in its Z form.  Beside a
move that boosts one by itself it may also compete with Scary Face, in any order. -/
theorem canPassSpeedAndOther_celebrate :
    (canPassSpeedAndOther [splash, celebrate] "owntempo" (some normalium) = true
      ∧ canPassSpeedAndOther [celebrate, splash] "owntempo" (some normalium) = true)
    ∧ canPassSpeedAndOther [scaryFace, celebrate, swordsDance] "owntempo" (some normalium) = true
    ∧ canPassSpeedAndOther [swordsDance, celebrate, scaryFace] "owntempo" (some normalium)
      = true := by
  have hone : Unambiguous [splash, celebrate] "owntempo" (some normalium) := by
    have hrival : ∀ m ∈ [splash, celebrate], boostsByCrystal (some normalium) .speed m = true →
        m = celebrate := by decide
    have hname : ∀ m ∈ [splash, celebrate], m.name = celebrate.name → m = celebrate := by decide
    refine .inr (.inr fun m hmem hm m' hmem' hm' => ?_)
    obtain rfl := hrival m hmem hm
    exact hm'.elim (hrival m' hmem') (hname m' hmem')
  have hfree : Unambiguous [scaryFace, celebrate, swordsDance] "owntempo" (some normalium) :=
    .inr (.inl (.ofMove (m := swordsDance) (by simp) (by decide)))
  obtain ⟨hexact, hperm⟩ :=
    (canPassSpeedAndOther_iff [splash, celebrate] "owntempo" (some normalium)).2 hone
  obtain ⟨hexact', hperm'⟩ :=
    (canPassSpeedAndOther_iff [scaryFace, celebrate, swordsDance] "owntempo"
      (some normalium)).2 hfree
  have hpasses := hexact.mpr (boostsBoth_celebrate (by simp))
  have hpasses' := hexact'.mpr (boostsBoth_celebrate (by simp))
  have hswap : [splash, celebrate].Perm [celebrate, splash] := .swap _ _ _
  have hreverse : [scaryFace, celebrate, swordsDance].Perm [swordsDance, celebrate, scaryFace] :=
    (List.reverse_perm [scaryFace, celebrate, swordsDance]).symm
  exact ⟨⟨hpasses, (hperm _ hswap).trans hpasses⟩, hpasses', (hperm' _ hreverse).trans hpasses'⟩

open Sample in
/-- A Z move that boosts every stat is overlooked behind one that boosts Speed, not before it. -/
theorem crystal_overlooked :
    CanBoostBoth [scaryFace, celebrate] "owntempo" (some normalium)
      ∧ canPassSpeedAndOther [scaryFace, celebrate] "owntempo" (some normalium) = false
      ∧ canPassSpeedAndOther [celebrate, scaryFace] "owntempo" (some normalium) = true := by
  refine ⟨boostsBoth_celebrate (by simp), by decide, by decide⟩

end TeamLegality.BatonPass
