import TeamLegality.Legality.TeamReport
import TeamLegality.Proofs.Legality.SetChecks
import TeamLegality.Proofs.Rule.Grouping
import Mathlib.Data.List.Perm.Subperm
import Mathlib.Data.Finset.Card
import Mathlib.Algebra.Order.BigOperators.Group.List
import Mathlib.Algebra.GroupWithZero.Nat
import Mathlib.Algebra.Order.Group.Nat

/-!
# Team checks — how many problems the limits on a team find, and when none

The checks go through a team set by set, remembering what they have seen.  Here their results are
put as facts about the team as a whole: a clause that asks for differences finds as many problems as
there are repeats (`length_eachSetProblems`), and what a combination counts is the sum of what each
set has of it (`totalHolders_eq_sum`).  So a team has no problem exactly when it is `Legal`
(`problems_eq_nil_iff`).
-/

namespace TeamLegality

/-! ### Repeats -/

section Repeats

variable {α β : Type} [DecidableEq α]

/-- How many elements of a list stand after an equal one, those already seen included. -/
def repeatsAfter : (seen : List α) → List α → Nat
  | _, [] => 0
  | seen, a :: rest => (if a ∈ seen then 1 else 0) + repeatsAfter (seen ++ [a]) rest

/-- What is not a repeat adds to what has been seen. -/
theorem repeatsAfter_add_card : ∀ seen l : List α,
    repeatsAfter seen l + (seen ++ l).toFinset.card = l.length + seen.toFinset.card
  | seen, [] => by simp [repeatsAfter]
  | seen, a :: rest => by
    have ih := repeatsAfter_add_card (seen ++ [a]) rest
    rw [List.append_assoc, List.singleton_append] at ih
    have hcard : (seen ++ [a]).toFinset.card
        = seen.toFinset.card + if a ∈ seen then 0 else 1 := by
      have hinsert : (seen ++ [a]).toFinset = insert a seen.toFinset := by
        ext b
        simp
      rw [hinsert, Finset.card_insert_eq_ite]
      by_cases ha : a ∈ seen <;> simp [ha]
    rw [repeatsAfter, List.length_cons]
    split_ifs at hcard ⊢ <;> omega

/-- How many elements of a list stand after an equal one. -/
def repeats (l : List α) : Nat := repeatsAfter [] l

theorem repeats_add_card (l : List α) : repeats l + l.toFinset.card = l.length := by
  simpa [repeats] using repeatsAfter_add_card [] l

theorem repeats_eq_zero_iff {l : List α} : repeats l = 0 ↔ l.Nodup := by
  have hadd := repeats_add_card l
  constructor
  · intro h
    refine Multiset.coe_nodup.mp (Multiset.toFinset_card_eq_card_iff_nodup.mp ?_)
    show l.toFinset.card = l.length
    omega
  · intro h
    have hcard := List.toFinset_card_of_nodup h
    omega

/-- More elements, in any order, have no fewer repeats. -/
theorem repeats_le_of_perm_append {l l' more : List α} (h : l'.Perm (l ++ more)) :
    repeats l ≤ repeats l' := by
  have hl := repeats_add_card l
  have hl' := repeats_add_card l'
  have hcard : l'.toFinset.card ≤ l.toFinset.card + more.length := by
    rw [List.toFinset_eq_of_perm _ _ h, List.toFinset_append]
    exact (Finset.card_union_le _ _).trans (Nat.add_le_add_left more.toFinset_card_le _)
  have hlength := h.length_eq
  rw [List.length_append] at hlength
  omega

/-- Whether what is found in one more place has been seen. -/
def countRepeat (seen : List α) : Option α → Nat
  | none => 0
  | some a => if a ∈ seen then 1 else 0

theorem repeatsAfter_filterMap_cons (f : β → Option α) (before : List β) (b : β) (rest : List β) :
    repeatsAfter (before.filterMap f) ((b :: rest).filterMap f)
      = countRepeat (before.filterMap f) (f b)
        + repeatsAfter ((before ++ [b]).filterMap f) (rest.filterMap f) := by
  cases hb : f b with
  | none => simp [List.filterMap_append, hb, countRepeat]
  | some a => simp [List.filterMap_append, hb, countRepeat, repeatsAfter]

end Repeats

theorem length_problemIf (condition : Bool) (text : String) :
    (problemIf condition text).length = if condition = true then 1 else 0 := by
  cases condition <;> rfl

theorem length_problemIf_le {condition condition' : Bool} {text text' : String}
    (h : condition = true → condition' = true) :
    (problemIf condition text).length ≤ (problemIf condition' text').length := by
  rw [length_problemIf, length_problemIf]
  split_ifs with h1 h2
  · rfl
  · exact absurd (h h1) h2
  · exact Nat.zero_le 1
  · rfl

theorem length_flatMap_le {α : Type} {l : List α} {f g : α → List String}
    (h : ∀ a ∈ l, (f a).length ≤ (g a).length) :
    (l.flatMap f).length ≤ (l.flatMap g).length := by
  rw [List.length_flatMap, List.length_flatMap]
  exact List.sum_le_sum h

namespace TeamCheck

variable {config : Config} {format : Format} {t : RuleTable} {sets : List CheckedSet}

/-! ### Set by set -/

theorem length_nicknameProblems (before : List CheckedSet) (s : CheckedSet) :
    (nicknameProblems t before s).length = if t.has Clause.nickname = true
      then countRepeat (before.filterMap fun s => s.nickname?) s.nickname? else 0 := by
  unfold nicknameProblems
  cases s.nickname? with
  | none => simp [countRepeat]
  | some nickname =>
    rw [length_problemIf]
    cases t.has Clause.nickname <;> simp [countRepeat]

theorem length_speciesProblems (before : List CheckedSet) (s : CheckedSet) :
    (speciesProblems t before s).length = if t.has Clause.species = true
      then countRepeat (before.filterMap fun s => s.number?) s.number? else 0 := by
  unfold speciesProblems CheckedSet.number?
  cases s.report.species with
  | none => simp [countRepeat]
  | some species =>
    rw [length_problemIf]
    cases t.has Clause.species <;> simp [countRepeat]

theorem length_eachSetProblems_after (t : RuleTable) : ∀ before sets : List CheckedSet,
    (eachSetProblems t before sets).length = (sets.map fun s => s.report.problems.length).sum
      + (if t.has Clause.nickname = true then repeatsAfter
          (before.filterMap fun s => s.nickname?) (sets.filterMap fun s => s.nickname?) else 0)
      + if t.has Clause.species = true then repeatsAfter
          (before.filterMap fun s => s.number?) (sets.filterMap fun s => s.number?) else 0
  | before, [] => by simp [eachSetProblems, repeatsAfter]
  | before, s :: rest => by
    have ih := length_eachSetProblems_after t (before ++ [s]) rest
    rw [repeatsAfter_filterMap_cons, repeatsAfter_filterMap_cons]
    simp only [eachSetProblems, List.length_append, length_nicknameProblems,
      length_speciesProblems, List.map_cons, List.sum_cons, ih]
    split_ifs <;> omega

/-- **Set by set, a team has the problems of its sets and one for each repeat.** -/
theorem length_eachSetProblems (t : RuleTable) (sets : List CheckedSet) :
    (eachSetProblems t [] sets).length = (sets.map fun s => s.report.problems.length).sum
      + (if t.has Clause.nickname = true then repeats (sets.filterMap fun s => s.nickname?) else 0)
      + if t.has Clause.species = true then repeats (sets.filterMap fun s => s.number?) else 0 :=
  length_eachSetProblems_after t [] sets

/-- Nicknames differ when no two sets with names that are not those of their base species have the
same name. -/
theorem nodup_nicknames_iff : (sets.filterMap fun s => s.nickname?).Nodup ↔
    sets.Pairwise fun x y => ∀ a b, x.report.species = some a → y.report.species = some b →
      x.set.name ≠ "" → x.set.name ≠ a.baseSpecies → y.set.name ≠ b.baseSpecies →
      x.set.name ≠ y.set.name := by
  refine List.pairwise_filterMap.trans (List.Pairwise.iff fun x y => ?_)
  simp only [CheckedSet.nickname?_eq_some_iff]
  constructor
  · intro h a b ha hb hne hxa hyb heq
    exact h _ ⟨a, ha, hne, hxa, rfl⟩ _ ⟨b, hb, heq ▸ hne, hyb, rfl⟩ heq
  · rintro h _ ⟨a, ha, hne, hxa, rfl⟩ _ ⟨b, hb, -, hyb, rfl⟩
    exact h a b ha hb hne hxa hyb

theorem nodup_numbers_iff : (sets.filterMap fun s => s.number?).Nodup ↔
    sets.Pairwise fun x y => ∀ a b, x.report.species = some a → y.report.species = some b →
      a.num ≠ b.num := by
  refine List.pairwise_filterMap.trans (List.Pairwise.iff fun x y => ?_)
  simp only [CheckedSet.number?_eq_some_iff]
  constructor
  · intro h a b ha hb
    exact h _ ⟨a, ha, rfl⟩ _ ⟨b, hb, rfl⟩
  · rintro h _ ⟨a, ha, rfl⟩ _ ⟨b, hb, rfl⟩
    exact h a b ha hb

theorem eachSetProblems_eq_nil_iff : eachSetProblems t [] sets = [] ↔
    (∀ s ∈ sets, s.report.problems = [])
      ∧ (t.has Clause.nickname = true → (sets.filterMap fun s => s.nickname?).Nodup)
      ∧ (t.has Clause.species = true → (sets.filterMap fun s => s.number?).Nodup) := by
  have hsum : (sets.map fun s => s.report.problems.length).sum = 0 ↔
      ∀ s ∈ sets, s.report.problems = [] := by
    simp [List.sum_eq_zero_iff_forall_eq_nat]
  rw [← List.length_eq_zero_iff, length_eachSetProblems, ← hsum]
  split_ifs with hn hs hs <;> simp [hn, hs, repeats_eq_zero_iff, and_assoc]

/-! ### Combinations -/

theorem holders_eq_zero_iff {feature : Target} :
    holders sets feature = 0 ↔ ∀ s ∈ sets, feature ∉ s.report.features := by
  simp [holders, CheckedSet.has]

/-- One more set holds what it has of the features. -/
theorem totalHolders_cons (s : CheckedSet) (rest : List CheckedSet) : ∀ keys : List Target,
    totalHolders (s :: rest) keys = (keys.filter s.has).length + totalHolders rest keys
  | [] => rfl
  | key :: keys => by
    have ih := totalHolders_cons s rest keys
    have hhead : holders (s :: rest) key = (if s.has key = true then 1 else 0)
        + holders rest key := by
      unfold holders
      by_cases h : s.has key = true <;> simp [h, Nat.add_comm]
    rw [totalHolders, totalHolders, ih, hhead, List.filter_cons]
    split_ifs
    · rw [List.length_cons]
      omega
    · omega

/-- **Counting a combination across a team** sums what each set has of it. -/
theorem totalHolders_eq_sum (targets : List Target) : ∀ sets : List CheckedSet,
    totalHolders sets (Ban.ofTargets targets).keys
      = (sets.map fun s => Target.countIn s.report.features targets).sum
  | [] => by
    have hnone : ∀ keys : List Target, totalHolders [] keys = 0 := by
      intro keys
      induction keys with
      | nil => rfl
      | cons key keys ih => simpa [totalHolders, holders] using ih
    rw [hnone]
    rfl
  | s :: rest => by
    rw [totalHolders_cons, totalHolders_eq_sum targets rest, List.map_cons, List.sum_cons]
    exact congrArg (· + _) Ban.count_ofTargets

theorem combinationProblems_eq_nil_iff {c : Combination} : combinationProblems sets c = [] ↔
    ∀ limit, c.limit = .forbidden limit →
      (limit = 0 → ∃ target ∈ c.targets, ∀ s ∈ sets, target ∉ s.report.features)
      ∧ (limit ≠ 0 →
        ((sets.map fun s => Target.countIn s.report.features c.targets).sum : Int) ≤ limit) := by
  unfold combinationProblems
  dsimp only
  cases c.limit with
  | allowed => simp
  | forbidden limit =>
    by_cases hl : limit = 0
    · simp [hl, Ban.mem_keys_ofTargets, holders_eq_zero_iff]
    · simp [hl, totalHolders_eq_sum]

/-! ### All checks -/

/-- What makes a team of checked sets legal.  The limits across the team pass over sets whose
species was not found. -/
structure Legal (config : Config) (format : Format) (t : RuleTable) (sets : List CheckedSet) :
    Prop where
  size : 1 ≤ sets.length ∧ sets.length ≤ config.maxTeamSize
  each : ∀ s ∈ sets, s.report.problems = []
  nicknames : t.has Clause.nickname = true → sets.Pairwise fun x y =>
    ∀ a b, x.report.species = some a → y.report.species = some b →
      x.set.name ≠ "" → x.set.name ≠ a.baseSpecies → y.set.name ≠ b.baseSpecies →
      x.set.name ≠ y.set.name
  species : t.has Clause.species = true → sets.Pairwise fun x y =>
    ∀ a b, x.report.species = some a → y.report.species = some b → a.num ≠ b.num
  formes : ∀ names ∈ [["Kyurem-Black", "Kyurem-White"], ["Necrozma-Dusk-Mane"],
      ["Necrozma-Dawn-Wings"]],
    sets.countP (fun s => s.report.species.any (·.name ∈ names)) ≤ 1
  batonPass : t.has Clause.batonPass = true →
    sets.countP (fun s => .entry .move "batonpass" ∈ s.report.features) ≤ 1
  weather : format.id = "gen5ou" →
    ∀ pair ∈ [("drizzle", "swiftswim"), ("drought", "chlorophyll")],
      ¬ ((∃ s ∈ sets, s.report.species ≠ none ∧ Text.toId s.set.ability = pair.1)
        ∧ ∃ s ∈ sets, s.report.species ≠ none ∧ Text.toId s.set.ability = pair.2)
  combinations : ∀ c ∈ t.teamBans, ∀ limit, c.limit = .forbidden limit →
    (limit = 0 → ∃ target ∈ c.targets, ∀ s ∈ sets, target ∉ s.report.features)
      ∧ (limit ≠ 0 →
        ((sets.map fun s => Target.countIn s.report.features c.targets).sum : Int) ≤ limit)

theorem sizeProblems_eq_nil_iff {size : Nat} :
    sizeProblems config size = [] ↔ 1 ≤ size ∧ size ≤ config.maxTeamSize := by
  unfold sizeProblems
  simp [Nat.one_le_iff_ne_zero]

/-- The sets in a group of formes are those of the species that make up the group. -/
theorem count_formeGroup {group : String} {names : List String}
    (h : ∀ name, Clause.formeGroup? name = some group ↔ name ∈ names) :
    (sets.filterMap fun s => s.formeGroup?).count group
      = sets.countP fun s => s.report.species.any (·.name ∈ names) := by
  rw [List.count_filterMap]
  refine List.countP_congr fun s _ => ?_
  rw [beq_iff_eq, CheckedSet.formeGroup?_eq_some_iff]
  cases s.report.species <;> simp [h]

theorem formeProblems_eq_nil_iff : formeProblems sets = [] ↔
    ∀ names ∈ [["Kyurem-Black", "Kyurem-White"], ["Necrozma-Dusk-Mane"],
      ["Necrozma-Dawn-Wings"]],
    sets.countP (fun s => s.report.species.any (·.name ∈ names)) ≤ 1 := by
  have hkyurem : ∀ name, Clause.formeGroup? name = some "Kyurem-Black/Kyurem-White"
      ↔ name ∈ ["Kyurem-Black", "Kyurem-White"] := by grind [Clause.formeGroup?_eq_some_iff]
  have hdusk : ∀ name, Clause.formeGroup? name = some "Necrozma-Dusk-Mane"
      ↔ name ∈ ["Necrozma-Dusk-Mane"] := by grind [Clause.formeGroup?_eq_some_iff]
  have hdawn : ∀ name, Clause.formeGroup? name = some "Necrozma-Dawn-Wings"
      ↔ name ∈ ["Necrozma-Dawn-Wings"] := by grind [Clause.formeGroup?_eq_some_iff]
  unfold formeProblems
  simp [Clause.formeGroups, count_formeGroup hkyurem, count_formeGroup hdusk,
    count_formeGroup hdawn]

theorem batonPassProblems_eq_nil_iff : batonPassProblems t sets = [] ↔
    (t.has Clause.batonPass = true →
      sets.countP (fun s => .entry .move "batonpass" ∈ s.report.features) ≤ 1) := by
  unfold batonPassProblems
  simp [List.countP_eq_length_filter, CheckedSet.has]

theorem weatherProblems_eq_nil_iff : weatherProblems format sets = [] ↔
    (format.id = "gen5ou" → ∀ pair ∈ [("drizzle", "swiftswim"), ("drought", "chlorophyll")],
      ¬ ((∃ s ∈ sets, s.report.species ≠ none ∧ Text.toId s.set.ability = pair.1)
        ∧ ∃ s ∈ sets, s.report.species ≠ none ∧ Text.toId s.set.ability = pair.2)) := by
  have hids : [("drizzle", "swiftswim"), ("drought", "chlorophyll")]
      = Clause.weatherPairs.map fun pair => (Text.toId pair.1, Text.toId pair.2) := by decide
  unfold weatherProblems
  dsimp only
  by_cases hf : format.id = "gen5ou"
  · rw [if_pos (show format.id = Clause.weatherFormat from hf), hids, List.forall_mem_map]
    simp [hf, List.flatMap_eq_nil_iff, CheckedSet.abilityId?_eq_some_iff]
  · rw [if_neg (show format.id ≠ Clause.weatherFormat from hf)]
    simp [hf]

/-- **A team has no problem exactly when it is legal.** -/
theorem problems_eq_nil_iff : problems config format t sets = [] ↔ Legal config format t sets := by
  unfold problems
  simp only [List.append_eq_nil_iff, sizeProblems_eq_nil_iff, eachSetProblems_eq_nil_iff,
    nodup_nicknames_iff, nodup_numbers_iff, formeProblems_eq_nil_iff, batonPassProblems_eq_nil_iff, weatherProblems_eq_nil_iff,
    List.flatMap_eq_nil_iff, combinationProblems_eq_nil_iff]
  constructor
  · rintro ⟨⟨⟨⟨⟨hsize, heach, hnicknames, hspecies⟩, hformes⟩, hpass⟩, hweather⟩, hcombinations⟩
    exact ⟨hsize, heach, hnicknames, hspecies, hformes, hpass, hweather, hcombinations⟩
  · intro h
    exact ⟨⟨⟨⟨⟨h.size, h.each, h.nicknames, h.species⟩, h.formes⟩, h.batonPass⟩, h.weather⟩,
      h.combinations⟩

/-! ### Growing teams -/

section Growth

variable {l l' more : List CheckedSet}

theorem sum_map_le_of_perm_append (f : CheckedSet → Nat) (h : l'.Perm (l ++ more)) :
    (l.map f).sum ≤ (l'.map f).sum := by
  rw [(h.map f).sum_nat, List.map_append, List.sum_append]
  exact Nat.le_add_right _ _

theorem repeats_filterMap_le_of_perm_append {α : Type} [DecidableEq α] (f : CheckedSet → Option α)
    (h : l'.Perm (l ++ more)) : repeats (l.filterMap f) ≤ repeats (l'.filterMap f) := by
  have hperm := h.filterMap f
  rw [List.filterMap_append] at hperm
  exact repeats_le_of_perm_append hperm

theorem mem_of_perm_append {s : CheckedSet} (h : l'.Perm (l ++ more)) (hs : s ∈ l) : s ∈ l' :=
  h.mem_iff.mpr (List.mem_append_left more hs)

theorem length_sizeProblems_le (hne : l ≠ []) (h : l'.Perm (l ++ more)) :
    (sizeProblems config l.length).length ≤ (sizeProblems config l'.length).length := by
  have hlength := h.length_eq
  rw [List.length_append] at hlength
  have hpos : 0 < l.length := List.length_pos_iff.mpr hne
  unfold sizeProblems
  simp only [List.length_append]
  refine Nat.add_le_add (length_problemIf_le ?_) (length_problemIf_le ?_)
  · simp only [beq_iff_eq]
    omega
  · simp only [decide_eq_true_eq]
    omega

theorem length_eachSetProblems_le (t : RuleTable) (h : l'.Perm (l ++ more)) :
    (eachSetProblems t [] l).length ≤ (eachSetProblems t [] l').length := by
  have hsets := sum_map_le_of_perm_append (fun s => s.report.problems.length) h
  have hnicknames := repeats_filterMap_le_of_perm_append (fun s => s.nickname?) h
  have hnumbers := repeats_filterMap_le_of_perm_append (fun s => s.number?) h
  rw [length_eachSetProblems, length_eachSetProblems]
  split_ifs <;> omega

theorem length_formeProblems_le (h : l'.Perm (l ++ more)) :
    (formeProblems l).length ≤ (formeProblems l').length := by
  refine length_flatMap_le fun group _ => length_problemIf_le ?_
  have hperm := h.filterMap fun s => s.formeGroup?
  have hcount := hperm.count_eq group
  rw [List.filterMap_append, List.count_append] at hcount
  simp only [decide_eq_true_eq]
  omega

theorem holders_le_of_perm_append (feature : Target) (h : l'.Perm (l ++ more)) :
    holders l feature ≤ holders l' feature := by
  have hlength := (h.filter fun s => s.has feature).length_eq
  rw [List.filter_append, List.length_append] at hlength
  unfold holders
  omega

theorem length_batonPassProblems_le (t : RuleTable) (h : l'.Perm (l ++ more)) :
    (batonPassProblems t l).length ≤ (batonPassProblems t l').length := by
  have hpassers := holders_le_of_perm_append (.entry .move "batonpass") h
  unfold holders at hpassers
  refine length_problemIf_le ?_
  simp only [Bool.and_eq_true, decide_eq_true_eq]
  rintro ⟨hclause, hmany⟩
  exact ⟨hclause, hmany.trans_le hpassers⟩

theorem length_weatherProblems_le (format : Format) (h : l'.Perm (l ++ more)) :
    (weatherProblems format l).length ≤ (weatherProblems format l').length := by
  have hmem : ∀ id ∈ l.filterMap (fun s => s.abilityId?),
      id ∈ l'.filterMap fun s => s.abilityId? := by
    intro id hid
    obtain ⟨s, hs, hsid⟩ := List.mem_filterMap.mp hid
    exact List.mem_filterMap.mpr ⟨s, mem_of_perm_append h hs, hsid⟩
  unfold weatherProblems
  split_ifs
  · refine length_flatMap_le fun pair _ => length_problemIf_le ?_
    simp only [Bool.and_eq_true, List.contains_iff_mem]
    exact fun ⟨hweather, huser⟩ => ⟨hmem _ hweather, hmem _ huser⟩
  · rfl

theorem length_combinationProblems_le (c : Combination) (h : l'.Perm (l ++ more)) :
    (combinationProblems l c).length ≤ (combinationProblems l' c).length := by
  unfold combinationProblems
  dsimp only
  cases c.limit with
  | allowed => rfl
  | forbidden limit =>
    dsimp only
    split_ifs with hl
    · refine length_problemIf_le ?_
      simp only [List.all_eq_true, decide_eq_true_eq]
      intro hall key hkey
      have hle := holders_le_of_perm_append key h
      have hheld := hall key hkey
      omega
    · refine length_problemIf_le ?_
      have hsum := sum_map_le_of_perm_append
        (fun s => Target.countIn s.report.features c.targets) h
      rw [totalHolders_eq_sum, totalHolders_eq_sum]
      simp only [decide_eq_true_eq]
      omega

/-- **More sets, in any order, have no fewer problems.** -/
theorem length_problems_le (hne : l ≠ []) (h : l'.Perm (l ++ more)) :
    (problems config format t l).length ≤ (problems config format t l').length := by
  have hsize := @length_sizeProblems_le config _ _ _ hne h
  have heach := length_eachSetProblems_le t h
  have hformes := length_formeProblems_le h
  have hpass := length_batonPassProblems_le t h
  have hweather := length_weatherProblems_le format h
  have hcombinations : (t.teamBans.flatMap (combinationProblems l)).length
      ≤ (t.teamBans.flatMap (combinationProblems l')).length :=
    length_flatMap_le fun c _ => length_combinationProblems_le c h
  unfold problems
  simp only [List.length_append]
  omega

end Growth

end TeamCheck

end TeamLegality
