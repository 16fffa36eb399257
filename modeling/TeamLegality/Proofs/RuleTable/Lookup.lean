import TeamLegality.RuleTable.Resolution
import Mathlib.Tactic.SplitIfs

/-!
# Lookup — what a rule table says of a key after each change

Equations for `get?` after a key is erased, set or referred to, and for the keys of a table after it
has inherited from another one.  What a table declares itself has the empty source: inheriting never
adds to it and never takes from it (`inheritKeys_own`).
-/

namespace TeamLegality

/-- Combinations with several more, in order. -/
def Combination.mergeAll (l cs : List Combination) : List Combination :=
  cs.foldl (fun l c => c.merge l) l

/-- What a combination counts on: a single set, or a whole team. -/
inductive BanScope where
  | set | team
deriving DecidableEq, Repr

/-- The combinations of a table that count on one or the other. -/
def BanScope.list : BanScope → RuleTable → List Combination
  | set, t => t.complexBans
  | team, t => t.teamBans

/-- A key that suppresses nothing but a rule. -/
def RuleKey.IsRegular (key : RuleKey) : Prop := ∀ k, key = .suppression k → ∃ id, k = .rule id

theorem RuleKey.IsRegular.ne_suppression {key k : RuleKey} (h : key.IsRegular)
    (hk : ∀ id, k ≠ .rule id) : key ≠ .suppression k := by
  intro heq
  obtain ⟨id, hid⟩ := h k heq
  exact hk id hid

namespace RuleTable

variable {t u : RuleTable} {key x : RuleKey} {source origin format : String}

/-- The table after a reference to a format, whose suppression makes way. -/
def referTo (t : RuleTable) (id : String) : RuleTable :=
  (t.erase (.suppression (.rule id))).set (.rule id) ""

/-- All keys of a table are regular. -/
def Regular (t : RuleTable) : Prop := ∀ key, t.has key = true → key.IsRegular

/-! ### Single changes -/

theorem has_iff : t.has key = true ↔ ∃ source, t.get? key = some source :=
  Option.isSome_iff_exists

theorem has_eq_false_iff : t.has key = false ↔ t.get? key = none := by
  unfold has get? Assoc.contains
  simp

theorem has_of_get? (h : t.get? key = some source) : t.has key = true := has_iff.mpr ⟨source, h⟩

theorem get?_erase : (t.erase key).get? x = if x = key then none else t.get? x :=
  Assoc.get?_erase t.rules key x

theorem get?_set : (t.set key source).get? x =
    if x = key then some source else if key = .suppression x then none else t.get? x := by
  unfold set get?
  cases key with
  | suppression k =>
    simp only [Assoc.get?_insert, Assoc.get?_erase, RuleKey.suppression.injEq]
    split_ifs with h1 h2 h3 h3
    · rfl
    · rfl
    · exact absurd h2.symm h3
    · exact absurd h3.symm h2
    · rfl
  | _ => simp [Assoc.get?_insert]

@[simp] theorem get?_set_self : (t.set key source).get? key = some source := by
  rw [get?_set, if_pos rfl]

theorem get?_set_of_ne (h : x ≠ key) (h' : key ≠ .suppression x) :
    (t.set key source).get? x = t.get? x := by
  rw [get?_set, if_neg h, if_neg h']

theorem get?_erase_of_ne (h : x ≠ key) : (t.erase key).get? x = t.get? x := by
  rw [get?_erase, if_neg h]

theorem get?_referTo {id : String} : (t.referTo id).get? x =
    if x = .rule id then some ""
    else if x = .suppression (.rule id) then none else t.get? x := by
  rw [referTo, get?_set, get?_erase]
  simp

theorem has_set : (t.set key source).has x = true ↔
    x = key ∨ key ≠ .suppression x ∧ t.has x = true := by
  rw [has_iff, has_iff, get?_set]
  split_ifs with h1 h2
  · exact ⟨fun _ => .inl h1, fun _ => ⟨source, rfl⟩⟩
  · exact ⟨nofun, fun h => absurd (h.resolve_left h1).1 (not_not_intro h2)⟩
  · exact ⟨fun h => .inr ⟨h2, h⟩, fun h => (h.resolve_left h1).2⟩

theorem has_erase : (t.erase key).has x = true ↔ x ≠ key ∧ t.has x = true := by
  rw [has_iff, has_iff, get?_erase]
  split_ifs with h <;> simp [h]

theorem has_referTo {id : String} : (t.referTo id).has x = true ↔
    x = .rule id ∨ x ≠ .suppression (.rule id) ∧ t.has x = true := by
  rw [referTo, has_set, has_erase]
  simp

theorem get?_of_rules_eq (h : u.rules = t.rules) : u.get? x = t.get? x := by
  rw [get?, get?, h]

theorem has_of_rules_eq (h : u.rules = t.rules) : u.has x = t.has x := by
  rw [has, has, h]

@[simp] theorem has_addComplexBan {c : Combination} : (t.addComplexBan c).has x = t.has x := rfl

@[simp] theorem has_addTeamBan {c : Combination} : (t.addTeamBan c).has x = t.has x := rfl

theorem list_set (scope : BanScope) : scope.list (t.set key source) = scope.list t := by
  cases scope <;> cases key <;> rfl

theorem list_referTo (scope : BanScope) {id : String} :
    scope.list (t.referTo id) = scope.list t := by
  cases scope <;> rfl

/-! ### Regular tables -/

theorem Regular.has_suppression (ht : t.Regular) (hkey : ∀ id, key ≠ .rule id) :
    t.has (.suppression key) = false := by
  rw [← Bool.not_eq_true]
  exact fun h => (ht _ h).ne_suppression hkey rfl

theorem Regular.set (ht : t.Regular) (hk : key.IsRegular) : (t.set key source).Regular := by
  intro k h
  rcases has_set.mp h with rfl | ⟨-, h⟩
  · exact hk
  · exact ht k h

theorem Regular.erase (ht : t.Regular) : (t.erase key).Regular :=
  fun k h => ht k (has_erase.mp h).2

theorem Regular.referTo (ht : t.Regular) {id : String} : (t.referTo id).Regular :=
  ht.erase.set fun k h => by cases h

/-! ### Inheriting one key -/

theorem inheritKey_of_refuses {entry : RuleKey × String} (h : t.refuses entry.1 = true) :
    inheritKey origin t entry = t := by
  rw [inheritKey, if_pos h]

/-- An inherited key that is not refused has a source, namely where it comes from. -/
theorem exists_inheritKey_eq_set {entry : RuleKey × String} (ho : origin ≠ "")
    (h : t.refuses entry.1 = false) :
    ∃ source, source ≠ "" ∧ inheritKey origin t entry = t.set entry.1 source := by
  refine ⟨if entry.2 = "" then origin else entry.2, ?_, ?_⟩
  · split_ifs with he
    · exact ho
    · exact he
  · rw [inheritKey, h]
    rfl

theorem refuses_eq_false_iff : t.refuses key = false ↔
    t.has (.suppression key) = false ∧ t.has key = false
      ∧ ∀ k, key = .suppression k → t.get? k ≠ some "" := by
  unfold refuses
  cases key <;> simp [and_assoc]

/-- Inheriting adds nothing to what a table declares itself and takes nothing from it. -/
theorem inheritKey_own (ho : origin ≠ "") (entry : RuleKey × String) :
    (inheritKey origin t entry).get? x = some "" ↔ t.get? x = some "" := by
  cases h : t.refuses entry.1 with
  | true => rw [inheritKey_of_refuses h]
  | false =>
    obtain ⟨source, hs, heq⟩ := exists_inheritKey_eq_set ho h
    obtain ⟨-, hhas, hkeep⟩ := refuses_eq_false_iff.mp h
    rw [heq, get?_set]
    split_ifs with h1 h2
    · rw [h1, has_eq_false_iff.mp hhas]
      simp [hs]
    · exact ⟨nofun, fun hx => absurd hx (hkeep x h2)⟩
    · rfl

theorem get?_inheritKey_of_ne {entry : RuleKey × String} (h : x ≠ entry.1)
    (h' : entry.1 ≠ .suppression x) : (inheritKey origin t entry).get? x = t.get? x := by
  unfold inheritKey
  split
  · rfl
  · exact get?_set_of_ne h h'

theorem Regular.inheritKey (ht : t.Regular) {entry : RuleKey × String} (hk : entry.1.IsRegular) :
    (inheritKey origin t entry).Regular := by
  unfold RuleTable.inheritKey
  split
  · exact ht
  · exact ht.set hk

/-! ### Inheriting all keys -/

theorem mem_entries_iff_has : (∃ source, (key, source) ∈ t.rules.entries) ↔ t.has key = true := by
  rw [has, Assoc.contains_iff_mem_keys, Assoc.keys, List.mem_map]
  exact ⟨fun ⟨source, h⟩ => ⟨(key, source), h, rfl⟩, fun ⟨⟨k, source⟩, h, hk⟩ => ⟨source, hk ▸ h⟩⟩

/-- A property of the table and of the keys inherited so far holds once all keys are inherited. -/
theorem inheritKeys_induction (u : RuleTable) (origin : String)
    (P : (RuleKey → Prop) → RuleTable → Prop)
    (step : ∀ A t entry, u.has entry.1 = true → P A t →
      P (fun y => A y ∨ y = entry.1) (inheritKey origin t entry))
    (A : RuleKey → Prop) (h : P A t) :
    P (fun y => A y ∨ u.has y = true) (t.inheritKeys u origin) := by
  have hfold : ∀ (l : List (RuleKey × String)), (∀ e ∈ l, u.has e.1 = true) → ∀ A t, P A t →
      P (fun y => A y ∨ ∃ source, (y, source) ∈ l) (l.foldl (inheritKey origin) t) := by
    intro l
    induction l with
    | nil =>
      intro _ A t h
      simpa using h
    | cons e rest ih =>
      intro hl A t h
      have hstep := ih (fun e' he' => hl e' (List.mem_cons_of_mem e he')) _ _
        (step A t e (hl e List.mem_cons_self) h)
      have hA : (fun y => (A y ∨ y = e.1) ∨ ∃ source, (y, source) ∈ rest) =
          fun y => A y ∨ ∃ source, (y, source) ∈ e :: rest := by
        funext y
        simp [Prod.ext_iff, exists_or, or_assoc]
      rw [hA] at hstep
      exact hstep
  have hall := hfold u.rules.entries (fun e he => mem_entries_iff_has.mp ⟨e.2, he⟩) A t h
  simp only [mem_entries_iff_has] at hall
  exact hall

theorem inheritKeys_own (ho : origin ≠ "") :
    (t.inheritKeys u origin).get? x = some "" ↔ t.get? x = some "" :=
  inheritKeys_induction u origin (fun _ t' => t'.get? x = some "" ↔ t.get? x = some "")
    (fun _ _ entry _ h => (inheritKey_own ho entry).trans h) (fun _ => True) Iff.rfl

theorem Regular.inheritKeys (ht : t.Regular) (hu : u.Regular) :
    (t.inheritKeys u origin).Regular :=
  inheritKeys_induction u origin (fun _ t' => t'.Regular)
    (fun _ _ _ he h => h.inheritKey (hu _ he)) (fun _ => True) ht

/-! ### Inheriting a table -/

theorem inheritCombinations_eq : t.inheritCombinations u origin =
    { t with
      complexBans := Combination.mergeAll t.complexBans (u.complexBans.map (·.inheritedFrom origin))
      teamBans := Combination.mergeAll t.teamBans (u.teamBans.map (·.inheritedFrom origin)) } := by
  have hc : ∀ (cs : List Combination) (t : RuleTable),
      cs.foldl (fun t c => t.addComplexBan (c.inheritedFrom origin)) t = { t with
        complexBans := Combination.mergeAll t.complexBans (cs.map (·.inheritedFrom origin)) } := by
    intro cs
    induction cs with
    | nil => exact fun _ => rfl
    | cons c cs ih => exact fun t => ih (t.addComplexBan (c.inheritedFrom origin))
  have ht : ∀ (cs : List Combination) (t : RuleTable),
      cs.foldl (fun t c => t.addTeamBan (c.inheritedFrom origin)) t = { t with
        teamBans := Combination.mergeAll t.teamBans (cs.map (·.inheritedFrom origin)) } := by
    intro cs
    induction cs with
    | nil => exact fun _ => rfl
    | cons c cs ih => exact fun t => ih (t.addTeamBan (c.inheritedFrom origin))
  rw [inheritCombinations, hc, ht]

theorem list_inheritKeys (scope : BanScope) :
    scope.list (t.inheritKeys u origin) = scope.list t :=
  inheritKeys_induction u origin (fun _ t' => scope.list t' = scope.list t)
    (fun _ _ _ _ h => by unfold inheritKey; split <;> simp [list_set, h]) (fun _ => True) rfl

/-- The legality hook has no part in keys and combinations. -/
theorem inheritFrom_ok {t' : RuleTable} (h : t.inheritFrom u origin format = .ok t') :
    t'.rules = (t.inheritKeys u origin).rules ∧ ∀ scope : BanScope, scope.list t'
      = Combination.mergeAll (scope.list t) ((scope.list u).map (·.inheritedFrom origin)) := by
  have hhook : ∀ t₁ : RuleTable, t₁.inheritHook u format = .ok t' →
      t'.rules = t₁.rules ∧ ∀ scope : BanScope, scope.list t' = scope.list t₁ := by
    intro t₁ h₁
    unfold inheritHook at h₁
    split at h₁
    · cases h₁
      exact ⟨rfl, fun _ => rfl⟩
    · cases h₁
      exact ⟨rfl, fun scope => by cases scope <;> rfl⟩
    · split_ifs at h₁
      cases h₁
      exact ⟨rfl, fun _ => rfl⟩
  obtain ⟨hrules, hlist⟩ := hhook _ h
  rw [inheritCombinations_eq] at hrules hlist
  refine ⟨hrules, fun scope => (hlist scope).trans ?_⟩
  rw [← @list_inheritKeys t u origin scope]
  cases scope <;> rfl

end RuleTable

end TeamLegality
