import TeamLegality.Proofs.Format.Keys
import TeamLegality.Proofs.RuleTable.Lookup
import Mathlib.Data.List.Induction

/-!
# Steps — the table of a format, said without a session

`Steps r R f specs t` says that working off `specs` as rules of `f` gives the table `t`, when `R`
gives the tables of the formats that are included.  `TableWithin r n f t` takes for `R` the tables
that need fewer than `n` levels of inclusion; `TableOf r f t` takes as many levels as are needed.
No stack, no memory and no limit appear here.  Whether a reference includes its format is told from
the rules before it alone: `Steps.suppressed_iff` says that the table agrees.
-/

namespace TeamLegality

namespace FormatRegistry

/-! ### What a format says -/

/-- What rule texts of a format say, as far as they can be parsed. -/
def specsOf (r : FormatRegistry) (f : Format) (rules : List String) : List RuleSpec :=
  rules.filterMap fun rule => (RuleSpec.parse r (some f) rule).toOption

/-- What the working rules of a format say. -/
def ownRules (r : FormatRegistry) (f : Format) : List RuleSpec := r.specsOf f f.workingRules

/-- What bears on the table of a format: a rule of its own, or a format that it includes. -/
inductive Entry where
  | own (spec : RuleSpec)
  | inclusion (sub : Format)
deriving DecidableEq

/-- What a rule contributes after others: a reference includes a format that exists and that none
of the rules before it suppresses. -/
def contribution? (r : FormatRegistry) (done : List RuleSpec) : RuleSpec → Option Entry
  | .rule id =>
    let sub := r.getFormat id
    if .suppress sub.id ∉ done ∧ sub.isKnown = true then some (.inclusion sub) else none
  | spec => some (.own spec)

/-- What rules contribute after others, in order. -/
def entriesAfter (r : FormatRegistry) : (done rules : List RuleSpec) → List Entry
  | _, [] => []
  | done, spec :: rest => (r.contribution? done spec).toList ++ r.entriesAfter (done ++ [spec]) rest

/-- What the working rules of a format contribute to its table, in order. -/
def entries (r : FormatRegistry) (f : Format) : List Entry := r.entriesAfter [] (r.ownRules f)

/-- A format actively includes another one. -/
def Includes (r : FormatRegistry) (f sub : Format) : Prop := .inclusion sub ∈ r.entries f

/-- A reference to a format of that identifier is among some rules. -/
def Refers (r : FormatRegistry) (rules : List RuleSpec) (x : String) : Prop :=
  ∃ id, .rule id ∈ rules ∧ (r.getFormat id).id = x

/-- A key is in the table of a format that some rules include. -/
def Brings (r : FormatRegistry) (tables : Format → RuleTable) (rules : List RuleSpec)
    (key : RuleKey) : Prop :=
  ∃ sub, .inclusion sub ∈ r.entriesAfter [] rules ∧ (tables sub).has key = true

/-! ### Steps -/

/-- One more rule of a format after others. -/
inductive Step (r : FormatRegistry) (R : Format → RuleTable → Prop) (f : Format)
    (done : List RuleSpec) (t : RuleTable) : RuleSpec → RuleTable → Prop
  | teamBan (c : Combination) : Step r R f done t (.teamBan c) (t.addTeamBan c)
  | complexBan (c : Combination) : Step r R f done t (.complexBan c) (t.addComplexBan c)
  | ban (target : Target) : Step r R f done t (.ban target) (t.set (.ban target) "")
  | unban (target : Target) :
    Step r R f done t (.unban target) ((t.erase (.ban target)).set (.unban target) "")
  | suppress (id : String) :
    Step r R f done t (.suppress id) (t.set (.suppression (.rule id)) "")
  | passed (id : String) (hs : .suppress (r.getFormat id).id ∈ done) :
    Step r R f done t (.rule id) t
  | missing (id : String) (hs : .suppress (r.getFormat id).id ∉ done)
    (hk : (r.getFormat id).isKnown = false) :
    Step r R f done t (.rule id) (t.referTo (r.getFormat id).id)
  | included (id : String) {u t' : RuleTable} (hs : .suppress (r.getFormat id).id ∉ done)
    (hk : (r.getFormat id).isKnown = true) (hu : R (r.getFormat id) u)
    (ht' : (t.referTo (r.getFormat id).id).inheritFrom u (r.getFormat id).name f.name = .ok t') :
    Step r R f done t (.rule id) t'

/-- The table of a format before its rules: empty but for the hook that the format declares. -/
def startingTable (f : Format) : RuleTable := { RuleTable.empty with hook := f.declaredHook? }

/-- The rules of a format worked off in order. -/
inductive Steps (r : FormatRegistry) (R : Format → RuleTable → Prop) (f : Format) :
    List RuleSpec → RuleTable → Prop
  | start : Steps r R f [] (startingTable f)
  | snoc {done : List RuleSpec} {t t' : RuleTable} {spec : RuleSpec} (h : Steps r R f done t)
    (hs : Step r R f done t spec t') : Steps r R f (done ++ [spec]) t'

/-- All working rules of a format can be parsed, and lead to the table. -/
structure Built (r : FormatRegistry) (R : Format → RuleTable → Prop) (f : Format)
    (t : RuleTable) : Prop where
  readable : ∀ rule ∈ f.workingRules, ∃ spec, RuleSpec.parse r (some f) rule = .ok spec
  steps : Steps r R f (r.ownRules f) t

/-- `R` gives each format no other table than `tables` does, and only regular ones. -/
def TabulatedBy (R : Format → RuleTable → Prop) (tables : Format → RuleTable) : Prop :=
  ∀ sub u, R sub u → u = tables sub ∧ u.Regular

/-- The table of a format that includes others through at most `n` levels. -/
def TableWithin (r : FormatRegistry) : (n : Nat) → Format → RuleTable → Prop
  | 0 => Built r fun _ _ => False
  | n + 1 => Built r (TableWithin r n)

/-- The table of a format, however many levels it takes. -/
def TableOf (r : FormatRegistry) (f : Format) (t : RuleTable) : Prop := ∃ n, TableWithin r n f t

variable {r : FormatRegistry} {R R' : Format → RuleTable → Prop} {f g sub : Format}
  {done rest specs : List RuleSpec} {spec : RuleSpec} {t t' t₁ t₂ : RuleTable} {n m : Nat}

/-! ### Entries -/

theorem specsOf_append (rules rules' : List String) :
    r.specsOf f (rules ++ rules') = r.specsOf f rules ++ r.specsOf f rules' :=
  List.filterMap_append

theorem specsOf_singleton {rule : String} (h : RuleSpec.parse r (some f) rule = .ok spec) :
    r.specsOf f [rule] = [spec] := by
  simp [specsOf, h, Except.toOption]

theorem entriesAfter_append : ∀ done specs rest : List RuleSpec,
    r.entriesAfter done (specs ++ rest)
      = r.entriesAfter done specs ++ r.entriesAfter (done ++ specs) rest
  | done, [], rest => by simp [entriesAfter]
  | done, spec :: specs, rest => by
    rw [List.cons_append, entriesAfter, entriesAfter, entriesAfter_append, List.append_assoc,
      List.append_assoc, List.singleton_append]

/-- The entries after one more rule. -/
theorem entriesAfter_snoc : r.entriesAfter [] (done ++ [spec])
    = r.entriesAfter [] done ++ (r.contribution? done spec).toList := by
  simp [entriesAfter_append, entriesAfter]

theorem contribution?_of_own (h : ∀ id, spec ≠ .rule id) :
    r.contribution? done spec = some (.own spec) := by
  cases spec with
  | rule id => exact absurd rfl (h id)
  | _ => rfl

theorem contribution?_of_passed {id : String} (hs : .suppress (r.getFormat id).id ∈ done) :
    r.contribution? done (.rule id) = none := by
  simp [contribution?, hs]

theorem contribution?_of_missing {id : String} (hk : (r.getFormat id).isKnown = false) :
    r.contribution? done (.rule id) = none := by
  simp [contribution?, hk]

theorem contribution?_of_included {id : String} (hs : .suppress (r.getFormat id).id ∉ done)
    (hk : (r.getFormat id).isKnown = true) :
    r.contribution? done (.rule id) = some (.inclusion (r.getFormat id)) := by
  simp [contribution?, hs, hk]

theorem refers_snoc {x : String} : r.Refers (done ++ [spec]) x ↔
    r.Refers done x ∨ ∃ id, spec = .rule id ∧ (r.getFormat id).id = x := by
  simp only [Refers, List.mem_append, List.mem_singleton, or_and_right, exists_or, eq_comm]

theorem brings_snoc {tables : Format → RuleTable} {key : RuleKey} :
    r.Brings tables (done ++ [spec]) key ↔ r.Brings tables done key
      ∨ ∃ sub, r.contribution? done spec = some (.inclusion sub) ∧ (tables sub).has key = true := by
  simp only [Brings, entriesAfter_snoc, List.mem_append, Option.mem_toList, or_and_right, exists_or]

theorem refers_snoc_of_own {x : String} (h : ∀ id, spec ≠ .rule id) :
    r.Refers (done ++ [spec]) x ↔ r.Refers done x := by
  rw [refers_snoc]
  exact or_iff_left fun ⟨id, hid, _⟩ => h id hid

theorem brings_snoc_of_own {tables : Format → RuleTable} {key : RuleKey}
    (h : ∀ id, spec ≠ .rule id) :
    r.Brings tables (done ++ [spec]) key ↔ r.Brings tables done key := by
  rw [brings_snoc, contribution?_of_own h]
  simp

theorem brings_snoc_of_none {tables : Format → RuleTable} {key : RuleKey}
    (h : r.contribution? done spec = none) :
    r.Brings tables (done ++ [spec]) key ↔ r.Brings tables done key := by
  rw [brings_snoc, h]
  simp

theorem brings_snoc_of_inclusion {tables : Format → RuleTable} {key : RuleKey}
    (h : r.contribution? done spec = some (.inclusion sub)) :
    r.Brings tables (done ++ [spec]) key
      ↔ r.Brings tables done key ∨ (tables sub).has key = true := by
  rw [brings_snoc, h]
  simp

/-- An inclusion is due to a reference that none of the rules before it suppresses. -/
theorem contribution?_eq_inclusion (h : r.contribution? done spec = some (.inclusion sub)) :
    ∃ id, spec = .rule id ∧ r.getFormat id = sub ∧ .suppress sub.id ∉ done
      ∧ sub.isKnown = true := by
  unfold contribution? at h
  split at h
  · next id =>
    simp only [Option.ite_none_right_eq_some, Option.some.injEq, Entry.inclusion.injEq] at h
    obtain ⟨⟨hs, hk⟩, rfl⟩ := h
    exact ⟨id, rfl, rfl, hs, hk⟩
  · cases h

/-- An included format was given out by the registry. -/
theorem offers_of_mem_entriesAfter (hr : r.WellFormed) : ∀ {done specs : List RuleSpec},
    .inclusion sub ∈ r.entriesAfter done specs → r.Offers sub
  | _, [], h => by cases h
  | done, spec :: specs, h => by
    rw [entriesAfter, List.mem_append, Option.mem_toList] at h
    rcases h with h | h
    · obtain ⟨id, -, rfl, -⟩ := contribution?_eq_inclusion h
      exact offers_getFormat hr id
    · exact offers_of_mem_entriesAfter hr h

theorem Includes.offers (hr : r.WellFormed) (h : r.Includes f sub) : r.Offers sub :=
  offers_of_mem_entriesAfter hr h

/-! ### Steps taken apart -/

@[simp] theorem get?_startingTable (key : RuleKey) : (startingTable f).get? key = none := rfl

@[simp] theorem has_startingTable (key : RuleKey) : (startingTable f).has key = false := rfl

theorem Steps.of_nil (h : Steps r R f [] t) : t = startingTable f := by
  generalize hl : ([] : List RuleSpec) = l at h
  cases h with
  | start => rfl
  | snoc h hs => simp at hl

theorem Steps.of_snoc (h : Steps r R f (done ++ [spec]) t') :
    ∃ t, Steps r R f done t ∧ Step r R f done t spec t' := by
  generalize hl : done ++ [spec] = l at h
  cases h with
  | start => simp at hl
  | snoc h hs =>
    obtain ⟨rfl, hspec⟩ := List.append_inj' hl rfl
    cases hspec
    exact ⟨_, h, hs⟩

theorem Steps.of_append : ∀ {rest : List RuleSpec} {t' : RuleTable},
    Steps r R f (done ++ rest) t' → ∃ t, Steps r R f done t := by
  intro rest
  induction rest using List.reverseRecOn with
  | nil =>
    intro t' h
    exact ⟨t', by simpa using h⟩
  | append_singleton rest spec ih =>
    intro t' h
    rw [← List.append_assoc] at h
    obtain ⟨t, h, -⟩ := h.of_snoc
    exact ih h

theorem Step.mono
    (hR : ∀ sub u, r.contribution? done spec = some (.inclusion sub) → R sub u → R' sub u)
    (h : Step r R f done t spec t') : Step r R' f done t spec t' := by
  cases h with
  | included id hs hk hu ht' =>
    exact .included id hs hk (hR _ _ (contribution?_of_included hs hk) hu) ht'
  | teamBan c => exact .teamBan c
  | complexBan c => exact .complexBan c
  | ban target => exact .ban target
  | unban target => exact .unban target
  | suppress id => exact .suppress id
  | passed id hs => exact .passed id hs
  | missing id hs hk => exact .missing id hs hk

/-- Only the tables of what is included matter. -/
theorem Steps.mono_of_mem (h : Steps r R f specs t)
    (hR : ∀ sub u, .inclusion sub ∈ r.entriesAfter [] specs → R sub u → R' sub u) :
    Steps r R' f specs t := by
  induction h with
  | start => exact .start
  | snoc h hs ih =>
    rw [entriesAfter_snoc] at hR
    refine (ih fun sub u hsub => hR sub u (List.mem_append_left _ hsub)).snoc (hs.mono ?_)
    exact fun sub u hc => hR sub u (List.mem_append_right _ (Option.mem_toList.mpr hc))

theorem Steps.mono (hR : ∀ sub u, R sub u → R' sub u) (h : Steps r R f specs t) :
    Steps r R' f specs t :=
  h.mono_of_mem fun sub u _ => hR sub u

theorem Step.unique (hR : ∀ sub u u', R sub u → R sub u' → u = u')
    (h₁ : Step r R f done t spec t₁) (h₂ : Step r R f done t spec t₂) : t₁ = t₂ := by
  cases h₁ with
  | included id hs hk hu ht₁ =>
    cases h₂ with
    | included _ _ _ hu' ht₂ =>
      rw [hR _ _ _ hu hu', ht₂] at ht₁
      exact (Except.ok.inj ht₁).symm
    | passed _ hs' => exact absurd hs' hs
    | missing _ _ hk' => exact absurd hk (by simp [hk'])
  | passed id hs =>
    cases h₂ with
    | passed => rfl
    | missing _ hs' _ => exact absurd hs hs'
    | included _ hs' _ _ _ => exact absurd hs hs'
  | missing id hs hk =>
    cases h₂ with
    | missing => rfl
    | passed _ hs' => exact absurd hs' hs
    | included _ _ hk' _ _ => exact absurd hk' (by simp [hk])
  | teamBan c => cases h₂; rfl
  | complexBan c => cases h₂; rfl
  | ban target => cases h₂; rfl
  | unban target => cases h₂; rfl
  | suppress id => cases h₂; rfl

theorem Steps.unique (hR : ∀ sub u u', R sub u → R sub u' → u = u')
    (h₁ : Steps r R f specs t₁) (h₂ : Steps r R f specs t₂) : t₁ = t₂ := by
  induction h₁ generalizing t₂ with
  | start => exact h₂.of_nil.symm
  | snoc h hs ih =>
    obtain ⟨t, h', hs'⟩ := h₂.of_snoc
    cases ih h'
    exact hs.unique hR hs'

/-- What a step includes has a table that it inherits from. -/
theorem Step.exists_inherited (h : Step r R f done t spec t')
    (hc : r.contribution? done spec = some (.inclusion sub)) :
    ∃ u, R sub u ∧ (t.referTo sub.id).inheritFrom u sub.name f.name = .ok t' := by
  cases h with
  | included id hs hk hu ht' =>
    rw [contribution?_of_included hs hk] at hc
    cases hc
    exact ⟨_, hu, ht'⟩
  | passed id hs => simp [contribution?_of_passed hs] at hc
  | missing id hs hk => simp [contribution?_of_missing hk] at hc
  | _ => simp [contribution?] at hc

/-- Every included format has a table. -/
theorem Steps.exists_table (h : Steps r R f specs t)
    (hsub : .inclusion sub ∈ r.entriesAfter [] specs) : ∃ u, R sub u := by
  induction h with
  | start => cases hsub
  | snoc h hs ih =>
    rw [entriesAfter_snoc, List.mem_append, Option.mem_toList] at hsub
    rcases hsub with hsub | hsub
    · exact ih hsub
    · obtain ⟨u, hu, -⟩ := hs.exists_inherited hsub
      exact ⟨u, hu⟩

/-! ### Tables -/

theorem Built.mono (hR : ∀ sub u, R sub u → R' sub u) (h : Built r R f t) : Built r R' f t :=
  ⟨h.readable, h.steps.mono hR⟩

/-- A working rule has its step on the way to a table. -/
theorem Built.exists_step {before after : List String} {rule : String} (h : Built r R f t)
    (hl : f.workingRules = before ++ rule :: after)
    (hp : RuleSpec.parse r (some f) rule = .ok spec) :
    ∃ t₁ t₂, Steps r R f (r.specsOf f before) t₁ ∧ Step r R f (r.specsOf f before) t₁ spec t₂ := by
  have hall := h.steps
  rw [ownRules, hl, List.append_cons, specsOf_append, specsOf_append, specsOf_singleton hp] at hall
  obtain ⟨t₂, hnext⟩ := hall.of_append
  obtain ⟨t₁, hsteps, hstep⟩ := hnext.of_snoc
  exact ⟨t₁, t₂, hsteps, hstep⟩

theorem TableWithin.succ : ∀ {n : Nat} {f : Format} {t : RuleTable},
    TableWithin r n f t → TableWithin r (n + 1) f t
  | 0, _, _, h => Built.mono (fun _ _ => False.elim) h
  | _ + 1, _, _, h => Built.mono (fun _ _ => TableWithin.succ) h

theorem TableWithin.mono (hnm : n ≤ m) (h : TableWithin r n f t) : TableWithin r m f t := by
  induction hnm with
  | refl => exact h
  | step _ ih => exact ih.succ

theorem TableWithin.unique (h₁ : TableWithin r n f t₁) (h₂ : TableWithin r n f t₂) : t₁ = t₂ := by
  induction n generalizing f t₁ t₂ with
  | zero => exact Steps.unique (fun _ _ _ => False.elim) h₁.steps h₂.steps
  | succ n ih =>
    have hR : ∀ sub u u', TableWithin r n sub u → TableWithin r n sub u' → u = u' :=
      fun _ _ _ => ih
    exact Steps.unique hR h₁.steps h₂.steps

theorem TableOf.unique (h₁ : TableOf r f t₁) (h₂ : TableOf r f t₂) : t₁ = t₂ := by
  obtain ⟨n, h₁⟩ := h₁
  obtain ⟨m, h₂⟩ := h₂
  exact (h₁.mono (Nat.le_max_left n m)).unique (h₂.mono (Nat.le_max_right n m))

theorem TableOf.built (h : TableOf r f t) : Built r (TableOf r) f t := by
  obtain ⟨n, h⟩ := h
  cases n with
  | zero => exact Built.mono (fun _ _ => False.elim) h
  | succ n => exact Built.mono (fun _ _ hu => ⟨n, hu⟩) h

/-- As many levels suffice for all included formats as for the deepest of them. -/
theorem Steps.exists_within (h : Steps r (TableOf r) f specs t) :
    ∃ n, Steps r (TableWithin r n) f specs t := by
  induction h with
  | start => exact ⟨0, .start⟩
  | snoc h hs ih =>
    obtain ⟨n, ih⟩ := ih
    cases hs with
    | included id hs hk hu ht' =>
      obtain ⟨m, hu⟩ := hu
      refine ⟨max n m, (ih.mono fun _ _ => TableWithin.mono (Nat.le_max_left n m)).snoc ?_⟩
      exact .included id hs hk (hu.mono (Nat.le_max_right n m)) ht'
    | teamBan c => exact ⟨n, ih.snoc (.teamBan c)⟩
    | complexBan c => exact ⟨n, ih.snoc (.complexBan c)⟩
    | ban target => exact ⟨n, ih.snoc (.ban target)⟩
    | unban target => exact ⟨n, ih.snoc (.unban target)⟩
    | suppress id => exact ⟨n, ih.snoc (.suppress id)⟩
    | passed id hs => exact ⟨n, ih.snoc (.passed id hs)⟩
    | missing id hs hk => exact ⟨n, ih.snoc (.missing id hs hk)⟩

theorem Built.tableOf (h : Built r (TableOf r) f t) : TableOf r f t := by
  obtain ⟨n, hn⟩ := h.steps.exists_within
  exact ⟨n + 1, h.readable, hn⟩

/-- A format that does not exist says nothing. -/
theorem Offers.start_of_missing (hr : r.WellFormed) (hf : r.Offers f) (hk : f.isKnown = false) :
    r.ownRules f = [] ∧ startingTable f = .empty := by
  obtain ⟨hrules, hhook⟩ := hf.rules_of_missing hk hr
  constructor
  · rw [ownRules, hrules]
    rfl
  · rw [startingTable, hhook]
    rfl

theorem TableOf.of_missing (hr : r.WellFormed) (hf : r.Offers f) (hk : f.isKnown = false)
    (h : TableOf r f t) : t = .empty := by
  obtain ⟨hown, hstart⟩ := hf.start_of_missing hr hk
  have hs := h.built.steps
  rw [hown] at hs
  rw [hs.of_nil, hstart]

theorem tableOf_missing (hr : r.WellFormed) (hf : r.Offers f) (hk : f.isKnown = false) :
    TableOf r f .empty := by
  obtain ⟨hown, hstart⟩ := hf.start_of_missing hr hk
  refine ⟨0, by simp [(hf.rules_of_missing hk hr).1], ?_⟩
  rw [hown, ← hstart]
  exact .start

theorem includes_of_missing (hr : r.WellFormed) (hf : r.Offers f) (hk : f.isKnown = false) :
    ¬ r.Includes f sub := by
  unfold Includes entries
  rw [(hf.start_of_missing hr hk).1]
  exact List.not_mem_nil

/-! ### What holds after all steps -/

theorem Steps.regular (hR : ∀ sub u, R sub u → u.Regular) (h : Steps r R f specs t) :
    t.Regular := by
  induction h with
  | start =>
    intro key h
    cases h
  | snoc h hs ih =>
    cases hs with
    | included id hs hk hu ht' =>
      intro key hkey
      rw [RuleTable.has_of_rules_eq (RuleTable.inheritFrom_ok ht').1] at hkey
      exact ih.referTo.inheritKeys (hR _ _ hu) key hkey
    | suppress id =>
      refine ih.set fun k hk => ?_
      cases hk
      exact ⟨id, rfl⟩
    | ban target => exact ih.set fun k hk => by cases hk
    | unban target => exact ih.erase.set fun k hk => by cases hk
    | missing id hs hk => exact ih.referTo
    | teamBan c => exact ih
    | complexBan c => exact ih
    | passed id hs => exact ih

theorem TableOf.regular (h : TableOf r f t) : t.Regular := by
  obtain ⟨n, h⟩ := h
  induction n generalizing f t with
  | zero => exact h.steps.regular fun _ _ => False.elim
  | succ n ih => exact h.steps.regular fun _ _ => ih

/-- **What a table declares to be suppressed is what the rules so far suppress.** -/
theorem Steps.suppressed_iff (hr : r.WellFormed) (h : Steps r R f specs t) (x : String) :
    t.get? (.suppression (.rule x)) = some "" ↔ .suppress x ∈ specs := by
  induction h with
  | start => simp
  | snoc h hs ih =>
    rw [List.mem_append, List.mem_singleton, ← ih]
    cases hs with
    | included id hs hk hu ht' =>
      have hname := (offers_getFormat hr id).name_ne hr hk
      rw [RuleTable.get?_of_rules_eq (RuleTable.inheritFrom_ok ht').1,
        RuleTable.inheritKeys_own hname, RuleTable.get?_referTo]
      by_cases hx : (r.getFormat id).id = x
      · subst hx
        simp [ih, hs]
      · simp [Ne.symm hx]
    | missing id hs hk =>
      rw [RuleTable.get?_referTo]
      by_cases hx : (r.getFormat id).id = x
      · subst hx
        simp [ih, hs]
      · simp [Ne.symm hx]
    | suppress id =>
      rw [RuleTable.get?_set]
      by_cases hx : x = id <;> simp [hx]
    | ban target => simp [RuleTable.get?_set]
    | unban target => simp [RuleTable.get?_set, RuleTable.get?_erase]
    | teamBan c => simp [RuleTable.addTeamBan, RuleTable.get?]
    | complexBan c => simp [RuleTable.addComplexBan, RuleTable.get?]
    | passed id hs => simp

end FormatRegistry

end TeamLegality
