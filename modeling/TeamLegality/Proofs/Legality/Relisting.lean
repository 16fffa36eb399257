import TeamLegality.Proofs.Legality.Teams
import TeamLegality.Proofs.Resolution.Relisting

/-!
# Relisting — legality under more bans and under more unbans

A set that nothing is found against is found nothing against under a laxer table (`Clean.under`):
no check is skipped on account of an unban, and none finds more because another finds less.  The
same goes for teams.  So one more ban in a format leaves no set and no team without a problem that
had one, and one more unban gives none a problem that had none (`legality_of_relisting`).

A legality check is handed the whole format, ban lists included.  One that reads them may take back
a complaint on account of a ban, so the theorem asks that it does not (`MoveCheck.IgnoresBansOf`),
and fails without that condition (`legality_not_antitone`).
-/

namespace TeamLegality

/-! ### Checks under a laxer table -/

namespace RuleTable.Laxer

variable {t t' : RuleTable}

theorem has_ban_eq_false (h : t.Laxer t') {target : Target} (hban : t'.has (.ban target) = false) :
    t.has (.ban target) = false := by
  rw [← Bool.not_eq_true] at hban ⊢
  exact fun hhas => hban (h.ban target hhas)

/-- An unban that goes shields nothing any more, and one that stays shields what it did. -/
theorem firstReason_eq_empty (h : t.Laxer t') : ∀ {targets : List Target},
    t'.firstReason targets = "" → t.firstReason targets = ""
  | [], _ => rfl
  | target :: rest, hnone => by
    have hfree' : t'.banReason target = "" := by
      by_contra hne
      rw [firstReason, if_pos hne] at hnone
      exact hne hnone
    have hfree : t.banReason target = "" :=
      banReason_eq_empty_iff.mpr (h.has_ban_eq_false (banReason_eq_empty_iff.mp hfree'))
    rw [firstReason, if_neg (not_not_intro hfree')] at hnone
    rw [firstReason, if_neg (not_not_intro hfree)]
    split_ifs with hunban
    · rfl
    · rw [if_neg fun hunban' => hunban (h.unban target hunban')] at hnone
      exact h.firstReason_eq_empty hnone

end RuleTable.Laxer

/-- A legality check that does not look at the ban lists of a format. -/
def MoveCheck.IgnoresBansOf (check : MoveCheck) (f : Format) : Prop :=
  ∀ move set bans unbans dex, check move set (f.relist bans unbans) dex = check move set f dex

namespace SetContext

variable {c : SetContext} {t : RuleTable} {bans unbans : List String} {hook : Option MoveCheck}

/-- The same set under another table, of the same format with other ban lists. -/
def under (c : SetContext) (t : RuleTable) (bans unbans : List String) : SetContext :=
  { c with table := t, format := c.format.relist bans unbans }

theorem has_under (ht : t.Laxer c.table) (key : RuleKey) (hkey : ∃ id, key = .rule id) :
    (c.under t bans unbans).table.has key = c.table.has key := by
  obtain ⟨id, rfl⟩ := hkey
  exact ht.rule id

theorem admitsNonstandard_under (ht : t.Laxer c.table) :
    (c.under t bans unbans).admitsNonstandard = c.admitsNonstandard :=
  has_under ht _ ⟨_, rfl⟩

theorem speciesProblems_under (ht : t.Laxer c.table) (h : c.speciesProblems = []) :
    (c.under t bans unbans).speciesProblems = [] := by
  rw [speciesProblems_eq_nil_iff] at h ⊢
  rw [admitsNonstandard_under ht]
  obtain ⟨hreason, hillegal, hunreleased, hnonstandard⟩ := h
  exact ⟨ht.firstReason_eq_empty hreason, fun htier => ht.has_ban_eq_false (hillegal htier),
    fun htier => ht.has_ban_eq_false (hunreleased htier), hnonstandard⟩

theorem itemProblems_under (ht : t.Laxer c.table) (h : c.itemProblems = []) :
    (c.under t bans unbans).itemProblems = [] := by
  rw [itemProblems_eq_nil_iff] at h ⊢
  rcases h with h | ⟨hgen, item, hfound, hproblems⟩
  · exact .inl h
  · refine .inr ⟨hgen, item, hfound, ?_⟩
    rw [foundItemProblems_eq_nil_iff] at hproblems ⊢
    rw [admitsNonstandard_under ht]
    exact ⟨ht.has_ban_eq_false hproblems.1, hproblems.2⟩

theorem foundAbilityProblems_under (ht : t.Laxer c.table) {ability : Ability}
    (h : c.foundAbilityProblems ability = []) :
    (c.under t bans unbans).foundAbilityProblems ability = [] := by
  rw [foundAbilityProblems_eq_nil_iff] at h ⊢
  rw [admitsNonstandard_under ht]
  obtain ⟨hban, hclauses, hnonstandard, hown, hbond, hhidden⟩ := h
  refine ⟨ht.has_ban_eq_false hban, ?_, hnonstandard, hown, hbond, fun hne hid => ?_⟩
  · rw [abilityClauseProblems_eq_nil_iff] at hclauses ⊢
    have hrules : ∀ clause ∈ Clause.abilityClauses, ∃ id, clause.rule = .rule id := by
      simp [Clause.abilityClauses]
    intro clause hclause hhas
    rw [has_under ht clause.rule (hrules clause hclause)] at hhas
    exact hclauses clause hclause hhas
  · have hnone := hhidden hne hid
    rw [hiddenAbilityProblems_eq_nil_iff] at hnone ⊢
    exact ⟨fun hspecies => ht.has_ban_eq_false (hnone.1 hspecies), hnone.2⟩

theorem abilityProblems_under (ht : t.Laxer c.table) (h : c.abilityProblems = []) :
    (c.under t bans unbans).abilityProblems = [] := by
  rw [abilityProblems_eq_nil_iff] at h ⊢
  refine ⟨h.1, fun hgen => ?_⟩
  obtain ⟨ability, hgiven, hfound, hproblems⟩ := h.2 hgen
  exact ⟨ability, hgiven, hfound, foundAbilityProblems_under ht hproblems⟩

theorem levelProblems_under (ht : t.Laxer c.table) :
    (c.under t bans unbans).levelProblems = c.levelProblems := by
  unfold levelProblems
  rw [has_under ht Clause.littleCup ⟨_, rfl⟩]
  rfl

theorem hookProblems_under
    (hhook : ∀ check, hook = some check → MoveCheck.IgnoresBansOf check c.format) (move : Move) :
    (c.under t bans unbans).hookProblems hook move = c.hookProblems hook move := by
  unfold hookProblems
  cases hook with
  | none => rfl
  | some check =>
    have hsame : check move c.set (c.format.relist bans unbans) c.dex
        = check move c.set c.format c.dex := hhook check rfl move c.set bans unbans c.dex
    simp only [under, Option.bind_some, hsame]

theorem moveRuleProblems_under (ht : t.Laxer c.table) {move : Move}
    (h : c.moveRuleProblems move = []) : (c.under t bans unbans).moveRuleProblems move = [] := by
  rw [moveRuleProblems_eq_nil_iff] at h ⊢
  rw [admitsNonstandard_under ht]
  obtain ⟨hnonstandard, hban, hohko, hclauses⟩ := h
  have hrules : ∀ clause ∈ Clause.moveClauses, ∃ id, clause.rule = .rule id := by
    simp [Clause.moveClauses]
  refine ⟨hnonstandard, ht.has_ban_eq_false hban, fun hhas => ?_, fun clause hclause hhas => ?_⟩
  · rw [has_under ht Clause.ohko ⟨_, rfl⟩] at hhas
    exact hohko hhas
  · rw [has_under ht clause.rule (hrules clause hclause)] at hhas
    exact hclauses clause hclause hhas

theorem moveProblems_under (ht : t.Laxer c.table)
    (hhook : ∀ check, hook = some check → MoveCheck.IgnoresBansOf check c.format)
    (h : c.moveProblems hook = []) : (c.under t bans unbans).moveProblems hook = [] := by
  rw [moveProblems_eq_nil_iff] at h ⊢
  obtain ⟨hsome, hcount, heach, htrap, hpass⟩ := h
  refine ⟨hsome, hcount, ?_, htrap, fun hhas => ?_⟩
  · rw [eachMoveProblems_eq_nil_iff] at heach ⊢
    obtain ⟨moves, hfound, hnodup, hnew, hmoves⟩ := heach
    refine ⟨moves, hfound, hnodup, hnew, fun move hmove => ?_⟩
    rw [hookProblems_under hhook]
    exact ⟨(hmoves move hmove).1, moveRuleProblems_under ht (hmoves move hmove).2⟩
  · rw [has_under ht Clause.batonPass ⟨_, rfl⟩] at hhas
    exact hpass hhas

theorem complexBanProblems_under (ht : t.Laxer c.table) :
    (c.under t bans unbans).complexBanProblems = c.complexBanProblems := by
  unfold complexBanProblems
  rw [show (c.under t bans unbans).table.complexBans = c.table.complexBans from ht.complexBans]
  rfl

theorem natureProblems_under :
    (c.under t bans unbans).natureProblems = c.natureProblems := by
  have hset : (c.under t bans unbans).set = c.set := rfl
  have hgen : (c.under t bans unbans).gen = c.gen := rfl
  have hname : (c.under t bans unbans).name = c.name := rfl
  unfold natureProblems genText
  simp only [hset, hgen, hname]

/-- **Nothing is found against a set under a laxer table** if nothing was found before. -/
theorem Clean.under (h : c.Clean hook) (ht : t.Laxer c.table)
    (hhook : ∀ check, hook = some check → MoveCheck.IgnoresBansOf check c.format) :
    (c.under t bans unbans).Clean hook where
  species := speciesProblems_under ht h.species
  item := itemProblems_under ht h.item
  ability := abilityProblems_under ht h.ability
  level := (levelProblems_under ht).trans h.level
  gender := h.gender
  ivs := h.ivs
  evs := h.evs
  nature := natureProblems_under.trans h.nature
  moves := moveProblems_under ht hhook h.moves
  hiddenPower := h.hiddenPower
  forme := h.forme
  combinations := (complexBanProblems_under ht).trans h.combinations

end SetContext

/-! ### Reports and teams under a laxer table -/

namespace Validator

/-- A validator puts the same questions to sets of a format as another one, of a laxer table. -/
structure Laxer (v : Validator) (f : Format) (t : RuleTable) (w : Validator) (g : Format)
    (u : RuleTable) : Prop where
  hooks : v.hooks = w.hooks
  config : v.config = w.config
  dex : v.registry.dexFor f = w.registry.dexFor g
  format : ∃ bans unbans, f = g.relist bans unbans
  table : t.Laxer u
  blind : ∀ check, w.hookFor u = .ok (some check) → MoveCheck.IgnoresBansOf check g

namespace Laxer

variable {v w : Validator} {f g : Format} {t u : RuleTable} {s s' : Session} {set : PokemonSet}
  {sets : List PokemonSet} {report : SetReport}

theorem hookFor_eq (h : Laxer v f t w g u) : v.hookFor t = w.hookFor u := by
  unfold hookFor
  rw [h.table.hook, h.hooks]

theorem exists_context?_eq (h : Laxer v f t w g u) : ∃ bans unbans, ∀ set : PokemonSet,
    v.context? f t set = (w.context? g u set).map fun c => c.under t bans unbans := by
  obtain ⟨bans, unbans, hf⟩ := h.format
  refine ⟨bans, unbans, fun set => ?_⟩
  unfold context?
  rw [h.dex, h.config, hf]
  dsimp only
  cases (w.registry.dexFor g).findSpecies? set.species <;> rfl

/-- A report without problems stays the same under a laxer table. -/
theorem report_of_clean (h : Laxer v f t w g u) (hreport : w.report g u set = .ok report)
    (hnone : report.problems = []) : v.report f t set = .ok report := by
  obtain ⟨hook, c, hhook, hc, hclean, -, -⟩ :=
    report_clean_iff.mp ⟨report, hreport, hnone, rfl, rfl⟩
  obtain ⟨bans, unbans, hcontext⟩ := h.exists_context?_eq
  have hc' : v.context? f t set = some (c.under t bans unbans) := by
    rw [hcontext, hc, Option.map_some]
  obtain ⟨species, -, rfl⟩ := context?_eq_some_iff.mp hc
  have hclean' : (SetContext.under _ t bans unbans).Clean hook :=
    hclean.under h.table fun check hcheck => h.blind check (hcheck ▸ hhook)
  rw [report_of_known hhook hc, SetContext.problems_eq_nil_iff.mpr hclean] at hreport
  rw [report_of_known (h.hookFor_eq.trans hhook) hc', SetContext.problems_eq_nil_iff.mpr hclean',
    ← hreport]
  rfl

/-- Whether there is a report does not depend on bans. -/
theorem exists_report (h : Laxer v f t w g u) (hreport : v.report f t set = .ok report) :
    ∃ report', w.report g u set = .ok report' := by
  cases hhook : w.hookFor u with
  | error failure =>
    rw [report_of_unregistered (h.hookFor_eq.trans hhook)] at hreport
    cases hreport
  | ok hook =>
    obtain ⟨bans, unbans, hcontext⟩ := h.exists_context?_eq
    have hc' := hcontext set
    cases hc : w.context? g u set with
    | none =>
      obtain ⟨problem, hreport'⟩ := report_of_unknown hhook hc
      exact ⟨_, hreport'⟩
    | some c =>
      rw [hc, Option.map_some] at hc'
      rw [report_of_known (h.hookFor_eq.trans hhook) hc', SetContext.problems_eq,
        show (c.under t bans unbans).genderProblems = c.genderProblems from rfl] at hreport
      rw [report_of_known hhook hc, SetContext.problems_eq]
      cases hgender : c.genderProblems with
      | error cause =>
        rw [hgender] at hreport
        cases hreport
      | ok gender => exact ⟨_, rfl⟩

/-- A team that is legal is legal under a laxer table. -/
theorem legal (h : Laxer v f t w g u) {checked : List CheckedSet}
    (hlegal : TeamCheck.Legal w.config g u checked) : TeamCheck.Legal v.config f t checked where
  size := h.config ▸ hlegal.size
  each := hlegal.each
  nicknames hclause := hlegal.nicknames (h.table.rule _ ▸ hclause)
  species hclause := hlegal.species (h.table.rule _ ▸ hclause)
  formes := hlegal.formes
  batonPass hclause := hlegal.batonPass (h.table.rule _ ▸ hclause)
  weather := by
    obtain ⟨bans, unbans, rfl⟩ := h.format
    exact hlegal.weather
  combinations c hc := hlegal.combinations c (h.table.teamBans ▸ hc)

section Outcomes

variable (h : Laxer v f t w g u) (hf : f.isKnown = true) (hg : g.isKnown = true)
  (ht : v.registry.outcome 0 f s = .ok t) (hu : w.registry.outcome 0 g s' = .ok u)

include h hf hg ht hu

theorem setOutcome_of_clean (hreport : w.setOutcome g set s' = .ok report)
    (hnone : report.problems = []) : v.setOutcome f set s = .ok report := by
  rw [setOutcome_eq hg hu] at hreport
  rw [setOutcome_eq hf ht]
  exact h.report_of_clean hreport hnone

theorem exists_setOutcome_of_problem (hreport : v.setOutcome f set s = .ok report)
    (hsome : report.problems ≠ []) :
    ∃ report', w.setOutcome g set s' = .ok report' ∧ report'.problems ≠ [] := by
  rw [setOutcome_eq hf ht] at hreport
  rw [setOutcome_eq hg hu]
  obtain ⟨report', hreport'⟩ := h.exists_report hreport
  refine ⟨report', hreport', fun hnone => hsome ?_⟩
  have hsame := h.report_of_clean hreport' hnone
  rw [hreport, Except.ok.injEq] at hsame
  rw [hsame, hnone]

theorem teamOutcome_of_clean (hnone : w.teamOutcome g sets s' = .ok []) :
    v.teamOutcome f sets s = .ok [] := by
  obtain ⟨checked, hsets, hreports, hlegal⟩ := (teamOutcome_eq_nil_iff hg hu).mp hnone
  refine (teamOutcome_eq_nil_iff hf ht).mpr ⟨checked, hsets, fun x hx => ?_, h.legal hlegal⟩
  exact h.report_of_clean (hreports x hx) (hlegal.each x hx)

theorem exists_teamOutcome_of_problem {problems : List String}
    (hproblems : v.teamOutcome f sets s = .ok problems) (hsome : problems ≠ []) :
    ∃ problems', w.teamOutcome g sets s' = .ok problems' ∧ problems' ≠ [] := by
  have hreports := (exists_teamOutcome_iff hf ht).mp ⟨problems, hproblems⟩
  obtain ⟨problems', hproblems'⟩ := (exists_teamOutcome_iff hg hu).mpr fun set hset =>
    (hreports set hset).elim fun _ hreport => h.exists_report hreport
  refine ⟨problems', hproblems', ?_⟩
  rintro rfl
  have hclean := teamOutcome_of_clean h hf hg ht hu hproblems'
  rw [hproblems, Except.ok.injEq] at hclean
  exact hsome hclean

end Outcomes

end Laxer

/-! ### One more ban or unban -/

/-- The same validator with other ban lists for a format. -/
def relist (v : Validator) (f : Format) (bans unbans : List String) : Validator :=
  { v with registry := v.registry.relist f bans unbans }

/-- A set has a problem in a format, after some calls. -/
def SetFails (v : Validator) (f : Format) (set : PokemonSet) (calls : List FormatRegistry.Call) :
    Prop :=
  ∃ report, v.setOutcome f set (v.registry.after calls) = .ok report ∧ report.problems ≠ []

/-- A set has no problem in a format, after some calls. -/
def SetPasses (v : Validator) (f : Format) (set : PokemonSet) (calls : List FormatRegistry.Call) :
    Prop :=
  ∃ report, v.setOutcome f set (v.registry.after calls) = .ok report ∧ report.problems = []

theorem SetPasses.not_setFails {v : Validator} {f : Format} {set : PokemonSet}
    {calls : List FormatRegistry.Call} (h : v.SetPasses f set calls) : ¬ v.SetFails f set calls := by
  obtain ⟨report, hreport, hnone⟩ := h
  rintro ⟨report', hreport', hsome⟩
  obtain rfl : report = report' := Except.ok.inj (hreport.symm.trans hreport')
  exact hsome hnone

/-- A team has a problem in a format, after some calls. -/
def TeamFails (v : Validator) (f : Format) (sets : List PokemonSet)
    (calls : List FormatRegistry.Call) : Prop :=
  ∃ problems, v.teamOutcome f sets (v.registry.after calls) = .ok problems ∧ problems ≠ []

/-- A team has no problem in a format, after some calls. -/
def TeamPasses (v : Validator) (f : Format) (sets : List PokemonSet)
    (calls : List FormatRegistry.Call) : Prop :=
  v.teamOutcome f sets (v.registry.after calls) = .ok []

variable {v : Validator} {f : Format} {t u : RuleTable} {text : String} {target : Target}

/-- A stricter table of a relisted format leaves the format with the laxer one. -/
theorem laxer_relist (bans unbans : List String)
    (hblind : ∀ check, v.hookFor t = .ok (some check) → MoveCheck.IgnoresBansOf check f)
    (h : t.Laxer u) :
    Laxer v f t (v.relist f bans unbans) (f.relist bans unbans) u where
  hooks := rfl
  config := rfl
  dex := rfl
  format := ⟨f.banlist, f.unbanlist, rfl⟩
  table := h
  blind check hcheck := by
    have hsame : v.hookFor t = (v.relist f bans unbans).hookFor u := by
      unfold hookFor
      rw [h.hook]
      rfl
    have hignores := hblind check (hsame.trans hcheck)
    intro move set bans' unbans' dex
    exact (hignores move set bans' unbans' dex).trans (hignores move set bans unbans dex).symm

/-- A laxer table of a relisted format leaves the format with the stricter one. -/
theorem relist_laxer (bans unbans : List String)
    (hblind : ∀ check, v.hookFor t = .ok (some check) → MoveCheck.IgnoresBansOf check f)
    (h : u.Laxer t) :
    Laxer (v.relist f bans unbans) (f.relist bans unbans) u v f t where
  hooks := rfl
  config := rfl
  dex := rfl
  format := ⟨bans, unbans, rfl⟩
  table := h
  blind := hblind

/-- **Bans only ever add to what fails, and unbans to what passes.**  A registered format resolves,
its legality check does not look at ban lists, and a text names a single target for it to ban.  Then
each set and each team with a problem also has one after the text is added anywhere to the bans of
the format, and each without a problem has none after the text is added anywhere to its unbans,
whatever was asked of the registries before. -/
theorem legality_of_relisting {config : Config} {dexes : DexCollection} {aliases : Json}
    {entries : List FormatEntry}
    (hbuild : FormatRegistry.build config dexes aliases entries = .ok v.registry)
    (hf : v.registry.formats.get? f.id = some f) (ht : v.registry.outcome 0 f .fresh = .ok t)
    (hblind : ∀ check, v.hookFor t = .ok (some check) → MoveCheck.IgnoresBansOf check f)
    (hp : RuleSpec.parse v.registry (some f) ("-" ++ text) = .ok (.ban target))
    (calls calls' : List FormatRegistry.Call) :
    (∀ bans, FormatRegistry.Inserts text f.banlist bans →
      (∀ set, v.SetFails f set calls →
        (v.relist f bans f.unbanlist).SetFails (f.relist bans f.unbanlist) set calls')
      ∧ ∀ sets, v.TeamFails f sets calls →
        (v.relist f bans f.unbanlist).TeamFails (f.relist bans f.unbanlist) sets calls')
    ∧ ∀ unbans, FormatRegistry.Inserts text f.unbanlist unbans →
      (∀ set, v.SetPasses f set calls →
        (v.relist f f.banlist unbans).SetPasses (f.relist f.banlist unbans) set calls')
      ∧ ∀ sets, v.TeamPasses f sets calls →
        (v.relist f f.banlist unbans).TeamPasses (f.relist f.banlist unbans) sets calls' := by
  have hr := FormatRegistry.wellFormed_of_build hbuild
  have hk := (hr f.id f hf).known
  have ht' := FormatRegistry.outcome_of_fresh hr (.registered hr hf) calls ht
  constructor
  · intro bans hbans
    obtain ⟨u, hu, htable⟩ := FormatRegistry.exists_outcome_of_ban hr hf hbans hp ht
    have hu' := FormatRegistry.outcome_relist_of_fresh hr hf calls' hu
    have hlaxer := laxer_relist bans f.unbanlist hblind htable
    constructor
    · rintro set ⟨report, hreport, hsome⟩
      exact hlaxer.exists_setOutcome_of_problem hk hk ht' hu' hreport hsome
    · rintro sets ⟨problems, hproblems, hsome⟩
      exact hlaxer.exists_teamOutcome_of_problem hk hk ht' hu' hproblems hsome
  · intro unbans hunbans
    obtain ⟨u, hu, htable⟩ := FormatRegistry.exists_outcome_of_unban hr hf hunbans
      (RuleSpec.parse_unban_of_ban hp) ht
    have hu' := FormatRegistry.outcome_relist_of_fresh hr hf calls' hu
    have hlaxer := relist_laxer f.banlist unbans hblind htable
    constructor
    · rintro set ⟨report, hreport, hnone⟩
      exact ⟨report, hlaxer.setOutcome_of_clean hk hk hu' ht' hreport hnone, hnone⟩
    · intro sets hnone
      exact hlaxer.teamOutcome_of_clean hk hk hu' ht' hnone

/-- Two of a kind still fail when Surf is banned as well, and Snorlax still passes when Surf is
unbanned. -/
theorem legality_of_relisting_surf :
    (Sample.validator.relist Sample.cup ("Surf" :: Sample.cup.banlist)
      Sample.cup.unbanlist).TeamFails
        (Sample.cup.relist ("Surf" :: Sample.cup.banlist) Sample.cup.unbanlist)
        [Sample.pikachu, Sample.pikachu] [.resolve "cup" 0]
    ∧ (Sample.validator.relist Sample.cup Sample.cup.banlist
      ("Surf" :: Sample.cup.unbanlist)).SetPasses
        (Sample.cup.relist Sample.cup.banlist ("Surf" :: Sample.cup.unbanlist))
        Sample.snorlax [.resolve "cup" 0] := by
  have hcup : Sample.validator.registry.formats.get? Sample.cup.id = some Sample.cup := by
    decide +kernel
  have hblind : ∀ check, Sample.validator.hookFor Sample.table = .ok (some check) →
      MoveCheck.IgnoresBansOf check Sample.cup := by
    intro check hcheck
    rw [Sample.hookFor_eq] at hcheck
    cases hcheck
    exact fun _ _ _ _ _ => rfl
  have hsurf : RuleSpec.parse Sample.validator.registry (some Sample.cup) ("-" ++ "Surf")
      = .ok (.ban (.entry .move "surf")) := by decide +kernel
  have hfails : Sample.validator.TeamFails Sample.cup [Sample.pikachu, Sample.pikachu] [] := by
    obtain ⟨problems, hproblems, hlength⟩ := Sample.exists_of_length (n := 1)
      (x := Sample.validator.teamOutcome Sample.cup [Sample.pikachu, Sample.pikachu] .fresh)
      (by decide +kernel)
    refine ⟨problems, hproblems, ?_⟩
    rintro rfl
    cases hlength
  have hpasses : Sample.validator.SetPasses Sample.cup Sample.snorlax [] :=
    Sample.exists_clean (by decide +kernel)
  obtain ⟨hban, hunban⟩ := legality_of_relisting Sample.build_eq hcup Sample.outcome_eq hblind hsurf
    [] [.resolve "cup" 0]
  exact ⟨(hban _ ⟨[], Sample.cup.banlist, rfl, rfl⟩).2 _ hfails,
    (hunban _ ⟨[], Sample.cup.unbanlist, rfl, rfl⟩).1 _ hpasses⟩

namespace Sample

/-- A legality check that has something against Body Slam unless Surf is banned, and against Surf
where it is unbanned. -/
def listReader : MoveCheck := fun move _ f _ =>
  if move.id = "bodyslam" ∧ "Surf" ∉ f.banlist ∨ move.id = "surf" ∧ "Surf" ∈ f.unbanlist then
    some "It is not learned here."
  else none

/-- The formats of the small validator with that check. -/
def listed : Validator :=
  { validator with hooks := ⟨[("learned", listReader)], by decide⟩ }

/-- Snorlax with Body Slam alone. -/
def slammer : PokemonSet := pokemon "Snorlax" "Leftovers" "Immunity" ["Body Slam"]

end Sample

/-- The condition on the legality check is needed: where the check reads the ban lists, Snorlax
passes once Surf is banned and did not before, and Pikachu fails once Surf is unbanned. -/
theorem legality_not_antitone :
    FormatRegistry.build {} ⟨[("gen7", Sample.dex)], by decide⟩ .null
        (Sample.records.map .record) = .ok Sample.listed.registry
    ∧ Sample.listed.registry.formats.get? Sample.cup.id = some Sample.cup
    ∧ Sample.listed.registry.outcome 0 Sample.cup .fresh = .ok Sample.table
    ∧ RuleSpec.parse Sample.listed.registry (some Sample.cup) ("-" ++ "Surf")
        = .ok (.ban (.entry .move "surf"))
    ∧ Sample.listed.SetFails Sample.cup Sample.slammer []
    ∧ ¬ (Sample.listed.relist Sample.cup ("Surf" :: Sample.cup.banlist)
        Sample.cup.unbanlist).SetFails
          (Sample.cup.relist ("Surf" :: Sample.cup.banlist) Sample.cup.unbanlist)
          Sample.slammer []
    ∧ Sample.listed.SetPasses Sample.cup Sample.pikachu []
    ∧ ¬ (Sample.listed.relist Sample.cup Sample.cup.banlist
        ("Surf" :: Sample.cup.unbanlist)).SetPasses
          (Sample.cup.relist Sample.cup.banlist ("Surf" :: Sample.cup.unbanlist))
          Sample.pikachu [] := by
  have hfails : Sample.listed.SetFails Sample.cup Sample.slammer [] :=
    Sample.exists_problem (n := 0) (by decide +kernel)
  have hbanned : (Sample.listed.relist Sample.cup ("Surf" :: Sample.cup.banlist)
      Sample.cup.unbanlist).SetPasses
        (Sample.cup.relist ("Surf" :: Sample.cup.banlist) Sample.cup.unbanlist)
        Sample.slammer [] := Sample.exists_clean (by decide +kernel)
  have hpasses : Sample.listed.SetPasses Sample.cup Sample.pikachu [] :=
    Sample.exists_clean (by decide +kernel)
  have hunbanned : (Sample.listed.relist Sample.cup Sample.cup.banlist
      ("Surf" :: Sample.cup.unbanlist)).SetFails
        (Sample.cup.relist Sample.cup.banlist ("Surf" :: Sample.cup.unbanlist))
        Sample.pikachu [] := Sample.exists_problem (n := 0) (by decide +kernel)
  exact ⟨Sample.build_eq, by decide +kernel, Sample.outcome_eq, by decide +kernel, hfails,
    hbanned.not_setFails, hpasses, fun h => h.not_setFails hunbanned⟩

end Validator

end TeamLegality
