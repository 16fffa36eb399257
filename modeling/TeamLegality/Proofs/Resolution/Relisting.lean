import TeamLegality.Proofs.Format.Relisting
import TeamLegality.Proofs.Resolution.History
import TeamLegality.Proofs.RuleTable.Laxness

/-!
# Relisting — the table of a format with one more ban or unban

When a format is relisted, the formats that it reaches resolve as before: one that refers back to it
closes a cycle, whatever the lists say (`resolveWithin_tracks_relist`).  So the resolution of the
format itself goes as before up to the place where its lists differ, and nothing but bans and unbans
comes after that.  One more ban makes its table stricter (`exists_outcome_of_ban`), one more unban
makes it laxer (`exists_outcome_of_unban`).
-/

namespace TeamLegality

theorem SessionM.tracks_refl {α : Type} (x : SessionM α) : SessionM.Tracks Eq x x := by
  rintro s _ rfl a s' h
  exact ⟨s', h, rfl⟩

/-- Texts with the mark of a sign in front. -/
def RuleSpec.Sign.marked (sign : Sign) (texts : List String) : List String :=
  texts.map (sign.mark ++ ·)

/-- Whether a rule text has the mark of a sign in front. -/
def RuleSpec.IsMarked (rule : String) : Prop :=
  ∃ (sign : Sign) (text : String), rule = sign.mark ++ text

theorem RuleSpec.isMarked_of_mem_marked {sign : Sign} {texts : List String} {rule : String}
    (h : rule ∈ sign.marked texts) : IsMarked rule := by
  obtain ⟨text, -, rfl⟩ := List.mem_map.mp h
  exact ⟨sign, text, rfl⟩

/-- The working rules of a format without custom rules. -/
theorem Format.workingRules_of_bare {f : Format} (h : f.customRules = []) :
    f.workingRules = f.ruleset ++ RuleSpec.Sign.ban.marked f.banlist
      ++ RuleSpec.Sign.unban.marked f.unbanlist := by
  unfold workingRules
  rw [h]
  simp [RuleSpec.Sign.marked, RuleSpec.Sign.mark]

theorem Format.workingRules_relist {f : Format} (h : f.customRules = [])
    (bans unbans : List String) :
    (f.relist bans unbans).workingRules
      = f.ruleset ++ RuleSpec.Sign.ban.marked bans ++ RuleSpec.Sign.unban.marked unbans :=
  workingRules_of_bare (f := f.relist bans unbans) h

namespace FormatRegistry

open SessionM

variable {r : FormatRegistry} {f g : Format} {bans unbans stack rules : List String}
  {levels : Nat} {t u : RuleTable} {s s' : Session} {rule text : String} {spec : RuleSpec}
  {follow : Follow} {depth : Int} {target : Target}

/-! ### What the format reaches -/

/-- With `f` on the stack, a reference back to it is passed over, or else it closes a cycle. -/
theorem turnOfReference_relist (hr : r.WellFormed) (hf : r.formats.get? f.id = some f)
    (hstack : f.key ∈ stack) {id : String} (hid : '@' ∉ id.toList)
    (h : ∀ e, r.turnOfReference stack t id ≠ .failure e) :
    (r.relist f bans unbans).turnOfReference stack t id = r.turnOfReference stack t id := by
  have hget := @getFormat_relist r f bans unbans id hr hf hid
  by_cases hsub : r.getFormat id = f
  · have hknown : f.isKnown = true := (hr f.id f hf).known
    have hpass : t.get? (.suppression (.rule f.id)) = some "" := by
      by_contra hpass
      refine h (.of (.cyclicReference (stack ++ [f.key]))) ?_
      simp [turnOfReference, hsub, hpass, hknown, hstack]
    have hpass' : t.get? (.suppression (.rule (f.relist bans unbans).id)) = some "" := hpass
    rw [relisted, if_pos hsub] at hget
    simp [turnOfReference, hget, hsub, hpass, hpass']
  · rw [relisted, if_neg hsub] at hget
    simp only [turnOfReference, hget]

/-- With `f` on the stack, a rule that does not fail has the turn that it had before `f` was
relisted. -/
theorem turn_relist (hr : r.WellFormed) (hf : r.formats.get? f.id = some f)
    (hstack : f.key ∈ stack) (bans' unbans' : List String)
    (h : ∀ e, r.turn g stack t rule ≠ .failure e) :
    (r.relist f bans unbans).turn (g.relist bans' unbans') stack t rule
      = r.turn g stack t rule := by
  unfold turn at h ⊢
  rw [parse_relist hf]
  cases hp : RuleSpec.parse r (some g) rule with
  | error failure => rfl
  | ok spec =>
    rw [hp] at h
    cases spec with
    | rule id => exact turnOfReference_relist hr hf hstack (RuleSpec.atSign_notMem_of_parse hp) h
    | _ => rfl

/-- With `f` on the stack, a rule does what it did before `f` was relisted. -/
theorem applyRule_tracks_relist (hr : r.WellFormed) (hf : r.formats.get? f.id = some f)
    (hstack : f.key ∈ stack) {follow follow' : Follow}
    (hfollow : ∀ g g' rule sub, Tracks Eq (follow g rule sub stack) (follow' g' rule sub stack))
    (g : Format) (bans' unbans' : List String) (t : RuleTable) (rule : String) :
    Tracks Eq (r.applyRule follow g stack t rule)
      ((r.relist f bans unbans).applyRule follow' (g.relist bans' unbans') stack t rule) := by
  rw [applyRule_eq, applyRule_eq]
  cases hturn : r.turn g stack t rule with
  | failure e => exact tracks_throw e
  | table t' =>
    rw [turn_relist hr hf hstack bans' unbans' (by simp [hturn]), hturn]
    exact tracks_pure t'
  | inclusion sub =>
    rw [turn_relist hr hf hstack bans' unbans' (by simp [hturn]), hturn]
    exact tracks_bind (hfollow g _ rule sub) fun u => tracks_refl _

theorem resolveBy_tracks_relist (hr : r.WellFormed) (hf : r.formats.get? f.id = some f)
    (hstack : f.key ∈ stack) {follow follow' : Follow}
    (hfollow : ∀ g g' rule sub stack, f.key ∈ stack →
      Tracks Eq (follow g rule sub stack) (follow' g' rule sub stack)) (g : Format) :
    Tracks Eq (r.resolveBy follow g stack)
      ((r.relist f bans unbans).resolveBy follow' g stack) := by
  have hstack' : f.key ∈ stack ++ [g.key] := List.mem_append_left _ hstack
  have hbuild : Tracks Eq (r.buildTable follow g (stack ++ [g.key]))
      ((r.relist f bans unbans).buildTable follow' g (stack ++ [g.key])) :=
    tracks_foldlM (applyRule_tracks_relist hr hf hstack'
      (fun g g' rule sub => hfollow g g' rule sub _ hstack') g g.banlist g.unbanlist) _ _
  rintro s _ rfl t s' hrun
  rw [run_resolveBy] at hrun ⊢
  cases hc : s.cache.get? g.key with
  | some u =>
    rw [hc] at hrun
    exact ⟨s', hrun, rfl⟩
  | none =>
    rw [hc] at hrun
    rcases hb : (r.buildTable follow g (stack ++ [g.key])).run.run s with ⟨e | u, s₁⟩
    · rw [hb] at hrun
      cases hrun
    · rw [hb] at hrun
      obtain ⟨_, hb', rfl⟩ := hbuild s s rfl u s₁ hb
      dsimp only
      rw [hb']
      exact ⟨s', hrun, rfl⟩

/-- **What a format reaches resolves as before it was relisted.** -/
theorem resolveWithin_tracks_relist (hr : r.WellFormed) (hf : r.formats.get? f.id = some f) :
    ∀ (levels : Nat) (g : Format) (stack : List String), f.key ∈ stack →
      Tracks Eq (r.resolveWithin levels g stack)
        ((r.relist f bans unbans).resolveWithin levels g stack)
  | 0, g, stack, hstack => by
    rw [resolveWithin_eq, resolveWithin_eq]
    exact resolveBy_tracks_relist hr hf hstack (fun _ _ _ _ _ _ => tracks_throw _) g
  | levels + 1, g, stack, hstack => by
    rw [resolveWithin_eq, resolveWithin_eq]
    exact resolveBy_tracks_relist hr hf hstack
      (fun _ _ _ sub stack h => resolveWithin_tracks_relist hr hf levels sub stack h) g

theorem followWithin_tracks_relist (hr : r.WellFormed) (hf : r.formats.get? f.id = some f)
    (levels : Nat) (hstack : f.key ∈ stack) (g g' : Format) (rule : String) (sub : Format) :
    Tracks Eq (r.followWithin levels g rule sub stack)
      ((r.relist f bans unbans).followWithin levels g' rule sub stack) := by
  cases levels with
  | zero => exact tracks_throw _
  | succ levels => exact resolveWithin_tracks_relist hr hf levels sub stack hstack

/-! ### The format itself -/

theorem applyRule_of_signed (hp : RuleSpec.parse r (some f) rule = .ok spec)
    (hs : spec.IsSigned) : r.applyRule follow f stack t rule = pure (t.adopt spec) := by
  unfold applyRule
  rw [hp]
  cases spec with
  | rule id => cases hs
  | suppress id => cases hs
  | _ => rfl

/-- Bans and unbans are adopted one after the other, and nothing else happens. -/
theorem run_foldlM_signed : ∀ {rules : List String} {t : RuleTable},
    (∀ rule ∈ rules, RuleSpec.IsMarked rule) →
      ((rules.foldlM (r.applyRule follow f stack) t).run.run s = (.ok u, s') ↔
        (∀ rule ∈ rules, ∃ spec, RuleSpec.parse r (some f) rule = .ok spec)
          ∧ u = (r.specsOf f rules).foldl RuleTable.adopt t ∧ s' = s)
  | [], t, _ => by
    rw [List.foldlM_nil]
    constructor
    · intro h
      cases h
      exact ⟨by simp, rfl, rfl⟩
    · rintro ⟨-, rfl, rfl⟩
      rfl
  | rule :: rest, t, hmark => by
    obtain ⟨hfirst, hrest⟩ := List.forall_mem_cons.mp hmark
    rw [List.foldlM_cons]
    cases hp : RuleSpec.parse r (some f) rule with
    | error failure =>
      have hthrow : r.applyRule follow f stack t rule = throw failure := by
        unfold applyRule
        rw [hp]
      refine iff_of_false (fun h => ?_) fun h => ?_
      · rw [hthrow] at h
        cases h
      · obtain ⟨spec, hspec⟩ := h.1 rule List.mem_cons_self
        rw [hp] at hspec
        cases hspec
    | ok spec =>
      obtain ⟨sign, text, rfl⟩ := hfirst
      have hspecs : r.specsOf f ((sign.mark ++ text) :: rest) = spec :: r.specsOf f rest := by
        rw [← List.singleton_append, specsOf_append, specsOf_singleton hp]
        rfl
      rw [applyRule_of_signed hp (RuleSpec.isSigned_of_parse hp), pure_bind,
        run_foldlM_signed hrest, hspecs, List.foldl_cons, List.forall_mem_cons]
      exact ⟨fun ⟨hread, h⟩ => ⟨⟨⟨spec, hp⟩, hread⟩, h⟩, fun ⟨⟨_, hread⟩, h⟩ => ⟨hread, h⟩⟩

theorem specsOf_relist (hf : r.formats.get? f.id = some f) (rules : List String) :
    (r.relist f bans unbans).specsOf (f.relist bans unbans) rules = r.specsOf f rules := by
  unfold specsOf
  simp only [parse_relist hf]

/-- In a fresh session a format has to be built. -/
theorem outcome_fresh_eq_ok : r.outcome depth f .fresh = .ok t ↔
    ∃ s, (r.buildTable (r.followWithin (r.levelsAt depth)) f [f.key]).run.run .fresh
      = (.ok t, s) := by
  have hmiss : Session.fresh.cache.get? f.key = none := rfl
  unfold outcome resolveAt
  rw [resolveWithin_eq, run_resolveBy, hmiss]
  dsimp only
  rw [List.nil_append]
  rcases (r.buildTable (r.followWithin (r.levelsAt depth)) f [f.key]).run.run .fresh
    with ⟨e | u, s⟩
  · refine iff_of_false nofun ?_
    rintro ⟨s', h⟩
    cases h
  · refine ⟨fun h => ⟨s, by rw [Except.ok.inj h]⟩, ?_⟩
    rintro ⟨s', h⟩
    cases h
    rfl

/-- A format with one more working rule resolves in a fresh session as the format does, the rule
being adopted where it stands, if bans and unbans are all that comes after it. -/
theorem exists_outcome_relist {before after : List String} (hr : r.WellFormed)
    (hf : r.formats.get? f.id = some f) (hrules : f.workingRules = before ++ after)
    (hrules' : (f.relist bans unbans).workingRules = before ++ rule :: after)
    (hmark : ∀ rule' ∈ rule :: after, RuleSpec.IsMarked rule')
    (hp : RuleSpec.parse r (some f) rule = .ok spec) (h : r.outcome depth f .fresh = .ok t) :
    ∃ t₀, t = (r.specsOf f after).foldl RuleTable.adopt t₀
      ∧ (r.relist f bans unbans).outcome depth (f.relist bans unbans) .fresh
        = .ok ((r.specsOf f after).foldl RuleTable.adopt (t₀.adopt spec)) := by
  obtain ⟨s₁, hbuild⟩ := outcome_fresh_eq_ok.mp h
  unfold buildTable at hbuild
  rw [hrules, List.foldlM_append, run_bind_ok] at hbuild
  obtain ⟨t₀, s₀, hbefore, hafter⟩ := hbuild
  obtain ⟨hread, rfl, rfl⟩ := (run_foldlM_signed (List.forall_mem_cons.mp hmark).2).mp hafter
  refine ⟨t₀, rfl, outcome_fresh_eq_ok.mpr ⟨s₁, ?_⟩⟩
  have hstack : f.key ∈ [f.key] := List.mem_singleton.mpr rfl
  obtain ⟨_, hbefore', rfl⟩ := tracks_foldlM (applyRule_tracks_relist hr hf hstack
    (followWithin_tracks_relist hr hf (r.levelsAt depth) hstack) f bans unbans)
    before _ _ _ rfl _ _ hbefore
  have hread' : ∀ rule' ∈ rule :: after, ∃ spec', RuleSpec.parse (r.relist f bans unbans)
      (some (f.relist bans unbans)) rule' = .ok spec' := by
    simp only [parse_relist hf]
    exact List.forall_mem_cons.mpr ⟨⟨spec, hp⟩, hread⟩
  have hspecs : (r.relist f bans unbans).specsOf (f.relist bans unbans) (rule :: after)
      = spec :: r.specsOf f after := by
    rw [specsOf_relist hf, ← List.singleton_append, specsOf_append, specsOf_singleton hp]
    rfl
  unfold buildTable
  rw [hrules', List.foldlM_append, run_bind_ok]
  refine ⟨t₀, s₁, hbefore', (run_foldlM_signed hmark).mpr ⟨hread', ?_, rfl⟩⟩
  rw [hspecs, List.foldl_cons]

/-! ### One more ban or unban -/

/-- A list with one more text somewhere. -/
def Inserts (text : String) (l l' : List String) : Prop :=
  ∃ before after, l = before ++ after ∧ l' = before ++ text :: after

/-- **One more ban makes the table of a format stricter.** -/
theorem exists_outcome_of_ban (hr : r.WellFormed) (hf : r.formats.get? f.id = some f)
    (hlist : Inserts text f.banlist bans)
    (hp : RuleSpec.parse r (some f) (RuleSpec.Sign.ban.mark ++ text) = .ok (.ban target))
    (h : r.outcome depth f .fresh = .ok t) :
    ∃ t', (r.relist f bans f.unbanlist).outcome depth (f.relist bans f.unbanlist) .fresh = .ok t'
      ∧ t.Laxer t' := by
  obtain ⟨before, after, hlist, rfl⟩ := hlist
  have hbare := (hr f.id f hf).bare
  have hrules : f.workingRules = (f.ruleset ++ RuleSpec.Sign.ban.marked before)
      ++ (RuleSpec.Sign.ban.marked after ++ RuleSpec.Sign.unban.marked f.unbanlist) := by
    rw [Format.workingRules_of_bare hbare, hlist]
    simp [RuleSpec.Sign.marked]
  have hrules' : (f.relist (before ++ text :: after) f.unbanlist).workingRules
      = (f.ruleset ++ RuleSpec.Sign.ban.marked before) ++ (RuleSpec.Sign.ban.mark ++ text)
        :: (RuleSpec.Sign.ban.marked after ++ RuleSpec.Sign.unban.marked f.unbanlist) := by
    rw [Format.workingRules_relist hbare]
    simp [RuleSpec.Sign.marked]
  have hmark : ∀ rule' ∈ (RuleSpec.Sign.ban.mark ++ text)
      :: (RuleSpec.Sign.ban.marked after ++ RuleSpec.Sign.unban.marked f.unbanlist),
      RuleSpec.IsMarked rule' := by
    simp only [List.forall_mem_cons, List.forall_mem_append]
    exact ⟨⟨.ban, text, rfl⟩, fun _ => RuleSpec.isMarked_of_mem_marked,
      fun _ => RuleSpec.isMarked_of_mem_marked⟩
  obtain ⟨t₀, rfl, h'⟩ := exists_outcome_relist hr hf hrules hrules' hmark hp h
  exact ⟨_, h', (t₀.laxer_adopt_ban target).foldl_adopt _⟩

/-- **One more unban makes the table of a format laxer.** -/
theorem exists_outcome_of_unban (hr : r.WellFormed) (hf : r.formats.get? f.id = some f)
    (hlist : Inserts text f.unbanlist unbans)
    (hp : RuleSpec.parse r (some f) (RuleSpec.Sign.unban.mark ++ text) = .ok (.unban target))
    (h : r.outcome depth f .fresh = .ok t) :
    ∃ t', (r.relist f f.banlist unbans).outcome depth (f.relist f.banlist unbans) .fresh = .ok t'
      ∧ t'.Laxer t := by
  obtain ⟨before, after, hlist, rfl⟩ := hlist
  have hbare := (hr f.id f hf).bare
  have hrules : f.workingRules = (f.ruleset ++ RuleSpec.Sign.ban.marked f.banlist
      ++ RuleSpec.Sign.unban.marked before) ++ RuleSpec.Sign.unban.marked after := by
    rw [Format.workingRules_of_bare hbare, hlist]
    simp [RuleSpec.Sign.marked]
  have hrules' : (f.relist f.banlist (before ++ text :: after)).workingRules
      = (f.ruleset ++ RuleSpec.Sign.ban.marked f.banlist ++ RuleSpec.Sign.unban.marked before)
        ++ (RuleSpec.Sign.unban.mark ++ text) :: RuleSpec.Sign.unban.marked after := by
    rw [Format.workingRules_relist hbare]
    simp [RuleSpec.Sign.marked]
  have hmark : ∀ rule' ∈ (RuleSpec.Sign.unban.mark ++ text) :: RuleSpec.Sign.unban.marked after,
      RuleSpec.IsMarked rule' := by
    simp only [List.forall_mem_cons]
    exact ⟨⟨.unban, text, rfl⟩, fun _ => RuleSpec.isMarked_of_mem_marked⟩
  obtain ⟨t₀, rfl, h'⟩ := exists_outcome_relist hr hf hrules hrules' hmark hp h
  exact ⟨_, h', (t₀.adopt_unban_laxer target).foldl_adopt _⟩

/-- What resolves in a fresh session resolves to the same table after any calls. -/
theorem outcome_of_fresh (hr : r.WellFormed) (hf : r.Offers f) (calls : List Call)
    (h : r.outcome depth f .fresh = .ok t) : r.outcome depth f (r.after calls) = .ok t := by
  obtain ⟨s', hrun⟩ := outcome_eq_ok.mp h
  have hahead : r.Ahead .fresh (r.after calls) :=
    ⟨sound_fresh, sound_after hr calls, fun key ⟨u, hu⟩ => by cases hu⟩
  obtain ⟨t', hrun', -⟩ := resolveWithin_tracks hr _ hf _ _ hahead _ _ hrun
  exact outcome_eq_ok.mpr ⟨t', hrun'⟩

theorem outcome_relist_of_fresh (hr : r.WellFormed) (hf : r.formats.get? f.id = some f)
    (calls : List Call)
    (h : (r.relist f bans unbans).outcome depth (f.relist bans unbans) .fresh = .ok t) :
    (r.relist f bans unbans).outcome depth (f.relist bans unbans)
      ((r.relist f bans unbans).after calls) = .ok t := by
  have hr' : (r.relist f bans unbans).WellFormed := relist_wellFormed hr hf
  have hf' : (r.relist f bans unbans).formats.get? f.id = some (f.relist bans unbans) := by
    rw [get?_formats_relist, if_pos rfl]
  exact outcome_of_fresh hr' (.registered hr' hf') calls h

end FormatRegistry

end TeamLegality
