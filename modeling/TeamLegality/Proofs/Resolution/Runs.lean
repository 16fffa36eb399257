import TeamLegality.Proofs.Resolution.Memory
import TeamLegality.Proofs.Resolution.Turns
import TeamLegality.Proofs.Session

/-!
# Runs — what resolution comes to in a sound session

Three facts about a run of `resolveWithin`, each by induction on levels from the same fact about one
working rule.  It keeps the session sound whether it succeeds or fails (`resolveWithin_settles`).
It finds the table of a format that has one, or runs out of levels (`resolveWithin_completes`).  A
session that remembers more does not make it fail (`resolveWithin_tracks`).
-/

namespace TeamLegality

/-- Whether a failure says that there were too few levels. -/
def Failure.IsDepth (e : Failure) : Prop :=
  ∃ format rule ruleset name, e = .configuration (.excessiveDepth format rule ruleset) name

theorem Failure.IsDepth.inFormat {e : Failure} (h : e.IsDepth) (name : String) :
    (e.inFormat name).IsDepth := by
  obtain ⟨format, rule, ruleset, name', rfl⟩ := h
  cases name' with
  | none => exact ⟨format, rule, ruleset, some name, rfl⟩
  | some name' => exact ⟨format, rule, ruleset, some name', rfl⟩

namespace FormatRegistry

open SessionM

variable {r : FormatRegistry} {R : Format → RuleTable → Prop} {follow : Follow}
  {f g sub : Format} {stack : List String} {rule id : String} {t t' u : RuleTable}
  {s s' s'' : Session} {done : List RuleSpec} {rules : List String} {levels n : Nat}

/-! ### Levels -/

/-- How references are followed when so many levels are left. -/
def followWithin (r : FormatRegistry) : (levels : Nat) → Follow
  | 0 => refuse
  | levels + 1 => fun _ _ sub stack => r.resolveWithin levels sub stack

theorem resolveWithin_eq : r.resolveWithin levels = r.resolveBy (r.followWithin levels) := by
  cases levels <;> rfl

/-- A format that is remembered is not built again; otherwise its table is remembered if there is
one, and what was remembered on the way is kept either way. -/
theorem run_resolveBy : (r.resolveBy follow f stack).run.run s =
    match s.cache.get? f.key with
    | some t => (.ok t, s)
    | none => match (r.buildTable follow f (stack ++ [f.key])).run.run s with
      | (.ok t, s') => (.ok t, s'.remember f.key t)
      | (.error e, s') => (.error (e.inFormat f.name), s') := by
  unfold resolveBy
  rw [run_bind]
  change (match s.cache.get? f.key with
    | some t => (pure t : SessionM RuleTable)
    | none => _).run.run s = _
  cases s.cache.get? f.key with
  | some t => rfl
  | none =>
    dsimp only
    rw [run_bind, naming, run_tryCatch]
    rcases (r.buildTable follow f (stack ++ [f.key])).run.run s with ⟨_ | _, s'⟩ <;> rfl

theorem leads_resolveBy {Q : RuleTable → Session → Prop} {E : Failure → Session → Prop}
    (hsome : ∀ t, s.cache.get? f.key = some t → Q t s)
    (hnone : s.cache.get? f.key = none → Leads (r.buildTable follow f (stack ++ [f.key])) s
      (fun t s' => Q t (s'.remember f.key t)) fun e s' => E (e.inFormat f.name) s') :
    Leads (r.resolveBy follow f stack) s Q E := by
  have hrun := @run_resolveBy r follow f stack s
  cases hc : s.cache.get? f.key with
  | some t =>
    rw [hc] at hrun
    exact leads_of_run_ok hrun (hsome t hc)
  | none =>
    have hbuild := hnone hc
    rw [hc] at hrun
    rcases hb : (r.buildTable follow f (stack ++ [f.key])).run.run s with ⟨e | t, s'⟩
    · rw [hb] at hrun
      exact leads_of_run_error hrun (hbuild.of_error hb)
    · rw [hb] at hrun
      exact leads_of_run_ok hrun (hbuild.of_ok hb)

/-! ### Sessions stay sound -/

/-- Following a reference settles the sub-format, and remembers the table that it gives. -/
def SettlesBy (r : FormatRegistry) (follow : Follow) : Prop :=
  ∀ f rule sub stack s, r.Offers sub → r.Sound s →
    Leads (follow f rule sub stack) s
      (fun u s' => r.Settled sub s s' ∧ s'.cache.get? sub.key = some u)
      fun _ s' => r.Settled sub s s'

/-- One working rule takes one step, and remembers what it includes. -/
theorem applyRule_settles (hr : r.WellFormed) (hfollow : r.SettlesBy follow)
    (hsupp : ∀ x, t.get? (.suppression (.rule x)) = some "" ↔ .suppress x ∈ done)
    (hincl : ∀ spec sub, RuleSpec.parse r (some f) rule = .ok spec →
      r.contribution? done spec = some (.inclusion sub) → r.Includes f sub)
    (hs : r.Sound s) :
    Leads (r.applyRule follow f stack t rule) s
      (fun t' s' => r.Settled f s s' ∧ ∃ spec, RuleSpec.parse r (some f) rule = .ok spec
        ∧ Step r (TableOf r) f done t spec t'
        ∧ ∀ sub, r.contribution? done spec = some (.inclusion sub) → s'.Remembers sub.key)
      fun _ s' => r.Settled f s s' := by
  rw [applyRule_eq]
  cases hturn : r.turn f stack t rule with
  | failure e => exact leads_throw (.refl hs)
  | table t' =>
    obtain ⟨spec, hp, hstep, hnone⟩ := step_of_turn hsupp hturn
    exact leads_pure ⟨.refl hs, spec, hp, hstep, fun sub hc => absurd hc (hnone sub)⟩
  | inclusion sub =>
    obtain ⟨spec, hp, hc, -⟩ := inclusion_of_turn hsupp hturn
    obtain ⟨id, rfl, rfl, hpass, hk⟩ := contribution?_eq_inclusion hc
    have hsub : r.Offers (r.getFormat id) := offers_getFormat hr id
    refine leads_bind ((hfollow f rule _ stack s hsub hs).mono ?_ ?_)
    · rintro u s' ⟨hset, hu⟩
      have hset' := hset.of_included (hincl _ _ hp hc)
      unfold inheriting
      split
      · next t' ht' =>
        have hstep := Step.included id hpass hk (hset.sound _ u hsub hu).1 ht'
        refine leads_pure ⟨hset', _, hp, hstep, fun sub hsub => ?_⟩
        cases hc.symm.trans hsub
        exact ⟨u, hu⟩
      · exact leads_throw hset'
    · exact fun _ _ hset => hset.of_included (hincl _ _ hp hc)

/-- What is known once the rules `done` of a format are worked off. -/
structure WorkedOff (r : FormatRegistry) (f : Format) (s : Session) (done : List String)
    (t : RuleTable) (s' : Session) : Prop where
  settled : r.Settled f s s'
  readable : ∀ rule ∈ done, ∃ spec, RuleSpec.parse r (some f) rule = .ok spec
  steps : Steps r (TableOf r) f (r.specsOf f done) t
  remembers : ∀ sub, .inclusion sub ∈ r.entriesAfter [] (r.specsOf f done) → s'.Remembers sub.key

theorem WorkedOff.start (hs : r.Sound s) :
    r.WorkedOff f s [] (startingTable f) s where
  settled := .refl hs
  readable := by simp
  steps := .start
  remembers := by simp [specsOf, entriesAfter]

theorem WorkedOff.snoc (h : r.WorkedOff f s rules t s') (hset : r.Settled f s' s'')
    {spec : RuleSpec} (hp : RuleSpec.parse r (some f) rule = .ok spec)
    (hstep : Step r (TableOf r) f (r.specsOf f rules) t spec t')
    (hrem : ∀ sub, r.contribution? (r.specsOf f rules) spec = some (.inclusion sub) →
      s''.Remembers sub.key) :
    r.WorkedOff f s (rules ++ [rule]) t' s'' where
  settled := h.settled.trans hset
  readable := by
    intro rule' hmem
    rcases List.mem_append.mp hmem with hmem | hmem
    · exact h.readable rule' hmem
    · rw [List.mem_singleton.mp hmem]
      exact ⟨spec, hp⟩
  steps := by
    rw [specsOf_append, specsOf_singleton hp]
    exact h.steps.snoc hstep
  remembers := by
    intro sub hmem
    rw [specsOf_append, specsOf_singleton hp, entriesAfter_snoc, List.mem_append,
      Option.mem_toList] at hmem
    rcases hmem with hmem | hmem
    · exact hset.remembers (h.remembers sub hmem)
    · exact hrem sub hmem

/-- What a working rule contributes after those before it is an entry of the format. -/
theorem includes_of_contribution {before after : List String} {spec : RuleSpec}
    (hl : f.workingRules = before ++ rule :: after)
    (hp : RuleSpec.parse r (some f) rule = .ok spec)
    (h : r.contribution? (r.specsOf f before) spec = some (.inclusion sub)) : r.Includes f sub := by
  rw [Includes, entries, ownRules, hl, List.append_cons, specsOf_append, specsOf_append,
    specsOf_singleton hp, entriesAfter_append, entriesAfter_snoc, h]
  simp

/-- A working rule after those that are worked off. -/
theorem WorkedOff.applyRule (hr : r.WellFormed) (hfollow : r.SettlesBy follow)
    {before after : List String} (h : r.WorkedOff f s before t s')
    (hl : f.workingRules = before ++ rule :: after) :
    Leads (r.applyRule follow f stack t rule) s' (r.WorkedOff f s (before ++ [rule]))
      fun _ s'' => r.Settled f s s'' := by
  refine (applyRule_settles hr hfollow (h.steps.suppressed_iff hr)
    (fun _ _ => includes_of_contribution hl) h.settled.sound).mono ?_ ?_
  · exact fun t' s'' ⟨hset, spec, hp, hstep, hrem⟩ => h.snoc hset hp hstep hrem
  · exact fun _ _ hset => h.settled.trans hset

/-- A table that is built has all rules of its format worked off, and what every single rule that
fails comes to is what failing comes to. -/
theorem leads_buildTable (hr : r.WellFormed) (hfollow : r.SettlesBy follow) (hs : r.Sound s)
    {E : Failure → Session → Prop} (hfails : ∀ before rule after t s',
      f.workingRules = before ++ rule :: after → r.WorkedOff f s before t s' →
      Leads (r.applyRule follow f stack t rule) s' (fun _ _ => True) E) :
    Leads (r.buildTable follow f stack) s (r.WorkedOff f s f.workingRules) E := by
  refine leads_foldlM _ ?_ f.workingRules [] _ s (List.nil_append _).symm (.start hs)
  intro before rule after t s' hl h
  exact ((h.applyRule hr hfollow hl).and (hfails before rule after t s' hl h)).mono
    (fun _ _ h => h.1) fun _ _ h => h.2

theorem buildTable_settles (hr : r.WellFormed) (hfollow : r.SettlesBy follow) (hs : r.Sound s) :
    Leads (r.buildTable follow f stack) s
      (fun t s' => r.Settled f s s' ∧ Built r (TableOf r) f t
        ∧ ∀ sub, r.Includes f sub → s'.Remembers sub.key)
      fun _ s' => r.Settled f s s' := by
  refine (leads_buildTable hr hfollow hs fun before rule after t s' hl h => ?_).mono ?_
    fun _ _ h => h
  · exact (h.applyRule hr hfollow hl).mono (fun _ _ _ => trivial) fun _ _ h => h
  · exact fun t s' h => ⟨h.settled, ⟨h.readable, h.steps⟩, h.remembers⟩

theorem resolveBy_settles (hr : r.WellFormed) (hfollow : r.SettlesBy follow) (hf : r.Offers f)
    (hs : r.Sound s) :
    Leads (r.resolveBy follow f stack) s
      (fun t s' => r.Settled f s s' ∧ s'.cache.get? f.key = some t)
      fun _ s' => r.Settled f s s' := by
  refine leads_resolveBy (fun t ht => ⟨.refl hs, ht⟩) fun _ => ?_
  refine (buildTable_settles hr hfollow hs).mono ?_ fun _ _ h => h
  rintro t s' ⟨hset, hbuilt, hrem⟩
  refine ⟨hset.trans (.remember hr hf hset.sound hbuilt.tableOf hrem), ?_⟩
  rw [Session.cache_remember, Assoc.get?_insert_self]

theorem followWithin_settles (hr : r.WellFormed) : ∀ levels, r.SettlesBy (r.followWithin levels)
  | 0 => fun _ _ _ _ _ _ hs => leads_throw (.refl hs)
  | levels + 1 => fun _ _ _ _ _ hsub hs => by
    have ih := followWithin_settles hr levels
    show Leads (r.resolveWithin levels _ _) _ _ _
    rw [resolveWithin_eq]
    exact resolveBy_settles hr ih hsub hs

/-- **Resolving keeps a session sound**, and remembers the table that it finds. -/
theorem resolveWithin_settles (hr : r.WellFormed) (hf : r.Offers f) (hs : r.Sound s) :
    Leads (r.resolveWithin levels f stack) s
      (fun t s' => r.Settled f s s' ∧ s'.cache.get? f.key = some t)
      fun _ s' => r.Settled f s s' := by
  rw [resolveWithin_eq]
  exact resolveBy_settles hr (followWithin_settles hr levels) hf hs

/-! ### Tables are found -/

section Completes

variable {E : Failure → Prop}

/-- A rule that has a step takes it, unless following its reference fails with `E`. -/
theorem applyRule_completes (hr : r.WellFormed) (hsettles : r.SettlesBy follow)
    (hR : ∀ sub u, R sub u → TableOf r sub u)
    (hopen : ∀ sub u, r.Offers sub → sub.isKnown = true → R sub u → sub.key ∉ stack)
    (hfollow : ∀ rule sub u s, r.Offers sub → R sub u → r.Sound s →
      Leads (follow f rule sub stack) s (fun _ _ => True) fun e _ => E e)
    (hsupp : ∀ x, t.get? (.suppression (.rule x)) = some "" ↔ .suppress x ∈ done)
    {spec : RuleSpec} (hp : RuleSpec.parse r (some f) rule = .ok spec)
    (hstep : Step r R f done t spec t') (hs : r.Sound s) :
    Leads (r.applyRule follow f stack t rule) s (fun t'' s' => t'' = t' ∧ r.Sound s')
      fun e _ => E e := by
  rw [applyRule_eq]
  cases hturn : r.turn f stack t rule with
  | table t'' =>
    obtain ⟨spec', hp', hstep', -⟩ := step_of_turn hsupp hturn
    cases hp.symm.trans hp'
    exact leads_pure ⟨hstep'.unique (fun sub u u' hu hu' => (hR sub u hu).unique (hR sub u' hu'))
      hstep, hs⟩
  | failure e =>
    rcases failure_of_turn hsupp hturn with hp' | ⟨spec', sub, hp', hc, hstack, -⟩
    · cases hp.symm.trans hp'
    · cases hp.symm.trans hp'
      obtain ⟨u, hu, -⟩ := hstep.exists_inherited hc
      obtain ⟨id, -, rfl, -, hk⟩ := contribution?_eq_inclusion hc
      exact absurd hstack (hopen _ u (offers_getFormat hr id) hk hu)
  | inclusion sub =>
    obtain ⟨spec', hp', hc, -⟩ := inclusion_of_turn hsupp hturn
    cases hp.symm.trans hp'
    obtain ⟨u, hu, ht'⟩ := hstep.exists_inherited hc
    obtain ⟨id, -, rfl, -⟩ := contribution?_eq_inclusion hc
    have hsub : r.Offers (r.getFormat id) := offers_getFormat hr id
    have hboth := (hfollow rule _ u s hsub hu hs).and (hsettles f rule _ stack s hsub hs)
    refine leads_bind (hboth.mono ?_ fun _ _ h => h.1)
    rintro u' s' ⟨-, hset, hu'⟩
    have heq := (hset.sound _ u' hsub hu').1.unique (hR _ _ hu)
    unfold inheriting
    rw [heq, ht']
    exact leads_pure ⟨rfl, hset.sound⟩

theorem buildTable_completes (hr : r.WellFormed) (hsettles : r.SettlesBy follow)
    (hR : ∀ sub u, R sub u → TableOf r sub u)
    (hopen : ∀ sub u, r.Offers sub → sub.isKnown = true → R sub u → sub.key ∉ stack)
    (hfollow : ∀ rule sub u s, r.Offers sub → R sub u → r.Sound s →
      Leads (follow f rule sub stack) s (fun _ _ => True) fun e _ => E e)
    (hb : Built r R f t) (hs : r.Sound s) :
    Leads (r.buildTable follow f stack) s (fun _ _ => True) fun e _ => E e := by
  have hunique : ∀ sub u u', R sub u → R sub u' → u = u' :=
    fun sub u u' hu hu' => (hR sub u hu).unique (hR sub u' hu')
  have hstep : ∀ before rule after t s', f.workingRules = before ++ rule :: after →
      r.Sound s' ∧ Steps r R f (r.specsOf f before) t →
      Leads (r.applyRule follow f stack t rule) s'
        (fun t' s'' => r.Sound s'' ∧ Steps r R f (r.specsOf f (before ++ [rule])) t')
        fun e _ => E e := by
    rintro before rule after t₁ s' hl ⟨hs', hsteps⟩
    obtain ⟨spec, hp⟩ := hb.readable rule (by rw [hl]; simp)
    -- The steps to the table of `f` go on from where this run stands.
    obtain ⟨t₀, t₂, hsteps₀, hstep₀⟩ := hb.exists_step hl hp
    rw [hsteps₀.unique hunique hsteps] at hstep₀
    refine (applyRule_completes hr hsettles hR hopen hfollow (hsteps.suppressed_iff hr) hp hstep₀
      hs').mono ?_ fun _ _ h => h
    rintro _ s'' ⟨rfl, hs''⟩
    refine ⟨hs'', ?_⟩
    rw [specsOf_append, specsOf_singleton hp]
    exact hsteps.snoc hstep₀
  exact (leads_foldlM (fun before t s' => r.Sound s' ∧ Steps r R f (r.specsOf f before) t) hstep
    f.workingRules [] _ s (List.nil_append _).symm ⟨hs, .start⟩).mono (fun _ _ _ => trivial)
    fun _ _ h => h

theorem resolveBy_completes (hE : ∀ e name, E e → E (e.inFormat name))
    (hbuild : Leads (r.buildTable follow f (stack ++ [f.key])) s (fun _ _ => True) fun e _ => E e) :
    Leads (r.resolveBy follow f stack) s (fun _ _ => True) fun e _ => E e :=
  leads_resolveBy (fun _ _ => trivial) fun _ => hbuild.mono (fun _ _ h => h) fun e _ => hE e f.name

/-- **A format that has a table within `n` levels resolves**, unless fewer than `n` levels are left.
Nothing on the stack may have a table within `n` levels: the references that lead to such a table
are then no cycles. -/
theorem resolveWithin_completes (hr : r.WellFormed) : ∀ (n : Nat) {levels : Nat} {f : Format}
    {t : RuleTable} {stack : List String} {s : Session}, r.Offers f → TableWithin r n f t →
    (∀ g u, r.Offers g → g.isKnown = true → TableWithin r n g u → g.key ∉ stack) → r.Sound s →
    Leads (r.resolveWithin levels f stack) s (fun _ _ => True) fun e _ => e.IsDepth ∧ levels < n
  | 0, levels, f, t, stack, s, hf, ht, hopen, hs => by
    rw [resolveWithin_eq]
    refine resolveBy_completes (fun e name h => ⟨h.1.inFormat name, h.2⟩) ?_
    exact buildTable_completes hr (followWithin_settles hr levels) (fun _ _ => False.elim)
      (fun _ _ _ _ => False.elim) (fun _ _ _ _ _ => False.elim) ht hs
  | n + 1, levels, f, t, stack, s, hf, ht, hopen, hs => by
    by_cases hn : ∃ u, TableWithin r n f u
    · obtain ⟨u, hu⟩ := hn
      have hopen' : ∀ g u, r.Offers g → g.isKnown = true → TableWithin r n g u → g.key ∉ stack :=
        fun g u hg hk hu => hopen g u hg hk hu.succ
      refine (resolveWithin_completes hr n hf hu hopen' hs).mono (fun _ _ h => h) ?_
      exact fun e _ h => ⟨h.1, by omega⟩
    · rw [resolveWithin_eq]
      refine resolveBy_completes (fun e name h => ⟨h.1.inFormat name, h.2⟩) ?_
      -- What `f` includes has a table within `n` levels, and so differs from `f`.
      have hopen' : ∀ g u, r.Offers g → g.isKnown = true → TableWithin r n g u →
          g.key ∉ stack ++ [f.key] := by
        intro g u hg hk hu hmem
        rcases List.mem_append.mp hmem with hmem | hmem
        · exact hopen g u hg hk hu.succ hmem
        · rcases hg.eq_of_key_eq hr hf (List.mem_singleton.mp hmem) with rfl | ⟨hk', -⟩
          · exact hn ⟨u, hu⟩
          · rw [hk] at hk'
            cases hk'
      refine buildTable_completes hr (followWithin_settles hr levels) (fun _ _ hu => ⟨n, hu⟩) hopen'
        ?_ ht hs
      intro rule sub u s' hsub hu hs'
      cases levels with
      | zero => exact leads_throw ⟨⟨_, _, _, none, rfl⟩, n.succ_pos⟩
      | succ levels =>
        show Leads (r.resolveWithin levels sub _) s' _ _
        refine (resolveWithin_completes hr n hsub hu hopen' hs').mono (fun _ _ h => h) ?_
        exact fun e _ h => ⟨h.1, by omega⟩

end Completes

/-! ### Remembering more -/

/-- Both sessions are sound, and the second remembers all that the first does. -/
structure Ahead (r : FormatRegistry) (s t : Session) : Prop where
  left : r.Sound s
  right : r.Sound t
  remembers : ∀ key, s.Remembers key → t.Remembers key

/-- Sound sessions agree on what they remember for a format. -/
theorem Sound.agree {s t : Session} (hs : r.Sound s) (ht : r.Sound t) (hf : r.Offers f)
    {u v : RuleTable} (hu : s.cache.get? f.key = some u) (hv : t.cache.get? f.key = some v) :
    u = v :=
  (hs f u hf hu).1.unique (ht f v hf hv).1

theorem applyRule_tracks (hr : r.WellFormed)
    (hfollow : ∀ rule sub, r.Offers sub →
      Tracks r.Ahead (follow f rule sub stack) (follow f rule sub stack)) (t : RuleTable)
    (rule : String) :
    Tracks r.Ahead (r.applyRule follow f stack t rule) (r.applyRule follow f stack t rule) := by
  rw [applyRule_eq]
  cases hturn : r.turn f stack t rule with
  | table t' => exact tracks_pure t'
  | failure e => exact tracks_throw e
  | inclusion sub =>
    obtain ⟨id, -, rfl, -⟩ := reference_of_turn hturn
    refine tracks_bind (hfollow rule _ (offers_getFormat hr id)) fun u => ?_
    unfold inheriting
    split
    · exact tracks_pure _
    · exact tracks_throw _

theorem resolveBy_tracks (hr : r.WellFormed) (hsettles : r.SettlesBy follow) (hf : r.Offers f)
    (hfollow : ∀ rule sub stack, r.Offers sub →
      Tracks r.Ahead (follow f rule sub stack) (follow f rule sub stack)) :
    Tracks r.Ahead (r.resolveBy follow f stack) (r.resolveBy follow f stack) := by
  intro s t hst u s' hrun
  obtain ⟨hset, hu⟩ := (resolveBy_settles hr hsettles hf hst.left).of_ok hrun
  cases ht : t.cache.get? f.key with
  | some v =>
    -- The table is there already, and so is all that the other session comes to remember.
    refine ⟨t, ?_, hset.sound, hst.right, fun key hkey => ?_⟩
    · rw [run_resolveBy, ht, hset.sound.agree hst.right hf hu ht]
    · rcases hset.reached key hkey with hkey | ⟨g, hg, rfl⟩
      · exact hst.remembers key hkey
      · exact hst.right.remembers_of_reaches hr hf ⟨v, ht⟩ hg
  | none =>
    have hs : s.cache.get? f.key = none := by
      cases hs : s.cache.get? f.key with
      | none => rfl
      | some v =>
        obtain ⟨w, hw⟩ := hst.remembers f.key ⟨v, hs⟩
        rw [ht] at hw
        cases hw
    rw [run_resolveBy, hs] at hrun
    rcases hbuild : (r.buildTable follow f (stack ++ [f.key])).run.run s with ⟨e | u', s₁⟩
    · rw [hbuild] at hrun
      cases hrun
    rw [hbuild] at hrun
    cases hrun
    have htracks : Tracks r.Ahead (r.buildTable follow f (stack ++ [f.key]))
        (r.buildTable follow f (stack ++ [f.key])) :=
      tracks_foldlM (applyRule_tracks hr fun rule sub => hfollow rule sub _) _ _
    obtain ⟨t₁, hbuild', hahead⟩ := htracks s t hst u s₁ hbuild
    have hrun' : (r.resolveBy follow f stack).run.run t = (.ok u, t₁.remember f.key u) := by
      rw [run_resolveBy, ht]
      dsimp only
      rw [hbuild']
    have hset' := (resolveBy_settles hr hsettles hf hst.right).of_ok hrun'
    refine ⟨_, hrun', hset.sound, hset'.1.sound, fun key hkey => ?_⟩
    rw [Session.remembers_remember] at hkey ⊢
    exact hkey.imp_left (hahead.remembers key)

/-- **A session that remembers more finds the same tables.** -/
theorem resolveWithin_tracks (hr : r.WellFormed) : ∀ (levels : Nat) {f : Format}
    {stack : List String}, r.Offers f →
    Tracks r.Ahead (r.resolveWithin levels f stack) (r.resolveWithin levels f stack)
  | 0, _, _, hf => by
    rw [resolveWithin_eq]
    exact resolveBy_tracks hr (followWithin_settles hr 0) hf fun _ _ _ _ => tracks_throw _
  | levels + 1, _, _, hf => by
    rw [resolveWithin_eq]
    exact resolveBy_tracks hr (followWithin_settles hr (levels + 1)) hf fun _ _ _ hsub =>
      resolveWithin_tracks hr levels hsub

end FormatRegistry

end TeamLegality
