import TeamLegality.Proofs.Format.Requests
import TeamLegality.Proofs.Resolution.Runs
import Mathlib.Tactic.Choose

/-!
# History — resolution after any calls

A session is asked to resolve formats, to validate names and to forget what it remembers, in any
order, and some of the calls fail.  It stays sound (`sound_after`), so that what it remembers makes
no difference to the tables that it gives, except that it may save a resolution from running out of
levels (`outcome_after`).
-/

namespace TeamLegality

namespace FormatRegistry

open SessionM

/-- What may be asked of a session. -/
inductive Call where
  | resolve (name : String) (depth : Int)
  | validate (name : String)
  | clear
deriving DecidableEq, Repr

/-- The session that a call leaves, whether it succeeds or fails. -/
def afterCall (r : FormatRegistry) (s : Session) : Call → Session
  | .resolve name depth => ((r.resolveAt depth (r.getFormat name)).run.run s).2
  | .validate name => ((r.validateFormat name).run.run s).2
  | .clear => s.clear

/-- The session that calls leave, from one that remembers nothing. -/
def after (r : FormatRegistry) (calls : List Call) : Session := calls.foldl r.afterCall .fresh

/-- What comes of resolving a format in a session. -/
def outcome (r : FormatRegistry) (depth : Int) (f : Format) (s : Session) :
    Except Failure RuleTable :=
  ((r.resolveAt depth f).run.run s).1

/-- A format resolves to a table in a session that some calls left.  A format that the registry did
not give out may share its key with one that it did: then it has to be new to the session. -/
def ResolvesTo (r : FormatRegistry) (f : Format) (t : RuleTable) : Prop :=
  ∃ calls depth, (r.Offers f ∨ (r.after calls).cache.get? f.key = none)
    ∧ r.outcome depth f (r.after calls) = .ok t

/-- The formats that a format actively includes resolve to these tables, and to no others. -/
def Tables (r : FormatRegistry) (f : Format) (tables : Format → RuleTable) : Prop :=
  ∀ sub u, r.Includes f sub → (r.ResolvesTo sub u ↔ u = tables sub)

variable {r : FormatRegistry} {f : Format} {t : RuleTable} {s : Session} {depth : Int}

/-! ### Calls keep sessions sound -/

/-- Only rules that were asked for are kept. -/
theorem mem_of_mem_sortRules {rule : String} {rules : List String}
    (h : rule ∈ (r.sortRules f t rules).1.1) : rule ∈ rules := by
  induction rules with
  | nil => simp [sortRules] at h
  | cons first rest ih =>
    unfold sortRules at h
    cases hin : r.isInEffect f t first with
    | error failure => simp [hin] at h
    | ok inEffect =>
      rcases hrest : r.sortRules f t rest with ⟨⟨kept, dropped⟩, failure⟩
      rw [hrest] at ih
      cases inEffect with
      | true =>
        simp only [hin, hrest] at h
        exact List.mem_cons_of_mem first (ih h)
      | false =>
        simp only [hin, hrest] at h
        rcases List.mem_cons.mp h with rfl | h
        · exact List.mem_cons_self
        · exact List.mem_cons_of_mem first (ih h)

theorem Ahead.refl (hs : r.Sound s) : r.Ahead s s := ⟨hs, hs, fun _ => id⟩

theorem Ahead.trans {s' s'' : Session} (h : r.Ahead s s') (h' : r.Ahead s' s'') : r.Ahead s s'' :=
  ⟨h.left, h'.right, fun key hkey => h'.remembers key (h.remembers key hkey)⟩

theorem Ahead.note {s' : Session} (h : r.Ahead s s') (events : List Event) :
    r.Ahead s (s'.note events) := ⟨h.left, h.right, h.remembers⟩

theorem Ahead.note_left {s' : Session} (h : r.Ahead s s') (events : List Event) :
    r.Ahead (s.note events) s' := ⟨h.left, h.right, h.remembers⟩

theorem Settled.ahead {s' : Session} (hs : r.Sound s) (h : r.Settled f s s') : r.Ahead s s' :=
  ⟨hs, h.sound, fun _ => h.remembers⟩

theorem resolveAt_ahead (hr : r.WellFormed) (hf : r.Offers f) (hs : r.Sound s) :
    Leads (r.resolveAt depth f) s (fun _ s' => r.Ahead s s') fun _ s' => r.Ahead s s' :=
  (resolveWithin_settles hr hf hs).mono (fun _ _ h => h.1.ahead hs) fun _ _ h => h.ahead hs

theorem validateFormat_ahead (hr : r.WellFormed) (name : String) (hs : r.Sound s) :
    Leads (r.validateFormat name) s (fun _ s' => r.Ahead s s') fun _ s' => r.Ahead s s' := by
  have hbase : r.Offers (r.getFormat (splitRequest name).1) := offers_getFormat hr _
  unfold validateFormat
  rcases hname : splitRequest name with ⟨base, rules⟩
  rw [hname] at hbase
  dsimp only at hbase ⊢
  split_ifs with hk
  · exact leads_bind (leads_throw (.refl hs))
  cases rules with
  | none => exact leads_pure (.refl hs)
  | some rules =>
    refine leads_bind ((resolveAt_ahead hr hbase hs).mono (fun t s' hs' => ?_) fun _ _ h => h)
    rcases hsort : r.sortRules (r.getFormat base) t rules with ⟨⟨kept, dropped⟩, failure⟩
    have hnote := hs'.note (dropped.map (.alreadyInEffect · (r.getFormat base).id))
    refine leads_bind (leads_modify ?_)
    cases failure with
    | some failure => exact leads_bind (leads_throw hnote)
    | none =>
      dsimp only
      split_ifs with hkept
      · exact leads_bind (leads_throw hnote)
      -- The derived format is given out, since its rules are parts of a text split at commas.
      have hkept : ∀ rule ∈ kept, ',' ∉ rule.toList := by
        intro rule hmem
        have hmem' : rule ∈ (r.sortRules (r.getFormat base) t rules).1.1 := by rwa [hsort]
        exact (isClean_of_splitRequest hname rule (mem_of_mem_sortRules hmem')).comma_notMem
      have hderived := hbase.withCustomRules (by simpa using hk) hkept
      refine leads_bind ((resolveAt_ahead hr hderived hnote.right).mono (fun _ _ h => ?_)
        fun _ _ h => hnote.trans h)
      exact leads_pure (hnote.trans h)

theorem sound_fresh : r.Sound .fresh := fun f t _ h => by cases h

/-- Only forgetting makes a session remember less. -/
theorem afterCall_ahead (hr : r.WellFormed) (hs : r.Sound s) {call : Call} (h : call ≠ .clear) :
    r.Ahead s (r.afterCall s call) := by
  cases call with
  | resolve name depth => exact (resolveAt_ahead hr (offers_getFormat hr name) hs).session
  | validate name => exact (validateFormat_ahead hr name hs).session
  | clear => exact absurd rfl h

theorem afterCall_sound (hr : r.WellFormed) (hs : r.Sound s) (call : Call) :
    r.Sound (r.afterCall s call) := by
  by_cases h : call = .clear
  · subst h
    exact fun f t _ h => by cases h
  · exact (afterCall_ahead hr hs h).right

/-- **Every session is sound**, whatever was asked of it. -/
theorem sound_after (hr : r.WellFormed) (calls : List Call) : r.Sound (r.after calls) := by
  have hrun : ∀ (calls : List Call) (s : Session), r.Sound s →
      r.Sound (calls.foldl r.afterCall s) := by
    intro calls
    induction calls with
    | nil => exact fun _ hs => hs
    | cons call calls ih => exact fun s hs => ih _ (afterCall_sound hr hs call)
  exact hrun calls .fresh sound_fresh

/-! ### Resolution and tables -/

theorem eq_ok_get {ε α : Type} {x : Except ε α} (h : x.toOption.isSome = true) :
    x = .ok (x.toOption.get h) := by
  cases x with
  | error e => cases h
  | ok a => rfl

theorem outcome_eq_ok : r.outcome depth f s = .ok t ↔
    ∃ s', (r.resolveWithin (r.levelsAt depth) f []).run.run s = (.ok t, s') := by
  unfold outcome resolveAt
  rcases (r.resolveWithin (r.levelsAt depth) f []).run.run s with ⟨x, s'⟩
  exact ⟨fun h => ⟨s', by rw [← h]⟩, fun ⟨_, h⟩ => by cases h; rfl⟩

theorem run_resolveAt_of_remembered (h : s.cache.get? f.key = some t) :
    (r.resolveAt depth f).run.run s = (.ok t, s) := by
  rw [resolveAt, resolveWithin_eq, run_resolveBy, h]

theorem outcome_of_remembered (h : s.cache.get? f.key = some t) :
    r.outcome depth f s = .ok t := by
  rw [outcome, run_resolveAt_of_remembered h]

/-- What has resolved is remembered. -/
theorem remembered_of_run {s' : Session} (h : (r.resolveAt depth f).run.run s = (.ok t, s')) :
    s'.cache.get? f.key = some t := by
  rw [resolveAt, resolveWithin_eq, run_resolveBy] at h
  cases hc : s.cache.get? f.key with
  | some u =>
    rw [hc] at h
    cases h
    exact hc
  | none =>
    rw [hc] at h
    dsimp only at h
    split at h
    · cases h
      rw [Session.cache_remember, Assoc.get?_insert_self]
    · cases h

/-- A format that resolves leaves a session that remembers its table. -/
theorem exists_run_of_outcome (h : r.outcome depth f s = .ok t) :
    ∃ s', (r.resolveAt depth f).run.run s = (.ok t, s') ∧ s'.cache.get? f.key = some t := by
  obtain ⟨s', hrun⟩ := outcome_eq_ok.mp h
  exact ⟨s', hrun, remembered_of_run hrun⟩

theorem tableOf_of_outcome (hr : r.WellFormed) (hs : r.Sound s)
    (hf : r.Offers f ∨ s.cache.get? f.key = none) (h : r.outcome depth f s = .ok t) :
    TableOf r f t := by
  obtain ⟨s', hrun⟩ := outcome_eq_ok.mp h
  rcases hf with hf | hnew
  · obtain ⟨hset, ht⟩ := (resolveWithin_settles hr hf hs).of_ok hrun
    exact (hset.sound f t hf ht).1
  · have hlead : Leads (r.resolveBy (r.followWithin (r.levelsAt depth)) f []) s
        (fun t _ => TableOf r f t) fun _ _ => True := by
      refine leads_resolveBy (fun u hu => by rw [hnew] at hu; cases hu) fun _ => ?_
      refine (buildTable_settles hr (followWithin_settles hr _) hs).mono ?_ fun _ _ _ => trivial
      exact fun u s'' ⟨_, hbuilt, _⟩ => hbuilt.tableOf
    rw [resolveWithin_eq] at hrun
    exact hlead.of_ok hrun

/-- What has a table resolves to it, or there are too few levels. -/
theorem outcome_of_tableOf (hr : r.WellFormed) (hs : r.Sound s) (hf : r.Offers f) {n : Nat}
    (h : TableWithin r n f t) : r.outcome depth f s = .ok t
      ∨ r.levelsAt depth < n ∧ ∃ e, e.IsDepth ∧ r.outcome depth f s = .error e := by
  have hlead : Leads (r.resolveWithin (r.levelsAt depth) f []) s _ _ :=
    resolveWithin_completes hr n hf h (fun _ _ _ _ _ => List.not_mem_nil) hs
  rcases hrun : (r.resolveWithin (r.levelsAt depth) f []).run.run s with ⟨e | u, s'⟩
  · obtain ⟨he, hn⟩ := hlead.of_error hrun
    exact .inr ⟨hn, e, he, by rw [outcome, resolveAt, hrun]⟩
  · have hu : r.outcome depth f s = .ok u := outcome_eq_ok.mpr ⟨s', hrun⟩
    rw [hu, (tableOf_of_outcome hr hs (.inl hf) hu).unique ⟨n, h⟩]
    exact .inl rfl

/-- The depth at which so many levels are left. -/
theorem exists_depth (r : FormatRegistry) (n : Nat) : ∃ depth, r.levelsAt depth = n :=
  ⟨r.config.maxRuleDepth + 1 - n, by unfold levelsAt; omega⟩

theorem exists_outcome_of_tableOf (hr : r.WellFormed) (hs : r.Sound s) (hf : r.Offers f)
    (h : TableOf r f t) : ∃ depth, r.outcome depth f s = .ok t := by
  obtain ⟨n, h⟩ := h
  obtain ⟨depth, hdepth⟩ := r.exists_depth n
  refine ⟨depth, (outcome_of_tableOf hr hs hf h).resolve_right ?_⟩
  rintro ⟨hn, -⟩
  omega

theorem ResolvesTo.tableOf (hr : r.WellFormed) (h : r.ResolvesTo f t) : TableOf r f t := by
  obtain ⟨calls, depth, hf, h⟩ := h
  exact tableOf_of_outcome hr (sound_after hr calls) hf h

theorem resolvesTo_iff (hr : r.WellFormed) (hf : r.Offers f) :
    r.ResolvesTo f t ↔ TableOf r f t := by
  refine ⟨fun h => h.tableOf hr, fun h => ?_⟩
  obtain ⟨depth, h⟩ := exists_outcome_of_tableOf hr sound_fresh hf h
  exact ⟨[], depth, .inl hf, h⟩

/-- A choice of a table for every format that has one. -/
theorem exists_tabulatedBy (r : FormatRegistry) : ∃ tables, TabulatedBy (TableOf r) tables := by
  have hex : ∀ sub, ∃ u, ∀ v, TableOf r sub v → v = u := by
    intro sub
    by_cases hsub : ∃ u, TableOf r sub u
    · obtain ⟨u, hu⟩ := hsub
      exact ⟨u, fun v hv => hv.unique hu⟩
    · exact ⟨.empty, fun v hv => absurd ⟨v, hv⟩ hsub⟩
  choose tables htables using hex
  exact ⟨tables, fun sub u hu => ⟨htables sub u hu, hu.regular⟩⟩

/-- What resolves took its steps over the tables of all that it includes. -/
theorem ResolvesTo.exists_tables (hr : r.WellFormed) (h : r.ResolvesTo f t) :
    ∃ tables, r.Tables f tables
      ∧ Steps r (fun sub u => u = tables sub ∧ u.Regular) f (r.ownRules f) t := by
  obtain ⟨tables, htables⟩ := r.exists_tabulatedBy
  have hsteps := (h.tableOf hr).built.steps
  refine ⟨tables, fun sub u hi => ?_, hsteps.mono htables⟩
  rw [resolvesTo_iff hr (hi.offers hr)]
  refine ⟨fun hu => (htables sub u hu).1, ?_⟩
  rintro rfl
  obtain ⟨v, hv⟩ := hsteps.exists_table hi
  rw [← (htables sub v hv).1]
  exact hv

/-- What resolves at once in a fresh session resolves. -/
theorem exists_resolvesTo_of_fresh (hr : r.WellFormed) {name : String}
    (h : (r.outcome 0 (r.getFormat name) .fresh).toOption.isSome = true) :
    ∃ t, r.outcome 0 (r.getFormat name) .fresh = .ok t ∧ r.ResolvesTo (r.getFormat name) t := by
  have hout := eq_ok_get h
  exact ⟨_, hout, [], 0, .inl (offers_getFormat hr name), hout⟩

/-- What a table that is found at once in a fresh session says. -/
theorem exists_resolvesTo_of_map (hr : r.WellFormed) {name : String} {β : Type}
    {g : RuleTable → β} {v : β}
    (h : (r.outcome 0 (r.getFormat name) .fresh).toOption.map g = some v) :
    ∃ t, r.ResolvesTo (r.getFormat name) t ∧ g t = v := by
  have hsome := congrArg Option.isSome h
  rw [Option.isSome_map] at hsome
  obtain ⟨t, hout, ht⟩ := exists_resolvesTo_of_fresh hr hsome
  rw [hout] at h
  exact ⟨t, ht, Option.some.inj h⟩

/-! ### A small registry -/

namespace Sample

/-- A dex without entries. -/
def dex : Dex where
  mod := "gen7"
  gen := 7
  species := .empty
  moves := .empty
  items := .empty
  abilities := .empty
  aliases := .empty

/-- A clause, a format with bans, one that takes some of it back, and one that includes itself. -/
def records : List FormatRecord := [
  { name := "Species Clause", effectType := .validatorRule },
  { name := "Base", ruleset := ["Species Clause"],
    banlist := ["Unreleased", "Illegal + Unreleased"] },
  { name := "Child", ruleset := ["!Species Clause", "Base"],
    unbanlist := ["Unreleased", "Illegal + Unreleased"] },
  { name := "Loop", ruleset := ["Base", "Loop"] }]

/-- The registry of these records, if there is one. -/
def built : Except RegistryError FormatRegistry :=
  build {} (.ofDexes [dex]) .null (records.map .record)

theorem isSome_built : built.toOption.isSome = true := by decide +kernel

/-- The registry of these records. -/
def registry : FormatRegistry := built.toOption.get isSome_built

theorem build_eq : build {} (.ofDexes [dex]) .null (records.map .record) = .ok registry :=
  eq_ok_get isSome_built

theorem exists_resolvesTo {name : String}
    (h : (registry.outcome 0 (registry.getFormat name) .fresh).toOption.isSome = true) :
    ∃ t, registry.outcome 0 (registry.getFormat name) .fresh = .ok t
      ∧ registry.ResolvesTo (registry.getFormat name) t :=
  exists_resolvesTo_of_fresh (wellFormed_of_build build_eq) h

end Sample

/-! ### Answers do not depend on the history -/

/-- **What was asked before makes no difference.**  A format that resolves in a fresh session
resolves to the same table after any calls.  One that resolves after some calls resolves to the same
table in a fresh session, unless there are too few levels for it.  And whatever is remembered for a
format is what a fresh session gives at some depth. -/
theorem outcome_after {config : Config} {dexes : DexCollection} {aliases : Json}
    {entries : List FormatEntry} (hbuild : build config dexes aliases entries = .ok r)
    (calls : List Call) (name : String) (depth : Int) :
    (∀ t, r.outcome depth (r.getFormat name) .fresh = .ok t →
      r.outcome depth (r.getFormat name) (r.after calls) = .ok t)
    ∧ (∀ t, r.outcome depth (r.getFormat name) (r.after calls) = .ok t →
      r.outcome depth (r.getFormat name) .fresh = .ok t
      ∨ ∃ format rule ruleset inner, r.outcome depth (r.getFormat name) .fresh
          = .error (.configuration (.excessiveDepth format rule ruleset) inner))
    ∧ ∀ t, (r.after calls).cache.get? (r.getFormat name).key = some t →
      ∃ depth', r.outcome depth' (r.getFormat name) .fresh = .ok t := by
  have hr := wellFormed_of_build hbuild
  have hf := offers_getFormat hr name
  have hs := sound_after hr calls
  refine ⟨fun t h => ?_, fun t h => ?_, fun t h => ?_⟩
  · obtain ⟨s', hrun⟩ := outcome_eq_ok.mp h
    have hahead : r.Ahead .fresh (r.after calls) :=
      ⟨sound_fresh, hs, fun key ⟨u, hu⟩ => by cases hu⟩
    obtain ⟨t', hrun', -⟩ := resolveWithin_tracks hr _ hf _ _ hahead _ _ hrun
    exact outcome_eq_ok.mpr ⟨t', hrun'⟩
  · obtain ⟨n, hn⟩ := tableOf_of_outcome hr hs (.inl hf) h
    rcases outcome_of_tableOf hr sound_fresh hf hn with h' | ⟨-, e, he, h'⟩
    · exact .inl h'
    · obtain ⟨format, rule, ruleset, inner, rfl⟩ := he
      exact .inr ⟨format, rule, ruleset, inner, h'⟩
  · exact exists_outcome_of_tableOf hr sound_fresh hf (hs _ t hf h).1

/-- Neither a resolution that fails on the way nor a derived format disturbs a later one. -/
theorem outcome_after_loop :
    (Sample.registry.outcome 0 (Sample.registry.getFormat "loop") .fresh).toOption = none
    ∧ ∃ t, Sample.registry.outcome 0 (Sample.registry.getFormat "child") .fresh = .ok t
      ∧ Sample.registry.outcome 0 (Sample.registry.getFormat "child") (Sample.registry.after
          [.resolve "loop" 0, .validate "base@@@+Unreleased", .resolve "child" 0]) = .ok t := by
  obtain ⟨t, h, -⟩ := @Sample.exists_resolvesTo "child" (by decide +kernel)
  exact ⟨by decide +kernel, t, h, (outcome_after Sample.build_eq _ "child" 0).1 t h⟩

end FormatRegistry

end TeamLegality
