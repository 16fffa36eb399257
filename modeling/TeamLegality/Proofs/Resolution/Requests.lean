import TeamLegality.Proofs.Resolution.History

/-!
# Requests — what comes of asking for a format by name

A request with custom rules succeeds when its base resolves, all its rules can be parsed, some of
them are not in effect yet, and the format derived by these resolves (`run_validateFormat_some`).
The key that is returned asks for that format and for nothing that is in effect, so to ask for the
key comes to the same, as long as nothing is forgotten (`validated_keys_stable`).
-/

namespace TeamLegality

namespace FormatRegistry

open SessionM

/-- What comes of validating a name in a session. -/
def validation (r : FormatRegistry) (name : String) (s : Session) : Except Failure String :=
  ((r.validateFormat name).run.run s).1

/-- The custom rules that can be parsed and are not in effect in a table. -/
def newRules (r : FormatRegistry) (f : Format) (t : RuleTable) (rules : List String) :
    List String :=
  rules.filter fun rule => (r.isInEffect f t rule).toOption == some false

variable {r : FormatRegistry} {f : Format} {t u : RuleTable} {s s' s₁ : Session}
  {name base k : String} {rules : List String} {depth : Int}

/-! ### Sorting custom rules -/

theorem sortRules_failure : (r.sortRules f t rules).2 = none ↔
    ∀ rule ∈ rules, ∃ b, r.isInEffect f t rule = .ok b := by
  induction rules with
  | nil => simp [sortRules]
  | cons rule rest ih =>
    rw [List.forall_mem_cons, ← ih, sortRules]
    cases r.isInEffect f t rule with
    | error failure => simp
    | ok inEffect => cases inEffect <;> simp

theorem sortRules_kept (h : ∀ rule ∈ rules, ∃ b, r.isInEffect f t rule = .ok b) :
    (r.sortRules f t rules).1.1 = r.newRules f t rules := by
  induction rules with
  | nil => rfl
  | cons rule rest ih =>
    obtain ⟨⟨inEffect, heq⟩, hrest⟩ := List.forall_mem_cons.mp h
    have hkept := ih hrest
    unfold newRules at hkept ⊢
    rw [sortRules, heq, List.filter_cons, heq]
    cases inEffect <;> simp [hkept, Except.toOption]

theorem isInEffect_of_mem_newRules {rule : String} (h : rule ∈ r.newRules f t rules) :
    r.isInEffect f t rule = .ok false := by
  have hfalse := (List.mem_filter.mp h).2
  cases heq : r.isInEffect f t rule with
  | error failure => simp [heq, Except.toOption] at hfalse
  | ok inEffect => simpa [heq, Except.toOption] using hfalse

/-- What is not in effect is sorted out once. -/
theorem newRules_newRules : r.newRules f t (r.newRules f t rules) = r.newRules f t rules := by
  unfold newRules
  rw [List.filter_filter]
  simp

theorem mem_of_mem_newRules {rule : String} (h : rule ∈ r.newRules f t rules) : rule ∈ rules :=
  (List.mem_filter.mp h).1

/-! ### Runs of a request -/

/-- A request for a format with custom rules takes its course from `s` to `s'`: the format
resolves to `t`, all rules can be parsed and some are new, and with these the format resolves. -/
structure Course (r : FormatRegistry) (f : Format) (rules : List String) (s : Session)
    (t : RuleTable) (s' : Session) : Prop where
  readable : ∀ rule ∈ rules, ∃ b, r.isInEffect f t rule = .ok b
  new_ne : r.newRules f t rules ≠ []
  runs : ∃ s₁ u, (r.resolve f).run.run s = (.ok t, s₁)
    ∧ (r.resolve (f.withCustomRules (r.newRules f t rules))).run.run
      (s₁.note ((r.sortRules f t rules).1.2.map (.alreadyInEffect · f.id))) = (.ok u, s')

theorem run_validateFormat_none (hname : splitRequest name = (base, none)) :
    (r.validateFormat name).run.run s = if (r.getFormat base).isKnown
      then (.ok (r.getFormat base).id, s) else (.error (.of (.unknownFormat base)), s) := by
  unfold validateFormat
  rw [hname]
  dsimp only
  cases (r.getFormat base).isKnown <;> rfl

theorem run_validateFormat_some (hname : splitRequest name = (base, some rules)) :
    (r.validateFormat name).run.run s = (.ok k, s') ↔ (r.getFormat base).isKnown = true
      ∧ ∃ t, r.Course (r.getFormat base) rules s t s'
        ∧ k = ((r.getFormat base).withCustomRules (r.newRules (r.getFormat base) t rules)).key := by
  unfold validateFormat
  rw [hname]
  dsimp only
  cases hk : (r.getFormat base).isKnown with
  | false => exact iff_of_false nofun nofun
  | true =>
    show ((r.resolve (r.getFormat base) >>= _).run.run s = _) ↔ _
    rw [run_bind_ok]
    constructor
    · rintro ⟨t, s₁, hbase, h⟩
      rw [run_bind_ok] at h
      obtain ⟨_, _, hnote, h⟩ := h
      cases hnote
      cases hfailure : (r.sortRules (r.getFormat base) t rules).2 with
      | some failure =>
        rw [hfailure] at h
        cases h
      | none =>
        have hread := sortRules_failure.mp hfailure
        rw [hfailure, sortRules_kept hread] at h
        dsimp only at h
        split_ifs at h with hempty
        · cases h
        · obtain ⟨u, s₂, hderived, h⟩ := run_bind_ok.mp h
          cases h
          exact ⟨rfl, t, ⟨hread, by simpa using hempty, s₁, u, hbase, hderived⟩, rfl⟩
    · rintro ⟨-, t, ⟨hread, hnew, s₁, u, hbase, hderived⟩, rfl⟩
      refine ⟨t, s₁, hbase, ?_⟩
      rw [run_bind_ok]
      refine ⟨_, _, rfl, ?_⟩
      rw [sortRules_failure.mpr hread, sortRules_kept hread]
      simp only [List.isEmpty_iff, hnew, if_false]
      exact run_bind_ok.mpr ⟨u, s', hderived, rfl⟩

/-- A request that succeeds does so again for the rules that are new, in any session that remembers
no less. -/
theorem Course.ahead (hr : r.WellFormed) (hf : r.Offers f) (hk : f.isKnown = true)
    (hrules : ∀ rule ∈ rules, IsClean rule) {s₂ : Session} (hahead : r.Ahead s s₂)
    (h : r.Course f rules s t s') : ∃ s₂', r.Course f (r.newRules f t rules) s₂ t s₂' := by
  obtain ⟨s₁, u, hbase, hderived⟩ := h.runs
  have hoffers : r.Offers (f.withCustomRules (r.newRules f t rules)) :=
    hf.withCustomRules hk fun rule hrule => (hrules rule (mem_of_mem_newRules hrule)).comma_notMem
  obtain ⟨s₃, hbase', hahead'⟩ := resolveWithin_tracks hr _ hf _ _ hahead _ _ hbase
  obtain ⟨s₂', hderived', -⟩ :=
    resolveWithin_tracks hr _ hoffers _ _ ((hahead'.note _).note_left _) _ _ hderived
  refine ⟨s₂', fun rule hrule => ⟨false, isInEffect_of_mem_newRules hrule⟩, ?_, s₃, u, hbase', ?_⟩
  · rw [newRules_newRules]
    exact h.new_ne
  · rw [newRules_newRules]
    exact hderived'

/-- The format that is asked for is remembered. -/
theorem Course.remembers (h : r.Course f rules s t s') :
    s'.Remembers (f.withCustomRules (r.newRules f t rules)).key := by
  obtain ⟨s₁, u, -, hderived⟩ := h.runs
  exact ⟨u, remembered_of_run hderived⟩

/-! ### Later sessions -/

/-- As long as nothing is forgotten, a session remembers what it remembered. -/
theorem ahead_foldl (hr : r.WellFormed) : ∀ {calls : List Call} {s : Session}, r.Sound s →
    .clear ∉ calls → r.Ahead s (calls.foldl r.afterCall s)
  | [], _, hs, _ => .refl hs
  | call :: calls, s, hs, h => by
    obtain ⟨hcall, hrest⟩ := not_or.mp (mt List.mem_cons.mpr h)
    have hnext := afterCall_ahead hr hs (Ne.symm hcall)
    exact hnext.trans (ahead_foldl hr hnext.right hrest)

theorem after_append (calls more : List Call) :
    r.after (calls ++ more) = more.foldl r.afterCall (r.after calls) := List.foldl_append

theorem ahead_after (hr : r.WellFormed) (calls : List Call) (call : Call) {more : List Call}
    (h : .clear ∉ more) :
    r.Ahead (r.afterCall (r.after calls) call) (r.after (calls ++ call :: more)) := by
  rw [after_append, List.foldl_cons]
  exact ahead_foldl hr (afterCall_sound hr (sound_after hr calls) call) h

theorem validation_eq_ok : r.validation name s = .ok k ↔
    ∃ s', (r.validateFormat name).run.run s = (.ok k, s') := by
  unfold validation
  rcases (r.validateFormat name).run.run s with ⟨x, s'⟩
  exact ⟨fun h => ⟨s', by rw [← h]⟩, fun ⟨_, h⟩ => by cases h; rfl⟩

/-! ### Asking for a key -/

/-- A format is found by its own identifier, if it is registered. -/
def IsFoundById (r : FormatRegistry) (f : Format) : Prop :=
  r.formats.get? f.id = some f → r.getFormat f.id = f

/-- What a request finds without its custom rules is registered. -/
theorem registered_of_request (hr : r.WellFormed) {asked : Option (List String)}
    (hname : splitRequest name = (base, asked)) (hk : (r.getFormat base).isKnown = true) :
    r.formats.get? (r.getFormat base).id = some (r.getFormat base) :=
  registered_of_splitName hr (splitName_of_splitRequest hname) hk

/-- A key finds a registered format with some clean rules, of which it is the key, and is validated
to itself in any session that remembers no less than `s`. -/
structure Stable (r : FormatRegistry) (f : Format) (kept : List String) (s : Session)
    (k : String) : Prop where
  registered : r.formats.get? f.id = some f
  clean : ∀ rule ∈ kept, IsClean rule
  key_eq : (f.withCustomRules kept).key = k
  found : r.getFormat k = f.withCustomRules kept
  again : ∀ s', r.Ahead s s' → r.validation k s' = .ok k

/-- A name without custom rules is validated to the identifier of its format. -/
theorem stable_of_none (hr : r.WellFormed) (hown : r.IsFoundById (r.getFormat base))
    (hname : splitRequest name = (base, none)) (h : r.validation name s = .ok k) :
    r.Stable (r.getFormat base) [] s k := by
  obtain ⟨s', hrun⟩ := validation_eq_ok.mp h
  rw [run_validateFormat_none hname] at hrun
  cases hk : (r.getFormat base).isKnown with
  | false =>
    rw [hk, if_neg Bool.false_ne_true] at hrun
    cases hrun
  | true =>
    rw [hk, if_pos rfl] at hrun
    cases hrun
    have hreg := registered_of_request hr hname hk
    have hbare : (r.getFormat base).withCustomRules [] = r.getFormat base := by
      rw [← (hr _ _ hreg).bare]
      rfl
    refine ⟨hreg, by simp, ?_, ?_, fun s' _ => validation_eq_ok.mpr ⟨s', ?_⟩⟩
    · rw [hbare, key_of_bare (hr _ _ hreg)]
    · rw [hbare, hown hreg]
    · rw [run_validateFormat_none (splitRequest_id (hr _ _ hreg)), hown hreg, if_pos hk]

/-- A name with custom rules is validated to the key of the format with those that are new. -/
theorem stable_of_some (hr : r.WellFormed) (hown : r.IsFoundById (r.getFormat base))
    (hname : splitRequest name = (base, some rules)) (h : r.validation name s = .ok k) :
    ∃ t, r.Course (r.getFormat base) rules s t (r.afterCall s (.validate name))
      ∧ r.Stable (r.getFormat base) (r.newRules (r.getFormat base) t rules) s k := by
  obtain ⟨s', hrun⟩ := validation_eq_ok.mp h
  have hs' : s' = r.afterCall s (.validate name) := by rw [afterCall, hrun]
  obtain ⟨hk, t, hcourse, rfl⟩ := (run_validateFormat_some hname).mp hrun
  have hreg := registered_of_request hr hname hk
  have hrules := isClean_of_splitRequest hname
  have hnew : ∀ rule ∈ r.newRules (r.getFormat base) t rules, IsClean rule :=
    fun rule hrule => hrules rule (mem_of_mem_newRules hrule)
  refine ⟨t, hs' ▸ hcourse, hreg, hnew, rfl, getFormat_key (hr _ _ hreg) (hown hreg) hnew, ?_⟩
  intro s₂ hahead
  obtain ⟨s₃, hcourse'⟩ := hcourse.ahead hr (.registered hr hreg) hk hrules hahead
  have hkey := splitRequest_key (hr _ _ hreg) hcourse.new_ne hnew
  refine validation_eq_ok.mpr ⟨s₃, (run_validateFormat_some hkey).mpr ?_⟩
  rw [hown hreg]
  exact ⟨hk, t, hcourse', by rw [newRules_newRules]⟩

/-- **Validated keys are stable.**  In a registry where every format is found by its own
identifier, the key that a name is validated to holds no line break and no bar, and is validated to
itself as long as nothing is forgotten.  It finds an existing format whose key it is: the one that
the name finds without its custom rules, with those of them for its own that are not in effect
there.  A key with custom rules resolves as long as nothing is forgotten. -/
theorem validated_keys_stable {config : Config} {dexes : DexCollection} {aliases : Json}
    {entries : List FormatEntry} (hbuild : build config dexes aliases entries = .ok r)
    (hown : ∀ f, r.IsFoundById f) {calls : List Call}
    (h : r.validation name (r.after calls) = .ok k) :
    ('\r' ∉ k.toList ∧ '\n' ∉ k.toList ∧ '|' ∉ k.toList)
    ∧ (∀ more, .clear ∉ more → r.validation k (r.after (calls ++ more)) = .ok k)
    ∧ (r.getFormat k).isKnown = true ∧ (r.getFormat k).key = k
    ∧ (∀ base, splitRequest name = (base, none) → r.getFormat k = r.getFormat base)
    ∧ ∀ base rules, splitRequest name = (base, some rules) →
      (∃ t, r.ResolvesTo (r.getFormat base) t ∧ r.getFormat k
        = (r.getFormat base).withCustomRules (r.newRules (r.getFormat base) t rules))
      ∧ ∀ more, .clear ∉ more → ∀ depth, ∃ t, r.outcome depth (r.getFormat k)
        (r.after (calls ++ .validate name :: more)) = .ok t := by
  have hr := wellFormed_of_build hbuild
  have hs := sound_after hr calls
  have hstable : ∃ f kept, r.Stable f kept (r.after calls) k := by
    rcases hname : splitRequest name with ⟨base, _ | rules⟩
    · exact ⟨_, _, stable_of_none hr (hown _) hname h⟩
    · obtain ⟨t, -, hstable⟩ := stable_of_some hr (hown _) hname h
      exact ⟨_, _, hstable⟩
  obtain ⟨f, kept, hstable⟩ := hstable
  have hnoise : ∀ c, isNoise c = true → c ∉ k.toList := by
    intro c hc hmem
    rw [← hstable.key_eq] at hmem
    simp [noise_notMem_key (hr _ _ hstable.registered) hstable.clean c hmem] at hc
  refine ⟨⟨hnoise _ (by decide), hnoise _ (by decide), hnoise _ (by decide)⟩, ?_, ?_, ?_, ?_, ?_⟩
  · intro more hmore
    rw [after_append]
    exact hstable.again _ (ahead_foldl hr hs hmore)
  · rw [hstable.found]
    exact (hr _ _ hstable.registered).known
  · rw [hstable.found, hstable.key_eq]
  · intro base hname
    have hstable := stable_of_none hr (hown _) hname h
    rw [hstable.found, ← (hr _ _ hstable.registered).bare]
    rfl
  · intro base rules hname
    obtain ⟨t, hcourse, hstable⟩ := stable_of_some hr (hown _) hname h
    have hf : r.Offers (r.getFormat base) := .registered hr hstable.registered
    obtain ⟨s₁, -, hbase, -⟩ := hcourse.runs
    refine ⟨⟨t, ⟨calls, 0, .inl hf, outcome_eq_ok.mpr ⟨s₁, hbase⟩⟩, hstable.found⟩, ?_⟩
    intro more hmore depth
    obtain ⟨u, hu⟩ := (ahead_after hr calls (.validate name) hmore).remembers _ hcourse.remembers
    refine ⟨u, outcome_of_remembered ?_⟩
    rw [hstable.found]
    exact hu

theorem Sample.isFoundById (f : Format) : Sample.registry.IsFoundById f := by
  have hall : ∀ id ∈ Sample.registry.formats.keys,
      Sample.registry.formats.get? id = some (Sample.registry.getFormat id) := by decide +kernel
  intro hf
  have hmem : f.id ∈ Sample.registry.formats.keys :=
    (Assoc.contains_iff_mem_keys _ _).mp (by simp [Assoc.contains, hf])
  have hfound := hall f.id hmem
  rw [hf] at hfound
  exact (Option.some.inj hfound).symm

/-- A request with blanks, a line break, and a rule that is in effect already. -/
theorem validated_keys_stable_base :
    Sample.registry.validation "Base@@@ Species Clause,-Il\nlegal" (Sample.registry.after [])
      = .ok "base@@@-Illegal"
    ∧ Sample.registry.validation "base@@@-Illegal" (Sample.registry.after [.resolve "loop" 0])
      = .ok "base@@@-Illegal"
    ∧ (Sample.registry.getFormat "base@@@-Illegal").isKnown = true
    ∧ ∃ t, Sample.registry.outcome 0 (Sample.registry.getFormat "base@@@-Illegal")
      (Sample.registry.after [.validate "Base@@@ Species Clause,-Il\nlegal"]) = .ok t := by
  have hval : Sample.registry.validation "Base@@@ Species Clause,-Il\nlegal"
      (Sample.registry.after []) = .ok "base@@@-Illegal" := by decide +kernel
  obtain ⟨-, hagain, hknown, -, -, hcustom⟩ :=
    validated_keys_stable Sample.build_eq Sample.isFoundById hval
  have hname : splitRequest "Base@@@ Species Clause,-Il\nlegal"
      = ("Base", some ["Species Clause", "-Illegal"]) := by decide +kernel
  exact ⟨hval, hagain [.resolve "loop" 0] (by decide), hknown,
    (hcustom _ _ hname).2 [] (by decide) 0⟩

/-- A format that includes itself is validated by its name, though it does not resolve. -/
theorem unresolved_key_loop : (∀ f, Sample.registry.IsFoundById f)
    ∧ Sample.registry.validation "Loop" (Sample.registry.after []) = .ok "loop"
    ∧ ¬ ∃ t, Sample.registry.outcome 0 (Sample.registry.getFormat "loop")
      (Sample.registry.after [.validate "Loop"]) = .ok t := by
  have hfail : (Sample.registry.outcome 0 (Sample.registry.getFormat "loop")
      (Sample.registry.after [.validate "Loop"])).toOption = none := by decide +kernel
  refine ⟨Sample.isFoundById, by decide +kernel, fun ⟨t, ht⟩ => ?_⟩
  rw [ht] at hfail
  cases hfail

end FormatRegistry

end TeamLegality
