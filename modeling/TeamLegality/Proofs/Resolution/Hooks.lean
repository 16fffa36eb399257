import TeamLegality.Proofs.Resolution.Cycles

/-!
# Hooks — how the legality hooks of a format and of what it includes combine

The hooks that meet in a format are its own and those of the tables that it includes, in order
(`hooks`).  While they have one name the table keeps the first of them (`Steps.hook_eq`); the first
one that has another name ends the resolution (`Fails.conflict`).  So whether a format resolves,
when nothing else is at fault, and the hook of its table are told from these hooks alone
(`hooks_combined`).
-/

namespace TeamLegality

namespace RuleTable

variable {t t' u : RuleTable} {origin format : String} {hook hook' : LegalityHook}

/-- Inheriting keeps the hook that is there, and otherwise takes over the inherited one. -/
theorem hook_inheritFrom_eq (h : t.inheritFrom u origin format = .ok t') :
    t'.hook = t.hook.or u.hook := by
  unfold inheritFrom inheritHook at h
  rw [hook_inheritCombinations] at h
  split at h
  · next hu =>
    cases h
    rw [hook_inheritCombinations, hu, Option.or_none]
  · next hook ht hu =>
    cases h
    rw [ht, hu, Option.none_or]
  · next hook hook' ht hu =>
    split_ifs at h
    cases h
    rw [hook_inheritCombinations, ht, Option.some_or]

/-- Tables that do not conflict have hooks of one name. -/
theorem name_eq_of_inheritFrom (h : t.inheritFrom u origin format = .ok t')
    (ht : t.hook = some hook) (hu : u.hook = some hook') : hook.name = hook'.name := by
  unfold inheritFrom inheritHook at h
  rw [hook_inheritCombinations, ht, hu] at h
  dsimp only at h
  split_ifs at h with hname
  exact hname

theorem hook_referTo {id : String} : (t.referTo id).hook = t.hook := hook_set

end RuleTable

namespace FormatRegistry

open SessionM

/-! ### The hooks that meet in a format -/

/-- The hook that an entry brings in, that of the table of a format that is included. -/
def Entry.hook? (tables : Format → RuleTable) : Entry → Option LegalityHook
  | .own _ => none
  | .inclusion sub => (tables sub).hook

/-- The hook that a format declares, and those that some rules of it bring in, in order. -/
def hooksAfter (r : FormatRegistry) (tables : Format → RuleTable) (f : Format)
    (specs : List RuleSpec) : List LegalityHook :=
  f.declaredHook?.toList ++ (r.entriesAfter [] specs).filterMap (Entry.hook? tables)

/-- The hooks that meet in a format: its own, and those of what it includes, in order. -/
def hooks (r : FormatRegistry) (tables : Format → RuleTable) (f : Format) : List LegalityHook :=
  r.hooksAfter tables f (r.ownRules f)

/-- Hooks of one name. -/
def HaveOneName (hooks : List LegalityHook) : Prop :=
  ∀ hook ∈ hooks, ∀ hook' ∈ hooks, hook.name = hook'.name

variable {r : FormatRegistry} {tables : Format → RuleTable}
  {f g sub : Format} {t t' u : RuleTable} {done specs : List RuleSpec} {spec : RuleSpec}
  {hook hook' : LegalityHook} {hooks more : List LegalityHook} {before after stack : List String}
  {rule : String} {e : Failure} {levels : Nat} {depth : Int}

theorem haveOneName_nil : HaveOneName [] := by simp [HaveOneName]

theorem haveOneName_append :
    HaveOneName (hooks ++ more) ↔ HaveOneName hooks ∧ HaveOneName more
      ∧ ∀ hook ∈ hooks, ∀ hook' ∈ more, hook.name = hook'.name := by
  constructor
  · intro h
    refine ⟨fun hook hh hook' hh' => ?_, fun hook hh hook' hh' => ?_, fun hook hh hook' hh' => ?_⟩
    · exact h hook (List.mem_append_left _ hh) hook' (List.mem_append_left _ hh')
    · exact h hook (List.mem_append_right _ hh) hook' (List.mem_append_right _ hh')
    · exact h hook (List.mem_append_left _ hh) hook' (List.mem_append_right _ hh')
  · rintro ⟨hleft, hright, hacross⟩ hook hh hook' hh'
    rcases List.mem_append.mp hh with hh | hh <;> rcases List.mem_append.mp hh' with hh' | hh'
    · exact hleft hook hh hook' hh'
    · exact hacross hook hh hook' hh'
    · exact (hacross hook' hh' hook hh).symm
    · exact hright hook hh hook' hh'

theorem haveOneName_toList (hook? : Option LegalityHook) : HaveOneName hook?.toList := by
  cases hook? with
  | none => exact haveOneName_nil
  | some hook => simp [HaveOneName]

theorem hooksAfter_append : r.hooksAfter tables f (done ++ specs)
    = r.hooksAfter tables f done
      ++ (r.entriesAfter done specs).filterMap (Entry.hook? tables) := by
  rw [hooksAfter, hooksAfter, entriesAfter_append, List.filterMap_append, List.append_assoc,
    List.nil_append]

/-- The hooks after one more rule. -/
theorem hooksAfter_snoc : r.hooksAfter tables f (done ++ [spec]) = r.hooksAfter tables f done
    ++ ((r.contribution? done spec).bind (Entry.hook? tables)).toList := by
  rw [hooksAfter_append, entriesAfter, entriesAfter, List.append_nil]
  cases hc : r.contribution? done spec with
  | none => rfl
  | some entry => cases hh : Entry.hook? tables entry <;> simp [hh]

/-! ### The hook of a table -/

/-- A rule leaves the hook of a table alone, unless the table has none and the rule brings one in. -/
theorem Step.hook_eq (h : Step r (fun sub u => u = tables sub) f done t spec t') :
    t'.hook = t.hook.or ((r.contribution? done spec).bind (Entry.hook? tables)) := by
  cases h with
  | @included id u _ hs hk hu ht' =>
    rw [contribution?_of_included hs hk, RuleTable.hook_inheritFrom_eq ht', RuleTable.hook_referTo,
      hu]
    rfl
  | passed id hs =>
    rw [contribution?_of_passed hs]
    exact Option.or_none.symm
  | missing id hs hk =>
    rw [contribution?_of_missing hk, RuleTable.hook_referTo]
    exact Option.or_none.symm
  | teamBan c => exact Option.or_none.symm
  | complexBan c => exact Option.or_none.symm
  | ban target => exact Option.or_none.symm
  | unban target => exact Option.or_none.symm
  | suppress id => exact Option.or_none.symm

theorem Step.name_eq (h : Step r (fun sub u => u = tables sub) f done t spec t')
    (ht : t.hook = some hook)
    (hc : (r.contribution? done spec).bind (Entry.hook? tables) = some hook') :
    hook.name = hook'.name := by
  obtain ⟨entry, hentry, hhook⟩ := Option.bind_eq_some_iff.mp hc
  cases entry with
  | own spec => cases hhook
  | inclusion sub =>
    obtain ⟨u, rfl, hok⟩ := h.exists_inherited hentry
    exact RuleTable.name_eq_of_inheritFrom hok (RuleTable.hook_referTo.trans ht) hhook

/-- **The hook of a table** is the first of those that meet in its format, and these have one name. -/
theorem Steps.hook_eq (h : Steps r (fun sub u => u = tables sub) f specs t) :
    t.hook = (r.hooksAfter tables f specs).head? ∧ HaveOneName (r.hooksAfter tables f specs) := by
  induction h with
  | start =>
    rw [hooksAfter, entriesAfter, List.filterMap_nil, List.append_nil, Option.head?_toList]
    exact ⟨rfl, haveOneName_toList _⟩
  | @snoc done t t' spec h hs ih =>
    obtain ⟨hhead, hname⟩ := ih
    rw [hooksAfter_snoc, List.head?_append, Option.head?_toList, ← hhead, haveOneName_append]
    refine ⟨hs.hook_eq, hname, haveOneName_toList _, fun hook hmem hook' hnew => ?_⟩
    obtain ⟨first, hfirst⟩ := Option.isSome_iff_exists.mp
      (List.isSome_head?.mpr (List.ne_nil_of_mem hmem))
    rw [hname hook hmem first (List.mem_of_head? hfirst)]
    exact hs.name_eq (hhead.trans hfirst) (Option.mem_toList.mp hnew)

/-- The first hook is that of the format, and otherwise that of the first included format that has
one. -/
theorem head?_hooks : (r.hooks tables f).head?
    = f.declaredHook?.or ((r.entries f).findSome? (Entry.hook? tables)) := by
  rw [hooks, hooksAfter, List.head?_append, Option.head?_toList, List.head?_filterMap]
  rfl

theorem Tables.eq_of_tableOf (hr : r.WellFormed) (h : r.Tables f tables) (hincl : r.Includes f sub)
    (hu : TableOf r sub u) : u = tables sub :=
  (h sub u hincl).mp ((resolvesTo_iff hr (hincl.offers hr)).mpr hu)

theorem Tables.tableOf (hr : r.WellFormed) (h : r.Tables f tables) (hincl : r.Includes f sub) :
    TableOf r sub (tables sub) :=
  (resolvesTo_iff hr (hincl.offers hr)).mp ((h sub _ hincl).mpr rfl)

theorem TableOf.hook_eq (hr : r.WellFormed) (h : TableOf r f t) (htables : r.Tables f tables) :
    t.hook = (r.hooks tables f).head? ∧ HaveOneName (r.hooks tables f) :=
  (h.built.steps.mono_of_mem fun _ _ hincl hu => htables.eq_of_tableOf hr hincl hu).hook_eq

/-- A hook that meets in a format has the name of the hook of the table. -/
theorem TableOf.hook_of_mem (hr : r.WellFormed) (h : TableOf r f t) (htables : r.Tables f tables)
    (hmem : hook ∈ r.hooks tables f) : t.hook.map (·.name) = some hook.name := by
  obtain ⟨hhead, hname⟩ := h.hook_eq hr htables
  obtain ⟨first, hfirst⟩ := Option.isSome_iff_exists.mp
    (List.isSome_head?.mpr (List.ne_nil_of_mem hmem))
  rw [hhead, hfirst, Option.map_some, hname first (List.mem_of_head? hfirst) hook hmem]

/-- **Every hook that is reached has the name of the hook of the table.** -/
theorem ResolvesTo.hook_of_reaches (hr : r.WellFormed) (hreach : r.Reaches f g)
    (hg : g.declaredHook? = some hook) :
    ∀ {t : RuleTable}, r.ResolvesTo f t → t.hook.map (·.name) = some hook.name := by
  -- Up the inclusions from `g`: a table takes the name of what it includes.
  induction hreach using Relation.ReflTransGen.head_induction_on with
  | refl =>
    intro t h
    obtain ⟨tables, htables, -⟩ := h.exists_tables hr
    refine (h.tableOf hr).hook_of_mem hr htables (List.mem_append_left _ ?_)
    exact Option.mem_toList.mpr hg
  | @head f sub hincl _ ih =>
    intro t h
    obtain ⟨tables, htables, -⟩ := h.exists_tables hr
    obtain ⟨hook', hhook', hname⟩ :=
      Option.map_eq_some_iff.mp (ih ((htables sub _ hincl).mpr rfl))
    rw [← hname]
    refine (h.tableOf hr).hook_of_mem hr htables (List.mem_append_right _ ?_)
    exact List.mem_filterMap.mpr ⟨.inclusion sub, hincl, hhook'⟩

/-! ### Hooks that conflict -/

/-- The first hook of all, and the first one that has another name. -/
structure Clash (hooks : List LegalityHook) (current inherited : LegalityHook) : Prop where
  first : hooks.head? = some current
  other : hooks.find? (fun hook => hook.name ≠ current.name) = some inherited

theorem Clash.unique {current current' inherited inherited' : LegalityHook}
    (h : Clash hooks current inherited) (h' : Clash hooks current' inherited') :
    current = current' ∧ inherited = inherited' := by
  obtain rfl := Option.some.inj (h.first.symm.trans h'.first)
  exact ⟨rfl, Option.some.inj (h.other.symm.trans h'.other)⟩

theorem exists_clash_iff : (∃ current inherited, Clash hooks current inherited)
    ↔ ¬ HaveOneName hooks := by
  constructor
  · rintro ⟨current, inherited, hfirst, hother⟩ h
    have hne := List.find?_some hother
    exact absurd (h inherited (List.mem_of_find?_eq_some hother) current (List.mem_of_head? hfirst))
      (by simpa using hne)
  · intro h
    cases hooks with
    | nil => exact absurd haveOneName_nil h
    | cons current rest =>
      cases hother : (current :: rest).find? fun hook => hook.name ≠ current.name with
      | some inherited => exact ⟨current, inherited, rfl, hother⟩
      | none =>
        have hall : ∀ hook ∈ current :: rest, hook.name = current.name := by
          simpa using List.find?_eq_none.mp hother
        exact absurd (fun hook hh hook' hh' => (hall hook hh).trans (hall hook' hh').symm) h

/-- Hooks of one name clash with one of another name that follows them. -/
theorem clash_append {current inherited : LegalityHook} (hname : HaveOneName hooks)
    (hfirst : hooks.head? = some current) (hne : current.name ≠ inherited.name) :
    Clash (hooks ++ inherited :: more) current inherited where
  first := by
    rw [List.head?_append, hfirst]
    rfl
  other := by
    have hnone : hooks.find? (fun hook => hook.name ≠ current.name) = none := by
      rw [List.find?_eq_none]
      intro hook hmem
      simp [hname hook hmem current (List.mem_of_head? hfirst)]
    rw [List.find?_append, hnone, Option.none_or, List.find?_cons_of_pos (by simpa using hne.symm)]

/-- **A conflict is the clash of the hooks that meet.** -/
theorem FaultAt.clash (hr : r.WellFormed) (htables : r.Tables f tables)
    (h : FaultAt r f stack levels before t rule after e)
    (hc : r.contribution? (r.specsOf f before) spec = some (.inclusion sub))
    (hp : RuleSpec.parse r (some f) rule = .ok spec) (hu : TableOf r sub u)
    (ht : t.hook = some hook) (hhook : u.hook = some hook') (hne : hook.name ≠ hook'.name) :
    Clash (r.hooks tables f) hook hook' := by
  have hincl : ∀ sub, .inclusion sub ∈ r.entriesAfter [] (r.specsOf f before) →
      r.Includes f sub := by
    intro sub hsub
    rw [Includes, entries, ownRules, h.place, specsOf_append, entriesAfter_append]
    exact List.mem_append_left _ hsub
  obtain ⟨hhead, hname⟩ := (h.steps.mono_of_mem fun sub u hsub hu =>
    htables.eq_of_tableOf hr (hincl sub hsub) hu).hook_eq
  rw [htables.eq_of_tableOf hr (includes_of_contribution h.place hp hc) hu] at hhook
  have hooks_eq : r.hooks tables f = r.hooksAfter tables f (r.specsOf f before) ++ hook'
      :: (r.entriesAfter (r.specsOf f before ++ [spec]) (r.specsOf f after)).filterMap
        (Entry.hook? tables) := by
    rw [hooks, ownRules, h.place, List.append_cons, specsOf_append, specsOf_append,
      specsOf_singleton hp, hooksAfter_append, hooksAfter_snoc, hc, Option.bind_some]
    show _ ++ (tables sub).hook.toList ++ _ = _
    rw [hhook, Option.toList_some, List.append_assoc, List.singleton_append]
  rw [hooks_eq]
  exact clash_append hname (hhead.symm.trans ht) hne

/-- When all that `f` says can be read and all that it includes has a table, only the levels and the
hooks can be at fault. -/
theorem Fails.clash (hr : r.WellFormed) (hf : r.Offers f) (hread : r.Readable f)
    (htables : r.Tables f tables) (h : Fails r levels [] f e) (hdepth : ¬ e.IsDepth) :
    ∃ current inherited, Clash (r.hooks tables f) current inherited
      ∧ e = .configuration (.conflictingHooks f.name current.source inherited.source)
        (some f.name) := by
  have hself : ¬ r.ReachesBelow f f := by
    intro hcycle
    obtain ⟨sub, hincl, hreach⟩ := Relation.TransGen.head'_iff.mp hcycle
    exact (htables.tableOf hr hincl).not_reachesCycle ⟨f, hreach, hcycle⟩
  have hapart : ∀ sub, r.Includes f sub → ∀ g, r.Reaches sub g → g.key ≠ f.key :=
    fun _ hincl _ hreach => ReachesBelow.key_ne hr hf (.head' hincl hreach) hself
  cases h with
  | @own _ _ _ before t rule after e h =>
    cases h.fault with
    | unreadable hp =>
      obtain ⟨spec, hp'⟩ := hread rule (by simp [h.place])
      rw [hp] at hp'
      cases hp'
    | @cyclic spec sub hp hc hstack =>
      have hincl := includes_of_contribution h.place hp hc
      exact absurd (List.mem_singleton.mp hstack) (hapart sub hincl sub .refl)
    | tooDeep hp hc hnew hlevels => exact absurd ⟨_, _, _, _, rfl⟩ hdepth
    | @conflict spec sub u cause hp hc hu hi =>
      obtain ⟨current, inherited, ht, hhook, hne, rfl⟩ := RuleTable.hooks_of_inheritFrom_error hi
      rw [RuleTable.hook_referTo] at ht
      exact ⟨current, inherited, h.clash hr htables hc hp hu ht hhook hne, rfl⟩
  | @included levels _ _ sub e hincl hnew h =>
    refine absurd (h.isDepth hr (hincl.offers hr) (htables.tableOf hr hincl) ?_) hdepth
    intro g hreach hmem
    exact hapart sub hincl g hreach (List.mem_singleton.mp hmem)

/-- **How hooks combine.**  Let all rules of a format be such that they can be parsed, let all that
it includes resolve, and let the limit on the depth not be what ends the resolution.  Then hooks
conflict exactly when two of those that meet in the format have different names, and the failure
names the format, the source of the first hook and that of the first one with another name.
Otherwise the format resolves, and its table has the hook that the format declares, or else that of
the first included format that has one; it has none exactly when none meets there.  Whatever a
format that resolves reaches declares the hook of its table, if any. -/
theorem hooks_combined {config : Config} {dexes : DexCollection} {aliases : Json}
    {entries : List FormatEntry} (hbuild : build config dexes aliases entries = .ok r) :
    (∀ calls depth f tables, r.Offers f → r.Readable f → r.Tables f tables →
      (∀ e, r.outcome depth f (r.after calls) = .error e → ¬ e.IsDepth) →
      ((∃ format current inherited name, r.outcome depth f (r.after calls)
          = .error (.configuration (.conflictingHooks format current inherited) name))
        ↔ ∃ hook ∈ r.hooks tables f, ∃ hook' ∈ r.hooks tables f, hook.name ≠ hook'.name)
      ∧ (∀ current inherited, Clash (r.hooks tables f) current inherited →
        r.outcome depth f (r.after calls) = .error (.configuration
          (.conflictingHooks f.name current.source inherited.source) (some f.name)))
      ∧ (HaveOneName (r.hooks tables f) → ∃ t, r.outcome depth f (r.after calls) = .ok t
        ∧ (t.hook = none ↔ r.hooks tables f = [])
        ∧ (∀ hook ∈ r.hooks tables f, t.hook.map (·.name) = some hook.name)
        ∧ t.hook = f.declaredHook?.or ((r.entries f).findSome? (Entry.hook? tables))))
    ∧ ∀ f t, r.ResolvesTo f t → ∀ g hook, r.Reaches f g → g.declaredHook? = some hook →
      t.hook.map (·.name) = some hook.name := by
  have hr := wellFormed_of_build hbuild
  refine ⟨fun calls depth f tables hf hread htables hguard => ?_, fun f t h g hook hreach hg =>
    h.hook_of_reaches hr hreach hg⟩
  have hs := sound_after hr calls
  have hends : (∃ t, r.outcome depth f (r.after calls) = .ok t ∧ TableOf r f t)
      ∨ ∃ current inherited, Clash (r.hooks tables f) current inherited
        ∧ r.outcome depth f (r.after calls) = .error (.configuration
          (.conflictingHooks f.name current.source inherited.source) (some f.name)) := by
    cases hout : r.outcome depth f (r.after calls) with
    | ok t => exact .inl ⟨t, rfl, tableOf_of_outcome hr hs (.inl hf) hout⟩
    | error e =>
      have hfails := (resolveWithin_fails hr (r.levelsAt depth) f [] _ hs).of_error (Prod.ext hout rfl)
      obtain ⟨current, inherited, hclash, rfl⟩ :=
        hfails.clash hr hf hread htables (hguard e hout)
      exact .inr ⟨current, inherited, hclash, rfl⟩
  rcases hends with ⟨t, hout, ht⟩ | ⟨current, inherited, hclash, hout⟩
  · obtain ⟨hhead, hname⟩ := ht.hook_eq hr htables
    refine ⟨iff_of_false ?_ ?_, fun current inherited hclash => ?_, fun _ => ⟨t, hout, ?_, ?_, ?_⟩⟩
    · rintro ⟨format, current, inherited, name, herror⟩
      cases hout.symm.trans herror
    · rintro ⟨hook, hh, hook', hh', hne⟩
      exact hne (hname hook hh hook' hh')
    · exact absurd hname (exists_clash_iff.mp ⟨current, inherited, hclash⟩)
    · rw [hhead, List.head?_eq_none_iff]
    · exact fun hook hmem => ht.hook_of_mem hr htables hmem
    · rw [hhead, head?_hooks]
  · have hnot := exists_clash_iff.mp ⟨current, inherited, hclash⟩
    refine ⟨iff_of_true ⟨_, _, _, _, hout⟩ ?_, fun current' inherited' hclash' => ?_,
      fun hname => absurd hname hnot⟩
    · unfold HaveOneName at hnot
      push Not at hnot
      exact hnot
    · obtain ⟨rfl, rfl⟩ := hclash.unique hclash'
      exact hout

/-! ### A registry with two hooks -/

/-- The tables that formats have in a fresh session, where they have any. -/
def freshTables (r : FormatRegistry) (f : Format) : RuleTable :=
  (r.outcome 0 f .fresh).toOption.getD .empty

theorem tables_freshTables (hr : r.WellFormed)
    (h : ∀ sub, r.Includes f sub → (r.outcome 0 sub .fresh).toOption.isSome = true) :
    r.Tables f r.freshTables := by
  intro sub u hincl
  have hout := eq_ok_get (h sub hincl)
  have htable : r.ResolvesTo sub (r.freshTables sub) := by
    refine ⟨[], 0, .inl (hincl.offers hr), ?_⟩
    show r.outcome 0 sub .fresh = _
    rw [freshTables, hout]
    rfl
  refine ⟨fun hu => (hu.tableOf hr).unique (htable.tableOf hr), ?_⟩
  rintro rfl
  exact htable

namespace Hooked

/-- Two formats with different hooks, one that includes the first of them, one that includes all
three, and one that suppresses what does not fit. -/
def records : List FormatRecord := [
  { name := "Strict", learnsetCheck := some "strict" },
  { name := "Lax", learnsetCheck := some "lax" },
  { name := "Wrap", ruleset := ["Strict"] },
  { name := "Mixed", ruleset := ["Wrap", "Strict", "Lax"] },
  { name := "Calm", ruleset := ["!Lax", "Wrap", "Strict", "Lax"] }]

/-- The registry of these records, if there is one. -/
def built : Except RegistryError FormatRegistry :=
  build {} (.ofDexes [Sample.dex]) .null (records.map .record)

theorem isSome_built : built.toOption.isSome = true := by decide +kernel

/-- The registry of these records. -/
def registry : FormatRegistry := built.toOption.get isSome_built

theorem build_eq : build {} (.ofDexes [Sample.dex]) .null (records.map .record) = .ok registry :=
  eq_ok_get isSome_built

theorem readable {name : String} (h : name ∈ ["mixed", "calm"]) :
    registry.Readable (registry.getFormat name) := by
  have hall : ∀ name ∈ ["mixed", "calm"], ∀ rule ∈ (registry.getFormat name).workingRules,
      (RuleSpec.parse registry (some (registry.getFormat name)) rule).toOption.isSome = true := by
    decide +kernel
  intro rule hrule
  exact ⟨_, eq_ok_get (hall name h rule hrule)⟩

theorem isTabulated {name : String} (h : name ∈ ["mixed", "calm"]) :
    registry.Tables (registry.getFormat name) registry.freshTables := by
  have hall : ∀ name ∈ ["mixed", "calm"], ((registry.entries (registry.getFormat name)).all fun
      | .own _ => true
      | .inclusion sub => (registry.outcome 0 sub .fresh).toOption.isSome) = true := by
    decide +kernel
  refine tables_freshTables (wellFormed_of_build build_eq) fun sub hincl => ?_
  exact List.all_eq_true.mp (hall name h) _ hincl

/-- Whether hooks conflict in an outcome. -/
def isClash : Except Failure RuleTable → Bool
  | .error (.configuration (.conflictingHooks _ _ _) _) => true
  | _ => false

theorem hooks_eq : registry.hooks registry.freshTables (registry.getFormat "mixed")
      = [⟨"strict", "Strict"⟩, ⟨"strict", "Strict"⟩, ⟨"lax", "Lax"⟩]
    ∧ registry.hooks registry.freshTables (registry.getFormat "calm")
      = [⟨"strict", "Strict"⟩, ⟨"strict", "Strict"⟩] := by decide +kernel

end Hooked

/-- Hooks that conflict after one has come in twice, and the same without the one that does not
fit. -/
theorem hooks_combined_mixed :
    Hooked.registry.outcome 0 (Hooked.registry.getFormat "mixed")
        (Hooked.registry.after [.resolve "wrap" 0])
      = .error (.configuration (.conflictingHooks "Mixed" "Strict" "Lax") (some "Mixed"))
    ∧ ∃ t, Hooked.registry.outcome 0 (Hooked.registry.getFormat "calm")
        (Hooked.registry.after [.resolve "mixed" 0]) = .ok t
      ∧ t.hook.map (·.name) = some "strict" := by
  have hr := wellFormed_of_build Hooked.build_eq
  obtain ⟨hmixed, hcalm⟩ := Hooked.hooks_eq
  have hname : (Hooked.registry.getFormat "mixed").name = "Mixed" := by decide +kernel
  -- Neither of the two resolutions comes to the limit on the depth.
  have hends : Hooked.isClash (Hooked.registry.outcome 0 (Hooked.registry.getFormat "mixed")
      (Hooked.registry.after [.resolve "wrap" 0])) = true
    ∧ (Hooked.registry.outcome 0 (Hooked.registry.getFormat "calm")
        (Hooked.registry.after [.resolve "mixed" 0])).toOption.isSome = true := by decide +kernel
  have hcombined := (hooks_combined Hooked.build_eq).1
  obtain ⟨-, hclash, -⟩ := hcombined [.resolve "wrap" 0] 0 _ _ (offers_getFormat hr "mixed")
    (Hooked.readable (by simp)) (Hooked.isTabulated (by simp)) (by
      rintro _ hout ⟨format, rule, ruleset, name, rfl⟩
      rw [hout] at hends
      cases hends.1)
  obtain ⟨-, -, hagree⟩ := hcombined [.resolve "mixed" 0] 0 _ _ (offers_getFormat hr "calm")
    (Hooked.readable (by simp)) (Hooked.isTabulated (by simp)) (by
      intro e hout
      rw [hout] at hends
      cases hends.2)
  rw [hmixed] at hclash
  rw [hcalm] at hagree
  obtain ⟨t, hout, -, hhook, -⟩ := hagree (by simp [HaveOneName])
  refine ⟨?_, t, hout, hhook _ List.mem_cons_self⟩
  rw [hclash ⟨"strict", "Strict"⟩ ⟨"lax", "Lax"⟩ ⟨rfl, by decide⟩, hname]

end FormatRegistry

end TeamLegality
