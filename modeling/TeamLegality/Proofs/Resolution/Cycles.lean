import TeamLegality.Proofs.Resolution.Faults
import TeamLegality.Proofs.Resolution.Provenance
import Mathlib.Data.List.Chain

/-!
# Cycles — resolution fails exactly where inclusions run in a circle

A format that has a table reaches no cycle of active inclusions (`TableOf.not_reachesCycle`).  In a
registry whose rules can all be parsed, whose formats do not declare different legality hooks, and
which is no larger than the limit on the depth, the only fault is a reference that closes a cycle
(`Fails.closes`).  So resolution fails for the formats that reach a cycle and for no others, and the
chain that it reports is one that the inclusions run through (`cycles_detected`).
-/

namespace TeamLegality

namespace FormatRegistry

open SessionM

/-! ### Chains and cycles -/

/-- All working rules of a format can be parsed. -/
def Readable (r : FormatRegistry) (f : Format) : Prop :=
  ∀ rule ∈ f.workingRules, ∃ spec, RuleSpec.parse r (some f) rule = .ok spec

/-- No two registered formats declare different legality hooks. -/
def HooksAgree (r : FormatRegistry) : Prop :=
  ∀ g g' hook hook', r.formats.get? g.id = some g → r.formats.get? g'.id = some g' →
    g.declaredHook? = some hook → g'.declaredHook? = some hook' → hook.name = hook'.name

/-- Some format that includes itself, directly or through others, is reached from `f`. -/
def ReachesCycle (r : FormatRegistry) (f : Format) : Prop := ∃ g, r.Reaches f g ∧ r.ReachesBelow g g

/-- The chain holds the keys of formats of which the first is `f` and each actively includes the
next one, and its last key is among those before. -/
def Closes (r : FormatRegistry) (f : Format) (chain : List String) : Prop :=
  ∃ path last, path.head? = some f ∧ (path ++ [last]).IsChain r.Includes
    ∧ chain = (path ++ [last]).map (·.key) ∧ last.key ∈ path.map (·.key)

/-- `f` is being resolved for the formats of a path, which starts with `root`. -/
structure Descent (r : FormatRegistry) (root : Format) (path : List Format) (f : Format) :
    Prop where
  head : (path ++ [f]).head? = some root
  chain : (path ++ [f]).IsChain r.Includes
  stacked : r.Stacked ((path ++ [f]).map (·.key))

variable {r : FormatRegistry} {f g sub root : Format} {path : List Format} {t u : RuleTable}
  {hook hook' : LegalityHook} {before after stack : List String} {rule : String} {e : Failure}
  {chain : List String} {levels : Nat}

theorem Offers.of_reaches (hr : r.WellFormed) (hf : r.Offers f) (h : r.Reaches f g) :
    r.Offers g := by
  cases h with
  | refl => exact hf
  | tail _ hincl => exact hincl.offers hr

theorem descent_root (r : FormatRegistry) (f : Format) : r.Descent f [] f where
  head := rfl
  chain := .singleton f
  stacked := r.stacked_singleton f.key

theorem Descent.isChain_snoc (h : r.Descent root path f) (hincl : r.Includes f sub) :
    (path ++ [f] ++ [sub]).IsChain r.Includes :=
  List.isChain_append.mpr ⟨h.chain, .singleton sub, by simpa using hincl⟩

theorem Descent.snoc (hr : r.WellFormed) (h : r.Descent root path f) (hincl : r.Includes f sub)
    (hnew : sub.key ∉ (path ++ [f]).map (·.key)) : r.Descent root (path ++ [f]) sub where
  head := by
    rw [List.head?_append, h.head]
    rfl
  chain := h.isChain_snoc hincl
  stacked := by
    rw [List.map_append]
    exact h.stacked.snoc hnew (hasFormat_key hr (hincl.registered hr))

/-- Along a chain of inclusions each format reaches all that follow it. -/
theorem pairwise_reachesBelow (h : path.IsChain r.Includes) : path.Pairwise r.ReachesBelow :=
  List.isChain_iff_pairwise.mp (h.imp fun _ _ => .single)

/-- In a chain that closes, the last format is one of those before it, and so lies on a cycle. -/
theorem Closes.reachesCycle (hr : r.WellFormed) (hf : r.Offers f) (h : r.Closes f chain) :
    r.ReachesCycle f := by
  obtain ⟨path, last, hhead, hchain, -, hlast⟩ := h
  obtain ⟨g, hg, hkey⟩ := List.mem_map.mp hlast
  obtain ⟨rest, rfl⟩ := List.head?_eq_some_iff.mp hhead
  obtain ⟨hpath, -, hends⟩ := List.pairwise_append.mp (pairwise_reachesBelow hchain)
  have hreach : r.Reaches f g := by
    rcases List.mem_cons.mp hg with rfl | hg
    · exact .refl
    · exact ((List.pairwise_cons.mp hpath).1 g hg).to_reflTransGen
  have hcycle : r.ReachesBelow g last := hends g hg last (List.mem_singleton_self last)
  have hreg := hcycle.registered hr
  rcases (hf.of_reaches hr hreach).eq_of_key_eq hr (.registered hr hreg) hkey with rfl | ⟨-, hk⟩
  · exact ⟨g, hreach, hcycle⟩
  · rw [(hr _ _ hreg).known] at hk
    cases hk

/-! ### Tables and cycles -/

/-- What is reached below a format with a table has a table within fewer levels. -/
theorem TableWithin.exists_below {n : Nat} (h : TableWithin r n f t) (hg : r.ReachesBelow f g) :
    ∃ m u, m < n ∧ TableWithin r m g u := by
  have hincl : ∀ {n f t sub}, TableWithin r n f t → r.Includes f sub →
      ∃ m u, m < n ∧ TableWithin r m sub u := by
    intro n f t sub h hincl
    cases n with
    | zero =>
      obtain ⟨u, hu⟩ := Steps.exists_table h.steps hincl
      exact hu.elim
    | succ n =>
      obtain ⟨u, hu⟩ := Steps.exists_table h.steps hincl
      exact ⟨n, u, n.lt_succ_self, hu⟩
  induction hg with
  | single hsub => exact hincl h hsub
  | tail _ hsub ih =>
    obtain ⟨m, u, hm, hu⟩ := ih
    obtain ⟨k, v, hk, hv⟩ := hincl hu hsub
    exact ⟨k, v, hk.trans hm, hv⟩

/-- **A format with a table reaches no cycle.** -/
theorem TableOf.not_reachesCycle (h : TableOf r f t) : ¬ r.ReachesCycle f := by
  rintro ⟨g, hreach, hcycle⟩
  have hnone : ∀ n u, ¬ TableWithin r n g u := by
    intro n
    induction n using Nat.strong_induction_on with
    | _ n ih =>
      intro u hu
      obtain ⟨m, v, hm, hv⟩ := hu.exists_below hcycle
      exact ih m hm v hv
  obtain ⟨n, hn⟩ := h
  rcases Relation.reflTransGen_iff_eq_or_transGen.mp hreach with rfl | hbelow
  · exact hnone n t hn
  · obtain ⟨m, u, -, hu⟩ := hn.exists_below hbelow
    exact hnone m u hu

/-- What is reached below a format has another key, unless the format is below itself. -/
theorem ReachesBelow.key_ne (hr : r.WellFormed) (hf : r.Offers f) (hg : r.ReachesBelow f g)
    (hself : ¬ r.ReachesBelow f f) : g.key ≠ f.key := by
  intro hkey
  have hreg := hg.registered hr
  rcases (Offers.registered hr hreg).eq_of_key_eq hr hf hkey with rfl | ⟨hk, -⟩
  · exact hself hg
  · rw [(hr _ _ hreg).known] at hk
    cases hk

/-- What is reached below a format with a table has another key. -/
theorem TableOf.key_ne (hr : r.WellFormed) (hf : r.Offers f) (h : TableOf r f t)
    (hg : r.ReachesBelow f g) : g.key ≠ f.key :=
  hg.key_ne hr hf fun hself => h.not_reachesCycle ⟨f, .refl, hself⟩

/-- **A format with a table fails only for want of levels**, unless it reaches a format of the
stack. -/
theorem Fails.isDepth (hr : r.WellFormed) (h : Fails r levels stack f e) : ∀ {t : RuleTable},
    r.Offers f → TableOf r f t → (∀ g, r.Reaches f g → g.key ∉ stack) → e.IsDepth := by
  induction h with
  | @own levels stack f before t₁ rule after e h =>
    intro t hf ht hopen
    rcases h.of_tableOf ht with ⟨sub, hincl, hmem, -⟩ | hdepth
    · rcases List.mem_append.mp hmem with hmem | hmem
      · exact absurd hmem (hopen sub (.single hincl))
      · exact absurd (List.mem_singleton.mp hmem) (ht.key_ne hr hf (.single hincl))
    · exact hdepth.inFormat f.name
  | @included levels stack f sub e hincl hnew h ih =>
    intro t hf ht hopen
    obtain ⟨u, hu⟩ := ht.built.steps.exists_table hincl
    refine ih (hincl.offers hr) hu fun g hg hmem => ?_
    rcases List.mem_append.mp hmem with hmem | hmem
    · exact hopen g (hg.head hincl) hmem
    · exact ht.key_ne hr hf (.head' hincl hg) (List.mem_singleton.mp hmem)

/-! ### Hooks that agree -/

theorem Offers.exists_registered_hook (hf : r.Offers f) (h : f.declaredHook? = some hook) :
    ∃ g, r.formats.get? g.id = some g ∧ g.declaredHook? = some hook := by
  cases hf with
  | missing name _ => cases h
  | known base rules hbase _ => exact ⟨base, hbase, h⟩

/-- The hook of a table on the way is declared by a format that is reached. -/
theorem Steps.exists_hook (hl : f.workingRules = before ++ after)
    (h : Steps r (TableOf r) f (r.specsOf f before) t) (hh : t.hook = some hook) :
    ∃ g, r.Reaches f g ∧ g.declaredHook? = some hook := by
  rcases h.hook_origin hh with hdecl | ⟨sub, u, hsub, ⟨n, hu⟩, hhook⟩
  · exact ⟨f, .refl, hdecl⟩
  · have hincl : r.Includes f sub := by
      rw [Includes, entries, ownRules, hl, specsOf_append, entriesAfter_append]
      exact List.mem_append_left _ hsub
    obtain ⟨g, hreach, hg⟩ := hu.exists_hook hhook
    exact ⟨g, .head hincl hreach, hg⟩

theorem HooksAgree.of_reaches (h : r.HooksAgree) (hr : r.WellFormed) (hf : r.Offers f)
    (hg : ∃ g, r.Reaches f g ∧ g.declaredHook? = some hook)
    (hg' : ∃ g, r.Reaches f g ∧ g.declaredHook? = some hook') : hook.name = hook'.name := by
  obtain ⟨g, hreach, hdecl⟩ := hg
  obtain ⟨g', hreach', hdecl'⟩ := hg'
  obtain ⟨b, hb, hbdecl⟩ := (hf.of_reaches hr hreach).exists_registered_hook hdecl
  obtain ⟨b', hb', hbdecl'⟩ := (hf.of_reaches hr hreach').exists_registered_hook hdecl'
  exact h b b' hook hook' hb hb' hbdecl hbdecl'

/-! ### The only fault -/

/-- **A failure closes a cycle**, when rules can be parsed, hooks agree and levels are enough. -/
theorem Fails.closes (hr : r.WellFormed)
    (hread : ∀ g, r.formats.get? g.id = some g → r.Readable g) (hhooks : r.HooksAgree)
    (hsize : (r.formats.size : Int) ≤ r.config.maxRuleDepth) (h : Fails r levels stack f e) :
    ∀ path, stack = path.map (·.key) → r.Descent root path f → r.Offers f → r.Readable f →
      (path.length + levels : Int) = r.config.maxRuleDepth + 1 →
      ∃ chain name, e = .configuration (.cyclicReference chain) name ∧ r.Closes root chain := by
  induction h with
  | @own levels stack f before t rule after e h =>
    rintro path rfl hdescent hf hown hlevels
    have hkeys : path.map (·.key) ++ [f.key] = (path ++ [f]).map (·.key) := by simp
    have hfault := h.fault
    rw [hkeys] at hfault
    cases hfault with
    | unreadable hp =>
      obtain ⟨spec, hp'⟩ := hown rule (by simp [h.place])
      rw [hp] at hp'
      cases hp'
    | @cyclic spec sub hp hc hstack =>
      have hincl : r.Includes f sub := includes_of_contribution h.place hp hc
      refine ⟨_, some f.name, rfl, path ++ [f], sub, hdescent.head, hdescent.isChain_snoc hincl, ?_,
        hstack⟩
      simp
    | @tooDeep spec sub hp hc hnew hzero =>
      -- A stack that takes all the levels would be longer than the registry.
      have hincl : r.Includes f sub := includes_of_contribution h.place hp hc
      have hle := (hdescent.snoc hr hincl hnew).stacked.length_le
      simp only [List.length_map, List.length_append, List.length_singleton] at hle
      omega
    | @conflict spec sub u cause hp hc hu hi =>
      have hincl : r.Includes f sub := includes_of_contribution h.place hp hc
      obtain ⟨current, inherited, ht, hinherited, hne, -⟩ :=
        RuleTable.hooks_of_inheritFrom_error hi
      obtain ⟨n, hu⟩ := hu
      obtain ⟨g, hreach, hg⟩ := hu.exists_hook hinherited
      rw [RuleTable.referTo, RuleTable.hook_set] at ht
      exact absurd (hhooks.of_reaches hr hf (h.steps.exists_hook h.place ht)
        ⟨g, .head hincl hreach, hg⟩) hne
  | @included levels stack f sub e hincl hnew h ih =>
    rintro path rfl hdescent hf hown hlevels
    have hkeys : path.map (·.key) ++ [f.key] = (path ++ [f]).map (·.key) := by simp
    rw [hkeys] at hnew
    refine ih (path ++ [f]) hkeys (hdescent.snoc hr hincl hnew) (hincl.offers hr)
      (hread sub (hincl.registered hr)) ?_
    rw [List.length_append, List.length_singleton]
    omega

/-- **Resolution detects cycles, and only cycles.**  Let all working rules of the registered formats
and of `f` be such that they can be parsed, let no two formats declare different legality hooks, and
let there be no more formats than the limit on the depth.  Then `f` resolves after any calls exactly
when it reaches no cycle of active inclusions.  Otherwise a cyclic reference is reported, with a
chain of keys that starts with the key of `f`, in which each actively includes the next, and whose
last key is one of those before it. -/
theorem cycles_detected {config : Config} {dexes : DexCollection} {aliases : Json}
    {entries : List FormatEntry} (hbuild : build config dexes aliases entries = .ok r)
    (hread : ∀ g, r.formats.get? g.id = some g → r.Readable g) (hhooks : r.HooksAgree)
    (hsize : (r.formats.size : Int) ≤ r.config.maxRuleDepth) (calls : List Call)
    (hf : r.Offers f) (hown : r.Readable f) :
    ((∃ t, r.outcome 0 f (r.after calls) = .ok t) ↔ ¬ r.ReachesCycle f)
    ∧ (r.ReachesCycle f → ∃ chain name, r.outcome 0 f (r.after calls)
        = .error (.configuration (.cyclicReference chain) name) ∧ r.Closes f chain) := by
  have hr := wellFormed_of_build hbuild
  have hs := sound_after hr calls
  have hlevels : (([] : List Format).length + r.levelsAt 0 : Int) = r.config.maxRuleDepth + 1 := by
    unfold levelsAt
    simp only [List.length_nil]
    omega
  have hok : ∀ t, r.outcome 0 f (r.after calls) = .ok t → ¬ r.ReachesCycle f :=
    fun t h => (tableOf_of_outcome hr hs (.inl hf) h).not_reachesCycle
  have herror : ∀ e, r.outcome 0 f (r.after calls) = .error e → ∃ chain name,
      e = .configuration (.cyclicReference chain) name ∧ r.Closes f chain := by
    intro e h
    have hfails := (resolveWithin_fails hr (r.levelsAt 0) f [] _ hs).of_error
      (Prod.ext h rfl)
    exact hfails.closes hr hread hhooks hsize [] rfl (r.descent_root f) hf hown hlevels
  cases hout : r.outcome 0 f (r.after calls) with
  | ok t => exact ⟨iff_of_true ⟨t, rfl⟩ (hok t hout), fun hcycle => absurd hcycle (hok t hout)⟩
  | error e =>
    obtain ⟨chain, name, rfl, hcloses⟩ := herror e hout
    refine ⟨iff_of_false nofun (not_not.mpr (hcloses.reachesCycle hr hf)), fun _ => ?_⟩
    exact ⟨chain, name, rfl, hcloses⟩

/-! ### A registry with a circle -/

namespace Circular

/-- Two formats that include each other, one that includes the first of them, and one that refers to
itself but suppresses itself first. -/
def records : List FormatRecord := [
  { name := "One", ruleset := ["Two"], learnsetCheck := some "strict" },
  { name := "Two", ruleset := ["Three"] },
  { name := "Three", ruleset := ["Two"] },
  { name := "Calm", ruleset := ["!Calm", "Calm"] }]

/-- The registry of these records, if there is one. -/
def built : Except RegistryError FormatRegistry :=
  build {} (.ofDexes [Sample.dex]) .null (records.map .record)

theorem isSome_built : built.toOption.isSome = true := by decide +kernel

/-- The registry of these records. -/
def registry : FormatRegistry := built.toOption.get isSome_built

theorem build_eq :
    build {} (.ofDexes [Sample.dex]) .null (records.map .record) = .ok registry :=
  eq_ok_get isSome_built

theorem readable (g : Format) (hg : registry.formats.get? g.id = some g) :
    registry.Readable g := by
  have hall : ∀ e ∈ registry.formats.entries, ∀ rule ∈ e.2.workingRules,
      (RuleSpec.parse registry (some e.2) rule).toOption.isSome = true := by decide +kernel
  intro rule hrule
  exact ⟨_, eq_ok_get (hall (g.id, g) (Assoc.mem_of_get? hg) rule hrule)⟩

theorem hooksAgree : registry.HooksAgree := by
  have hall : ∀ e ∈ registry.formats.entries, ∀ hook ∈ e.2.declaredHook?, hook.name = "strict" := by
    decide +kernel
  intro g g' hook hook' hg hg' h h'
  rw [hall (g.id, g) (Assoc.mem_of_get? hg) hook h,
    hall (g'.id, g') (Assoc.mem_of_get? hg') hook' h']

theorem not_reachesCycle_calm : ¬ registry.ReachesCycle (registry.getFormat "calm") := by
  have hentries : registry.entries (registry.getFormat "calm") = [.own (.suppress "calm")] := by
    decide +kernel
  have hnone : ∀ sub, ¬ registry.Includes (registry.getFormat "calm") sub := by
    intro sub
    rw [Includes, hentries]
    simp
  rintro ⟨g, hreach, hcycle⟩
  obtain rfl | ⟨sub, hsub, -⟩ := hreach.cases_head
  · obtain ⟨sub, hsub, -⟩ := Relation.TransGen.head'_iff.mp hcycle
    exact hnone sub hsub
  · exact hnone sub hsub

theorem reachesCycle_one : registry.ReachesCycle (registry.getFormat "one") := by
  have hone : registry.Includes (registry.getFormat "one") (registry.getFormat "two") := by
    show _ ∈ _
    decide +kernel
  have htwo : registry.Includes (registry.getFormat "two") (registry.getFormat "three") := by
    show _ ∈ _
    decide +kernel
  have hthree : registry.Includes (registry.getFormat "three") (registry.getFormat "two") := by
    show _ ∈ _
    decide +kernel
  exact ⟨registry.getFormat "two", .single hone, .tail (.single htwo) hthree⟩

end Circular

/-- One format that resolves although it refers to itself, and one whose inclusions run in a circle,
after a resolution that has failed and one that has not. -/
theorem cycles_detected_circular :
    (∃ t, Circular.registry.outcome 0 (Circular.registry.getFormat "calm")
      (Circular.registry.after [.resolve "three" 0, .resolve "calm" 0]) = .ok t)
    ∧ ∃ chain name, Circular.registry.outcome 0 (Circular.registry.getFormat "one")
        (Circular.registry.after [.resolve "three" 0, .resolve "calm" 0])
          = .error (.configuration (.cyclicReference chain) name)
      ∧ Circular.registry.Closes (Circular.registry.getFormat "one") chain := by
  have hr := wellFormed_of_build Circular.build_eq
  have hsize : (Circular.registry.formats.size : Int) ≤ Circular.registry.config.maxRuleDepth := by
    decide +kernel
  have hget : ∀ name ∈ ["calm", "one"], Circular.registry.formats.get?
      (Circular.registry.getFormat name).id = some (Circular.registry.getFormat name) := by
    decide +kernel
  have hdetected := fun name (hname : name ∈ ["calm", "one"]) =>
    cycles_detected Circular.build_eq Circular.readable Circular.hooksAgree hsize
      [.resolve "three" 0, .resolve "calm" 0] (offers_getFormat hr name)
      (Circular.readable _ (hget name hname))
  exact ⟨(hdetected "calm" (by simp)).1.mpr Circular.not_reachesCycle_calm,
    (hdetected "one" (by simp)).2 Circular.reachesCycle_one⟩

/-- The chain that is reported. -/
example : (match Circular.registry.outcome 0 (Circular.registry.getFormat "one") .fresh with
    | .ok _ => none
    | .error e => some e)
      = some (.configuration (.cyclicReference ["one", "two", "three", "two"]) (some "Three")) := by
  decide +kernel

end FormatRegistry

end TeamLegality
