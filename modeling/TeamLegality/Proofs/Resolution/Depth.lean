import TeamLegality.Proofs.Resolution.Hooks
import TeamLegality.Proofs.Resolution.Requests

/-!
# Depth — how long a chain of inclusions may be

In a tower each format says nothing but to include the next one.  Its first format resolves exactly
when as many levels are left as there are formats in front of the last one, or in front of the first
one that is remembered (`run_of_tower`).  So in a fresh session a tower may be two formats higher
than the limit on the depth, and what is remembered counts as its end (`depth_threshold`).  The
configured limit is the only one in the model: the limit of an interpreter on its own nested calls,
which is reached after some 500 levels of inclusion, is left out.
-/

namespace TeamLegality

/-- Without a hook of its own, a table inherits from every other one. -/
theorem RuleTable.exists_inheritFrom {t : RuleTable} (h : t.hook = none) (u : RuleTable)
    (origin format : String) : ∃ t', t.inheritFrom u origin format = .ok t' := by
  cases hi : t.inheritFrom u origin format with
  | ok t' => exact ⟨t', rfl⟩
  | error cause =>
    obtain ⟨current, -, hcurrent, -⟩ := hooks_of_inheritFrom_error hi
    rw [h] at hcurrent
    cases hcurrent

namespace FormatRegistry

open SessionM

/-- A format has a single working rule, and that refers to `g`. -/
structure RefersOnlyTo (r : FormatRegistry) (f g : Format) : Prop where
  known : g.isKnown = true
  rule : ∃ rule id, f.workingRules = [rule]
    ∧ RuleSpec.parse r (some f) rule = .ok (.rule id) ∧ r.getFormat id = g

/-- Formats of which each has a single working rule, which refers to the next one.  The last one
includes nothing and resolves, and none of them declares a hook. -/
structure Tower (r : FormatRegistry) (chain : List Format) : Prop where
  refers : chain.IsChain r.RefersOnlyTo
  offered : ∀ f ∈ chain.head?, r.Offers f
  hookless : ∀ f ∈ chain, f.declaredHook? = none
  ends : ∀ last ∈ chain.getLast?, (∀ sub, ¬ r.Includes last sub) ∧ ∃ t, r.ResolvesTo last t

variable {r : FormatRegistry} {f g : Format} {chain path rest : List Format} {stack : List String}
  {t u : RuleTable} {s : Session}

/-! ### Single references -/

theorem RefersOnlyTo.includes (h : r.RefersOnlyTo f g) : r.Includes f g := by
  obtain ⟨rule, id, hrules, hp, rfl⟩ := h.rule
  have hplace : f.workingRules = [] ++ rule :: [] := hrules
  exact includes_of_contribution hplace hp (contribution?_of_included List.not_mem_nil h.known)

theorem RefersOnlyTo.offers (hr : r.WellFormed) (h : r.RefersOnlyTo f g) : r.Offers g :=
  h.includes.offers hr

/-- Building the table of such a format is to follow its reference and to inherit. -/
theorem RefersOnlyTo.run_buildTable (h : r.RefersOnlyTo f g) (hnew : g.key ∉ stack)
    (follow : Follow) (s : Session) : ∃ rule, (r.buildTable follow f stack).run.run s =
      match (follow f rule g stack).run.run s with
      | (.ok u, s') =>
        ((((startingTable f).referTo g.id).inheritFrom u g.name f.name).mapError .of, s')
      | (.error e, s') => (.error e, s') := by
  obtain ⟨rule, id, hrules, hp, rfl⟩ := h.rule
  have hturn : r.turn f stack (startingTable f) rule = .inclusion (r.getFormat id) := by
    simp [turn, hp, turnOfReference, h.known, hnew]
  have hbuild :
      r.buildTable follow f stack = r.applyRule follow f stack (startingTable f) rule := by
    rw [buildTable, hrules, List.foldlM_cons]
    exact bind_pure _
  refine ⟨rule, ?_⟩
  rw [hbuild, applyRule_eq, hturn, Turn.complete, run_bind]
  rcases (follow f rule (r.getFormat id) stack).run.run s with ⟨e | u, s'⟩
  · rfl
  · exact run_inheriting

/-- A format with a single reference has a table if the other one does. -/
theorem RefersOnlyTo.exists_tableOf (h : r.RefersOnlyTo f g) (hhook : f.declaredHook? = none)
    (hu : TableOf r g u) : ∃ t, TableOf r f t := by
  obtain ⟨rule, id, hrules, hp, rfl⟩ := h.rule
  obtain ⟨t, ht⟩ := RuleTable.exists_inheritFrom
    (t := (startingTable f).referTo (r.getFormat id).id) (RuleTable.hook_referTo.trans hhook) u
    (r.getFormat id).name f.name
  have hstep : Step r (TableOf r) f [] (startingTable f) (.rule id) t :=
    .included id List.not_mem_nil h.known hu ht
  refine ⟨t, Built.tableOf ⟨?_, ?_⟩⟩
  · rw [hrules]
    exact fun rule' hmem => ⟨_, List.mem_singleton.mp hmem ▸ hp⟩
  · rw [ownRules, hrules, specsOf_singleton hp]
    exact Steps.start.snoc hstep

/-! ### The last format -/

/-- A format that includes nothing resolves wherever it stands. -/
theorem TableOf.exists_run (hr : r.WellFormed) (h : TableOf r f t) (hs : r.Sound s)
    (hnone : ∀ sub, ¬ r.Includes f sub) (levels : Nat) (stack : List String) :
    ∃ u s', (r.resolveWithin levels f stack).run.run s = (.ok u, s') := by
  have hbuilt : Built r (fun _ _ => False) f t :=
    ⟨h.built.readable, h.built.steps.mono_of_mem fun sub _ hsub _ => hnone sub hsub⟩
  have hlead : Leads (r.resolveWithin levels f stack) s (fun _ _ => True) fun _ _ => False := by
    rw [resolveWithin_eq]
    refine resolveBy_completes (E := fun _ => False) (fun _ _ => id) ?_
    exact buildTable_completes hr (followWithin_settles hr levels) (fun _ _ => False.elim)
      (fun _ _ _ _ => False.elim) (fun _ _ _ _ _ => False.elim) hbuilt hs
  rcases hrun : (r.resolveWithin levels f stack).run.run s with ⟨e | u, s'⟩
  · exact (hlead.of_error hrun).elim
  · exact ⟨u, s', rfl⟩

/-! ### Towers -/

theorem Tower.tail (hr : r.WellFormed) (h : r.Tower (f :: g :: rest)) : r.Tower (g :: rest) where
  refers := (List.isChain_cons_cons.mp h.refers).2
  offered := by
    intro f' hf'
    cases hf'
    exact (List.isChain_cons_cons.mp h.refers).1.offers hr
  hookless := fun f' hf' => h.hookless f' (List.mem_cons_of_mem f hf')
  ends := fun last hlast => h.ends last (by rwa [List.getLast?_cons_cons])

/-- Every format of a tower has a table. -/
theorem Tower.exists_tableOf (hr : r.WellFormed) :
    ∀ {chain : List Format}, r.Tower chain → ∀ f ∈ chain, r.Offers f ∧ ∃ t, TableOf r f t
  | [], _, f, hmem => by cases hmem
  | [f], h, f', hmem => by
    obtain rfl := List.mem_singleton.mp hmem
    obtain ⟨-, t, ht⟩ := h.ends f' rfl
    exact ⟨h.offered f' rfl, t, ht.tableOf hr⟩
  | f :: g :: rest, h, f', hmem => by
    have htail := Tower.exists_tableOf hr (h.tail hr)
    rcases List.mem_cons.mp hmem with rfl | hmem
    · obtain ⟨-, u, hu⟩ := htail g List.mem_cons_self
      exact ⟨h.offered f' rfl, (List.isChain_cons_cons.mp h.refers).1.exists_tableOf
        (h.hookless f' List.mem_cons_self) hu⟩
    · exact htail f' hmem

theorem Tower.pairwise_reachesBelow (h : r.Tower chain) : chain.Pairwise r.ReachesBelow :=
  FormatRegistry.pairwise_reachesBelow (h.refers.imp fun _ _ => RefersOnlyTo.includes)

/-- The formats of a tower have different keys. -/
theorem Tower.nodup (hr : r.WellFormed) (h : r.Tower chain) : (chain.map (·.key)).Nodup := by
  refine List.pairwise_map.mpr (h.pairwise_reachesBelow.imp_of_mem fun {f g} hf _ hfg => ?_)
  obtain ⟨hoffers, t, ht⟩ := h.exists_tableOf hr f hf
  exact (ht.key_ne hr hoffers hfg).symm

/-- **Where a tower ends.**  Let each format of a path have the next one for its single reference,
none of them remembered, down to a format that resolves wherever it stands.  The first one resolves
if as many levels are left as there are formats on the path, and otherwise it goes too deep. -/
theorem run_of_tower
    (hend : ∀ levels stack, ∃ u s', (r.resolveWithin levels g stack).run.run s = (.ok u, s')) :
    ∀ {path : List Format} (levels : Nat) {f : Format} {stack : List String},
      (path ++ [g]).head? = some f → (path ++ [g]).IsChain r.RefersOnlyTo →
      (∀ f ∈ path, f.declaredHook? = none ∧ s.cache.get? f.key = none) →
      (stack ++ (path ++ [g]).map (·.key)).Nodup →
      (path.length ≤ levels → ∃ t s', (r.resolveWithin levels f stack).run.run s = (.ok t, s'))
      ∧ (levels < path.length → ∃ e s', (r.resolveWithin levels f stack).run.run s = (.error e, s')
        ∧ e.IsDepth)
  | [], levels, f, stack, hhead, _, _, _ => by
    cases hhead
    exact ⟨fun _ => hend levels stack, fun h => absurd h (Nat.not_lt_zero levels)⟩
  | f :: path, levels, f', stack, hhead, hchain, hpath, hnodup => by
    cases hhead
    obtain ⟨⟨hhook, hnew⟩, hrest⟩ := List.forall_mem_cons.mp hpath
    obtain ⟨next, hnext⟩ : ∃ next, (path ++ [g]).head? = some next :=
      Option.isSome_iff_exists.mp (List.isSome_head?.mpr (by simp))
    rw [List.cons_append, List.isChain_cons] at hchain
    have hrefers : r.RefersOnlyTo f next := hchain.1 next hnext
    have hstack : (stack ++ [f.key] ++ (path ++ [g]).map (·.key)).Nodup := by simpa using hnodup
    have hkey : next.key ∉ stack ++ [f.key] := fun hold =>
      List.disjoint_of_nodup_append hstack hold (List.mem_map_of_mem (List.mem_of_head? hnext))
    obtain ⟨rule, hbuild⟩ := hrefers.run_buildTable hkey (r.followWithin levels) s
    rw [resolveWithin_eq, run_resolveBy, hnew, hbuild]
    cases levels with
    | zero =>
      refine ⟨fun h => absurd h (by simp), fun _ => ⟨_, s, rfl, ?_⟩⟩
      exact Failure.IsDepth.inFormat ⟨f.name, rule, f.ruleset, none, rfl⟩ f.name
    | succ levels =>
      obtain ⟨hok, herror⟩ := run_of_tower hend levels hnext hchain.2 hrest hstack
      have hfollow : r.followWithin (levels + 1) f rule next (stack ++ [f.key])
          = r.resolveWithin levels next (stack ++ [f.key]) := rfl
      rw [hfollow, List.length_cons]
      constructor
      · intro hle
        obtain ⟨u, s', hrun⟩ := hok (by omega)
        obtain ⟨t, ht⟩ := RuleTable.exists_inheritFrom
          (t := (startingTable f).referTo next.id) (RuleTable.hook_referTo.trans hhook) u next.name
          f.name
        rw [hrun]
        dsimp only
        rw [ht]
        exact ⟨t, _, rfl⟩
      · intro hlt
        obtain ⟨e, s', hrun, he⟩ := herror (by omega)
        rw [hrun]
        exact ⟨_, s', rfl, he.inFormat f.name⟩

/-- A format resolves in a session exactly if `p`, and otherwise goes too deep. -/
def ResolvesIff (r : FormatRegistry) (f : Format) (s : Session) (p : Prop) : Prop :=
  ((∃ t, r.outcome 0 f s = .ok t) ↔ p) ∧ (¬ p → ∃ e, e.IsDepth ∧ r.outcome 0 f s = .error e)

/-- A tower resolves exactly if as many levels are left as there are formats in front of the first
one that resolves wherever it stands. -/
theorem Tower.resolvesIff (hr : r.WellFormed) (h : r.Tower (path ++ g :: rest))
    (hhead : (path ++ g :: rest).head? = some f) (hnew : ∀ f ∈ path, ¬ s.Remembers f.key)
    (hend : ∀ levels stack, ∃ u s', (r.resolveWithin levels g stack).run.run s = (.ok u, s')) :
    r.ResolvesIff f s (path.length ≤ r.levelsAt 0) := by
  have hsplit : path ++ g :: rest = path ++ [g] ++ rest := List.append_cons path g rest
  have hnodup : (([] : List String) ++ (path ++ [g]).map (·.key)).Nodup := by
    have hall := h.nodup hr
    rw [hsplit, List.map_append] at hall
    exact hall.of_append_left
  have hchain : (path ++ [g]).IsChain r.RefersOnlyTo := by
    have hall := h.refers
    rw [hsplit] at hall
    exact hall.left_of_append
  have hpath : ∀ f ∈ path, f.declaredHook? = none ∧ s.cache.get? f.key = none := fun f hf =>
    ⟨h.hookless f (List.mem_append_left _ hf), Option.eq_none_iff_forall_ne_some.mpr
      fun t ht => hnew f hf ⟨t, ht⟩⟩
  have hfirst : (path ++ [g]).head? = some f := by
    rw [← hhead]
    cases path <;> rfl
  obtain ⟨hok, herror⟩ := run_of_tower hend (r.levelsAt 0) hfirst hchain hpath hnodup
  have hfails : ¬ path.length ≤ r.levelsAt 0 → ∃ e, e.IsDepth ∧ r.outcome 0 f s = .error e := by
    intro hlt
    obtain ⟨e, s', hrun, he⟩ := herror (Nat.lt_of_not_le hlt)
    exact ⟨e, he, congrArg Prod.fst hrun⟩
  refine ⟨⟨?_, fun hle => ?_⟩, hfails⟩
  · rintro ⟨t, ht⟩
    by_contra hlt
    obtain ⟨e, -, he⟩ := hfails hlt
    rw [ht] at he
    cases he
  · obtain ⟨t, s', hrun⟩ := hok hle
    exact ⟨t, congrArg Prod.fst hrun⟩

/-- A format that is remembered resolves wherever it stands. -/
theorem exists_run_of_remembered (h : s.Remembers g.key) (levels : Nat) (stack : List String) :
    ∃ u s', (r.resolveWithin levels g stack).run.run s = (.ok u, s') := by
  obtain ⟨u, hu⟩ := h
  exact ⟨u, s, by rw [resolveWithin_eq, run_resolveBy, hu]⟩

/-- What stands below a format of a tower is no way back to it. -/
theorem Tower.not_reaches (hr : r.WellFormed) (h : r.Tower (path ++ g :: rest)) (hf : f ∈ path)
    {f' : Format} (hreach : r.Reaches g f') : f'.key ≠ f.key := by
  obtain ⟨hoffers, t, ht⟩ := h.exists_tableOf hr f (List.mem_append_left _ hf)
  have hfg : r.ReachesBelow f g :=
    (List.pairwise_append.mp h.pairwise_reachesBelow).2.2 f hf g List.mem_cons_self
  exact ht.key_ne hr hoffers (hfg.trans_left hreach)

/-- **How deep towers may be.**  Let each format of a list say nothing but to include the next one,
and let the last one include nothing and resolve.  In a fresh session the first one resolves exactly
if the list is no longer than the limit on the depth and two; otherwise it goes too deep.  After any
calls that left some format of the list remembered, but none before it, the first one resolves
exactly if those before it are no more than the limit and one.  That is so after any calls that left
none of those before it remembered, once the format itself has resolved. -/
theorem depth_threshold {config : Config} {dexes : DexCollection} {aliases : Json}
    {entries : List FormatEntry} (hbuild : build config dexes aliases entries = .ok r)
    (hmax : 0 ≤ r.config.maxRuleDepth) (h : r.Tower chain) (hhead : chain.head? = some f) :
    r.ResolvesIff f .fresh (chain.length ≤ r.config.maxRuleDepth + 2)
    ∧ ∀ path g rest, chain = path ++ g :: rest →
      (∀ calls, (r.after calls).Remembers g.key → (∀ f ∈ path, ¬ (r.after calls).Remembers f.key) →
        r.ResolvesIff f (r.after calls) (path.length ≤ r.config.maxRuleDepth + 1))
      ∧ ∀ calls name depth t, r.getFormat name = g → r.outcome depth g (r.after calls) = .ok t →
        (∀ f ∈ path, ¬ (r.after calls).Remembers f.key) →
        r.ResolvesIff f (r.after (calls ++ [.resolve name depth]))
          (path.length ≤ r.config.maxRuleDepth + 1) := by
  have hr := wellFormed_of_build hbuild
  have hlevels : ∀ n : Nat, n ≤ r.levelsAt 0 ↔ (n : Int) ≤ r.config.maxRuleDepth + 1 := by
    intro n
    unfold levelsAt
    omega
  constructor
  · have hne : chain ≠ [] := by
      rintro rfl
      cases hhead
    obtain ⟨path, last, rfl⟩ := (List.eq_nil_or_concat' chain).resolve_left hne
    obtain ⟨hnone, t, ht⟩ := h.ends last (by simp)
    have hwhole := h.resolvesIff hr hhead (s := .fresh) (by rintro _ - ⟨_, hu⟩; cases hu)
      ((ht.tableOf hr).exists_run hr sound_fresh hnone)
    have hlength : ((path ++ [last]).length : Int) ≤ r.config.maxRuleDepth + 2
        ↔ path.length ≤ r.levelsAt 0 := by
      rw [hlevels, List.length_append, List.length_singleton]
      omega
    rwa [hlength]
  · rintro path g rest rfl
    have hcut : ∀ calls, (r.after calls).Remembers g.key →
        (∀ f ∈ path, ¬ (r.after calls).Remembers f.key) →
        r.ResolvesIff f (r.after calls) (path.length ≤ r.config.maxRuleDepth + 1) := by
      intro calls hg hnew
      rw [← hlevels]
      exact h.resolvesIff hr hhead hnew (exists_run_of_remembered hg)
    refine ⟨hcut, fun calls name depth t hname hg hnew => ?_⟩
    subst hname
    obtain ⟨s', hrun, hs'⟩ := exists_run_of_outcome hg
    have hafter : r.after (calls ++ [.resolve name depth]) = s' := by
      rw [after_append]
      exact congrArg Prod.snd hrun
    have hset := ((resolveWithin_settles hr (offers_getFormat hr name)
      (sound_after hr calls)).of_ok hrun).1
    refine hcut _ (hafter ▸ ⟨t, hs'⟩) fun f' hf' hold => ?_
    rcases hset.reached _ (hafter ▸ hold) with hold | ⟨below, hreach, hkey⟩
    · exact hnew f' hf' hold
    · exact h.not_reaches hr hf' hreach hkey

/-! ### A tower of four -/

namespace Steep

/-- With this limit a tower of three formats is as high as it may be. -/
def config : Config := { maxRuleDepth := 1 }

/-- Four formats that each include the next one. -/
def records : List FormatRecord := [
  { name := "Zero", ruleset := ["One"] },
  { name := "One", ruleset := ["Two"] },
  { name := "Two", ruleset := ["Three"] },
  { name := "Three", banlist := ["Illegal"] }]

/-- The registry of these records, if there is one. -/
def built : Except RegistryError FormatRegistry :=
  build config (.ofDexes [Sample.dex]) .null (records.map .record)

theorem isSome_built : built.toOption.isSome = true := by decide +kernel

/-- The registry of these records. -/
def registry : FormatRegistry := built.toOption.get isSome_built

theorem build_eq :
    build config (.ofDexes [Sample.dex]) .null (records.map .record) = .ok registry :=
  eq_ok_get isSome_built

/-- The formats from the highest one down. -/
def formats : List Format := ["zero", "one", "two", "three"].map registry.getFormat

theorem refersOnlyTo (row : String × String × String)
    (h : row ∈ [("zero", "One", "one"), ("one", "Two", "two"), ("two", "Three", "three")]) :
    registry.RefersOnlyTo (registry.getFormat row.1) (registry.getFormat row.2.2) := by
  have hall : ∀ row ∈ [("zero", "One", "one"), ("one", "Two", "two"), ("two", "Three", "three")],
      (registry.getFormat row.2.2).isKnown = true
      ∧ (registry.getFormat row.1).workingRules = [row.2.1]
      ∧ RuleSpec.parse registry (some (registry.getFormat row.1)) row.2.1
        = .ok (.rule row.2.2) := by decide +kernel
  obtain ⟨hknown, hrules, hp⟩ := hall row h
  exact ⟨hknown, row.2.1, row.2.2, hrules, hp, rfl⟩

theorem tower_formats : registry.Tower formats where
  refers := by
    refine .cons_cons (refersOnlyTo ("zero", "One", "one") (by simp)) ?_
    refine .cons_cons (refersOnlyTo ("one", "Two", "two") (by simp)) ?_
    exact .cons_cons (refersOnlyTo ("two", "Three", "three") (by simp)) (.singleton _)
  offered := by
    rintro _ ⟨⟩
    exact offers_getFormat (wellFormed_of_build build_eq) "zero"
  hookless := by decide +kernel
  ends := by
    rintro _ ⟨⟩
    have hentries : registry.entries (registry.getFormat "three")
        = [.own (.ban (.plain "illegal"))] := by decide +kernel
    have hnone : ∀ sub, ¬ registry.Includes (registry.getFormat "three") sub := by
      intro sub
      rw [Includes, hentries]
      simp
    have hsome : (registry.outcome 0 (registry.getFormat "three") .fresh).toOption.isSome = true := by
      decide +kernel
    obtain ⟨t, -, ht⟩ := exists_resolvesTo_of_fresh (wellFormed_of_build build_eq) hsome
    exact ⟨hnone, t, ht⟩

end Steep

/-- A tower that is one format too high resolves once the third of its formats has resolved. -/
theorem depth_threshold_four :
    (∃ e, e.IsDepth ∧ Steep.registry.outcome 0 (Steep.registry.getFormat "zero") .fresh = .error e)
    ∧ ∃ t, Steep.registry.outcome 0 (Steep.registry.getFormat "zero")
      (Steep.registry.after [.resolve "two" 0]) = .ok t := by
  have hmax : Steep.registry.config.maxRuleDepth = 1 := by decide +kernel
  obtain ⟨⟨-, hdeep⟩, hcut⟩ :=
    depth_threshold Steep.build_eq (by rw [hmax]; decide) Steep.tower_formats rfl
  rw [hmax] at hdeep hcut
  have htwo : (Steep.registry.outcome 0 (Steep.registry.getFormat "two") .fresh).toOption.isSome
      = true := by decide +kernel
  obtain ⟨-, hafter⟩ := hcut [_, _] (Steep.registry.getFormat "two") [_] rfl
  refine ⟨hdeep (by decide), (hafter [] "two" 0 _ rfl (eq_ok_get htwo) ?_).1.mpr (by decide)⟩
  rintro _ - ⟨_, hold⟩
  cases hold

end FormatRegistry

end TeamLegality
