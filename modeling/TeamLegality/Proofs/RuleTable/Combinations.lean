import TeamLegality.Proofs.Resolution.History
import TeamLegality.Proofs.Rule.Grouping

/-!
# Combinations — what decides which combinations are banned

A format merges its own combinations and those that it inherits, one after another, into two lists.
What stands for a key in the end is told by `prevailing?`: the first combination that allows it, or
else the last one.  The keys stand in the order in which they first came (`Settles`).
-/

namespace TeamLegality

namespace Combination

/-- What prevails for a key among combinations: the first that is allowed, or else the last. -/
def prevailing? (cs : List Combination) (k : String) : Option Combination :=
  let same := cs.filter (·.key == k)
  (same.find? isAllowed).or same.getLast?

/-- A list is what becomes of combinations: each of their keys has one entry, in the order in which
the keys first come, and that entry is the one that prevails. -/
structure Settles (l cs : List Combination) : Prop where
  keys : l.map key = (cs.map key).eraseDups
  entry : ∀ k, l.find? (·.key == k) = prevailing? cs k

variable {c e : Combination} {l cs : List Combination} {k : String}

/-- What stands for a key once a combination with that key is merged. -/
def succeed (c : Combination) : Option Combination → Combination
  | none => c
  | some e => if e.isAllowed then e else c

theorem find?_merge : ∀ l : List Combination, (c.merge l).find? (·.key == k) =
    if c.key = k then some (c.succeed (l.find? (·.key == k))) else l.find? (·.key == k)
  | [] => by
    by_cases hk : c.key = k <;> simp [merge, succeed, hk]
  | e :: rest => by
    have ih := find?_merge rest
    by_cases he : e.key = c.key
    · by_cases hk : c.key = k
      · cases ha : e.isAllowed <;> simp [merge, succeed, he, hk, ha]
      · cases ha : e.isAllowed <;> simp [merge, he, hk, ha]
    · by_cases hk : c.key = k
      · have hek : e.key ≠ k := fun h => he (h.trans hk.symm)
        simp [merge, hek, ih, hk]
      · simp only [merge, if_neg he, List.find?_cons, ih, if_neg hk]

theorem map_key_merge : ∀ l : List Combination, (c.merge l).map key =
    if c.key ∈ l.map key then l.map key else l.map key ++ [c.key]
  | [] => by simp [merge]
  | e :: rest => by
    have ih := map_key_merge rest
    by_cases he : e.key = c.key
    · cases ha : e.isAllowed <;> simp [merge, he, ha]
    · simp only [merge, if_neg he, List.map_cons, ih, List.mem_cons, Ne.symm he, false_or]
      split <;> rfl

theorem prevailing?_snoc : prevailing? (cs ++ [c]) k =
    if c.key = k then some (c.succeed (prevailing? cs k)) else prevailing? cs k := by
  unfold prevailing?
  rw [List.filter_append]
  by_cases hk : c.key = k
  · have hfilter : [c].filter (·.key == k) = [c] := by simp [hk]
    rw [if_pos hk, hfilter]
    generalize cs.filter (·.key == k) = same
    dsimp only
    rw [List.find?_append, List.getLast?_concat]
    cases hf : same.find? isAllowed with
    | some e => simp [succeed, List.find?_some hf]
    | none =>
      -- Nothing is allowed so far, so that the last of them gives way.
      have hlast : c.succeed same.getLast? = c := by
        cases hl : same.getLast? with
        | none => rfl
        | some e =>
          have he := List.find?_eq_none.mp hf e (List.mem_of_getLast? hl)
          simp [succeed, he]
      rw [Option.none_or, Option.none_or, hlast]
      cases hc : c.isAllowed <;> simp [hc]
  · have hfilter : [c].filter (·.key == k) = [] := by simp [hk]
    rw [if_neg hk, hfilter, List.append_nil]

theorem Settles.snoc (h : Settles l cs) : Settles (c.merge l) (cs ++ [c]) where
  keys := by
    have hmem : c.key ∈ l.map key ↔ c.key ∈ cs.map key := by rw [h.keys, List.mem_eraseDups]
    rw [map_key_merge, List.map_append, List.map_singleton, eraseDups_snoc, ← h.keys]
    by_cases hc : c.key ∈ cs.map key
    · rw [if_pos hc, if_pos (hmem.mpr hc)]
    · rw [if_neg hc, if_neg (mt hmem.mp hc)]
  entry := by
    intro k
    rw [find?_merge, prevailing?_snoc, h.entry]

/-- **Merging combinations settles them.** -/
theorem settles_mergeAll (cs : List Combination) : Settles (mergeAll [] cs) cs := by
  induction cs using List.reverseRecOn with
  | nil => exact ⟨rfl, fun k => rfl⟩
  | append_singleton cs c ih =>
    unfold mergeAll at ih ⊢
    rw [List.foldl_append]
    exact ih.snoc

end Combination

/-- The combination that a rule bans or allows in a scope. -/
def BanScope.combination? : BanScope → RuleSpec → Option Combination
  | set, .complexBan c => some c
  | team, .teamBan c => some c
  | _, _ => none

namespace RuleSpec

/-- The combinations that a rule holds have the empty source. -/
def IsOwn (spec : RuleSpec) : Prop :=
  ∀ (scope : BanScope) (c : Combination), scope.combination? spec = some c → c.source = ""

theorem isOwn_of_combination {spec : RuleSpec} (hset : ∀ c, spec = .complexBan c → c.source = "")
    (hteam : ∀ c, spec = .teamBan c → c.source = "") : spec.IsOwn := by
  intro scope c h
  unfold BanScope.combination? at h
  split at h
  · cases h
    exact hset c rfl
  · cases h
    exact hteam c rfl
  · cases h

theorem isOwn_of_parseCombination {dex : Dex} {rule : String} {sign : Sign} {body : List Char}
    {spec : RuleSpec} (h : parseCombination dex rule sign body = .ok spec) : spec.IsOwn := by
  unfold parseCombination at h
  simp only [bind, Except.bind] at h
  split at h
  · cases h
  · split at h
    · cases h
    · split_ifs at h <;> cases h <;>
        exact isOwn_of_combination (fun c hc => by cases hc <;> rfl) fun c hc => by cases hc <;> rfl

/-- Parsed combinations are the format's own. -/
theorem isOwn_of_parse {registry : FormatRegistry} {declaring : Option Format} {text : String}
    {spec : RuleSpec} (h : parse registry declaring text = .ok spec) : spec.IsOwn := by
  have hban : ∀ {dex rule sign body}, parseBan dex declaring rule sign body = .ok spec →
      spec.IsOwn := by
    intro dex rule sign body h
    unfold parseBan at h
    split at h
    · cases h
    · split_ifs at h
      · exact isOwn_of_parseCombination h
      · split at h <;> cases h <;> exact isOwn_of_combination nofun nofun
  unfold parse at h
  dsimp only at h
  split at h
  · exact hban h
  · exact hban h
  · unfold parseReference at h
    dsimp only at h
    split_ifs at h <;> cases h <;> exact isOwn_of_combination nofun nofun

end RuleSpec

namespace FormatRegistry

/-- The combinations that an entry of a format contributes to its table in a scope: an own one with
the empty source, one of an included table with the source that it has there, or with the name of
the included format if that is empty. -/
def Entry.combinations (scope : BanScope) (tables : Format → RuleTable) :
    Entry → List Combination
  | .own spec => (scope.combination? spec).toList.map fun c => { c with source := "" }
  | .inclusion sub => (scope.list (tables sub)).map fun c =>
      { c with source := if c.source = "" then sub.name else c.source }

variable {r : FormatRegistry} {R : Format → RuleTable → Prop} {tables : Format → RuleTable}
  {f : Format} {t t' : RuleTable} {done specs : List RuleSpec} {spec : RuleSpec}

theorem isOwn_of_mem_ownRules (h : spec ∈ r.ownRules f) : spec.IsOwn := by
  obtain ⟨rule, -, hrule⟩ := List.mem_filterMap.mp h
  cases hp : RuleSpec.parse r (some f) rule with
  | error e =>
    rw [hp] at hrule
    cases hrule
  | ok spec' =>
    rw [hp] at hrule
    cases hrule
    exact RuleSpec.isOwn_of_parse hp

/-- An own combination is merged as it is. -/
theorem Entry.combinations_own {scope : BanScope} (h : spec.IsOwn) :
    Entry.combinations scope tables (.own spec) = (scope.combination? spec).toList := by
  show (scope.combination? spec).toList.map (fun c => { c with source := "" }) = _
  cases hc : scope.combination? spec with
  | none => rfl
  | some c =>
    have hsource := h scope c hc
    cases c
    cases hsource
    rfl

/-- What one more rule contributes is merged into the combinations of each scope. -/
theorem Step.list_eq (hR : TabulatedBy R tables) (hown : spec.IsOwn)
    (hs : Step r R f done t spec t') (scope : BanScope) :
    scope.list t' = Combination.mergeAll (scope.list t)
      ((r.contribution? done spec).toList.flatMap (Entry.combinations scope tables)) := by
  -- A rule of its own contributes its combination, if it has one in this scope.
  have hcontributed : (∀ id, spec ≠ .rule id) →
      (r.contribution? done spec).toList.flatMap (Entry.combinations scope tables)
        = (scope.combination? spec).toList := by
    intro hspec
    rw [contribution?_of_own hspec, Option.toList_some, List.flatMap_singleton,
      Entry.combinations_own hown]
  cases hs with
  | complexBan c =>
    rw [hcontributed (by simp)]
    cases scope <;> rfl
  | teamBan c =>
    rw [hcontributed (by simp)]
    cases scope <;> rfl
  | ban target =>
    rw [hcontributed (by simp), RuleTable.list_set]
    cases scope <;> rfl
  | unban target =>
    rw [hcontributed (by simp), RuleTable.list_set]
    cases scope <;> rfl
  | suppress id =>
    rw [hcontributed (by simp), RuleTable.list_set]
    cases scope <;> rfl
  | passed id hpass =>
    rw [contribution?_of_passed hpass]
    rfl
  | missing id hpass hk =>
    rw [contribution?_of_missing hk, RuleTable.list_referTo]
    rfl
  | included id hpass hk hu ht' =>
    obtain ⟨rfl, -⟩ := hR _ _ hu
    rw [(RuleTable.inheritFrom_ok ht').2, contribution?_of_included hpass hk,
      RuleTable.list_referTo, Option.toList_some, List.flatMap_singleton, Entry.combinations]
    simp only [Combination.inheritedFrom_eq]

/-- The combinations of a table are merged from what the entries of its format contribute. -/
theorem Steps.list_eq (hR : TabulatedBy R tables) (h : Steps r R f specs t)
    (hown : ∀ spec ∈ specs, spec.IsOwn) (scope : BanScope) :
    scope.list t = Combination.mergeAll []
      ((r.entriesAfter [] specs).flatMap (Entry.combinations scope tables)) := by
  induction h with
  | start => cases scope <;> rfl
  | @snoc done t t' spec h hs ih =>
    have hdone := ih fun spec' hmem => hown spec' (List.mem_append_left _ hmem)
    have hspec : spec.IsOwn := hown spec (by simp)
    rw [entriesAfter_snoc, List.flatMap_append, Combination.mergeAll, List.foldl_append]
    exact (hs.list_eq hR hspec scope).trans (by rw [hdone]; rfl)

/-- **What decides which combinations are banned.**  The combinations of a table settle what its own
rules and the tables that it includes contribute, in order, for single sets and across a team apart.
Own contributions have the empty source, others the source that they bring or else the name of the
format that brings them. -/
theorem combination_standing {config : Config} {dexes : DexCollection} {aliases : Json}
    {entries : List FormatEntry} (hbuild : build config dexes aliases entries = .ok r)
    (h : r.ResolvesTo f t) : ∃ tables, r.Tables f tables
      ∧ Combination.Settles t.complexBans
        ((r.entries f).flatMap (Entry.combinations .set tables))
      ∧ Combination.Settles t.teamBans
        ((r.entries f).flatMap (Entry.combinations .team tables)) := by
  obtain ⟨tables, htables, hsteps⟩ := h.exists_tables (wellFormed_of_build hbuild)
  have hlist := hsteps.list_eq (fun _ _ hu => hu) fun spec => isOwn_of_mem_ownRules
  refine ⟨tables, htables, ?_, ?_⟩
  · rw [show t.complexBans = _ from hlist .set]
    exact Combination.settles_mergeAll _
  · rw [show t.teamBans = _ from hlist .team]
    exact Combination.settles_mergeAll _

/-- A combination that is inherited as forbidden and then allowed. -/
theorem combination_standing_child :
    ∃ t, Sample.registry.ResolvesTo (Sample.registry.getFormat "child") t
      ∧ t.complexBans.map Combination.key = ["illegalunreleased"]
      ∧ t.complexBans.find? (·.key == "illegalunreleased") = some
        ⟨"Illegal + Unreleased", "", .allowed, [.plain "illegal", .plain "unreleased"]⟩ := by
  obtain ⟨t, -, ht⟩ := @Sample.exists_resolvesTo "child" (by decide +kernel)
  obtain ⟨u, hout, hu⟩ := @Sample.exists_resolvesTo "base" (by decide +kernel)
  obtain ⟨tables, htables, hlaw, -⟩ := combination_standing Sample.build_eq ht
  have hentries : Sample.registry.entries (Sample.registry.getFormat "child") =
      [.own (.suppress "speciesclause"), .inclusion (Sample.registry.getFormat "base"),
        .own (.unban (.plain "unreleased")),
        .own (.complexBan ⟨"Illegal + Unreleased", "", .allowed,
          [.plain "illegal", .plain "unreleased"]⟩)] := by decide +kernel
  have hincl : Sample.registry.Includes (Sample.registry.getFormat "child")
      (Sample.registry.getFormat "base") := by simp [Includes, hentries]
  have hbase : (Sample.registry.outcome 0 (Sample.registry.getFormat "base")
      .fresh).toOption.map (·.complexBans) = some [⟨"Illegal + Unreleased", "", .forbidden 0,
        [.plain "illegal", .plain "unreleased"]⟩] := by decide +kernel
  rw [hout, (htables _ u hincl).mp hu] at hbase
  have hname : (Sample.registry.getFormat "base").name = "Base" := by decide +kernel
  rw [hentries] at hlaw
  simp only [Except.toOption, Option.map_some, Option.some.injEq] at hbase
  simp only [List.flatMap_cons, List.flatMap_nil, Entry.combinations, BanScope.combination?,
    BanScope.list, hbase, hname, Option.toList_none, Option.toList_some, List.map_nil,
    List.map_cons, List.nil_append, List.append_nil, List.cons_append] at hlaw
  refine ⟨t, ht, ?_, ?_⟩
  · rw [hlaw.keys]
    decide +kernel
  · rw [hlaw.entry]
    decide +kernel

end FormatRegistry

end TeamLegality
