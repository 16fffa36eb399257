import TeamLegality.Proofs.Resolution.Provenance
import TeamLegality.Proofs.Rule.Printing

/-!
# Collisions — combinations that share a key

The key of a combination runs the identifiers of its names together (`toList_key`), so that two
combinations may share a key and list different names.  A table keeps one combination for each key:
one that the format or a format on the way declares.  It has the targets of every other combination
with that key unless they list different names or are looked up in different dexes
(`combination_kept`).
-/

namespace TeamLegality

/-- The two combinations have the same set of targets. -/
def Combination.SameTargets (c c' : Combination) : Prop :=
  ∀ target, target ∈ c.targets ↔ target ∈ c'.targets

namespace Combination

variable {e : Combination} {l cs : List Combination} {k : String}

theorem mem_of_prevailing? (h : prevailing? cs k = some e) : e ∈ cs ∧ e.key = k := by
  have hsame : e ∈ cs.filter (·.key == k) := by
    rcases Option.or_eq_some_iff.mp h with h | ⟨-, h⟩
    · exact List.mem_of_find?_eq_some h
    · exact List.mem_of_getLast? h
  simpa using List.mem_filter.mp hsame

/-- For the key of every combination one prevails. -/
theorem exists_prevailing? {c : Combination} (hc : c ∈ cs) :
    ∃ e, prevailing? cs c.key = some e := by
  have hne : cs.filter (·.key == c.key) ≠ [] :=
    List.ne_nil_of_mem (List.mem_filter.mpr ⟨hc, by simp⟩)
  unfold prevailing?
  dsimp only
  rw [List.getLast?_eq_some_getLast hne]
  cases (cs.filter (·.key == c.key)).find? isAllowed with
  | none => exact ⟨_, rfl⟩
  | some e => exact ⟨e, rfl⟩

theorem filter_eq_of_find? : ∀ {l : List Combination}, (l.map key).Nodup →
    l.find? (·.key == k) = some e → l.filter (·.key == k) = [e]
  | [], _, h => by cases h
  | first :: rest, hnodup, h => by
    rw [List.map_cons, List.nodup_cons] at hnodup
    by_cases hfirst : first.key = k
    · have hrest : rest.filter (·.key == k) = [] := by
        rw [List.filter_eq_nil_iff]
        intro c hc hkey
        exact hnodup.1 (List.mem_map.mpr ⟨c, hc, (beq_iff_eq.mp hkey).trans hfirst.symm⟩)
      rw [List.find?_cons_of_pos (by simpa using hfirst)] at h
      rw [List.filter_cons_of_pos (by simpa using hfirst), hrest, Option.some.inj h]
    · rw [List.find?_cons_of_neg (by simpa using hfirst)] at h
      rw [List.filter_cons_of_neg (by simpa using hfirst)]
      exact filter_eq_of_find? hnodup.2 h

/-- Exactly what prevails for a key is kept for it. -/
theorem Settles.filter_eq (h : Settles l cs) (hk : prevailing? cs k = some e) :
    l.filter (·.key == k) = [e] := by
  refine filter_eq_of_find? ?_ ((h.entry k).trans hk)
  rw [h.keys]
  exact nodup_eraseDups _

end Combination

namespace RuleSpec

variable {registry : FormatRegistry} {declaring : Option Format} {dex : Dex} {spec : RuleSpec}
  {sign : Sign} {name name' text : String} {names names' : List String} {body : List Char}
  {targets targets' : List Target} {c c' : Combination}

/-! ### Names that ask for the same -/

/-- Two names ask for the same identifier in the same categories. -/
structure AskAlike (name name' : String) : Prop where
  id : Text.toId name = Text.toId name'
  category : BanTarget.askedCategory? name = BanTarget.askedCategory? name'

/-- What a name stands for is told by its identifier and the category that it asks for. -/
theorem AskAlike.resolve_eq_ok_iff (h : AskAlike name name') {target : Target} :
    BanTarget.resolve dex name = .ok target ↔ BanTarget.resolve dex name' = .ok target := by
  unfold BanTarget.resolve
  rw [h.id, h.category]
  dsimp only
  split_ifs
  · exact Iff.rfl
  · split <;> simp

/-- Names that ask alike, one by one, stand for the same targets. -/
theorem Names.unique (halike : List.Forall₂ AskAlike names names') (h : Names dex names targets)
    (h' : Names dex names' targets') : targets = targets' := by
  induction halike generalizing targets targets' with
  | nil =>
    cases h
    cases h'
    rfl
  | cons hname _ ih =>
    obtain _ | ⟨hhead, htail⟩ := h
    obtain _ | ⟨hhead', htail'⟩ := h'
    rw [hname.resolve_eq_ok_iff, hhead'] at hhead
    cases hhead
    rw [ih htail htail']

/-! ### Keys -/

theorem filterMap_intercalate {α β : Type} {f : α → Option β} {sep : List α}
    (hsep : sep.filterMap f = []) : ∀ parts : List (List α),
      (sep.intercalate parts).filterMap f = parts.flatMap (·.filterMap f)
  | [] => rfl
  | [part] => by simp
  | part :: part' :: parts => by
    rw [List.intercalate_cons_cons, List.filterMap_append, List.filterMap_append, hsep,
      List.append_nil, filterMap_intercalate hsep (part' :: parts)]
    exact List.flatMap_cons.symm

/-- The identifiers of names, run together. -/
def runTogether (names : List String) : List Char :=
  names.flatMap fun name => (Text.toId name).toList

theorem toList_toId_joined (across : Bool) (names : List String) :
    (Text.toId (joined across names)).toList = runTogether names := by
  have hsep : (if across then " ++ " else " + ").toList.filterMap Text.idChar? = [] := by
    cases across <;> decide
  rw [Text.toList_toId, joined, String.toList_intercalate, filterMap_intercalate hsep,
    List.flatMap_map, runTogether]
  simp only [Text.toList_toId]

/-- **What the key of a combination keeps of its names**: their identifiers, run together. -/
theorem ReadFrom.toList_key (h : ReadFrom dex text sign body spec c) :
    c.key.toList = runTogether (namesIn c.rule.toList) := by
  rw [h.namesIn_rule_eq, Combination.key, h.combined]
  exact toList_toId_joined _ _

end RuleSpec

namespace FormatRegistry

open RuleSpec

variable {r : FormatRegistry} {f g : Format} {t : RuleTable} {scope : BanScope} {spec : RuleSpec}
  {c e : Combination} {tables : Format → RuleTable}

theorem eq_of_combination? (h : scope.combination? spec = some c) :
    spec = .complexBan c ∨ spec = .teamBan c := by
  unfold BanScope.combination? at h
  split at h <;> cases h
  · exact .inl rfl
  · exact .inr rfl

theorem exists_text_of_mem_ownRules (h : spec ∈ r.ownRules f) :
    ∃ text ∈ f.workingRules, parse r (some f) text = .ok spec := by
  obtain ⟨text, htext, hparse⟩ := List.mem_filterMap.mp h
  exact ⟨text, htext, toOption_eq_some_iff.mp hparse⟩

/-- A combination among the rules of a format was read from one of its working rules. -/
theorem exists_readFrom_of_mem (h : spec ∈ r.ownRules f) (hc : scope.combination? spec = some c) :
    ∃ text sign body, ReadFrom (dexOf r (some f)) text sign body spec c := by
  obtain ⟨text, -, hparse⟩ := exists_text_of_mem_ownRules h
  obtain ⟨-, sign, body, hread⟩ := exists_readFrom hparse (eq_of_combination? hc)
  exact ⟨text, sign, body, hread⟩

/-! ### What a table keeps for a key -/

theorem own_mem_entriesAfter (hrule : ∀ id, spec ≠ .rule id) : ∀ {done specs : List RuleSpec},
    spec ∈ specs → .own spec ∈ r.entriesAfter done specs
  | done, first :: rest, h => by
    rw [entriesAfter, List.mem_append]
    rcases List.mem_cons.mp h with rfl | h
    · rw [contribution?_of_own hrule]
      exact .inl (List.mem_singleton_self _)
    · exact .inr (own_mem_entriesAfter hrule h)

/-- A combination among the rules of a format is contributed to its table. -/
theorem mem_combinations_of_mem (h : spec ∈ r.ownRules f) (hc : scope.combination? spec = some c) :
    c ∈ (r.entries f).flatMap (Entry.combinations scope tables) := by
  have hrule : ∀ id, spec ≠ .rule id := by
    rintro id rfl
    rcases eq_of_combination? hc with h | h <;> cases h
  refine List.mem_flatMap.mpr ⟨.own spec, own_mem_entriesAfter hrule h, ?_⟩
  rw [Entry.combinations_own (isOwn_of_mem_ownRules h), hc]
  exact List.mem_singleton_self c

/-- What a table holds is declared by the format or by one that it reaches. -/
theorem ResolvesTo.exists_reached (hr : r.WellFormed) (h : r.ResolvesTo f t)
    (he : e ∈ scope.list t) :
    ∃ g, r.Reaches f g ∧ r.Declares (r.ownRules g) (.combination scope e) := by
  have hheld : t.Holds (.combination scope e) e.source := he
  by_cases hsource : e.source = ""
  · rw [hsource] at hheld
    exact ⟨f, .refl, (h.tableOf hr).built.declares hr hheld⟩
  · obtain ⟨g, u, hreach, -, -, -, -, hdecl⟩ := h.exists_declaring hr hheld hsource
    exact ⟨g, hreach.to_reflTransGen, hdecl⟩

/-- **What a table keeps of a combination that a format declares**: exactly one with its key, for
single sets and across the team apart.  It is what prevails among all that are contributed, so it
has the same targets if all contributed ones of that key do.  The format, or one that it reaches,
declares it, by names whose identifiers run together to the same text; and it has the same targets
in the same order if these are looked up in the same dex and ask for the same, name by name. -/
theorem combination_kept {config : Config} {dexes : DexCollection} {aliases : Json}
    {entries : List FormatEntry} (hbuild : build config dexes aliases entries = .ok r)
    (h : r.ResolvesTo f t) (hspec : spec ∈ r.ownRules f) (hc : scope.combination? spec = some c) :
    ∃ tables, r.Tables f tables ∧ ∃ e, (scope.list t).filter (·.key == c.key) = [e]
      ∧ Combination.prevailing? ((r.entries f).flatMap (Entry.combinations scope tables)) c.key
        = some e
      ∧ ((∀ c' ∈ (r.entries f).flatMap (Entry.combinations scope tables),
        c'.key = c.key → c'.SameTargets c) → e.SameTargets c)
      ∧ ∃ g, r.Reaches f g ∧ r.Declares (r.ownRules g) (.combination scope e)
        ∧ runTogether (namesIn e.rule.toList) = runTogether (namesIn c.rule.toList)
        ∧ (dexOf r (some g) = dexOf r (some f) →
          List.Forall₂ AskAlike (namesIn e.rule.toList) (namesIn c.rule.toList) →
          e.targets = c.targets) := by
  have hr := wellFormed_of_build hbuild
  obtain ⟨tables, htables, hsteps⟩ := h.exists_tables hr
  have hlist := hsteps.list_eq (fun _ _ hu => hu) (fun _ => isOwn_of_mem_ownRules) scope
  obtain ⟨e, he⟩ := Combination.exists_prevailing? (mem_combinations_of_mem hspec hc)
  have hkept := (Combination.settles_mergeAll _).filter_eq he
  have hkeptIn : (scope.list t).filter (·.key == c.key) = [e] := by rwa [hlist]
  obtain ⟨hcontributed, hkey⟩ := Combination.mem_of_prevailing? he
  have hmem : e ∈ scope.list t := List.mem_of_mem_filter (hkeptIn ▸ List.mem_singleton_self e)
  obtain ⟨g, hreach, hdecl⟩ := h.exists_reached hr hmem
  obtain ⟨gspec, hgspec, hge⟩ := hdecl
  obtain ⟨_, _, _, hread⟩ := exists_readFrom_of_mem hspec hc
  obtain ⟨_, _, _, hread'⟩ := exists_readFrom_of_mem hgspec hge
  refine ⟨tables, htables, e, hkeptIn, he, fun hall => hall e hcontributed hkey, g, hreach,
    ⟨gspec, hgspec, hge⟩, ?_, ?_⟩
  · rw [← hread.toList_key, ← hkey]
    exact hread'.toList_key.symm
  · intro hdex halike
    have hnames := hread'.names
    rw [hdex, ← hread'.namesIn_rule_eq] at hnames
    have hnames' := hread.names
    rw [← hread.namesIn_rule_eq] at hnames'
    exact hnames.unique halike hnames'

/-! ### A registry with collisions -/

namespace Clashing

/-- Tags whose identifiers run together to the same text, on one set and across the team. -/
def records : List FormatRecord := [
  { name := "Clash",
    banlist := ["CAP LC + Uber", "CAP + LC Uber", "CAP LC ++ Uber", "CAP ++ LC Uber"] }]

/-- The registry of these records, if there is one. -/
def built : Except RegistryError FormatRegistry :=
  build {} (.ofDexes [Sample.dex]) .null (records.map .record)

theorem isSome_built : built.toOption.isSome = true := by decide +kernel

/-- The registry of these records. -/
def registry : FormatRegistry := built.toOption.get isSome_built

theorem build_eq : build {} (.ofDexes [Sample.dex]) .null (records.map .record) = .ok registry :=
  eq_ok_get isSome_built

/-- The combination that is declared first in a scope. -/
def first : BanScope → Combination
  | .set => ⟨"CAP LC + Uber", "", .forbidden 0, [.entry .tag "caplc", .entry .tag "uber"]⟩
  | .team => ⟨"CAP LC ++ Uber", "", .forbidden 0, [.entry .tag "caplc", .entry .tag "uber"]⟩

/-- The combination that is declared last in a scope. -/
def last : BanScope → Combination
  | .set => ⟨"CAP + LC Uber", "", .forbidden 0, [.entry .tag "cap", .entry .tag "lcuber"]⟩
  | .team => ⟨"CAP ++ LC Uber", "", .forbidden 0, [.entry .tag "cap", .entry .tag "lcuber"]⟩

theorem ownRules_eq : registry.ownRules (registry.getFormat "clash") =
    [.complexBan (first .set), .complexBan (last .set), .teamBan (first .team),
      .teamBan (last .team)] := by decide +kernel

theorem exists_declared (scope : BanScope) :
    ∃ spec ∈ registry.ownRules (registry.getFormat "clash"),
      scope.combination? spec = some (first scope) := by
  rw [ownRules_eq]
  cases scope
  · exact ⟨_, List.mem_cons_self, rfl⟩
  · exact ⟨.teamBan (first .team), by simp, rfl⟩

theorem exists_resolvesTo : ∃ t, registry.ResolvesTo (registry.getFormat "clash") t
    ∧ ∀ scope : BanScope, scope.list t = [last scope] := by
  have hout : (registry.outcome 0 (registry.getFormat "clash") .fresh).toOption.map
      (fun t => (t.complexBans, t.teamBans)) = some ([last .set], [last .team]) := by
    decide +kernel
  obtain ⟨t, ht, hlists⟩ := exists_resolvesTo_of_map (wellFormed_of_build build_eq) hout
  obtain ⟨hset, hteam⟩ := Prod.mk.inj hlists
  refine ⟨t, ht, fun scope => ?_⟩
  cases scope
  · exact hset
  · exact hteam

end Clashing

/-- What is kept of the combination that is declared first has the same run of identifiers. -/
theorem combination_kept_clash :
    ∃ t, Clashing.registry.ResolvesTo (Clashing.registry.getFormat "clash") t
      ∧ ∃ e, t.complexBans.filter (·.key == (Clashing.first .set).key) = [e]
        ∧ ∃ g, Clashing.registry.Reaches (Clashing.registry.getFormat "clash") g
          ∧ Clashing.registry.Declares (Clashing.registry.ownRules g) (.combination .set e)
          ∧ runTogether (namesIn e.rule.toList) = "caplcuber".toList := by
  obtain ⟨t, ht, -⟩ := Clashing.exists_resolvesTo
  obtain ⟨spec, hspec, hc⟩ := Clashing.exists_declared .set
  obtain ⟨tables, -, e, hkept, -, -, g, hreach, hdecl, hnames, -⟩ :=
    combination_kept Clashing.build_eq ht hspec hc
  exact ⟨t, ht, e, hkept, g, hreach, hdecl, hnames.trans (by decide)⟩

/-- A combination that a format declares may be replaced by one with other targets. -/
theorem combination_replaced :
    ∃ t, Clashing.registry.ResolvesTo (Clashing.registry.getFormat "clash") t
      ∧ ∀ scope : BanScope, ∃ spec ∈ Clashing.registry.ownRules (Clashing.registry.getFormat "clash"),
        ∃ c, scope.combination? spec = some c ∧ ∀ e ∈ scope.list t, ¬ e.SameTargets c := by
  obtain ⟨t, ht, hlist⟩ := Clashing.exists_resolvesTo
  refine ⟨t, ht, fun scope => ?_⟩
  obtain ⟨spec, hspec, hc⟩ := Clashing.exists_declared scope
  refine ⟨spec, hspec, _, hc, fun e he hsame => ?_⟩
  rw [hlist, List.mem_singleton] at he
  have hcap := (hsame (.entry .tag "cap")).mp (by rw [he]; cases scope <;> decide)
  cases scope <;> exact absurd hcap (by decide)

end FormatRegistry

end TeamLegality
