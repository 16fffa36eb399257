import TeamLegality.Proofs.Format.Relisting
import TeamLegality.Proofs.RuleTable.Combinations
import TeamLegality.Proofs.RuleTable.Origins
import TeamLegality.Proofs.RuleTable.RuleKeys

/-!
# Provenance — which format an entry of a rule table comes from

An entry with the empty source is declared by the format itself.  One with another source comes
from the table of a format that is included (`Steps.origin`), and so, followed down the inclusions,
from a registered format of that name that declares it (`declared_by_source`).  A format that is
suppressed before it is referred to is not included, but what it declares may still come in
through a format that includes it (`held_through_others`).
-/

namespace TeamLegality

namespace FormatRegistry

open RuleTable (inheritedSource)

variable {r : FormatRegistry} {R : Format → RuleTable → Prop} {f g sub : Format}
  {t t' u : RuleTable} {done specs : List RuleSpec} {spec : RuleSpec} {held : TableEntry}
  {source : String} {hook : LegalityHook} {n : Nat}

/-! ### References and inclusions -/

/-- An inclusion is due to a reference that no rule before it suppresses. -/
theorem exists_reference_of_mem : ∀ {done specs : List RuleSpec},
    .inclusion sub ∈ r.entriesAfter done specs → ∃ before id after,
      specs = before ++ .rule id :: after ∧ sub = r.getFormat id ∧ sub.isKnown = true
        ∧ .suppress sub.id ∉ done ++ before
  | _, [], h => by cases h
  | done, spec :: specs, h => by
    rw [entriesAfter, List.mem_append, Option.mem_toList] at h
    rcases h with h | h
    · obtain ⟨id, rfl, rfl, hs, hk⟩ := contribution?_eq_inclusion h
      exact ⟨[], id, specs, rfl, rfl, hk, by simpa using hs⟩
    · obtain ⟨before, id, after, rfl, hsub, hk, hs⟩ := exists_reference_of_mem h
      exact ⟨spec :: before, id, after, rfl, hsub, hk, by simpa using hs⟩

theorem atSign_notMem_of_mem_ownRules {id : String} (h : .rule id ∈ r.ownRules f) :
    '@' ∉ id.toList := by
  obtain ⟨rule, -, hrule⟩ := List.mem_filterMap.mp h
  cases hp : RuleSpec.parse r (some f) rule with
  | error e =>
    rw [hp] at hrule
    cases hrule
  | ok spec =>
    rw [hp] at hrule
    cases hrule
    exact RuleSpec.atSign_notMem_of_parse hp

/-- Included formats are registered. -/
theorem Includes.registered (hr : r.WellFormed) (h : r.Includes f sub) :
    r.formats.get? sub.id = some sub := by
  obtain ⟨before, id, after, hown, rfl, hk, -⟩ := exists_reference_of_mem h
  have hid : .rule id ∈ r.ownRules f := by simp [hown]
  exact registered_of_splitName hr (splitName_of_notMem (atSign_notMem_of_mem_ownRules hid)) hk

/-! ### What a format declares -/

/-- The key that a rule declares, for a reference that of the format that it finds. -/
def declaredKey? (r : FormatRegistry) : RuleSpec → Option RuleKey
  | .rule id => some (.rule (r.getFormat id).id)
  | spec => spec.key?

/-- One of some rules declares an entry. -/
def Declares (r : FormatRegistry) (specs : List RuleSpec) : TableEntry → Prop
  | .key key => ∃ spec ∈ specs, r.declaredKey? spec = some key
  | .combination scope c => ∃ spec ∈ specs, scope.combination? spec = some { c with source := "" }

theorem Declares.mono {specs' : List RuleSpec} (hsub : specs ⊆ specs')
    (h : r.Declares specs held) : r.Declares specs' held := by
  cases held with
  | key key => exact h.imp fun _ ⟨hmem, hkey⟩ => ⟨hsub hmem, hkey⟩
  | combination scope c => exact h.imp fun _ ⟨hmem, hc⟩ => ⟨hsub hmem, hc⟩

/-- An entry after a rule was there before, or the rule declares it with the empty source. -/
def KeptOrDeclared (r : FormatRegistry) (spec : RuleSpec) (t t' : RuleTable) : Prop :=
  ∀ held source, t'.Holds held source →
    t.Holds held source ∨ source = "" ∧ r.Declares [spec] held

theorem keptOrDeclared_set {key : RuleKey} (hkey : r.declaredKey? spec = some key) :
    r.KeptOrDeclared spec t (t.set key "") := by
  intro held source h
  cases held with
  | key x =>
    change (t.set key "").get? x = some source at h
    rw [RuleTable.get?_set] at h
    split_ifs at h with hx
    · subst hx
      exact .inr ⟨(Option.some.inj h).symm, spec, List.mem_singleton_self spec, hkey⟩
    · exact .inl h
  | combination scope c =>
    rw [RuleTable.holds_combination_iff, RuleTable.list_set] at h
    exact .inl h

theorem KeptOrDeclared.of_erase {key : RuleKey}
    (h : r.KeptOrDeclared spec (t.erase key) t') : r.KeptOrDeclared spec t t' := by
  intro held source hh
  refine (h held source hh).imp_left fun hh => ?_
  cases held with
  | key x =>
    change (t.erase key).get? x = some source at hh
    rw [RuleTable.get?_erase] at hh
    split_ifs at hh
    exact hh
  | combination scope c => cases scope <;> exact hh

theorem keptOrDeclared_referTo (id : String) :
    r.KeptOrDeclared (.rule id) t (t.referTo (r.getFormat id).id) :=
  .of_erase (keptOrDeclared_set rfl)

theorem keptOrDeclared_merge (scope : BanScope) {c : Combination} (hown : spec.IsOwn)
    (hc : scope.combination? spec = some c) (hkeys : ∀ x, t'.get? x = t.get? x)
    (hlist : scope.list t' = c.merge (scope.list t))
    (hother : ∀ scope' ≠ scope, scope'.list t' = scope'.list t) :
    r.KeptOrDeclared spec t t' := by
  intro held source h
  cases held with
  | key x => exact .inl ((hkeys x).symm.trans h)
  | combination scope' c' =>
    rw [RuleTable.holds_combination_iff] at h ⊢
    by_cases hscope : scope' = scope
    · subst hscope
      rw [hlist] at h
      rcases Combination.mem_merge h with h | h
      · have hsource : source = "" := (congrArg Combination.source h).trans (hown _ c hc)
        subst hsource
        exact .inr ⟨rfl, spec, List.mem_singleton_self spec, by rw [hc, h]⟩
      · exact .inl h
    · rw [hother scope' hscope] at h
      exact .inl h

/-! ### Where an entry comes from -/

/-- An entry is in the table of a format that some entries include, and its source is what becomes
of the source that it has there. -/
def ComesFrom (R : Format → RuleTable → Prop) (entries : List Entry) (held : TableEntry)
    (source : String) : Prop :=
  ∃ sub u s, .inclusion sub ∈ entries ∧ R sub u ∧ u.Holds held s
    ∧ source = inheritedSource sub.name s

theorem ComesFrom.mono {entries entries' : List Entry} (hsub : entries ⊆ entries')
    (h : ComesFrom R entries held source) : ComesFrom R entries' held source := by
  obtain ⟨sub, u, s, hmem, hu⟩ := h
  exact ⟨sub, u, s, hsub hmem, hu⟩

/-- **Where an entry comes from after one more rule**: it was there, the rule declares it, or the
rule includes a format whose table has it. -/
theorem Step.origin (hown : spec.IsOwn) (hs : Step r R f done t spec t')
    (h : t'.Holds held source) : t.Holds held source ∨ source = "" ∧ r.Declares [spec] held
      ∨ ComesFrom R (r.contribution? done spec).toList held source := by
  have hkept : r.KeptOrDeclared spec t t' → t.Holds held source
      ∨ source = "" ∧ r.Declares [spec] held
      ∨ ComesFrom R (r.contribution? done spec).toList held source :=
    fun hkept => (hkept held source h).imp_right .inl
  cases hs with
  | teamBan c =>
    refine hkept (keptOrDeclared_merge .team hown rfl (fun _ => rfl) rfl ?_)
    intro scope hscope
    cases scope
    · rfl
    · exact absurd rfl hscope
  | complexBan c =>
    refine hkept (keptOrDeclared_merge .set hown rfl (fun _ => rfl) rfl ?_)
    intro scope hscope
    cases scope
    · exact absurd rfl hscope
    · rfl
  | ban target => exact hkept (keptOrDeclared_set rfl)
  | unban target => exact hkept (.of_erase (keptOrDeclared_set rfl))
  | suppress id => exact hkept (keptOrDeclared_set rfl)
  | passed id hpass => exact .inl h
  | missing id hpass hk => exact hkept (keptOrDeclared_referTo id)
  | @included id u _ hpass hk hu ht' =>
    rcases RuleTable.holds_inheritFrom ht' h with h | ⟨s, hs, hsource⟩
    · exact (keptOrDeclared_referTo id held source h).imp_right .inl
    · refine .inr (.inr ⟨r.getFormat id, u, s, ?_, hu, hs, hsource⟩)
      rw [contribution?_of_included hpass hk]
      exact List.mem_singleton_self _

/-- **Where the entries of a table come from**: the format declares them itself, or includes a
format whose table has them. -/
theorem Steps.origin (hown : ∀ spec ∈ specs, spec.IsOwn) (h : Steps r R f specs t)
    (hh : t.Holds held source) : source = "" ∧ r.Declares specs held
      ∨ ComesFrom R (r.entriesAfter [] specs) held source := by
  induction h with
  | start => cases held with
    | key key => cases hh
    | combination scope c => cases scope <;> cases hh
  | @snoc done t t' spec h hs ih =>
    have hdone : ∀ spec ∈ done, spec.IsOwn :=
      fun spec hmem => hown spec (List.mem_append_left _ hmem)
    have hspec : spec.IsOwn := hown spec (by simp)
    rw [entriesAfter_snoc]
    rcases hs.origin hspec hh with hh | ⟨hsource, hdecl⟩ | hfrom
    · rcases ih hdone hh with ⟨hsource, hdecl⟩ | hfrom
      · exact .inl ⟨hsource, hdecl.mono (List.subset_append_left _ _)⟩
      · exact .inr (hfrom.mono (List.subset_append_left _ _))
    · exact .inl ⟨hsource, hdecl.mono (List.subset_append_right _ _)⟩
    · exact .inr (hfrom.mono (List.subset_append_right _ _))

theorem Built.origin (h : Built r R f t) (hh : t.Holds held source) :
    source = "" ∧ r.Declares (r.ownRules f) held ∨ ComesFrom R (r.entries f) held source :=
  h.steps.origin (fun _ => isOwn_of_mem_ownRules) hh

/-- What has the empty source is declared by the format itself. -/
theorem Built.declares (hr : r.WellFormed) (h : Built r R f t) (hh : t.Holds held "") :
    r.Declares (r.ownRules f) held := by
  rcases h.origin hh with ⟨-, hdecl⟩ | ⟨sub, u, s, hincl, -, -, hsource⟩
  · exact hdecl
  · obtain ⟨-, id, -, -, rfl, hk, -⟩ := exists_reference_of_mem hincl
    have hname := (offers_getFormat hr id).name_ne hr hk
    exact absurd hsource.symm (RuleTable.inheritedSource_ne hname s)

/-- A format is reached from another one through one or more active inclusions. -/
abbrev ReachesBelow (r : FormatRegistry) : Format → Format → Prop := Relation.TransGen r.Includes

/-- Followed down the inclusions, an entry comes from a format that has it with the empty source. -/
theorem TableWithin.exists_declaring : ∀ {n : Nat} {f : Format} {t : RuleTable},
    TableWithin r n f t → t.Holds held source → source ≠ "" →
      ∃ g u, r.ReachesBelow f g ∧ g.name = source ∧ TableOf r g u ∧ u.Holds held ""
  | 0, f, t, h, hh, hne => by
    rcases Built.origin h hh with ⟨hsource, -⟩ | ⟨sub, u, s, -, hu, -⟩
    · exact absurd hsource hne
    · exact hu.elim
  | n + 1, f, t, h, hh, hne => by
    rcases Built.origin h hh with ⟨hsource, -⟩ | ⟨sub, u, s, hincl, hu, hs, hsource⟩
    · exact absurd hsource hne
    · unfold inheritedSource at hsource
      split_ifs at hsource with hempty
      · subst hempty
        exact ⟨sub, u, .single hincl, hsource.symm, ⟨n, hu⟩, hs⟩
      · subst hsource
        obtain ⟨g, v, hreach, hg⟩ := exists_declaring hu hs hne
        exact ⟨g, v, .head hincl hreach, hg⟩

theorem ReachesBelow.registered (hr : r.WellFormed) (h : r.ReachesBelow f g) :
    r.formats.get? g.id = some g := by
  cases h with
  | single hincl => exact hincl.registered hr
  | tail _ hincl => exact hincl.registered hr

/-! ### Hooks -/

theorem Steps.hook_origin (h : Steps r R f specs t) (hh : t.hook = some hook) :
    f.declaredHook? = some hook
      ∨ ∃ sub u, .inclusion sub ∈ r.entriesAfter [] specs ∧ R sub u ∧ u.hook = some hook := by
  induction h with
  | start => exact .inl hh
  | @snoc done t t' spec h hs ih =>
    have hold : t.hook = some hook → f.declaredHook? = some hook ∨ ∃ sub u,
        .inclusion sub ∈ r.entriesAfter [] (done ++ [spec]) ∧ R sub u ∧ u.hook = some hook := by
      intro hold
      refine (ih hold).imp_right fun ⟨sub, u, hmem, hu⟩ => ⟨sub, u, ?_, hu⟩
      rw [entriesAfter_snoc]
      exact List.mem_append_left _ hmem
    cases hs with
    | teamBan c => exact hold hh
    | complexBan c => exact hold hh
    | ban target => exact hold hh
    | unban target => exact hold hh
    | suppress id => exact hold hh
    | passed id hpass => exact hold hh
    | missing id hpass hk => exact hold hh
    | @included id u _ hpass hk hu ht' =>
      rcases RuleTable.hook_inheritFrom ht' hh with hh | hh
      · exact hold hh
      · refine .inr ⟨r.getFormat id, u, ?_, hu, hh⟩
        rw [entriesAfter_snoc, contribution?_of_included hpass hk]
        simp

/-- The hook of a table is declared by a format that is reached. -/
theorem TableWithin.exists_hook : ∀ {n : Nat} {f : Format} {t : RuleTable},
    TableWithin r n f t → t.hook = some hook →
      ∃ g, r.Reaches f g ∧ g.declaredHook? = some hook
  | 0, f, t, h, hh => by
    rcases h.steps.hook_origin hh with hdecl | ⟨sub, u, -, hu, -⟩
    · exact ⟨f, .refl, hdecl⟩
    · exact hu.elim
  | n + 1, f, t, h, hh => by
    rcases h.steps.hook_origin hh with hdecl | ⟨sub, u, hincl, hu, hhook⟩
    · exact ⟨f, .refl, hdecl⟩
    · obtain ⟨g, hreach, hg⟩ := exists_hook hu hhook
      exact ⟨g, .head hincl hreach, hg⟩

theorem learnsetCheck_of_declaredHook? (h : f.declaredHook? = some hook) :
    f.name = hook.source ∧ f.learnsetCheck = some hook.name := by
  unfold Format.declaredHook? at h
  split at h
  · next check hcheck =>
    split_ifs at h
    cases h
    exact ⟨rfl, hcheck⟩
  · cases h

/-! ### A registry with layers -/

namespace Layered

/-- A clause with bans, a format that includes it, and two that include that format, of which the
first suppresses the clause.  Then two formats of which the one has the identifier of the other
after the default mod, and one whose identifier is an alias. -/
def records : List FormatRecord := [
  { name := "Clause", effectType := .rule, banlist := ["Unreleased", "Illegal + Unreleased"],
    learnsetCheck := some "strict" },
  { name := "Mid", ruleset := ["Clause"] },
  { name := "Child", ruleset := ["!Clause", "Mid"] },
  { name := "Top", ruleset := ["Mid"] },
  { name := "OU" },
  { name := "Gen7 OU" },
  { name := "Solo", banlist := ["Unreleased"] }]

/-- The second alias hides the format that the first one leads to. -/
def aliases : Json := .obj [("s", .str "Solo"), ("solo", .str "OU")]

/-- The registry of these records, if there is one. -/
def built : Except RegistryError FormatRegistry :=
  build {} (.ofDexes [Sample.dex]) aliases (records.map .record)

theorem isSome_built : built.toOption.isSome = true := by decide +kernel

/-- The registry of these records. -/
def registry : FormatRegistry := built.toOption.get isSome_built

theorem build_eq :
    build {} (.ofDexes [Sample.dex]) aliases (records.map .record) = .ok registry :=
  eq_ok_get isSome_built

theorem exists_resolvesTo (name : String) {β : Type} {g : RuleTable → β} {v : β}
    (h : (registry.outcome 0 (registry.getFormat name) .fresh).toOption.map g = some v) :
    ∃ t, registry.ResolvesTo (registry.getFormat name) t ∧ g t = v :=
  exists_resolvesTo_of_map (wellFormed_of_build build_eq) h

/-- The format that suppresses the clause resolves, and the ban of the clause is in its table. -/
theorem exists_child : ∃ t, registry.ResolvesTo (registry.getFormat "child") t
    ∧ t.get? (.ban (.plain "unreleased")) = some "Clause" :=
  exists_resolvesTo "child" (by decide +kernel)

end Layered

/-! ### Sources name what declares -/

theorem ResolvesTo.exists_declaring (hr : r.WellFormed) (h : r.ResolvesTo f t)
    (hh : t.Holds held source) (hne : source ≠ "") :
    ∃ g u, r.ReachesBelow f g ∧ r.formats.get? g.id = some g ∧ g.name = source
      ∧ r.ResolvesTo g u ∧ u.Holds held "" ∧ r.Declares (r.ownRules g) held := by
  obtain ⟨n, hn⟩ := h.tableOf hr
  obtain ⟨g, u, hreach, hname, hu, hheld⟩ := hn.exists_declaring hh hne
  have hg := hreach.registered hr
  exact ⟨g, u, hreach, hg, hname, (resolvesTo_iff hr (.registered hr hg)).mpr hu, hheld,
    hu.built.declares hr hheld⟩

/-- **A source names the format that declares.**  What a table has from elsewhere, a key or a
combination, is declared by a registered format with the name of its source, which is reached
through one or more inclusions and whose own table has it with the empty source.  The hook of a
table is declared by a format that is reached, with the name of its source. -/
theorem declared_by_source {config : Config} {dexes : DexCollection} {aliases : Json}
    {entries : List FormatEntry} (hbuild : build config dexes aliases entries = .ok r)
    (h : r.ResolvesTo f t) :
    (∀ key source, t.get? key = some source → source ≠ "" →
      ∃ g u, r.ReachesBelow f g ∧ r.formats.get? g.id = some g ∧ g.name = source
        ∧ r.ResolvesTo g u ∧ u.get? key = some "" ∧ r.Declares (r.ownRules g) (.key key))
    ∧ (∀ scope : BanScope, ∀ c ∈ scope.list t, c.source ≠ "" →
      ∃ g u, r.ReachesBelow f g ∧ r.formats.get? g.id = some g ∧ g.name = c.source
        ∧ r.ResolvesTo g u ∧ { c with source := "" } ∈ scope.list u
        ∧ r.Declares (r.ownRules g) (.combination scope c))
    ∧ ∀ hook, t.hook = some hook →
      ∃ g, r.Reaches f g ∧ g.name = hook.source ∧ g.learnsetCheck = some hook.name := by
  have hr := wellFormed_of_build hbuild
  refine ⟨fun key source hkey hne => ?_, fun scope c hc hne => ?_, fun hook hhook => ?_⟩
  · have hheld : t.Holds (.key key) source := hkey
    exact h.exists_declaring hr hheld hne
  · have hheld : t.Holds (.combination scope c) c.source := hc
    exact h.exists_declaring hr hheld hne
  · obtain ⟨n, hn⟩ := h.tableOf hr
    obtain ⟨g, hreach, hdecl⟩ := hn.exists_hook hhook
    exact ⟨g, hreach, learnsetCheck_of_declaredHook? hdecl⟩

/-- A ban that comes through two inclusions. -/
theorem declared_by_source_child :
    ∃ t, Layered.registry.ResolvesTo (Layered.registry.getFormat "child") t
      ∧ t.get? (.ban (.plain "unreleased")) = some "Clause"
      ∧ ∃ g u, Layered.registry.ReachesBelow (Layered.registry.getFormat "child") g
        ∧ g.name = "Clause" ∧ Layered.registry.ResolvesTo g u
        ∧ u.get? (.ban (.plain "unreleased")) = some "" := by
  obtain ⟨t, ht, hban⟩ := Layered.exists_child
  obtain ⟨g, u, hreach, -, hname, hu, hkey, -⟩ :=
    (declared_by_source Layered.build_eq ht).1 _ _ hban (by decide)
  exact ⟨t, ht, hban, g, u, hreach, hname, hu, hkey⟩

/-! ### Suppressed formats -/

/-- A format is suppressed by some rules before any of them refers to it. -/
def SuppressedFirst (r : FormatRegistry) (specs : List RuleSpec) (x : String) : Prop :=
  .suppress x ∈ specs ∧ ∀ before id after, specs = before ++ .rule id :: after →
    (r.getFormat id).id = x → .suppress x ∈ before

theorem suppressedFirst_cons {x : String} : r.SuppressedFirst (.suppress x :: specs) x := by
  refine ⟨List.mem_cons_self, fun before id after heq _ => ?_⟩
  cases before with
  | nil => cases heq
  | cons spec before =>
    rw [List.cons_append] at heq
    cases heq
    exact List.mem_cons_self

theorem SuppressedFirst.not_includes (h : r.SuppressedFirst (r.ownRules f) g.id) :
    ¬ r.Includes f g := by
  intro hincl
  obtain ⟨before, id, after, hown, hsub, -, hs⟩ := exists_reference_of_mem hincl
  rw [List.nil_append] at hs
  exact hs (h.2 before id after hown (by rw [hsub]))

namespace Layered

theorem registered_clause : registry.formats.get? "clause" = some (registry.getFormat "clause")
    ∧ (registry.getFormat "clause").id = "clause"
    ∧ (registry.getFormat "clause").name = "Clause" := by decide +kernel

theorem suppressedFirst_child :
    registry.SuppressedFirst (registry.ownRules (registry.getFormat "child")) "clause" := by
  have hown : registry.ownRules (registry.getFormat "child")
      = [.suppress "clause", .rule "mid"] := by decide +kernel
  rw [hown]
  exact suppressedFirst_cons

end Layered

/-- **What a suppressed format declares comes in through others only.**  If a format suppresses a
registered one before it refers to it, then it does not have that rule nor include that format.  An
entry with the name of that format for its source is in the table of another format that is
included and that reaches the suppressed one. -/
theorem held_through_others {config : Config} {dexes : DexCollection} {aliases : Json}
    {entries : List FormatEntry} (hbuild : build config dexes aliases entries = .ok r)
    (h : r.ResolvesTo f t) (hg : r.formats.get? g.id = some g)
    (hfirst : r.SuppressedFirst (r.ownRules f) g.id) :
    t.has (.rule g.id) = false ∧ ¬ r.Includes f g
      ∧ ∀ held, t.Holds held g.name → ∃ sub u, r.Includes f sub ∧ sub ≠ g
        ∧ r.ResolvesTo sub u ∧ u.Holds held g.name ∧ r.ReachesBelow sub g := by
  have hr := wellFormed_of_build hbuild
  obtain ⟨tables, -, hsteps⟩ := h.exists_tables hr
  have hstanding := hsteps.standing hr (fun _ _ hu => hu) g.id
  have hnot := hfirst.not_includes
  refine ⟨?_, hnot, fun held hh => ?_⟩
  · have hsupp := hstanding.suppressed.mpr hfirst.1
    rw [RuleTable.has_eq_false_iff]
    exact hstanding.exclusive.resolve_right (by simp [hsupp])
  · have hname : g.name ≠ "" := (hr g.id g hg).name_ne
    rcases (h.tableOf hr).built.origin hh with ⟨hempty, -⟩ | ⟨sub, u, s, hincl, hu, hs, hsource⟩
    · exact absurd hempty hname
    have hsub : r.Includes f sub := hincl
    have hne : sub ≠ g := fun heq => hnot (heq ▸ hsub)
    have hu' : r.ResolvesTo sub u := (resolvesTo_iff hr (hsub.offers hr)).mpr hu
    -- Two registered formats with one name are the same.
    have hunique : ∀ g' : Format, r.formats.get? g'.id = some g' → g'.name = g.name → g' = g := by
      intro g' hg' heq
      have hid : g'.id = g.id := by
        rw [← (hr _ _ hg').toId_name, ← (hr _ _ hg).toId_name, heq]
      rw [hid, hg] at hg'
      exact (Option.some.inj hg').symm
    unfold inheritedSource at hsource
    split_ifs at hsource with hempty
    · exact absurd (hunique sub (hsub.registered hr) hsource.symm) hne
    · subst hsource
      obtain ⟨g', u', hreach, hg', hname', -⟩ := hu'.exists_declaring hr hs hname
      rw [hunique g' hg' hname'] at hreach
      exact ⟨sub, u, hsub, hne, hu', hs, hreach⟩

/-- A clause that is suppressed first: the ban that it declares comes in through the format that
includes it. -/
theorem held_through_others_child :
    ∃ t, Layered.registry.ResolvesTo (Layered.registry.getFormat "child") t
      ∧ t.has (.rule "clause") = false
      ∧ ∃ sub u, Layered.registry.Includes (Layered.registry.getFormat "child") sub
        ∧ Layered.registry.ResolvesTo sub u
        ∧ u.get? (.ban (.plain "unreleased")) = some "Clause" := by
  obtain ⟨t, ht, hban⟩ := Layered.exists_child
  obtain ⟨hclause, hid, hname⟩ := Layered.registered_clause
  obtain ⟨hrule, -, hheld⟩ := held_through_others (g := Layered.registry.getFormat "clause")
    Layered.build_eq ht (hid ▸ hclause) (hid ▸ Layered.suppressedFirst_child)
  obtain ⟨sub, u, hincl, -, hu, hkey, -⟩ :=
    hheld (.key (.ban (.plain "unreleased"))) (by rw [hname]; exact hban)
  exact ⟨t, ht, hid ▸ hrule, sub, u, hincl, hu, hname ▸ hkey⟩

/-- Suppressing a clause first does not keep out what it declares. -/
theorem ban_of_suppressed_clause :
    Layered.registry.formats.get? "clause" = some (Layered.registry.getFormat "clause")
      ∧ Layered.registry.SuppressedFirst
        (Layered.registry.ownRules (Layered.registry.getFormat "child")) "clause"
      ∧ ∃ t, Layered.registry.ResolvesTo (Layered.registry.getFormat "child") t
        ∧ t.get? (.ban (.plain "unreleased"))
          = some (Layered.registry.getFormat "clause").name := by
  obtain ⟨t, ht, hban⟩ := Layered.exists_child
  obtain ⟨hclause, -, hname⟩ := Layered.registered_clause
  exact ⟨hclause, Layered.suppressedFirst_child, t, ht, by rw [hname, hban]⟩

end FormatRegistry

end TeamLegality
