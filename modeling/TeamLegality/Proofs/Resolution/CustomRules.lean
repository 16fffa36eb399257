import TeamLegality.Proofs.Resolution.Carriers
import TeamLegality.Proofs.Resolution.Derived

/-!
# Custom rules — what was asked for and what is in effect

A request drops the custom rules that are in effect in the table of the base and adds the others to
its rules.  What is new is in effect, unless it names a rule that the base suppresses or that is
found under another identifier, and what the base declares itself stays in effect.  What the base
inherits stays in effect exactly as long as something sustains it: a format that the derived format
includes still carries it, and for a rule none suppresses it (`requests_in_effect`).
-/

namespace TeamLegality

namespace FormatRegistry

variable {r : FormatRegistry} {f g sub : Format} {t T : RuleTable} {asked : List RuleSpec}
  {spec : RuleSpec} {target : Target} {key : RuleKey}

/-- One of some rules asks for a key. -/
def Asks (asked : List RuleSpec) (key : RuleKey) : Prop := ∃ spec ∈ asked, spec.key? = some key

instance : Decidable (Asks asked key) :=
  inferInstanceAs (Decidable (∃ spec ∈ asked, spec.key? = some key))

/-- What keeps a key that a format does not say in its table: another format carries it.  For a rule
none may carry its suppression, either; but a reference of the format's own to the rule, under
whatever identifier, settles the matter, for the rule and against its suppression. -/
def Sustains (r : FormatRegistry) (g : Format) : RuleKey → Prop
  | .rule x => r.Refers (r.ownRules g) x ∨ (∃ sub, r.Carries g (.rule x) sub)
      ∧ ¬ ∃ sub, r.Carries g (.suppression (.rule x)) sub
  | .suppression (.rule x) => ¬ r.Refers (r.ownRules g) x
      ∧ ∃ sub, r.Carries g (.suppression (.rule x)) sub
  | key => ∃ sub, r.Carries g key sub

/-! ### The table of a derived format -/

theorem notMem_newSpecs (hkey : spec.key? = some key) (hhas : t.has key = true) :
    spec ∉ newSpecs t asked := by
  simp [newSpecs, hkey, hhas]

/-- The table `t` of `f`, and the table `T` of a format that says besides what is new to `t` of some
rules. -/
structure Derivation (r : FormatRegistry) (f : Format) (t : RuleTable) (asked : List RuleSpec)
    (g : Format) (T : RuleTable) : Prop where
  base : TableOf r f t
  derived : TableOf r g T
  rules : r.ownRules g = derivedRules (r.ownRules f) (newSpecs t asked)

namespace Derivation

variable (h : r.Derivation f t asked g T)
include h

theorem mem_iff : spec ∈ r.ownRules g ↔ spec ∈ r.ownRules f ∨ spec ∈ newSpecs t asked := by
  rw [h.rules, mem_derivedRules]

/-- A rule that is new is a rule of the derived format. -/
theorem mem_of_new (hmem : spec ∈ asked) (hkey : spec.key? = some key)
    (hnew : t.has key = false) : spec ∈ r.ownRules g :=
  h.mem_iff.mpr (.inr (List.mem_filter.mpr ⟨hmem, by simp [hkey, hnew]⟩))

/-- A ban that is not taken back by the custom rules is declared by the derived format if it is new
or the base declares it. -/
theorem declares_ban_iff (hback : ¬ Asks asked (.unban target)) :
    ComesAfter (.unban target) (.ban target) (r.ownRules g)
      ↔ .ban target ∈ newSpecs t asked
        ∨ ComesAfter (.unban target) (.ban target) (r.ownRules f) := by
  have hunban : .unban target ∉ (newSpecs t asked).filter (!·.isSuppression) := fun hmem =>
    hback ⟨_, (List.mem_filter.mp (List.mem_filter.mp hmem).1).1, rfl⟩
  have hfront : ∀ {l : List RuleSpec}, ¬ ComesAfter (.unban target) (.ban target)
      (l.filter (·.isSuppression)).reverse := by
    intro l hafter
    simpa [RuleSpec.isSuppression] using hafter.mem
  rw [h.rules, derivedRules, comesAfter_append, comesAfter_append]
  constructor
  · rintro (hafter | ⟨-, hafter | ⟨-, hafter⟩⟩)
    · exact .inl (List.mem_filter.mp hafter.mem).1
    · exact .inr hafter
    · exact absurd hafter hfront
  · rintro (hmem | hafter)
    · exact .inl (comesAfter_of_mem (List.mem_filter.mpr ⟨hmem, rfl⟩) hunban)
    · exact .inr ⟨hunban, .inl hafter⟩

/-- A format that is not suppressed by a custom rule goes on to carry what it carries, unless a
custom rule takes it back. -/
theorem carries (hback : ¬ Asks asked key.opposite) (hcarries : r.Carries f key sub)
    (hs : .suppress sub.id ∉ asked) : r.Carries g key sub := by
  have hs' : .suppress sub.id ∉ newSpecs t asked := fun hmem => hs (List.mem_filter.mp hmem).1
  refine ⟨?_, fun target heq => ?_, hcarries.has⟩
  · unfold Includes entries
    rw [h.rules]
    exact mem_entriesAfter_derivedRules hcarries.includes hs'
  · subst heq
    unfold entries
    rw [h.rules, entriesAfter_derivedRules, comesAfter_append, comesAfter_append,
      comesAfter_filter (by simp [Entry.survives, hs']) rfl]
    refine .inr ⟨fun hmem => hback ⟨.unban target, ?_, rfl⟩, .inl (hcarries.behind target rfl)⟩
    have hunban := (List.mem_filter.mp (mem_of_own_mem_entriesAfter hmem)).1
    exact (List.mem_filter.mp hunban).1

/-- A rule that is not suppressed by what is asked for is in effect exactly if the base does not
suppress it and something sustains it. -/
theorem has_rule_iff_sustains {x : String} (hr : r.WellFormed)
    (hback : ¬ Asks asked (.suppression (.rule x))) : T.has (.rule x) = true ↔
      .suppress x ∉ r.ownRules f ∧ r.Sustains g (.rule x) := by
  refine (h.derived.has_rule_iff hr).trans (and_congr_left fun _ => not_congr ?_)
  rw [h.mem_iff]
  exact or_iff_left fun hmem => hback ⟨_, (List.mem_filter.mp hmem).1, rfl⟩

/-- What is asked for and new is in effect, except for a rule that the base suppresses or that is
found under another identifier and not sustained. -/
theorem has_iff_of_new (hr : r.WellFormed) (hask : Asks asked key)
    (hback : ¬ Asks asked key.opposite) (hnew : t.has key = false) : T.has key = true ↔
      ∀ x, key = .rule x → .suppress x ∉ r.ownRules f
        ∧ ((r.getFormat x).id = x ∨ r.Sustains g (.rule x)) := by
  obtain ⟨spec, hmem, hkey⟩ := hask
  have hown := h.mem_of_new hmem hkey hnew
  cases spec with
  | rule x =>
    cases hkey
    have hrefers (hfound : (r.getFormat x).id = x) : r.Sustains g (.rule x) :=
      .inl ⟨x, hown, hfound⟩
    rw [h.has_rule_iff_sustains hr hback]
    simp only [RuleKey.rule.injEq, forall_eq']
    exact and_congr_right fun _ => (or_iff_right_of_imp hrefers).symm
  | suppress x =>
    cases hkey
    exact iff_of_true ((h.derived.has_suppression_iff hr).mpr (.inl hown)) (by simp)
  | ban target =>
    cases hkey
    have hmem' : .ban target ∈ newSpecs t asked :=
      List.mem_filter.mpr ⟨hmem, by simp [RuleSpec.key?, hnew]⟩
    have hdeclares := (h.declares_ban_iff hback).mpr (.inl hmem')
    exact iff_of_true ((h.derived.has_ban_iff hr).mpr (.inl hdeclares)) (by simp)
  | unban target =>
    cases hkey
    exact iff_of_true ((h.derived.has_unban_iff hr).mpr (.inl hown)) (by simp)
  | complexBan c => cases hkey
  | teamBan c => cases hkey

/-- What is asked for and declared by the base stays in effect. -/
theorem has_of_declared (hr : r.WellFormed) (hask : Asks asked key)
    (hback : ¬ Asks asked key.opposite) (hdecl : t.get? key = some "") : T.has key = true := by
  obtain ⟨spec, hmem, hkey⟩ := hask
  cases spec with
  | rule x =>
    cases hkey
    obtain ⟨⟨id, hid, hx⟩, hS⟩ := (h.base.own_rule_iff hr).mp hdecl
    have hrefers : r.Refers (r.ownRules g) x := ⟨id, h.mem_iff.mpr (.inl hid), hx⟩
    exact (h.has_rule_iff_sustains hr hback).mpr ⟨hS, .inl hrefers⟩
  | suppress x =>
    cases hkey
    have hS := (h.base.built.steps.suppressed_iff hr x).mp hdecl
    exact (h.derived.has_suppression_iff hr).mpr (.inl (h.mem_iff.mpr (.inl hS)))
  | ban target =>
    cases hkey
    have hown := (h.base.built.steps.own_ban_iff hr).mp hdecl
    exact (h.derived.has_ban_iff hr).mpr (.inl ((h.declares_ban_iff hback).mpr (.inr hown)))
  | unban target =>
    cases hkey
    have hown := (h.base.built.steps.own_unban_iff hr).mp hdecl
    exact (h.derived.has_unban_iff hr).mpr (.inl (h.mem_iff.mpr (.inl hown)))
  | complexBan c => cases hkey
  | teamBan c => cases hkey

/-- What is asked for and inherited by the base stays in effect as long as it is sustained. -/
theorem has_iff_sustains (hr : r.WellFormed) (hask : Asks asked key)
    (hback : ¬ Asks asked key.opposite) (hhas : t.has key = true) (hown : t.get? key ≠ some "") :
    T.has key = true ↔ r.Sustains g key := by
  obtain ⟨spec, hmem, hkey⟩ := hask
  have hold : spec ∉ newSpecs t asked := notMem_newSpecs hkey hhas
  cases spec with
  | rule x =>
    cases hkey
    have hS := ((h.base.has_rule_iff hr).mp hhas).1
    exact (h.has_rule_iff_sustains hr hback).trans (and_iff_right hS)
  | suppress x =>
    cases hkey
    refine (h.derived.has_suppression_iff hr).trans (or_iff_right fun hS => ?_)
    rcases h.mem_iff.mp hS with hS | hS
    · exact hown ((h.base.built.steps.suppressed_iff hr x).mpr hS)
    · exact hold hS
  | ban target =>
    cases hkey
    refine (h.derived.has_ban_iff hr).trans (or_iff_right fun hban => ?_)
    rcases (h.declares_ban_iff hback).mp hban with hban | hban
    · exact hold hban
    · exact hown ((h.base.built.steps.own_ban_iff hr).mpr hban)
  | unban target =>
    cases hkey
    refine (h.derived.has_unban_iff hr).trans (or_iff_right fun hunban => ?_)
    rcases h.mem_iff.mp hunban with hunban | hunban
    · exact hown ((h.base.built.steps.own_unban_iff hr).mpr hunban)
    · exact hold hunban
  | complexBan c => cases hkey
  | teamBan c => cases hkey

end Derivation

theorem exists_parse_of_isInEffect {rule : String} {b : Bool}
    (h : r.isInEffect f t rule = .ok b) : ∃ spec, RuleSpec.parse r (some f) rule = .ok spec := by
  unfold isInEffect at h
  cases hp : RuleSpec.parse r (some f) rule with
  | error failure =>
    rw [hp] at h
    cases h
  | ok spec => exact ⟨spec, rfl⟩

/-- The format that a request comes to is derived by what it asks for. -/
theorem Course.derivation {rules : List String} {s s' : Session} (hr : r.WellFormed)
    (hs : r.Sound s) (hf : r.formats.get? f.id = some f) (hclean : ∀ rule ∈ rules, IsClean rule)
    (h : r.Course f rules s t s') : ∃ T, s'.cache.get?
        (f.withCustomRules (r.newRules f t rules)).key = some T
      ∧ r.Derivation f t (r.specsOf f rules) (f.withCustomRules (r.newRules f t rules)) T := by
  obtain ⟨s₁, T, hbase, hderived⟩ := h.runs
  have hoffers := Offers.registered hr hf
  have hnew : ∀ rule ∈ r.newRules f t rules, IsClean rule :=
    fun rule hrule => hclean rule (mem_of_mem_newRules hrule)
  have hoffers' := hoffers.withCustomRules (hr _ _ hf).known fun rule hrule =>
    (hnew rule hrule).comma_notMem
  have hs₁ : r.Sound s₁ := ((resolveAt_ahead hr hoffers hs).of_ok hbase).right
  refine ⟨T, remembered_of_run hderived, ?_, ?_, ?_⟩
  · exact tableOf_of_outcome hr hs (.inl hoffers) (outcome_eq_ok.mpr ⟨s₁, hbase⟩)
  · refine tableOf_of_outcome hr ?_ (.inl hoffers') (outcome_eq_ok.mpr ⟨s', hderived⟩)
    exact ((Ahead.refl hs₁).note _).right
  · have hread : ∀ rule ∈ rules, ∃ spec, RuleSpec.parse r (some f) rule = .ok spec :=
      fun rule hrule => exists_parse_of_isInEffect (h.readable rule hrule).choose_spec
    rw [ownRules_withCustomRules (hr _ _ hf).bare hnew
      (fun rule hrule => hread rule (mem_of_mem_newRules hrule)), specsOf_newRules hread]

/-- **What was asked for is in effect.**  A request with custom rules is validated to a key that
resolves.  A rule or a single ban or unban that the request asks for, and does not take back, is in
the table if it is new, except for a rule that the base suppresses or that is found under another
identifier and not sustained; and it is if the base declares it.  If the base inherits it, it is in
the table exactly when it is sustained; and what carries it to the base goes on to do so, unless the
request suppresses that.  The base has to be found by its own identifier. -/
theorem requests_in_effect {config : Config} {dexes : DexCollection} {aliases : Json}
    {entries : List FormatEntry} (hbuild : build config dexes aliases entries = .ok r)
    {calls : List Call} {name base k : String} {rules : List String}
    (hname : splitRequest name = (base, some rules))
    (hbase : r.IsFoundById (r.getFormat base))
    (h : r.validation name (r.after calls) = .ok k) :
    ∃ t T, r.ResolvesTo (r.getFormat base) t
      ∧ (∀ more, .clear ∉ more → ∀ depth, r.outcome depth (r.getFormat k)
        (r.after (calls ++ .validate name :: more)) = .ok T)
      ∧ ∀ key, Asks (r.specsOf (r.getFormat base) rules) key →
        ¬ Asks (r.specsOf (r.getFormat base) rules) key.opposite →
        (t.has key = false → (T.has key = true ↔
          ∀ x, key = .rule x → .suppress x ∉ r.ownRules (r.getFormat base)
            ∧ ((r.getFormat x).id = x ∨ r.Sustains (r.getFormat k) (.rule x))))
        ∧ (t.get? key = some "" → T.has key = true)
        ∧ (t.has key = true → t.get? key ≠ some "" →
          (T.has key = true ↔ r.Sustains (r.getFormat k) key))
        ∧ ∀ sub, r.Carries (r.getFormat base) key sub →
          .suppress sub.id ∉ r.specsOf (r.getFormat base) rules →
          r.Carries (r.getFormat k) key sub := by
  have hr := wellFormed_of_build hbuild
  have hs := sound_after hr calls
  obtain ⟨t, hcourse, hstable⟩ := stable_of_some hr hbase hname h
  have hf := hstable.registered
  obtain ⟨T, hremembered, hderivation⟩ :=
    hcourse.derivation hr hs hf (isClean_of_splitRequest hname)
  rw [← hstable.found] at hremembered hderivation
  refine ⟨t, T, (resolvesTo_iff hr (.registered hr hf)).mpr hderivation.base, ?_, ?_⟩
  · intro more hmore depth
    have hahead := ahead_after hr calls (.validate name) hmore
    obtain ⟨u, hu⟩ := hahead.remembers _ ⟨T, hremembered⟩
    have hagree := hahead.left.agree hahead.right (offers_getFormat hr k) hremembered hu
    exact outcome_of_remembered (hagree ▸ hu)
  · intro key hask hback
    exact ⟨hderivation.has_iff_of_new hr hask hback, hderivation.has_of_declared hr hask hback,
      hderivation.has_iff_sustains hr hask hback, fun _ => hderivation.carries hback⟩

/-- A request for a ban that is new, a suppression that the base declares and a ban that it inherits
from a format that the request suppresses: another format that is asked for carries that ban. -/
theorem requests_in_effect_child :
    Layered.registry.validation "Child@@@-Illegal,!Clause,-Unreleased,!Mid,Top"
        (Layered.registry.after []) = .ok "child@@@-Illegal,!Mid,Top"
      ∧ ∃ T, Layered.registry.outcome 0 (Layered.registry.getFormat "child@@@-Illegal,!Mid,Top")
          (Layered.registry.after
            [.validate "Child@@@-Illegal,!Clause,-Unreleased,!Mid,Top"]) = .ok T
        ∧ T.has (.ban (.plain "illegal")) = true
        ∧ T.has (.suppression (.rule "clause")) = true
        ∧ T.has (.ban (.plain "unreleased")) = true := by
  have hname : splitRequest "Child@@@-Illegal,!Clause,-Unreleased,!Mid,Top"
      = ("Child", some ["-Illegal", "!Clause", "-Unreleased", "!Mid", "Top"]) := by
    decide +kernel
  have hspecs : Layered.registry.specsOf (Layered.registry.getFormat "Child")
      ["-Illegal", "!Clause", "-Unreleased", "!Mid", "Top"]
      = [.ban (.plain "illegal"), .suppress "clause", .ban (.plain "unreleased"),
        .suppress "mid", .rule "top"] := by decide +kernel
  have hval : Layered.registry.validation "Child@@@-Illegal,!Clause,-Unreleased,!Mid,Top"
      (Layered.registry.after []) = .ok "child@@@-Illegal,!Mid,Top" := by decide +kernel
  obtain ⟨t, T, ht, hT, hasked⟩ := requests_in_effect Layered.build_eq hname
    (fun _ => by decide +kernel) hval
  rw [hspecs] at hasked
  have hr := wellFormed_of_build Layered.build_eq
  have htable : t.has (.ban (.plain "illegal")) = false
      ∧ t.get? (.suppression (.rule "clause")) = some ""
      ∧ t.get? (.ban (.plain "unreleased")) = some "Clause" := by
    obtain ⟨t', ht', hkeys⟩ := Layered.exists_resolvesTo "Child"
      (g := fun t => (t.has (.ban (.plain "illegal")), t.get? (.suppression (.rule "clause")),
        t.get? (.ban (.plain "unreleased")))) (v := (false, some "", some "Clause"))
      (by decide +kernel)
    rw [(ht.tableOf hr).unique (ht'.tableOf hr)]
    simpa using hkeys
  have hcarries : Layered.registry.Carries
      (Layered.registry.getFormat "child@@@-Illegal,!Mid,Top") (.ban (.plain "unreleased"))
      (Layered.registry.getFormat "top") := by
    obtain ⟨u, hu⟩ := Layered.exists_resolvesTo "top"
      (g := (·.has (.ban (.plain "unreleased")))) (v := true) (by decide +kernel)
    have hincl : .inclusion (Layered.registry.getFormat "top") ∈ Layered.registry.entries
        (Layered.registry.getFormat "child@@@-Illegal,!Mid,Top") := by decide +kernel
    have hnone : ∀ target : Target, target = .plain "unreleased" → .own (.unban target)
        ∉ Layered.registry.entries (Layered.registry.getFormat "child@@@-Illegal,!Mid,Top") := by
      rintro _ rfl
      decide +kernel
    refine ⟨hincl, fun target htarget => comesAfter_of_mem hincl (hnone target ?_), u, hu⟩
    exact (RuleKey.ban.inj htarget).symm
  obtain ⟨hnew, -, -, -⟩ := hasked (.ban (.plain "illegal")) (by decide) (by decide)
  obtain ⟨-, hdeclared, -, -⟩ := hasked (.suppression (.rule "clause")) (by decide) (by decide)
  obtain ⟨-, -, hinherited, -⟩ := hasked (.ban (.plain "unreleased")) (by decide) (by decide)
  refine ⟨hval, T, hT [] (by decide) 0, (hnew htable.1).mpr (by simp), hdeclared htable.2.1, ?_⟩
  have hhas := RuleTable.has_of_get? htable.2.2
  exact (hinherited hhas (by rw [htable.2.2]; decide)).mpr ⟨_, hcarries⟩

/-- A request succeeds, but something that it asks for and does not take back is not in effect. -/
def Loses (r : FormatRegistry) (name : String) (key : RuleKey) : Prop :=
  ∃ base rules k T, splitRequest name = (base, some rules)
    ∧ Asks (r.specsOf (r.getFormat base) rules) key
    ∧ ¬ Asks (r.specsOf (r.getFormat base) rules) key.opposite
    ∧ r.validation name (r.after []) = .ok k
    ∧ r.outcome 0 (r.getFormat k) (r.after [.validate name]) = .ok T ∧ T.has key = false

theorem loses_of_has {name base k : String} {rules : List String}
    (hname : splitRequest name = (base, some rules))
    (h : (Asks (r.specsOf (r.getFormat base) rules) key
        ∧ ¬ Asks (r.specsOf (r.getFormat base) rules) key.opposite)
      ∧ r.validation name (r.after []) = .ok k
      ∧ (r.outcome 0 (r.getFormat k) (r.after [.validate name])).toOption.map (·.has key)
        = some false) : r.Loses name key := by
  obtain ⟨⟨hask, hopp⟩, hval, hhas⟩ := h
  obtain ⟨T, hT, hkey⟩ := Option.map_eq_some_iff.mp hhas
  refine ⟨base, rules, k, T, hname, hask, hopp, hval, ?_, hkey⟩
  cases hout : r.outcome 0 (r.getFormat k) (r.after [.validate name]) with
  | error failure =>
    rw [hout] at hT
    cases hT
  | ok u =>
    rw [hout] at hT
    rw [Option.some.inj hT]

/-- Requests that are lost: for a rule that the base suppresses; for a ban, with the suppression of
the format that it is inherited from; for a rule, with a format that suppresses it; for a format
that is found under another identifier; and of a base that is found under another identifier. -/
theorem lost_requests : Layered.registry.Loses "Child@@@Clause" (.rule "clause")
    ∧ Layered.registry.Loses "Mid@@@-Unreleased,!Clause" (.ban (.plain "unreleased"))
    ∧ Layered.registry.Loses "Top@@@Clause,Child" (.rule "clause")
    ∧ Layered.registry.Loses "Top@@@OU" (.rule "ou")
    ∧ Layered.registry.Loses "s@@@-Unreleased,-Illegal" (.ban (.plain "unreleased")) := by
  have hchild : splitRequest "Child@@@Clause" = ("Child", some ["Clause"]) := by decide
  have hmid : splitRequest "Mid@@@-Unreleased,!Clause"
      = ("Mid", some ["-Unreleased", "!Clause"]) := by decide
  have htop : splitRequest "Top@@@Clause,Child" = ("Top", some ["Clause", "Child"]) := by decide
  have hou : splitRequest "Top@@@OU" = ("Top", some ["OU"]) := by decide
  have hsolo : splitRequest "s@@@-Unreleased,-Illegal"
      = ("s", some ["-Unreleased", "-Illegal"]) := by decide
  refine ⟨?_, ?_, ?_, ?_, ?_⟩
  · exact loses_of_has (k := "child@@@Clause") hchild (by decide +kernel)
  · exact loses_of_has (k := "mid@@@!Clause") hmid (by decide +kernel)
  · exact loses_of_has (k := "top@@@Child") htop (by decide +kernel)
  · exact loses_of_has (k := "top@@@OU") hou (by decide +kernel)
  · exact loses_of_has (k := "solo@@@-Illegal") hsolo (by decide +kernel)

end FormatRegistry

end TeamLegality
