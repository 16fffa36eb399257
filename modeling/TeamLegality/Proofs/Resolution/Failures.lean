import TeamLegality.Proofs.Resolution.Faults
import TeamLegality.Proofs.Resolution.Requests
import TeamLegality.Proofs.Rule.SyntaxErrors

/-!
# Failures — what resolving and validating may end in

The configuration is at fault when a format cannot be resolved or a request is turned down.  There
is one other failure, that of a number, and it goes back to a rule text with a limit that no number
can be made of: one of the request, or a working rule of a format on the way (`failures`).
-/

namespace TeamLegality

/-- The failure is one of the configuration. -/
def Failure.IsConfiguration (e : Failure) : Prop :=
  ∃ cause format, e = .configuration cause format

theorem Failure.isConfiguration_of (cause : ConfigurationCause) :
    (Failure.of cause).IsConfiguration := ⟨cause, none, rfl⟩

theorem Failure.IsSyntax.isConfiguration {e : Failure} (h : e.IsSyntax) : e.IsConfiguration := by
  obtain ⟨cause, -, format, rfl⟩ := h
  exact ⟨cause, format, rfl⟩

theorem Failure.IsConfiguration.inFormat {e : Failure} (h : e.IsConfiguration) (name : String) :
    (e.inFormat name).IsConfiguration := by
  obtain ⟨cause, _ | format, rfl⟩ := h
  · exact ⟨cause, some name, rfl⟩
  · exact ⟨cause, some format, rfl⟩

namespace FormatRegistry

open SessionM RuleSpec

variable {r : FormatRegistry} {f sub : Format} {stack : List String} {rule name base : String}
  {t : RuleTable} {s : Session} {done : List RuleSpec} {e : Failure} {levels : Nat}
  {rules : List String}

/-- From the format some format is reached that has a working rule with a limit that no number can
be made of. -/
def MeetsUnreadable (r : FormatRegistry) (f : Format) : Prop :=
  ∃ g rule, r.Reaches f g ∧ rule ∈ g.workingRules ∧ IsUnreadable (some g) rule

/-! ### Resolving -/

theorem Fault.cause (h : Fault r f stack levels done t rule e) :
    e.IsConfiguration ∨ e = .unreadableNumber ∧ IsUnreadable (some f) rule := by
  cases h with
  | unreadable hp => exact (parse_eq_error hp).imp_left Failure.IsSyntax.isConfiguration
  | cyclic hp hc hstack => exact .inl (Failure.isConfiguration_of _)
  | tooDeep hp hc hnew hlevels => exact .inl (Failure.isConfiguration_of _)
  | conflict hp hc hu hi => exact .inl (Failure.isConfiguration_of _)

theorem Fails.cause (h : Fails r levels stack f e) :
    e.IsConfiguration ∨ e = .unreadableNumber ∧ r.MeetsUnreadable f := by
  induction h with
  | @own levels stack f before t rule after e h =>
    refine h.fault.cause.imp (fun he => he.inFormat f.name) ?_
    rintro ⟨rfl, hrule⟩
    exact ⟨rfl, f, rule, .refl, by simp [h.place], hrule⟩
  | included hincl hnew h ih =>
    refine ih.imp_right ?_
    rintro ⟨he, g, rule, hreach, hrule⟩
    exact ⟨he, g, rule, .head hincl hreach, hrule⟩

theorem leads_resolve (hr : r.WellFormed) (depth : Int) (f : Format) (hs : r.Sound s) :
    Leads (r.resolveAt depth f) s (fun _ _ => True) fun e _ =>
      e.IsConfiguration ∨ e = .unreadableNumber ∧ r.MeetsUnreadable f :=
  (resolveWithin_fails hr _ f [] s hs).mono (fun _ _ h => h) fun _ _ h => h.cause

/-! ### Validating -/

/-- Sorting custom rules fails as reading one of them does. -/
theorem exists_of_sortRules_failure (h : (r.sortRules f t rules).2 = some e) :
    ∃ rule ∈ rules, parse r (some f) rule = .error e := by
  induction rules with
  | nil => cases h
  | cons rule rest ih =>
    rw [sortRules] at h
    cases hrule : r.isInEffect f t rule with
    | error e' =>
      rw [hrule] at h
      cases h
      refine ⟨rule, List.mem_cons_self, ?_⟩
      unfold isInEffect at hrule
      cases hp : parse r (some f) rule with
      | error e'' => rw [hp] at hrule; cases hrule; rfl
      | ok spec => rw [hp] at hrule; cases hrule
    | ok inEffect =>
      rw [hrule] at h
      have hrest : (r.sortRules f t rest).2 = some e := by cases inEffect <;> exact h
      obtain ⟨rule', hmem, hparse⟩ := ih hrest
      exact ⟨rule', List.mem_cons_of_mem rule hmem, hparse⟩

/-- A number is at fault in a request: that of one of its rules, or one that is met from its base or
from the base with some of the rules. -/
def RequestMeetsUnreadable (r : FormatRegistry) (name : String) : Prop :=
  let f := r.getFormat (splitRequest name).1
  let rules := (splitRequest name).2.getD []
  (∃ rule ∈ rules, IsUnreadable (some f) rule) ∨ r.MeetsUnreadable f
    ∨ ∃ kept ⊆ rules, r.MeetsUnreadable (f.withCustomRules kept)

theorem leads_validateFormat (hr : r.WellFormed) (name : String) (hs : r.Sound s) :
    Leads (r.validateFormat name) s (fun _ _ => True) fun e _ =>
      e.IsConfiguration ∨ e = .unreadableNumber ∧ r.RequestMeetsUnreadable name := by
  have hbase : r.Offers (r.getFormat (splitRequest name).1) := offers_getFormat hr _
  unfold validateFormat RequestMeetsUnreadable
  rcases hname : splitRequest name with ⟨base, rules⟩
  rw [hname] at hbase
  dsimp only at hbase ⊢
  split_ifs with hk
  · exact leads_bind (leads_throw (.inl (Failure.isConfiguration_of _)))
  cases rules with
  | none => exact leads_pure trivial
  | some rules =>
    have hresolve := (leads_resolve hr 0 (r.getFormat base) hs).and
      (resolveAt_ahead hr hbase hs)
    refine leads_bind (hresolve.mono ?_ ?_)
    · rintro t s' ⟨-, hahead⟩
      refine leads_bind (leads_modify ?_)
      cases hfailure : (r.sortRules (r.getFormat base) t rules).2 with
      | some e =>
        refine leads_bind (leads_throw ?_)
        obtain ⟨rule, hrule, hparse⟩ := exists_of_sortRules_failure hfailure
        exact (parse_eq_error hparse).imp Failure.IsSyntax.isConfiguration
          fun ⟨he, hunreadable⟩ => ⟨he, .inl ⟨rule, hrule, hunreadable⟩⟩
      | none =>
        dsimp only
        split_ifs with hkept
        · exact leads_bind (leads_throw (.inl (Failure.isConfiguration_of _)))
        refine leads_bind ((leads_resolve hr 0 _ (hahead.note _).right).mono
          (fun _ _ _ => leads_pure trivial) fun e _ h => ?_)
        exact h.imp_right fun ⟨he, hmeets⟩ =>
          ⟨he, .inr (.inr ⟨_, fun _ => mem_of_mem_sortRules, hmeets⟩)⟩
    · rintro e s' ⟨h, -⟩
      exact h.imp_right fun ⟨he, hmeets⟩ => ⟨he, .inr (.inl hmeets)⟩

theorem exists_run_of_validation_error (h : r.validation name s = .error e) :
    ∃ s', (r.validateFormat name).run.run s = (.error e, s') := by
  unfold validation at h
  rcases hrun : (r.validateFormat name).run.run s with ⟨x, s'⟩
  rw [hrun] at h
  exact ⟨s', by rw [← h]⟩

/-! ### Every failure -/

/-- **Failures are of the configuration, but for one.**  A rule text that is no ban with an
unreadable limit is read, or fails over its wording; one that is fails over a number.  After any
calls, resolving a format fails over the configuration, or over a number that is met from it, and so
does validating a name. -/
theorem failures {config : Config} {dexes : DexCollection} {aliases : Json}
    {entries : List FormatEntry} (hbuild : build config dexes aliases entries = .ok r)
    (calls : List Call) :
    (∀ declaring text, ¬ IsUnreadable declaring text → (∃ spec, parse r declaring text = .ok spec)
      ∨ ∃ e : Failure, e.IsSyntax ∧ parse r declaring text = .error e)
    ∧ (∀ declaring text, IsUnreadable declaring text →
      parse r declaring text = .error .unreadableNumber)
    ∧ (∀ f depth e, r.outcome depth f (r.after calls) = .error e →
      e.IsConfiguration ∨ e = .unreadableNumber ∧ r.MeetsUnreadable f)
    ∧ ∀ name e, r.validation name (r.after calls) = .error e →
      e.IsConfiguration ∨ e = .unreadableNumber ∧ r.RequestMeetsUnreadable name := by
  have hr := wellFormed_of_build hbuild
  have hs := sound_after hr calls
  refine ⟨fun _ _ => parse_of_not_isUnreadable r, fun _ _ => parse_of_isUnreadable r, ?_, ?_⟩
  · intro f depth e h
    exact (leads_resolve hr depth f hs).of_error (Prod.ext h rfl)
  · intro name e h
    obtain ⟨s', hrun⟩ := exists_run_of_validation_error h
    exact (leads_validateFormat hr name hs).of_error hrun

/-- A superscript is a digit and no decimal digit. -/
theorem isUnreadable_square : IsUnreadable none "-Illegal > \u00b2" := by
  refine ⟨rfl, "Illegal > \u00b2".toList, ['\u00b2'], by decide, ⟨?_, by decide, by decide, ?_⟩⟩
  · exact ⟨"Illegal ".toList, " \u00b2".toList, by decide, by decide⟩
  · exact .inl ⟨'\u00b2', by decide, by decide⟩

/-- A request with a superscript for a limit. -/
theorem failures_square :
    parse Sample.registry none "-Illegal > \u00b2" = .error .unreadableNumber
    ∧ Sample.registry.validation "Base@@@-Illegal > \u00b2" (Sample.registry.after [])
      = .error .unreadableNumber
    ∧ Sample.registry.RequestMeetsUnreadable "Base@@@-Illegal > \u00b2" := by
  obtain ⟨-, hparse, -, hvalidation⟩ := failures Sample.build_eq []
  have hrequest : Sample.registry.validation "Base@@@-Illegal > \u00b2"
      (Sample.registry.after []) = .error .unreadableNumber := by decide +kernel
  refine ⟨hparse none _ isUnreadable_square, hrequest, ?_⟩
  rcases hvalidation _ _ hrequest with ⟨cause, format, h⟩ | ⟨-, h⟩
  · cases h
  · exact h

/-- Not every failure of a rule text is one of its wording, and neither resolving a format nor
validating a request fails over the configuration only. -/
theorem number_at_fault :
    ¬ (∀ text, (∃ spec, parse Sample.registry none text = .ok spec)
      ∨ ∃ e : Failure, e.IsSyntax ∧ parse Sample.registry none text = .error e)
    ∧ ¬ (∀ name e, Sample.registry.outcome 0 (Sample.registry.getFormat name) .fresh = .error e →
      e.IsConfiguration)
    ∧ ¬ ∀ name e, Sample.registry.validation name .fresh = .error e → e.IsConfiguration := by
  have hnumber : ¬ Failure.unreadableNumber.IsConfiguration := fun ⟨_, _, h⟩ => nomatch h
  refine ⟨fun h => ?_, fun h => ?_, fun h => ?_⟩
  · have hparse : parse Sample.registry none "-Illegal > \u00b2" = .error .unreadableNumber := by
      decide +kernel
    rcases h "-Illegal > \u00b2" with ⟨spec, hspec⟩ | ⟨e, he, herror⟩
    · rw [hparse] at hspec
      cases hspec
    · rw [hparse] at herror
      cases herror
      exact hnumber he.isConfiguration
  · have hout : Sample.registry.outcome 0 (Sample.registry.getFormat "base@@@-Illegal > \u00b2")
        .fresh = .error .unreadableNumber := by decide +kernel
    exact hnumber (h _ _ hout)
  · have hout : Sample.registry.validation "Base@@@-Illegal > \u00b2" .fresh
        = .error .unreadableNumber := by decide +kernel
    exact hnumber (h _ _ hout)

end FormatRegistry

end TeamLegality
