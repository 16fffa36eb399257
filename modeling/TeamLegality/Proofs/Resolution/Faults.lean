import TeamLegality.Proofs.Resolution.Runs

/-!
# Faults — why a resolution fails

A resolution that fails has a working rule at fault: the rule cannot be parsed, its reference closes
a cycle or goes too deep, or the legality hook that it brings in conflicts with one that is there.
`Fault` says so for a rule after those that are worked off, and `Fails` follows the failure from
that rule up to the format asked for.  No session appears in either: in a sound session every
failure comes about in this way (`resolveWithin_fails`).
-/

namespace TeamLegality

/-- A failure keeps the name of the innermost format that it has left. -/
theorem Failure.inFormat_inFormat (e : Failure) (name name' : String) :
    (e.inFormat name).inFormat name' = e.inFormat name := by
  rcases e with ⟨cause, _ | name⟩ | _ | _ <;> rfl

namespace FormatRegistry

open SessionM

variable {r : FormatRegistry} {f sub : Format} {stack : List String} {rule : String}
  {t u : RuleTable} {s s' : Session} {before after : List String} {e : Failure} {levels : Nat}

/-! ### What is at fault -/

/-- What is at fault with a rule of `f` after others, when the stack ends with `f` and so many levels
are left. -/
inductive Fault (r : FormatRegistry) (f : Format) (stack : List String) (levels : Nat)
    (done : List RuleSpec) (t : RuleTable) (rule : String) : Failure → Prop
  | unreadable {e : Failure} (hp : RuleSpec.parse r (some f) rule = .error e) :
    Fault r f stack levels done t rule e
  | cyclic {spec : RuleSpec} {sub : Format} (hp : RuleSpec.parse r (some f) rule = .ok spec)
    (hc : r.contribution? done spec = some (.inclusion sub)) (hstack : sub.key ∈ stack) :
    Fault r f stack levels done t rule (.of (.cyclicReference (stack ++ [sub.key])))
  | tooDeep {spec : RuleSpec} {sub : Format} (hp : RuleSpec.parse r (some f) rule = .ok spec)
    (hc : r.contribution? done spec = some (.inclusion sub)) (hnew : sub.key ∉ stack)
    (hlevels : levels = 0) :
    Fault r f stack levels done t rule (.of (.excessiveDepth f.name rule f.ruleset))
  | conflict {spec : RuleSpec} {sub : Format} {u : RuleTable} {cause : ConfigurationCause}
    (hp : RuleSpec.parse r (some f) rule = .ok spec)
    (hc : r.contribution? done spec = some (.inclusion sub)) (hu : TableOf r sub u)
    (hi : (t.referTo sub.id).inheritFrom u sub.name f.name = .error cause) :
    Fault r f stack levels done t rule (.of cause)

/-- A working rule of `f` is at fault after those before it. -/
structure FaultAt (r : FormatRegistry) (f : Format) (stack : List String) (levels : Nat)
    (before : List String) (t : RuleTable) (rule : String) (after : List String) (e : Failure) :
    Prop where
  place : f.workingRules = before ++ rule :: after
  readable : ∀ rule ∈ before, ∃ spec, RuleSpec.parse r (some f) rule = .ok spec
  steps : Steps r (TableOf r) f (r.specsOf f before) t
  fault : Fault r f stack levels (r.specsOf f before) t rule e

/-- Resolving `f` for the formats of a stack fails: one of its own rules is at fault, or resolving a
format fails that it includes. -/
inductive Fails (r : FormatRegistry) : (levels : Nat) → (stack : List String) → Format →
    Failure → Prop
  | own {levels : Nat} {stack : List String} {f : Format} {before : List String} {t : RuleTable}
    {rule : String} {after : List String} {e : Failure}
    (h : FaultAt r f (stack ++ [f.key]) levels before t rule after e) :
    Fails r levels stack f (e.inFormat f.name)
  | included {levels : Nat} {stack : List String} {f sub : Format} {e : Failure}
    (hincl : r.Includes f sub) (hnew : sub.key ∉ stack ++ [f.key])
    (h : Fails r levels (stack ++ [f.key]) sub e) : Fails r (levels + 1) stack f e

theorem Fails.inFormat (h : Fails r levels stack f e) (name : String) : e.inFormat name = e := by
  induction h with
  | own h => exact Failure.inFormat_inFormat _ _ name
  | included _ _ _ ih => exact ih

/-! ### Every failure has a fault -/

/-- In a sound session, resolving with so many levels left fails for a fault only. -/
def FailsFor (r : FormatRegistry) (levels : Nat) : Prop :=
  ∀ f stack s, r.Sound s → Leads (r.resolveWithin levels f stack) s (fun _ _ => True)
    fun e _ => Fails r levels stack f e

/-- A working rule that fails is at fault, or what it includes fails. -/
theorem WorkedOff.applyRule_fails (hr : r.WellFormed)
    (hfollow : ∀ levels', levels = levels' + 1 → r.FailsFor levels')
    (h : r.WorkedOff f s before t s') (hl : f.workingRules = before ++ rule :: after) :
    Leads (r.applyRule (r.followWithin levels) f (stack ++ [f.key]) t rule) s' (fun _ _ => True)
      fun e _ => Fails r levels stack f (e.inFormat f.name) := by
  have hown : ∀ {e}, Fault r f (stack ++ [f.key]) levels (r.specsOf f before) t rule e →
      Fails r levels stack f (e.inFormat f.name) :=
    fun hfault => .own ⟨hl, h.readable, h.steps, hfault⟩
  have hsupp := h.steps.suppressed_iff hr
  rw [applyRule_eq]
  cases hturn : r.turn f (stack ++ [f.key]) t rule with
  | table t' => exact leads_pure trivial
  | failure e =>
    refine leads_throw ?_
    rcases failure_of_turn hsupp hturn with hp | ⟨spec, sub, hp, hc, hstack, rfl⟩
    · exact hown (.unreadable hp)
    · exact hown (.cyclic hp hc hstack)
  | inclusion sub =>
    obtain ⟨spec, hp, hc, hnew⟩ := inclusion_of_turn hsupp hturn
    cases levels with
    | zero => exact leads_bind (leads_throw (hown (.tooDeep hp hc hnew rfl)))
    | succ levels =>
      have hincl : r.Includes f sub := includes_of_contribution hl hp hc
      have hsub := hincl.offers hr
      have hboth := (hfollow levels rfl sub (stack ++ [f.key]) s' h.settled.sound).and
        (resolveWithin_settles hr hsub h.settled.sound)
      refine leads_bind (hboth.mono ?_ ?_)
      · rintro u s'' ⟨-, hset, hu⟩
        unfold inheriting
        split
        · exact leads_pure trivial
        · next cause hi =>
          exact leads_throw (hown (.conflict hp hc (hset.sound _ u hsub hu).1 hi))
      · rintro e _ ⟨he, -⟩
        rw [he.inFormat]
        exact .included hincl hnew he

theorem failsFor_of_follow (hr : r.WellFormed)
    (hfollow : ∀ levels', levels = levels' + 1 → r.FailsFor levels') : r.FailsFor levels := by
  intro f stack s hs
  rw [resolveWithin_eq]
  refine leads_resolveBy (fun _ _ => trivial) fun _ => ?_
  exact (leads_buildTable hr (followWithin_settles hr levels) hs fun _ _ _ _ _ hl h =>
    h.applyRule_fails hr hfollow hl).mono (fun _ _ _ => trivial) fun _ _ h => h

/-- **Every failure has a fault.** -/
theorem resolveWithin_fails (hr : r.WellFormed) : ∀ levels, r.FailsFor levels
  | 0 => failsFor_of_follow hr nofun
  | levels + 1 => failsFor_of_follow hr fun levels' h => by
    cases h
    exact resolveWithin_fails hr levels

/-! ### Faults in spite of a table -/

/-- **A format that has a table is at fault only for its place**: a reference of it closes a cycle of
the stack, or goes too deep. -/
theorem FaultAt.of_tableOf (h : FaultAt r f stack levels before t rule after e)
    (htable : TableOf r f u) :
    (∃ sub, r.Includes f sub ∧ sub.key ∈ stack ∧ e = .of (.cyclicReference (stack ++ [sub.key])))
      ∨ e.IsDepth := by
  cases h.fault with
  | unreadable hp =>
    obtain ⟨spec, hp'⟩ := htable.built.readable rule (by simp [h.place])
    rw [hp] at hp'
    cases hp'
  | @cyclic spec sub hp hc hstack =>
    exact .inl ⟨sub, includes_of_contribution h.place hp hc, hstack, rfl⟩
  | tooDeep hp hc hnew hlevels => exact .inr ⟨_, _, _, none, rfl⟩
  | @conflict spec sub v cause hp hc hv hi =>
    -- The step to the table inherits from the same two tables.
    have hunique : ∀ sub u u', TableOf r sub u → TableOf r sub u' → u = u' :=
      fun _ _ _ => TableOf.unique
    obtain ⟨t₁, t₂, hsteps, hstep⟩ := htable.built.exists_step h.place hp
    obtain ⟨v', hv', hok⟩ := hstep.exists_inherited hc
    rw [hsteps.unique hunique h.steps, hv'.unique hv, hi] at hok
    cases hok

end FormatRegistry

end TeamLegality
