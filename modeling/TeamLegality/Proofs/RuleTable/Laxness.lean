import TeamLegality.Proofs.Format.Relisting
import TeamLegality.Proofs.RuleTable.Lookup

/-!
# Laxness — tables that ban less

A table is laxer than another one when it bans nothing that the other does not ban, takes back
whatever the other takes back, and agrees with it on all else that checks look at.  A ban makes any
table stricter and an unban makes it laxer, and it stays so whatever bans and unbans come after
(`Laxer.foldl_adopt`).
-/

namespace TeamLegality

namespace RuleTable

/-- The table with what a ban or an unban says; what else a rule text says is not adopted. -/
def adopt (t : RuleTable) : RuleSpec → RuleTable
  | .ban target => t.set (.ban target) ""
  | .unban target => (t.erase (.ban target)).set (.unban target) ""
  | .complexBan c => t.addComplexBan c
  | .teamBan c => t.addTeamBan c
  | .rule _ | .suppress _ => t

/-- One table is no stricter than another, which differs in single bans and unbans alone. -/
structure Laxer (t t' : RuleTable) : Prop where
  rule : ∀ id, t.has (.rule id) = t'.has (.rule id)
  ban : ∀ target, t.has (.ban target) = true → t'.has (.ban target) = true
  unban : ∀ target, t'.has (.unban target) = true → t.has (.unban target) = true
  complexBans : t.complexBans = t'.complexBans
  teamBans : t.teamBans = t'.teamBans
  hook : t.hook = t'.hook

variable {t t' : RuleTable} {spec : RuleSpec} {target x : Target} {id : String}

/-! ### Keys after one more ban or unban -/

theorem has_rule_adopt : (t.adopt spec).has (.rule id) = t.has (.rule id) := by
  rw [Bool.eq_iff_iff]
  cases spec with
  | ban target => simp [adopt, has_set]
  | unban target => simp [adopt, has_set, has_erase]
  | _ => exact Iff.rfl

theorem has_ban_adopt : (t.adopt spec).has (.ban x) = true ↔
    spec = .ban x ∨ spec ≠ .unban x ∧ t.has (.ban x) = true := by
  cases spec with
  | ban target => simp [adopt, has_set, @eq_comm _ target]
  | unban target => simp [adopt, has_set, has_erase, @eq_comm _ target]
  | _ => simp [adopt]

theorem has_unban_adopt : (t.adopt spec).has (.unban x) = true ↔
    spec = .unban x ∨ t.has (.unban x) = true := by
  cases spec with
  | ban target => simp [adopt, has_set]
  | unban target => simp [adopt, has_set, has_erase, @eq_comm _ target]
  | _ => simp [adopt]

theorem hook_adopt : (t.adopt spec).hook = t.hook := by
  cases spec <;> rfl

/-! ### Laxer tables -/

theorem laxer_adopt_ban (t : RuleTable) (target : Target) : t.Laxer (t.adopt (.ban target)) where
  rule _ := has_rule_adopt.symm
  ban _ h := has_ban_adopt.mpr (.inr ⟨nofun, h⟩)
  unban _ h := (has_unban_adopt.mp h).resolve_left nofun
  complexBans := rfl
  teamBans := rfl
  hook := rfl

theorem adopt_unban_laxer (t : RuleTable) (target : Target) :
    (t.adopt (.unban target)).Laxer t where
  rule _ := has_rule_adopt
  ban _ h := ((has_ban_adopt.mp h).resolve_left nofun).2
  unban _ h := has_unban_adopt.mpr (.inr h)
  complexBans := rfl
  teamBans := rfl
  hook := rfl

/-- **Adopting the same keeps one table laxer than the other.** -/
theorem Laxer.adopt (h : t.Laxer t') (spec : RuleSpec) : (t.adopt spec).Laxer (t'.adopt spec) where
  rule id := by rw [has_rule_adopt, has_rule_adopt, h.rule]
  ban x hx := by
    rw [has_ban_adopt] at hx ⊢
    exact hx.imp_right fun ⟨hne, hban⟩ => ⟨hne, h.ban x hban⟩
  unban x hx := by
    rw [has_unban_adopt] at hx ⊢
    exact hx.imp_right (h.unban x)
  complexBans := by
    cases spec with
    | complexBan c => exact congrArg c.merge h.complexBans
    | _ => exact h.complexBans
  teamBans := by
    cases spec with
    | teamBan c => exact congrArg c.merge h.teamBans
    | _ => exact h.teamBans
  hook := by rw [hook_adopt, hook_adopt, h.hook]

theorem Laxer.foldl_adopt (h : t.Laxer t') (specs : List RuleSpec) :
    (specs.foldl RuleTable.adopt t).Laxer (specs.foldl RuleTable.adopt t') := by
  induction specs generalizing t t' with
  | nil => exact h
  | cons spec specs ih => exact ih (h.adopt spec)

end RuleTable

end TeamLegality
