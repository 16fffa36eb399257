import TeamLegality.Proofs.Format.Relisting
import TeamLegality.Proofs.Resolution.Steps
import Mathlib.Data.List.Nodup
import Mathlib.Data.List.Perm.Subperm

/-!
# Turns — what a working rule comes to before any reference is followed

A working rule changes the table, fails, or includes a sub-format.  Which of the three it does is
settled without a session (`turn`); only what is inherited from the sub-format has to be found by
following the reference (`applyRule_eq`).  For each of the three turns there is a lemma about what
the rule says: a step that holds whatever tables the included formats have (`step_of_turn`), a
failure to parse or a reference that closes a cycle (`failure_of_turn`), an active inclusion of a
format that is not being resolved (`inclusion_of_turn`).
-/

namespace TeamLegality

namespace FormatRegistry

variable {r : FormatRegistry} {R : Format → RuleTable → Prop} {follow : Follow} {f sub : Format}
  {stack : List String} {rule id : String} {t t' u : RuleTable} {done : List RuleSpec}
  {e : Failure}

/-! ### References -/

theorem applyReference_of_passed
    (hs : t.get? (.suppression (.rule (r.getFormat id).id)) = some "") :
    r.applyReference follow f stack rule id t = pure t := by
  simp [applyReference, hs]

theorem applyReference_of_missing
    (hs : t.get? (.suppression (.rule (r.getFormat id).id)) ≠ some "")
    (hk : (r.getFormat id).isKnown = false) :
    r.applyReference follow f stack rule id t = pure (t.referTo (r.getFormat id).id) := by
  simp [applyReference, hs, hk, RuleTable.referTo]

theorem applyReference_of_cyclic
    (hs : t.get? (.suppression (.rule (r.getFormat id).id)) ≠ some "")
    (hk : (r.getFormat id).isKnown = true) (hstack : stack.contains (r.getFormat id).key = true) :
    r.applyReference follow f stack rule id t
      = throw (.of (.cyclicReference (stack ++ [(r.getFormat id).key]))) := by
  simp only [applyReference, hs, hk, hstack]
  rfl

/-- Inheriting as a computation. -/
def inheriting (f sub : Format) (t u : RuleTable) : SessionM RuleTable :=
  match t.inheritFrom u sub.name f.name with
  | .ok t => return t
  | .error cause => throw (.of cause)

theorem applyReference_of_included
    (hs : t.get? (.suppression (.rule (r.getFormat id).id)) ≠ some "")
    (hk : (r.getFormat id).isKnown = true) (hstack : stack.contains (r.getFormat id).key = false) :
    r.applyReference follow f stack rule id t
      = follow f rule (r.getFormat id) stack >>=
          inheriting f (r.getFormat id) (t.referTo (r.getFormat id).id) := by
  simp only [applyReference, hs, hk, hstack]
  rfl

theorem run_inheriting {s : Session} : (inheriting f sub t u).run.run s
    = ((t.inheritFrom u sub.name f.name).mapError .of, s) := by
  unfold inheriting
  cases t.inheritFrom u sub.name f.name <;> rfl

/-! ### Turns -/

/-- What a working rule comes to: a table, a failure, or a sub-format to inherit from. -/
inductive Turn where
  | table (t : RuleTable)
  | failure (e : Failure)
  | inclusion (sub : Format)

/-- The turn of a reference. -/
def turnOfReference (r : FormatRegistry) (stack : List String) (t : RuleTable) (id : String) :
    Turn :=
  let sub := r.getFormat id
  if t.get? (.suppression (.rule sub.id)) = some "" then .table t
  else if sub.isKnown = false then .table (t.referTo sub.id)
  else if stack.contains sub.key then .failure (.of (.cyclicReference (stack ++ [sub.key])))
  else .inclusion sub

/-- The turn of a working rule. -/
def turn (r : FormatRegistry) (f : Format) (stack : List String) (t : RuleTable) (rule : String) :
    Turn :=
  match RuleSpec.parse r (some f) rule with
  | .error failure => .failure failure
  | .ok (.teamBan c) => .table (t.addTeamBan c)
  | .ok (.complexBan c) => .table (t.addComplexBan c)
  | .ok (.ban target) => .table (t.set (.ban target) "")
  | .ok (.unban target) => .table ((t.erase (.ban target)).set (.unban target) "")
  | .ok (.suppress id) => .table (t.set (.suppression (.rule id)) "")
  | .ok (.rule id) => r.turnOfReference stack t id

/-- A turn taken to its end: the table of a sub-format is found by following the reference. -/
def Turn.complete (follow : Follow) (f : Format) (stack : List String) (t : RuleTable)
    (rule : String) : Turn → SessionM RuleTable
  | .table t' => return t'
  | .failure e => throw e
  | .inclusion sub => follow f rule sub stack >>= inheriting f sub (t.referTo sub.id)

/-- **A working rule takes its turn to the end.** -/
theorem applyRule_eq : r.applyRule follow f stack t rule
    = (r.turn f stack t rule).complete follow f stack t rule := by
  unfold applyRule turn
  cases RuleSpec.parse r (some f) rule with
  | error failure => rfl
  | ok spec =>
    cases spec with
    | rule id =>
      show r.applyReference follow f stack rule id t = _
      dsimp only [turnOfReference]
      split_ifs with hs hk hstack
      · exact applyReference_of_passed hs
      · exact applyReference_of_missing hs hk
      · exact applyReference_of_cyclic hs (by simpa using hk) hstack
      · exact applyReference_of_included hs (by simpa using hk) (by simpa using hstack)
    | _ => rfl

/-! ### What a turn says -/

/-- A turn that gives a table is a step that includes nothing. -/
theorem step_of_turn (hsupp : ∀ x, t.get? (.suppression (.rule x)) = some "" ↔ .suppress x ∈ done)
    (h : r.turn f stack t rule = .table t') :
    ∃ spec, RuleSpec.parse r (some f) rule = .ok spec ∧ Step r R f done t spec t'
      ∧ ∀ sub, r.contribution? done spec ≠ some (.inclusion sub) := by
  unfold turn at h
  cases hp : RuleSpec.parse r (some f) rule with
  | error failure =>
    rw [hp] at h
    cases h
  | ok spec =>
    refine ⟨spec, rfl, ?_⟩
    rw [hp] at h
    cases spec with
    | rule id =>
      dsimp only [turnOfReference] at h
      split_ifs at h with hs hk
      · cases h
        have hpass := (hsupp _).mp hs
        exact ⟨.passed id hpass, by simp [contribution?_of_passed hpass]⟩
      · cases h
        exact ⟨.missing id (mt (hsupp _).mpr hs) hk, by simp [contribution?_of_missing hk]⟩
    | suppress id => cases h; exact ⟨.suppress id, by simp [contribution?]⟩
    | ban target => cases h; exact ⟨.ban target, by simp [contribution?]⟩
    | unban target => cases h; exact ⟨.unban target, by simp [contribution?]⟩
    | complexBan c => cases h; exact ⟨.complexBan c, by simp [contribution?]⟩
    | teamBan c => cases h; exact ⟨.teamBan c, by simp [contribution?]⟩

/-- A turn that fails is a rule that cannot be parsed, or closes a cycle. -/
theorem failure_of_turn
    (hsupp : ∀ x, t.get? (.suppression (.rule x)) = some "" ↔ .suppress x ∈ done)
    (h : r.turn f stack t rule = .failure e) : RuleSpec.parse r (some f) rule = .error e
      ∨ ∃ spec sub, RuleSpec.parse r (some f) rule = .ok spec
        ∧ r.contribution? done spec = some (.inclusion sub) ∧ sub.key ∈ stack
        ∧ e = .of (.cyclicReference (stack ++ [sub.key])) := by
  unfold turn at h
  cases hp : RuleSpec.parse r (some f) rule with
  | error failure =>
    rw [hp] at h
    cases h
    exact .inl rfl
  | ok spec =>
    rw [hp] at h
    cases spec with
    | rule id =>
      dsimp only [turnOfReference] at h
      split_ifs at h with hs hk hstack
      cases h
      refine .inr ⟨_, r.getFormat id, rfl, ?_, by simpa using hstack, rfl⟩
      exact contribution?_of_included (mt (hsupp _).mpr hs) (by simpa using hk)
    | _ => cases h

/-- A turn that includes a sub-format refers to it, and it is not being resolved. -/
theorem reference_of_turn (h : r.turn f stack t rule = .inclusion sub) :
    ∃ id, RuleSpec.parse r (some f) rule = .ok (.rule id) ∧ r.getFormat id = sub
      ∧ t.get? (.suppression (.rule sub.id)) ≠ some "" ∧ sub.isKnown = true ∧ sub.key ∉ stack := by
  unfold turn at h
  cases hp : RuleSpec.parse r (some f) rule with
  | error failure =>
    rw [hp] at h
    cases h
  | ok spec =>
    rw [hp] at h
    cases spec with
    | rule id =>
      dsimp only [turnOfReference] at h
      split_ifs at h with hs hk hstack
      cases h
      exact ⟨id, rfl, rfl, hs, by simpa using hk, by simpa using hstack⟩
    | _ => cases h

theorem inclusion_of_turn
    (hsupp : ∀ x, t.get? (.suppression (.rule x)) = some "" ↔ .suppress x ∈ done)
    (h : r.turn f stack t rule = .inclusion sub) :
    ∃ spec, RuleSpec.parse r (some f) rule = .ok spec
      ∧ r.contribution? done spec = some (.inclusion sub) ∧ sub.key ∉ stack := by
  obtain ⟨id, hp, rfl, hs, hk, hstack⟩ := reference_of_turn h
  exact ⟨_, hp, contribution?_of_included (mt (hsupp _).mpr hs) hk, hstack⟩

/-- Only registered formats are included. -/
theorem registered_of_turn (hr : r.WellFormed) (h : r.turn f stack t rule = .inclusion sub) :
    r.formats.get? sub.id = some sub := by
  obtain ⟨id, hp, rfl, -, hk, -⟩ := reference_of_turn h
  exact registered_of_splitName hr (splitName_of_notMem (RuleSpec.atSign_notMem_of_parse hp)) hk

/-! ### Stacks -/

/-- The keys of formats that are being resolved, each for the one before it: they are distinct, and
all but the first are those of registered formats. -/
structure Stacked (r : FormatRegistry) (keys : List String) : Prop where
  nodup : keys.Nodup
  registered : ∀ key ∈ keys.tail, r.hasFormat key = true

theorem stacked_singleton (r : FormatRegistry) (key : String) : r.Stacked [key] :=
  ⟨List.nodup_singleton key, by simp⟩

theorem Stacked.of_append {keys more : List String} (h : r.Stacked (keys ++ more)) :
    r.Stacked keys := by
  refine ⟨List.Nodup.of_append_left h.nodup, fun key hmem => h.registered key ?_⟩
  cases keys with
  | nil => cases hmem
  | cons first rest => exact List.mem_append_left _ hmem

theorem Stacked.snoc {keys : List String} {key : String} (h : r.Stacked keys) (hnew : key ∉ keys)
    (hreg : r.hasFormat key = true) : r.Stacked (keys ++ [key]) := by
  refine ⟨List.nodup_append_comm.mp (List.nodup_cons.mpr ⟨hnew, h.nodup⟩), ?_⟩
  cases keys with
  | nil => simp
  | cons first rest =>
    intro key' hmem
    rcases List.mem_append.mp hmem with hmem | hmem
    · exact h.registered key' hmem
    · rw [List.mem_singleton.mp hmem]
      exact hreg

/-- **A stack is no longer than the registry**, its first key apart. -/
theorem Stacked.length_le {keys : List String} (h : r.Stacked keys) :
    keys.length ≤ r.formats.size + 1 := by
  have hsub : keys.tail ⊆ r.formats.keys := fun key hmem =>
    (r.formats.contains_iff_mem_keys key).mp (h.registered key hmem)
  have hle := (List.subperm_of_subset h.nodup.tail hsub).length_le
  rw [List.length_tail, Assoc.keys, List.length_map] at hle
  unfold Assoc.size
  omega

theorem hasFormat_of_get? (h : r.formats.get? id = some f) : r.hasFormat id = true := by
  simp [hasFormat, Assoc.contains, h]

/-- A registered format is found under its key. -/
theorem hasFormat_key (hr : r.WellFormed) (h : r.formats.get? f.id = some f) :
    r.hasFormat f.key = true := by
  have hkey : f.key = f.id := by simp [Format.key, (hr _ _ h).bare]
  rw [hkey]
  exact hasFormat_of_get? h

/-- What a turn includes goes on top of the stack. -/
theorem Stacked.of_turn (hr : r.WellFormed) (h : r.Stacked stack)
    (hturn : r.turn f stack t rule = .inclusion sub) : r.Stacked (stack ++ [sub.key]) := by
  obtain ⟨id, -, -, -, -, hnew⟩ := reference_of_turn hturn
  exact h.snoc hnew (hasFormat_key hr (registered_of_turn hr hturn))

end FormatRegistry

end TeamLegality
