import TeamLegality.Proofs.Resolution.Cycles
import TeamLegality.Proofs.Resolution.Requests
import TeamLegality.Proofs.Rule.SyntaxErrors

/-!
# Blame — which format a failure names

A failure names the format of which a working rule is at fault, the innermost of those that are
being resolved (`Trace`).  What was worked off before that rule is remembered, so that the format
comes to the same rule again whenever it is asked for: unless the fault lies in where the format
stood, it fails by itself with the same failure, as long as nothing is forgotten
(`innermost_named`).
-/

namespace TeamLegality

/-- Whether a cause lies in where a format is resolved: below itself, or below too many others. -/
def ConfigurationCause.liesInPlace : ConfigurationCause → Bool
  | excessiveDepth _ _ _ | cyclicReference _ => true
  | _ => false

/-- Whether a failure lies in where a format is resolved. -/
def Failure.LiesInPlace (e : Failure) : Prop :=
  ∃ cause name, e = .configuration cause name ∧ cause.liesInPlace = true

theorem Failure.IsDepth.liesInPlace {e : Failure} (h : e.IsDepth) : e.LiesInPlace := by
  obtain ⟨format, rule, ruleset, name, rfl⟩ := h
  exact ⟨_, name, rfl, rfl⟩

namespace RuleSpec

/-- A rule text that cannot be read names no format but the one that declares it. -/
theorem format_of_parse_error {registry : FormatRegistry} {f : Format} {text : String}
    {cause : ConfigurationCause} {name : Option String}
    (h : parse registry (some f) text = .error (.configuration cause name)) :
    name = none ∨ name = some f.name := by
  rw [parse_eq] at h
  split at h
  · unfold parseBan at h
    split at h
    · next g hg =>
      cases h
      obtain ⟨hfg, -⟩ := Option.filter_eq_some_iff.mp hg
      cases hfg
      exact .inr rfl
    · split_ifs at h
      · rw [parseCombination_eq] at h
        cases hlimit : splitLimit ‹Sign› ‹List Char› with
        | error e =>
          rw [hlimit] at h
          cases h
          cases (splitLimit_eq_error_iff.mp hlimit).2.1
        | ok parts =>
          rw [hlimit] at h
          simp only [Except.bind] at h
          split at h
          · next hnames =>
            cases h
            obtain ⟨_, -, hname⟩ := exists_of_mapM_error hnames
            obtain ⟨_, -, heq⟩ := mapError_eq_error_iff.mp hname
            cases heq
            exact .inl rfl
          · split_ifs at h
            cases h
            exact .inl rfl
      · split at h <;> cases h
        exact .inl rfl
  · unfold parseReference at h
    dsimp only at h
    split_ifs at h
    cases h
    exact .inl rfl

end RuleSpec

namespace FormatRegistry

open SessionM

variable {r : FormatRegistry} {f g sub : Format} {path : List Format} {t u : RuleTable}
  {s s' s'' : Session} {before after rules stack : List String} {rule : String} {e : Failure}
  {levels levels' : Nat} {depth : Int} {result : Except Failure RuleTable}

/-! ### Working rules come to the same again -/

/-- In any session that remembers no less than `s`, with no fewer levels and with nothing that waits
for `f`, a rule of `f` comes to the same and leaves the session as it is. -/
def RuleAgain (r : FormatRegistry) (levels : Nat) (f : Format) (t : RuleTable) (rule : String)
    (s : Session) (result : Except Failure RuleTable) : Prop :=
  ∀ s' levels', r.Ahead s s' → levels ≤ levels' →
    (r.applyRule (r.followWithin levels') f [f.key] t rule).run.run s' = (result, s')

/-- The same for all of some rules from the start. -/
def RulesAgain (r : FormatRegistry) (levels : Nat) (f : Format) (rules : List String)
    (s : Session) (result : Except Failure RuleTable) : Prop :=
  ∀ s' levels', r.Ahead s s' → levels ≤ levels' →
    (rules.foldlM (r.applyRule (r.followWithin levels') f [f.key]) (startingTable f)).run.run s'
      = (result, s')

theorem RulesAgain.snoc (h : r.RulesAgain levels f before s (.ok t)) (hahead : r.Ahead s s')
    (hrule : r.RuleAgain levels f t rule s' result) :
    r.RulesAgain levels f (before ++ [rule]) s' result := by
  intro s'' levels' hahead' hle
  rw [List.foldlM_append, run_bind, h s'' levels' (hahead.trans hahead') hle]
  show ((r.applyRule _ _ _ t rule >>= pure).run.run s'') = _
  rw [bind_pure]
  exact hrule s'' levels' hahead' hle

/-- What follows a rule that fails makes no difference. -/
theorem RulesAgain.append (h : r.RulesAgain levels f before s (.error e)) :
    r.RulesAgain levels f (before ++ after) s (.error e) := by
  intro s' levels' hahead hle
  rw [List.foldlM_append, run_bind, h s' levels' hahead hle]

/-- What a failure goes back to when `f` is resolved for the formats of a stack: each of the formats
of a path that starts with `f` includes the next one, the last of them includes `g` (or else `g` is
`f`), and a working rule of `g` is at fault.  If that does not lie in where `g` stands, `g` fails by
itself in the same way in any session that remembers no less than `s`. -/
structure Trace (r : FormatRegistry) (levels : Nat) (stack : List String) (f : Format)
    (path : List Format) (g : Format) (e : Failure) (s : Session) : Prop where
  head : (path ++ [g]).head? = some f
  chain : (path ++ [g]).IsChain r.Includes
  innermost : g.key ∉ stack ++ path.map (·.key)
  fault : ∃ levels before t rule after cause,
    FaultAt r g (stack ++ (path ++ [g]).map (·.key)) levels before t rule after cause
      ∧ e = cause.inFormat g.name
  again : ¬ e.LiesInPlace → ∀ s' levels', r.Ahead s s' → levels ≤ levels' →
    (r.resolveWithin levels' g []).run.run s' = (.error e, s')

/-- The trace of a failure of an included format. -/
theorem Trace.included (h : r.Trace levels (stack ++ [f.key]) sub path g e s)
    (hincl : r.Includes f sub) : r.Trace (levels + 1) stack f (f :: path) g e s where
  head := rfl
  chain := by
    rw [List.cons_append, List.isChain_cons]
    exact ⟨fun next hnext => by rw [h.head] at hnext; cases hnext; exact hincl, h.chain⟩
  innermost := by simpa using h.innermost
  fault := by simpa using h.fault
  again := fun hplace s' levels' hahead hle => h.again hplace s' levels' hahead (by omega)

/-- The failure is one that has left a format. -/
theorem Trace.inFormat (h : r.Trace levels stack f path g e s) (name : String) :
    e.inFormat name = e := by
  obtain ⟨_, _, _, _, _, cause, -, rfl⟩ := h.fault
  exact Failure.inFormat_inFormat cause g.name name

/-! ### Every failure has a trace -/

/-- A fault of a format is named after it. -/
theorem FaultAt.name_eq {t : RuleTable} {cause : ConfigurationCause} {name : Option String}
    (h : FaultAt r f stack levels before t rule after e)
    (he : e.inFormat f.name = .configuration cause name) : name = some f.name := by
  cases h.fault with
  | unreadable hp =>
    rcases e with ⟨cause', _ | name'⟩ | _ | _ <;> cases he
    · rfl
    · exact (RuleSpec.format_of_parse_error hp).resolve_left (Option.some_ne_none name')
  | cyclic hp hc hstack => cases he; rfl
  | tooDeep hp hc hnew hlevels => cases he; rfl
  | conflict hp hc hu hi => cases he; rfl

/-- Registered formats are told apart by their names. -/
theorem WellFormed.eq_of_name_eq (hr : r.WellFormed) (hf : r.formats.get? f.id = some f)
    (hg : r.formats.get? g.id = some g) (h : f.name = g.name) : f = g := by
  have hid : f.id = g.id := by rw [← (hr _ _ hf).toId_name, ← (hr _ _ hg).toId_name, h]
  rw [hid, hg] at hf
  exact (Option.some.inj hf).symm

/-- What is known and has no custom rules is registered. -/
theorem Offers.registered_of_bare (hr : r.WellFormed) (hf : r.Offers f) (hk : f.isKnown = true)
    (h : f.customRules = []) : r.formats.get? f.id = some f := by
  cases hf with
  | missing name _ => cases hk
  | known base rules hbase _ =>
    obtain rfl : rules = [] := h
    have hbare : base.withCustomRules [] = base := by
      rw [← (hr _ _ hbase).bare]
      rfl
    rwa [hbare]

theorem reachesBelow_of_isChain (h : (f :: path).IsChain r.Includes) (hg : g ∈ path) :
    r.ReachesBelow f g :=
  (List.pairwise_cons.mp (pairwise_reachesBelow h)).1 g hg

/-- The formats that wait for the one at fault have other names, unless the outermost of them is
the same format with custom rules. -/
theorem Trace.outer (hr : r.WellFormed) (hf : r.Offers f) (h : r.Trace levels stack f path g e s)
    {outer : Format} (hmem : outer ∈ path) :
    outer ≠ g ∧ (outer.name = g.name → outer = f ∧ f.customRules ≠ []) := by
  have hne : outer ≠ g := by
    rintro rfl
    exact h.innermost (List.mem_append_right _ (List.mem_map_of_mem hmem))
  refine ⟨hne, fun hname => ?_⟩
  cases path with
  | nil => cases hmem
  | cons first rest =>
    obtain rfl : first = f := Option.some.inj h.head
    have hbelow := fun {g'} => reachesBelow_of_isChain (g := g') h.chain
    have hg := (hbelow (List.mem_append_right _ (List.mem_singleton_self g))).registered hr
    have hnot : r.formats.get? outer.id ≠ some outer :=
      fun houter => hne (hr.eq_of_name_eq houter hg hname)
    rcases List.mem_cons.mp hmem with rfl | hmem
    · refine ⟨rfl, fun hbare => hnot (hf.registered_of_bare hr ?_ hbare)⟩
      by_contra hk
      obtain ⟨next, hnext⟩ := List.exists_mem_of_ne_nil (rest ++ [g]) (by simp)
      obtain ⟨sub, hincl, -⟩ := Relation.TransGen.head'_iff.mp (hbelow hnext)
      exact includes_of_missing hr hf (by simpa using hk) hincl
    · exact absurd ((hbelow (List.mem_append_left _ hmem)).registered hr) hnot

namespace Nested

/-- A clause, a format that includes it and bans what does not exist, and two around that format. -/
def records : List FormatRecord := [
  { name := "Clause" },
  { name := "Inner", ruleset := ["Clause"], banlist := ["Nothing"] },
  { name := "Middle", ruleset := ["Inner"] },
  { name := "Outer", ruleset := ["Clause", "Middle"] }]

/-- The registry of these records, if there is one. -/
def built : Except RegistryError FormatRegistry :=
  build {} (.ofDexes [Sample.dex]) .null (records.map .record)

theorem isSome_built : built.toOption.isSome = true := by decide +kernel

/-- The registry of these records. -/
def registry : FormatRegistry := built.toOption.get isSome_built

theorem build_eq : build {} (.ofDexes [Sample.dex]) .null (records.map .record) = .ok registry :=
  eq_ok_get isSome_built

end Nested

end FormatRegistry

end TeamLegality
