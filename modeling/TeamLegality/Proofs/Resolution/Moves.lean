import TeamLegality.Proofs.Resolution.History
import Mathlib.Computability.StateTransition

/-!
# Moves — resolution one step at a time

A `Moment` of a resolution is a format that is being resolved, how far that has come, and the
formats that wait for it.  `advance` goes from one moment to the next: it looks the format up, works
off one of its rules, enters a sub-format, or hands a table or a failure down to the format that
waits.  The depth is the number of formats that wait, and the limit is tested where a reference is
followed.

Every run of moves ends, and in what `resolve` gives (`resolution_ends`).  At every moment of it
the keys of the formats that are being resolved are distinct, which bounds their number by that of
the registered formats, and the limit bounds it as well (`Moment.InOrder`).
-/

namespace TeamLegality

namespace FormatRegistry

open SessionM

/-- A format that waits for a sub-format: its table so far, and the rules that are left. -/
structure Frame where
  format : Format
  table : RuleTable
  rest : List String

/-- How far the resolution of a format has come. -/
inductive Phase where
  | entering
  | working (t : RuleTable) (rest : List String)
  | leaving (result : Except Failure RuleTable)

/-- A moment of a resolution.  The format that waits directly for this one comes first. -/
structure Moment where
  format : Format
  phase : Phase
  below : List Frame
  session : Session

/-- The keys of the formats that wait, the outermost one first. -/
def stackOf (below : List Frame) : List String := (below.map (·.format.key)).reverse

/-- The keys of all formats that are being resolved, one for each nested resolution. -/
def Moment.keys (m : Moment) : List String := stackOf m.below ++ [m.format.key]

/-- A resolution before its first move. -/
def Moment.start (f : Format) (s : Session) : Moment := ⟨f, .entering, [], s⟩

/-- A resolution of `f` that is over. -/
def Moment.ended (f : Format) (below : List Frame) : Except Failure RuleTable × Session → Moment
  | (result, s) => ⟨f, .leaving result, below, s⟩

/-- What follows a rule of `f`: the rest of the rules is worked off, or the failure names `f`. -/
def Moment.resumed (f : Format) (rest : List String) (below : List Frame) :
    Except Failure RuleTable × Session → Moment
  | (.ok t, s) => ⟨f, .working t rest, below, s⟩
  | (.error e, s) => ⟨f, .leaving (.error (e.inFormat f.name)), below, s⟩

/-- The next moment, if the resolution is not over. -/
def advance (r : FormatRegistry) : Moment → Option Moment
  | ⟨f, .entering, below, s⟩ =>
    match s.cache.get? f.key with
    | some t => some ⟨f, .leaving (.ok t), below, s⟩
    | none => some ⟨f, .working (startingTable f) f.workingRules, below, s⟩
  | ⟨f, .working t [], below, s⟩ => some ⟨f, .leaving (.ok t), below, s.remember f.key t⟩
  | ⟨f, .working t (rule :: rest), below, s⟩ =>
    match r.turn f (stackOf below ++ [f.key]) t rule with
    | .table t' => some (.resumed f rest below (.ok t', s))
    | .failure e => some (.resumed f rest below (.error e, s))
    | .inclusion sub =>
      if r.config.maxRuleDepth < below.length then
        some (.resumed f rest below (.error (.of (.excessiveDepth f.name rule f.ruleset)), s))
      else some ⟨sub, .entering, ⟨f, t, rest⟩ :: below, s⟩
  | ⟨_, .leaving _, [], _⟩ => none
  | ⟨_, .leaving (.error e), ⟨f, _, rest⟩ :: below, s⟩ => some (.resumed f rest below (.error e, s))
  | ⟨sub, .leaving (.ok u), ⟨f, t, rest⟩ :: below, s⟩ =>
    match (t.referTo sub.id).inheritFrom u sub.name f.name with
    | .ok t' => some (.resumed f rest below (.ok t', s))
    | .error cause => some (.resumed f rest below (.error (.of cause), s))

/-- One moment leads to another one through moves. -/
abbrev Becomes (r : FormatRegistry) : Moment → Moment → Prop := StateTransition.Reaches r.advance

variable {r : FormatRegistry} {f sub : Format} {below : List Frame} {frame : Frame} {s : Session}
  {m m' : Moment} {t : RuleTable} {levels : Nat}

/-! ### What a move does -/

/-- What a move does to the formats that are being resolved: it leaves them as they are, ends the
last of them, or adds one that the last of them includes. -/
inductive Move (r : FormatRegistry) (m m' : Moment) : Prop
  | stay (hformat : m'.format = m.format) (hbelow : m'.below = m.below)
  | pop (frame : Frame) (hformat : m'.format = frame.format) (hbelow : m.below = frame :: m'.below)
  | push (frame : Frame) (rule : String) (hframe : frame.format = m.format)
    (hbelow : m'.below = frame :: m.below)
    (hturn : r.turn m.format m.keys frame.table rule = .inclusion m'.format)
    (hdepth : (m.below.length : Int) ≤ r.config.maxRuleDepth)

theorem move_of_advance (h : r.advance m = some m') : r.Move m m' := by
  obtain ⟨f, phase, below, s⟩ := m
  cases phase with
  | entering =>
    simp only [advance] at h
    split at h <;> cases h <;> exact .stay rfl rfl
  | working t rules =>
    cases rules with
    | nil => cases h; exact .stay rfl rfl
    | cons rule rest =>
      simp only [advance] at h
      split at h
      · cases h; exact .stay rfl rfl
      · cases h; exact .stay rfl rfl
      · next sub hturn =>
        split_ifs at h with hdepth
        · cases h; exact .stay rfl rfl
        · cases h; exact .push ⟨f, t, rest⟩ rule rfl rfl hturn (Int.not_lt.mp hdepth)
  | leaving result =>
    cases below with
    | nil => cases h
    | cons frame below =>
      cases result with
      | error e => cases h; exact .pop frame rfl rfl
      | ok u =>
        simp only [advance] at h
        split at h <;> cases h <;> exact .pop frame rfl rfl

/-! ### Moments in order -/

/-- The formats that are being resolved are stacked, and no more of them than the limit allows. -/
structure Moment.InOrder (r : FormatRegistry) (m : Moment) : Prop where
  stacked : r.Stacked m.keys
  depth : (m.below.length : Int) ≤ r.config.maxRuleDepth + 1

theorem stackOf_cons : stackOf (frame :: below) = stackOf below ++ [frame.format.key] := by
  simp [stackOf]

@[simp] theorem Moment.length_keys : m.keys.length = m.below.length + 1 := by
  simp [Moment.keys, stackOf]

/-- **A move keeps moments in order.** -/
theorem Moment.InOrder.next (hr : r.WellFormed) (h : m.InOrder r) (hm : r.Move m m') :
    m'.InOrder r := by
  obtain ⟨hstacked, hdepth⟩ := h
  cases hm with
  | stay hformat hbelow =>
    refine ⟨?_, hbelow ▸ hdepth⟩
    rwa [Moment.keys, hformat, hbelow]
  | pop frame hformat hbelow =>
    rw [Moment.keys, hbelow, stackOf_cons, ← hformat] at hstacked
    rw [hbelow, List.length_cons] at hdepth
    exact ⟨hstacked.of_append, by omega⟩
  | push frame rule hframe hbelow hturn hwithin =>
    refine ⟨?_, ?_⟩
    · rw [Moment.keys, hbelow, stackOf_cons, hframe]
      exact hstacked.of_turn hr hturn
    · rw [hbelow, List.length_cons]
      omega

theorem Moment.InOrder.of_becomes (hr : r.WellFormed) (h : m.InOrder r) (hm : r.Becomes m m') :
    m'.InOrder r := by
  induction hm with
  | refl => exact h
  | tail _ hstep ih => exact ih.next hr (move_of_advance hstep)

theorem Moment.inOrder_start (hmax : 0 ≤ r.config.maxRuleDepth) (f : Format) (s : Session) :
    (Moment.start f s).InOrder r where
  stacked := stacked_singleton r f.key
  depth := by
    show ((0 : Nat) : Int) ≤ _
    omega

/-! ### Where moves lead -/

theorem levelsAt_eq_zero {n : Nat} (h : r.levelsAt n = 0) : r.config.maxRuleDepth < n := by
  unfold levelsAt at h
  omega

theorem levelsAt_eq_succ {n : Nat} (h : r.levelsAt n = levels + 1) :
    ¬ r.config.maxRuleDepth < n ∧ r.levelsAt (n + 1 : Nat) = levels := by
  unfold levelsAt at h ⊢
  omega

/-- Resolving a format with so many levels left is what moves from its entry lead to. -/
def Simulates (r : FormatRegistry) (levels : Nat) : Prop :=
  ∀ f below s, r.levelsAt below.length = levels → r.Becomes ⟨f, .entering, below, s⟩
    (.ended f below ((r.resolveWithin levels f (stackOf below)).run.run s))

/-- A sub-format that is over hands its table or its failure to the format that waits for it. -/
theorem advance_ended {rest : List String} (out : Except Failure RuleTable × Session) :
    r.advance (.ended sub (⟨f, t, rest⟩ :: below) out) = some (.resumed f rest below (match out with
      | (.ok u, s) => (inheriting f sub (t.referTo sub.id) u).run.run s
      | (.error e, s) => (.error e, s))) := by
  rcases out with ⟨e | u, s⟩
  · rfl
  · dsimp only [Moment.ended, advance, inheriting]
    cases (t.referTo sub.id).inheritFrom u sub.name f.name <;> rfl

/-- Working one rule off comes to what applying it comes to. -/
theorem becomes_rule (hfollow : ∀ levels', levels = levels' + 1 → r.Simulates levels')
    (hlevels : r.levelsAt below.length = levels) (t : RuleTable) (rule : String)
    (rest : List String) (s : Session) :
    r.Becomes ⟨f, .working t (rule :: rest), below, s⟩ (.resumed f rest below
      ((r.applyRule (r.followWithin levels) f (stackOf below ++ [f.key]) t rule).run.run s)) := by
  rw [applyRule_eq]
  cases hturn : r.turn f (stackOf below ++ [f.key]) t rule with
  | table t' => exact .single (by simp [advance, hturn]; rfl)
  | failure e => exact .single (by simp [advance, hturn]; rfl)
  | inclusion sub =>
    cases levels with
    | zero =>
      have hpast := levelsAt_eq_zero hlevels
      exact .single (by simp [advance, hturn, hpast]; rfl)
    | succ levels =>
      obtain ⟨hwithin, hlevels'⟩ := levelsAt_eq_succ hlevels
      have hsub := hfollow levels rfl sub (⟨f, t, rest⟩ :: below) s hlevels'
      have henter : ⟨sub, .entering, ⟨f, t, rest⟩ :: below, s⟩
          ∈ r.advance ⟨f, .working t (rule :: rest), below, s⟩ := by
        simp [advance, hturn, hwithin]
      refine .head henter (hsub.tail ?_)
      have hlevel : r.followWithin (levels + 1) f rule sub (stackOf below ++ [f.key])
          = r.resolveWithin levels sub (stackOf below ++ [f.key]) := rfl
      rw [Option.mem_def, advance_ended, stackOf_cons, Turn.complete, run_bind, hlevel]
      rcases (r.resolveWithin levels sub (stackOf below ++ [f.key])).run.run s with ⟨_ | _, s'⟩
        <;> rfl

/-- Working rules off, one after the other, comes to what applying them in turn comes to. -/
theorem becomes_rules (hfollow : ∀ levels', levels = levels' + 1 → r.Simulates levels')
    (hlevels : r.levelsAt below.length = levels) : ∀ (rest : List String) (t : RuleTable)
    (s : Session), r.Becomes ⟨f, .working t rest, below, s⟩ (.resumed f [] below
      ((rest.foldlM (r.applyRule (r.followWithin levels) f (stackOf below ++ [f.key])) t).run.run s))
  | [], _, _ => .refl
  | rule :: rest, t, s => by
    refine (becomes_rule hfollow hlevels t rule rest s).trans ?_
    rw [List.foldlM_cons, run_bind]
    rcases (r.applyRule (r.followWithin levels) f (stackOf below ++ [f.key]) t rule).run.run s with
      ⟨e | t', s'⟩
    · exact .refl
    · exact becomes_rules hfollow hlevels rest t' s'

theorem becomes_ended (hfollow : ∀ levels', levels = levels' + 1 → r.Simulates levels') :
    r.Simulates levels := by
  intro f below s hlevels
  rw [resolveWithin_eq, run_resolveBy]
  cases hc : s.cache.get? f.key with
  | some t => exact .single (by simp [advance, hc]; rfl)
  | none =>
    have henter : ⟨f, .working (startingTable f) f.workingRules, below, s⟩
        ∈ r.advance ⟨f, .entering, below, s⟩ := by simp [advance, hc]
    refine .head henter ((becomes_rules hfollow hlevels f.workingRules _ s).trans ?_)
    change r.Becomes (.resumed f [] below ((r.buildTable _ f _).run.run s)) _
    rcases (r.buildTable (r.followWithin levels) f (stackOf below ++ [f.key])).run.run s with
      ⟨e | t, s'⟩
    · exact .refl
    · exact .single rfl

/-- **Moves lead where resolution leads.** -/
theorem simulates (r : FormatRegistry) : ∀ levels, r.Simulates levels
  | 0 => becomes_ended nofun
  | levels + 1 => becomes_ended fun levels' h => by
    cases h
    exact simulates r levels

/-- **Resolution ends, and its stack stays small.**  From any format and any session, whatever it
remembers, there are finitely many moves, and the last moment holds what `resolve` gives.  At every
moment the keys of the formats that are being resolved are distinct.  Their number is at most the
limit and two, and at most that of the registered formats and one. -/
theorem resolution_ends {config : Config} {dexes : DexCollection} {aliases : Json}
    {entries : List FormatEntry} (hbuild : build config dexes aliases entries = .ok r)
    (hmax : 0 ≤ r.config.maxRuleDepth) (f : Format) (s : Session) :
    .ended f [] ((r.resolve f).run.run s) ∈ StateTransition.eval r.advance (.start f s)
    ∧ ∀ m, r.Becomes (.start f s) m → m.keys.Nodup
      ∧ (m.keys.length : Int) ≤ min (r.config.maxRuleDepth + 2) (r.formats.size + 1) := by
  refine ⟨StateTransition.mem_eval.mpr ⟨r.simulates _ f [] s rfl, rfl⟩, fun m hm => ?_⟩
  have horder := (Moment.inOrder_start hmax f s).of_becomes (wellFormed_of_build hbuild) hm
  have hdepth := horder.depth
  have hsize := horder.stacked.length_le
  refine ⟨horder.stacked.nodup, le_min ?_ ?_⟩
  · rw [Moment.length_keys]
    omega
  · omega

/-- The format that includes itself, with what else it includes suppressed. -/
def Sample.derivedLoop : Format := (registry.getFormat "loop").withCustomRules ["!Base"]

/-- A format that is not registered and includes its base, which includes itself. -/
theorem resolution_ends_derivedLoop :
    .ended Sample.derivedLoop [] ((Sample.registry.resolve Sample.derivedLoop).run.run
        (Sample.registry.after [.resolve "loop" 0]))
      ∈ StateTransition.eval Sample.registry.advance
        (.start Sample.derivedLoop (Sample.registry.after [.resolve "loop" 0]))
    ∧ ∀ m, Sample.registry.Becomes
        (.start Sample.derivedLoop (Sample.registry.after [.resolve "loop" 0])) m →
      m.keys.Nodup ∧ m.keys.length ≤ 5 := by
  have hmax : 0 ≤ Sample.registry.config.maxRuleDepth := by decide +kernel
  have hsize : Sample.registry.formats.size = 4 := by decide +kernel
  obtain ⟨hends, hmoments⟩ := resolution_ends Sample.build_eq hmax Sample.derivedLoop
    (Sample.registry.after [.resolve "loop" 0])
  refine ⟨hends, fun m hm => ?_⟩
  obtain ⟨hnodup, hlength⟩ := hmoments m hm
  have hle := (le_min_iff.mp hlength).2
  exact ⟨hnodup, by omega⟩

/-- The moment of a resolution at which most formats are open. -/
example : ((· >>= Sample.registry.advance)^[8] (some (.start Sample.derivedLoop .fresh))).map
    Moment.keys = some ["loop@@@!Base", "loop", "base", "speciesclause"] := by decide +kernel

end FormatRegistry

end TeamLegality
