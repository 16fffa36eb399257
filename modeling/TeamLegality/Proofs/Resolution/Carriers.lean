import TeamLegality.Proofs.Resolution.Provenance
import TeamLegality.Proofs.RuleTable.Bans
import TeamLegality.Proofs.RuleTable.RuleKeys

/-!
# Carriers — what a table has a key from

A key is in the table of a format because the format declares it, or because a format that it
includes carries it.  A ban is lost to an unban of the format's own that comes later, so it is
carried only from behind those (`Carries`).  Here the laws of bans, unbans, rules and suppressions
are put as iffs about what the format says and which formats it carries a key from.
-/

namespace TeamLegality

/-! ### Behind all others -/

section ComesAfter

variable {α : Type} {a b x : α} {l l' : List α} {p : α → Bool}

/-- An element is in a list, behind every occurrence of another one. -/
def ComesAfter (b a : α) (l : List α) : Prop := ∃ before after, l = before ++ a :: after ∧ b ∉ after

theorem ComesAfter.mem (h : ComesAfter b a l) : a ∈ l := by
  obtain ⟨before, after, rfl, -⟩ := h
  exact List.mem_append_right _ List.mem_cons_self

theorem comesAfter_of_mem (ha : a ∈ l) (hb : b ∉ l) : ComesAfter b a l := by
  obtain ⟨before, after, rfl⟩ := List.append_of_mem ha
  exact ⟨before, after, rfl, fun h => hb (List.mem_append_right _ (List.mem_cons_of_mem _ h))⟩

theorem not_comesAfter_nil : ¬ ComesAfter b a [] := fun h => List.not_mem_nil h.mem

theorem comesAfter_snoc : ComesAfter b a (l ++ [x]) ↔ x = a ∨ x ≠ b ∧ ComesAfter b a l := by
  constructor
  · rintro ⟨before, after, heq, hb⟩
    rcases List.eq_nil_or_concat after with rfl | ⟨after, y, rfl⟩
    · obtain ⟨-, hx⟩ := List.append_inj' heq rfl
      exact .inl (List.singleton_inj.mp hx)
    · rw [List.concat_eq_append, ← List.cons_append, ← List.append_assoc] at heq
      obtain ⟨hl, hx⟩ := List.append_inj' heq rfl
      obtain rfl := List.singleton_inj.mp hx
      simp only [List.concat_eq_append, List.mem_append, List.mem_singleton, not_or] at hb
      exact .inr ⟨Ne.symm hb.2, before, after, hl, hb.1⟩
  · rintro (rfl | ⟨hne, before, after, rfl, hb⟩)
    · exact ⟨l, [], rfl, List.not_mem_nil⟩
    · exact ⟨before, after ++ [x], by simp, by simp [hb, Ne.symm hne]⟩

/-- What comes last decides. -/
theorem comesAfter_append :
    ComesAfter b a (l ++ l') ↔ ComesAfter b a l' ∨ b ∉ l' ∧ ComesAfter b a l := by
  induction l' using List.reverseRecOn with
  | nil => simp [not_comesAfter_nil]
  | append_singleton l' x ih =>
    rw [← List.append_assoc, comesAfter_snoc, comesAfter_snoc, ih, List.mem_append,
      List.mem_singleton, eq_comm (a := b)]
    tauto

theorem comesAfter_filter (ha : p a = true) (hb : p b = true) :
    ComesAfter b a (l.filter p) ↔ ComesAfter b a l := by
  induction l using List.reverseRecOn with
  | nil => rfl
  | append_singleton l x ih =>
    rw [List.filter_append, comesAfter_snoc]
    cases hx : p x with
    | true =>
      have hfilter : [x].filter p = [x] := by simp [hx]
      rw [hfilter, comesAfter_snoc, ih]
    | false =>
      have hfilter : [x].filter p = [] := by simp [hx]
      have hne : ∀ {y}, p y = true → x ≠ y := by
        rintro y hy rfl
        rw [hx] at hy
        cases hy
      simp [hfilter, ih, hne ha, hne hb]

end ComesAfter

/-- The key of the rule that takes back what the rule of a key says. -/
def RuleKey.opposite : RuleKey → RuleKey
  | .rule id => .suppression (.rule id)
  | .suppression key => key
  | .ban target => .unban target
  | .unban target => .ban target

namespace FormatRegistry

variable {r : FormatRegistry} {R : Format → RuleTable → Prop} {tables : Format → RuleTable}
  {f : Format} {t t' : RuleTable} {done specs : List RuleSpec} {spec : RuleSpec} {target : Target}
  {x : String} {key : RuleKey} {l : List Entry}

/-! ### What a format says of a target -/

theorem get?_referTo_of_target (hkey : key.IsOfTarget) : (t.referTo x).get? key = t.get? key := by
  obtain ⟨target, rfl | rfl⟩ := hkey <;> simp [RuleTable.get?_referTo]

/-- A ban or an unban has the empty source once it is said, and keeps it; only a ban is taken
back. -/
theorem Step.own_target_iff (hr : r.WellFormed) (hkey : key.IsOfTarget)
    (hs : Step r R f done t spec t') : t'.get? key = some "" ↔
      spec.key? = some key ∨ (∀ target, key = .ban target → spec ≠ .unban target)
        ∧ t.get? key = some "" := by
  have hrule := hkey.ne_rule
  cases hs with
  | teamBan c =>
    have hsame : (t.addTeamBan c).get? key = t.get? key := rfl
    simp [RuleSpec.key?, hsame]
  | complexBan c =>
    have hsame : (t.addComplexBan c).get? key = t.get? key := rfl
    simp [RuleSpec.key?, hsame]
  | ban banned =>
    obtain ⟨target, rfl | rfl⟩ := hkey
    · by_cases heq : banned = target
      · simp [RuleSpec.key?, heq]
      · simp [RuleSpec.key?, RuleTable.get?_set, heq, Ne.symm heq]
    · simp [RuleSpec.key?, RuleTable.get?_set]
  | unban unbanned =>
    obtain ⟨target, rfl | rfl⟩ := hkey
    · by_cases heq : unbanned = target
      · simp [RuleSpec.key?, RuleTable.get?_set, RuleTable.get?_erase, heq]
      · simp [RuleSpec.key?, RuleTable.get?_set, RuleTable.get?_erase, heq, Ne.symm heq]
    · by_cases heq : unbanned = target
      · simp [RuleSpec.key?, heq]
      · simp [RuleSpec.key?, RuleTable.get?_set, RuleTable.get?_erase, heq, Ne.symm heq]
  | suppress id =>
    obtain ⟨target, rfl | rfl⟩ := hkey <;> simp [RuleSpec.key?, RuleTable.get?_set]
  | passed id hs => simp [RuleSpec.key?, Ne.symm (hrule id)]
  | missing id hs hk =>
    rw [get?_referTo_of_target hkey]
    simp [RuleSpec.key?, Ne.symm (hrule id)]
  | included id hs hk hu ht' =>
    have hname := (offers_getFormat hr id).name_ne hr hk
    rw [RuleTable.get?_of_rules_eq (RuleTable.inheritFrom_ok ht').1,
      RuleTable.inheritKeys_own hname, get?_referTo_of_target hkey]
    simp [RuleSpec.key?, Ne.symm (hrule id)]

/-- What a format declares about a target: its unbans, and the bans that it does not take back. -/
theorem Steps.own_ban_iff (hr : r.WellFormed) (h : Steps r R f specs t) :
    t.get? (.ban target) = some "" ↔ ComesAfter (.unban target) (.ban target) specs := by
  induction h with
  | start => simp [not_comesAfter_nil]
  | @snoc done t t' spec h hs ih =>
    rw [hs.own_target_iff hr ⟨target, .inl rfl⟩, comesAfter_snoc, ih]
    have hkey : spec.key? = some (.ban target) ↔ spec = .ban target := by
      cases spec <;> simp [RuleSpec.key?]
    simp [hkey]

theorem Steps.own_unban_iff (hr : r.WellFormed) (h : Steps r R f specs t) :
    t.get? (.unban target) = some "" ↔ .unban target ∈ specs := by
  induction h with
  | start => simp
  | @snoc done t t' spec h hs ih =>
    rw [hs.own_target_iff hr ⟨target, .inr rfl⟩, List.mem_append, List.mem_singleton, ih]
    have hkey : spec.key? = some (.unban target) ↔ .unban target = spec := by
      cases spec <;> simp [RuleSpec.key?, eq_comm]
    simp [hkey, or_comm]

/-! ### What entries ban -/

/-- Entries ban a target by a ban or by the inclusion of a format that bans it, behind all
unbans. -/
theorem Entry.ban_iff : Entry.Ban tables target l ↔
    ComesAfter (.own (.unban target)) (.own (.ban target)) l
      ∨ ∃ sub, ComesAfter (.own (.unban target)) (.inclusion sub) l
        ∧ (tables sub).has (.ban target) = true := by
  induction l using List.reverseRecOn with
  | nil => simp [Entry.Ban, not_comesAfter_nil]
  | append_singleton l e ih =>
    simp only [comesAfter_snoc]
    cases hc : Entry.concerns tables target e with
    | true =>
      rw [Entry.ban_snoc_of_concerns hc]
      cases e with
      | inclusion sub => exact iff_of_true (by simp) (.inr ⟨sub, .inl rfl, hc⟩)
      | own spec =>
        cases spec <;> simp [Entry.concerns] at hc <;> simp [hc]
    | false =>
      rw [Entry.ban_append_of_ignored (by simpa using hc), ih]
      cases e with
      | inclusion sub =>
        have hnot : ∀ sub', Entry.inclusion sub = .inclusion sub'
            → ¬ (tables sub').has (.ban target) = true := by
          rintro _ ⟨⟩ hban
          rw [Entry.concerns, hban] at hc
          cases hc
        simp only [ne_eq, reduceCtorEq, not_false_eq_true, true_and, false_or]
        refine or_congr_right (exists_congr fun sub' => ?_)
        constructor
        · rintro ⟨hafter, hban⟩
          exact ⟨.inr hafter, hban⟩
        · rintro ⟨hlast | hafter, hban⟩
          · exact absurd hban (hnot sub' hlast)
          · exact ⟨hafter, hban⟩
      | own spec =>
        have hban : spec ≠ .ban target := by
          rintro rfl
          simp [Entry.concerns] at hc
        have hunban : spec ≠ .unban target := by
          rintro rfl
          simp [Entry.concerns] at hc
        simp [hban, hunban]

/-- What a rule contributes as the format's own is that rule, and it refers to nothing. -/
theorem contribution?_eq_own {first : RuleSpec}
    (h : r.contribution? done first = some (.own spec)) :
    first = spec ∧ ∀ id, first ≠ .rule id := by
  by_cases hfirst : ∃ id, first = .rule id
  · obtain ⟨id, rfl⟩ := hfirst
    unfold contribution? at h
    dsimp only at h
    split_ifs at h
    cases h
  · rw [contribution?_of_own (not_exists.mp hfirst), Option.some.injEq, Entry.own.injEq] at h
    exact ⟨h, not_exists.mp hfirst⟩

/-- The bans and unbans of a format stand among its entries as they do among its rules. -/
theorem comesAfter_own_iff :
    ComesAfter (.own (.unban target)) (.own (.ban target)) (r.entriesAfter [] specs)
      ↔ ComesAfter (.unban target) (.ban target) specs := by
  induction specs using List.reverseRecOn with
  | nil => exact iff_of_false not_comesAfter_nil not_comesAfter_nil
  | append_singleton specs spec ih =>
    rw [entriesAfter_snoc, comesAfter_snoc, ← ih]
    by_cases hspec : ∃ id, spec = .rule id
    · obtain ⟨id, rfl⟩ := hspec
      cases hc : r.contribution? specs (.rule id) with
      | none => simp
      | some e =>
        have he : ∀ spec, e ≠ .own spec := by
          rintro spec rfl
          exact (contribution?_eq_own hc).2 id rfl
        rw [Option.toList_some, comesAfter_snoc]
        simp [he]
    · rw [contribution?_of_own (not_exists.mp hspec), Option.toList_some, comesAfter_snoc]
      simp

theorem mem_of_own_mem_entriesAfter : ∀ {done specs : List RuleSpec},
    .own spec ∈ r.entriesAfter done specs → spec ∈ specs
  | _, [], h => by cases h
  | done, first :: rest, h => by
    rw [entriesAfter, List.mem_append, Option.mem_toList] at h
    rcases h with h | h
    · rw [(contribution?_eq_own h).1]
      exact List.mem_cons_self
    · exact List.mem_cons_of_mem first (mem_of_own_mem_entriesAfter h)

/-! ### Carriers -/

/-- A format carries a key from another one: it includes the other one, behind its own unbans of
what the key bans, and the table of the other one has the key. -/
structure Carries (r : FormatRegistry) (f : Format) (key : RuleKey) (sub : Format) : Prop where
  includes : r.Includes f sub
  behind : ∀ target, key = .ban target →
    ComesAfter (.own (.unban target)) (.inclusion sub) (r.entries f)
  has : ∃ u, r.ResolvesTo sub u ∧ u.has key = true

theorem carries_iff (hr : r.WellFormed) (hR : TabulatedBy (TableOf r) tables) (h : TableOf r f t)
    {sub : Format} : r.Carries f key sub ↔ r.Includes f sub
      ∧ (∀ target, key = .ban target →
        ComesAfter (.own (.unban target)) (.inclusion sub) (r.entries f))
      ∧ (tables sub).has key = true := by
  have hhas : r.Includes f sub →
      ((∃ u, r.ResolvesTo sub u ∧ u.has key = true) ↔ (tables sub).has key = true) := by
    intro hincl
    obtain ⟨u, hu⟩ := h.built.steps.exists_table hincl
    rw [← (hR sub u hu).1]
    refine ⟨fun ⟨v, hv, hkey⟩ => ?_, fun hkey => ⟨u, ?_, hkey⟩⟩
    · rw [hu.unique (hv.tableOf hr)]
      exact hkey
    · exact (resolvesTo_iff hr (hincl.offers hr)).mpr hu
  exact ⟨fun hc => ⟨hc.includes, hc.behind, (hhas hc.includes).mp hc.has⟩,
    fun ⟨hincl, hbehind, hkey⟩ => ⟨hincl, hbehind, (hhas hincl).mpr hkey⟩⟩

/-- What is no ban is carried from wherever it is brought. -/
theorem exists_carries_iff (hr : r.WellFormed) (hR : TabulatedBy (TableOf r) tables)
    (h : TableOf r f t) (hkey : ∀ target, key ≠ .ban target) :
    (∃ sub, r.Carries f key sub) ↔ r.Brings tables (r.ownRules f) key := by
  refine exists_congr fun sub => ?_
  rw [carries_iff hr hR h]
  simp [hkey, Includes, entries]

section HasIff

variable (hr : r.WellFormed) (h : TableOf r f t)
include hr h

theorem TableOf.has_ban_iff : t.has (.ban target) = true ↔
    ComesAfter (.unban target) (.ban target) (r.ownRules f)
      ∨ ∃ sub, r.Carries f (.ban target) sub := by
  obtain ⟨tables, hR⟩ := r.exists_tabulatedBy
  rw [h.built.steps.ban_standing hR, Entry.ban_iff, comesAfter_own_iff]
  refine or_congr_right (exists_congr fun sub => ?_)
  rw [carries_iff hr hR h]
  constructor
  · rintro ⟨hafter, hban⟩
    exact ⟨hafter.mem, fun _ heq => by cases heq; exact hafter, hban⟩
  · rintro ⟨-, hbehind, hban⟩
    exact ⟨hbehind target rfl, hban⟩

theorem TableOf.has_unban_iff : t.has (.unban target) = true ↔
    .unban target ∈ r.ownRules f ∨ ∃ sub, r.Carries f (.unban target) sub := by
  obtain ⟨tables, hR⟩ := r.exists_tabulatedBy
  rw [h.built.steps.unban_standing hR, exists_carries_iff hr hR h (by simp)]

theorem TableOf.has_rule_iff : t.has (.rule x) = true ↔ .suppress x ∉ r.ownRules f
    ∧ (r.Refers (r.ownRules f) x ∨ (∃ sub, r.Carries f (.rule x) sub)
      ∧ ¬ ∃ sub, r.Carries f (.suppression (.rule x)) sub) := by
  obtain ⟨tables, hR⟩ := r.exists_tabulatedBy
  rw [RuleTable.has_iff, ← Option.ne_none_iff_exists',
    (h.built.steps.standing hr hR x).rule_ne_none_iff, exists_carries_iff hr hR h (by simp),
    exists_carries_iff hr hR h (by simp)]

theorem TableOf.has_suppression_iff : t.has (.suppression (.rule x)) = true ↔
    .suppress x ∈ r.ownRules f ∨ ¬ r.Refers (r.ownRules f) x
      ∧ ∃ sub, r.Carries f (.suppression (.rule x)) sub := by
  obtain ⟨tables, hR⟩ := r.exists_tabulatedBy
  rw [RuleTable.has_iff, ← Option.ne_none_iff_exists',
    (h.built.steps.standing hr hR x).suppression_ne_none_iff,
    exists_carries_iff hr hR h (by simp)]

theorem TableOf.own_rule_iff : t.get? (.rule x) = some "" ↔
    r.Refers (r.ownRules f) x ∧ .suppress x ∉ r.ownRules f := by
  obtain ⟨tables, hR⟩ := r.exists_tabulatedBy
  exact (h.built.steps.standing hr hR x).declared

end HasIff

end FormatRegistry

end TeamLegality
