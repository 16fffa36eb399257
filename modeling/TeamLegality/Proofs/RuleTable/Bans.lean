import TeamLegality.Proofs.Resolution.History

/-!
# Bans — what decides whether a target is banned

Bans and unbans of single targets are never suppressed.  So an unban stays once it is declared or
inherited, and a ban that is inherited is lost only to an unban that the format declares later: the
last entry of the format that concerns a target decides (`target_standing`).
-/

namespace TeamLegality

/-- A key bans or unbans a target: nothing suppresses it and it suppresses nothing. -/
def RuleKey.IsOfTarget (key : RuleKey) : Prop := ∃ target, key = .ban target ∨ key = .unban target

theorem RuleKey.IsOfTarget.ne_rule {key : RuleKey} (h : key.IsOfTarget) (id : String) :
    key ≠ .rule id := by
  obtain ⟨target, rfl | rfl⟩ := h <;> simp

namespace RuleTable

variable {t u : RuleTable} {origin : String} {key : RuleKey}

theorem has_inheritKey {entry : RuleKey × String} (hkey : key.IsOfTarget) (ht : t.Regular)
    (hk : entry.1.IsRegular) :
    (inheritKey origin t entry).has key = true ↔ t.has key = true ∨ key = entry.1 := by
  by_cases heq : key = entry.1
  · refine iff_of_true ?_ (.inr heq)
    have hsupp := ht.has_suppression hkey.ne_rule
    unfold inheritKey
    split
    · next hrefuses =>
      obtain ⟨target, rfl | rfl⟩ := hkey <;> simpa [← heq, refuses, hsupp] using hrefuses
    · rw [← heq, has_set]
      exact .inl rfl
  · rw [has_iff, has_iff, get?_inheritKey_of_ne heq (hk.ne_suppression hkey.ne_rule)]
    exact (or_iff_left heq).symm

/-- Bans and unbans are inherited whatever else is in the table. -/
theorem has_inheritKeys (hkey : key.IsOfTarget) (ht : t.Regular) (hu : u.Regular) :
    (t.inheritKeys u origin).has key = true ↔ t.has key = true ∨ u.has key = true := by
  refine (inheritKeys_induction u origin (fun A t' => t'.Regular ∧
    (t'.has key = true ↔ A key)) ?_ (fun k => t.has k = true) ⟨ht, Iff.rfl⟩).2
  rintro A t' entry hentry ⟨ht', h⟩
  exact ⟨ht'.inheritKey (hu _ hentry), by rw [has_inheritKey hkey ht' (hu _ hentry), h]⟩

end RuleTable

namespace FormatRegistry

/-- An entry of a format concerns a target: it bans or unbans it itself, or it includes a format
whose table bans it. -/
def Entry.concerns (tables : Format → RuleTable) (target : Target) : Entry → Bool
  | .own (.ban banned) => banned == target
  | .own (.unban unbanned) => unbanned == target
  | .own _ => false
  | .inclusion sub => (tables sub).has (.ban target)

/-- Some entries ban a target: the last of those that concern it is not an unban. -/
def Entry.Ban (tables : Format → RuleTable) (target : Target) (entries : List Entry) : Prop :=
  ∃ e, (entries.filter (Entry.concerns tables target)).getLast? = some e ∧ e ≠ .own (.unban target)

variable {r : FormatRegistry} {R : Format → RuleTable → Prop} {tables : Format → RuleTable}
  {f : Format} {t t' : RuleTable} {done specs : List RuleSpec} {spec : RuleSpec} {target : Target}
  {entries : List Entry} {e : Entry}

theorem Entry.ban_append_of_ignored {rest : List Entry}
    (h : ∀ e ∈ rest, Entry.concerns tables target e = false) :
    Entry.Ban tables target (entries ++ rest) ↔ Entry.Ban tables target entries := by
  have hrest : rest.filter (Entry.concerns tables target) = [] := by simpa using h
  unfold Entry.Ban
  rw [List.filter_append, hrest, List.append_nil]

theorem Entry.ban_snoc_of_concerns (h : Entry.concerns tables target e = true) :
    Entry.Ban tables target (entries ++ [e]) ↔ e ≠ .own (.unban target) := by
  unfold Entry.Ban
  simp [List.filter_append, h]

theorem Step.unban_standing (hR : TabulatedBy R tables) (ht : t.Regular)
    (h : t.has (.unban target) = true
      ↔ .unban target ∈ done ∨ r.Brings tables done (.unban target))
    (hs : Step r R f done t spec t') :
    t'.has (.unban target) = true
      ↔ .unban target ∈ done ++ [spec] ∨ r.Brings tables (done ++ [spec]) (.unban target) := by
  rw [List.mem_append, List.mem_singleton, or_right_comm]
  cases hs with
  | teamBan c => simpa [brings_snoc_of_own] using h
  | complexBan c => simpa [brings_snoc_of_own] using h
  | ban banned => simpa [brings_snoc_of_own, RuleTable.has_set] using h
  | suppress id => simpa [brings_snoc_of_own, RuleTable.has_set] using h
  | unban unbanned =>
    rw [RuleTable.has_set, RuleTable.has_erase, brings_snoc_of_own (by simp), ← h]
    simp [or_comm]
  | passed id hpass => simpa [brings_snoc_of_none (contribution?_of_passed hpass)] using h
  | missing id hpass hk =>
    have hnone : r.contribution? done (.rule id) = none := contribution?_of_missing hk
    simpa [brings_snoc_of_none hnone, RuleTable.has_referTo] using h
  | included id hpass hk hu ht' =>
    obtain ⟨rfl, hreg⟩ := hR _ _ hu
    rw [RuleTable.has_of_rules_eq (RuleTable.inheritFrom_ok ht').1,
      RuleTable.has_inheritKeys ⟨target, .inr rfl⟩ ht.referTo hreg,
      RuleTable.has_referTo, brings_snoc_of_inclusion (contribution?_of_included hpass hk),
      ← or_assoc, ← h]
    simp

theorem Step.ban_standing (hR : TabulatedBy R tables) (ht : t.Regular)
    (h : t.has (.ban target) = true ↔ Entry.Ban tables target (r.entriesAfter [] done))
    (hs : Step r R f done t spec t') :
    t'.has (.ban target) = true
      ↔ Entry.Ban tables target (r.entriesAfter [] (done ++ [spec])) := by
  rw [entriesAfter_snoc]
  cases hs with
  | teamBan c =>
    rw [Entry.ban_append_of_ignored (by simp [contribution?, Entry.concerns])]
    exact h
  | complexBan c =>
    rw [Entry.ban_append_of_ignored (by simp [contribution?, Entry.concerns])]
    exact h
  | suppress id =>
    rw [Entry.ban_append_of_ignored (by simp [contribution?, Entry.concerns]), ← h]
    simp [RuleTable.has_set]
  | ban banned =>
    by_cases heq : banned = target
    · subst heq
      refine iff_of_true (by simp [RuleTable.has_set]) ?_
      exact (Entry.ban_snoc_of_concerns (by simp [Entry.concerns])).mpr (by simp)
    · rw [Entry.ban_append_of_ignored (by simpa [contribution?, Entry.concerns] using heq), ← h]
      simp [RuleTable.has_set, Ne.symm heq]
  | unban unbanned =>
    by_cases heq : unbanned = target
    · subst heq
      refine iff_of_false (by simp [RuleTable.has_set, RuleTable.has_erase]) ?_
      rw [contribution?_of_own (by simp), Option.toList_some,
        Entry.ban_snoc_of_concerns (by simp [Entry.concerns])]
      simp
    · rw [Entry.ban_append_of_ignored (by simpa [contribution?, Entry.concerns] using heq), ← h]
      simp [RuleTable.has_set, RuleTable.has_erase, Ne.symm heq]
  | passed id hpass =>
    rw [contribution?_of_passed hpass, Entry.ban_append_of_ignored (by simp)]
    exact h
  | missing id hpass hk =>
    rw [contribution?_of_missing hk, Entry.ban_append_of_ignored (by simp), ← h]
    simp [RuleTable.has_referTo]
  | included id hpass hk hu ht' =>
    obtain ⟨rfl, hreg⟩ := hR _ _ hu
    rw [RuleTable.has_of_rules_eq (RuleTable.inheritFrom_ok ht').1,
      RuleTable.has_inheritKeys ⟨target, .inl rfl⟩ ht.referTo hreg,
      RuleTable.has_referTo, contribution?_of_included hpass hk, Option.toList_some]
    by_cases hban : (tables (r.getFormat id)).has (.ban target) = true
    · have hconcerns : Entry.concerns tables target (.inclusion (r.getFormat id)) = true := hban
      exact iff_of_true (.inr hban) ((Entry.ban_snoc_of_concerns hconcerns).mpr (by simp))
    · rw [Entry.ban_append_of_ignored (by simpa [Entry.concerns] using hban), ← h]
      simp [hban]

theorem Steps.unban_standing (hR : TabulatedBy R tables)
    (h : Steps r R f specs t) (target : Target) : t.has (.unban target) = true
      ↔ .unban target ∈ specs ∨ r.Brings tables specs (.unban target) := by
  induction h with
  | start =>
    refine iff_of_false (by simp) ?_
    rintro (h | ⟨sub, hsub, -⟩)
    · cases h
    · cases hsub
  | snoc h hs ih =>
    exact hs.unban_standing hR (h.regular fun sub u hu => (hR sub u hu).2) ih

theorem Steps.ban_standing (hR : TabulatedBy R tables)
    (h : Steps r R f specs t) (target : Target) :
    t.has (.ban target) = true ↔ Entry.Ban tables target (r.entriesAfter [] specs) := by
  induction h with
  | start =>
    refine iff_of_false (by simp) ?_
    rintro ⟨e, he, -⟩
    cases he
  | snoc h hs ih =>
    exact hs.ban_standing hR (h.regular fun sub u hu => (hR sub u hu).2) ih

/-- **What decides whether a target is banned.**  It is unbanned when the format unbans it or an
included table does.  It is banned when, of the entries of the format that concern it, there is a
last one and that is not an unban. -/
theorem target_standing {config : Config} {dexes : DexCollection} {aliases : Json}
    {entries : List FormatEntry} (hbuild : build config dexes aliases entries = .ok r)
    (h : r.ResolvesTo f t) : ∃ tables, r.Tables f tables ∧ ∀ target : Target,
      (t.has (.unban target) = true ↔ .unban target ∈ r.ownRules f
        ∨ ∃ sub, r.Includes f sub ∧ (tables sub).has (.unban target) = true)
      ∧ (t.has (.ban target) = true ↔
        ∃ e, ((r.entries f).filter (Entry.concerns tables target)).getLast? = some e
          ∧ e ≠ .own (.unban target)) := by
  obtain ⟨tables, htables, hsteps⟩ := h.exists_tables (wellFormed_of_build hbuild)
  exact ⟨tables, htables, fun target =>
    ⟨hsteps.unban_standing (fun _ _ hu => hu) target,
      hsteps.ban_standing (fun _ _ hu => hu) target⟩⟩

/-- A ban that is inherited and then lost to an unban. -/
theorem target_standing_child :
    ∃ t, Sample.registry.ResolvesTo (Sample.registry.getFormat "child") t
      ∧ t.has (.unban (.plain "unreleased")) = true
      ∧ ¬ t.has (.ban (.plain "unreleased")) = true := by
  obtain ⟨t, -, ht⟩ := @Sample.exists_resolvesTo "child" (by decide +kernel)
  obtain ⟨tables, -, hlaw⟩ := target_standing Sample.build_eq ht
  obtain ⟨hunban, hban⟩ := hlaw (.plain "unreleased")
  have hown : .unban (.plain "unreleased")
      ∈ Sample.registry.ownRules (Sample.registry.getFormat "child") := by decide +kernel
  have hentries : Sample.registry.entries (Sample.registry.getFormat "child") =
      [.own (.suppress "speciesclause"), .inclusion (Sample.registry.getFormat "base"),
        .own (.unban (.plain "unreleased")),
        .own (.complexBan ⟨"Illegal + Unreleased", "", .allowed,
          [.plain "illegal", .plain "unreleased"]⟩)] := by decide +kernel
  refine ⟨t, ht, hunban.mpr (.inl hown), ?_⟩
  rw [hban, hentries]
  rintro ⟨e, he, hne⟩
  cases hb : (tables (Sample.registry.getFormat "base")).has (.ban (.plain "unreleased")) <;>
    · simp [Entry.concerns, hb] at he
      exact hne he.symm

end FormatRegistry

end TeamLegality
