import TeamLegality.Proofs.Resolution.History

/-!
# Rule keys — what decides whether a rule is in effect

The rules of a format set, remove and inherit keys in the order in which they are worked off.  For
a rule and its suppression the outcome does not depend on that order: an own suppression goes before
an own reference, an own reference before an inherited suppression, and that before an inherited
rule.  `Standing` is the invariant of the steps that says so.
-/

namespace TeamLegality

/-- What a table says of a rule and of its suppression.  `S` and `D`: the format suppresses the
rule, refers to it.  `B` and `I`: an included table suppresses it, has it. -/
structure Standing (S D B I : Prop) (rule suppression : Option String) : Prop where
  exclusive : rule = none ∨ suppression = none
  suppressed : suppression = some "" ↔ S
  declared : rule = some "" ↔ D ∧ ¬ S
  barred : ¬ S → ¬ D → (suppression ≠ none ↔ B)
  present : ¬ S → ¬ D → (rule ≠ none ↔ I ∧ ¬ B)

namespace Standing

variable {S D B I S' D' B' I' : Prop} {rule suppression : Option String} {source : String}

theorem congr (h : Standing S D B I rule suppression) (hS : S' ↔ S) (hD : D' ↔ D) (hB : B' ↔ B)
    (hI : I' ↔ I) : Standing S' D' B' I' rule suppression := by
  rw [hS, hD, hB, hI]
  exact h

/-- The format suppresses the rule. -/
theorem suppress (hS : S) : Standing S D B I none (some "") where
  exclusive := .inl rfl
  suppressed := by simp [hS]
  declared := by simp [hS]
  barred := fun h => absurd hS h
  present := fun h => absurd hS h

/-- The format refers to the rule and has not suppressed it. -/
theorem refer (hS : ¬ S) (hD : D) : Standing S D B I (some "") none where
  exclusive := .inr rfl
  suppressed := by simp [hS]
  declared := by simp [hS, hD]
  barred := fun _ h => absurd hD h
  present := fun _ h => absurd hD h

/-- The format refers to the rule that it has suppressed. -/
theorem pass (h : Standing S D B I rule suppression) (hS : S) :
    Standing S D' B I rule suppression where
  exclusive := h.exclusive
  suppressed := h.suppressed
  declared := h.declared.trans (by simp [hS])
  barred := fun h => absurd hS h
  present := fun h => absurd hS h

/-- The rule is inherited. -/
theorem inherit (h : Standing S D B I none none) (hsource : source ≠ "") :
    Standing S D B True (some source) none where
  exclusive := .inr rfl
  suppressed := h.suppressed
  declared := by rw [← h.declared]; simp [hsource]
  barred := h.barred
  present hS hD := by
    have hB : ¬ B := fun hB => (h.barred hS hD).mpr hB rfl
    simp [hB]

/-- The rule is refused, because the table has it or suppresses it. -/
theorem refuse (h : Standing S D B I rule suppression) (hsome : suppression ≠ none ∨ rule ≠ none) :
    Standing S D B True rule suppression where
  exclusive := h.exclusive
  suppressed := h.suppressed
  declared := h.declared
  barred := h.barred
  present hS hD := by
    rw [← h.barred hS hD, true_and]
    rcases h.exclusive with hrule | hsupp
    · exact ⟨fun h' => absurd hrule h', fun h' => absurd (hsome.resolve_right (· hrule)) h'⟩
    · exact ⟨fun _ h' => h' hsupp, fun _ => hsome.resolve_left (· hsupp)⟩

/-- The suppression is inherited, and removes an inherited rule. -/
theorem inheritSuppression (h : Standing S D B I rule none) (hrule : rule ≠ some "")
    (hsource : source ≠ "") : Standing S D True I none (some source) where
  exclusive := .inl rfl
  suppressed := by rw [← h.suppressed]; simp [hsource]
  declared := by rw [← h.declared]; simp [hrule]
  barred := by simp
  present := by simp

/-- The suppression is refused, because the table has it or declares the rule. -/
theorem refuseSuppression (h : Standing S D B I rule suppression)
    (hsome : suppression ≠ none ∨ rule = some "") : Standing S D True I rule suppression := by
  have hbarred : ¬ S → ¬ D → suppression ≠ none := fun _ hD =>
    hsome.resolve_right fun hrule => hD (h.declared.mp hrule).1
  refine ⟨h.exclusive, h.suppressed, h.declared, fun hS hD => by simp [hbarred hS hD], ?_⟩
  intro hS hD
  have hrule := h.exclusive.resolve_right (hbarred hS hD)
  simp [hrule]

/-- When there is a rule: the format refers to it, or inherits it without its suppression. -/
theorem rule_ne_none_iff (h : Standing S D B I rule suppression) :
    rule ≠ none ↔ ¬ S ∧ (D ∨ I ∧ ¬ B) := by
  by_cases hS : S
  · have hsome : suppression ≠ none := by simp [h.suppressed.mpr hS]
    simp [hS, h.exclusive.resolve_right hsome]
  · by_cases hD : D
    · simp [hS, hD, h.declared.mpr ⟨hD, hS⟩]
    · rw [h.present hS hD]
      simp [hS, hD]

/-- When there is a suppression: the format has it, or inherits it without referring to the rule. -/
theorem suppression_ne_none_iff (h : Standing S D B I rule suppression) :
    suppression ≠ none ↔ S ∨ (¬ D ∧ B) := by
  by_cases hS : S
  · simp [hS, h.suppressed.mpr hS]
  · by_cases hD : D
    · have hsome : rule ≠ none := by simp [h.declared.mpr ⟨hD, hS⟩]
      simp [hS, hD, h.exclusive.resolve_left hsome]
    · rw [h.barred hS hD]
      simp [hS, hD]

end Standing

namespace RuleTable

variable {t u : RuleTable} {origin x : String} {S D : Prop} {A : RuleKey → Prop}
  {entry : RuleKey × String}

/-- The standing of a rule in a table, when `A` are the keys of the included tables. -/
abbrev Stands (t : RuleTable) (x : String) (S D : Prop) (A : RuleKey → Prop) : Prop :=
  Standing S D (A (.suppression (.rule x))) (A (.rule x)) (t.get? (.rule x))
    (t.get? (.suppression (.rule x)))

theorem inheritKey_rule (ho : origin ≠ "") (h : t.Stands x S D A) (hkey : entry.1 = .rule x) :
    (inheritKey origin t entry).Stands x S D fun y => A y ∨ y = entry.1 := by
  unfold Stands
  simp only [hkey, or_true, reduceCtorEq, or_false]
  cases hrefuses : t.refuses entry.1 with
  | true =>
    rw [inheritKey_of_refuses hrefuses]
    rw [hkey] at hrefuses
    refine h.refuse ?_
    simpa [refuses, has_iff, Option.ne_none_iff_exists'] using hrefuses
  | false =>
    obtain ⟨hsupp, hhas, -⟩ := refuses_eq_false_iff.mp hrefuses
    obtain ⟨source, hsource, heq⟩ := exists_inheritKey_eq_set ho hrefuses
    rw [hkey, has_eq_false_iff] at hsupp hhas
    unfold Stands at h
    rw [hsupp, hhas] at h
    rw [heq, hkey, get?_set_self, get?_set_of_ne (by simp) (by simp), hsupp]
    exact h.inherit hsource

theorem inheritKey_suppression (ho : origin ≠ "") (ht : t.Regular) (h : t.Stands x S D A)
    (hkey : entry.1 = .suppression (.rule x)) :
    (inheritKey origin t entry).Stands x S D fun y => A y ∨ y = entry.1 := by
  unfold Stands
  simp only [hkey, or_true, reduceCtorEq, or_false]
  cases hrefuses : t.refuses entry.1 with
  | true =>
    rw [inheritKey_of_refuses hrefuses]
    rw [hkey] at hrefuses
    refine h.refuseSuppression ?_
    have hdouble : t.has (.suppression (.suppression (.rule x))) = false :=
      ht.has_suppression (by simp)
    simpa [refuses, hdouble, has_iff, Option.ne_none_iff_exists'] using hrefuses
  | false =>
    obtain ⟨-, hhas, hkeep⟩ := refuses_eq_false_iff.mp hrefuses
    obtain ⟨source, hsource, heq⟩ := exists_inheritKey_eq_set ho hrefuses
    rw [hkey, has_eq_false_iff] at hhas
    unfold Stands at h
    rw [hhas] at h
    have hremoved : (t.set (.suppression (.rule x)) source).get? (.rule x) = none := by
      rw [get?_set]
      simp
    rw [heq, hkey, get?_set_self, hremoved]
    exact h.inheritSuppression (hkeep (.rule x) hkey) hsource

theorem inheritKey_standing (ho : origin ≠ "") (ht : t.Regular) (hk : entry.1.IsRegular)
    (h : t.Stands x S D A) :
    (inheritKey origin t entry).Stands x S D fun y => A y ∨ y = entry.1 := by
  by_cases hrule : entry.1 = .rule x
  · exact inheritKey_rule ho h hrule
  by_cases hsupp : entry.1 = .suppression (.rule x)
  · exact inheritKey_suppression ho ht h hsupp
  -- Any other key leaves both alone.
  unfold Stands
  rw [get?_inheritKey_of_ne (Ne.symm hrule) hsupp,
    get?_inheritKey_of_ne (Ne.symm hsupp) (hk.ne_suppression (by simp))]
  exact h.congr Iff.rfl Iff.rfl (or_iff_left (Ne.symm hsupp)) (or_iff_left (Ne.symm hrule))

theorem inheritKeys_standing (ho : origin ≠ "") (ht : t.Regular) (hu : u.Regular)
    (h : t.Stands x S D A) :
    (t.inheritKeys u origin).Stands x S D fun y => A y ∨ u.has y = true := by
  refine (inheritKeys_induction u origin (fun A t => t.Regular ∧ t.Stands x S D A) ?_ A ⟨ht, h⟩).2
  rintro A t entry hentry ⟨ht, h⟩
  exact ⟨ht.inheritKey (hu _ hentry), inheritKey_standing ho ht (hu _ hentry) h⟩

theorem referTo_standing {id : String} (hS : id = x → ¬ S) (h : t.Stands x S D A) :
    (t.referTo id).Stands x S (D ∨ id = x) A := by
  unfold Stands
  by_cases hid : id = x
  · have hrule : (t.referTo id).get? (.rule x) = some "" := by simp [get?_referTo, hid]
    have hsupp : (t.referTo id).get? (.suppression (.rule x)) = none := by simp [get?_referTo, hid]
    rw [hrule, hsupp]
    exact .refer (hS hid) (.inr hid)
  · have hrule : (t.referTo id).get? (.rule x) = t.get? (.rule x) := by
      simp [get?_referTo, Ne.symm hid]
    have hsupp :
        (t.referTo id).get? (.suppression (.rule x)) = t.get? (.suppression (.rule x)) := by
      simp [get?_referTo, Ne.symm hid]
    rw [hrule, hsupp]
    exact h.congr Iff.rfl (or_iff_left hid) Iff.rfl Iff.rfl

end RuleTable

namespace FormatRegistry

variable {r : FormatRegistry} {R : Format → RuleTable → Prop} {tables : Format → RuleTable}
  {f : Format} {t t' : RuleTable} {done specs : List RuleSpec} {spec : RuleSpec} {x : String}

/-- The standing of a rule once some rules of a format are worked off. -/
abbrev StandingAfter (r : FormatRegistry) (tables : Format → RuleTable) (x : String)
    (specs : List RuleSpec) (t : RuleTable) : Prop :=
  t.Stands x (.suppress x ∈ specs) (r.Refers specs x) (r.Brings tables specs)

/-- A rule that neither suppresses `x` nor refers to a format leaves the standing of `x` alone. -/
theorem StandingAfter.of_own (h : r.StandingAfter tables x done t) (hs : spec ≠ .suppress x)
    (hown : ∀ id, spec ≠ .rule id) (hrule : t'.get? (.rule x) = t.get? (.rule x))
    (hsupp : t'.get? (.suppression (.rule x)) = t.get? (.suppression (.rule x))) :
    r.StandingAfter tables x (done ++ [spec]) t' := by
  unfold StandingAfter RuleTable.Stands
  rw [hrule, hsupp]
  refine h.congr ?_ (refers_snoc_of_own hown) (brings_snoc_of_own hown) (brings_snoc_of_own hown)
  rw [List.mem_append, List.mem_singleton]
  exact or_iff_left (Ne.symm hs)

/-- Whether a rule is suppressed and referred to, after one more reference. -/
theorem mem_snoc_rule {id : String} :
    (.suppress x ∈ done ++ [.rule id] ↔ .suppress x ∈ done)
      ∧ (r.Refers (done ++ [.rule id]) x ↔ r.Refers done x ∨ (r.getFormat id).id = x) := by
  constructor
  · simp
  · simp [refers_snoc]

theorem Step.standing (hr : r.WellFormed) (hR : TabulatedBy R tables)
    (ht : t.Regular) (h : r.StandingAfter tables x done t) (hs : Step r R f done t spec t') :
    r.StandingAfter tables x (done ++ [spec]) t' := by
  cases hs with
  | teamBan c => exact h.of_own (by simp) (by simp) rfl rfl
  | complexBan c => exact h.of_own (by simp) (by simp) rfl rfl
  | ban target =>
    exact h.of_own (by simp) (by simp) (RuleTable.get?_set_of_ne (by simp) (by simp))
      (RuleTable.get?_set_of_ne (by simp) (by simp))
  | unban target =>
    refine h.of_own (by simp) (by simp) ?_ ?_
    · rw [RuleTable.get?_set_of_ne (by simp) (by simp), RuleTable.get?_erase_of_ne (by simp)]
    · rw [RuleTable.get?_set_of_ne (by simp) (by simp), RuleTable.get?_erase_of_ne (by simp)]
  | suppress id =>
    by_cases hid : id = x
    · subst hid
      have hrule : (t.set (.suppression (.rule id)) "").get? (.rule id) = none := by
        rw [RuleTable.get?_set]
        simp
      unfold StandingAfter RuleTable.Stands
      rw [hrule, RuleTable.get?_set_self]
      exact .suppress (by simp)
    · exact h.of_own (by simpa using hid) (by simp)
        (RuleTable.get?_set_of_ne (by simp) (by simpa using hid))
        (RuleTable.get?_set_of_ne (by simpa using Ne.symm hid) (by simp))
  | passed id hpass =>
    obtain ⟨hS, hD⟩ := @mem_snoc_rule r done x id
    have hnone := contribution?_of_passed hpass
    by_cases hid : (r.getFormat id).id = x
    · rw [hid] at hpass
      exact (h.pass hpass).congr hS hD (brings_snoc_of_none hnone) (brings_snoc_of_none hnone)
    · exact h.congr hS (hD.trans (or_iff_left hid)) (brings_snoc_of_none hnone)
        (brings_snoc_of_none hnone)
  | missing id hpass hk =>
    obtain ⟨hS, hD⟩ := @mem_snoc_rule r done x id
    have hnone : r.contribution? done (.rule id) = none := contribution?_of_missing hk
    have hpass' : (r.getFormat id).id = x → .suppress x ∉ done := fun hid => hid ▸ hpass
    exact (RuleTable.referTo_standing hpass' h).congr hS hD (brings_snoc_of_none hnone)
      (brings_snoc_of_none hnone)
  | @included id u _ hpass hk hu ht' =>
    obtain ⟨hS, hD⟩ := @mem_snoc_rule r done x id
    obtain ⟨rfl, hreg⟩ := hR _ _ hu
    have hincl := contribution?_of_included hpass hk
    have hrules := (RuleTable.inheritFrom_ok ht').1
    have hpass' : (r.getFormat id).id = x → .suppress x ∉ done := fun hid => hid ▸ hpass
    have hrefer := RuleTable.referTo_standing hpass' h
    have hall := RuleTable.inheritKeys_standing ((offers_getFormat hr id).name_ne hr hk) ht.referTo
      hreg hrefer
    unfold StandingAfter RuleTable.Stands
    rw [RuleTable.get?_of_rules_eq hrules, RuleTable.get?_of_rules_eq hrules]
    exact hall.congr hS hD (brings_snoc_of_inclusion hincl) (brings_snoc_of_inclusion hincl)

theorem Steps.standing (hr : r.WellFormed) (hR : TabulatedBy R tables)
    (h : Steps r R f specs t) (x : String) : r.StandingAfter tables x specs t := by
  induction h with
  | start =>
    have hrefers : ¬ r.Refers [] x := fun ⟨id, hid, _⟩ => by cases hid
    have hbrings : ∀ key, ¬ r.Brings tables [] key := fun key ⟨sub, hsub, _⟩ => by cases hsub
    exact ⟨.inl rfl, by simp, by simp [hrefers], fun _ _ => by simp [hbrings],
      fun _ _ => by simp [hbrings]⟩
  | snoc h hs ih => exact hs.standing hr hR (h.regular fun sub u hu => (hR sub u hu).2) ih

/-- **What decides whether a rule is in effect.**  A table never has a rule and its suppression.  A
suppression of its own comes first, wherever it stands; then a reference of its own; then an
inherited suppression; and only then is a rule inherited. -/
theorem rule_standing {config : Config} {dexes : DexCollection} {aliases : Json}
    {entries : List FormatEntry} (hbuild : build config dexes aliases entries = .ok r)
    (h : r.ResolvesTo f t) : ∃ tables, r.Tables f tables ∧ ∀ x : String,
      ¬ (t.has (.rule x) = true ∧ t.has (.suppression (.rule x)) = true)
      ∧ (.suppress x ∈ r.ownRules f →
          t.get? (.suppression (.rule x)) = some "" ∧ t.has (.rule x) = false)
      ∧ (.suppress x ∉ r.ownRules f → r.Refers (r.ownRules f) x →
          t.get? (.rule x) = some "" ∧ t.has (.suppression (.rule x)) = false)
      ∧ (.suppress x ∉ r.ownRules f → ¬ r.Refers (r.ownRules f) x →
          (∃ sub, r.Includes f sub ∧ (tables sub).has (.suppression (.rule x)) = true) →
          (∃ source, source ≠ "" ∧ t.get? (.suppression (.rule x)) = some source)
            ∧ t.has (.rule x) = false)
      ∧ (.suppress x ∉ r.ownRules f → ¬ r.Refers (r.ownRules f) x →
          ¬ (∃ sub, r.Includes f sub ∧ (tables sub).has (.suppression (.rule x)) = true) →
          (t.has (.rule x) = true ↔ ∃ sub, r.Includes f sub ∧ (tables sub).has (.rule x) = true)
            ∧ t.has (.suppression (.rule x)) = false) := by
  have hr := wellFormed_of_build hbuild
  obtain ⟨tables, htables, hsteps⟩ := h.exists_tables hr
  refine ⟨tables, htables, fun x => ?_⟩
  have hx := hsteps.standing hr (fun _ _ hu => hu) x
  have hexcl := hx.exclusive
  simp only [← RuleTable.has_eq_false_iff] at hexcl
  refine ⟨fun ⟨hrule, hsupp⟩ => ?_, fun hS => ?_, fun hS hD => ?_, fun hS hD hB => ?_,
    fun hS hD hB => ?_⟩
  · rcases hexcl with hnot | hnot
    · rw [hrule] at hnot
      cases hnot
    · rw [hsupp] at hnot
      cases hnot
  · have hsupp := hx.suppressed.mpr hS
    refine ⟨hsupp, hexcl.resolve_right ?_⟩
    simp [RuleTable.has_of_get? hsupp]
  · have hrule := hx.declared.mpr ⟨hD, hS⟩
    refine ⟨hrule, hexcl.resolve_left ?_⟩
    simp [RuleTable.has_of_get? hrule]
  · obtain ⟨source, hsource⟩ := Option.ne_none_iff_exists'.mp ((hx.barred hS hD).mpr hB)
    refine ⟨⟨source, ?_, hsource⟩, hexcl.resolve_right ?_⟩
    · rintro rfl
      exact hS (hx.suppressed.mp hsource)
    · simp [RuleTable.has_of_get? hsource]
  · constructor
    · rw [RuleTable.has_iff, ← Option.ne_none_iff_exists', hx.present hS hD]
      exact and_iff_left hB
    · rw [RuleTable.has_eq_false_iff]
      exact not_not.mp fun hsupp => hB ((hx.barred hS hD).mp hsupp)

/-- A format that suppresses a clause before it includes a format with that clause. -/
theorem rule_standing_child :
    ∃ t, Sample.registry.ResolvesTo (Sample.registry.getFormat "child") t
      ∧ t.get? (.suppression (.rule "speciesclause")) = some ""
      ∧ t.has (.rule "speciesclause") = false
      ∧ t.get? (.rule "base") = some "" := by
  obtain ⟨t, -, ht⟩ := @Sample.exists_resolvesTo "child" (by decide +kernel)
  obtain ⟨tables, -, hlaw⟩ := rule_standing Sample.build_eq ht
  have hclause : .suppress "speciesclause"
      ∈ Sample.registry.ownRules (Sample.registry.getFormat "child") := by decide +kernel
  have hkept : .suppress "base"
      ∉ Sample.registry.ownRules (Sample.registry.getFormat "child") := by decide +kernel
  have hbase : .rule "base" ∈ Sample.registry.ownRules (Sample.registry.getFormat "child")
      ∧ (Sample.registry.getFormat "base").id = "base" := by decide +kernel
  obtain ⟨-, hsuppressed, -⟩ := hlaw "speciesclause"
  obtain ⟨-, -, hreferred, -⟩ := hlaw "base"
  exact ⟨t, ht, (hsuppressed hclause).1, (hsuppressed hclause).2,
    (hreferred hkept ⟨"base", hbase⟩).1⟩

end FormatRegistry

end TeamLegality
