import TeamLegality.Proofs.Resolution.Provenance

/-!
# References — the format that an identifier finds

A rule text may name every identifier under which a format is registered.  The format that it then
includes is looked up like any other name: an alias comes first, and an identifier that is
registered after the default mod comes before the identifier itself.  `LeadsTo` says where that
ends.  A registered format is found by its own identifier, and included by references to it, exactly
when nothing leads its identifier elsewhere (`found_by_id_iff`).
-/

namespace TeamLegality

namespace FormatRegistry

variable {r : FormatRegistry} {f g : Format} {id : String}

/-- An identifier leads to another one: what it is an alias of, or else itself, with the default mod
in front if a format is registered so, and else without. -/
def LeadsTo (r : FormatRegistry) (id target : String) : Prop :=
  r.config.defaultMod ++ (r.resolveAlias id).toId = target
    ∨ r.hasFormat (r.config.defaultMod ++ (r.resolveAlias id).toId) = false
      ∧ (r.resolveAlias id).toId = target

instance (r : FormatRegistry) (id target : String) : Decidable (r.LeadsTo id target) :=
  inferInstanceAs (Decidable (_ ∨ _))

/-- A registered format is held under its identifier alone. -/
theorem WellFormed.get?_eq_iff (hr : r.WellFormed) (h : r.formats.get? f.id = some f) :
    r.formats.get? id = some f ↔ id = f.id := by
  refine ⟨fun hid => (hr id f hid).id_eq.symm, ?_⟩
  rintro rfl
  exact h

theorem byId?_eq_some_iff (hr : r.WellFormed) (h : r.formats.get? f.id = some f) :
    r.byId? id = some f ↔ r.config.defaultMod ++ id = f.id
      ∨ r.hasFormat (r.config.defaultMod ++ id) = false ∧ id = f.id := by
  rw [← hr.get?_eq_iff h, ← hr.get?_eq_iff h]
  unfold byId?
  cases hmod : r.formats.get? (r.config.defaultMod ++ id) with
  | some g => simp [hasFormat_of_get? hmod]
  | none => simp [hasFormat, Assoc.contains, hmod]

/-- A text without the mark of custom rules finds what it is an alias of, or itself. -/
theorem getFormat_of_splitName {name stripped : String} (h : splitName name = (stripped, [])) :
    r.getFormat name = (r.byId? (r.resolveAlias stripped).toId).getD
      (.missing (r.resolveAlias stripped)) := by
  unfold getFormat
  rw [h]
  dsimp only
  cases r.byId? (r.resolveAlias stripped).toId <;> rfl

/-- **An identifier finds the format that it leads to.** -/
theorem getFormat_id_eq_iff (hr : r.WellFormed) (hg : g.IsRegisteredAs g.id)
    (h : r.formats.get? f.id = some f) : r.getFormat g.id = f ↔ r.LeadsTo g.id f.id := by
  rw [getFormat_of_splitName (splitName_id hg), LeadsTo, ← byId?_eq_some_iff hr h]
  cases hb : r.byId? (r.resolveAlias g.id).toId with
  | some f' => simp
  | none =>
    refine iff_of_false ?_ nofun
    rintro rfl
    have hk := (hr _ _ h).known
    cases hk

/-- A rule text refers to registered identifiers only. -/
theorem hasFormat_of_parse {rule : String} {declaring : Option Format}
    (h : RuleSpec.parse r declaring rule = .ok (.rule id)) : r.hasFormat id = true := by
  have hban : ∀ {dex rule sign body},
      RuleSpec.parseBan dex declaring rule sign body ≠ .ok (.rule id) := by
    intro dex rule sign body h
    exact RuleSpec.isSigned_of_parseBan h
  unfold RuleSpec.parse at h
  dsimp only at h
  split at h
  · exact absurd h hban
  · exact absurd h hban
  · unfold RuleSpec.parseReference at h
    dsimp only at h
    split_ifs at h with hreg
    · cases h
    · rw [← RuleSpec.rule.inj (Except.ok.inj h)]
      exact hreg

/-- A reference includes a registered format when its identifier leads there and no rule before it
suppresses that format. -/
theorem contribution?_eq_inclusion_iff (hr : r.WellFormed) (hg : g.IsRegisteredAs g.id)
    (h : r.formats.get? f.id = some f) (done : List RuleSpec) :
    r.contribution? done (.rule g.id) = some (.inclusion f)
      ↔ r.LeadsTo g.id f.id ∧ .suppress f.id ∉ done := by
  rw [← getFormat_id_eq_iff hr hg h]
  have hk : f.isKnown = true := (hr _ _ h).known
  constructor
  · intro hc
    simp only [contribution?, Option.ite_none_right_eq_some, Option.some.injEq,
      Entry.inclusion.injEq] at hc
    obtain ⟨⟨hs, -⟩, rfl⟩ := hc
    exact ⟨rfl, hs⟩
  · rintro ⟨rfl, hs⟩
    exact contribution?_of_included hs hk

/-- **Where a format is found by its own identifier.**  A registered format is found by its
identifier exactly when that leads to itself: neither its alias nor the default mod in front of it
leads elsewhere.  A reference that can be parsed names the identifier of a registered format; it
includes this very format exactly when the identifier leads to itself and no rule before it
suppresses the format. -/
theorem found_by_id_iff {config : Config} {dexes : DexCollection} {aliases : Json}
    {entries : List FormatEntry} (hbuild : build config dexes aliases entries = .ok r) :
    (∀ f, r.formats.get? f.id = some f → (r.getFormat f.id = f ↔ r.LeadsTo f.id f.id))
    ∧ ∀ declaring rule id, RuleSpec.parse r declaring rule = .ok (.rule id) →
      ∃ f, r.formats.get? id = some f ∧ f.id = id
        ∧ ∀ done, r.contribution? done (.rule id) = some (.inclusion f)
          ↔ r.LeadsTo id id ∧ .suppress id ∉ done := by
  have hr := wellFormed_of_build hbuild
  refine ⟨fun f hf => getFormat_id_eq_iff hr (hr _ _ hf) hf, fun declaring rule id hparse => ?_⟩
  obtain ⟨f, hf⟩ := Option.isSome_iff_exists.mp (hasFormat_of_parse hparse)
  obtain rfl := (hr _ _ hf).id_eq
  exact ⟨f, hf, rfl, contribution?_eq_inclusion_iff hr (hr _ _ hf) hf⟩

/-- An identifier that is no alias and that no other one extends. -/
theorem found_by_id_iff_mid : ∃ f, Layered.registry.formats.get? "mid" = some f
    ∧ Layered.registry.getFormat "mid" = f
    ∧ Layered.registry.contribution? [.suppress "clause"] (.rule "mid") = some (.inclusion f) := by
  have hparse : RuleSpec.parse Layered.registry none "Mid" = .ok (.rule "mid") := by
    decide +kernel
  have hleads : Layered.registry.LeadsTo "mid" "mid" := by decide +kernel
  obtain ⟨hfound, hreference⟩ := found_by_id_iff Layered.build_eq
  obtain ⟨f, hf, hid, hincl⟩ := hreference none "Mid" "mid" hparse
  have hown := hfound f (by rw [hid, hf])
  rw [hid] at hown
  exact ⟨f, hf, hown.mpr hleads, (hincl _).mpr ⟨hleads, by decide⟩⟩

/-- Two registered formats that are not found by their own identifiers: the one stands back behind
the format with the default mod in front, the other behind an alias.  A reference to the first can
be parsed, and includes the other format. -/
theorem misled_references :
    (∃ f, Layered.registry.formats.get? "ou" = some f ∧ f.id = "ou"
      ∧ Layered.registry.getFormat f.id ≠ f)
    ∧ (∃ f, Layered.registry.formats.get? "solo" = some f ∧ f.id = "solo"
      ∧ Layered.registry.getFormat f.id ≠ f)
    ∧ RuleSpec.parse Layered.registry none "OU" = .ok (.rule "ou")
    ∧ ∃ sub, Layered.registry.contribution? [] (.rule "ou") = some (.inclusion sub)
      ∧ sub.id = "gen7ou" := by
  have hou : (Layered.registry.formats.get? "ou").map
      (fun f => (f.id, decide (Layered.registry.getFormat f.id = f))) = some ("ou", false) := by
    decide +kernel
  have hsolo : (Layered.registry.formats.get? "solo").map
      (fun f => (f.id, decide (Layered.registry.getFormat f.id = f))) = some ("solo", false) := by
    decide +kernel
  have hsub : Layered.registry.contribution? [] (.rule "ou")
      = some (.inclusion (Layered.registry.getFormat "gen7ou")) := by decide +kernel
  refine ⟨?_, ?_, by decide +kernel, _, hsub, by decide +kernel⟩
  · simpa using hou
  · simpa using hsolo

end FormatRegistry

end TeamLegality
