import TeamLegality.Proofs.Resolution.Requests

/-!
# Identity — a key stands for one format

Tables are remembered by key, so no key may stand for two formats.  What is resolved is what a name
finds, or what a request derives from that by custom rules (`Derives`).  Identifiers hold no
character of the mark that follows them, custom rules hold no comma, and what does not exist has an
identifier that is not registered.  So the key of a format that exists tells it from all others
(`eq_of_key_eq_of_describes`).
-/

namespace TeamLegality

namespace FormatRegistry

open SessionM

/-- The format that validating a name with custom rules derives in a session, and the session in
which it resolves it: the base resolves, all custom rules can be parsed, and some are new. -/
inductive Derives (r : FormatRegistry) (name : String) (s : Session) : Format → Session → Prop
  | intro {base : String} {rules : List String} {t : RuleTable} {s₁ : Session}
      (hname : splitRequest name = (base, some rules))
      (hknown : (r.getFormat base).isKnown = true)
      (hbase : (r.resolve (r.getFormat base)).run.run s = (.ok t, s₁))
      (hread : ∀ rule ∈ rules, ∃ b, r.isInEffect (r.getFormat base) t rule = .ok b)
      (hnew : r.newRules (r.getFormat base) t rules ≠ []) :
      Derives r name s
        ((r.getFormat base).withCustomRules (r.newRules (r.getFormat base) t rules))
        (s₁.note ((r.sortRules (r.getFormat base) t rules).1.2.map
          (.alreadyInEffect · (r.getFormat base).id)))

/-- The formats that are resolved: those that names find, and those that requests derive from them
in any session. -/
inductive Describes (r : FormatRegistry) : Format → Prop
  | found (name : String) : Describes r (r.getFormat name)
  | derived {name : String} {s s' : Session} {f : Format} (h : r.Derives name s f s') :
      Describes r f

variable {r : FormatRegistry} {f g : Format} {s s' : Session} {name base k : String}
  {rules : List String}

/-- Validating a name goes on by resolving the derived format, whatever comes of it, and gives its
key. -/
theorem Derives.run_validateFormat (h : r.Derives name s f s') :
    (r.validateFormat name).run.run s = (r.resolve f >>= fun _ => pure f.key).run.run s' := by
  obtain ⟨hname, hknown, hbase, hread, hnew⟩ := h
  unfold validateFormat
  rw [hname]
  dsimp only
  rw [hknown]
  show (r.resolve (r.getFormat _) >>= _).run.run s = _
  rw [run_bind, hbase]
  dsimp only
  rw [sortRules_failure.mpr hread, sortRules_kept hread]
  simp only [List.isEmpty_iff, hnew, if_false]
  rfl

/-- A name with custom rules that is validated derives a format with the key that is returned. -/
theorem exists_derives_of_validation (hname : splitRequest name = (base, some rules))
    (h : r.validation name s = .ok k) : ∃ f s', r.Derives name s f s' ∧ f.key = k := by
  obtain ⟨s', hrun⟩ := validation_eq_ok.mp h
  obtain ⟨hknown, t, hcourse, rfl⟩ := (run_validateFormat_some hname).mp hrun
  obtain ⟨s₁, u, hbase, -⟩ := hcourse.runs
  exact ⟨_, _, .intro hname hknown hbase hcourse.readable hcourse.new_ne, rfl⟩

theorem Derives.offers (hr : r.WellFormed) (h : r.Derives name s f s') : r.Offers f := by
  obtain ⟨hname, hknown, -, -, -⟩ := h
  refine (offers_getFormat hr _).withCustomRules hknown fun rule hrule => ?_
  exact (isClean_of_splitRequest hname rule (mem_of_mem_newRules hrule)).comma_notMem

theorem Describes.offers (hr : r.WellFormed) : r.Describes f → r.Offers f
  | .found name => offers_getFormat hr name
  | .derived h => h.offers hr

/-- **A key stands for one format.**  Of the formats that names find and that requests derive from
them, one that exists is equal, in every part, to whatever has its key: another name may find it,
another request may derive it, but no other format and none that does not exist has its key. -/
theorem eq_of_key_eq_of_describes {config : Config} {dexes : DexCollection} {aliases : Json}
    {entries : List FormatEntry} (hbuild : build config dexes aliases entries = .ok r)
    (hf : r.Describes f) (hg : r.Describes g) (hknown : f.isKnown = true) (hkey : f.key = g.key) :
    f = g := by
  have hr := wellFormed_of_build hbuild
  rcases (hf.offers hr).eq_of_key_eq hr (hg.offers hr) hkey with heq | ⟨hmissing, -⟩
  · exact heq
  · rw [hknown] at hmissing
    cases hmissing

/-- A name with blanks finds what a request with a line break and a rule too many derives. -/
theorem eq_of_key_eq_of_describes_base :
    Sample.registry.validation "Base@@@ Species Clause,-Il\nlegal" .fresh = .ok "base@@@-Illegal"
    ∧ ∃ f s', Sample.registry.Derives "Base@@@ Species Clause,-Il\nlegal" .fresh f s'
      ∧ f.key = "base@@@-Illegal" ∧ Sample.registry.getFormat " BASE @@@ -Illegal ," = f := by
  have hval : Sample.registry.validation "Base@@@ Species Clause,-Il\nlegal" .fresh
      = .ok "base@@@-Illegal" := by decide +kernel
  have hname : splitRequest "Base@@@ Species Clause,-Il\nlegal"
      = ("Base", some ["Species Clause", "-Illegal"]) := by decide +kernel
  obtain ⟨f, s', hderives, hkey⟩ := exists_derives_of_validation hname hval
  refine ⟨hval, f, s', hderives, hkey, ?_⟩
  refine eq_of_key_eq_of_describes Sample.build_eq (.found _) (.derived hderives)
    (by decide +kernel) ?_
  rw [hkey]
  decide +kernel

end FormatRegistry

end TeamLegality
