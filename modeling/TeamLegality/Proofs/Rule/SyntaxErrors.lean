import TeamLegality.Proofs.Rule.Reading

/-!
# Syntax errors — how reading a rule text fails

A rule text is read, or its wording is at fault: it confuses, it names nothing or several things, or
it stands where bans are not supported.  There is one way around this: a ban may end in digits of
which no number can be made (`IsUnreadable`), and then it is the conversion of the number that fails
(`parse_eq_error`, `parse_of_isUnreadable`).
-/

namespace TeamLegality

/-- The failure lies in the wording of a rule. -/
def Failure.IsSyntax (e : Failure) : Prop :=
  ∃ cause : ConfigurationCause, cause.isRuleSyntax = true ∧ ∃ format, e = .configuration cause format

namespace BanTarget

theorem isRuleSyntax_of_resolve {dex : Dex} {s : String} {cause : ConfigurationCause}
    (h : resolve dex s = .error cause) : cause.isRuleSyntax = true := by
  unfold resolve at h
  dsimp only at h
  split_ifs at h
  split at h <;> cases h <;> rfl

end BanTarget

namespace RuleSpec

variable {registry : FormatRegistry} {declaring : Option Format} {dex : Dex} {sign : Sign}
  {rule text : String} {body : List Char} {e : Failure}

/-- The text is a ban, in a format where bans are supported, with a limit that no number can be made
of. -/
def IsUnreadable (declaring : Option Format) (text : String) : Prop :=
  declaring.filter Format.generatesTeams = none ∧
    ∃ body digits, (Text.strip text).toList = '-' :: body ∧ HasUnreadableLimit body digits

theorem HasUnreadableLimit.mark_mem {digits : List Char} (h : HasUnreadableLimit body digits) :
    '>' ∈ body := by
  obtain ⟨before, after, hcut, -⟩ := h.last
  rw [Text.append_of_cutLast? hcut]
  simp

/-! ### Reading fails over the wording, or over the number of a limit -/

theorem parseCombination_eq_error (h : parseCombination dex rule sign body = .error e) :
    e.IsSyntax ∨ splitLimit sign body = .error e := by
  rw [parseCombination_eq] at h
  cases hlimit : splitLimit sign body with
  | error e' =>
    rw [hlimit] at h
    cases h
    exact .inr rfl
  | ok parts =>
    obtain ⟨cs, limit⟩ := parts
    rw [hlimit] at h
    simp only [Except.bind] at h
    split at h
    · next hnames =>
      cases h
      obtain ⟨name, -, hname⟩ := exists_of_mapM_error hnames
      obtain ⟨cause, hcause, rfl⟩ := mapError_eq_error_iff.mp hname
      exact .inl ⟨cause, BanTarget.isRuleSyntax_of_resolve hcause, none, rfl⟩
    · split_ifs at h
      cases h
      exact .inl ⟨.confusingRule rule, rfl, none, rfl⟩

theorem parseBan_eq_error (h : parseBan dex declaring rule sign body = .error e) :
    e.IsSyntax ∨ declaring.filter Format.generatesTeams = none ∧ splitLimit sign body = .error e := by
  unfold parseBan at h
  split at h
  · next f hf =>
    cases h
    exact .inl ⟨.generatedTeam f.name, rfl, some f.name, rfl⟩
  · next hteams =>
    split_ifs at h
    · exact (parseCombination_eq_error h).imp_right fun hlimit => ⟨hteams, hlimit⟩
    · split at h
      · cases h
      · cases h
      · next sign' cause hcause =>
        cases h
        exact .inl ⟨cause, BanTarget.isRuleSyntax_of_resolve hcause, none, rfl⟩

/-- **What is at fault** with a rule text that cannot be read. -/
theorem parse_eq_error (h : parse registry declaring text = .error e) :
    e.IsSyntax ∨ e = .unreadableNumber ∧ IsUnreadable declaring text := by
  rw [parse_eq] at h
  split at h
  · next sign body hsigned =>
    refine (parseBan_eq_error h).imp_right ?_
    rintro ⟨hteams, hlimit⟩
    obtain ⟨rfl, he, digits, hdigits⟩ := splitLimit_eq_error_iff.mp hlimit
    exact ⟨he, hteams, body, digits, signedBody?_eq_ban hsigned, hdigits⟩
  · unfold parseReference at h
    dsimp only at h
    split_ifs at h
    cases h
    exact .inl ⟨.unknownRule _, rfl, none, rfl⟩

/-- A limit that no number can be made of is always at fault. -/
theorem parse_of_isUnreadable (registry : FormatRegistry) (h : IsUnreadable declaring text) :
    parse registry declaring text = .error .unreadableNumber := by
  obtain ⟨hteams, body, digits, htext, hdigits⟩ := h
  have hlimit : splitLimit .ban body = .error .unreadableNumber :=
    splitLimit_eq_error_iff.mpr ⟨rfl, rfl, digits, hdigits⟩
  rw [parse_eq, htext]
  show parseBan _ _ _ .ban body = _
  rw [parseBan_eq hteams (.inl hdigits.mark_mem), parseCombination_eq, hlimit]
  rfl

theorem parse_of_not_isUnreadable (registry : FormatRegistry) (h : ¬ IsUnreadable declaring text) :
    (∃ spec, parse registry declaring text = .ok spec)
      ∨ ∃ e : Failure, e.IsSyntax ∧ parse registry declaring text = .error e := by
  cases hparse : parse registry declaring text with
  | ok spec => exact .inl ⟨spec, rfl⟩
  | error e =>
    have hsyntax := (parse_eq_error hparse).resolve_right fun hunreadable => h hunreadable.2
    exact .inr ⟨e, hsyntax, rfl⟩

end RuleSpec

end TeamLegality
