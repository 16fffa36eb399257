import TeamLegality.Proofs.Fallible
import TeamLegality.Proofs.Format.Relisting
import TeamLegality.Proofs.Text.Integers
import TeamLegality.Proofs.Text.Parts

/-!
# Reading — what the parts of a rule text come to

A rule text with a sign is a body behind the sign (`parse_eq`).  The body of a combination is a list
of names and perhaps a limit (`withoutLimit`, `namesIn`), and each name becomes the target in its
place (`parseCombination_eq_ok_iff`).  The only limits that are not read are digits of which no number
can be made (`splitLimit_eq_error_iff`).
-/

namespace TeamLegality

namespace RuleSpec

variable {registry : FormatRegistry} {declaring : Option Format} {dex : Dex} {spec : RuleSpec}
  {sign : Sign} {rule text : String} {body before : List Char} {limit : BanLimit} {e : Failure}

/-! ### Signs -/

/-- The sign of a text and what stands behind it. -/
def signedBody? : List Char → Option (Sign × List Char)
  | '-' :: body => some (.ban, body)
  | '+' :: body => some (.unban, body)
  | _ => none

theorem signedBody?_eq_ban {cs : List Char} (h : signedBody? cs = some (.ban, body)) :
    cs = '-' :: body := by
  unfold signedBody? at h
  split at h <;> cases h
  rfl

theorem parse_eq (registry : FormatRegistry) (declaring : Option Format) (text : String) :
    parse registry declaring text = match signedBody? (Text.strip text).toList with
      | some (sign, body) =>
        parseBan (dexOf registry declaring) declaring (Text.strip text) sign body
      | none => parseReference registry (Text.strip text) := by
  unfold parse
  dsimp only
  generalize (Text.strip text).toList = cs
  split
  · rfl
  · rfl
  · next hban hunban => rw [signedBody?.eq_3 cs hban hunban]

/-! ### Limits -/

/-- The text of a combination without its limit: what stands before the last `>`, if digits follow
it. -/
def withoutLimit (body : List Char) : List Char :=
  match Text.cutLast? ['>'] body with
  | none => body
  | some (before, after) =>
    let digits := Text.trim after
    if digits ≠ [] ∧ digits.all Text.isDigit then before else body

/-- Behind the last `>` of a text stand digits that make no number: one of them is not decimal, or
they are too many. -/
structure HasUnreadableLimit (body digits : List Char) : Prop where
  last : ∃ before after, Text.cutLast? ['>'] body = some (before, after) ∧ Text.trim after = digits
  ne_nil : digits ≠ []
  allDigits : digits.all Text.isDigit = true
  unreadable : (∃ c ∈ digits, Text.isDecimal c = false) ∨ Text.maxDigits < digits.length

/-- The limits that are read after a sign: what is banned has a number that is not too long. -/
def Sign.Limits : Sign → BanLimit → Prop
  | .unban, limit => limit = .allowed
  | .ban, limit => ∃ n : Nat, limit = .forbidden n ∧ n < 10 ^ Text.maxDigits

theorem splitLimit_ok (h : splitLimit sign body = .ok (before, limit)) :
    before = withoutLimit body ∧ sign.Limits limit := by
  have hzero : 0 < 10 ^ Text.maxDigits := Nat.pow_pos (by decide)
  unfold splitLimit at h
  unfold withoutLimit
  rcases hcut : Text.cutLast? ['>'] body with _ | ⟨before', after⟩ <;>
    rw [hcut] at h <;> dsimp only at h ⊢
  · cases sign <;> cases h
    · exact ⟨rfl, 0, rfl, hzero⟩
    · exact ⟨rfl, rfl⟩
  · split_ifs at h ⊢ with hdigits
    · cases sign with
      | unban => cases h; exact ⟨rfl, rfl⟩
      | ban =>
        dsimp only at h
        split at h
        · next n hn =>
          cases h
          obtain ⟨k, rfl, hk⟩ := Text.bounds_of_integer? hdigits.2 hdigits.1 hn
          exact ⟨rfl, k, rfl, hk⟩
        · cases h
    · cases sign <;> cases h
      · exact ⟨rfl, 0, rfl, hzero⟩
      · exact ⟨rfl, rfl⟩

theorem splitLimit_eq_error_iff : splitLimit sign body = .error e ↔
    sign = .ban ∧ e = .unreadableNumber ∧ ∃ digits, HasUnreadableLimit body digits := by
  constructor
  · intro h
    unfold splitLimit at h
    dsimp only at h
    split at h
    · cases h
    · next before after hcut =>
      split_ifs at h with hdigits
      · cases sign with
        | unban => cases h
        | ban =>
          dsimp only at h
          split at h
          · cases h
          · next hnone =>
            cases h
            have hunreadable := (Text.integer?_eq_none_iff hdigits.2 hdigits.1).mp hnone
            exact ⟨rfl, rfl, _, ⟨before, after, hcut, rfl⟩, hdigits.1, hdigits.2, hunreadable⟩
  · rintro ⟨rfl, rfl, digits, ⟨before, after, hcut, rfl⟩, hne, hdigits, hunreadable⟩
    have hnone := (Text.integer?_eq_none_iff hdigits hne).mpr hunreadable
    unfold splitLimit
    simp only [hcut, hnone]
    rw [if_pos ⟨hne, hdigits⟩]

/-! ### Names -/

/-- Whether a text joins names by `++`. -/
def isDoubled (cs : List Char) : Bool := (Text.cutFirst? ['+', '+'] cs).isSome

/-- The names that a text joins. -/
def namesIn (cs : List Char) : List String :=
  (if isDoubled cs then Text.splitAtTwo '+' cs else Text.splitAt '+' cs).map fun part =>
    String.ofList (Text.trim part)

/-- Whether a combination counts across the team: it doubles the `+`, or bounds a single name. -/
def isAcrossTeam (cs : List Char) (limit : BanLimit) : Bool :=
  isDoubled cs || ((namesIn cs).length == 1 && isBounded limit)

/-- Names joined to a rule text. -/
def joined (across : Bool) (names : List String) : String :=
  String.intercalate (if across then " ++ " else " + ") names

/-- The targets that names stand for, in their order. -/
def Names (dex : Dex) (names : List String) (targets : List Target) : Prop :=
  List.Forall₂ (fun name target => BanTarget.resolve dex name = .ok target) names targets

/-- What a text says about targets up to a limit. -/
def combined (cs : List Char) (limit : BanLimit) (targets : List Target) : Combination where
  rule := joined (isAcrossTeam cs limit) (namesIn cs)
  source := ""
  limit := limit
  targets := targets

/-- What a combination of targets is: it counts across the team, or it has two targets or more. -/
def Means (cs : List Char) (limit : BanLimit) (targets : List Target) (spec : RuleSpec) : Prop :=
  if isAcrossTeam cs limit then spec = .teamBan (combined cs limit targets)
  else spec = .complexBan (combined cs limit targets) ∧ 2 ≤ targets.length

variable {cs : List Char} {targets : List Target} {names : List String}

theorem namesIn_ne_nil (cs : List Char) : namesIn cs ≠ [] := by
  unfold namesIn
  rw [Ne, List.map_eq_nil_iff]
  split_ifs
  · exact Text.splitAtTwo_ne_nil _ _
  · exact Text.splitAt_ne_nil _ _

/-- Away from the team, a limit alone does not make a combination: that takes two names. -/
theorem bounded_or_several_iff (hacross : ¬ isAcrossTeam cs limit = true)
    (hnames : Names dex (namesIn cs) targets) :
    1 < targets.length ∨ isBounded limit = true ↔ 2 ≤ targets.length := by
  refine ⟨?_, Or.inl⟩
  rintro (hseveral | hbounded)
  · exact hseveral
  · have hone : (namesIn cs).length ≠ 1 := by
      intro hone
      simp [isAcrossTeam, hone, hbounded] at hacross
    have hpos := List.length_pos_iff.mpr (namesIn_ne_nil cs)
    have hlength := hnames.length_eq
    omega

theorem mapM_resolve_eq_ok_iff :
    (names.mapM fun name => (BanTarget.resolve dex name).mapError Failure.of) = .ok targets
      ↔ Names dex names targets := by
  simp only [mapM_eq_ok_iff, mapError_eq_ok_iff, Names]

theorem parseCombination_eq (dex : Dex) (rule : String) (sign : Sign) (body : List Char) :
    parseCombination dex rule sign body = (splitLimit sign body).bind fun (cs, limit) =>
      ((namesIn cs).mapM fun name => (BanTarget.resolve dex name).mapError .of).bind fun targets =>
        if isAcrossTeam cs limit then .ok (.teamBan (combined cs limit targets))
        else if 1 < targets.length ∨ isBounded limit then
          .ok (.complexBan (combined cs limit targets))
        else .error (.of (.confusingRule rule)) := rfl

theorem parseCombination_eq_ok_iff : parseCombination dex rule sign body = .ok spec ↔
    ∃ limit targets, splitLimit sign body = .ok (withoutLimit body, limit) ∧
      Names dex (namesIn (withoutLimit body)) targets ∧
      Means (withoutLimit body) limit targets spec := by
  rw [parseCombination_eq]
  constructor
  · intro h
    cases hlimit : splitLimit sign body with
    | error e => rw [hlimit] at h; cases h
    | ok parts =>
      obtain ⟨cs, limit⟩ := parts
      obtain ⟨rfl, -⟩ := splitLimit_ok hlimit
      rw [hlimit] at h
      simp only [Except.bind] at h
      split at h
      · cases h
      · next targets hnames =>
        rw [mapM_resolve_eq_ok_iff] at hnames
        refine ⟨limit, targets, rfl, hnames, ?_⟩
        unfold Means
        split_ifs at h ⊢ with hacross hshape
        · cases h; rfl
        · cases h
          exact ⟨rfl, (bounded_or_several_iff hacross hnames).mp hshape⟩
  · rintro ⟨limit, targets, hlimit, hnames, hmeans⟩
    have htargets := mapM_resolve_eq_ok_iff.mpr hnames
    rw [hlimit]
    simp only [Except.bind, htargets]
    unfold Means at hmeans
    split_ifs at hmeans ⊢ with hacross hshape
    · rw [hmeans]
    · rw [hmeans.1]
    · exact absurd ((bounded_or_several_iff hacross hnames).mpr hmeans.2) hshape

/-! ### Combinations -/

theorem parseBan_eq (hteams : declaring.filter Format.generatesTeams = none)
    (hbody : '>' ∈ body ∨ '+' ∈ body) :
    parseBan dex declaring rule sign body = parseCombination dex rule sign body := by
  unfold parseBan
  rw [hteams]
  exact if_pos hbody

/-- A combination comes from a text with a sign that a format without generated teams declares. -/
theorem parseCombination_of_parse (h : parse registry declaring text = .ok spec)
    (hkey : spec.key? = none) : ∃ sign body,
      signedBody? (Text.strip text).toList = some (sign, body) ∧
      declaring.filter Format.generatesTeams = none ∧
      parseCombination (dexOf registry declaring) (Text.strip text) sign body = .ok spec := by
  rw [parse_eq] at h
  split at h
  · next sign body hsigned =>
    refine ⟨sign, body, hsigned, ?_⟩
    unfold parseBan at h
    split at h
    · cases h
    · next hteams =>
      split_ifs at h with hbody
      · exact ⟨hteams, h⟩
      · split at h <;> cases h <;> cases hkey
  · unfold parseReference at h
    dsimp only at h
    split_ifs at h <;> cases h <;> cases hkey

/-- What a combination was read from: a text with a sign, of which the body gives the limit, the
names and with them the targets. -/
structure ReadFrom (dex : Dex) (text : String) (sign : Sign) (body : List Char) (spec : RuleSpec)
    (c : Combination) : Prop where
  signed : signedBody? (Text.strip text).toList = some (sign, body)
  limit : splitLimit sign body = .ok (withoutLimit body, c.limit)
  names : Names dex (namesIn (withoutLimit body)) c.targets
  means : Means (withoutLimit body) c.limit c.targets spec
  combined : c = combined (withoutLimit body) c.limit c.targets

theorem exists_readFrom {c : Combination} (h : parse registry declaring text = .ok spec)
    (hc : spec = .complexBan c ∨ spec = .teamBan c) :
    declaring.filter Format.generatesTeams = none
      ∧ ∃ sign body, ReadFrom (dexOf registry declaring) text sign body spec c := by
  have hkey : spec.key? = none := by rcases hc with rfl | rfl <;> rfl
  obtain ⟨sign, body, hsigned, hteams, hparse⟩ := parseCombination_of_parse h hkey
  obtain ⟨limit, targets, hlimit, hnames, hmeans⟩ := parseCombination_eq_ok_iff.mp hparse
  obtain rfl : c = combined (withoutLimit body) limit targets := by
    unfold Means at hmeans
    split_ifs at hmeans
    · rcases hc with rfl | rfl <;> cases hmeans
      rfl
    · rcases hc with rfl | rfl <;> cases hmeans.1
      rfl
  exact ⟨hteams, sign, body, hsigned, hlimit, hnames, hmeans, rfl⟩

end RuleSpec

end TeamLegality
