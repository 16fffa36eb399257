import TeamLegality.Proofs.Format.Requests
import TeamLegality.Rule.Spec

/-!
# Relisting — a format with other ban lists, and its registry

Only the rules of a format depend on its ban lists: its key, its dex and what its rule texts say do
not.  A registry in which one format is relisted gives out the same formats as before, but for that
one (`getFormat_relist`), and reads all rule texts as before (`parse_relist`).
-/

namespace TeamLegality

/-! ### Rule texts with a sign -/

namespace Text

/-- A text without its blanks at the end. -/
def trimEnd (cs : List Char) : List Char := (cs.reverse.dropWhile isBlank).reverse

/-- What is not blank keeps the blanks after it from being outer blanks in front. -/
theorem trim_cons {c : Char} (hc : isBlank c = false) (cs : List Char) :
    trim (c :: cs) = c :: trimEnd cs := by
  have hfront : (c :: cs).dropWhile isBlank = c :: cs := by simp [hc]
  unfold trim trimBy trimEnd
  rw [hfront, List.reverse_cons, List.dropWhile_append]
  split_ifs with hend
  · rw [List.isEmpty_iff] at hend
    simp [hend, hc]
  · simp

end Text

namespace RuleSpec

/-- Whether a rule text bans or unbans something. -/
def IsSigned : RuleSpec → Prop
  | rule _ | suppress _ => False
  | ban _ | unban _ | complexBan _ | teamBan _ => True

/-- The mark in front of what is banned or unbanned. -/
def Sign.mark : Sign → String
  | ban => "-"
  | unban => "+"

variable {registry : FormatRegistry} {declaring : Option Format} {spec : RuleSpec} {sign : Sign}
  {text : String} {target : Target}

theorem parse_mark (registry : FormatRegistry) (declaring : Option Format) (sign : Sign)
    (text : String) : parse registry declaring (sign.mark ++ text)
      = parseBan (dexOf registry declaring) declaring (Text.strip (sign.mark ++ text)) sign
        (Text.trimEnd text.toList) := by
  cases sign with
  | ban =>
    have htrim : (Text.strip (Sign.ban.mark ++ text)).toList = '-' :: Text.trimEnd text.toList := by
      rw [Text.toList_strip, String.toList_append]
      exact Text.trim_cons (by decide) _
    unfold parse
    simp only [htrim]
  | unban =>
    have htrim : (Text.strip (Sign.unban.mark ++ text)).toList
        = '+' :: Text.trimEnd text.toList := by
      rw [Text.toList_strip, String.toList_append]
      exact Text.trim_cons (by decide) _
    unfold parse
    simp only [htrim]

theorem isSigned_of_parseCombination {dex : Dex} {rule : String} {body : List Char}
    (h : parseCombination dex rule sign body = .ok spec) : spec.IsSigned := by
  unfold parseCombination at h
  simp only [bind, Except.bind] at h
  split at h
  · cases h
  · split at h
    · cases h
    · split_ifs at h <;> cases h <;> trivial

theorem isSigned_of_parseBan {dex : Dex} {rule : String} {body : List Char}
    (h : parseBan dex declaring rule sign body = .ok spec) : spec.IsSigned := by
  unfold parseBan at h
  split at h
  · cases h
  · split_ifs at h
    · exact isSigned_of_parseCombination h
    · split at h <;> cases h <;> trivial

/-- What has a mark in front is a ban or an unban. -/
theorem isSigned_of_parse (h : parse registry declaring (sign.mark ++ text) = .ok spec) :
    spec.IsSigned := by
  rw [parse_mark] at h
  exact isSigned_of_parseBan h

/-- A combination is not the ban of a single target. -/
theorem parseCombination_ne_ban {dex : Dex} {rule : String} {body : List Char} :
    parseCombination dex rule sign body ≠ .ok (.ban target) := by
  intro h
  unfold parseCombination at h
  simp only [bind, Except.bind] at h
  split at h
  · cases h
  · split at h
    · cases h
    · split_ifs at h <;> cases h

/-- What can be banned can be unbanned. -/
theorem parse_unban_of_ban
    (h : parse registry declaring (Sign.ban.mark ++ text) = .ok (.ban target)) :
    parse registry declaring (Sign.unban.mark ++ text) = .ok (.unban target) := by
  rw [parse_mark] at h ⊢
  unfold parseBan at h ⊢
  split at h
  · cases h
  · split_ifs at h ⊢ with hbody
    · exact absurd h parseCombination_ne_ban
    · cases hres : BanTarget.resolve (dexOf registry declaring)
        (String.ofList (Text.trimEnd text.toList)) with
      | error cause =>
        rw [hres] at h
        cases h
      | ok target' =>
        rw [hres] at h
        cases h
        rfl

/-- A rule text says the same in two registries with the same identifiers, for two formats with the
same dex and the same kind of teams. -/
theorem parse_congr {registry' : FormatRegistry} {f g : Format} (hknown : g.isKnown = f.isKnown)
    (hname : g.name = f.name) (hteam : g.generatesTeams = f.generatesTeams)
    (hdex : registry'.dexFor g = registry.dexFor f)
    (hdefault : registry'.defaultDex = registry.defaultDex)
    (hformats : ∀ id, registry'.hasFormat id = registry.hasFormat id) (text : String) :
    parse registry' (some g) text = parse registry (some f) text := by
  have hdexOf : dexOf registry' (some g) = dexOf registry (some f) := by
    unfold dexOf
    rw [Option.filter_some, Option.filter_some, hknown]
    cases f.isKnown
    · exact hdefault
    · exact hdex
  have hban : ∀ dex rule sign body,
      parseBan dex (some g) rule sign body = parseBan dex (some f) rule sign body := by
    intro dex rule sign body
    unfold parseBan
    rw [Option.filter_some, Option.filter_some, hteam]
    cases f.generatesTeams
    · rfl
    · simp [hname]
  have href : ∀ rule, parseReference registry' rule = parseReference registry rule := by
    intro rule
    unfold parseReference
    simp only [hformats]
  unfold parse
  simp only [hdexOf, hban, href]

/-- A reference is by an identifier. -/
theorem atSign_notMem_of_parse {id : String} (h : parse registry declaring text = .ok (.rule id)) :
    '@' ∉ id.toList := by
  have hban : ∀ {dex rule sign body}, parseBan dex declaring rule sign body ≠ .ok (.rule id) := by
    intro dex rule sign body h
    have hsigned := isSigned_of_parseBan h
    exact hsigned
  unfold parse at h
  dsimp only at h
  split at h
  · exact absurd h hban
  · exact absurd h hban
  · unfold parseReference at h
    dsimp only at h
    split_ifs at h
    · cases h
    · rw [← RuleSpec.rule.inj (Except.ok.inj h)]
      exact Text.atSign_notMem_toId _

end RuleSpec

/-! ### Relisted formats -/

/-- The same format with other ban lists. -/
def Format.relist (f : Format) (bans unbans : List String) : Format :=
  { f with banlist := bans, unbanlist := unbans }

namespace FormatRegistry

/-- The same registry with other ban lists for a format. -/
def relist (r : FormatRegistry) (f : Format) (bans unbans : List String) : FormatRegistry :=
  { r with formats := r.formats.insert f.id (f.relist bans unbans) }

variable {r : FormatRegistry} {f : Format} {bans unbans : List String} {id name : String}

theorem get?_formats_relist : (r.relist f bans unbans).formats.get? id =
    if id = f.id then some (f.relist bans unbans) else r.formats.get? id :=
  Assoc.get?_insert r.formats f.id id _

theorem relist_wellFormed (hr : r.WellFormed) (hf : r.formats.get? f.id = some f) :
    (r.relist f bans unbans).WellFormed := by
  intro id g hg
  rw [get?_formats_relist] at hg
  split_ifs at hg with hid
  · cases hg
    rw [hid]
    have h := hr f.id f hf
    exact ⟨h.known, h.bare, h.id_eq, h.toId_name, h.id_ne⟩
  · exact hr id g hg

/-- A format as the registry with `f` relisted gives it out. -/
def relisted (f : Format) (bans unbans : List String) (g : Format) : Format :=
  if g = f then f.relist bans unbans else g

theorem get?_formats_relist_eq_map (hr : r.WellFormed) (hf : r.formats.get? f.id = some f) :
    (r.relist f bans unbans).formats.get? id
      = (r.formats.get? id).map (relisted f bans unbans) := by
  rw [get?_formats_relist]
  split_ifs with hid
  · rw [hid, hf, Option.map_some, relisted, if_pos rfl]
  · cases hg : r.formats.get? id with
    | none => rfl
    | some g =>
      have hne : g ≠ f := by
        rintro rfl
        exact hid (hr id g hg).id_eq.symm
      rw [Option.map_some, relisted, if_neg hne]

theorem byId?_relist (hr : r.WellFormed) (hf : r.formats.get? f.id = some f) :
    (r.relist f bans unbans).byId? id = (r.byId? id).map (relisted f bans unbans) := by
  unfold byId?
  have hconfig : (r.relist f bans unbans).config = r.config := rfl
  rw [get?_formats_relist_eq_map hr hf, get?_formats_relist_eq_map hr hf, hconfig]
  cases r.formats.get? (r.config.defaultMod ++ id) <;> rfl

theorem splitName_of_notMem (h : '@' ∉ name.toList) :
    splitName name = (Text.strip name, []) :=
  splitName_of_not_infix fun hmark => h (hmark.subset (by decide))

/-- **Relisting a format changes nothing but what its own name finds.** -/
theorem getFormat_relist (hr : r.WellFormed) (hf : r.formats.get? f.id = some f)
    (h : '@' ∉ name.toList) : (r.relist f bans unbans).getFormat name
      = relisted f bans unbans (r.getFormat name) := by
  unfold getFormat
  rw [splitName_of_notMem h]
  have halias : (r.relist f bans unbans).resolveAlias = r.resolveAlias := rfl
  dsimp only
  rw [byId?_relist hr hf, halias]
  cases r.byId? (r.resolveAlias (Text.strip name)).toId with
  | some g => rfl
  | none =>
    have hne : Format.missing (r.resolveAlias (Text.strip name)) ≠ f := by
      intro heq
      have hk := (hr f.id f hf).known
      rw [← heq] at hk
      cases hk
    simp only [Option.map_none, relisted, if_neg hne]

theorem hasFormat_relist (hf : r.formats.get? f.id = some f) :
    (r.relist f bans unbans).hasFormat id = r.hasFormat id := by
  unfold hasFormat Assoc.contains
  rw [get?_formats_relist]
  split_ifs with hid
  · rw [hid, hf]
    rfl
  · rfl

/-- **Rule texts say what they said before**, also those of a relisted format. -/
theorem parse_relist (hf : r.formats.get? f.id = some f) (g : Format) (bans' unbans' : List String)
    (text : String) :
    RuleSpec.parse (r.relist f bans unbans) (some (g.relist bans' unbans')) text
      = RuleSpec.parse r (some g) text := by
  refine RuleSpec.parse_congr ?_ ?_ ?_ ?_ ?_ (fun _ => hasFormat_relist hf) text <;> rfl

end FormatRegistry

end TeamLegality
