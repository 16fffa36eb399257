import TeamLegality.Proofs.Format.Relisting
import TeamLegality.Proofs.Resolution.Requests

/-!
# Derived formats — what a format with custom rules says

Custom rules are read as rules of the format that they are added to.  Those that suppress something
come before the rules of the format and the others after them (`ownRules_withCustomRules`).  So a
derived format contributes what its base does, but for the formats that custom rules suppress, and
then what the custom rules contribute (`entriesAfter_derivedRules`).
-/

namespace TeamLegality

namespace RuleSpec

/-- Whether a rule text suppresses something. -/
def isSuppression : RuleSpec → Bool
  | suppress _ => true
  | _ => false

variable {registry : FormatRegistry} {declaring : Option Format} {spec : RuleSpec} {text : String}

/-- A text that says something suppresses exactly if it starts with the mark for it. -/
theorem isSuppression_of_parse (hclean : Text.HasNoOuterBlank text.toList)
    (h : parse registry declaring text = .ok spec) :
    spec.isSuppression = (text.toList.head? == some '!') := by
  have hban : ∀ {dex rule sign body}, parseBan dex declaring rule sign body = .ok spec →
      spec.isSuppression = false := by
    intro dex rule sign body h
    have hsigned := isSigned_of_parseBan h
    cases spec with
    | rule id => exact hsigned.elim
    | suppress id => exact hsigned.elim
    | _ => rfl
  have hstrip : Text.strip text = text := by
    rw [← String.toList_inj, Text.toList_strip, hclean.trim_eq]
  unfold parse at h
  rw [hstrip] at h
  dsimp only at h
  split at h
  · next body heq => rw [hban h, heq]; rfl
  · next body heq => rw [hban h, heq]; rfl
  · unfold parseReference at h
    dsimp only at h
    split_ifs at h with hreg hmark
    · cases h
      simp [isSuppression, hmark]
    · cases h
      simpa [isSuppression] using hmark

end RuleSpec

/-! ### Working rules -/

theorem Format.workingRules_withCustomRules {f : Format} (h : f.customRules = [])
    (rules : List String) : (f.withCustomRules rules).workingRules
      = (rules.filter (·.toList.head? == some '!')).reverse ++ f.workingRules
        ++ rules.filter (!·.toList.head? == some '!') := by
  unfold workingRules
  rw [h]
  simp [withCustomRules]

namespace FormatRegistry

variable {r : FormatRegistry} {f sub : Format} {rules : List String} {t : RuleTable}
  {done own asked specs : List RuleSpec} {spec : RuleSpec}

theorem parse_withCustomRules (r : FormatRegistry) (f : Format) (rules : List String)
    (text : String) :
    RuleSpec.parse r (some (f.withCustomRules rules)) text = RuleSpec.parse r (some f) text := by
  refine RuleSpec.parse_congr ?_ ?_ ?_ ?_ ?_ (fun _ => rfl) text <;> rfl

theorem specsOf_withCustomRules (texts : List String) :
    r.specsOf (f.withCustomRules rules) texts = r.specsOf f texts := by
  unfold specsOf
  simp only [parse_withCustomRules]

/-- Texts sorted by what they say. -/
theorem specsOf_filter {p : String → Bool} {q : RuleSpec → Bool} : ∀ {rules : List String},
    (∀ rule ∈ rules, ∀ spec, RuleSpec.parse r (some f) rule = .ok spec → p rule = q spec) →
      (∀ rule ∈ rules, ∃ spec, RuleSpec.parse r (some f) rule = .ok spec) →
      r.specsOf f (rules.filter p) = (r.specsOf f rules).filter q
  | [], _, _ => rfl
  | rule :: rules, h, hread => by
    obtain ⟨hrule, hrest⟩ := List.forall_mem_cons.mp h
    obtain ⟨⟨spec, hspec⟩, hread⟩ := List.forall_mem_cons.mp hread
    have ih := specsOf_filter hrest hread
    have hcons : r.specsOf f (rule :: rules) = spec :: r.specsOf f rules := by
      rw [← List.singleton_append, specsOf_append, specsOf_singleton hspec]
      rfl
    rw [hcons, List.filter_cons, List.filter_cons, hrule spec hspec]
    cases q spec with
    | false => simpa using ih
    | true =>
      rw [if_pos rfl, if_pos rfl, ← ih, ← List.singleton_append, specsOf_append,
        specsOf_singleton hspec]
      rfl

/-! ### What a derived format says -/

/-- The rules of a format with others added: suppressions before them, the rest after them. -/
def derivedRules (own asked : List RuleSpec) : List RuleSpec :=
  (asked.filter (·.isSuppression)).reverse ++ own ++ asked.filter (!·.isSuppression)

theorem mem_derivedRules : spec ∈ derivedRules own asked ↔ spec ∈ own ∨ spec ∈ asked := by
  unfold derivedRules
  cases h : spec.isSuppression <;> simp [h, or_comm]

theorem ownRules_withCustomRules (hbare : f.customRules = [])
    (hclean : ∀ rule ∈ rules, IsClean rule)
    (hread : ∀ rule ∈ rules, ∃ spec, RuleSpec.parse r (some f) rule = .ok spec) :
    r.ownRules (f.withCustomRules rules) = derivedRules (r.ownRules f) (r.specsOf f rules) := by
  have hmark : ∀ rule ∈ rules, ∀ spec, RuleSpec.parse r (some f) rule = .ok spec →
      (rule.toList.head? == some '!') = spec.isSuppression :=
    fun rule hrule _ h =>
      (RuleSpec.isSuppression_of_parse (hclean rule hrule).hasNoOuterBlank h).symm
  have hfront := specsOf_filter hmark hread
  have hback := specsOf_filter (q := (!·.isSuppression))
    (fun rule hrule spec h => congrArg not (hmark rule hrule spec h)) hread
  have hreverse : ∀ texts : List String, r.specsOf f texts.reverse = (r.specsOf f texts).reverse :=
    fun texts => List.filterMap_reverse
  unfold derivedRules ownRules
  rw [specsOf_withCustomRules, Format.workingRules_withCustomRules hbare, specsOf_append,
    specsOf_append, hreverse, hfront, hback]

/-- The rules of which a table does not have the key. -/
def newSpecs (t : RuleTable) (asked : List RuleSpec) : List RuleSpec :=
  asked.filter fun spec => !spec.key?.any t.has

theorem specsOf_newRules
    (hread : ∀ rule ∈ rules, ∃ spec, RuleSpec.parse r (some f) rule = .ok spec) :
    r.specsOf f (r.newRules f t rules) = newSpecs t (r.specsOf f rules) := by
  refine specsOf_filter (fun rule _ spec h => ?_) hread
  rw [isInEffect, h]
  change (some (spec.key?.any t.has) == some false) = !spec.key?.any t.has
  cases spec.key?.any t.has <;> rfl

/-! ### What a derived format contributes -/

/-- An entry is not the inclusion of a format that some rules suppress. -/
def Entry.survives (front : List RuleSpec) : Entry → Bool
  | .own _ => true
  | .inclusion sub => decide (.suppress sub.id ∉ front)

variable {front : List RuleSpec}

/-- Suppressions in front take away the inclusions of what they suppress, and nothing else. -/
theorem contribution?_append : (r.contribution? (front ++ done) spec).toList
    = (r.contribution? done spec).toList.filter (Entry.survives front) := by
  unfold contribution?
  cases spec with
  | rule id =>
    dsimp only
    by_cases hfront : .suppress (r.getFormat id).id ∈ front
    · by_cases hdone : .suppress (r.getFormat id).id ∉ done ∧ (r.getFormat id).isKnown = true
      · simp [hfront, hdone, Entry.survives]
      · simp [hfront, hdone]
    · by_cases hdone : .suppress (r.getFormat id).id ∉ done ∧ (r.getFormat id).isKnown = true
      · simp [hfront, hdone, Entry.survives]
      · simp [hfront, hdone]
  | _ => rfl

theorem entriesAfter_append_front : ∀ {done specs : List RuleSpec},
    r.entriesAfter (front ++ done) specs
      = (r.entriesAfter done specs).filter (Entry.survives front)
  | _, [] => rfl
  | done, spec :: specs => by
    rw [entriesAfter, entriesAfter, List.filter_append, contribution?_append, List.append_assoc,
      entriesAfter_append_front]

/-- **What a derived format contributes**: its suppressions, what its base contributes but for the
formats that these suppress, and its other custom rules. -/
theorem entriesAfter_derivedRules : r.entriesAfter [] (derivedRules own asked)
    = r.entriesAfter [] (asked.filter (·.isSuppression)).reverse
      ++ (r.entriesAfter [] own).filter (Entry.survives (asked.filter (·.isSuppression)).reverse)
      ++ r.entriesAfter ((asked.filter (·.isSuppression)).reverse ++ own)
        (asked.filter (!·.isSuppression)) := by
  unfold derivedRules
  rw [entriesAfter_append, entriesAfter_append, List.nil_append, List.nil_append,
    ← entriesAfter_append_front, List.append_nil]

/-- What the base includes and no custom rule suppresses is included. -/
theorem mem_entriesAfter_derivedRules (h : .inclusion sub ∈ r.entriesAfter [] own)
    (hs : .suppress sub.id ∉ asked) :
    .inclusion sub ∈ r.entriesAfter [] (derivedRules own asked) := by
  rw [entriesAfter_derivedRules, List.mem_append, List.mem_append, List.mem_filter]
  refine .inl (.inr ⟨h, ?_⟩)
  simp [Entry.survives, hs]

end FormatRegistry

end TeamLegality
