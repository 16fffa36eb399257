import TeamLegality.Proofs.Format.Requests
import TeamLegality.Proofs.Rule.Grouping

/-!
# Target texts — what a grouped ban says of the texts it is written as

A ban is written as a list of texts, and the features of a set are texts as well.  The category of a
text is told by what stands before its first colon, if that is the word of a category; whatever
follows, colons included, is the identifier (`ofText_eq_entry_iff`).  So grouping can be told
without groups: the keys of the ban are its texts, and a set falls under it when it has every text
that may stand beside others of its category, and of each category of which a set has a single value
one of those written (`keys_count_matches`).
-/

namespace TeamLegality

/-! ### Categories of texts -/

namespace Target

variable {c : Category} {s t id : String} {texts : List String}

/-- A text is of a category: it begins with the word of the category and a colon. -/
def IsOf (c : Category) (text : String) : Prop := ∃ id, text = c.word ++ ":" ++ id

theorem colon_notMem_word (c : Category) : ':' ∉ c.word.toList := by
  cases c <;> decide

theorem ofText_entry (c : Category) (id : String) : ofText (c.word ++ ":" ++ id) = .entry c id := by
  have hcut : Text.cutFirst? [':'] (c.word ++ ":" ++ id).toList
      = some (c.word.toList, id.toList) := by
    rw [String.append_assoc, String.toList_append, String.toList_append]
    exact Text.cutFirst?_append (colon_notMem_word c) [] id.toList
  simp only [ofText, hcut, String.ofList_toList, Category.ofWord?_word]

/-- **The first colon ends the category**, and the identifier may hold others. -/
theorem ofText_eq_entry_iff : ofText s = .entry c id ↔ s = c.word ++ ":" ++ id := by
  constructor
  · intro h
    rw [← text_ofText s, h]
    rfl
  · rintro rfl
    exact ofText_entry c id

theorem ofText_eq_plain_iff : ofText s = .plain t ↔ s = t ∧ ∀ c, ¬ IsOf c s := by
  constructor
  · intro h
    have hs : s = t := by rw [← text_ofText s, h]; rfl
    refine ⟨hs, ?_⟩
    rintro c ⟨id, hid⟩
    rw [ofText_eq_entry_iff.mpr hid] at h
    cases h
  · rintro ⟨rfl, hnone⟩
    cases h : ofText s with
    | plain t => rw [← text_ofText s, h]; rfl
    | entry c id => exact absurd ⟨id, ofText_eq_entry_iff.mp h⟩ (hnone c)

instance (c : Category) (s : String) : Decidable (IsOf c s) :=
  match h : ofText s with
  | .plain _ => isFalse ((ofText_eq_plain_iff.mp h).2 c)
  | .entry c' id =>
    if hc : c' = c then isTrue ⟨id, ofText_eq_entry_iff.mp (hc ▸ h)⟩
    else isFalse fun ⟨id', hid'⟩ => by
      rw [ofText_eq_entry_iff.mpr hid', entry.injEq] at h
      exact hc h.1.symm

theorem ofText_mem_map : ofText s ∈ texts.map ofText ↔ s ∈ texts :=
  List.mem_map_of_injective fun _ _ => ofText_injective

theorem entry_mem_map : .entry c id ∈ texts.map ofText ↔ c.word ++ ":" ++ id ∈ texts := by
  rw [← ofText_entry, ofText_mem_map]

theorem plain_mem_map : .plain s ∈ texts.map ofText ↔ s ∈ texts ∧ ∀ c, ¬ IsOf c s := by
  simp only [List.mem_map, ofText_eq_plain_iff]
  constructor
  · rintro ⟨_, hmem, rfl, hnone⟩
    exact ⟨hmem, hnone⟩
  · rintro ⟨hmem, hnone⟩
    exact ⟨s, hmem, rfl, hnone⟩

theorem eraseDups_map_ofText (texts : List String) :
    (texts.map ofText).eraseDups = texts.eraseDups.map ofText := by
  induction texts using List.reverseRecOn with
  | nil => rfl
  | append_singleton texts s ih =>
    rw [List.map_append, List.map_singleton, eraseDups_snoc, eraseDups_snoc, ih]
    by_cases hs : s ∈ texts
    · rw [if_pos (ofText_mem_map.mpr hs), if_pos hs]
    · rw [if_neg (mt ofText_mem_map.mp hs), if_neg hs, List.map_append, List.map_singleton]

end Target

/-! ### Bans of texts -/

namespace Ban

open Target

variable {texts features more : List String}

/-- The ban of a list of texts. -/
def ofTexts (texts : List String) : Ban := ofTargets (texts.map ofText)

/-- Features meet texts: the texts of moves and tags and those without a category are all there, and
where a set has a single value, one of the texts of that category is. -/
structure Meets (texts features : List String) : Prop where
  each : ∀ s ∈ texts, (IsOf .move s ∨ IsOf .tag s ∨ ∀ c, ¬ IsOf c s) → s ∈ features
  any : ∀ c ∈ singleValued, (∃ s ∈ texts, IsOf c s) → ∃ s ∈ texts, IsOf c s ∧ s ∈ features

/-- No two different texts are of the same category where a set has a single value. -/
def NamesOneOfEach (texts : List String) : Prop :=
  ∀ c ∈ singleValued, ∀ s ∈ texts, ∀ t ∈ texts, IsOf c s → IsOf c t → s = t

instance (texts : List String) : Decidable (NamesOneOfEach texts) :=
  inferInstanceAs (Decidable (∀ c ∈ singleValued, ∀ s ∈ texts, ∀ t ∈ texts, _ → _ → s = t))

theorem Meets.mono (h : Meets texts features) (hmore : features ⊆ more) : Meets texts more where
  each s hs hc := hmore (h.each s hs hc)
  any c hc hs :=
    let ⟨t, ht, htc, hfeature⟩ := h.any c hc hs
    ⟨t, ht, htc, hmore hfeature⟩

/-- A text is of a category with a single value, or else it has to be there itself. -/
theorem isOf_cases (s : String) : (∃ c ∈ singleValued, IsOf c s)
    ∨ IsOf .move s ∨ IsOf .tag s ∨ ∀ c, ¬ IsOf c s := by
  by_cases hnone : ∀ c, ¬ IsOf c s
  · exact .inr (.inr (.inr hnone))
  · obtain ⟨c, hc⟩ := not_forall_not.mp hnone
    cases c with
    | move => exact .inr (.inl hc)
    | tag => exact .inr (.inr (.inl hc))
    | _ => exact .inl ⟨_, by decide, hc⟩

theorem meets_iff_subset (h : NamesOneOfEach texts) : Meets texts features ↔ texts ⊆ features := by
  constructor
  · intro hm s hs
    rcases isOf_cases s with ⟨c, hc, hsc⟩ | heach
    · obtain ⟨t, ht, htc, hfeature⟩ := hm.any c hc ⟨s, hs, hsc⟩
      exact h c hc s hs t ht hsc htc ▸ hfeature
    · exact hm.each s hs heach
  · exact fun hsub => ⟨fun s hs _ => hsub hs, fun c _ ⟨s, hs, hsc⟩ => ⟨s, hs, hsc, hsub hs⟩⟩

theorem covers_iff_meets :
    Covers (texts.map ofText) (features.map ofText) ↔ Meets texts features := by
  constructor
  · intro h
    refine ⟨fun s hs => ?_, ?_⟩
    · rintro (⟨id, rfl⟩ | ⟨id, rfl⟩ | hnone)
      · exact entry_mem_map.mp (h.multi .move (by decide) id (entry_mem_map.mpr hs))
      · exact entry_mem_map.mp (h.multi .tag (by decide) id (entry_mem_map.mpr hs))
      · exact (plain_mem_map.mp (h.plain s (plain_mem_map.mpr ⟨hs, hnone⟩))).1
    · rintro c hc ⟨_, hs, id, rfl⟩
      obtain ⟨id', htarget, hfeature⟩ := h.single c hc id (entry_mem_map.mpr hs)
      exact ⟨_, entry_mem_map.mp htarget, ⟨id', rfl⟩, entry_mem_map.mp hfeature⟩
  · intro h
    refine ⟨fun c hc id hid => ?_, fun c hc id hid => ?_, fun s hs => ?_⟩
    · obtain ⟨_, ht, ⟨id', rfl⟩, hfeature⟩ := h.any c hc ⟨_, entry_mem_map.mp hid, id, rfl⟩
      exact ⟨id', entry_mem_map.mpr ht, entry_mem_map.mpr hfeature⟩
    · have heach : IsOf .move (c.word ++ ":" ++ id) ∨ IsOf .tag (c.word ++ ":" ++ id) := by
        simp only [multiValued, List.mem_cons, List.not_mem_nil, or_false] at hc
        rcases hc with rfl | rfl
        · exact .inl ⟨id, rfl⟩
        · exact .inr ⟨id, rfl⟩
      exact entry_mem_map.mpr (h.each _ (entry_mem_map.mp hid) (heach.imp_right .inl))
    · obtain ⟨hs, hnone⟩ := plain_mem_map.mp hs
      exact plain_mem_map.mpr ⟨h.each s hs (.inr (.inr hnone)), hnone⟩

theorem isMatchedBy_iff_meets :
    (ofTexts texts).isMatchedBy (features.map ofText) = true ↔ Meets texts features :=
  isMatchedBy_ofTargets.trans covers_iff_meets

theorem texts_keys_perm (texts : List String) :
    ((ofTexts texts).keys.map Target.text).Perm texts.eraseDups := by
  have hkeys : ((ofTexts texts).keys.map Target.text).Perm
      ((texts.map ofText).eraseDups.map Target.text) := keys_perm.map Target.text
  rw [eraseDups_map_ofText, List.map_map] at hkeys
  have hid : Target.text ∘ ofText = id := funext text_ofText
  rwa [hid, List.map_id] at hkeys

theorem count_texts (texts features : List String) :
    (ofTexts texts).count (features.map ofText)
      = (texts.eraseDups.filter features.contains).length := by
  have hcontains : ((features.map ofText).contains ∘ ofText) = features.contains := by
    funext s
    rw [Function.comp_apply, Bool.eq_iff_iff, List.contains_iff_mem, List.contains_iff_mem,
      ofText_mem_map]
  rw [ofTexts, count_ofTargets, Target.countIn, eraseDups_map_ofText, List.filter_map,
    List.length_map, hcontains]

/-- All of the texts are counted exactly when all are features. -/
theorem count_eq_length_iff : (ofTexts texts).count (features.map ofText)
    = texts.eraseDups.length ↔ texts ⊆ features := by
  rw [count_texts, List.length_filter_eq_length_iff]
  simp only [List.mem_eraseDups, List.contains_iff_mem]
  exact Iff.rfl

/-- **What a ban says of texts.**  Its keys are its texts, each once, and it counts those of them
that are features.  It is matched exactly when the features meet the texts, so more features never
undo a match; and where no two texts are of the same category of a single value, a match is all of
the texts at once. -/
theorem keys_count_matches (texts features : List String) :
    ((ofTexts texts).keys.map Target.text).Perm texts.eraseDups
      ∧ (ofTexts texts).count (features.map ofText)
        = (texts.eraseDups.filter features.contains).length
      ∧ ((ofTexts texts).isMatchedBy (features.map ofText) = true ↔ Meets texts features)
      ∧ (∀ more, features ⊆ more → (ofTexts texts).isMatchedBy (features.map ofText) = true →
          (ofTexts texts).isMatchedBy (more.map ofText) = true)
      ∧ (NamesOneOfEach texts → ((ofTexts texts).isMatchedBy (features.map ofText) = true
          ↔ (ofTexts texts).count (features.map ofText) = texts.eraseDups.length)) := by
  refine ⟨texts_keys_perm texts, count_texts texts features, isMatchedBy_iff_meets, ?_, ?_⟩
  · intro more hmore hmatched
    exact isMatchedBy_iff_meets.mpr ((isMatchedBy_iff_meets.mp hmatched).mono hmore)
  · intro hone
    exact isMatchedBy_iff_meets.trans ((meets_iff_subset hone).trans count_eq_length_iff.symm)

/-- A ban of a species with a move and an ability, against a set that has them, and against one that
holds an item besides. -/
theorem keys_count_matches_smeargle :
    NamesOneOfEach ["pokemon:smeargle", "move:spore", "ability:moody"]
      ∧ ["ability:moody", "move:spore", "pokemon:smeargle"]
        ⊆ ["ability:moody", "item:focussash", "move:spore", "pokemon:smeargle"]
      ∧ (ofTexts ["pokemon:smeargle", "move:spore", "ability:moody"]).count
          (["ability:moody", "move:spore", "pokemon:smeargle"].map ofText) = 3
      ∧ (ofTexts ["pokemon:smeargle", "move:spore", "ability:moody"]).isMatchedBy
          (["ability:moody", "move:spore", "pokemon:smeargle"].map ofText) = true
      ∧ (ofTexts ["pokemon:smeargle", "move:spore", "ability:moody"]).isMatchedBy
          (["ability:moody", "item:focussash", "move:spore", "pokemon:smeargle"].map ofText)
        = true := by
  have hone : NamesOneOfEach ["pokemon:smeargle", "move:spore", "ability:moody"] := by
    decide +kernel
  have hmore : ["ability:moody", "move:spore", "pokemon:smeargle"]
      ⊆ ["ability:moody", "item:focussash", "move:spore", "pokemon:smeargle"] := by decide
  obtain ⟨-, hcount, -, hmono, hall⟩ := keys_count_matches
    ["pokemon:smeargle", "move:spore", "ability:moody"]
    ["ability:moody", "move:spore", "pokemon:smeargle"]
  have hthree : (["pokemon:smeargle", "move:spore", "ability:moody"].eraseDups.filter
      ["ability:moody", "move:spore", "pokemon:smeargle"].contains).length = 3 := by decide
  have hmatched := (hall hone).mpr (hcount.trans hthree)
  exact ⟨hone, hmore, hcount.trans hthree, hmatched, hmono _ hmore hmatched⟩

/-- A repeated text, an identifier with a colon, an empty one, and a word that is no category. -/
example : (ofTexts ["item:a:b", "other:x", "move:", "item:a:b"]).keys.map Target.text
    = ["move:", "item:a:b", "other:x"] := by decide

end Ban

end TeamLegality
