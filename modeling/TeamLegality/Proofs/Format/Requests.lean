import TeamLegality.Proofs.Format.Keys
import Mathlib.Data.List.DropRight

/-!
# Requests — reading a key gives back the format that was printed

A key is an identifier, the mark of custom rules and the rules between commas.  Rules that were
cleaned hold none of the characters that would be taken for something else, so both readers of a
name, the one that looks formats up and the one that checks requests, find in the key what was
printed (`splitName_key`, `splitRequest_key`).
-/

namespace TeamLegality

namespace Text

variable {c sep : Char} {cs before after mark : List Char}

/-! ### Outer blanks -/

/-- A text neither starts nor ends with a blank. -/
structure HasNoOuterBlank (cs : List Char) : Prop where
  head : ∀ c ∈ cs.head?, isBlank c = false
  last : ∀ c ∈ cs.getLast?, isBlank c = false

theorem trim_eq_rdropWhile (cs : List Char) :
    trim cs = (cs.dropWhile isBlank).rdropWhile isBlank := rfl

theorem hasNoOuterBlank_trim (cs : List Char) : HasNoOuterBlank (trim cs) := by
  rw [trim_eq_rdropWhile]
  constructor
  · intro c hc
    -- The blanks at the end are dropped from what starts with no blank.
    obtain ⟨rest, hrest⟩ := List.rdropWhile_prefix isBlank (cs.dropWhile isBlank)
    have hfront := List.head?_dropWhile_not isBlank cs
    rw [← hrest, List.head?_append, Option.mem_def.mp hc] at hfront
    exact hfront
  · intro c hc
    obtain ⟨hne, hlast⟩ := List.mem_getLast?_eq_getLast hc
    rw [hlast]
    simpa using List.rdropWhile_last_not isBlank _ hne

theorem HasNoOuterBlank.trim_eq (h : HasNoOuterBlank cs) : trim cs = cs := by
  have hfront : cs.dropWhile isBlank = cs := by
    rw [List.dropWhile_eq_self_iff]
    intro hl
    simpa using h.head cs[0] (by simp [List.head?_eq_getElem?])
  rw [trim_eq_rdropWhile, hfront, List.rdropWhile_eq_self_iff]
  intro hne
  simpa using h.last _ (List.getLast_mem_getLast? hne)

theorem hasNoOuterBlank_of_forall (h : ∀ c ∈ cs, isBlank c = false) : HasNoOuterBlank cs where
  head c hc := h c (List.mem_of_mem_head? hc)
  last c hc := h c (List.mem_of_mem_getLast? hc)

/-- What stands between two texts without outer blanks has no part in it. -/
theorem HasNoOuterBlank.append (hb : HasNoOuterBlank before) (ha : HasNoOuterBlank after)
    (hbefore : before ≠ []) (hafter : after ≠ []) (mid : List Char) :
    HasNoOuterBlank (before ++ mid ++ after) where
  head := by
    rw [List.append_assoc, List.head?_append_of_ne_nil _ hbefore]
    exact hb.head
  last := by
    rw [List.getLast?_append_of_ne_nil _ hafter]
    exact ha.last

/-! ### Cutting where texts were joined -/

/-- The first occurrence of a mark is where a text without its first character ends. -/
theorem cutFirst?_append (h : c ∉ before) (mark after : List Char) :
    cutFirst? (c :: mark) (before ++ (c :: mark ++ after)) = some (before, after) := by
  induction before with
  | nil => simp [cutFirst?]
  | cons b before ih =>
    obtain ⟨hb, hrest⟩ := not_or.mp (mt List.mem_cons.mpr h)
    simpa [cutFirst?, List.isPrefixOf, hb] using ih hrest

theorem cutFirst?_of_notMem (h : c ∉ cs) (mark : List Char) : cutFirst? (c :: mark) cs = none := by
  cases hcut : cutFirst? (c :: mark) cs with
  | none => rfl
  | some parts =>
    have hmem : c ∈ cs := by
      rw [← append_of_cutFirst? hcut]
      simp
    exact absurd hmem h

theorem not_infix_of_cutFirst?_eq_none (h : cutFirst? (c :: mark) cs = none) :
    ¬ c :: mark <:+: cs := by
  induction cs with
  | nil => simp
  | cons d cs ih =>
    simp only [cutFirst?] at h
    split_ifs at h with hp
    rw [List.infix_cons_iff]
    rintro (hpre | hin)
    · exact hp (List.isPrefixOf_iff_prefix.mpr hpre)
    · exact ih (Option.map_eq_none_iff.mp h) hin

/-- The part in front of the first occurrence holds none. -/
theorem not_infix_of_cutFirst? (h : cutFirst? (c :: mark) cs = some (before, after)) :
    ¬ c :: mark <:+: before := by
  induction cs generalizing before with
  | nil => simp [cutFirst?] at h
  | cons d cs ih =>
    have hcs := append_of_cutFirst? h
    simp only [cutFirst?] at h
    split_ifs at h with hp
    · cases h
      simp
    · obtain ⟨⟨before', after'⟩, hcut, heq⟩ := Option.map_eq_some_iff.mp h
      cases heq
      rw [List.infix_cons_iff]
      rintro (hpre | hin)
      · refine hp (List.isPrefixOf_iff_prefix.mpr (hpre.trans ?_))
        rw [← hcs, List.append_assoc]
        exact List.prefix_append _ _
      · exact ih hcut hin

theorem trim_infix (cs : List Char) : trim cs <:+: cs := by
  rw [trim_eq_rdropWhile]
  exact (List.rdropWhile_prefix _ _).isInfix.trans (List.dropWhile_suffix _).isInfix

theorem splitAt_of_notMem (h : sep ∉ cs) : splitAt sep cs = [cs] := by
  induction cs with
  | nil => rfl
  | cons d cs ih =>
    obtain ⟨hd, hrest⟩ := not_or.mp (mt List.mem_cons.mpr h)
    simp [splitAt, Ne.symm hd, ih hrest]

/-- Joined parts come apart again where they were joined. -/
theorem splitAt_intercalate : ∀ {parts : List (List Char)}, parts ≠ [] →
    (∀ part ∈ parts, sep ∉ part) → splitAt sep ([sep].intercalate parts) = parts
  | [], hne, _ => absurd rfl hne
  | [part], _, h => by
    rw [List.intercalate_singleton, splitAt_of_notMem (h part List.mem_cons_self)]
  | part :: part' :: parts, _, h => by
    obtain ⟨hpart, hrest⟩ := List.forall_mem_cons.mp h
    rw [List.intercalate_cons_cons, List.append_assoc, List.singleton_append, splitAt_append_cons,
      splitAt_of_notMem hpart, splitAt_intercalate (List.cons_ne_nil _ _) hrest]
    rfl

/-! ### Identifiers -/

/-- An identifier is made of digits and small letters. -/
theorem toNat_of_idChar? {d : Char} (h : idChar? c = some d) :
    48 ≤ d.toNat ∧ d.toNat ≤ 57 ∨ 97 ≤ d.toNat ∧ d.toNat ≤ 122 := by
  unfold idChar? at h
  split_ifs at h with hd hu hk hi
  · cases h
    rw [Bool.or_eq_true] at hd
    refine hd.imp (fun hd => ?_) fun hl => ?_
    · have hrange : (decide ('0'.val ≤ c.val) && decide (c.val ≤ '9'.val)) = true := hd
      simpa [UInt32.le_iff_toNat_le] using hrange
    · have hrange : (decide ('a'.val ≤ c.val) && decide (c.val ≤ 'z'.val)) = true := hl
      simpa [UInt32.le_iff_toNat_le] using hrange
  · cases h
    have hb := toNat_of_isUpper hu
    have hl := toNat_toLower hu
    omega
  · cases h
    decide
  · cases h
    decide

theorem toNat_of_mem_toId {s : String} (h : c ∈ (toId s).toList) :
    48 ≤ c.toNat ∧ c.toNat ≤ 57 ∨ 97 ≤ c.toNat ∧ c.toNat ≤ 122 := by
  rw [toList_toId, List.mem_filterMap] at h
  obtain ⟨d, -, hd⟩ := h
  exact toNat_of_idChar? hd

theorem isBlank_of_mem_toId {s : String} (h : c ∈ (toId s).toList) : isBlank c = false := by
  have hc := toNat_of_mem_toId h
  unfold isBlank
  simp only [Bool.or_eq_false_iff, Bool.and_eq_false_imp, decide_eq_true_eq,
    decide_eq_false_iff_not, beq_eq_false_iff_ne]
  omega

end Text

namespace FormatRegistry

variable {r : FormatRegistry} {f : Format} {name base rule : String} {rules : List String}

theorem isNoise_iff {c : Char} : isNoise c = true ↔ c = '\r' ∨ c = '\n' ∨ c = '|' := by
  simp [isNoise, or_assoc]

theorem isNoise_of_mem_toId {c : Char} {s : String} (h : c ∈ (Text.toId s).toList) :
    isNoise c = false := by
  rw [← Bool.not_eq_true, isNoise_iff]
  rintro (rfl | rfl | rfl) <;> exact absurd (Text.toNat_of_mem_toId h) (by decide)

/-! ### Clean rules -/

/-- A custom rule as a request keeps it: a text without outer blanks, and without the characters
that are dropped or that would end it. -/
structure IsClean (rule : String) : Prop where
  ne_empty : rule ≠ ""
  hasNoOuterBlank : Text.HasNoOuterBlank rule.toList
  comma_notMem : ',' ∉ rule.toList
  noise_notMem : ∀ c ∈ rule.toList, isNoise c = false

theorem isClean_of_mem_customRulesOf {text : List Char} (h : rule ∈ customRulesOf text) :
    IsClean rule := by
  simp only [customRulesOf, List.mem_map, List.mem_filter] at h
  obtain ⟨cs, ⟨⟨part, hpart, rfl⟩, hne⟩, rfl⟩ := h
  have hsub : ∀ c ∈ Text.trim (part.filter (!isNoise ·)), c ∈ part ∧ isNoise c = false := by
    intro c hc
    simpa using List.mem_filter.mp ((Text.trimBy_sublist _ _).subset hc)
  refine ⟨fun hempty => ?_, ?_, ?_, ?_⟩
  · rw [← String.toList_inj, String.toList_ofList] at hempty
    simp [hempty] at hne
  · rw [String.toList_ofList]
    exact Text.hasNoOuterBlank_trim _
  · rw [String.toList_ofList]
    exact fun hc => Text.notMem_of_mem_splitAt hpart (hsub _ hc).1
  · rw [String.toList_ofList]
    exact fun c hc => (hsub c hc).2

theorem isClean_of_splitRequest (h : splitRequest name = (base, some rules)) :
    ∀ rule ∈ rules, IsClean rule := by
  unfold splitRequest at h
  split at h
  · cases h
  · cases h
    exact fun _ => isClean_of_mem_customRulesOf

theorem toList_ne_nil (h : rule ≠ "") : rule.toList ≠ [] := by
  intro hnil
  exact h (String.toList_inj.mp hnil)

/-- A reader of rules between commas that leaves some rules as they are reads them back. -/
theorem parts_intercalate (clean : List Char → List Char) (hrules : ∀ rule ∈ rules, IsClean rule)
    (hclean : ∀ rule ∈ rules, clean rule.toList = rule.toList) (hnil : clean [] = []) :
    (((Text.splitAt ',' (String.intercalate "," rules).toList).map clean).filter
      (!·.isEmpty)).map String.ofList = rules := by
  rcases eq_or_ne rules [] with rfl | hne
  · simp [Text.splitAt, hnil]
  have hsplit : Text.splitAt ',' (String.intercalate "," rules).toList
      = rules.map String.toList := by
    rw [String.toList_intercalate]
    refine Text.splitAt_intercalate (by simpa using hne) fun part hpart => ?_
    obtain ⟨rule, hrule, rfl⟩ := List.mem_map.mp hpart
    exact (hrules rule hrule).comma_notMem
  have hmap : (rules.map String.toList).map clean = rules.map String.toList := by
    rw [List.map_map]
    exact List.map_congr_left hclean
  have hfilter : (rules.map String.toList).filter (!·.isEmpty) = rules.map String.toList := by
    rw [List.filter_eq_self]
    intro part hpart
    obtain ⟨rule, hrule, rfl⟩ := List.mem_map.mp hpart
    simpa using toList_ne_nil (hrules rule hrule).ne_empty
  rw [hsplit, hmap, hfilter, List.map_map]
  simp

theorem customRulesOf_intercalate (hrules : ∀ rule ∈ rules, IsClean rule) :
    customRulesOf (String.intercalate "," rules).toList = rules := by
  refine parts_intercalate _ hrules (fun rule hrule => ?_) rfl
  have hclean := hrules rule hrule
  have hfilter : rule.toList.filter (!isNoise ·) = rule.toList :=
    List.filter_eq_self.mpr fun c hc => by simp [hclean.noise_notMem c hc]
  rw [hfilter, hclean.hasNoOuterBlank.trim_eq]

/-! ### Printing keys -/

theorem intercalate_ne_empty (hne : rules ≠ []) (hrules : ∀ rule ∈ rules, IsClean rule) :
    String.intercalate "," rules ≠ "" := by
  intro hempty
  have hread := customRulesOf_intercalate hrules
  rw [hempty] at hread
  exact hne hread.symm

theorem hasNoOuterBlank_intercalate : ∀ {rules : List String}, (∀ rule ∈ rules, IsClean rule) →
    Text.HasNoOuterBlank (String.intercalate "," rules).toList
  | [], _ => Text.hasNoOuterBlank_of_forall (by simp)
  | [rule], hrules => by
    simpa using (hrules rule List.mem_cons_self).hasNoOuterBlank
  | rule :: rule' :: rules, hrules => by
    obtain ⟨hrule, hrest⟩ := List.forall_mem_cons.mp hrules
    rw [String.intercalate_cons_cons, String.toList_append, String.toList_append]
    exact hrule.hasNoOuterBlank.append (hasNoOuterBlank_intercalate hrest)
      (toList_ne_nil hrule.ne_empty)
      (toList_ne_nil (intercalate_ne_empty (List.cons_ne_nil _ _) hrest)) _

theorem noise_notMem_intercalate : ∀ {rules : List String}, (∀ rule ∈ rules, IsClean rule) →
    ∀ c ∈ (String.intercalate "," rules).toList, isNoise c = false
  | [], _ => by simp
  | [rule], hrules => by simpa using (hrules rule List.mem_cons_self).noise_notMem
  | rule :: rule' :: rules, hrules => by
    obtain ⟨hrule, hrest⟩ := List.forall_mem_cons.mp hrules
    rw [String.intercalate_cons_cons, String.toList_append, String.toList_append]
    simp only [List.forall_mem_append]
    exact ⟨⟨hrule.noise_notMem, by simp [isNoise]⟩, noise_notMem_intercalate hrest⟩

theorem toList_key (hne : rules ≠ []) : (f.withCustomRules rules).key.toList
    = f.id.toList ++ ('@' :: ['@', '@'] ++ (String.intercalate "," rules).toList) := by
  unfold Format.key
  simp [Format.withCustomRules, hne, Format.customRulesMark]

theorem key_of_bare (hf : f.IsRegisteredAs f.id) : f.key = f.id := by
  simp [Format.key, hf.bare]

/-- **No key holds a character that ends a line or a field.** -/
theorem noise_notMem_key (hf : f.IsRegisteredAs f.id) (hrules : ∀ rule ∈ rules, IsClean rule) :
    ∀ c ∈ (f.withCustomRules rules).key.toList, isNoise c = false := by
  have hid : ∀ c ∈ f.id.toList, isNoise c = false := by
    rw [← hf.toId_name]
    exact fun c => isNoise_of_mem_toId
  rcases eq_or_ne rules [] with rfl | hne
  · exact hid
  · rw [toList_key hne]
    simp only [List.forall_mem_append]
    exact ⟨hid, by simp [isNoise], noise_notMem_intercalate hrules⟩

/-! ### Reading keys -/

section Registered

variable (hf : f.IsRegisteredAs f.id)
include hf

theorem hasNoOuterBlank_id : Text.HasNoOuterBlank f.id.toList := by
  rw [← hf.toId_name]
  exact Text.hasNoOuterBlank_of_forall fun c => Text.isBlank_of_mem_toId

theorem atSign_notMem_id : '@' ∉ f.id.toList := by
  rw [← hf.toId_name]
  exact Text.atSign_notMem_toId _

theorem splitRequest_id : splitRequest f.id = (f.id, none) := by
  have hcut : Text.cutFirst? Format.customRulesMark.toList f.id.toList = none :=
    Text.cutFirst?_of_notMem (atSign_notMem_id hf) _
  rw [splitRequest, hcut]

theorem splitName_id : splitName f.id = (f.id, []) := by
  have hcut : Text.cutFirst? Format.customRulesMark.toList f.id.toList = none :=
    Text.cutFirst?_of_notMem (atSign_notMem_id hf) _
  simp [splitName, (hasNoOuterBlank_id hf).trim_eq, hcut, Text.strip]

/-- A request for a key is one for its rules. -/
theorem splitRequest_key (hne : rules ≠ []) (hrules : ∀ rule ∈ rules, IsClean rule) :
    splitRequest (f.withCustomRules rules).key = (f.id, some rules) := by
  have hcut : Text.cutFirst? Format.customRulesMark.toList (f.withCustomRules rules).key.toList
      = some (f.id.toList, (String.intercalate "," rules).toList) := by
    rw [toList_key hne]
    exact Text.cutFirst?_append (atSign_notMem_id hf) _ _
  simp only [splitRequest, hcut, String.ofList_toList, customRulesOf_intercalate hrules]

theorem splitName_key (hne : rules ≠ []) (hrules : ∀ rule ∈ rules, IsClean rule) :
    splitName (f.withCustomRules rules).key = (f.id, rules) := by
  have htrim : Text.trim (f.withCustomRules rules).key.toList
      = f.id.toList ++ ('@' :: ['@', '@'] ++ (String.intercalate "," rules).toList) := by
    rw [toList_key hne, ← List.append_assoc]
    exact ((hasNoOuterBlank_id hf).append (hasNoOuterBlank_intercalate hrules)
      (toList_ne_nil hf.id_ne) (toList_ne_nil (intercalate_ne_empty hne hrules)) _).trim_eq
  have hcut : Text.cutFirst? Format.customRulesMark.toList
      (Text.trim (f.withCustomRules rules).key.toList)
      = some (f.id.toList, (String.intercalate "," rules).toList) := by
    rw [htrim]
    exact Text.cutFirst?_append (atSign_notMem_id hf) _ _
  have hparts := parts_intercalate Text.trim hrules
    (fun rule hrule => (hrules rule hrule).hasNoOuterBlank.trim_eq) rfl
  simp only [splitName, hcut, String.ofList_toList, hparts]

/-- **A key finds its format**, custom rules and all, if the identifier of the format does. -/
theorem getFormat_key (hown : r.getFormat f.id = f) (hrules : ∀ rule ∈ rules, IsClean rule) :
    r.getFormat (f.withCustomRules rules).key = f.withCustomRules rules := by
  rcases eq_or_ne rules [] with rfl | hne
  · have hbase : f.withCustomRules [] = f := by
      rw [← hf.bare]
      rfl
    rw [hbase, key_of_bare hf, hown]
  have hby : r.byId? (r.resolveAlias f.id).toId = some f := by
    unfold getFormat at hown
    rw [splitName_id hf] at hown
    dsimp only at hown
    split at hown
    · next g hg => rw [hg, ← hown]; rfl
    · have hk := hf.known
      rw [← hown] at hk
      cases hk
  unfold getFormat
  rw [splitName_key hf hne hrules]
  simp [hby, hne]

end Registered

/-! ### What stands before the custom rules -/

theorem splitName_of_not_infix (h : ¬ Format.customRulesMark.toList <:+: name.toList) :
    splitName name = (Text.strip name, []) := by
  unfold splitName
  cases hcut : Text.cutFirst? Format.customRulesMark.toList (Text.trim name.toList) with
  | none => rfl
  | some parts =>
    refine absurd (List.IsInfix.trans ?_ (Text.trim_infix name.toList)) h
    rw [← Text.append_of_cutFirst? hcut]
    exact List.infix_append _ _ _

/-- What stands before the custom rules has no custom rules itself. -/
theorem splitName_of_splitRequest {asked : Option (List String)}
    (h : splitRequest name = (base, asked)) : splitName base = (Text.strip base, []) := by
  refine splitName_of_not_infix ?_
  unfold splitRequest at h
  split at h
  · next hcut =>
    cases h
    exact Text.not_infix_of_cutFirst?_eq_none hcut
  · next before after hcut =>
    cases h
    rw [String.toList_ofList]
    exact Text.not_infix_of_cutFirst? hcut

/-- What a name without custom rules finds is registered. -/
theorem registered_of_splitName (hr : r.WellFormed) {stripped : String}
    (h : splitName name = (stripped, [])) (hk : (r.getFormat name).isKnown = true) :
    r.formats.get? (r.getFormat name).id = some (r.getFormat name) := by
  unfold getFormat at hk ⊢
  rw [h] at hk ⊢
  dsimp only at hk ⊢
  cases hb : r.byId? (r.resolveAlias stripped).toId with
  | none =>
    rw [hb] at hk
    cases hk
  | some base =>
    obtain ⟨id, hid⟩ := byId?_eq_some hb
    dsimp only
    rw [List.isEmpty_nil, if_pos rfl, (hr id base hid).id_eq]
    exact hid

end FormatRegistry

end TeamLegality
