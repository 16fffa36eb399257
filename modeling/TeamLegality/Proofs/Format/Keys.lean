import TeamLegality.RuleTable.CustomRules
import Mathlib.Data.List.Basic
import Mathlib.Data.List.TakeWhile
import Mathlib.Tactic.SplitIfs

/-!
# Format keys — what a registry gives out, and how keys tell it apart

A registry that was built holds every format under the identifier of its own name.  The formats
that it gives out are these, the same with custom rules that hold no comma, and descriptions of
formats that do not exist.  Two of them with one key are the same format, unless both describe
formats that do not exist (`Offers.eq_of_key_eq`).
-/

namespace TeamLegality

namespace Text

theorem toNat_of_isUpper {c : Char} (h : c.isUpper = true) : 65 ≤ c.toNat ∧ c.toNat ≤ 90 := by
  have hrange : 'A'.val ≤ c.val ∧ c.val ≤ 'Z'.val := of_decide_eq_true h
  simpa [UInt32.le_iff_toNat_le] using hrange

theorem toNat_toLower {c : Char} (h : c.isUpper = true) : c.toLower.toNat = c.toNat + 32 := by
  have hb := toNat_of_isUpper h
  unfold Char.toLower
  split_ifs with hr
  · change (c.val + 32).toNat = c.val.toNat + 32
    have hc : c.val.toNat = c.toNat := rfl
    rw [UInt32.toNat_add]
    simp
    omega
  · exact absurd (of_decide_eq_true h) hr

theorem idChar?_ne_atSign (c : Char) : idChar? c ≠ some '@' := by
  unfold idChar?
  split_ifs with hd hu hk hi
  · rintro h
    rw [Option.some.injEq] at h
    subst h
    revert hd
    decide
  · rw [ne_eq, Option.some.injEq]
    intro h
    have hb := toNat_of_isUpper hu
    have hl := toNat_toLower hu
    rw [h, show ('@' : Char).toNat = 64 from rfl] at hl
    omega
  · decide
  · decide
  · simp

/-- No identifier holds the character that the mark of custom rules is made of. -/
theorem atSign_notMem_toId (s : String) : '@' ∉ (toId s).toList := by
  rw [toList_toId, List.mem_filterMap]
  rintro ⟨c, -, hc⟩
  exact idChar?_ne_atSign c hc

theorem trimBy_sublist (p : Char → Bool) (cs : List Char) : (trimBy p cs).Sublist cs := by
  unfold trimBy
  have h := (List.dropWhile_sublist (l := (cs.dropWhile p).reverse) p).reverse
  rw [List.reverse_reverse] at h
  exact h.trans (List.dropWhile_sublist p)

end Text

theorem Json.atSign_notMem_toId (j : Json) : '@' ∉ j.toId.toList := by
  cases j with
  | null => simp [Json.toId]
  | _ => exact Text.atSign_notMem_toId _

/-! ### Built registries -/

/-- What a registry promises of the format that it holds under an identifier. -/
structure Format.IsRegisteredAs (f : Format) (id : String) : Prop where
  known : f.isKnown = true
  bare : f.customRules = []
  id_eq : f.id = id
  toId_name : Text.toId f.name = id
  id_ne : id ≠ ""

theorem Format.IsRegisteredAs.name_ne {f : Format} {id : String} (h : f.IsRegisteredAs id) :
    f.name ≠ "" := by
  intro hn
  refine h.id_ne ?_
  rw [← h.toId_name, hn]
  rfl

theorem Format.isRegisteredAs_of_ofRecord {record : FormatRecord} {defaultMod : String} {f : Format}
    (h : Format.ofRecord record defaultMod = .ok f) (hid : Text.toId record.name ≠ "") :
    f.IsRegisteredAs (Text.toId record.name) := by
  unfold Format.ofRecord at h
  dsimp only at h
  cases hg : generationOf (some (record.modOr defaultMod)) with
  | error e =>
    rw [hg] at h
    cases h
  | ok gen =>
    rw [hg] at h
    cases h
    exact ⟨rfl, rfl, rfl, rfl, hid⟩

namespace FormatRegistry

/-- Every format is registered under the identifier of its own name. -/
def WellFormed (r : FormatRegistry) : Prop :=
  ∀ id f, r.formats.get? id = some f → f.IsRegisteredAs id

theorem addRecord_wellFormed {defaultMod : String} {dexes : DexCollection} {number : Nat}
    {record : FormatRecord} {formats formats' : Assoc String Format}
    (hw : ∀ id f, formats.get? id = some f → f.IsRegisteredAs id)
    (h : addRecord defaultMod dexes number record formats = .ok formats') :
    ∀ id f, formats'.get? id = some f → f.IsRegisteredAs id := by
  unfold addRecord at h
  dsimp only at h
  split_ifs at h with h1 h2 h3 h4
  · cases h
    exact hw
  · split at h
    · next f hf =>
      cases h
      intro id g hg
      rw [Assoc.get?_insert] at hg
      split_ifs at hg with hid
      · cases hg
        rw [hid]
        exact Format.isRegisteredAs_of_ofRecord hf h2
      · exact hw id g hg
    · cases h

theorem addEntries_wellFormed {defaultMod : String} {dexes : DexCollection} :
    ∀ {entries : List FormatEntry} {number : Nat} {formats formats' : Assoc String Format},
      (∀ id f, formats.get? id = some f → f.IsRegisteredAs id) →
      addEntries defaultMod dexes number entries formats = .ok formats' →
      ∀ id f, formats'.get? id = some f → f.IsRegisteredAs id
  | [], number, formats, formats', hw, h => by
    cases h
    exact hw
  | e :: rest, number, formats, formats', hw, h => by
    unfold addEntries at h
    cases he : readEntry number e with
    | error cause =>
      rw [he] at h
      cases h
    | ok record =>
      rw [he] at h
      cases ha : addRecord defaultMod dexes number record formats with
      | error cause =>
        simp only [bind, Except.bind, ha] at h
        cases h
      | ok formats₁ =>
        simp only [bind, Except.bind, ha] at h
        exact addEntries_wellFormed (addRecord_wellFormed hw ha) h

theorem wellFormed_of_build {config : Config} {dexes : DexCollection} {aliases : Json}
    {entries : List FormatEntry} {r : FormatRegistry}
    (h : build config dexes aliases entries = .ok r) : r.WellFormed := by
  unfold build at h
  split at h
  · cases h
  · cases ha : readAliases aliases with
    | error cause =>
      rw [ha] at h
      cases h
    | ok table =>
      cases he : addEntries config.defaultMod dexes 1 entries .empty with
      | error cause =>
        simp only [bind, Except.bind, ha, he] at h
        cases h
      | ok formats =>
        simp only [bind, Except.bind, ha, he] at h
        cases h
        exact addEntries_wellFormed (fun id f hf => by simp at hf) he

/-! ### What a registry gives out -/

/-- The formats that a registry gives out. -/
inductive Offers (r : FormatRegistry) : Format → Prop
  | missing (name : Json) (h : r.formats.get? name.toId = none) : Offers r (.missing name)
  | known (base : Format) (rules : List String) (h : r.formats.get? base.id = some base)
      (hcomma : ∀ rule ∈ rules, ',' ∉ rule.toList) : Offers r (base.withCustomRules rules)

variable {r : FormatRegistry} {f g : Format}

theorem Offers.registered (hr : r.WellFormed) {id : String} (h : r.formats.get? id = some f) :
    r.Offers f := by
  have hf := hr id f h
  have hbase : f.withCustomRules [] = f := by
    rw [← hf.bare]
    rfl
  rw [← hbase]
  exact .known f [] (hf.id_eq.symm ▸ h) (by simp)

theorem byId?_eq_some {id : String} (h : r.byId? id = some f) :
    ∃ id', r.formats.get? id' = some f := by
  unfold byId? at h
  split at h
  · next f' hf' =>
    cases h
    exact ⟨_, hf'⟩
  · exact ⟨_, h⟩

theorem byId?_eq_none {id : String} (h : r.byId? id = none) : r.formats.get? id = none := by
  unfold byId? at h
  split at h
  · cases h
  · exact h

theorem comma_notMem_splitName {name rule : String} (h : rule ∈ (splitName name).2) :
    ',' ∉ rule.toList := by
  unfold splitName at h
  split at h
  · simp at h
  · next before after hcut =>
    simp only [List.mem_map, List.mem_filter] at h
    obtain ⟨cs, ⟨⟨part, hpart, rfl⟩, -⟩, rfl⟩ := h
    rw [String.toList_ofList]
    exact fun hc => Text.notMem_of_mem_splitAt hpart ((Text.trimBy_sublist _ part).subset hc)

/-- Whatever a name finds is given out. -/
theorem offers_getFormat (hr : r.WellFormed) (name : String) : r.Offers (r.getFormat name) := by
  unfold getFormat
  dsimp only
  cases hb : r.byId? (r.resolveAlias (splitName name).1).toId with
  | none => exact .missing _ (byId?_eq_none hb)
  | some base =>
    obtain ⟨id, hid⟩ := byId?_eq_some hb
    dsimp only
    split_ifs with hrules
    · exact .registered hr hid
    · have hbase := hr id base hid
      exact .known base _ (hbase.id_eq.symm ▸ hid) fun rule h => comma_notMem_splitName h

/-- Custom rules without commas may take the place of those that are there. -/
theorem Offers.withCustomRules (h : r.Offers f) (hk : f.isKnown = true) {rules : List String}
    (hcomma : ∀ rule ∈ rules, ',' ∉ rule.toList) : r.Offers (f.withCustomRules rules) := by
  cases h with
  | missing name h => cases hk
  | known base rules' h _ => exact .known base rules h hcomma

theorem Offers.name_ne (hr : r.WellFormed) (h : r.Offers f) (hk : f.isKnown = true) :
    f.name ≠ "" := by
  cases h with
  | missing name h => cases hk
  | known base rules h _ => exact (hr _ base h).name_ne

/-- A format that does not exist has no rules. -/
theorem Offers.rules_of_missing (h : r.Offers f) (hk : f.isKnown = false) (hr : r.WellFormed) :
    f.workingRules = [] ∧ f.declaredHook? = none := by
  cases h with
  | missing name h => exact ⟨rfl, rfl⟩
  | known base rules h _ =>
    have : base.isKnown = true := (hr _ base h).known
    rw [Format.withCustomRules, this] at hk
    cases hk

/-! ### Keys -/

theorem Offers.atSign_notMem_id (hr : r.WellFormed) (h : r.Offers f) : '@' ∉ f.id.toList := by
  cases h with
  | missing name h => exact Json.atSign_notMem_toId name
  | known base rules h _ =>
    change '@' ∉ base.id.toList
    rw [← (hr _ base h).toId_name]
    exact Text.atSign_notMem_toId _

theorem Offers.comma_notMem (h : r.Offers f) :
    ∀ rule ∈ f.customRules, ',' ∉ rule.toList := by
  cases h with
  | missing name h => simp [Format.missing]
  | known base rules h hcomma => exact hcomma

/-- The identifier stands in a key before the mark. -/
theorem takeWhile_key (h : '@' ∉ f.id.toList) :
    f.key.toList.takeWhile (· ≠ '@') = f.id.toList := by
  have hid : ∀ c ∈ f.id.toList, decide (c ≠ '@') = true := fun c hc => by
    simpa using fun hat : c = '@' => h (hat ▸ hc)
  unfold Format.key
  split_ifs
  · exact List.takeWhile_eq_self_iff.mpr hid
  · rw [String.toList_append, String.toList_append, List.append_assoc,
      List.takeWhile_append_of_pos hid]
    simp [Format.customRulesMark]

theorem intercalate_injective {rules rules' : List String} (hne : rules ≠ [])
    (hne' : rules' ≠ []) (h : ∀ rule ∈ rules, ',' ∉ rule.toList)
    (h' : ∀ rule ∈ rules', ',' ∉ rule.toList)
    (heq : String.intercalate "," rules = String.intercalate "," rules') : rules = rules' := by
  have hsplit : ∀ rules : List String, rules ≠ [] → (∀ rule ∈ rules, ',' ∉ rule.toList) →
      (String.intercalate "," rules).toList.splitOn ',' = rules.map String.toList := by
    intro rules hne h
    rw [String.toList_intercalate]
    refine List.splitOn_intercalate ',' (fun l hl => ?_) (by simpa using hne)
    obtain ⟨rule, hrule, rfl⟩ := List.mem_map.mp hl
    exact h rule hrule
  have hmap := hsplit rules hne h
  rw [heq, hsplit rules' hne' h'] at hmap
  exact (List.map_injective_iff.mpr (fun _ _ => String.toList_inj.mp) hmap).symm

/-- A key tells the identifier and the custom rules. -/
theorem Offers.parts_of_key_eq (hr : r.WellFormed) (hf : r.Offers f) (hg : r.Offers g)
    (hk : f.key = g.key) : f.id = g.id ∧ f.customRules = g.customRules := by
  have hid : f.id = g.id := by
    rw [← String.toList_inj, ← takeWhile_key (hf.atSign_notMem_id hr),
      ← takeWhile_key (hg.atSign_notMem_id hr), hk]
  refine ⟨hid, ?_⟩
  unfold Format.key at hk
  rw [hid] at hk
  split_ifs at hk with h1 h2 h2
  · rw [List.isEmpty_iff.mp h1, List.isEmpty_iff.mp h2]
  · simp [← String.toList_inj, Format.customRulesMark] at hk
  · simp [← String.toList_inj, Format.customRulesMark] at hk
  · rw [String.append_assoc, String.append_assoc, String.append_right_inj,
      String.append_right_inj] at hk
    exact intercalate_injective (by simpa using h1) (by simpa using h2) hf.comma_notMem
      hg.comma_notMem hk

/-- **Keys tell formats apart**, except formats that do not exist. -/
theorem Offers.eq_of_key_eq (hr : r.WellFormed) (hf : r.Offers f) (hg : r.Offers g)
    (hk : f.key = g.key) : f = g ∨ (f.isKnown = false ∧ g.isKnown = false) := by
  obtain ⟨hid, hrules⟩ := hf.parts_of_key_eq hr hg hk
  cases hf with
  | missing name h =>
    cases hg with
    | missing name' h' => exact .inr ⟨rfl, rfl⟩
    | known base rules h' hcomma =>
      have hid' : name.toId = base.id := hid
      rw [hid', h'] at h
      cases h
  | known base rules h hcomma =>
    cases hg with
    | missing name' h' =>
      have hid' : base.id = name'.toId := hid
      rw [← hid', h] at h'
      cases h'
    | known base' rules' h' hcomma' =>
      have hid' : base.id = base'.id := hid
      have hrules' : rules = rules' := hrules
      rw [hid', h'] at h
      cases h
      rw [hrules']
      exact .inl rfl

end FormatRegistry

end TeamLegality
