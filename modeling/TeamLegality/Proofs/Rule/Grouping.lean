import TeamLegality.Rule.Ban
import Mathlib.Data.List.Induction
import Mathlib.Data.List.Nodup
import Mathlib.Tactic.SplitIfs

/-!
# Grouping — what a grouped ban says of the targets that it comes from

Grouping targets by category loses nothing but their order and repetitions: the keys of the ban are
the targets, each once (`keys_perm`).  So counting the keys that are present counts targets, and
matching asks for all targets of the categories of which a set has several values, but of the others
only for one of those listed (`isMatchedBy_ofTargets`).
-/

namespace TeamLegality

/-! ### Lists without repetitions -/

section EraseDups

variable {α : Type} [BEq α] [LawfulBEq α]

theorem eraseDups_snoc (l : List α) (a : α) :
    (l ++ [a]).eraseDups = if a ∈ l then l.eraseDups else l.eraseDups ++ [a] := by
  rw [List.eraseDups_append]
  by_cases ha : a ∈ l
  · have hnew : [a].removeAll l = [] := by simp [List.removeAll, ha]
    rw [if_pos ha, hnew, List.eraseDups_nil, List.append_nil]
  · have hnew : [a].removeAll l = [a] := by simp [List.removeAll, ha]
    rw [if_neg ha, hnew]
    rfl

theorem nodup_eraseDups (l : List α) : l.eraseDups.Nodup := by
  induction l using List.reverseRecOn with
  | nil => simp
  | append_singleton l a ih =>
    rw [eraseDups_snoc]
    split_ifs with ha
    · exact ih
    · have hne : ∀ b ∈ l.eraseDups, b ≠ a := by
        rintro b hb rfl
        exact ha (List.mem_eraseDups.mp hb)
      exact List.nodup_append.mpr ⟨ih, by simp, by simpa using hne⟩

end EraseDups

/-- The number of targets among some features, repetitions not counted. -/
def Target.countIn (features targets : List Target) : Nat :=
  (targets.eraseDups.filter features.contains).length

namespace Ban

variable {targets has : List Target} {target : Target} {c : Category} {id text : String}

/-- Features fall under targets: where a set has a single value, one of the targets of that category
is there, and otherwise each target is. -/
structure Covers (targets has : List Target) : Prop where
  single : ∀ c ∈ singleValued, ∀ id, .entry c id ∈ targets →
    ∃ id', .entry c id' ∈ targets ∧ .entry c id' ∈ has
  multi : ∀ c ∈ multiValued, ∀ id, .entry c id ∈ targets → .entry c id ∈ has
  plain : ∀ text, .plain text ∈ targets → .plain text ∈ has

/-! ### Groups and keys -/

theorem mem_idsIn : id ∈ idsIn c targets ↔ .entry c id ∈ targets := by
  unfold idsIn
  rw [List.mem_eraseDups, List.mem_filterMap]
  constructor
  · rintro ⟨target, hmem, h⟩
    split at h
    · split_ifs at h with hc
      cases h
      exact hc ▸ hmem
    · cases h
  · exact fun h => ⟨_, h, by simp⟩

theorem mem_plainOnes : text ∈ plainOnes targets ↔ .plain text ∈ targets := by
  unfold plainOnes
  rw [List.mem_eraseDups, List.mem_filterMap]
  constructor
  · rintro ⟨target, hmem, h⟩
    split at h
    · cases h
    · cases h
      exact hmem
  · exact fun h => ⟨_, h, rfl⟩

theorem group_ofTargets (c : Category) : (ofTargets targets).group c = idsIn c targets := by
  cases c <;> rfl

theorem mem_keys_ofTargets : target ∈ (ofTargets targets).keys ↔ target ∈ targets := by
  unfold keys
  simp only [List.mem_append, List.mem_flatMap, List.mem_map, group_ofTargets, mem_idsIn]
  cases target with
  | entry c id => simp [Category.mem_all]
  | plain text =>
    have hother : text ∈ (ofTargets targets).other ↔ .plain text ∈ targets := mem_plainOnes
    simp [hother]

theorem nodup_keys_ofTargets : (ofTargets targets).keys.Nodup := by
  unfold keys
  have hplain : ((ofTargets targets).other.map Target.plain).Nodup :=
    (nodup_eraseDups _).map fun a b h => by simpa using h
  have hentries : (Category.all.flatMap fun c =>
      ((ofTargets targets).group c).map (Target.entry c)).Nodup := by
    rw [List.nodup_flatMap]
    refine ⟨fun c _ => ?_, ?_⟩
    · rw [group_ofTargets]
      exact (nodup_eraseDups _).map fun a b h => by simpa using h
    · have hall : Category.all.Nodup := by decide
      refine hall.imp fun {c c'} hne => ?_
      simp only [Function.onFun, List.disjoint_left, List.mem_map]
      rintro _ ⟨id, -, rfl⟩ ⟨id', -, h⟩
      exact hne (by simpa using (Target.entry.inj h).1.symm)
  refine List.nodup_append.mpr ⟨hentries, hplain, ?_⟩
  simp only [List.mem_flatMap, List.mem_map]
  rintro _ ⟨c, -, id, -, rfl⟩ _ ⟨text, -, rfl⟩
  simp

/-- **The keys of a grouped ban are its targets, each once.** -/
theorem keys_perm : (ofTargets targets).keys.Perm targets.eraseDups := by
  refine (List.perm_ext_iff_of_nodup nodup_keys_ofTargets (nodup_eraseDups _)).mpr fun a => ?_
  rw [mem_keys_ofTargets, List.mem_eraseDups]

/-! ### Counting and matching -/

theorem count_ofTargets : (ofTargets targets).count has = Target.countIn has targets :=
  (keys_perm.filter _).length_eq

/-- **What it takes to fall under a grouped ban.** -/
theorem isMatchedBy_ofTargets :
    (ofTargets targets).isMatchedBy has = true ↔ Covers targets has := by
  have hsingle : ∀ c, ((idsIn c targets).isEmpty || (idsIn c targets).any fun id =>
      has.contains (.entry c id)) = true ↔ ∀ id, .entry c id ∈ targets →
        ∃ id', .entry c id' ∈ targets ∧ .entry c id' ∈ has := by
    intro c
    simp only [Bool.or_eq_true, List.isEmpty_iff, List.any_eq_true, List.contains_iff_mem,
      mem_idsIn, List.eq_nil_iff_forall_not_mem]
    constructor
    · rintro (hnone | hsome) id hid
      · exact absurd hid (hnone id)
      · exact hsome
    · intro h
      by_cases hex : ∃ id, .entry c id ∈ targets
      · obtain ⟨id, hid⟩ := hex
        exact .inr (h id hid)
      · exact .inl (not_exists.mp hex)
  unfold isMatchedBy
  simp only [Bool.and_eq_true, List.all_eq_true, group_ofTargets, hsingle]
  have hother : ∀ text, text ∈ (ofTargets targets).other ↔ .plain text ∈ targets :=
    fun text => mem_plainOnes
  simp only [hother, mem_idsIn, List.contains_iff_mem]
  exact ⟨fun ⟨⟨h1, h2⟩, h3⟩ => ⟨h1, h2, h3⟩, fun h => ⟨⟨h.single, h.multi⟩, h.plain⟩⟩

end Ban

end TeamLegality
