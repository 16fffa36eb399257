import TeamLegality.Dex.Loading
import TeamLegality.Proofs.Assoc
import TeamLegality.Proofs.Fallible
import TeamLegality.Proofs.Text.Integers

/-!
# Mods — the names under which dexes are loaded

A mod tells its generation by the number in its name.  The mod that is made for a generation does so
exactly if the generation is not too long to be read back (`exists_generationOf_modOfGen_iff`), and
where one set of tables serves several generations, the latest of them was read back.  So every mod
of a collection that was loaded tells its generation (`exists_generationOf`).
-/

namespace TeamLegality

/-! ### The mod of a generation -/

namespace Text

theorem takeWhile_isDecimal_repr (n : Nat) :
    (Nat.repr n).toList.takeWhile isDecimal = (Nat.repr n).toList := by
  rw [List.takeWhile_eq_self_iff]
  intro c hc
  rw [isDecimal, decimalValue?_of_isDigit (charIsDigit_of_mem_repr hc)]
  rfl

/-- A printed number is too long to be read back if it is too large. -/
theorem integer?_repr_eq_none {n : Nat} (h : 10 ^ maxDigits ≤ n) :
    integer? (Nat.repr n).toList = none := by
  have hdigits : (Nat.repr n).toList.all isDigit = true :=
    List.all_eq_true.mpr fun _ => isDigit_of_mem_repr
  have hlength : ¬ (Nat.repr n).toList.length ≤ maxDigits := by
    rw [Nat.toList_repr, Nat.length_toDigits_le_iff (by decide) (by decide)]
    exact not_lt.mpr h
  exact (integer?_eq_none_iff hdigits (toList_repr_ne_nil n)).mpr (.inr (not_le.mp hlength))

end Text

theorem generationOf_modOfGen (n : Nat) : generationOf (some (Dex.modOfGen n)) =
    match Text.integer? (Nat.repr n).toList with
    | some gen => .ok gen
    | none => .error .unreadable := by
  have hmod : (Dex.modOfGen n).toList = "gen".toList ++ (Nat.repr n).toList := by
    rw [Dex.modOfGen, String.toList_append]
    rfl
  have hgen : "gen".toList.isPrefixOf ("gen".toList ++ (Nat.repr n).toList) = true := by simp
  have hdrop : ("gen".toList ++ (Nat.repr n).toList).drop 3 = (Nat.repr n).toList :=
    List.drop_left' rfl
  unfold generationOf
  rw [Option.getD_some, hmod]
  dsimp only
  rw [if_pos hgen, hdrop, Text.takeWhile_isDecimal_repr]
  split
  · next hnil => exact absurd hnil (Text.toList_repr_ne_nil n)
  · cases Text.integer? (Nat.repr n).toList <;> rfl

/-- **The mod of a generation tells it**, unless its digits are too many. -/
theorem exists_generationOf_modOfGen_iff {n : Nat} :
    (∃ gen, generationOf (some (Dex.modOfGen n)) = .ok gen) ↔ n < 10 ^ Text.maxDigits := by
  rw [generationOf_modOfGen]
  constructor
  · rintro ⟨gen, h⟩
    by_contra hlarge
    rw [Text.integer?_repr_eq_none (not_lt.mp hlarge)] at h
    cases h
  · intro h
    rw [Text.integer?_repr h]
    exact ⟨n, rfl⟩

/-! ### Loaded collections -/

namespace Dex

variable {mod : String} {payload : Json} {d : Dex}

/-- A dex keeps its mod, which tells the generation of the dex. -/
theorem mod_of_ofJson (h : ofJson mod payload = .ok d) :
    d.mod = mod ∧ generationOf (some mod) = .ok d.gen := by
  unfold ofJson at h
  split at h
  · unfold ofMembers at h
    obtain ⟨species, -, h⟩ := bind_eq_ok_iff.mp h
    obtain ⟨moves, -, h⟩ := bind_eq_ok_iff.mp h
    obtain ⟨items, -, h⟩ := bind_eq_ok_iff.mp h
    obtain ⟨abilities, -, h⟩ := bind_eq_ok_iff.mp h
    obtain ⟨gen, hgen, h⟩ := bind_eq_ok_iff.mp h
    obtain ⟨aliases, -, h⟩ := bind_eq_ok_iff.mp h
    cases h
    exact ⟨rfl, mapError_eq_ok_iff.mp hgen⟩
  · cases h

end Dex

namespace DexCollection

variable {dexes : DexCollection} {mod : String}

/-- The collections that documents give: one set of tables for several generations, of which none
is negative, or a set of tables for each mod. -/
inductive IsLoaded (dexes : DexCollection) : Prop
  | shared {payload : Json} {gens : List Int} (hgens : ∀ gen ∈ gens, 0 ≤ gen)
      (h : DexCollection.shared payload gens = .ok dexes)
  | separate {payloads : Json} (h : DexCollection.separate payloads = .ok dexes)

/-- What a document gives is one of the two. -/
theorem isLoaded_of_load {document : Json} {gens : List Int} (hgens : ∀ gen ∈ gens, 0 ≤ gen)
    (h : load document gens = .ok dexes) : IsLoaded dexes := by
  unfold load at h
  split at h
  · split at h
    · exact .separate h
    · exact .shared hgens h
  · split_ifs at h
    exact .shared hgens h
  · split_ifs at h
    exact .shared hgens h
  · cases h

theorem contains_ofDexes_iff {l : List Dex} :
    (ofDexes l).contains mod = true ↔ ∃ d ∈ l, d.mod = mod := by
  rw [Assoc.contains_iff_mem_keys, ofDexes, Assoc.mem_keys_ofList, List.map_map, List.mem_map]
  rfl

theorem exists_generationOf_of_shared {payload : Json} {gens : List Int}
    (hgens : ∀ gen ∈ gens, 0 ≤ gen) (h : shared payload gens = .ok dexes)
    (hmod : dexes.contains mod = true) : ∃ gen, generationOf (some mod) = .ok gen := by
  unfold shared at h
  split at h
  · cases h
  · next latest hlatest =>
    obtain ⟨hmem, hle⟩ := List.max?_eq_some_iff.mp hlatest
    obtain ⟨base, hbase, h⟩ := bind_eq_ok_iff.mp h
    cases h
    obtain ⟨d, hd, rfl⟩ := contains_ofDexes_iff.mp hmod
    obtain ⟨gen, hgen, rfl⟩ := List.mem_map.mp hd
    -- The latest generation was read back, and no other one has more digits.
    obtain ⟨n, rfl⟩ := Int.eq_ofNat_of_zero_le (hgens latest hmem)
    obtain ⟨m, rfl⟩ := Int.eq_ofNat_of_zero_le (hgens gen hgen)
    have hn : n < 10 ^ Text.maxDigits :=
      exists_generationOf_modOfGen_iff.mp ⟨_, (Dex.mod_of_ofJson hbase).2⟩
    have hm : m ≤ n := Int.ofNat_le.mp (hle m hgen)
    exact exists_generationOf_modOfGen_iff.mpr (hm.trans_lt hn)

theorem exists_generationOf_of_separate {payloads : Json} (h : separate payloads = .ok dexes)
    (hmod : dexes.contains mod = true) : ∃ gen, generationOf (some mod) = .ok gen := by
  unfold separate at h
  split at h
  · next members =>
    obtain ⟨l, hl, h⟩ := bind_eq_ok_iff.mp h
    cases h
    obtain ⟨d, hd, rfl⟩ := contains_ofDexes_iff.mp hmod
    obtain ⟨member, -, hmember⟩ := exists_of_mem_forall₂ (mapM_eq_ok_iff.mp hl) hd
    obtain ⟨hname, hgen⟩ := Dex.mod_of_ofJson hmember
    exact ⟨d.gen, hname ▸ hgen⟩
  · cases h

/-- **Every mod of a loaded collection tells its generation.** -/
theorem IsLoaded.exists_generationOf (h : IsLoaded dexes) (hmod : dexes.contains mod = true) :
    ∃ gen, generationOf (some mod) = .ok gen := by
  cases h with
  | shared hgens h => exact exists_generationOf_of_shared hgens h hmod
  | separate h => exact exists_generationOf_of_separate h hmod

end DexCollection

end TeamLegality
