import TeamLegality.Proofs.Rule.Naming

/-!
# Categories — what asking for a category adds to a name

A name that asks for no category is looked up in all of them (`resolve_unasked`), and what matches
there is what the name names when it asks for one category after the other (`mem_found_iff`).  So
asking for the category of what a name names changes nothing, asking for that of one of several
matches picks that match, and a name that matches nothing does so in every category
(`category_settles`).
-/

namespace TeamLegality

/-- The category to ask for: that of an entry itself, and for all formes of a species that of the
species. -/
def Category.asked : Category → Category
  | .baseSpecies => .pokemon
  | c => c

/-- The category to ask for to get a target, unless the target is a plain word. -/
def Target.asked? : Target → Option Category
  | .entry c _ => some c.asked
  | .plain _ => none

namespace BanTarget

variable {d : Dex} {name id : String} {c : Category} {target : Target}

/-! ### Names that ask for no category -/

/-- A name begins with the word of a category and a colon, but for outer blanks and for case. -/
def BeginsWithCategory (name : String) : Prop :=
  ∃ c ∈ categories, c.word.toList ++ [':'] <+: (Text.foldCase (Text.strip name)).toList

instance (name : String) : Decidable (BeginsWithCategory name) :=
  inferInstanceAs (Decidable (∃ c ∈ categories, _))

theorem askedCategory?_eq_none_iff : askedCategory? name = none ↔ ¬ BeginsWithCategory name := by
  unfold askedCategory? BeginsWithCategory
  simp only [List.find?_eq_none, List.isPrefixOf_iff_prefix, not_exists, not_and]

/-- What matches a name in any category, in the order in which they are searched. -/
def found (d : Dex) (name : String) : List Target :=
  categories.filterMap (inCategory? d (Text.toId name))

/-- **What a name that asks for no category names**: itself if it is a plain word, and otherwise the
only match in all categories. -/
theorem resolve_unasked (d : Dex) (h : ¬ BeginsWithCategory name) :
    resolve d name = .ok (.plain (Text.toId name))
    ∨ (∃ target, found d name = [target] ∧ resolve d name = .ok target)
    ∨ (found d name = [] ∧ resolve d name = .error (.noTarget name))
    ∨ (2 ≤ (found d name).length
      ∧ resolve d name = .error (.ambiguousTarget name (found d name))) := by
  have hfound : categories.filterMap (inCategory? d (Text.toId name)) = found d name := rfl
  unfold resolve
  simp only [askedCategory?_eq_none_iff.mpr h, hfound]
  split_ifs with hplain
  · exact .inl rfl
  · rcases found d name with _ | ⟨first, _ | ⟨second, rest⟩⟩
    · exact .inr (.inr (.inl ⟨rfl, rfl⟩))
    · exact .inr (.inl ⟨first, rfl, rfl⟩)
    · exact .inr (.inr (.inr ⟨by simp, rfl⟩))

/-! ### Matches -/

theorem asked?_of_species? (h : species? d id = some target) : target.asked? = some .pokemon := by
  unfold species? at h
  split at h
  · next s _ =>
    cases h
    cases s.otherFormes.isEmpty <;> rfl
  · dsimp only at h
    split_ifs at h
    cases h
    rfl

/-- What matches in a category is an entry to get which that category has to be asked for. -/
theorem asked?_of_inCategory? (h : inCategory? d id c = some target) : target.asked? = some c := by
  unfold inCategory? at h
  cases c <;> dsimp only at h
  case pokemon => exact asked?_of_species? h
  case baseSpecies => cases h
  all_goals
    split_ifs at h
    cases h
    rfl

/-- **The matches of a name** are what it names when it asks for a category. -/
theorem mem_found_iff : target ∈ found d name
    ↔ ∃ c ∈ categories, resolve d (c.word ++ ":" ++ name) = .ok target := by
  unfold found
  rw [List.mem_filterMap]
  exact exists_congr fun c => and_congr_right fun hc => (resolve_asked_iff hc).symm

/-- A match is what the name names when it asks for the category of the match. -/
theorem resolve_of_mem_found (h : target ∈ found d name) : ∃ c id, target = .entry c id
    ∧ c.asked ∈ categories ∧ resolve d (c.asked.word ++ ":" ++ name) = .ok target := by
  obtain ⟨c, hc, hresolve⟩ := mem_found_iff.mp h
  have hasked := asked?_of_inCategory? ((resolve_asked_iff hc).mp hresolve)
  cases target with
  | plain text => cases hasked
  | entry c' id =>
    cases hasked
    exact ⟨c', id, rfl, hc, hresolve⟩

/-- No two matches are of one category. -/
theorem pairwise_found : (found d name).Pairwise fun a b => a.asked? ≠ b.asked? := by
  have hcategories : categories.Pairwise (· ≠ ·) := by decide
  unfold found
  rw [List.pairwise_filterMap]
  refine hcategories.imp fun hne a ha b hb hsame => hne ?_
  rw [asked?_of_inCategory? ha, asked?_of_inCategory? hb] at hsame
  exact Option.some.inj hsame

/-- A name that matches nothing does so in every category. -/
theorem resolve_of_found_eq_nil (h : found d name = []) (hc : c ∈ categories) :
    resolve d (c.word ++ ":" ++ name) = .error (.noTarget (c.word ++ ":" ++ name)) := by
  rw [resolve_asked hc, List.filterMap_eq_nil_iff.mp h c hc]

/-- **Asking for a category settles what a name means.**  For a name that does not ask for one
already: asking for the category of the entry that the name names gives the same entry.  When several
things match, no two of them are of one category, and asking for the category of any of them gives
that one.  When nothing matches, nothing does in any category. -/
theorem category_settles (d : Dex) (name : String) (h : ¬ BeginsWithCategory name) :
    (∀ c id, resolve d name = .ok (.entry c id) →
      resolve d (c.asked.word ++ ":" ++ name) = .ok (.entry c id))
    ∧ (∀ text targets, resolve d name = .error (.ambiguousTarget text targets) →
      text = name ∧ 2 ≤ targets.length ∧ (targets.Pairwise fun a b => a.asked? ≠ b.asked?)
      ∧ ∀ target ∈ targets, ∃ c id, target = .entry c id ∧ c.asked ∈ categories
        ∧ resolve d (c.asked.word ++ ":" ++ name) = .ok target)
    ∧ ∀ text, resolve d name = .error (.noTarget text) →
      text = name ∧ ∀ c ∈ categories,
        resolve d (c.word ++ ":" ++ name) = .error (.noTarget (c.word ++ ":" ++ name)) := by
  rcases resolve_unasked d h with hplain | ⟨target, hfound, hone⟩ | ⟨hfound, hnone⟩ | ⟨htwo, hmany⟩
  · rw [hplain]
    exact ⟨nofun, nofun, nofun⟩
  · rw [hone]
    refine ⟨fun c id heq => ?_, nofun, nofun⟩
    cases heq
    have hmem : .entry c id ∈ found d name := hfound ▸ List.mem_singleton_self _
    obtain ⟨_, _, heq, -, hresolve⟩ := resolve_of_mem_found hmem
    cases heq
    exact hresolve
  · rw [hnone]
    refine ⟨nofun, nofun, fun text heq => ?_⟩
    cases heq
    exact ⟨rfl, fun c => resolve_of_found_eq_nil hfound⟩
  · rw [hmany]
    refine ⟨nofun, fun text targets heq => ?_, nofun⟩
    cases heq
    exact ⟨rfl, htwo, pairwise_found, fun target => resolve_of_mem_found⟩

end BanTarget

/-! ### A dex with several things of one name -/

namespace Namesakes

open Naming

/-- A document in which a move and an item have one name, and another one for an alias, and a species
has other formes. -/
def document : Json := .obj [
  ("species", .obj [("pikachu", named "Pikachu" [("otherFormes", .arr [.str "Pikachu-Cosplay"])])]),
  ("moves", .obj [("metronome", named "Metronome" [])]),
  ("items", .obj [("metronome", named "Metronome" [])]),
  ("aliases", .obj [("metro", .str "Metronome")])]

theorem isSome_dex : (dexOf? document).isSome = true := by decide +kernel

/-- The dex of the document. -/
def dex : Dex := (dexOf? document).get isSome_dex

end Namesakes

namespace BanTarget

open Namesakes

/-- A species with other formes, an alias of two things, and a name of nothing. -/
theorem category_settles_namesakes :
    (resolve dex " Pikachu " = .ok (.entry .baseSpecies "pikachu")
      ∧ resolve dex "pokemon: Pikachu " = .ok (.entry .baseSpecies "pikachu"))
    ∧ (resolve dex "Metro"
        = .error (.ambiguousTarget "Metro" [.entry .move "metronome", .entry .item "metronome"])
      ∧ resolve dex "item:Metro" = .ok (.entry .item "metronome"))
    ∧ (resolve dex "Cosplay" = .error (.noTarget "Cosplay")
      ∧ resolve dex "pokemontag:Cosplay" = .error (.noTarget "pokemontag:Cosplay")) := by
  have hone : resolve dex " Pikachu " = .ok (.entry .baseSpecies "pikachu") := by decide +kernel
  have hmany : resolve dex "Metro" = .error
      (.ambiguousTarget "Metro" [.entry .move "metronome", .entry .item "metronome"]) := by
    decide +kernel
  have hnone : resolve dex "Cosplay" = .error (.noTarget "Cosplay") := by decide +kernel
  -- The texts in question, as the words of categories in front of names.
  have htexts : "pokemon: Pikachu " = Category.baseSpecies.asked.word ++ ":" ++ " Pikachu "
      ∧ "item:Metro" = Category.item.asked.word ++ ":" ++ "Metro"
      ∧ "pokemontag:Cosplay" = Category.tag.word ++ ":" ++ "Cosplay" := by decide
  obtain ⟨hpikachu, hmetro, hcosplay⟩ := htexts
  obtain ⟨-, -, -, heach⟩ := (category_settles dex "Metro" (by decide +kernel)).2.1 _ _ hmany
  obtain ⟨c, id, heq, -, hitem⟩ := heach (.entry .item "metronome") (by simp)
  obtain ⟨rfl, rfl⟩ := Target.entry.inj heq
  rw [hpikachu, hmetro, hcosplay]
  refine ⟨⟨hone, ?_⟩, ⟨hmany, hitem⟩, hnone, ?_⟩
  · exact (category_settles dex " Pikachu " (by decide +kernel)).1 _ _ hone
  · exact ((category_settles dex "Cosplay" (by decide +kernel)).2.2 _ hnone).2 .tag (by decide)

end BanTarget

end TeamLegality
