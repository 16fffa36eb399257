import TeamLegality.Dex.Loading
import TeamLegality.Legality.SetContext
import TeamLegality.Proofs.Format.Relisting
import TeamLegality.Proofs.Legality.Features
import TeamLegality.Proofs.RuleTable.Origins

/-!
# Naming — what a ban names, and what a look-up finds

A ban that asks for a category reads the table of the category under the alias of its name, or under
its identifier if there is no alias (`resolve_asked`).  A look-up reads the same table, but under
the identifier first, and it knows the typed Hidden Powers that no table lists.  What is found can
be banned by its name where the two come to the same entry (`banned_by_name`).
-/

namespace TeamLegality

namespace Text

/-- The blanks at the end of a text stand behind all that is not blank. -/
theorem trimEnd_append_cons {c : Char} (hc : isBlank c = false) (as bs : List Char) :
    trimEnd (as ++ c :: bs) = as ++ c :: trimEnd bs := by
  have hreverse : (as ++ c :: bs).reverse = bs.reverse ++ (c :: as.reverse) := by simp
  unfold trimEnd
  rw [hreverse, List.dropWhile_append]
  split_ifs with hempty
  · rw [List.isEmpty_iff] at hempty
    simp [hempty, hc]
  · simp

end Text

namespace Species

/-- The identifier under which a species is banned: its own, or that of its base species when it
lists other formes. -/
def banId (s : Species) : String :=
  if s.otherFormes.isEmpty then s.id else Text.toId s.baseSpecies

/-- The target that a species is banned by: all formes together when it lists other formes. -/
def banTarget (s : Species) : Target :=
  .entry (if s.otherFormes.isEmpty then .pokemon else .baseSpecies) s.banId

/-- A species is banned by one of its features. -/
theorem banTarget_mem_features (s : Species) : s.banTarget ∈ s.features := by
  unfold banTarget banId features
  cases s.otherFormes.isEmpty <;> simp

theorem banTarget_eq_pokemon_iff (s : Species) {id : String} :
    s.banTarget = .entry .pokemon id ↔ s.otherFormes.isEmpty = true ∧ s.id = id := by
  unfold banTarget banId
  cases s.otherFormes.isEmpty <;> simp

end Species

namespace BanTarget

variable {d : Dex} {name id : String} {c : Category} {target : Target}

/-! ### Asking for a category -/

/-- A word that is its own identifier, is folded to itself, and starts with no blank. -/
structure ReadsAsIs (word : String) : Prop where
  toId_eq : Text.toId word = word
  fold_eq : word.toList.map Text.foldChar = word.toList
  head : ∃ first rest, word.toList = first :: rest ∧ Text.isBlank first = false

theorem cases_of_mem_categories (hc : c ∈ categories) :
    c = .pokemon ∨ c = .move ∨ c = .ability ∨ c = .item ∨ c = .tag := by
  simpa [categories] using hc

theorem readsAsIs_of_mem (hc : c ∈ categories) : ReadsAsIs c.word := by
  rcases cases_of_mem_categories hc with rfl | rfl | rfl | rfl | rfl <;>
    exact ⟨by decide, by decide, _, _, rfl, by decide⟩

theorem folded_word (hc : c ∈ categories) (name : String) :
    (Text.foldCase (Text.strip (c.word ++ ":" ++ name))).toList
      = c.word.toList ++ ':' :: (Text.trimEnd name.toList).map Text.foldChar := by
  obtain ⟨-, hfold, first, rest, hword, hfirst⟩ := readsAsIs_of_mem hc
  have htext : (c.word ++ ":" ++ name).toList = first :: (rest ++ ':' :: name.toList) := by
    simp [String.toList_append, hword]
  have hcolon : Text.foldChar ':' = ':' := by decide
  rw [Text.toList_foldCase, Text.toList_strip, htext, Text.trim_cons hfirst,
    Text.trimEnd_append_cons (by decide), ← List.cons_append, ← hword, List.map_append, hfold,
    List.map_cons, hcolon]

/-- A word in front of a colon asks for its category. -/
theorem askedCategory?_word (hc : c ∈ categories) (name : String) :
    askedCategory? (c.word ++ ":" ++ name) = some c := by
  unfold askedCategory?
  rw [folded_word hc]
  rcases cases_of_mem_categories hc with rfl | rfl | rfl | rfl | rfl <;> rfl

theorem toId_word (hc : c ∈ categories) (name : String) :
    Text.toId (c.word ++ ":" ++ name) = c.word ++ Text.toId name := by
  have hcolon : Text.toId ":" = "" := by decide
  rw [Text.toId_append, Text.toId_append, (readsAsIs_of_mem hc).toId_eq, hcolon, String.append_empty]

/-- No plain word starts with the word of a category. -/
theorem word_append_notMem_plainWords (hc : c ∈ categories) (id : String) :
    plainWords.contains (c.word ++ id) = false := by
  have hne : ∀ word ∈ plainWords, c.word ++ id ≠ word := by
    intro word hword heq
    have hprefix : c.word.toList <+: word.toList := by
      rw [← heq, String.toList_append]
      exact List.prefix_append _ _
    have hnone : ∀ word ∈ plainWords, ¬ c.word.toList <+: word.toList := by
      rcases cases_of_mem_categories hc with rfl | rfl | rfl | rfl | rfl <;> decide
    exact hnone word hword hprefix
  rw [← Bool.not_eq_true, List.contains_iff_mem]
  exact fun hmem => hne _ hmem rfl

/-- **What a ban that asks for a category names**: what the identifier of its name, or the alias of
that, names in the category. -/
theorem resolve_asked (hc : c ∈ categories) (d : Dex) (name : String) :
    resolve d (c.word ++ ":" ++ name) = match inCategory? d (Text.toId name) c with
      | some target => .ok target
      | none => .error (.noTarget (c.word ++ ":" ++ name)) := by
  have hdrop : String.ofList ((c.word ++ Text.toId name).toList.drop c.word.length)
      = Text.toId name := by
    rw [String.toList_append, ← String.length_toList, List.drop_left, String.ofList_toList]
  unfold resolve
  simp only [toId_word hc, word_append_notMem_plainWords hc, askedCategory?_word hc, hdrop]
  cases inCategory? d (Text.toId name) c <;> rfl

theorem resolve_asked_iff (hc : c ∈ categories) :
    resolve d (c.word ++ ":" ++ name) = .ok target
      ↔ inCategory? d (Text.toId name) c = some target := by
  rw [resolve_asked hc]
  cases inCategory? d (Text.toId name) c <;> simp

/-! ### Moves, items and abilities -/

/-- Whether the table of a category lists an identifier. -/
def lists (d : Dex) : Category → String → Bool
  | .pokemon, id => d.species.contains id
  | .move, id => d.moves.contains id
  | .item, id => d.items.contains id
  | .ability, id => d.abilities.contains id
  | .baseSpecies, _ | .tag, _ => false

/-- The categories in which a name stands for the entry of its table. -/
def entryCategories : List Category := [.move, .item, .ability]

/-- **When a ban by name means an entry**: the alias of the name, or else its identifier, is that of
the entry. -/
theorem resolve_entry_iff (hc : c ∈ entryCategories) :
    resolve d (c.word ++ ":" ++ name) = .ok (.entry c id)
      ↔ d.resolveAlias (Text.toId name) = id ∧ lists d c id = true := by
  have hcases : c = .move ∨ c = .item ∨ c = .ability := by simpa [entryCategories] using hc
  have hasked : c ∈ categories := by rcases hcases with rfl | rfl | rfl <;> decide
  have hin : inCategory? d (Text.toId name) c = if lists d c (d.resolveAlias (Text.toId name))
      then some (.entry c (d.resolveAlias (Text.toId name))) else none := by
    rcases hcases with rfl | rfl | rfl <;> rfl
  rw [resolve_asked_iff hasked, hin]
  constructor
  · intro h
    split_ifs at h with hlists
    cases h
    exact ⟨rfl, hlists⟩
  · rintro ⟨rfl, hlists⟩
    rw [if_pos hlists]

/-! ### Species -/

/-- An identifier names a species in the table: it is that of the target that the species is banned
by, and the entry there has other formes if the species does; or the species has none, and the
identifier adds the ending of a base forme to its own. -/
def NamesSpecies (d : Dex) (id : String) (s : Species) : Prop :=
  (∃ entry, d.species.get? id = some entry ∧ entry.otherFormes.isEmpty = s.otherFormes.isEmpty
      ∧ id = s.banId)
    ∨ d.species.get? id = none ∧ s.otherFormes.isEmpty = true ∧ id = s.id ++ "base"
      ∧ d.species.contains s.id = true

/-- The base that an identifier with the ending stands for. -/
theorem baseEnding_iff {base : String} :
    (baseEnding.isSuffixOf id.toList = true
      ∧ String.ofList (id.toList.take (id.toList.length - baseEnding.length)) = base)
    ↔ id = base ++ "base" := by
  rw [List.isSuffixOf_iff_suffix]
  constructor
  · rintro ⟨⟨cs, hcs⟩, rfl⟩
    rw [← String.toList_inj, String.toList_append, String.toList_ofList, ← hcs]
    simp [baseEnding]
  · rintro rfl
    refine ⟨⟨base.toList, by rw [String.toList_append]; rfl⟩, ?_⟩
    simp [baseEnding]

theorem category_eq_iff {b b' : Bool} :
    (if b then Category.pokemon else .baseSpecies) = (if b' then .pokemon else .baseSpecies)
      ↔ b = b' := by
  cases b <;> cases b' <;> decide

/-- **When a ban of a species by name means that species.** -/
theorem species?_eq_some_iff {s : Species} :
    species? d id = some s.banTarget ↔ NamesSpecies d id s := by
  unfold species? NamesSpecies
  cases hentry : d.species.get? id with
  | some entry =>
    simp only [Species.banTarget, Option.some.injEq, Target.entry.injEq, category_eq_iff, reduceCtorEq,
      false_and, or_false, exists_eq_left']
  | none =>
    have hnone : ¬ ∃ entry, (none : Option Species) = some entry
        ∧ entry.otherFormes.isEmpty = s.otherFormes.isEmpty ∧ id = s.banId := by
      rintro ⟨entry, h, -⟩
      cases h
    rw [or_iff_right hnone, ← baseEnding_iff]
    dsimp only
    constructor
    · intro h
      split_ifs at h with hending hbase
      obtain ⟨hempty, hid⟩ := s.banTarget_eq_pokemon_iff.mp (Option.some.inj h).symm
      exact ⟨rfl, hempty, ⟨hending, hid.symm⟩, hid ▸ hbase⟩
    · rintro ⟨-, hempty, ⟨hending, hid⟩, hbase⟩
      rw [if_pos hending, hid, if_pos hbase, s.banTarget_eq_pokemon_iff.mpr ⟨hempty, rfl⟩]

end BanTarget

/-! ### Features -/

namespace SetContext

variable {c : SetContext}

/-- What is found under one of the moves of a set is a feature of the set. -/
theorem move_mem_features {m : Move} {raw : String} (hraw : raw ∈ c.set.moves)
    (hm : c.dex.findMove? raw = some m) : .entry .move m.id ∈ c.features :=
  mem_features_iff.mpr (.move hraw hm)

theorem item_mem_features {i : Item} (hgen : 2 ≤ c.gen) (hi : c.dex.findItem? c.set.item = some i) :
    .entry .item i.id ∈ c.features :=
  mem_features_iff.mpr (.item hgen hi)

theorem ability_mem_features {a : Ability} (hgen : 3 ≤ c.gen)
    (ha : c.dex.findAbility? c.set.ability = some a) : .entry .ability a.id ∈ c.features :=
  mem_features_iff.mpr (.ability hgen ha)

theorem banTarget_mem_features : c.species.banTarget ∈ c.features := by
  have hmem := c.species.banTarget_mem_features
  simp [features, hmem]

end SetContext

namespace Dex

/-! ### Tables keyed by names -/

/-- The tables list every entity under the identifier of its name, a species under the one that it
is banned by, and no alias is also the key of a table. -/
structure IsKeyedByName (d : Dex) : Prop where
  species : ∀ e ∈ d.species.entries, e.2.banId = e.1
  moves : ∀ e ∈ d.moves.entries, e.2.id = e.1
  items : ∀ e ∈ d.items.entries, e.2.id = e.1
  abilities : ∀ e ∈ d.abilities.entries, e.2.id = e.1
  aliases : ∀ e ∈ d.aliases.entries, d.species.get? e.1 = none ∧ d.moves.get? e.1 = none
    ∧ d.items.get? e.1 = none ∧ d.abilities.get? e.1 = none

variable {α : Type} {d : Dex} {table : Assoc String α} {gen : α → Int} {name : String} {a : α}

/-- Where no alias is a key, a look-up finds what is listed under the alias of the name. -/
theorem get?_of_lookup (halias : ∀ e ∈ d.aliases.entries, table.get? e.1 = none)
    (h : d.lookup table gen name = some a) :
    table.get? (d.resolveAlias (Text.toId name)) = some a := by
  obtain ⟨h, -⟩ := Option.filter_eq_some_iff.mp h
  unfold entry? at h
  dsimp only at h
  split_ifs at h
  cases hget : table.get? (Text.toId name) with
  | none =>
    rw [hget] at h
    exact h
  | some b =>
    rw [hget] at h
    cases h
    have hnone : d.aliases.get? (Text.toId name) = none := by
      cases hal : d.aliases.get? (Text.toId name) with
      | none => rfl
      | some id =>
        have hkey := halias _ (Assoc.mem_of_get? hal)
        rw [hget] at hkey
        cases hkey
    rw [resolveAlias, hnone]
    exact hget

/-- In tables keyed by names, a look-up leads to the identifier of what it finds. -/
theorem resolveAlias_of_lookup (idOf : α → String) (hkeys : ∀ e ∈ table.entries, idOf e.2 = e.1)
    (halias : ∀ e ∈ d.aliases.entries, table.get? e.1 = none)
    (h : d.lookup table gen name = some a) :
    d.resolveAlias (Text.toId name) = idOf a ∧ table.contains (idOf a) = true := by
  have hget := get?_of_lookup halias h
  have hid : idOf a = d.resolveAlias (Text.toId name) := hkeys _ (Assoc.mem_of_get? hget)
  refine ⟨hid.symm, ?_⟩
  rw [hid, Assoc.contains, hget]
  rfl

end Dex

/-! ### A document -/

namespace Naming

/-- The members of an entity of that name. -/
def named (name : String) (more : List (String × Json)) : Json := .obj (("name", .str name) :: more)

/-- A document in which one move is listed and also an alias of another, one is listed under a key
of its own and Hidden Power without its types, and in which a species with other formes has another
base species. -/
def document : Json := .obj [
  ("species", .obj [
    ("x", named "X" [("baseSpecies", .str "Y"), ("otherFormes", .arr [.str "X-2"])])]),
  ("moves", .obj [("surf", named "Surf" []), ("tackle", named "Tackle" []), ("foo", named "Bar" []),
    ("hiddenpower", named "Hidden Power" [])]),
  ("aliases", .obj [("surf", .str "Tackle")])]

/-- A document that is keyed by names, with an alias. -/
def keyedDocument : Json := .obj [
  ("species", .obj [("pikachu", named "Pikachu" [("otherFormes", .arr [.str "Pikachu-Cosplay"])])]),
  ("moves", .obj [("surf", named "Surf" [])]),
  ("aliases", .obj [("wave", .str "Surf"), ("mouse", .str "Pikachu")])]

/-- The dex of generation 7 in a document, if it loads. -/
def dexOf? (document : Json) : Option Dex :=
  (DexCollection.load document [7]).toOption.bind (·.get? "gen7")

theorem isSome_dex : (dexOf? document).isSome = true := by decide +kernel

/-- The dex of the document. -/
def dex : Dex := (dexOf? document).get isSome_dex

theorem isSome_keyedDex : (dexOf? keyedDocument).isSome = true := by decide +kernel

/-- The dex of the document that is keyed by names. -/
def keyedDex : Dex := (dexOf? keyedDocument).get isSome_keyedDex

theorem isKeyedByName_keyedDex : keyedDex.IsKeyedByName := by
  have hall : (∀ e ∈ keyedDex.species.entries, e.2.banId = e.1)
      ∧ (∀ e ∈ keyedDex.moves.entries, e.2.id = e.1) ∧ (∀ e ∈ keyedDex.items.entries, e.2.id = e.1)
      ∧ (∀ e ∈ keyedDex.abilities.entries, e.2.id = e.1)
      ∧ ∀ e ∈ keyedDex.aliases.entries, keyedDex.species.get? e.1 = none
        ∧ keyedDex.moves.get? e.1 = none ∧ keyedDex.items.get? e.1 = none
        ∧ keyedDex.abilities.get? e.1 = none := by decide +kernel
  obtain ⟨hspecies, hmoves, hitems, habilities, haliases⟩ := hall
  exact ⟨hspecies, hmoves, hitems, habilities, haliases⟩

end Naming

/-! ### Bans by name -/

section

open BanTarget

/-- **When what a look-up finds can be banned by its name.**  A move, an item or an ability can
exactly when the alias of the name, or else the identifier of the name, is that of the entity, and
the table lists it; a species exactly when that names it in the table.  In tables that are keyed by
names all that they list can.  In any case what is found under the words of a set is a feature of
the set. -/
theorem banned_by_name (d : Dex) (name : String) :
    (∀ m, d.findMove? name = some m →
      (resolve d ("move:" ++ name) = .ok (.entry .move m.id)
        ↔ d.resolveAlias (Text.toId name) = m.id ∧ d.moves.contains m.id = true)
      ∧ ∀ c : SetContext, c.dex = d → name ∈ c.set.moves → .entry .move m.id ∈ c.features)
    ∧ (∀ i, d.findItem? name = some i →
      (resolve d ("item:" ++ name) = .ok (.entry .item i.id)
        ↔ d.resolveAlias (Text.toId name) = i.id ∧ d.items.contains i.id = true)
      ∧ ∀ c : SetContext, c.dex = d → c.set.item = name → 2 ≤ c.gen →
        .entry .item i.id ∈ c.features)
    ∧ (∀ a, d.findAbility? name = some a →
      (resolve d ("ability:" ++ name) = .ok (.entry .ability a.id)
        ↔ d.resolveAlias (Text.toId name) = a.id ∧ d.abilities.contains a.id = true)
      ∧ ∀ c : SetContext, c.dex = d → c.set.ability = name → 3 ≤ c.gen →
        .entry .ability a.id ∈ c.features)
    ∧ (∀ s, d.findSpecies? name = some s →
      (resolve d ("pokemon:" ++ name) = .ok s.banTarget
        ↔ NamesSpecies d (d.resolveAlias (Text.toId name)) s)
      ∧ ∀ c : SetContext, c.species = s → s.banTarget ∈ c.features)
    ∧ (d.IsKeyedByName →
      (∀ m, d.lookup d.moves (·.gen) name = some m →
        resolve d ("move:" ++ name) = .ok (.entry .move m.id))
      ∧ (∀ i, d.findItem? name = some i → resolve d ("item:" ++ name) = .ok (.entry .item i.id))
      ∧ (∀ a, d.findAbility? name = some a →
        resolve d ("ability:" ++ name) = .ok (.entry .ability a.id))
      ∧ ∀ s, d.findSpecies? name = some s → resolve d ("pokemon:" ++ name) = .ok s.banTarget) := by
  have hmove : ∀ {id}, resolve d ("move:" ++ name) = .ok (.entry .move id)
      ↔ d.resolveAlias (Text.toId name) = id ∧ d.moves.contains id = true :=
    resolve_entry_iff (c := .move) (by decide)
  have hitem : ∀ {id}, resolve d ("item:" ++ name) = .ok (.entry .item id)
      ↔ d.resolveAlias (Text.toId name) = id ∧ d.items.contains id = true :=
    resolve_entry_iff (c := .item) (by decide)
  have hability : ∀ {id}, resolve d ("ability:" ++ name) = .ok (.entry .ability id)
      ↔ d.resolveAlias (Text.toId name) = id ∧ d.abilities.contains id = true :=
    resolve_entry_iff (c := .ability) (by decide)
  have hspecies : ∀ {s : Species}, resolve d ("pokemon:" ++ name) = .ok s.banTarget
      ↔ NamesSpecies d (d.resolveAlias (Text.toId name)) s :=
    (resolve_asked_iff (c := .pokemon) (by decide)).trans species?_eq_some_iff
  refine ⟨fun m hm => ⟨hmove, ?_⟩, fun i hi => ⟨hitem, ?_⟩, fun a ha => ⟨hability, ?_⟩,
    fun s hs => ⟨hspecies, ?_⟩, fun hkeyed => ⟨fun m hm => ?_, fun i hi => ?_, fun a ha => ?_,
      fun s hs => ?_⟩⟩
  · rintro c rfl hname
    exact SetContext.move_mem_features hname hm
  · rintro c rfl rfl hgen
    exact SetContext.item_mem_features hgen hi
  · rintro c rfl rfl hgen
    exact SetContext.ability_mem_features hgen ha
  · rintro c rfl
    exact SetContext.banTarget_mem_features
  · exact hmove.mpr (Dex.resolveAlias_of_lookup (·.id) hkeyed.moves
      (fun e he => (hkeyed.aliases e he).2.1) hm)
  · exact hitem.mpr (Dex.resolveAlias_of_lookup (·.id) hkeyed.items
      (fun e he => (hkeyed.aliases e he).2.2.1) hi)
  · exact hability.mpr (Dex.resolveAlias_of_lookup (·.id) hkeyed.abilities
      (fun e he => (hkeyed.aliases e he).2.2.2) ha)
  · have hget := Dex.get?_of_lookup (fun e he => (hkeyed.aliases e he).1) hs
    exact hspecies.mpr (.inl ⟨s, hget, rfl, (hkeyed.species _ (Assoc.mem_of_get? hget)).symm⟩)

/-- A move and a species that are found by an alias, and banned by it. -/
theorem banned_by_name_alias :
    (∃ m, Naming.keyedDex.findMove? "Wave" = some m ∧ m.id = "surf"
      ∧ resolve Naming.keyedDex "move:Wave" = .ok (.entry .move m.id)
      ∧ ∀ c : SetContext, c.dex = Naming.keyedDex → "Wave" ∈ c.set.moves →
        .entry .move m.id ∈ c.features)
    ∧ ∃ s, Naming.keyedDex.findSpecies? "Mouse" = some s
      ∧ s.banTarget = .entry .baseSpecies "pikachu"
      ∧ resolve Naming.keyedDex "pokemon:Mouse" = .ok s.banTarget := by
  have hfound : (Naming.keyedDex.findMove? "Wave").map (·.id) = some "surf"
      ∧ (Naming.keyedDex.findSpecies? "Mouse").map (·.banTarget)
        = some (.entry .baseSpecies "pikachu")
      ∧ Naming.keyedDex.resolveAlias (Text.toId "Wave") = "surf"
      ∧ Naming.keyedDex.moves.contains "surf" = true := by decide +kernel
  obtain ⟨hmove, hspecies, hlisted⟩ := hfound
  obtain ⟨m, hm, hmid⟩ := Option.map_eq_some_iff.mp hmove
  obtain ⟨s, hs, hstarget⟩ := Option.map_eq_some_iff.mp hspecies
  obtain ⟨hban, hfeature⟩ := (banned_by_name Naming.keyedDex "Wave").1 m hm
  refine ⟨⟨m, hm, hmid, hban.mpr (hmid ▸ hlisted), hfeature⟩, s, hs, hstarget, ?_⟩
  exact ((banned_by_name Naming.keyedDex "Mouse").2.2.2.2 Naming.isKeyedByName_keyedDex).2.2.2 s hs

/-- What is found by a name cannot always be banned by it: not a typed Hidden Power, not a move that
is also an alias, not one under a key of its own, and not a species whose base species is another
one. -/
theorem found_and_not_banned : Naming.dexOf? Naming.document = some Naming.dex
    ∧ ((Naming.dex.findMove? "Hidden Power Fire").map (·.id) = some "hiddenpowerfire"
      ∧ resolve Naming.dex "move:Hidden Power Fire" = .error (.noTarget "move:Hidden Power Fire"))
    ∧ ((Naming.dex.findMove? "Surf").map (·.id) = some "surf"
      ∧ resolve Naming.dex "move:Surf" = .ok (.entry .move "tackle"))
    ∧ ((Naming.dex.findMove? "foo").map (·.id) = some "bar"
      ∧ resolve Naming.dex "move:foo" = .ok (.entry .move "foo"))
    ∧ (Naming.dex.findSpecies? "X").map (·.banTarget) = some (.entry .baseSpecies "y")
      ∧ resolve Naming.dex "pokemon:X" = .ok (.entry .baseSpecies "x") :=
  ⟨(Option.some_get _).symm, by decide +kernel⟩

end

end TeamLegality
