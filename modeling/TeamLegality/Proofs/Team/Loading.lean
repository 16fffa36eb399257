import TeamLegality.Team.Export
import TeamLegality.Proofs.Fallible
import TeamLegality.Proofs.Json.Members
import TeamLegality.Proofs.Assoc

/-!
# Loading — what the sets of a loaded team are read from

Documents, files and exported texts all lead to sets that are read from the members of an object
(`Team.Loaded.exists_isReadFrom`), each field of a set from a member of its own
(`PokemonSet.ofMembers_eq_accepted_iff`).  The stat tables of such a set come from completed tables:
whatever stats a document names, and however it spells them, the table of the six defaults with its
values put over them has the six keys and no other (`StatTable.isCompleted_of_ofJson`).
-/

namespace TeamLegality

/-! ### Accepted outcomes -/

namespace Decoded

variable {α β : Type} {a : α} {b : β} {x : Decoded α}

theorem map_eq_accepted_iff {g : α → β} :
    g <$> x = .accepted b ↔ ∃ a, x = .accepted a ∧ g a = b := by
  show x.map g = _ ↔ _
  cases x <;> simp [map]

theorem seq_eq_accepted_iff {f : Decoded (α → β)} :
    f <*> x = .accepted b ↔ ∃ g a, f = .accepted g ∧ x = .accepted a ∧ g a = b := by
  show f.apply x = _ ↔ _
  cases f <;> cases x <;> simp [apply]

theorem seqLeft_eq_accepted_iff {y : Decoded β} :
    x <* y = .accepted a ↔ x = .accepted a ∧ ∃ b, y = .accepted b := by
  show (x.map (Function.const β)).apply y = _ ↔ _
  cases x <;> cases y <;> simp [map, apply]

@[simp] theorem within_eq_accepted_iff {step : PathStep} :
    x.within step = .accepted a ↔ x = .accepted a := by
  cases x <;> simp [within]

@[simp] theorem toExcept_eq_ok_iff : x.toExcept = .ok a ↔ x = .accepted a := by
  cases x <;> simp [toExcept]

theorem ofNonemptyText_eq_accepted_iff {j : Json} {s : String} :
    ofNonemptyText j = .accepted s ↔ j = .str s ∧ s ≠ "" := by
  unfold ofNonemptyText andThen
  cases j with
  | str text =>
    rw [ofText, Json.str.injEq]
    dsimp only
    split_ifs with hempty
    · refine iff_of_false nofun ?_
      rintro ⟨rfl, hs⟩
      exact hs hempty
    · rw [accepted.injEq]
      refine ⟨?_, And.left⟩
      rintro rfl
      exact ⟨rfl, hempty⟩
  | _ => exact iff_of_false nofun nofun

/-- A list is read when each of its items is. -/
theorem ofItems_eq_accepted_iff {read : Json → Decoded α} : ∀ {n : Nat} {js : List Json}
    {xs : List α}, ofItems read n js = .accepted xs ↔
      List.Forall₂ (fun j x => read j = .accepted x) js xs
  | n, [], xs => by
    rw [ofItems, List.forall₂_nil_left_iff, accepted.injEq, eq_comm]
  | n, j :: rest, xs => by
    have ih := fun ys => @ofItems_eq_accepted_iff read (n + 1) rest ys
    have hcons : ofItems read n (j :: rest) = .accepted xs ↔
        ∃ y ys, read j = .accepted y ∧ ofItems read (n + 1) rest = .accepted ys ∧ y :: ys = xs := by
      rw [ofItems]
      cases read j <;> cases ofItems read (n + 1) rest <;> simp [within, map, apply]
    rw [hcons, List.forall₂_cons_left_iff]
    simp only [ih, eq_comm (a := xs)]

/-- **A list is read as it was written**, item by item. -/
theorem ofList_map {γ : Type} {read : Json → Decoded α} {write : γ → Json} {value : γ → α}
    {l : List γ} (h : ∀ c ∈ l, read (write c) = .accepted (value c)) :
    ofList read (.arr (l.map write)) = .accepted (l.map value) := by
  show ofItems read 0 _ = _
  rw [ofItems_eq_accepted_iff, List.forall₂_map_left_iff, List.forall₂_map_right_iff,
    List.forall₂_same]
  exact h

end Decoded

section Fields

open Decoding

variable {α : Type} {members : List (String × Json)} {name : String} {default a : α}
  {read : Json → Decoded α}

theorem field_eq_accepted_iff : field members name default read = .accepted a ↔
    findField? members name = none ∧ default = a
      ∨ ∃ spelling j, findField? members name = some (spelling, j) ∧ read j = .accepted a := by
  unfold field fieldOr
  cases findField? members name with
  | none => simp
  | some found =>
    obtain ⟨spelling, j⟩ := found
    simp

theorem required_eq_accepted_iff : required members name read = .accepted a ↔
    ∃ spelling j, findField? members name = some (spelling, j) ∧ read j = .accepted a := by
  unfold required fieldOr
  cases findField? members name with
  | none => simp [Decoded.fail]
  | some found =>
    obtain ⟨spelling, j⟩ := found
    simp

end Fields

/-! ### Completed stat tables -/

namespace StatTable

/-- The members of a stat table under the keys of their stats, if each names a stat. -/
def canonicalStats (members : List (String × Json)) : Option (Assoc String Json) :=
  members.foldlM (fun table m => (Stat.ofName? m.1).map fun stat => table.insert stat.key m.2)
    .empty

/-- A table is read from the six defaults with the members of a document put over them: these have
the six keys and no other, and each value is read. -/
def IsCompleted (t : StatTable) (default : Int) (members : List (String × Json)) : Prop :=
  ∃ given, canonicalStats members = some given
    ∧ (fillStats given (.int default)).keys = Stat.all.map Stat.key
    ∧ ∀ s : Stat, ∃ j, (fillStats given (.int default)).get? s.key = some j
      ∧ Decoded.ofWhole j = .accepted (t.get s)

variable {default : Int} {members : List (String × Json)} {t : StatTable}

theorem key_eq_key_iff {s s' : Stat} : s.key = s'.key ↔ s = s' := by
  constructor
  · cases s <;> cases s' <;> decide
  · exact congrArg Stat.key

theorem givenStats_cons_eq_ok_iff {name : String} {j : Json} {g : Stat → Option Json} :
    givenStats ((name, j) :: members) = .ok g ↔ ∃ stat later, Stat.ofName? name = some stat
      ∧ givenStats members = .ok later
      ∧ (fun s => (later s).or (if s = stat then some j else none)) = g := by
  rw [givenStats]
  cases Stat.ofName? name with
  | none => simp
  | some stat => cases givenStats members <;> simp [bind, Except.bind, pure, Except.pure]

/-- What is put over a table under the keys of stats: for each stat the last member that names it,
and no other keys. -/
theorem exists_canonicalStats {g : Stat → Option Json} (table : Assoc String Json)
    (h : givenStats members = .ok g) (hkeys : ∀ k ∈ table.keys, k ∈ Stat.all.map Stat.key) :
    ∃ given, members.foldlM
        (fun table m => (Stat.ofName? m.1).map fun stat => table.insert stat.key m.2) table
          = some given
      ∧ (∀ k ∈ given.keys, k ∈ Stat.all.map Stat.key)
      ∧ ∀ s : Stat, given.get? s.key = (g s).or (table.get? s.key) := by
  induction members generalizing g table with
  | nil =>
    obtain rfl : (fun _ => none) = g := Except.ok.inj h
    exact ⟨table, rfl, hkeys, fun s => rfl⟩
  | cons m rest ih =>
    obtain ⟨name, j⟩ := m
    obtain ⟨stat, later, hstat, hrest, rfl⟩ := givenStats_cons_eq_ok_iff.mp h
    have hstep : ∀ k ∈ (table.insert stat.key j).keys, k ∈ Stat.all.map Stat.key := by
      intro k hk
      rw [Assoc.keys_insert] at hk
      split_ifs at hk
      · exact hkeys k hk
      · rcases List.mem_append.mp hk with hk | hk
        · exact hkeys k hk
        · rw [List.mem_singleton.mp hk]
          exact List.mem_map_of_mem stat.mem_all
    obtain ⟨given, hgiven, hgkeys, hget⟩ := ih (table.insert stat.key j) hrest hstep
    refine ⟨given, ?_, hgkeys, fun s => ?_⟩
    · rw [List.foldlM_cons, hstat]
      exact hgiven
    · rw [hget, Assoc.get?_insert, Option.or_assoc]
      by_cases hs : s = stat
      · simp [hs]
      · simp [key_eq_key_iff, hs]

theorem keys_defaults (j : Json) :
    (Assoc.ofList (Stat.all.map fun s => (s.key, j))).keys = Stat.all.map Stat.key := rfl

theorem get?_defaults (j : Json) (s : Stat) :
    (Assoc.ofList (Stat.all.map fun s => (s.key, j))).get? s.key = some j := by
  cases s <;> rfl

theorem readStat_of_readGiven {given : Stat → Option Json}
    (h : readGiven given default = .accepted t) (s : Stat) :
    readStat given default s = .accepted (t.get s) := by
  unfold readGiven at h
  simp only [Decoded.seq_eq_accepted_iff, Decoded.map_eq_accepted_iff] at h
  obtain ⟨-, speed, ⟨-, spd, ⟨-, spa, ⟨-, defense, ⟨-, attack, ⟨hp, hhp, rfl⟩, hattack, rfl⟩,
    hdefense, rfl⟩, hspa, rfl⟩, hspd, rfl⟩, hspeed, rfl⟩ := h
  cases s with
  | hp => exact hhp
  | attack => exact hattack
  | defense => exact hdefense
  | specialAttack => exact hspa
  | specialDefense => exact hspd
  | speed => exact hspeed

/-- **A stat table that is read from the members of an object is complete.** -/
theorem isCompleted_of_ofJson (h : ofJson default (.obj members) = .accepted t) :
    t.IsCompleted default members := by
  unfold ofJson at h
  cases hg : givenStats members with
  | error name =>
    simp [hg, Decoded.fail] at h
  | ok g =>
    simp only [hg] at h
    have hnone : ∀ k ∈ (Assoc.empty : Assoc String Json).keys, k ∈ Stat.all.map Stat.key :=
      fun k hk => absurd hk List.not_mem_nil
    obtain ⟨given, hgiven, hkeys, hget⟩ := exists_canonicalStats .empty hg hnone
    refine ⟨given, hgiven, ?_, fun s => ?_⟩
    · rw [fillStats, Assoc.keys_overlay (by rwa [keys_defaults]), keys_defaults]
    · have hread := readStat_of_readGiven h s
      unfold readStat at hread
      rw [fillStats, Assoc.get?_overlay, get?_defaults, hget, Assoc.get?_empty, Option.or_none]
      cases hs : g s with
      | none =>
        rw [hs] at hread
        exact ⟨.int default, rfl, hread⟩
      | some j =>
        rw [hs] at hread
        exact ⟨j, rfl, Decoded.within_eq_accepted_iff.mp hread⟩

/-- So is the one that stands for a document that says nothing. -/
theorem isCompleted_const : (const default).IsCompleted default [] := by
  refine ⟨.empty, rfl, keys_defaults _, fun s => ⟨.int default, get?_defaults _ s, ?_⟩⟩
  rw [get_const]
  rfl

/-! ### Written stat tables -/

section Spelled

variable {β : Type} {spell : Stat → String} {entries : List (Stat × β)}

/-- Stats that are each given once have the values that they are given. -/
theorem givenStats_of_nodup (hspell : ∀ stat, Stat.ofName? (spell stat) = some stat)
    (write : β → Json) (h : (entries.map Prod.fst).Nodup) :
    givenStats (entries.map fun e => (spell e.1, write e.2))
      = .ok fun stat => (entries.lookup stat).map write := by
  induction entries with
  | nil => rfl
  | cons e entries ih =>
    obtain ⟨hfirst, hrest⟩ := List.nodup_cons.mp h
    refine givenStats_cons_eq_ok_iff.mpr ⟨e.1, _, hspell e.1, ih hrest, funext fun stat => ?_⟩
    rw [lookup_cons_eq_ite]
    by_cases hstat : stat = e.1
    · have hnone : entries.lookup stat = none := by
        rw [List.lookup_eq_none_iff]
        intro e' he'
        have hne : stat ≠ e'.1 := by
          rintro rfl
          exact hfirst (hstat ▸ List.mem_map_of_mem he')
        simpa using hne
      rw [if_pos hstat, if_pos hstat, hnone]
      rfl
    · rw [if_neg hstat, if_neg hstat, Option.or_none]

/-- **Values that are written under spellings of their stats are read back**, and a stat without a
value has the default. -/
theorem ofJson_of_nodup (hspell : ∀ stat, Stat.ofName? (spell stat) = some stat) (value : β → Int)
    (h : (entries.map Prod.fst).Nodup) (default : Int) :
    ofJson default (.obj (entries.map fun e => (spell e.1, .int (value e.2))))
      = .accepted (.ofFn fun stat => ((entries.lookup stat).map value).getD default) := by
  let given (stat : Stat) : Option Json := (entries.lookup stat).map fun b => .int (value b)
  have hgiven : givenStats (entries.map fun e => (spell e.1, .int (value e.2))) = .ok given :=
    givenStats_of_nodup hspell (fun b => .int (value b)) h
  have hread (stat : Stat) : readStat given default stat
      = .accepted (((entries.lookup stat).map value).getD default) := by
    unfold readStat given
    cases entries.lookup stat <;> rfl
  unfold ofJson
  simp only [hgiven, readGiven, hread]
  rfl

end Spelled

end StatTable

/-! ### Loaded teams -/

namespace PokemonSet

/-- The members of the stat table that an object has as a field, none if it has no such table. -/
def statMembers (members : List (String × Json)) (name : String) : List (String × Json) :=
  match Decoding.findField? members name with
  | some (_, .obj stats) => stats
  | _ => []

/-- Each field of a set is read from the members of an object. -/
structure HasFieldsOf (set : PokemonSet) (m : List (String × Json)) : Prop where
  name : Decoding.field m "name" "" Decoded.ofText = .accepted set.name
  species : Decoding.required m "species" Decoded.ofNonemptyText = .accepted set.species
  item : Decoding.field m "item" "" Decoded.ofText = .accepted set.item
  ability : Decoding.field m "ability" "" Decoded.ofText = .accepted set.ability
  moves : Decoding.field m "moves" [] (Decoded.ofList Decoded.ofText) = .accepted set.moves
  nature : Decoding.field m "nature" "" Decoded.ofText = .accepted set.nature
  gender : Decoding.field m "gender" none Decoded.ofSetGender = .accepted set.gender
  evs : Decoding.field m "evs" (.const 0) (StatTable.ofJson 0) = .accepted set.evs
  ivs : Decoding.field m "ivs" (.const 31) (StatTable.ofJson 31) = .accepted set.ivs
  level : Decoding.field m "level" none (Decoded.ofOptional Decoded.ofWhole) = .accepted set.level
  shiny : Decoding.field m "shiny" false Decoded.ofTruth = .accepted set.shiny
  hpType : Decoding.field m "hp_type" "" Decoded.ofText = .accepted set.hpType
  happiness : Decoding.field m "happiness" 255 Decoded.ofWhole = .accepted set.happiness
  pokeball : Decoding.field m "pokeball" "" Decoded.ofText = .accepted set.pokeball

/-- A set is read from the members of an object, and its stat tables are complete. -/
structure IsReadFrom (set : PokemonSet) (members : List (String × Json)) : Prop where
  read : ofMembers members = .accepted set
  evs : set.evs.IsCompleted 0 (statMembers members "evs")
  ivs : set.ivs.IsCompleted 31 (statMembers members "ivs")

variable {set : PokemonSet} {members : List (String × Json)} {name : String} {default : Int}
  {t : StatTable} {j : Json}

theorem isCompleted_of_field
    (h : Decoding.field members name (.const default) (StatTable.ofJson default) = .accepted t) :
    t.IsCompleted default (statMembers members name) := by
  unfold statMembers
  obtain ⟨hnone, rfl⟩ | ⟨spelling, j, hfound, hread⟩ := field_eq_accepted_iff.mp h
  · rw [hnone]
    exact StatTable.isCompleted_const
  · rw [hfound]
    cases j with
    | obj stats => exact StatTable.isCompleted_of_ofJson hread
    | _ =>
      unfold StatTable.ofJson at hread
      dsimp only at hread
      split_ifs at hread
      cases hread
      exact StatTable.isCompleted_const

/-- **A set is read exactly when each of its fields is.** -/
theorem ofMembers_eq_accepted_iff : ofMembers members = .accepted set ↔ set.HasFieldsOf members := by
  constructor
  · intro h
    unfold ofMembers at h
    simp only [Decoded.seq_eq_accepted_iff, Decoded.map_eq_accepted_iff] at h
    obtain ⟨-, _, ⟨-, _, ⟨-, _, ⟨-, _, ⟨-, _, ⟨-, _, ⟨-, _, ⟨-, _, ⟨-, _, ⟨-, _, ⟨-, _, ⟨-, _,
      ⟨-, _, ⟨_, hname, rfl⟩, hspecies, rfl⟩, hitem, rfl⟩, hability, rfl⟩, hmoves, rfl⟩, hnature,
      rfl⟩, hgender, rfl⟩, hevs, rfl⟩, hivs, rfl⟩, hlevel, rfl⟩, hshiny, rfl⟩, hhpType, rfl⟩,
      hhappiness, rfl⟩, hpokeball, rfl⟩ := h
    exact ⟨hname, hspecies, hitem, hability, hmoves, hnature, hgender, hevs, hivs, hlevel, hshiny,
      hhpType, hhappiness, hpokeball⟩
  · intro h
    unfold ofMembers
    rw [h.name, h.species, h.item, h.ability, h.moves, h.nature, h.gender, h.evs, h.ivs, h.level,
      h.shiny, h.hpType, h.happiness, h.pokeball]
    rfl

/-- An object without other members is read as the set whose fields it has. -/
theorem HasFieldsOf.ofJson_eq (h : set.HasFieldsOf members)
    (hothers : Decoding.noOthers fieldNames members = .accepted ()) :
    ofJson (.obj members) = .accepted set := by
  show ofMembers members <* Decoding.noOthers fieldNames members = _
  rw [Decoded.seqLeft_eq_accepted_iff, ofMembers_eq_accepted_iff]
  exact ⟨h, (), hothers⟩

/-- A set that is read has a species. -/
theorem HasFieldsOf.species_ne (h : set.HasFieldsOf members) : set.species ≠ "" := by
  obtain ⟨-, j, -, hread⟩ := required_eq_accepted_iff.mp h.species
  exact (Decoded.ofNonemptyText_eq_accepted_iff.mp hread).2

theorem isReadFrom_of_ofMembers (h : ofMembers members = .accepted set) :
    set.IsReadFrom members := by
  have hfields := ofMembers_eq_accepted_iff.mp h
  exact ⟨h, isCompleted_of_field hfields.evs, isCompleted_of_field hfields.ivs⟩

/-- A set that is read is read from the members of an object. -/
theorem exists_isReadFrom (h : ofJson j = .accepted set) : ∃ members, set.IsReadFrom members := by
  cases j with
  | obj members =>
    obtain ⟨hread, -⟩ := Decoded.seqLeft_eq_accepted_iff.mp h
    exact ⟨members, isReadFrom_of_ofMembers hread⟩
  | _ => cases h

end PokemonSet

namespace Team

variable {team : Team} {members : List (String × Json)} {j : Json} {text : String}
  {format : Option String}

/-- The teams that loading gives: from a document, from a document in a file, and from an exported
text. -/
inductive Loaded : Team → Prop where
  | document {team : Team} {j : Json} : load j = .ok team → Loaded team
  | file {team : Team} {j : Json} : loadFile j = .ok team → Loaded team
  | text {team : Team} {text : String} {format : Option String} :
      Export.parseTeam text format = .ok team → Loaded team

theorem exists_ofJson_of_ofMembers (h : ofMembers members = .accepted team) :
    ∀ set ∈ team.sets, ∃ j, PokemonSet.ofJson j = .accepted set := by
  unfold ofMembers at h
  obtain ⟨g, sets, hformat, hsets, rfl⟩ := Decoded.seq_eq_accepted_iff.mp h
  obtain ⟨format, -, rfl⟩ := Decoded.map_eq_accepted_iff.mp hformat
  obtain ⟨-, rfl⟩ | ⟨spelling, j, -, hread⟩ := field_eq_accepted_iff.mp hsets
  · intro set hset
    cases hset
  · cases j with
    | arr items =>
      intro set hset
      obtain ⟨j, -, hj⟩ :=
        exists_of_mem_forall₂ (Decoded.ofItems_eq_accepted_iff.mp hread) hset
      exact ⟨j, hj⟩
    | _ => cases hread

/-- A list of pairs stands for the members that its pairs make. -/
theorem exists_ofMembers_of_pairs {items : List Json}
    (h : (items.mapM pairOf >>= fun pairs => (ofPairs pairs).toExcept) = .ok team) :
    ∃ members, ofMembers members = .accepted team := by
  cases hpairs : items.mapM pairOf with
  | error e =>
    rw [hpairs] at h
    cases h
  | ok pairs =>
    simp only [hpairs, bind, Except.bind] at h
    obtain ⟨hread, -⟩ := Decoded.seqLeft_eq_accepted_iff.mp (Decoded.toExcept_eq_ok_iff.mp h)
    exact ⟨_, hread⟩

theorem exists_ofMembers_of_load (h : load j = .ok team) :
    ∃ members, ofMembers members = .accepted team := by
  cases j with
  | obj members =>
    obtain ⟨hread, -⟩ := Decoded.seqLeft_eq_accepted_iff.mp (Decoded.toExcept_eq_ok_iff.mp h)
    exact ⟨members, hread⟩
  | arr items => exact exists_ofMembers_of_pairs h
  | str s => exact exists_ofMembers_of_pairs h
  | _ => cases h

theorem exists_ofJson_of_load (h : load j = .ok team) :
    ∀ set ∈ team.sets, ∃ j, PokemonSet.ofJson j = .accepted set := by
  obtain ⟨members, hmembers⟩ := exists_ofMembers_of_load h
  exact exists_ofJson_of_ofMembers hmembers

theorem exists_ofJson_of_loadFile (h : loadFile j = .ok team) :
    ∀ set ∈ team.sets, ∃ j, PokemonSet.ofJson j = .accepted set := by
  unfold loadFile at h
  split at h
  · exact exists_ofJson_of_load h
  · exact exists_ofJson_of_load h

theorem exists_ofJson_of_parseTeam (h : Export.parseTeam text format = .ok team) :
    ∀ set ∈ team.sets, ∃ j, PokemonSet.ofJson j = .accepted set := by
  unfold Export.parseTeam at h
  cases hsets : Export.parseSets text with
  | error e =>
    rw [hsets] at h
    cases h
  | ok sets =>
    rw [hsets] at h
    cases h
    intro set hset
    obtain ⟨block, -, hblock⟩ := exists_of_mem_forall₂ (mapM_eq_ok_iff.mp hsets) hset
    cases block with
    | nil => cases hblock
    | cons header rest =>
      unfold Export.parseBlock at hblock
      cases hfields : rest.mapM Export.lineField with
      | error e =>
        simp only [hfields] at hblock
        cases hblock
      | ok fields =>
        simp only [hfields, bind, Except.bind] at hblock
        exact ⟨_, Decoded.toExcept_eq_ok_iff.mp hblock⟩

/-- **The sets of a loaded team** are read from objects, and their stat tables are complete. -/
theorem Loaded.exists_isReadFrom (h : team.Loaded) :
    ∀ set ∈ team.sets, ∃ members, set.IsReadFrom members := by
  have hread : ∀ set ∈ team.sets, ∃ j, PokemonSet.ofJson j = .accepted set := by
    cases h with
    | document h => exact exists_ofJson_of_load h
    | file h => exact exists_ofJson_of_loadFile h
    | text h => exact exists_ofJson_of_parseTeam h
  intro set hset
  obtain ⟨j, hj⟩ := hread set hset
  exact PokemonSet.exists_isReadFrom hj

end Team

end TeamLegality
