import TeamLegality.Proofs.Team.Entries

/-!
# Sheets — a laid out team is read back

The members of a block are those of its sheet in some order.  No two of them have one name, so that
order does not matter (`Sheet.ofJson_of_perm`): a block is read as the set of its sheet, and a text
as the sets of its sheets (`parseTeam_joined`).
-/

namespace TeamLegality.Export

open Text Decoding

variable {sheet : Sheet} {sheets : List Sheet} {ls : List Line}

/-! ### Members -/

theorem Phrase.text_ne_empty (p : Phrase) : p.text ≠ "" := by
  intro h
  have hchars := congrArg String.toList h
  rw [Phrase.text, String.toList_ofList] at hchars
  exact p.isPhrase.ne_nil hchars

/-- The member that a field gives, if it is no move. -/
def Field.member? : Field → Option (String × Json)
  | .move _ => none
  | .member name value => some (name, value)

/-- The move that a field gives. -/
def Field.move? : Field → Option Json
  | .move name => some (.str name)
  | .member _ _ => none

namespace Sheet

variable (s : Sheet)

/-- What the entries of a sheet say, by the names of the members. -/
def entryTable : List (String × Option Json) :=
  [("ability", s.ability.map fun p => .str p.text), ("level", s.level.map fun n => .int n.value),
   ("shiny", if s.shiny then some (.bool true) else none),
   ("happiness", s.happiness.map fun n => .int n.value),
   ("hp_type", s.hiddenPower.map fun p => .str p.text),
   ("evs", s.evs.map fun spread => .obj spread.members),
   ("ivs", s.ivs.map fun spread => .obj spread.members),
   ("nature", s.nature.map fun p => .str p.text)]

/-- Moves as a document. -/
def movesJson (moves : List Phrase) : Json := .arr (moves.map fun p => .str p.text)

/-- What a sheet says, by the names of the members. -/
def table : List (String × Option Json) :=
  s.header.table ++ s.entryTable ++ [("moves", some (movesJson s.moves))]

theorem names_table : s.table.map Prod.fst = ["item", "gender", "name", "species", "ability",
    "level", "shiny", "happiness", "hp_type", "evs", "ivs", "nature", "moves"] := rfl

theorem nodup_table : (s.table.map Prod.fst).Nodup := by
  rw [names_table]
  decide

theorem names_table_subset : s.table.map Prod.fst ⊆ PokemonSet.fieldNames := by
  rw [names_table]
  decide

theorem present_of_forall₂ {es : List (Option Entry)} {table : List (String × Option Json)}
    (h : List.Forall₂ (fun e t => e.bind (fun e => e.field.member?) = t.2.map (t.1, ·)) es table) :
    es.reduceOption.filterMap (fun e => e.field.member?) = Json.present table := by
  unfold List.reduceOption Json.present
  rw [List.filterMap_filterMap]
  induction h with
  | nil => rfl
  | @cons e t es table hfirst hrest ih =>
    simp only [id_eq] at ih
    simp only [List.filterMap_cons, id_eq, hfirst, ih]

theorem filterMap_member?_entries :
    s.entries.filterMap (fun e => e.field.member?) = Json.present s.entryTable := by
  have hmoves : (s.moves.map Entry.move).filterMap (fun e => e.field.member?) = [] := by
    simp [Entry.field, Field.member?]
  unfold entries
  rw [List.filterMap_append, hmoves, List.append_nil]
  refine present_of_forall₂ (.cons ?_ (.cons ?_ (.cons ?_ (.cons ?_ (.cons ?_ (.cons ?_ (.cons ?_
    (.cons ?_ .nil))))))))
  · cases s.ability <;> rfl
  · cases s.level <;> rfl
  · cases s.shiny <;> rfl
  · cases s.happiness <;> rfl
  · cases s.hiddenPower <;> rfl
  · cases s.evs <;> rfl
  · cases s.ivs <;> rfl
  · cases s.nature <;> rfl

/-! ### Sets -/

theorem ofList_movesJson (moves : List Phrase) :
    Decoded.ofList Decoded.ofText (movesJson moves) = .accepted (moves.map Phrase.text) :=
  Decoded.ofList_map fun _ _ => rfl

/-- The fields of a set are those of its sheet. -/
theorem hasFieldsOf_of_show {members : List (String × Json)}
    (h : Show PokemonSet.fieldNames s.table members) : s.set.HasFieldsOf members := by
  have htext {name : String} {v : Option Phrase} (hname : name ∈ PokemonSet.fieldNames)
      (hvalue : (s.table.lookup name).join = v.map fun p => .str p.text) :
      field members name "" Decoded.ofText = .accepted ((v.map Phrase.text).getD "") :=
    h.field_eq hname hvalue fun _ _ => rfl
  have hmoves : field members "moves" [] (Decoded.ofList Decoded.ofText)
      = .accepted s.set.moves := by
    have hvalue : (s.table.lookup "moves").join = (some s.moves).map movesJson := rfl
    exact h.field_eq (by decide) hvalue fun moves _ => ofList_movesJson moves
  have hgender : field members "gender" none Decoded.ofSetGender = .accepted s.set.gender := by
    have hread : field members "gender" none Decoded.ofSetGender
        = .accepted (s.header.gender.map id) :=
      h.field_none_eq (by decide) rfl fun gender _ => by cases gender <;> rfl
    rwa [Option.map_id] at hread
  have hshiny : field members "shiny" false Decoded.ofTruth = .accepted s.set.shiny := by
    have hvalue : (s.table.lookup "shiny").join
        = (if s.shiny then some true else none).map Json.bool := by
      show (if s.shiny then some (Json.bool true) else none) = _
      split_ifs <;> rfl
    have hread : field members "shiny" false Decoded.ofTruth
        = .accepted (((if s.shiny then some true else none).map id).getD false) :=
      h.field_eq (by decide) hvalue fun _ _ => rfl
    rw [hread]
    show _ = Decoded.accepted s.shiny
    cases s.shiny <;> rfl
  exact {
    name := htext (by decide) rfl
    species := h.required_eq (by decide) rfl (if_neg s.header.species.text_ne_empty)
    item := htext (by decide) rfl
    ability := htext (by decide) rfl
    moves := hmoves
    nature := h.field_eq (by decide) (v := s.nature) rfl fun _ _ => rfl
    gender := hgender
    evs := h.field_eq (by decide) rfl fun spread _ => spread.ofJson_members 0
    ivs := h.field_eq (by decide) rfl fun spread _ => spread.ofJson_members 31
    level := h.field_none_eq (by decide) (v := s.level) rfl fun _ _ => rfl
    shiny := hshiny
    hpType := htext (by decide) rfl
    happiness := h.field_eq (by decide) (v := s.happiness) rfl fun _ _ => rfl
    pokeball := htext (v := none) (by decide) rfl }

/-- **The members of a sheet are read as its set**, whatever their order. -/
theorem ofJson_of_perm {members : List (String × Json)}
    (hperm : members.Perm (Json.present s.table)) :
    PokemonSet.ofJson (.obj members) = .accepted s.set := by
  have h : Show PokemonSet.fieldNames s.table members :=
    show_of_perm (by decide) s.nodup_table s.names_table_subset hperm
  exact (s.hasFieldsOf_of_show h).ofJson_eq h.noOthers_eq

end Sheet

/-! ### Blocks and teams -/

theorem filterMap_move?_field (body : List Entry) : (body.map Entry.field).filterMap Field.move?
    = (body.filterMap Entry.move?).map fun p => .str p.text := by
  rw [List.filterMap_map, List.map_filterMap]
  refine List.filterMap_congr fun e _ => ?_
  cases e <;> rfl

/-- The members of a block are those of its sheet. -/
theorem blockMembers_perm {body : List Entry} (hperm : body.Perm sheet.entries)
    (hmoves : body.filterMap Entry.move? = sheet.moves) :
    (blockMembers sheet.header.line (body.map Entry.field)).Perm (Json.present sheet.table) := by
  have hentries : ((body.map Entry.field).filterMap Field.member?).Perm
      (Json.present sheet.entryTable) := by
    rw [List.filterMap_map, ← sheet.filterMap_member?_entries]
    exact hperm.filterMap _
  have hpairs : (headerMembers sheet.header.line ++ (body.map Entry.field).filterMap Field.member?
      ++ [("moves", Sheet.movesJson sheet.moves)]).Perm (Json.present sheet.table) := by
    unfold Sheet.table
    rw [Json.present_append, Json.present_append, sheet.header.headerMembers_line]
    exact (hentries.append_left _).append_right _
  have hnodup := ((hpairs.map Prod.fst).nodup_iff).mpr (Json.nodup_present sheet.nodup_table)
  have hmovesJson : Json.arr ((body.map Entry.field).filterMap Field.move?)
      = Sheet.movesJson sheet.moves := by
    rw [filterMap_move?_field, hmoves]
    rfl
  have hcollect : blockMembers sheet.header.line (body.map Entry.field)
      = Json.collectMembers (headerMembers sheet.header.line
        ++ (body.map Entry.field).filterMap Field.member?
        ++ [("moves", Sheet.movesJson sheet.moves)]) := by
    rw [← hmovesJson]
    rfl
  rw [hcollect, Json.collectMembers_of_nodup hnodup]
  exact hpairs

/-- **A block is read as the set of its sheet.** -/
theorem parseBlock_of_lays {header : Line} {rest : List Line} (h : sheet.Lays (header :: rest)) :
    parseBlock header rest = .ok sheet.set := by
  obtain ⟨body, hperm, hmoves, hlines⟩ := h
  obtain ⟨rfl, rfl⟩ := List.cons.inj hlines
  have hfields : (body.map Entry.line).mapM lineField = .ok (body.map Entry.field) := by
    rw [mapM_eq_ok_iff, List.forall₂_map_left_iff, List.forall₂_map_right_iff, List.forall₂_same]
    exact fun e _ => e.lineField_line
  unfold parseBlock
  simp only [hfields, bind, Except.bind, sheet.ofJson_of_perm (blockMembers_perm hperm hmoves)]
  rfl

/-- **A laid out team is read back.** -/
theorem parseTeam_joined (format : Option String) (h : Lays sheets ls) :
    parseTeam (String.ofList (['\n'].intercalate ls)) format
      = .ok { format, sets := sheets.map Sheet.set } := by
  have hsets : parseSets (String.ofList (['\n'].intercalate ls)) = .ok (sheets.map Sheet.set) := by
    unfold parseSets
    rw [mapM_eq_ok_iff, List.forall₂_map_right_iff, String.toList_ofList]
    refine List.Forall₂.flip ((fullBlocks_joined h).imp fun sheet block hblock => ?_)
    cases block with
    | nil =>
      obtain ⟨body, -, -, hlines⟩ := hblock
      cases hlines
    | cons header rest => exact parseBlock_of_lays hblock
  unfold parseTeam
  rw [hsets]
  rfl

namespace Sample

/-- A sheet that shows every kind of field, under a nickname with parentheses. -/
def sparky : Sheet where
  header :=
    { name := some ⟨"Sparky (II)".toList, by decide⟩
      species := ⟨"Pikachu".toList, by decide⟩
      gender := some .female
      item := some ⟨"Light Ball".toList, by decide⟩
      name_plain := by decide
      species_plain := by decide
      species_not_letter := by decide
      gender_lettered := by decide
      item_plain := by decide }
  ability := some ⟨"Static".toList, by decide⟩
  level := some ⟨false, ['5', '0'], by decide, by decide, by decide⟩
  shiny := true
  happiness := some ⟨false, ['0'], by decide, by decide, by decide⟩
  hiddenPower := some ⟨"Ice".toList, by decide⟩
  evs := some ⟨[(.speed, ⟨false, ['2', '5', '2'], by decide, by decide, by decide⟩),
    (.hp, ⟨false, ['0', '4'], by decide, by decide, by decide⟩)], by decide, by decide⟩
  ivs := some ⟨[(.attack, ⟨true, ['1'], by decide, by decide, by decide⟩)], by decide, by decide⟩
  nature := some ⟨⟨"Timid".toList, by decide⟩, by decide, by decide⟩
  moves := [⟨"Surf".toList, by decide⟩, ⟨"Thunderbolt".toList, by decide⟩]

/-- A sheet of nothing but a species. -/
def ditto : Sheet where
  header :=
    { name := none
      species := ⟨"Ditto".toList, by decide⟩
      gender := none
      item := none
      name_plain := by decide
      species_plain := by decide
      species_not_letter := by decide
      gender_lettered := by decide
      item_plain := by decide }
  ability := none
  level := none
  shiny := false
  happiness := none
  hiddenPower := none
  evs := none
  ivs := none
  nature := none
  moves := []

/-- The lines of both, the moves first, and three blank lines between the sheets. -/
def sparkyAndDitto : List Line :=
  ["Sparky (II) (Pikachu) (F) @ Light Ball", "- Surf", "- Thunderbolt", "Ability: Static",
    "Level: 50", "Shiny: Yes", "Happiness: 0", "Hidden Power: Ice", "EVs: 252 Spe / 04 HP",
    "IVs: -1 Atk", "Timid Nature", "", " ", "", "Ditto", ""].map String.toList

theorem lays_sparkyAndDitto : Lays [sparky, ditto] sparkyAndDitto := by
  have hsparky : sparky.Lays (sparkyAndDitto.take 11) :=
    ⟨_, List.perm_append_comm, rfl, rfl⟩
  have hditto : ditto.Lays [("Ditto" : String).toList] := ⟨[], .nil, rfl, rfl⟩
  have hblank : IsBlankLine [] := by decide
  have hspace : IsBlankLine [' '] := by decide
  exact .cons hsparky hblank (.blank hspace (.blank hblank (.cons hditto hblank .nil)))

end Sample

open Sample in
theorem parseTeam_sparkyAndDitto : Lays [sparky, ditto] sparkyAndDitto
    ∧ parseTeam (String.ofList (['\n'].intercalate sparkyAndDitto)) (some "gen7ou") = .ok
      { format := some "gen7ou"
        sets := [
          { name := "Sparky (II)", species := "Pikachu", item := "Light Ball", ability := "Static",
            moves := ["Surf", "Thunderbolt"], nature := "Timid", gender := some .female,
            evs := ⟨4, 0, 0, 0, 0, 252⟩, ivs := ⟨31, -1, 31, 31, 31, 31⟩, level := some 50,
            shiny := true, hpType := "Ice", happiness := 0, pokeball := "" },
          { name := "", species := "Ditto", item := "", ability := "", moves := [], nature := "",
            gender := none, evs := .const 0, ivs := .const 31, level := none, shiny := false,
            hpType := "", happiness := 255, pokeball := "" }] } :=
  ⟨lays_sparkyAndDitto, parseTeam_joined (some "gen7ou") lays_sparkyAndDitto⟩

end TeamLegality.Export
