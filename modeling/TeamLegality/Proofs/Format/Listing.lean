import TeamLegality.Format.Registry
import TeamLegality.Proofs.Decoding.Outcomes
import TeamLegality.Proofs.Dex.Mods

/-!
# Listing — which lists of formats make a registry

A document fits into a list after others if it is a record, and a heading or the record of a format
that has an identifier, no earlier format has it, and its mod has a dex.  A document that does not
fit has an offence of its own.  With dexes that were loaded, and one for the default mod, a list
makes a registry exactly if every document in it fits, the registry holds the formats of the list in
order, and otherwise the offence of the first document that does not fit is reported
(`build_of_isLoaded`).
-/

namespace TeamLegality

open Decoding Decoded

/-! ### Records -/

theorem Decoded.abortsIff_ofPositive (j : Json) : (ofPositive j).AbortsIff False := by
  refine (abortsIff_ofWhole j).andThen fun n => ?_
  split_ifs <;> simp [fail]

theorem Decoded.abortsIff_ofEffectWord (j : Json) : (ofEffectWord j).AbortsIff False := by
  unfold ofEffectWord
  repeat' split
  all_goals simp [fail]

namespace FormatRecord

theorem abortsIff_ofMembers (members : List (String × Json)) :
    (ofMembers members).AbortsIff False := by
  have text := fun default => AbortsIff.field_of_never default abortsIff_ofText members
  have texts := AbortsIff.field_of_never [] (.ofList_of_never abortsIff_ofText) members
  have given := AbortsIff.field_of_never none (.ofOptional abortsIff_ofText) members
  have kind := AbortsIff.field_of_never EffectType.format abortsIff_ofEffectWord members
  have level := AbortsIff.field_of_never 100 abortsIff_ofPositive members
  have levelGiven := AbortsIff.field_of_never none (.ofOptional abortsIff_ofPositive) members
  have h := (text "" "name").map mk |>.seq (text "" "section") |>.seq (given "mod")
    |>.seq (kind "effect_type") |>.seq (text "" "desc") |>.seq (texts "ruleset")
    |>.seq (texts "banlist") |>.seq (texts "unbanlist") |>.seq (given "team")
    |>.seq (text "singles" "game_type") |>.seq (level "max_level")
    |>.seq (levelGiven "default_level") |>.seq (given "check_learnset")
  exact h.congr (by simp only [or_self])

/-- Reading a record never aborts. -/
theorem abortsIff_ofJson (j : Json) : (ofJson j).AbortsIff False := by
  cases j with
  | obj members =>
    have h := (abortsIff_ofMembers members).seqLeft (.noOthers fieldNames members)
    exact h.congr (by simp only [or_self])
  | _ => exact .fail _

/-- What a record needs in order to be registered after others. -/
structure IsRegistrable (defaultMod : String) (dexes : DexCollection) (earlier : List FormatRecord)
    (r : FormatRecord) : Prop where
  id_ne : Text.toId r.name ≠ ""
  id_fresh : ∀ r' ∈ earlier, Text.toId r'.name ≠ Text.toId r.name
  mod_mem : dexes.contains (r.modOr defaultMod) = true

end FormatRecord

theorem Format.exists_ofRecord {r : FormatRecord} {defaultMod : String}
    (h : ∃ gen, generationOf (some (r.modOr defaultMod)) = .ok gen) :
    ∃ f, Format.ofRecord r defaultMod = .ok f := by
  obtain ⟨gen, h⟩ := h
  unfold Format.ofRecord
  dsimp only
  rw [h]
  exact ⟨_, rfl⟩

/-! ### Documents in a list -/

namespace FormatRegistry

section Defs

variable (defaultMod : String) (dexes : DexCollection) (docs : List Json)

/-- The records of formats among documents, headings left out. -/
def formatRecords : List FormatRecord :=
  docs.filterMap fun j =>
    match FormatRecord.ofJson j with
    | .accepted r => if r.isHeading then none else some r
    | _ => none

/-- Whether a document fits into a list after those before it. -/
def Fits (earlier : List Json) (j : Json) : Prop :=
  ∃ r, FormatRecord.ofJson j = .accepted r ∧
    (r.isHeading = true ∨ r.IsRegistrable defaultMod dexes (formatRecords earlier))

/-- What is wrong with a document after those before it. -/
inductive Offends (earlier : List Json) (j : Json) : ConfigurationCause → Prop
  | malformed {issues : List Issue} (h : FormatRecord.ofJson j = .rejected issues) :
      Offends earlier j (.malformedRecord (earlier.length + 1) issues)
  | nameless {r : FormatRecord} (h : FormatRecord.ofJson j = .accepted r)
      (hr : r.isHeading = false) (hid : Text.toId r.name = "") :
      Offends earlier j (.namelessFormat (earlier.length + 1) r.name)
  | duplicate {r r' : FormatRecord} (h : FormatRecord.ofJson j = .accepted r)
      (hr : r.isHeading = false) (hid : Text.toId r.name ≠ "") (hr' : r' ∈ formatRecords earlier)
      (heq : Text.toId r'.name = Text.toId r.name) :
      Offends earlier j (.duplicateFormat (earlier.length + 1) (Text.toId r.name))
  | unknownMod {r : FormatRecord} (h : FormatRecord.ofJson j = .accepted r)
      (hr : r.isHeading = false) (hid : Text.toId r.name ≠ "")
      (hfresh : ∀ r' ∈ formatRecords earlier, Text.toId r'.name ≠ Text.toId r.name)
      (hmod : dexes.contains (r.modOr defaultMod) = false) :
      Offends earlier j (.unknownMod r.name (r.modOr defaultMod))

/-- Whether the document at a place fits after those before it. -/
def FitsAt (i : Nat) : Prop := ∃ j, docs[i]? = some j ∧ Fits defaultMod dexes (docs.take i) j

/-- What is wrong with the document at a place. -/
def OffendsAt (i : Nat) (cause : ConfigurationCause) : Prop :=
  ∃ j, docs[i]? = some j ∧ Offends defaultMod dexes (docs.take i) j cause

/-- Whether formats are those of the records, in order, each under the identifier of its name. -/
def Holds (records : List FormatRecord) (formats : Assoc String Format) : Prop :=
  List.Forall₂ (fun r e => e.1 = Text.toId r.name ∧ Format.ofRecord r defaultMod = .ok e.2)
    records formats.entries

end Defs

variable {defaultMod : String} {dexes : DexCollection} {docs earlier : List Json} {j : Json}
  {cause : ConfigurationCause} {i : Nat}

theorem formatRecords_concat_of_heading {r : FormatRecord} (h : FormatRecord.ofJson j = .accepted r)
    (hr : r.isHeading = true) : formatRecords (docs ++ [j]) = formatRecords docs := by
  simp [formatRecords, h, hr]

theorem formatRecords_concat_of_format {r : FormatRecord} (h : FormatRecord.ofJson j = .accepted r)
    (hr : r.isHeading = false) : formatRecords (docs ++ [j]) = formatRecords docs ++ [r] := by
  simp [formatRecords, h, hr]

/-- Every offence is one of the list. -/
theorem Offends.code_eq (h : Offends defaultMod dexes earlier j cause) :
    cause.code = "ERR_FORMAT_CONFIG" := by
  cases h <;> rfl

/-- What offends does not fit. -/
theorem Offends.not_fits (h : Offends defaultMod dexes earlier j cause) :
    ¬ Fits defaultMod dexes earlier j := by
  rintro ⟨r, hread, hr⟩
  cases h with
  | malformed h =>
    rw [hread] at h
    cases h
  | nameless h hheading hid =>
    cases hread.symm.trans h
    exact hr.elim (fun hh => by simp [hh] at hheading) fun hr => hr.id_ne hid
  | duplicate h hheading _ hr' heq =>
    cases hread.symm.trans h
    exact hr.elim (fun hh => by simp [hh] at hheading) fun hr => hr.id_fresh _ hr' heq
  | unknownMod h hheading _ _ hmod =>
    cases hread.symm.trans h
    exact hr.elim (fun hh => by simp [hh] at hheading) fun hr => by simp [hr.mod_mem] at hmod

theorem OffendsAt.not_fitsAt (h : OffendsAt defaultMod dexes docs i cause) :
    ¬ FitsAt defaultMod dexes docs i := by
  rintro ⟨j, hj, hfits⟩
  obtain ⟨j', hj', hoffends⟩ := h
  cases hj.symm.trans hj'
  exact hoffends.not_fits hfits

/-! ### One more document -/

section Holds

variable {records : List FormatRecord} {formats : Assoc String Format}

theorem Holds.keys_eq (h : Holds defaultMod records formats) :
    formats.keys = records.map fun r => Text.toId r.name := by
  unfold Holds at h
  unfold Assoc.keys
  generalize formats.entries = entries at h ⊢
  induction h with
  | nil => rfl
  | cons hfirst _ ih => rw [List.map_cons, List.map_cons, hfirst.1, ih]

theorem Holds.contains_iff (h : Holds defaultMod records formats) {id : String} :
    formats.contains id = true ↔ ∃ r ∈ records, Text.toId r.name = id := by
  rw [Assoc.contains_iff_mem_keys, h.keys_eq, List.mem_map]

theorem Holds.insert (h : Holds defaultMod records formats) {r : FormatRecord} {f : Format}
    (hfresh : ∀ r' ∈ records, Text.toId r'.name ≠ Text.toId r.name)
    (hf : Format.ofRecord r defaultMod = .ok f) :
    Holds defaultMod (records ++ [r]) (formats.insert (Text.toId r.name) f) := by
  have hnew : Text.toId r.name ∉ formats.keys := by
    rw [h.keys_eq, List.mem_map]
    rintro ⟨r', hr', heq⟩
    exact hfresh r' hr' heq
  unfold Holds
  rw [Assoc.entries_insert_of_notMem hnew]
  exact List.rel_append h (.cons ⟨rfl, hf⟩ .nil)

end Holds

/-- Formats with one more entry. -/
def addEntry (defaultMod : String) (dexes : DexCollection) (number : Nat) (e : FormatEntry)
    (formats : Assoc String Format) : Except RegistryError (Assoc String Format) := do
  let r ← readEntry number e
  addRecord defaultMod dexes number r formats

theorem addEntries_concat (entries : List FormatEntry) (e : FormatEntry) (number : Nat)
    (formats : Assoc String Format) : addEntries defaultMod dexes number (entries ++ [e]) formats
      = addEntries defaultMod dexes number entries formats >>=
          addEntry defaultMod dexes (number + entries.length) e := by
  induction entries generalizing number formats with
  | nil =>
    show (readEntry number e >>= fun r => addRecord defaultMod dexes number r formats >>= pure)
      = addEntry defaultMod dexes number e formats
    simp only [bind_pure]
    rfl
  | cons first rest ih =>
    rw [List.cons_append, addEntries, addEntries, List.length_cons, ← Nat.add_assoc,
      Nat.add_right_comm]
    simp only [bind_assoc, ih]

section Entry

variable {formats : Assoc String Format}
  (hformats : Holds defaultMod (formatRecords earlier) formats)
include hformats

/-- The offence of a document is reported. -/
theorem addEntry_of_offends (h : Offends defaultMod dexes earlier j cause) :
    addEntry defaultMod dexes (earlier.length + 1) (.document j) formats
      = .error (.configuration cause) := by
  unfold addEntry readEntry
  cases h with
  | malformed h => simp only [h, bind, Except.bind]
  | nameless h hr hid => simp [h, hr, hid, bind, Except.bind, addRecord]
  | @duplicate r r' h hr hid hr' heq =>
    have hcontains : formats.contains (Text.toId r.name) = true :=
      hformats.contains_iff.mpr ⟨r', hr', heq⟩
    simp [h, hr, hid, hcontains, bind, Except.bind, addRecord]
  | @unknownMod r h hr hid hfresh hmod =>
    have hcontains : formats.contains (Text.toId r.name) = false := by
      rw [← Bool.not_eq_true, hformats.contains_iff]
      rintro ⟨r', hr', heq⟩
      exact hfresh r' hr' heq
    simp [h, hr, hid, hcontains, hmod, bind, Except.bind, addRecord]

/-- A document that fits is added. -/
theorem addEntry_of_fits
    (hmods : ∀ mod, dexes.contains mod = true → ∃ gen, generationOf (some mod) = .ok gen)
    (h : Fits defaultMod dexes earlier j) : ∃ formats',
      addEntry defaultMod dexes (earlier.length + 1) (.document j) formats = .ok formats'
      ∧ Holds defaultMod (formatRecords (earlier ++ [j])) formats' := by
  obtain ⟨r, hread, hr⟩ := h
  unfold addEntry readEntry
  simp only [hread, bind, Except.bind]
  cases hheading : r.isHeading with
  | true =>
    refine ⟨formats, by simp [addRecord, hheading], ?_⟩
    rwa [formatRecords_concat_of_heading hread hheading]
  | false =>
    have hr : r.IsRegistrable defaultMod dexes (formatRecords earlier) :=
      hr.resolve_left (by simp [hheading])
    have hcontains : formats.contains (Text.toId r.name) = false := by
      rw [← Bool.not_eq_true, hformats.contains_iff]
      rintro ⟨r', hr', heq⟩
      exact hr.id_fresh r' hr' heq
    obtain ⟨f, hf⟩ := Format.exists_ofRecord (hmods _ hr.mod_mem)
    refine ⟨formats.insert (Text.toId r.name) f, ?_, ?_⟩
    · simp [addRecord, hheading, hr.id_ne, hcontains, hr.mod_mem, hf]
    · rw [formatRecords_concat_of_format hread hheading]
      exact hformats.insert hr.id_fresh hf

end Entry

/-- A document fits or has an offence. -/
theorem fits_or_offends (defaultMod : String) (dexes : DexCollection) (earlier : List Json)
    (j : Json) : Fits defaultMod dexes earlier j
      ∨ ∃ cause, Offends defaultMod dexes earlier j cause := by
  obtain ⟨r, hread⟩ | ⟨issues, -, hread⟩ | hread := (FormatRecord.abortsIff_ofJson j).outcomes
  · cases hheading : r.isHeading with
    | true => exact .inl ⟨r, hread, .inl hheading⟩
    | false =>
      by_cases hid : Text.toId r.name = ""
      · exact .inr ⟨_, .nameless hread hheading hid⟩
      by_cases hfresh : ∀ r' ∈ formatRecords earlier, Text.toId r'.name ≠ Text.toId r.name
      · cases hmod : dexes.contains (r.modOr defaultMod) with
        | true => exact .inl ⟨r, hread, .inr ⟨hid, hfresh, hmod⟩⟩
        | false => exact .inr ⟨_, .unknownMod hread hheading hid hfresh hmod⟩
      · push Not at hfresh
        obtain ⟨r', hr', heq⟩ := hfresh
        exact .inr ⟨_, .duplicate hread hheading hid hr' heq⟩
  · exact .inr ⟨_, .malformed hread⟩
  · exact ((FormatRecord.abortsIff_ofJson j).aborted_iff.mp hread).elim

/-! ### The whole list -/

theorem fitsAt_concat (hi : i < docs.length) :
    FitsAt defaultMod dexes (docs ++ [j]) i ↔ FitsAt defaultMod dexes docs i := by
  unfold FitsAt
  rw [List.getElem?_append_left hi, List.take_append_of_le_length hi.le]

theorem fitsAt_concat_length :
    FitsAt defaultMod dexes (docs ++ [j]) docs.length ↔ Fits defaultMod dexes docs j := by
  simp [FitsAt]

theorem OffendsAt.lt_length (h : OffendsAt defaultMod dexes docs i cause) : i < docs.length := by
  obtain ⟨j, hj, -⟩ := h
  exact (List.getElem?_eq_some_iff.mp hj).1

theorem OffendsAt.concat (h : OffendsAt defaultMod dexes docs i cause) (j : Json) :
    OffendsAt defaultMod dexes (docs ++ [j]) i cause := by
  have hi := h.lt_length
  unfold OffendsAt
  rwa [List.getElem?_append_left hi, List.take_append_of_le_length hi.le]

/-- The run over a list ends with its formats, or with the offence of the first document that does
not fit. -/
theorem addEntries_outcome
    (hmods : ∀ mod, dexes.contains mod = true → ∃ gen, generationOf (some mod) = .ok gen)
    (docs : List Json) :
    ((∀ i < docs.length, FitsAt defaultMod dexes docs i)
      ∧ ∃ formats, addEntries defaultMod dexes 1 (docs.map .document) .empty = .ok formats
        ∧ Holds defaultMod (formatRecords docs) formats)
    ∨ ∃ i cause, (∀ k < i, FitsAt defaultMod dexes docs k) ∧ OffendsAt defaultMod dexes docs i cause
      ∧ addEntries defaultMod dexes 1 (docs.map .document) .empty
        = .error (.configuration cause) := by
  induction docs using List.reverseRecOn with
  | nil => exact .inl ⟨nofun, .empty, rfl, .nil⟩
  | append_singleton docs j ih =>
    rw [List.map_append, List.map_singleton, addEntries_concat, List.length_map, Nat.add_comm 1]
    obtain ⟨hfits, formats, hrun, hformats⟩ | ⟨i, cause, hfits, hoffends, hrun⟩ := ih
    · rw [hrun]
      have hearlier : ∀ i < docs.length, FitsAt defaultMod dexes (docs ++ [j]) i :=
        fun i hi => (fitsAt_concat hi).mpr (hfits i hi)
      obtain hj | ⟨cause, hj⟩ := fits_or_offends defaultMod dexes docs j
      · refine .inl ⟨fun i hi => ?_, addEntry_of_fits hformats hmods hj⟩
        obtain hi | rfl := Nat.lt_or_eq_of_le (Nat.le_of_lt_succ (by simpa using hi))
        · exact hearlier i hi
        · exact fitsAt_concat_length.mpr hj
      · exact .inr ⟨docs.length, cause, hearlier, ⟨j, by simp, by simpa using hj⟩,
          addEntry_of_offends hformats hj⟩
    · refine .inr ⟨i, cause, fun k hk => ?_, hoffends.concat j, by rw [hrun]; rfl⟩
      exact (fitsAt_concat (hk.trans hoffends.lt_length)).mpr (hfits k hk)

/-- With a dex for the default mod, only the run over the list can fail. -/
theorem build_eq_map {config : Config} (hdefault : dexes.contains config.defaultMod = true)
    (aliases : List (String × Json)) (entries : List FormatEntry) : ∃ defaultDex table,
      build config dexes (.obj aliases) entries
        = (addEntries config.defaultMod dexes 1 entries .empty).map fun formats =>
            { config, dexes, defaultDex, formats, aliases := table } := by
  obtain ⟨defaultDex, hdex⟩ := Option.isSome_iff_exists.mp hdefault
  obtain ⟨table, htable⟩ : ∃ table, readAliases (.obj aliases) = .ok table := ⟨_, rfl⟩
  refine ⟨defaultDex, table, ?_⟩
  unfold build
  simp only [hdex, htable]
  cases addEntries config.defaultMod dexes 1 entries .empty <;> rfl

/-- **Which lists make a registry**: those in which every document fits after those before it.  The
registry holds their formats, and any other list is refused for the first document that does not
fit. -/
theorem build_outcome {config : Config} (hloaded : dexes.IsLoaded)
    (hdefault : dexes.contains config.defaultMod = true) (aliases : List (String × Json))
    (docs : List Json) :
    ((∃ registry, build config dexes (.obj aliases) (docs.map .document) = .ok registry) ↔
        ∀ i < docs.length, FitsAt config.defaultMod dexes docs i)
      ∧ (∀ registry, build config dexes (.obj aliases) (docs.map .document) = .ok registry →
        Holds config.defaultMod (formatRecords docs) registry.formats)
      ∧ ∀ e, build config dexes (.obj aliases) (docs.map .document) = .error e →
        ∃ i < docs.length, ∃ cause, e = .configuration cause ∧ cause.code = "ERR_FORMAT_CONFIG"
          ∧ OffendsAt config.defaultMod dexes docs i cause
          ∧ ¬ FitsAt config.defaultMod dexes docs i
          ∧ ∀ k < i, FitsAt config.defaultMod dexes docs k := by
  obtain ⟨defaultDex, table, hbuild⟩ := build_eq_map hdefault aliases (docs.map .document)
  rw [hbuild]
  obtain ⟨hfits, formats, hrun, hformats⟩ | ⟨i, cause, hfits, hoffends, hrun⟩ :=
    addEntries_outcome (fun mod => hloaded.exists_generationOf) docs
  · rw [hrun, Except.map]
    refine ⟨iff_of_true ⟨_, rfl⟩ hfits, fun registry h => ?_, by simp⟩
    cases h
    exact hformats
  · rw [hrun, Except.map]
    refine ⟨iff_of_false (by simp) fun h => ?_, by simp, fun e he => ?_⟩
    · exact hoffends.not_fitsAt (h i hoffends.lt_length)
    · cases he
      obtain ⟨j, -, hj⟩ := id hoffends
      exact ⟨i, hoffends.lt_length, cause, rfl, hj.code_eq, hoffends, hoffends.not_fitsAt, hfits⟩

namespace Listing

theorem isSome_twoDexes : (DexCollection.load (.obj []) [6, 7]).toOption.isSome = true := by
  decide +kernel

/-- Empty tables shared by two generations. -/
def twoDexes : DexCollection := (DexCollection.load (.obj []) [6, 7]).toOption.get isSome_twoDexes

theorem isLoaded_twoDexes : twoDexes.IsLoaded := by
  have hload : DexCollection.load (.obj []) [6, 7] = .ok twoDexes :=
    toOption_eq_some_iff.mp (Option.some_get isSome_twoDexes).symm
  exact DexCollection.isLoaded_of_load (by decide) hload

/-- A heading, a format of the default mod, one of another, and one whose mod has no dex. -/
def fourDocs : List Json := [
  .obj [("section", .str "Singles")],
  .obj [("name", .str "[Gen 7] OU")],
  .obj [("name", .str "[Gen 6] OU"), ("mod", .str "gen6")],
  .obj [("name", .str "[Gen 8] OU"), ("mod", .str "gen8")]]

/-- The record of the last one. -/
def eighth : FormatRecord where
  name := "[Gen 8] OU"
  mod := some "gen8"

/-- What comes of the first documents. -/
def built (n : Nat) : Except RegistryError FormatRegistry :=
  build {} twoDexes (.obj [("ou", .str "gen7ou")]) ((fourDocs.take n).map .document)

theorem offendsAt_fourDocs :
    OffendsAt "gen7" twoDexes fourDocs 3 (.unknownMod "[Gen 8] OU" "gen8") := by
  have hread : FormatRecord.ofJson (.obj [("name", .str "[Gen 8] OU"), ("mod", .str "gen8")])
      = .accepted eighth := rfl
  exact ⟨_, rfl, .unknownMod hread (by decide) (by decide +kernel) (by decide +kernel)
    (by decide +kernel)⟩

end Listing

open Listing in
/-- Three of the documents make a registry of two formats, and the fourth is refused. -/
theorem build_outcome_gen8 : twoDexes.IsLoaded ∧ twoDexes.contains "gen7" = true
    ∧ (built 3).toOption.map (·.formats.keys) = some ["gen7ou", "gen6ou"]
    ∧ OffendsAt "gen7" twoDexes fourDocs 3 (.unknownMod "[Gen 8] OU" "gen8")
    ∧ ((∃ registry, built 4 = .ok registry) ↔ ∀ i < 4, FitsAt "gen7" twoDexes fourDocs i)
    ∧ (∀ registry, built 4 = .ok registry → Holds "gen7" (formatRecords fourDocs) registry.formats)
    ∧ ∀ e, built 4 = .error e → ∃ i < 4, ∃ cause, e = .configuration cause
        ∧ cause.code = "ERR_FORMAT_CONFIG" ∧ OffendsAt "gen7" twoDexes fourDocs i cause
        ∧ ¬ FitsAt "gen7" twoDexes fourDocs i ∧ ∀ k < i, FitsAt "gen7" twoDexes fourDocs k :=
  ⟨isLoaded_twoDexes, by decide +kernel, by decide +kernel,
    offendsAt_fourDocs,
    build_outcome isLoaded_twoDexes (by decide +kernel) _ fourDocs⟩

end FormatRegistry

end TeamLegality
