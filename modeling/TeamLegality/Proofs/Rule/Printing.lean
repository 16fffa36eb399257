import TeamLegality.Proofs.Rule.Reading
import TeamLegality.Proofs.Resolution.History

/-!
# Printing — combinations written out and read back

The canonical text of a combination is its sign, the names that it joins and its limit, a limit of
zero included.  Whatever text a combination was read from, in the same format its canonical text is
read as the same combination (`canonical_reads`).
-/

namespace TeamLegality

namespace Text

variable {sep : Char} {cs post : List Char}

/-- Parts without the mark form no pair when blanks stand on both sides of the mark. -/
theorem hasNoPair_join (hsep : isBlank sep = false) : ∀ {parts : List (List Char)},
    (∀ part ∈ parts, sep ∉ part) → (∀ c ∈ post, isBlank c = true) →
    HasNoPair sep (([' '] ++ [sep] ++ [' ']).intercalate parts ++ post)
  | [], _, hpost => by
    refine hasNoPair_of_notMem fun hmem => ne_of_isBlank hsep (hpost _ ?_) rfl
    simpa using hmem
  | [part], hparts, hpost => by
    refine hasNoPair_of_notMem ?_
    rw [List.intercalate_singleton, List.mem_append, not_or]
    exact ⟨hparts part List.mem_cons_self, fun hmem => ne_of_isBlank hsep (hpost _ hmem) rfl⟩
  | part :: part' :: parts, hparts, hpost => by
    obtain ⟨hpart, hrest⟩ := List.forall_mem_cons.mp hparts
    have hblank : ' ' ≠ sep := ne_of_isBlank hsep (by decide)
    have hspace : HasNoPair sep [' '] := .singleton _
    have hjoin : ([' '] ++ [sep] ++ [' ']).intercalate (part :: part' :: parts) ++ post
        = (part ++ [' ']) ++ ([sep] ++ ([' '] ++
            (([' '] ++ [sep] ++ [' ']).intercalate (part' :: parts) ++ post))) := by
      rw [List.intercalate_cons_cons]
      simp only [List.append_assoc]
    have htail := hspace.append (hasNoPair_join hsep hrest hpost) (by simpa using hblank)
    rw [hjoin]
    exact ((hasNoPair_of_notMem hpart).append_head hspace (by simpa using hblank)).append
      (HasNoPair.append_head (.singleton sep) htail (by simpa using hblank))
      (by simpa using hblank)

end Text

/-- The sign of a limit: what is forbidden is banned, what is allowed is unbanned. -/
def BanLimit.sign : BanLimit → RuleSpec.Sign
  | forbidden _ => .ban
  | allowed => .unban

/-- The number of a limit, zero for what is allowed. -/
def BanLimit.number : BanLimit → Int
  | forbidden n => n
  | allowed => 0

/-- A combination written out, with its limit. -/
def Combination.canonicalText (c : Combination) : String :=
  c.limit.sign.mark ++ (c.rule ++ " > " ++ toString c.limit.number)

namespace RuleSpec

variable {registry : FormatRegistry} {declaring : Option Format} {dex : Dex} {spec : RuleSpec}
  {sign : Sign} {rule text : String} {cs body before post : List Char} {limit : BanLimit}
  {targets : List Target} {c : Combination} {n : Nat}

/-! ### Names in a joined text -/

theorem hasNoOuterBlank_of_mem_namesIn {name : String} (h : name ∈ namesIn cs) :
    Text.HasNoOuterBlank name.toList := by
  obtain ⟨part, -, rfl⟩ := List.mem_map.mp h
  rw [String.toList_ofList]
  exact Text.hasNoOuterBlank_trim part

theorem isDoubled_eq_false_iff : isDoubled cs = false ↔ Text.HasNoPair '+' cs := by
  rw [isDoubled, Option.isSome_eq_false_iff, Option.isNone_iff_eq_none,
    Text.cutFirst?_pair_eq_none_iff]

theorem namesIn_of_isDoubled (h : isDoubled cs = true) : namesIn cs
    = (Text.splitAtTwo '+' cs).map fun part => String.ofList (Text.trim part) := by
  rw [namesIn, if_pos h]

theorem namesIn_of_not_isDoubled (h : isDoubled cs = false) : namesIn cs
    = (Text.splitAt '+' cs).map fun part => String.ofList (Text.trim part) := by
  rw [namesIn, if_neg (by rw [h]; decide)]

/-- Names joined by `++` hold no `++`. -/
theorem hasNoPair_of_mem_namesIn (h : isDoubled cs = true) {name : String}
    (hname : name ∈ namesIn cs) : Text.HasNoPair '+' name.toList := by
  rw [namesIn_of_isDoubled h] at hname
  obtain ⟨part, hpart, rfl⟩ := List.mem_map.mp hname
  rw [String.toList_ofList]
  exact (Text.hasNoPair_of_mem_splitAtTwo hpart).trim

/-- Names joined by `+` hold no `+`. -/
theorem plus_notMem_of_mem_namesIn (h : isDoubled cs = false) {name : String}
    (hname : name ∈ namesIn cs) : '+' ∉ name.toList := by
  rw [namesIn_of_not_isDoubled h] at hname
  obtain ⟨part, hpart, rfl⟩ := List.mem_map.mp hname
  rw [String.toList_ofList]
  have htrim := Text.trim_infix part
  exact fun hmem => Text.notMem_of_mem_splitAt hpart (htrim.subset hmem)

theorem two_le_length_namesIn (h : isDoubled cs = true) : 2 ≤ (namesIn cs).length := by
  have hpair : ¬ Text.HasNoPair '+' cs := by
    rw [← isDoubled_eq_false_iff, h]
    decide
  rw [namesIn_of_isDoubled h, List.length_map]
  exact Text.one_lt_length_splitAtTwo hpair

/-- Where the `+` is not doubled, names stand between single ones; a name alone has none. -/
theorem joined_eq (h : isDoubled cs = false) (limit : BanLimit) :
    joined (isAcrossTeam cs limit) (namesIn cs) = String.intercalate " + " (namesIn cs) := by
  cases hacross : isAcrossTeam cs limit with
  | false => rfl
  | true =>
    have hone : (namesIn cs).length = 1 := by
      simp only [isAcrossTeam, h, Bool.false_or, Bool.and_eq_true, beq_iff_eq] at hacross
      exact hacross.1
    obtain ⟨name, hname⟩ := List.length_eq_one_iff.mp hone
    rw [hname, joined, String.intercalate_singleton, String.intercalate_singleton]

/-! ### Reading a joined text -/

theorem map_toList_ne_nil : (namesIn cs).map String.toList ≠ [] := by
  simpa using namesIn_ne_nil cs

/-- Parts that are the names are read as the names. -/
theorem map_ofList_trim {parts : List (List Char)} {names : List String}
    (h : parts.map Text.trim = names.map String.toList) :
    (parts.map fun part => String.ofList (Text.trim part)) = names := by
  have hmap : (parts.map fun part => String.ofList (Text.trim part))
      = (parts.map Text.trim).map String.ofList := by
    rw [List.map_map]
    rfl
  rw [hmap, h, List.map_map]
  simp

section Joined

variable (hpost : ∀ c ∈ post, Text.isBlank c = true)
include hpost

theorem split_joined_of_isDoubled (h : isDoubled cs = true) (limit : BanLimit) :
    (Text.splitAtTwo '+' ((joined (isAcrossTeam cs limit) (namesIn cs)).toList ++ post)).map Text.trim
      = (namesIn cs).map String.toList := by
  have hacross : isAcrossTeam cs limit = true := by simp [isAcrossTeam, h]
  have hparts : ∀ part ∈ (namesIn cs).map String.toList,
      Text.HasNoPair '+' part ∧ Text.HasNoOuterBlank part := by
    intro part hpart
    obtain ⟨name, hname, rfl⟩ := List.mem_map.mp hpart
    exact ⟨hasNoPair_of_mem_namesIn h hname, hasNoOuterBlank_of_mem_namesIn hname⟩
  rw [hacross, joined, if_pos rfl, String.toList_intercalate]
  exact (Text.splitsAt_two (by decide)).map_trim_join map_toList_ne_nil hparts
    Text.isBlank_of_mem_nil hpost

theorem split_joined_of_not_isDoubled (h : isDoubled cs = false) (limit : BanLimit) :
    (Text.splitAt '+' ((joined (isAcrossTeam cs limit) (namesIn cs)).toList ++ post)).map Text.trim
      = (namesIn cs).map String.toList := by
  have hparts : ∀ part ∈ (namesIn cs).map String.toList,
      '+' ∉ part ∧ Text.HasNoOuterBlank part := by
    intro part hpart
    obtain ⟨name, hname, rfl⟩ := List.mem_map.mp hpart
    exact ⟨plus_notMem_of_mem_namesIn h hname, hasNoOuterBlank_of_mem_namesIn hname⟩
  rw [joined_eq h, String.toList_intercalate]
  exact (Text.splitsAt_one (by decide)).map_trim_join map_toList_ne_nil hparts
    Text.isBlank_of_mem_nil hpost

/-- Joining names again doubles the `+` where it was doubled. -/
theorem isDoubled_joined (cs : List Char) (limit : BanLimit) :
    isDoubled ((joined (isAcrossTeam cs limit) (namesIn cs)).toList ++ post) = isDoubled cs := by
  cases h : isDoubled cs with
  | true =>
    by_contra hsingle
    rw [Bool.not_eq_true, isDoubled_eq_false_iff] at hsingle
    -- A text without a pair is a single part, but there are two names or more.
    have hlength := congrArg List.length (split_joined_of_isDoubled hpost h limit)
    rw [Text.splitAtTwo_of_hasNoPair hsingle] at hlength
    have htwo := two_le_length_namesIn h
    simp only [List.length_map, List.length_singleton] at hlength
    omega
  | false =>
    rw [isDoubled_eq_false_iff, joined_eq h, String.toList_intercalate]
    refine Text.hasNoPair_join (by decide) (fun part hpart => ?_) hpost
    obtain ⟨name, hname, rfl⟩ := List.mem_map.mp hpart
    exact plus_notMem_of_mem_namesIn h hname

/-- **Joined names are read back**, whatever blanks follow. -/
theorem namesIn_joined (cs : List Char) (limit : BanLimit) :
    namesIn ((joined (isAcrossTeam cs limit) (namesIn cs)).toList ++ post) = namesIn cs := by
  have hdoubled := isDoubled_joined hpost cs limit
  cases h : isDoubled cs with
  | true =>
    rw [h] at hdoubled
    rw [namesIn_of_isDoubled hdoubled]
    exact map_ofList_trim (split_joined_of_isDoubled hpost h limit)
  | false =>
    rw [h] at hdoubled
    rw [namesIn_of_not_isDoubled hdoubled]
    exact map_ofList_trim (split_joined_of_not_isDoubled hpost h limit)

theorem means_joined : Means ((combined cs limit targets).rule.toList ++ post) limit targets spec
    ↔ Means cs limit targets spec := by
  have hnames : namesIn ((combined cs limit targets).rule.toList ++ post) = namesIn cs :=
    namesIn_joined hpost cs limit
  have hacross : isAcrossTeam ((combined cs limit targets).rule.toList ++ post) limit
      = isAcrossTeam cs limit := by
    unfold isAcrossTeam
    rw [hnames]
    congr 1
    exact isDoubled_joined hpost cs limit
  unfold Means combined at *
  rw [hacross, hnames]

end Joined

/-! ### Reading a printed limit -/

theorem trimEnd_of_isDigit {digits : List Char} (hne : digits ≠ [])
    (hdigits : ∀ c ∈ digits, Text.isDigit c = true) (cs : List Char) :
    Text.trimEnd (cs ++ digits) = cs ++ digits := by
  show (cs ++ digits).rdropWhile Text.isBlank = cs ++ digits
  rw [List.rdropWhile_eq_self_iff]
  intro _
  rw [List.getLast_append_of_ne_nil _ hne, Text.isBlank_of_isDigit (hdigits _ (List.getLast_mem _))]
  decide

theorem cutLast?_printed (cs : List Char) (n : Nat) :
    Text.cutLast? ['>'] (cs ++ [' ', '>', ' '] ++ (Nat.repr n).toList)
      = some (cs ++ [' '], ' ' :: (Nat.repr n).toList) := by
  have hlast : '>' ∉ ' ' :: (Nat.repr n).toList := by
    rw [List.mem_cons, not_or]
    exact ⟨by decide, fun hmem => absurd (Text.isDigit_of_mem_repr hmem) (by decide)⟩
  have hsplit : cs ++ [' ', '>', ' '] ++ (Nat.repr n).toList
      = (cs ++ [' ']) ++ '>' :: (' ' :: (Nat.repr n).toList) := by
    simp
  rw [hsplit]
  exact Text.cutLast?_append hlast _

theorem trim_printed (n : Nat) : Text.trim (' ' :: (Nat.repr n).toList) = (Nat.repr n).toList := by
  have houter : Text.HasNoOuterBlank (Nat.repr n).toList :=
    Text.hasNoOuterBlank_of_forall fun c hc => Text.isBlank_of_isDigit (Text.isDigit_of_mem_repr hc)
  have hpad := Text.trim_pad Text.isBlank_of_mem_space Text.isBlank_of_mem_nil (Nat.repr n).toList
  rw [List.append_nil, List.singleton_append, houter.trim_eq] at hpad
  exact hpad

theorem splitLimit_printed (sign : Sign) (cs : List Char) (h : n < 10 ^ Text.maxDigits) :
    splitLimit sign (cs ++ [' ', '>', ' '] ++ (Nat.repr n).toList) = match sign with
      | .ban => .ok (cs ++ [' '], .forbidden n)
      | .unban => .ok (cs ++ [' '], .allowed) := by
  have hdigits : (Nat.repr n).toList ≠ [] ∧ (Nat.repr n).toList.all Text.isDigit = true :=
    ⟨Text.toList_repr_ne_nil n, List.all_eq_true.mpr fun _ => Text.isDigit_of_mem_repr⟩
  unfold splitLimit
  simp only [cutLast?_printed, trim_printed, Text.integer?_repr h]
  rw [if_pos hdigits]
  cases sign <;> rfl

/-- A limit that was read is read again as it is printed. -/
theorem exists_number (h : splitLimit sign body = .ok (before, limit)) :
    ∃ n : Nat, limit.number = n ∧ ∀ cs,
      splitLimit limit.sign (cs ++ [' ', '>', ' '] ++ (Nat.repr n).toList)
        = .ok (cs ++ [' '], limit) := by
  have hlimit := (splitLimit_ok h).2
  cases sign with
  | ban =>
    obtain ⟨n, rfl, hn⟩ := hlimit
    exact ⟨n, rfl, fun cs => splitLimit_printed .ban cs hn⟩
  | unban =>
    obtain rfl : limit = .allowed := hlimit
    exact ⟨0, rfl, fun cs => splitLimit_printed .unban cs (Nat.pow_pos (by decide))⟩

/-! ### Printing and reading -/

/-- The names that a rule text lists between its sign and its limit. -/
def writtenNames (text : String) : List String :=
  match signedBody? (Text.strip text).toList with
  | some (_, body) => namesIn (withoutLimit body)
  | none => []

theorem parse_canonicalText (hteams : declaring.filter Format.generatesTeams = none)
    (hnumber : c.limit.number = n) : parse registry declaring c.canonicalText
      = parseCombination (dexOf registry declaring) (Text.strip c.canonicalText) c.limit.sign
        (c.rule.toList ++ [' ', '>', ' '] ++ (Nat.repr n).toList) := by
  have htext : (c.rule ++ " > " ++ toString c.limit.number).toList
      = c.rule.toList ++ [' ', '>', ' '] ++ (Nat.repr n).toList := by
    rw [hnumber, String.toList_append, String.toList_append]
    rfl
  have hend := trimEnd_of_isDigit (Text.toList_repr_ne_nil n) (fun _ => Text.isDigit_of_mem_repr)
    (c.rule.toList ++ [' ', '>', ' '])
  rw [Combination.canonicalText, parse_mark, htext, hend,
    parseBan_eq hteams (.inl (by simp))]

/-- The rule of a combination lists the names that it was read from, whatever blanks follow. -/
theorem ReadFrom.namesIn_rule (h : ReadFrom dex text sign body spec c)
    (hpost : ∀ c ∈ post, Text.isBlank c = true) :
    namesIn (c.rule.toList ++ post) = namesIn (withoutLimit body) := by
  rw [h.combined]
  exact namesIn_joined hpost _ _

theorem ReadFrom.namesIn_rule_eq (h : ReadFrom dex text sign body spec c) :
    namesIn c.rule.toList = namesIn (withoutLimit body) := by
  have hnames := h.namesIn_rule Text.isBlank_of_mem_nil
  rwa [List.append_nil] at hnames

/-- **Combinations survive printing.**  Whatever rule text a combination was read from, its rule
lists the names that were written, each standing for the target in its place; there are two or more
unless they count across the team; and the canonical text is read as the same combination. -/
theorem canonical_reads (h : parse registry declaring text = .ok spec)
    (hc : spec = .complexBan c ∨ spec = .teamBan c) :
    namesIn c.rule.toList = writtenNames text
    ∧ Names (dexOf registry declaring) (namesIn c.rule.toList) c.targets
    ∧ (namesIn c.rule.toList).length = c.targets.length
    ∧ (spec = .complexBan c → 2 ≤ c.targets.length)
    ∧ parse registry declaring c.canonicalText = .ok spec := by
  obtain ⟨hteams, sign, body, hread⟩ := exists_readFrom h hc
  have hwritten : writtenNames text = namesIn (withoutLimit body) := by
    rw [writtenNames, hread.signed]
  rw [hread.namesIn_rule_eq, hwritten]
  refine ⟨rfl, hread.names, hread.names.length_eq, ?_, ?_⟩
  · rintro rfl
    have hmeans := hread.means
    unfold Means at hmeans
    split_ifs at hmeans
    exact hmeans.2
  · obtain ⟨n, hnumber, hprinted⟩ := exists_number hread.limit
    have hbody := hprinted c.rule.toList
    have hblank := Text.isBlank_of_mem_space
    rw [parse_canonicalText hteams hnumber, parseCombination_eq_ok_iff]
    refine ⟨c.limit, c.targets, ?_, ?_, ?_⟩ <;> rw [← (splitLimit_ok hbody).1]
    · exact hbody
    · rw [hread.namesIn_rule hblank]
      exact hread.names
    · rw [hread.combined]
      exact (means_joined hblank).mpr hread.means

/-- A limit in the digits of another script is printed in decimal. -/
theorem canonical_reads_limit :
    let c : Combination := ⟨"Illegal + Unreleased", "", .forbidden 3,
      [.plain "illegal", .plain "unreleased"]⟩
    parse FormatRegistry.Sample.registry none " -Illegal+Unreleased >\uff13" = .ok (.complexBan c)
    ∧ c.canonicalText = "-Illegal + Unreleased > 3"
    ∧ parse FormatRegistry.Sample.registry none c.canonicalText = .ok (.complexBan c) := by
  intro c
  have hparse : parse FormatRegistry.Sample.registry none " -Illegal+Unreleased >\uff13"
      = .ok (.complexBan c) := by decide +kernel
  exact ⟨hparse, by decide +kernel, (canonical_reads hparse (.inl rfl)).2.2.2.2⟩

end RuleSpec

end TeamLegality
