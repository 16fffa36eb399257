import TeamLegality.Proofs.Team.Layout

/-!
# Joining — exported teams one after the other

Two texts may end and begin in any way: with an empty line between them, no block of the one runs
into a block of the other (`fullBlocks_joined_texts`).  So the sets of both are read in turn, and
what fails in the first text fails before anything in the second (`parseTeam_append`).
-/

namespace TeamLegality.Export

open Text

/-- **The blocks of two texts with an empty line between them** are those of the first and then
those of the second, whatever the first ends in. -/
theorem fullBlocks_joined_texts (as bs : Line) :
    fullBlocks (lines (as ++ '\n' :: '\n' :: bs))
      = fullBlocks (lines as) ++ fullBlocks (lines bs) := by
  have hempty (ls : List Line) : fullBlocks (ls ++ [] :: lines bs)
      = fullBlocks ls ++ fullBlocks (lines bs) := fullBlocks_append_cons_blank trim_nil ls (lines bs)
  -- The first line feed may be an empty line already; the second one always is.
  obtain h | h := lines_append_feed_cases as ('\n' :: bs)
  · rw [h, lines_feed, hempty]
  · rw [h, lines_feed, fullBlocks_append_cons_blank trim_nil]
    exact congrArg _ (hempty [])

theorem parseSets_append (a b : String) :
    parseSets (a ++ "\n\n" ++ b) = (do return (← parseSets a) ++ (← parseSets b)) := by
  have hchars : (a ++ "\n\n" ++ b).toList = a.toList ++ '\n' :: '\n' :: b.toList := by simp
  have hblocks := fullBlocks_joined_texts a.toList b.toList
  unfold fullBlocks at hblocks
  unfold parseSets
  rw [hchars, hblocks, List.mapM_append]

/-- **Exported teams are read one after the other.**  Two texts with an empty line between them have
the sets of the first and then those of the second.  If the first cannot be read they fail as it
does, and if only the second cannot be read they fail as that does. -/
theorem parseTeam_append (a b : String) (format : Option String) :
    parseTeam (a ++ "\n\n" ++ b) format = match parseTeam a format, parseTeam b format with
      | .ok team, .ok more => .ok { format, sets := team.sets ++ more.sets }
      | .ok _, .error failure => .error failure
      | .error failure, _ => .error failure := by
  unfold parseTeam
  rw [parseSets_append]
  cases parseSets a with
  | error failure => rfl
  | ok sets => cases parseSets b <;> rfl

end TeamLegality.Export
