import TeamLegality.Error
import TeamLegality.RuleTable.Basic

/-!
# Sessions — what is remembered between questions

A session remembers the rule tables found so far and keeps a journal of what happened.  Tables and
journal survive a failure.  Nothing ever looks into the journal; it is there to be reported.
-/

namespace TeamLegality

/-- The tables found so far, by format key, in the order in which they were completed. -/
abbrev TableCache := Assoc String RuleTable

/-- A legality check asked about a move. -/
structure HookCall where
  moveId : String
  setName : String
  formatKey : String
  mod : String
deriving DecidableEq, Repr

/-- Something that happened in a session. -/
inductive Event where
  | resolved (key : String) (rules complexBans teamBans : Nat)
  | alreadyInEffect (rule formatId : String)
  | asked (call : HookCall)
  | setChecked (name formatKey : String) (problems : Nat)
  | teamChecked (size : Nat) (formatKey : String) (problems : Nat)
deriving DecidableEq, Repr

/-- What a session remembers. -/
structure Session where
  cache : TableCache := .empty
  journal : List Event := []

namespace Session

/-- A session that remembers nothing. -/
def fresh : Session := {}

/-- Adds events to the journal. -/
def note (s : Session) (events : List Event) : Session := { s with journal := s.journal ++ events }

/-- Remembers the table of a format. -/
def remember (s : Session) (key : String) (t : RuleTable) : Session where
  cache := s.cache.insert key t
  journal :=
    s.journal ++ [.resolved key t.size t.complexBans.length t.teamBans.length]

/-- Forgets all tables. -/
def clear (s : Session) : Session := { s with cache := .empty }

/-- Starts a new journal. -/
def turnPage (s : Session) : Session := { s with journal := [] }

@[simp] theorem cache_note (s : Session) (events : List Event) : (s.note events).cache = s.cache :=
  rfl

@[simp] theorem cache_remember (s : Session) (key : String) (t : RuleTable) :
    (s.remember key t).cache = s.cache.insert key t := rfl

end Session

/-- Computations in a session, which may fail without losing what the session remembers. -/
abbrev SessionM := ExceptT Failure (StateM Session)

end TeamLegality
