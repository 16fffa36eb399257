import TeamLegality.Text.Quoted

/-!
# Issues — what is wrong with a document, and where

An issue is a fault at a path.  The path leads from the whole document to the part at fault, by
member names and positions.
-/

namespace TeamLegality

/-- A step into a document. -/
inductive PathStep where
  | field (name : String)
  | index (position : Int)
deriving DecidableEq, Repr

/-- A text of the right kind that the domain does not know. -/
inductive Objection where
  | unknownStat (key : String)
  | unknownGender (given : String)
deriving DecidableEq, Repr

namespace Objection

/-- The wording of an objection. -/
def message : Objection → String
  | unknownStat key => "Unknown stat " ++ Text.quote key
  | unknownGender given => "gender must be one of M, F or N, not " ++ Text.quote given

end Objection

/-- The kinds of faults. -/
inductive Fault where
  | missing
  | notText
  | textTooShort
  | notWhole
  | wholeUnreadable
  | wholeTooLong
  | wholeHasFraction
  | numberNotFinite
  | notTruth
  | truthUnreadable
  | notReal
  | realUnreadable
  | notList
  | notTable
  | notListed
  | notObject
  | keyNotText
  | unexpected
  | belowMinimum
  | objection (cause : Objection)
deriving DecidableEq, Repr

namespace Fault

/-- The code under which a fault is reported. -/
def code : Fault → String
  | missing => "missing"
  | notText => "string_type"
  | textTooShort => "string_too_short"
  | notWhole => "int_type"
  | wholeUnreadable => "int_parsing"
  | wholeTooLong => "int_parsing_size"
  | wholeHasFraction => "int_from_float"
  | numberNotFinite => "finite_number"
  | notTruth => "bool_type"
  | truthUnreadable => "bool_parsing"
  | notReal => "float_type"
  | realUnreadable => "float_parsing"
  | notList => "list_type"
  | notTable => "dict_type"
  | notListed => "literal_error"
  | notObject => "model_type"
  | keyNotText => "invalid_key"
  | unexpected => "extra_forbidden"
  | belowMinimum => "greater_than_equal"
  | objection _ => "value_error"

/-- The wording that goes with a code, for objections only. -/
def text? : Fault → Option String
  | objection cause => some cause.message
  | _ => none

end Fault

/-- A fault and the path to it. -/
structure Issue where
  path : List PathStep
  fault : Fault
deriving DecidableEq, Repr

namespace Issue

/-- The issue seen from one level further out. -/
def within (step : PathStep) (i : Issue) : Issue := { i with path := step :: i.path }

end Issue

end TeamLegality
