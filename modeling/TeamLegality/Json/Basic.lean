import TeamLegality.Number.Binary64

/-!
# Json — documents

A document is null, a truth value, a whole or a real number, a text, an array or an object.  Whole
and real numbers are kept apart, since `5` and `5.0` are told apart by readers of documents.
Objects keep their members in order; a reader gives every name at most one member.
-/

namespace TeamLegality

/-- A JSON document. -/
inductive Json where
  | null
  | bool (value : Bool)
  | int (value : Int)
  | real (value : Binary64)
  | str (value : String)
  | arr (items : List Json)
  | obj (members : List (String × Json))
deriving Inhabited

namespace Json

/-- The member of that name, among the members of an object. -/
def member? (members : List (String × Json)) (name : String) : Option Json :=
  members.lookup name

/-- Members with one set: in place if the name is present, else at the end. -/
def setMember (name : String) (value : Json) : List (String × Json) → List (String × Json)
  | [] => [(name, value)]
  | m :: rest => if m.1 = name then (name, value) :: rest else m :: setMember name value rest

/-- Members in the order of the first mention of each name, with the last value of each. -/
def collectMembers (pairs : List (String × Json)) : List (String × Json) :=
  pairs.foldl (fun acc p => setMember p.1 p.2 acc) []

/-- Whether a document says something: null, false, zero and what is empty say nothing. -/
def saysSomething : Json → Bool
  | null => false
  | bool b => b
  | int n => n != 0
  | real x => !x.isZero
  | str s => s != ""
  | arr items => !items.isEmpty
  | obj members => !members.isEmpty

/-- The text, if the document is one. -/
def str? : Json → Option String
  | str s => some s
  | _ => none

end Json

end TeamLegality
