/-!
# Word — the integers of a signed word of 64 bits

Some fields of a document take a number only if a machine word holds it.  An exact integer is held
within the whole range of a word, a rounded one only strictly inside it.
-/

namespace TeamLegality

/-- The least natural that is too large for a signed word. -/
def wordLimit : Nat := Nat.pow 2 63

/-- Whether a signed word holds an integer. -/
def fitsWord (n : Int) : Bool := -(wordLimit : Int) ≤ n && n < (wordLimit : Int)

/-- Whether an integer lies strictly between the ends of the range of a word.  The ends of that range
are not told apart from what lies beyond them once they have been rounded. -/
def isInsideWord (n : Int) : Bool := n.natAbs < wordLimit

end TeamLegality
