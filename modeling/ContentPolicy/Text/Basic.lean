/-!
Text is cut, trimmed and searched as a list of characters; a `String` holds it between two steps.
-/

namespace ContentPolicy.Text

/-- The maximal runs of characters that are no separators. -/
def words (isSep : Char → Bool) (cs : List Char) : List (List Char) :=
  (cs.splitOnP isSep).filter (!·.isEmpty)

def trim (isBlank : Char → Bool) (cs : List Char) : List Char :=
  ((cs.dropWhile isBlank).reverse.dropWhile isBlank).reverse

/-- What stands before the first `c` and what stands after it; all and nothing if there is none. -/
def cut (c : Char) (cs : List Char) : List Char × List Char :=
  (cs.takeWhile (· != c), (cs.dropWhile (· != c)).drop 1)

/-- What follows the last `c`; everything if there is none. -/
def afterLast (c : Char) (cs : List Char) : List Char :=
  (cs.reverse.takeWhile (· != c)).reverse

/- A rule about the end of a text holds also one line break before it. -/
def dropFinalBreak (cs : List Char) : List Char :=
  if cs.getLast? = some '\n' then cs.dropLast else cs

def inRanges (ranges : List (Nat × Nat)) (c : Char) : Bool :=
  ranges.any fun (a, b) => a ≤ c.toNat && c.toNat ≤ b

def isAscii (c : Char) : Bool := c.toNat < 0x80

end ContentPolicy.Text
