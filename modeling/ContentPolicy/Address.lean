import ContentPolicy.Text.Basic
import ContentPolicy.Text.Quoted

/-!
Internet addresses as hosts spell them.
-/

namespace ContentPolicy

inductive Address where
  | v4 (a b c d : Nat)
  /-- Eight groups of sixteen bits, and the zone that a link-local address is valid in. -/
  | v6 (groups : List Nat) (zone : Option String)

namespace Address

def decimal (cs : List Char) : Nat := cs.foldl (fun n c => 10 * n + (c.toNat - 48)) 0

/- One to three digits up to 255, without a zero in front. -/
def octet? (cs : List Char) : Option Nat :=
  if !cs.isEmpty && cs.length ≤ 3 && cs.all Char.isDigit && (cs.head? != some '0' || cs == ['0'])
    && decimal cs ≤ 255 then some (decimal cs) else none

def octets? (cs : List Char) : Option (Nat × Nat × Nat × Nat) :=
  match (cs.splitOnP (· == '.')).map octet? with
  | [some a, some b, some c, some d] => some (a, b, c, d)
  | _ => none

def hexDigit? (c : Char) : Option Nat :=
  if c.isDigit then some (c.toNat - 48)
  else if 'a' ≤ c && c ≤ 'f' then some (c.toNat - 87)
  else if 'A' ≤ c && c ≤ 'F' then some (c.toNat - 55)
  else none

def isHexDigit (c : Char) : Bool := (hexDigit? c).isSome

def group? (cs : List Char) : Option Nat :=
  if !cs.isEmpty && cs.length ≤ 4 && cs.all isHexDigit
  then some (cs.foldl (fun n c => 16 * n + (hexDigit? c).getD 0) 0) else none

/- The end of an address may be written as four octets. -/
def tail? (cs : List Char) : Option (List Nat) :=
  match octets? cs with
  | some (a, b, c, d) => some [256 * a + b, 256 * c + d]
  | none => (group? cs).map ([·])

def groupsThenTail? : List (List Char) → Option (List Nat)
  | [] => some []
  | [last] => tail? last
  | cs :: r => (group? cs).bind fun g => (groupsThenTail? r).map (g :: ·)

def pieces (cs : List Char) : List (List Char) :=
  if cs.isEmpty then [] else cs.splitOnP (· == ':')

/- What stands around the first `::`. -/
def splitAtGap : List Char → Option (List Char × List Char)
  | [] => none
  | ':' :: ':' :: r => some ([], r)
  | c :: r => (splitAtGap r).map fun (before, after) => (c :: before, after)

def sixteenBits? (cs : List Char) : Option (List Nat) :=
  match splitAtGap cs with
  | none => (groupsThenTail? (pieces cs)).filter (·.length == 8)
  | some (before, after) =>
    ((pieces before).mapM group?).bind fun hi => (groupsThenTail? (pieces after)).bind fun lo =>
      if hi.length + lo.length ≤ 7
      then some (hi ++ List.replicate (8 - hi.length - lo.length) 0 ++ lo) else none

def parseV6? (cs : List Char) : Option Address :=
  if cs.contains '%' then
    let (groups, zone) := Text.cut '%' cs
    if zone.isEmpty || zone.contains '%' then none
    else (sixteenBits? groups).map (.v6 · (some (.ofList zone)))
  else (sixteenBits? cs).map (.v6 · none)

def parse? (text : String) : Option Address :=
  match octets? text.toList with
  | some (a, b, c, d) => some (.v4 a b c d)
  | none => parseV6? text.toList

def isV4 : Address → Bool
  | .v4 .. => true
  | .v6 .. => false

def isLoopback : Address → Bool
  | .v4 a _ _ _ => a == 127
  | .v6 groups _ => groups == [0, 0, 0, 0, 0, 0, 0, 1]

def zerosFrom (groups : List Nat) (i : Nat) : Nat := ((groups.drop i).takeWhile (· == 0)).length

/- Where the longest run of zeros starts, the first of equals. -/
def gapStart (groups : List Nat) : Nat :=
  (List.range groups.length).foldl
    (fun best i => if zerosFrom groups best < zerosFrom groups i then i else best) 0

def joinGroups (groups : List Nat) : String :=
  ":".intercalate (groups.map fun g => .ofList (Nat.toDigits 16 g))

/-- Small letters, no zeros in front, and `::` for the longest run of two zeros or more. -/
def render : Address → String
  | .v4 a b c d => ".".intercalate ([a, b, c, d].map toString)
  | .v6 groups zone =>
    let i := gapStart groups
    let n := zerosFrom groups i
    let text := if n < 2 then joinGroups groups
      else joinGroups (groups.take i) ++ "::" ++ joinGroups (groups.drop (i + n))
    match zone with
    | some z => text ++ "%" ++ z
    | none => text

end Address

end ContentPolicy
