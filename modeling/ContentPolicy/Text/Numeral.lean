import ContentPolicy.Text.Basic

/-!
Numbers in text: whole numbers as people type them, and the text of a decimal.
-/

namespace ContentPolicy.Text

/- The zeros of the decimal digits beyond ASCII; the other nine follow each. -/
def digitZeros : List Nat := [
  0x660, 0x6f0, 0x7c0, 0x966, 0x9e6, 0xa66, 0xae6, 0xb66, 0xbe6, 0xc66, 0xce6, 0xd66, 0xde6,
  0xe50, 0xed0, 0xf20, 0x1040, 0x1090, 0x17e0, 0x1810, 0x1946, 0x19d0, 0x1a80, 0x1a90, 0x1b50,
  0x1bb0, 0x1c40, 0x1c50, 0xa620, 0xa8d0, 0xa900, 0xa9d0, 0xa9f0, 0xaa50, 0xabf0, 0xff10,
  0x104a0, 0x10d30, 0x11066, 0x110f0, 0x11136, 0x111d0, 0x112f0, 0x11450, 0x114d0, 0x11650,
  0x116c0, 0x11730, 0x118e0, 0x11950, 0x11c50, 0x11d50, 0x11da0, 0x16a60, 0x16ac0, 0x16b50,
  0x1d7ce, 0x1d7d8, 0x1d7e2, 0x1d7ec, 0x1d7f6, 0x1e140, 0x1e2f0, 0x1e950, 0x1fbf0]

def wideBlanks : List Nat := [
  0x85, 0xa0, 0x1680, 0x2000, 0x2001, 0x2002, 0x2003, 0x2004, 0x2005, 0x2006, 0x2007, 0x2008,
  0x2009, 0x200a, 0x2028, 0x2029, 0x202f, 0x205f, 0x3000]

def digit? (c : Char) : Option Nat :=
  if isAscii c then if c.isDigit then some (c.toNat - 48) else none
  else (digitZeros.find? fun z => z ≤ c.toNat && c.toNat < z + 10).map (c.toNat - ·)

def isNumberBlank (c : Char) : Bool :=
  c = ' ' || ('\t' ≤ c && c ≤ '\r') || wideBlanks.contains c.toNat

/- A digit comes next; later ones may have one underscore before them. -/
def digitsFrom (acc : Nat) : List Char → Option Nat
  | [] => none
  | [c] => (digit? c).map (10 * acc + ·)
  | c :: '_' :: r => (digit? c).bind fun d => digitsFrom (10 * acc + d) r
  | c :: r => (digit? c).bind fun d => digitsFrom (10 * acc + d) r

/-- Blanks around the number, a sign, and underscores between digits are allowed; a number of
more than 4300 digits is not. -/
def readInt? (s : String) : Option Int :=
  let cs := trim isNumberBlank s.toList
  let (negative, ds) := match cs with
    | '-' :: r => (true, r)
    | '+' :: r => (false, r)
    | r => (false, r)
  if (ds.filter (· != '_')).length > 4300 then none
  else (digitsFrom 0 ds).map fun n => if negative then -(n : Int) else n

def zeros (n : Nat) : List Char := List.replicate n '0'

/- The digits of a positive number without the zeros at its end. -/
def significant (n : Nat) : List Char :=
  ((Nat.toDigits 10 n).reverse.dropWhile (· == '0')).reverse

/-- The text of `digits / 10 ^ places` behind its sign: positional from 0.0001 up to 10 ^ 16, with at
least one decimal; outside of that one digit before the point and an exponent of two digits or
more. -/
def decimalText (negative : Bool) (digits places : Nat) : String :=
  let ds := significant digits
  let point : Int := (Nat.toDigits 10 digits).length - places
  let sign := if negative then ['-'] else []
  let body :=
    if digits = 0 then ['0', '.', '0']
    else if -4 < point && point ≤ 0 then ['0', '.'] ++ zeros point.natAbs ++ ds
    else if 0 < point && point ≤ 16 then
      if ds.length ≤ point.toNat then ds ++ zeros (point.toNat - ds.length) ++ ['.', '0']
      else ds.take point.toNat ++ ['.'] ++ ds.drop point.toNat
    else
      let e := point - 1
      let es := Nat.toDigits 10 e.natAbs
      ds.take 1 ++ (if ds.length = 1 then [] else '.' :: ds.drop 1) ++
        ['e', if e < 0 then '-' else '+'] ++ zeros (2 - es.length) ++ es
  .ofList (sign ++ body)

end ContentPolicy.Text
