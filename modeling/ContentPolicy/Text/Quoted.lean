import ContentPolicy.Text.Basic
import ContentPolicy.Text.PrintTable

/-!
Text between quotes, so that every character of it can be seen.
-/

namespace ContentPolicy.Text

def isVisible (c : Char) : Bool :=
  if isAscii c then ' ' ≤ c && c ≤ '~' else !inRanges invisibleRanges c

def hexDigits (width n : Nat) : List Char :=
  let ds := Nat.toDigits 16 n
  List.replicate (width - ds.length) '0' ++ ds

def escape (quote c : Char) : List Char :=
  if c = quote || c = '\\' then ['\\', c]
  else if c = '\t' then ['\\', 't']
  else if c = '\n' then ['\\', 'n']
  else if c = '\r' then ['\\', 'r']
  else if isVisible c then [c]
  else if c.toNat < 0x100 then '\\' :: 'x' :: hexDigits 2 c.toNat
  else if c.toNat < 0x10000 then '\\' :: 'u' :: hexDigits 4 c.toNat
  else '\\' :: 'U' :: hexDigits 8 c.toNat

/- Single quotes, unless the text has some of them and no double quote. -/
def quoteFor (cs : List Char) : Char :=
  if cs.contains '\x27' && !cs.contains '"' then '"' else '\x27'

def quoted (s : String) : String :=
  let q := quoteFor s.toList
  .ofList (q :: s.toList.flatMap (escape q) ++ [q])

end ContentPolicy.Text
