import ContentPolicy.Text.Basic
import ContentPolicy.Text.CaseTable

/-!
Small letters. Each character has its small form by itself, but for the capital sigma: at the end
of a word it becomes the final one.
-/

namespace ContentPolicy.Text

def isCased (c : Char) : Bool :=
  if isAscii c then c.isAlpha else inRanges casedRanges c

def isCaseIgnorable (c : Char) : Bool :=
  if isAscii c then ['\x27', '.', ':', '^', '\x60'].contains c
  else inRanges caseIgnorableRanges c

def CaseSpan.covers (s : CaseSpan) (n : Nat) : Bool :=
  s.first ≤ n && n ≤ s.last && (n - s.first) % s.step == 0

/-- The dotted capital I is the one character with a small form of two. -/
def lowerChar (c : Char) : List Char :=
  if isAscii c then [c.toLower]
  else if c = '\u0130' then ['i', '\u0307']
  else match caseSpans.find? (·.covers c.toNat) with
    | some s => [Char.ofNat (c.toNat + s.offset).toNat]
    | none => [c]

/- Whether a word goes on behind a sigma. -/
def startsCased (cs : List Char) : Bool :=
  (cs.dropWhile isCaseIgnorable).head?.any isCased

/- `inWord` says whether the last character that counts was cased. -/
def lowerFrom (inWord : Bool) : List Char → List Char
  | [] => []
  | c :: r =>
    (if c = '\u03a3' && inWord && !startsCased r then ['\u03c2'] else lowerChar c) ++
      lowerFrom (if isCaseIgnorable c then inWord else isCased c) r

def lowerChars (cs : List Char) : List Char := lowerFrom false cs

def lower (s : String) : String := .ofList (lowerChars s.toList)

end ContentPolicy.Text
