import ContentPolicy.Event
import ContentPolicy.Policy.Basic

/-!
Reading policies: headers are cut at `", "`, policies at `;`, directives at blanks.
-/

namespace ContentPolicy

/-- What stands between two semicolons. -/
inductive Token where
  | blank
  /-- Has characters beyond Latin-1, and is skipped. -/
  | foreign (text : String)
  | directive (name : String) (values : List String)

namespace Token

def isLatin1 (c : Char) : Bool := c.toNat ≤ 0xff

def ofWords : List (List Char) → Token
  | [] => .blank
  | w :: ws => .directive (.ofList (Text.lowerChars w))
      (ws.map fun v => Source.normalize (.ofList v)).eraseDups

def ofChars (cs : List Char) : Token :=
  let t := Text.trim Source.isBlank cs
  if t.all isLatin1 then ofWords (Text.words Source.isBlank t) else .foreign (.ofList t)

end Token

namespace Policy

def tokens (text : String) : List Token :=
  (text.toList.splitOnP (· == ';')).map Token.ofChars

/- The policy so far, and what was skipped. -/
structure Reading where
  policy : Policy
  events : List Event

/-- The first mention of a directive counts, later ones are only told of. -/
def Reading.add (text : String) (s : Reading) : Token → Reading
  | .blank => s
  | .foreign t => ⟨s.policy, s.events ++ [.foreignDirective t]⟩
  | .directive name values =>
    if s.policy.has name then ⟨s.policy, s.events ++ [.repeatedDirective name text]⟩
    else ⟨s.policy.addNew name values, s.events⟩

def read (text : String) : Reading := (tokens text).foldl (Reading.add text) ⟨empty, []⟩

def parse (text : String) : Policy := (read text).policy

end Policy

namespace Collection

/-- Cuts at each comma that a space follows, from the left. -/
def splitAtCommas : List Char → List (List Char)
  | [] => [[]]
  | ',' :: ' ' :: r => [] :: splitAtCommas r
  | c :: r => (splitAtCommas r).modifyHead (c :: ·)

def splitHeader (header : String) : List String :=
  (splitAtCommas header.toList).map .ofList

/-- The policy texts of all headers. -/
def texts (headers : List String) : List String := headers.flatMap splitHeader

def parse (headers : List String) : Collection := (texts headers).map Policy.parse

def parseEvents (headers : List String) : List Event :=
  (texts headers).flatMap fun t => (Policy.read t).events

end Collection

/-- What is given to read: one header as it stands, or any number of them. -/
inductive Headers where
  | one (header : String)
  | several (headers : List String)

def Headers.toList : Headers → List String
  | .one header => [header]
  | .several headers => headers

end ContentPolicy
