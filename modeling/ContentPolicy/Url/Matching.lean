import ContentPolicy.Event
import ContentPolicy.Source
import ContentPolicy.Url.Basic

/-!
Which of a list of known URLs a source expression allows.
-/

namespace ContentPolicy

/-- Why a search among URLs ended without an answer. -/
inductive MatchError where
  | malformed (e : UrlError)
  /-- An entry of the list is no text. -/
  | unusable (entry : Literal)

namespace Url

/-- An entry that is empty without being text stands for the empty URL. -/
def ofEntry (entry : Literal) : Except MatchError Url :=
  match entry with
  | .text s => (split s).mapError .malformed
  | .list _ | .record _ => .error (.unusable entry)
  | _ => if entry.isEmpty then .ok empty else .error (.unusable entry)

/-- Behind `*.` any host matches that ends so, the dot included; else only the host itself. -/
def hostMatches (host domain : List Char) : Bool :=
  match host with
  | '*' :: '.' :: r => ('.' :: r).isSuffixOf domain
  | _ => host == domain

def isFolder (path : List Char) : Bool := path.getLast? == some '/'

/-- No path restricts nothing, and one with a slash at its end allows all below it. -/
def pathMatches (path candidate : List Char) : Bool :=
  path.isEmpty || if isFolder path then path.isPrefixOf candidate else path == candidate

/- An entry that is no text has no path to look below. -/
def matchEntry (host path : List Char) (entry : Literal) : Except MatchError (Option Url) :=
  match ofEntry entry with
  | .error e => .error e
  | .ok u =>
    if hostMatches host u.domain.toList then
      if entry.text?.isNone && isFolder path then .error (.unusable entry)
      else .ok (if pathMatches path u.path.toList then some u else none)
    else .ok none

def firstEntry (host path : List Char) : List Literal → Except MatchError (Option Url)
  | [] => .ok none
  | e :: r =>
    match matchEntry host path e with
    | .ok none => firstEntry host path r
    | found => found

/-- The first entry that a pattern `//host/path` allows. -/
def firstMatch (pattern : String) (entries : List Literal) : Except MatchError (Option Url) :=
  match split pattern with
  | .error e => .error (.malformed e)
  | .ok p => firstEntry (Text.lowerChars p.domain.toList) p.path.toList entries

end Url

namespace Source

/-- The parts of a source, unless it is malformed. -/
def url? (value : String) : Option Url := (Url.split ("//" ++ schemeFree value)).toOption

def address? (value : String) : Option Address :=
  ((url? value).bind Url.hostname).bind Address.parse?

/-- A source that is malformed, or meets a malformed entry, allows nothing. -/
def firstMatch (value : String) (entries : List Literal) : Except Fault (Option Url) :=
  match Url.firstMatch ("//" ++ schemeFree value) entries with
  | .ok found => .ok found
  | .error (.malformed _) => .ok none
  | .error (.unusable entry) => .error (.unusableEntry entry)

end Source

end ContentPolicy
