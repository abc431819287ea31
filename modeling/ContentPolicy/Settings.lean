import ContentPolicy.Bypass
import ContentPolicy.Version

/-!
What a site can configure. A setting that is not there has a default, one that is there has to fit.
-/

namespace ContentPolicy

structure Settings where
  version : Option Literal := none
  jsonpUrls : Option Literal := none
  angularUrls : Option Literal := none
  flashUrls : Option Literal := none
  jsonpNeedsEval : Option Literal := none

inductive SettingError where
  | noVersion (e : NoMember)
  /-- A list was asked for, and this has no parts. -/
  | noList (value : Literal)

namespace Settings

def readVersion (v : Literal) : Except SettingError Version :=
  (Numbered.ofLiteral v).mapError .noVersion

def defaultVersion (s : Settings) : Except SettingError Version :=
  match s.version with
  | none => .ok .csp3
  | some v => readVersion v

def readList (value : Option Literal) (default : List Literal) :
    Except SettingError (List Literal) :=
  match value with
  | none => .ok default
  | some v => match v.parts? with
    | some items => .ok items
    | none => .error (.noList v)

def bypassLists (s : Settings) : Except SettingError BypassLists := do
  let jsonpUrls ← readList s.jsonpUrls BypassLists.builtIn.jsonpUrls
  let angularUrls ← readList s.angularUrls BypassLists.builtIn.angularUrls
  let flashUrls ← readList s.flashUrls BypassLists.builtIn.flashUrls
  let jsonpNeedsEval ← readList s.jsonpNeedsEval BypassLists.builtIn.jsonpNeedsEval
  return { jsonpUrls, angularUrls, flashUrls, jsonpNeedsEval }

/-- The settings fill in what is not given, the version first. A null stands for no version. -/
def complete (s : Settings) (version : Literal) (bypasses : Option BypassLists) :
    Except SettingError (Version × BypassLists) := do
  let v ← match version with
    | .null => s.defaultVersion
    | given => readVersion given
  let b ← match bypasses with
    | none => s.bypassLists
    | some given => .ok given
  return (v, b)

end Settings

end ContentPolicy
