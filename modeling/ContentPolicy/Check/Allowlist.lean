import ContentPolicy.Bypass
import ContentPolicy.Check.Basic
import ContentPolicy.Url.Matching

/-!
Allowed hosts that are known to serve a way around the policy.
-/

namespace ContentPolicy.Check

/- How a host is told; a URL may have none. -/
def hostLabel (u : Url) : String := u.hostname.getD "None"

/- The missing host is the one that no list names but by a null. -/
def namesHost (host : Option String) : Literal → Bool
  | .text s => host == some s
  | .null => host.isNone
  | _ => false

/-- A value that a host can be read from: unquoted, with a dot, and more than a scheme. -/
def isHostLike (value : String) : Bool :=
  !Source.isQuoted value && !Source.isUrlScheme value && value.toList.contains '.'

/-- Some callbacks run only with `eval`. -/
def usableJsonp (b : BypassLists) (values : List String) (jsonp : Option Url) : Option Url :=
  jsonp.filter fun u => values.contains Keyword.unsafeEval ||
    !b.jsonpNeedsEval.any (namesHost u.hostname)

def bypassDescription : Option Url → Option Url → Option String
  | some _, some angular => some (hostLabel angular ++
      " is known to host JSONP endpoints and Angular libraries which allow to bypass this CSP.")
  | some jsonp, none => some (hostLabel jsonp ++
      " is known to host JSONP endpoints which allow to bypass this CSP.")
  | none, some angular => some (hostLabel angular ++
      " is known to host Angular libraries which allow to bypass this CSP.")
  | none, none => none

def scriptValueBypass (b : BypassLists) (p : Policy) (value : String) :
    Except Fault (List Finding) :=
  let found (severity : Severity) (description : String) : List Finding :=
    [⟨.scriptAllowlistBypass, severity, p.scriptName, some value, description⟩]
  if value == Keyword.self then .ok (found .mediumMaybe
    "'self' can be problematic if you host JSONP, Angular or user uploaded files.")
  else if !isHostLike value then .ok []
  else match Source.firstMatch value b.angularUrls with
    | .error e => .error e
    | .ok angular => match Source.firstMatch value b.jsonpUrls with
      | .error e => .error e
      | .ok jsonp => match bypassDescription (usableJsonp b p.scriptValues jsonp) angular with
        | some description => .ok (found .high description)
        | none => .ok (found .mediumMaybe
          "No bypass found; make sure that this URL doesn't serve JSONP replies or Angular libraries.")

def scriptAllowlistBypass (b : BypassLists) (p : Policy) : Except Fault (List Finding) :=
  if p.scriptValues.contains Keyword.none then .ok []
  else gather (scriptValueBypass b p) p.scriptValues

def objectValueBypass (b : BypassLists) (name value : String) : Except Fault (List Finding) :=
  match Source.firstMatch value b.flashUrls with
  | .error e => .error e
  | .ok (some flash) => .ok [⟨.objectAllowlistBypass, .high, name, some value,
      hostLabel flash ++ " is known to host Flash files which allow to bypass this CSP."⟩]
  | .ok none =>
    if name == Directive.objectSrc then
      .ok [⟨.objectAllowlistBypass, .mediumMaybe, name, some value,
        "Can you restrict object-src to 'none' only?"⟩]
    else .ok []

/-- Plugins of all types are allowed if none is named. -/
def allowsFlash (p : Policy) : Bool :=
  !p.has Directive.pluginTypes ||
    (p.values Directive.pluginTypes).contains "application/x-shockwave-flash"

def objectAllowlistBypass (b : BypassLists) (p : Policy) : Except Fault (List Finding) :=
  let values := p.effectiveValues Directive.objectSrc
  if !allowsFlash p || values.contains Keyword.none then .ok []
  else gather (objectValueBypass b (p.effectiveName Directive.objectSrc)) values

end ContentPolicy.Check
