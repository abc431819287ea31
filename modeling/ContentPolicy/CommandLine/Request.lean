import ContentPolicy.CommandLine.Argument
import ContentPolicy.Report
import ContentPolicy.Session

/-!
What the arguments of the command ask for together, and what comes of it.
-/

namespace ContentPolicy.CommandLine

/-- What the arguments ask for. Without a version the settings choose one. -/
structure Request where
  policies : List String := []
  version : Literal := .null
  sorted : Bool := false
  color : Bool := false
  noColor : Bool := false

/- The request so far. The first run of plain arguments are the policies; more is too much. -/
structure Progress where
  request : Request := {}
  closed : Bool := false
  extra : List String := []

/- An option ends a run of plain arguments. -/
def Progress.close (p : Progress) : Progress :=
  { p with closed := !p.request.policies.isEmpty }

def Progress.addPlain (p : Progress) (text : String) : Progress :=
  if p.closed then { p with extra := p.extra ++ [text] }
  else { p with request := { p.request with policies := p.request.policies ++ [text] } }

def Progress.addUnknown (p : Progress) (text : String) : Progress :=
  { p.close with extra := p.extra ++ [text] }

/- The mark itself is dropped, unless it stands among arguments that are too much. -/
def Progress.addLastSwitch (p : Progress) : Progress :=
  if p.closed then { p with extra := p.extra ++ ["--"] } else p

def readWhole (option : Switch) (text : String) : Except UsageError Int :=
  match Text.readInt? text with
  | some n => .ok n
  | none => .error (.notWhole option text)

def readVerbosity (text : String) : Except UsageError Int := do
  let n ← readWhole .verbosity text
  if [0, 1, 2, 3].contains n then return n
  else .error (.notOffered .verbosity n [0, 1, 2, 3])

/-- The value `--` is no text but an empty list. -/
def Progress.setValue (p : Progress) (option : Switch) (text : String) :
    Except UsageError Progress :=
  let version (v : Literal) : Progress := { p with request := { p.request with version := v } }
  if text == "--" then .ok (if option = .version then version (.list []) else p)
  else match option with
    | .version => (readWhole .version text).map fun n => version (.int n)
    | .verbosity => (readVerbosity text).map fun _ => p
    | _ => .ok p

def Progress.turnOn (p : Progress) : Switch → Except UsageError Progress
  | .help | .release => .error .noEvaluation
  | .sort => .ok { p with request := { p.request with sorted := true } }
  | .forceColor => .ok { p with request := { p.request with color := true } }
  | .noColor => .ok { p with request := { p.request with noColor := true } }
  | _ => .ok p

def Progress.turnOnAll (p : Progress) : List Switch → Except UsageError Progress
  | [] => .ok p
  | option :: r => match p.turnOn option with
    | .error e => .error e
    | .ok p => p.turnOnAll r

def scan (p : Progress) : List Argument → Except UsageError Progress
  | [] => .ok p
  | .plain text :: r => scan (p.addPlain text) r
  | .lastSwitch :: r => scan p.addLastSwitch r
  | .unknown text :: r => scan (p.addUnknown text) r
  | .switch before option (some text) :: r =>
    if option.takesValue then
      match (p.close.turnOnAll before).bind (·.setValue option text) with
      | .error e => .error e
      | .ok p => scan p r
    else .error (.unexpectedValue option text)
  | .switch before option none :: r =>
    if option.takesValue then match r with
      | .plain text :: r => match (p.close.turnOnAll before).bind (·.setValue option text) with
        | .error e => .error e
        | .ok p => scan p r
      | _ => .error (.missingValue option)
    else match p.close.turnOnAll (before ++ [option]) with
      | .error e => .error e
      | .ok p => scan p r

def parse (arguments : List String) : Except UsageError Request := do
  let p ← scan {} (← Argument.ofStrings arguments)
  if p.request.policies.isEmpty then .error .missingPolicies
  else if !p.extra.isEmpty then .error (.unexpected p.extra)
  else return p.request

inductive Failure where
  | usage (e : UsageError)
  | setting (e : SettingError)

/-- The findings in the order in which they are shown, and what was told on the way. -/
structure Result where
  findings : Except Failure (List Finding)
  events : List Event
  session : Session

def evaluate (settings : Settings) (s : Session) (r : Request) : Result :=
  if r.color && r.noColor then ⟨.error (.usage .conflictingColors), [], s⟩
  else
    let e := s.evaluateHeaders settings r.policies r.version
    let findings := match e.findings with
      | .error (.noVersion e) => .error (.usage (.wrongVersion e))
      | .error e => .error (.setting e)
      | .ok fs => .ok (if r.sorted then Finding.sort fs else fs)
    ⟨findings, e.events, e.session⟩

end ContentPolicy.CommandLine
