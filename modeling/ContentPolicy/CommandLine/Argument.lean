import ContentPolicy.Numbered

/-!
The arguments of the command, each on its own: an option, perhaps cut short and with a value, or
plain text.
-/

namespace ContentPolicy.CommandLine

inductive Switch where
  | help | release | verbosity | settings | searchPath | traceback | noColor | forceColor
  | skipChecks | version | sort
deriving DecidableEq, Repr

/-- All spellings of the options in the order in which they are listed. -/
def Switch.spellings : List (String × Switch) := [
  ("-h", .help), ("--help", .help), ("--version", .release), ("-v", .verbosity),
  ("--verbosity", .verbosity), ("--settings", .settings), ("--pythonpath", .searchPath),
  ("--traceback", .traceback), ("--no-color", .noColor), ("--force-color", .forceColor),
  ("--skip-checks", .skipChecks), ("--csp-version", .version), ("--sort", .sort)]

def Switch.name (s : Switch) : String :=
  "/".intercalate ((spellings.filter (·.2 == s)).map (·.1))

def Switch.takesValue : Switch → Bool
  | .verbosity | .settings | .searchPath | .version => true
  | _ => false

inductive UsageError where
  | ambiguous (text : String) (spellings : List String)
  | notWhole (option : Switch) (text : String)
  | notOffered (option : Switch) (choice : Int) (choices : List Int)
  | missingValue (option : Switch)
  | unexpectedValue (option : Switch) (text : String)
  | missingPolicies
  | unexpected (arguments : List String)
  | conflictingColors
  | wrongVersion (e : NoMember)
  /-- Help or the release was asked for, and no evaluation. -/
  | noEvaluation

def UsageError.message : UsageError → String
  | .ambiguous text spellings =>
    "Error: ambiguous option: " ++ text ++ " could match " ++ ", ".intercalate spellings
  | .notWhole option text => about option ("invalid int value: " ++ Text.quoted text)
  | .notOffered option choice choices =>
    about option ("invalid choice: " ++ toString choice ++ " (choose from "
      ++ ", ".intercalate (choices.map toString) ++ ")")
  | .missingValue option => about option "expected one argument"
  | .unexpectedValue option text =>
    about option ("ignored explicit argument " ++ Text.quoted text)
  | .missingPolicies => "Error: the following arguments are required: policies"
  | .unexpected arguments => "Error: unrecognized arguments: " ++ " ".intercalate arguments
  | .conflictingColors => "The --no-color and --force-color options can't be used together."
  | .wrongVersion e => "Invalid CSP version: " ++ e.message
  | .noEvaluation => "usage: [--csp-version CSP_VERSION] [--sort] policies [policies ...]"
where
  about (option : Switch) (text : String) : String :=
    "Error: argument " ++ option.name ++ ": " ++ text

inductive Argument where
  /-- An option, behind others that share its minus sign, and its value if the argument has one. -/
  | switch (before : List Switch) (option : Switch) (value : Option String)
  | unknown (text : String)
  | plain (text : String)
  /-- Whatever stands behind this is plain. -/
  | lastSwitch

/- A minus sign, digits, and at most one point with digits behind it. -/
def looksNegative (cs : List Char) : Bool :=
  match cs with
  | '-' :: r =>
    let ds := Text.dropFinalBreak r
    let isDigit (c : Char) : Bool := (Text.digit? c).isSome
    match ds.dropWhile isDigit with
    | [] => !ds.isEmpty
    | '.' :: f => !f.isEmpty && f.all isDigit
    | _ => false
  | _ => false

/-- What stands behind a short option is its value, or other short options if it takes none. -/
def Argument.ofShort (before : List Switch) (option : Switch) (cs : List Char) : Argument :=
  if option.takesValue then .switch before option (some (.ofList cs))
  else match cs with
    | [] => .switch before option (some "")
    | c :: r => match Switch.spellings.lookup (.ofList ['-', c]), r with
      | none, _ => .switch before option (some (.ofList cs))
      | some next, [] => .switch (before ++ [option]) next none
      | some next, d :: r => ofShort (before ++ [option]) next (d :: r)

/-- The options that the argument may stand for: a long one may be cut short. -/
def Argument.candidates (cs name : List Char) (value : Option String) :
    List (String × Argument) :=
  if "--".toList.isPrefixOf cs then
    (Switch.spellings.filter fun (spelling, _) => name.isPrefixOf spelling.toList).map
      fun (spelling, option) => (spelling, .switch [] option value)
  else
    (Switch.spellings.filter fun (spelling, _) => spelling.toList == cs.take 2).map
      fun (spelling, option) => (spelling, ofShort [] option (cs.drop 2))

/-- Plain text may start with a minus sign if a blank or a number tells it from an option. -/
def Argument.ofString (s : String) : Except UsageError Argument :=
  let cs := s.toList
  let (name, rest) := Text.cut '=' cs
  let value := if cs.contains '=' then some (.ofList rest) else none
  if cs.head? != some '-' || cs.length == 1 then .ok (.plain s)
  else match Switch.spellings.lookup (.ofList name) with
    | some option =>
      .ok (if name.length == 2 && value.isSome then ofShort [] option rest
        else .switch [] option value)
    | none => match candidates cs name value with
      | [] => .ok (if looksNegative cs || cs.contains ' ' then .plain s else .unknown s)
      | [(_, argument)] => .ok argument
      | several => .error (.ambiguous s (several.map (·.1)))

/-- All arguments, or the first that could be more than one option. -/
def Argument.ofStrings : List String → Except UsageError (List Argument)
  | [] => .ok []
  | s :: r =>
    if s == "--" then .ok (.lastSwitch :: r.map .plain)
    else match ofString s with
      | .error e => .error e
      | .ok argument => (ofStrings r).map (argument :: ·)

end ContentPolicy.CommandLine
