import ContentPolicy.Finding

/-!
Findings on the screen: one line for each, and a last one for the worst severity.
-/

namespace ContentPolicy.Report

def line (f : Finding) : String :=
  let place := match f.value with
    | some v => f.directive ++ " " ++ v
    | none => f.directive
  "[" ++ f.severity.label ++ "] " ++ place ++ ": " ++ f.description

def lastLine (fs : List Finding) : String := "Highest severity: " ++ (Finding.highest fs).label

/-- Errors are red and warnings yellow, both bold. -/
def colored (level : Level) (text : String) : String :=
  match level with
  | .error => "\x1b[31;1m" ++ text ++ "\x1b[0m"
  | .warning => "\x1b[33;1m" ++ text ++ "\x1b[0m"
  | .info => text

def lines (color : Bool) (fs : List Finding) : List String :=
  (fs.map fun f => if color then colored f.level (line f) else line f) ++ [lastLine fs]

def render (color : Bool) (fs : List Finding) : String :=
  String.join ((lines color fs).map (· ++ "\n"))

end ContentPolicy.Report
