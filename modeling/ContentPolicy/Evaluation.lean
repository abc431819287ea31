import ContentPolicy.Check.Catalog
import ContentPolicy.Policy.Effective
import ContentPolicy.Policy.Printer

/-!
Running checks, first those for the written policies, then those for the policies that the browser
enforces.
-/

namespace ContentPolicy

structure Evaluation where
  findings : List Finding
  events : List Event
  /-- The policies as the checks leave them. -/
  after : Collection

namespace Check

def failure (name : String) : Finding :=
  ⟨.internalError, .info, "", some name, "The check " ++ name ++ " failed unexpectedly."⟩

/-- Nothing that a check found before it broke off counts. -/
def guarded (check : Check) (c : Collection) : Evaluation :=
  let o := check.run c
  match o.fault with
  | none => ⟨o.findings, [], o.after⟩
  | some f => ⟨[failure check.name], [.checkFailed check.name f], o.after⟩

/- Each check gets the policies as the one before it leaves them. -/
def runAll : List Check → Collection → Evaluation
  | [], c => ⟨[], [], c⟩
  | check :: r, c =>
    let a := check.guarded c
    let b := runAll r a.after
    ⟨a.findings ++ b.findings, a.events ++ b.events, b.after⟩

end Check

namespace Collection

/-- The enforced policies are worked out before any check can edit the written ones. -/
def evaluateWith (parsed effective : List Check) (v : Version) (c : Collection) : Evaluation :=
  let a := Check.runAll parsed c
  let b := Check.runAll effective (c.effective v)
  let findings := c.ignoredFindings v ++ a.findings ++ b.findings
  { findings
    events := c.ignoredEvents v ++ a.events ++ b.events ++
      [.evaluated findings.length v a.after.serializeEach]
    after := a.after }

def evaluate (v : Version) (b : BypassLists) (c : Collection) : Evaluation :=
  c.evaluateWith Check.parsedChecks (Check.effectiveChecks b) v

end Collection

end ContentPolicy
