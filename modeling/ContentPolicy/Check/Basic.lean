import ContentPolicy.Event
import ContentPolicy.Finding
import ContentPolicy.Policy.Basic

/-!
A check looks at policies and tells what it finds. One from outside may edit what it is given, and
may break off.
-/

namespace ContentPolicy

structure Outcome where
  findings : List Finding
  fault : Option Fault
  /-- The policies as the check leaves them. -/
  after : Collection

structure Check where
  name : String
  run : Collection → Outcome

namespace Check

def ofResult (name : String) (f : Collection → Except Fault (List Finding)) : Check where
  name
  run c := match f c with
    | .ok fs => ⟨fs, none, c⟩
    | .error e => ⟨[], some e, c⟩

def ofFindings (name : String) (f : Collection → List Finding) : Check :=
  ofResult name fun c => .ok (f c)

/-- One policy at a time. -/
def perPolicy (name : String) (f : Policy → List Finding) : Check :=
  ofFindings name fun c => c.flatMap f

/-- All findings in order, or the first fault. -/
def gather {α : Type} (f : α → Except Fault (List Finding)) :
    List α → Except Fault (List Finding)
  | [] => .ok []
  | a :: r =>
    match f a with
    | .error e => .error e
    | .ok fs => (gather f r).map (fs ++ ·)

/- One value of one directive at a time. -/
def eachValue (f : String → String → List Finding) (p : Policy) : List Finding :=
  p.directives.flatMap fun d => d.2.flatMap (f d.1)

end Check

end ContentPolicy
