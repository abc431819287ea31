import ContentPolicy.Version

/-!
What is told of a run on the side, in the order in which it happens.
-/

namespace ContentPolicy

/-- Why a check could not finish. -/
inductive Fault where
  /-- The entry of a bypass list is no URL and cannot be taken for one. -/
  | unusableEntry (entry : Literal)
  /-- A check from outside of the library gave up, for a reason that has this name. -/
  | reported (reason : String)

inductive Event where
  /-- The directive has characters beyond Latin-1. -/
  | foreignDirective (token : String)
  /-- The policy text mentions the directive again. -/
  | repeatedDirective (name text : String)
  | valueIgnored (value directive : String)
  | checkFailed (check : String) (fault : Fault)
  | evaluated (findings : Nat) (version : Version) (policies : List String)

end ContentPolicy
