import ContentPolicy.Check.Basic

/-!
Spelling: directives that nobody knows, directives among the values, and ticks that are missing
or around something that is no keyword.
-/

namespace ContentPolicy.Check

def unknownDirective (p : Policy) : List Finding :=
  p.names.flatMap fun name =>
    if Directive.isKnown name then []
    else if name.toList.getLast? == some ':' then
      [⟨.unknownDirective, .syntactic, name, none, "CSP directives don't end with a colon."⟩]
    else [⟨.unknownDirective, .syntactic, name, none,
      "Directive \"" ++ name ++ "\" is not a known CSP directive."⟩]

/-- The name of a directive among the values most likely follows a forgotten semicolon. -/
def missingSemicolon : Policy → List Finding := eachValue fun name value =>
  if Directive.isKnown value then [⟨.missingSemicolon, .syntactic, name, some value,
    "Did you forget the semicolon? \"" ++ value ++ "\" seems to be a directive, not a value."⟩]
  else []

def bareOpenings : List String := ["nonce-", "sha256-", "sha384-", "sha512-"]

/-- Would be a keyword, a nonce or a hash if it had ticks. -/
def lacksTicks (value : String) : Bool :=
  Keyword.allBare.contains value || bareOpenings.any fun o => o.toList.isPrefixOf value.toList

/-- The quoted values that a directive knows. -/
def knowsQuoted (name value : String) : Bool :=
  if name == Directive.requireTrustedTypesFor then value == TrustedTypes.script
  else if name == Directive.trustedTypes then
    value == "'allow-duplicates'" || value == Keyword.none
  else Source.isKeyword value || Source.isHash value || Source.isNonce value

def keywordFindings (name value : String) : List Finding :=
  if lacksTicks value then [⟨.invalidKeyword, .syntactic, name, some value,
    "Did you forget to surround \"" ++ value ++ "\" with single-ticks?"⟩]
  else if Source.isQuoted value && !knowsQuoted name value then
    [⟨.invalidKeyword, .syntactic, name, some value,
      value ++ " seems to be an invalid CSP keyword."⟩]
  else []

def invalidKeyword : Policy → List Finding := eachValue keywordFindings

end ContentPolicy.Check
