import ContentPolicy.Check.Basic

/-!
The strict policy, which trusts nonces and hashes and not hosts, and how old browsers take it.
-/

namespace ContentPolicy.Check

def strictDynamic (p : Policy) : List Finding :=
  if p.scriptValues.any (!Source.isQuoted ·) && !p.hasStrictDynamic then
    [⟨.strictDynamic, .strictCsp, p.scriptName, none,
      "Host allowlists can frequently be bypassed. Consider using 'strict-dynamic' in combination with CSP nonces or hashes."⟩]
  else []

def strictDynamicNotStandalone (p : Policy) : List Finding :=
  if p.hasStrictDynamic && !p.hasScriptNonces && !p.hasScriptHashes then
    [⟨.strictDynamicNotStandalone, .info, p.scriptName, none,
      "'strict-dynamic' without a CSP nonce/hash will block all scripts."⟩]
  else []

def unsafeInlineFallback (p : Policy) : List Finding :=
  if (p.hasScriptNonces || p.hasScriptHashes) && !p.scriptValues.contains Keyword.unsafeInline then
    [⟨.unsafeInlineFallback, .strictCsp, p.scriptName, none,
      "Consider adding 'unsafe-inline' (ignored by browsers supporting nonces/hashes) to be backward compatible with older browsers."⟩]
  else []

/-- Lets a browser load scripts by their place. -/
def isPlace (value : String) : Bool :=
  ["http:", "https:", "*"].contains value || value.toList.contains '.'

def fallbackAdvice (name : String) : Finding :=
  ⟨.allowlistFallback, .strictCsp, name, none,
    "Consider adding https: and http: url schemes (ignored by browsers supporting 'strict-dynamic') to be backward compatible with older browsers."⟩

def allowlistFallback (p : Policy) : List Finding :=
  if p.hasStrictDynamic && !p.scriptValues.any isPlace then [fallbackAdvice p.scriptName] else []

def requiresTrustedTypes (p : Policy) : Bool :=
  (p.values Directive.requireTrustedTypesFor).contains TrustedTypes.script

/-- One policy that asks for it is enough. -/
def requiresTrustedTypesForScripts (c : Collection) : List Finding :=
  if c.any requiresTrustedTypes then []
  else [⟨.requireTrustedTypesForScripts, .info, Directive.requireTrustedTypesFor, none,
    "Consider requiring Trusted Types for scripts to lock down DOM XSS injection sinks. You can do this by adding \"require-trusted-types-for 'script'\" to your policy."⟩]

end ContentPolicy.Check
