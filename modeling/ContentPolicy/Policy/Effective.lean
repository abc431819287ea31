import ContentPolicy.Event
import ContentPolicy.Finding
import ContentPolicy.Policy.Basic

/-!
The policy that a browser of some version enforces.
-/

namespace ContentPolicy

namespace Policy

/-- Values that a browser without nonces does not understand. -/
def looksLikeNonceOrHash (value : String) : Bool :=
  "'nonce-".toList.isPrefixOf value.toList || "'sha".toList.isPrefixOf value.toList

/- What a nonce or a hash takes out of the script values: where it is known, the permission of
   inline scripts; where it is not, it goes itself. -/
def offByNonce (v : Version) (p : Policy) : List String :=
  if p.hasScriptNonces || p.hasScriptHashes then
    if v.knowsNonces then
      if p.scriptValues.contains Keyword.unsafeInline then [Keyword.unsafeInline] else []
    else p.scriptValues.filter looksLikeNonceOrHash
  else []

def isOffByStrictDynamic (value : String) : Bool :=
  !Source.isQuoted value || value == Keyword.self || value == Keyword.unsafeInline

def offByStrictDynamic (v : Version) (p : Policy) : List String :=
  if p.hasStrictDynamic then
    if v.knowsStrictDynamic then p.scriptValues.filter isOffByStrictDynamic
    else [Keyword.strictDynamic]
  else []

def newerDirectives (v : Version) : List String :=
  if v.knowsStrictDynamic then [] else Directive.sinceCsp3

/-- One occurrence goes for each value that is off. -/
def effective (v : Version) (p : Policy) : Policy :=
  let off := p.offByNonce v ++ p.offByStrictDynamic v
  (p.modify p.scriptName fun vs => off.foldl List.erase vs).without (newerDirectives v)

/-- The values that are off although the version understands them, each with the reason. -/
def ignoredValues (v : Version) (p : Policy) : List (String × String) :=
  (if v.knowsNonces then (p.offByNonce v).map (·,
    "unsafe-inline is ignored if a nonce or a hash is present. (CSP2 and above)") else []) ++
  (if v.knowsStrictDynamic then (p.offByStrictDynamic v).map (·,
    "Because of strict-dynamic this entry is ignored in CSP3 and above") else [])

def ignoredFindings (v : Version) (p : Policy) : List Finding :=
  (p.ignoredValues v).map fun (value, reason) =>
    ⟨.ignored, .none, p.scriptName, some value, reason⟩

def ignoredEvents (v : Version) (p : Policy) : List Event :=
  (p.ignoredValues v).map fun (value, _) => .valueIgnored value p.scriptName

end Policy

namespace Collection

def effective (v : Version) (c : Collection) : Collection := c.map (Policy.effective v)

def ignoredFindings (v : Version) (c : Collection) : List Finding :=
  c.flatMap (Policy.ignoredFindings v)

def ignoredEvents (v : Version) (c : Collection) : List Event :=
  c.flatMap (Policy.ignoredEvents v)

end Collection

end ContentPolicy
