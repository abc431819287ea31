import ContentPolicy.Check.Basic
import ContentPolicy.Url.Matching

/-!
Weaknesses of the policy that is enforced: what lets scripts in, what is missing, and what is out
of date.
-/

namespace ContentPolicy.Check

def inlineRuns (name : String) : Finding :=
  ⟨.scriptUnsafeInline, .high, name, some Keyword.unsafeInline,
    "'unsafe-inline' allows the execution of unsafe in-page scripts and event handlers."⟩

def scriptUnsafeInline (p : Policy) : List Finding :=
  if p.scriptValues.contains Keyword.unsafeInline then [inlineRuns p.scriptName] else []

def scriptUnsafeEval (p : Policy) : List Finding :=
  if p.scriptValues.contains Keyword.unsafeEval then
    [⟨.scriptUnsafeEval, .mediumMaybe, p.scriptName, some Keyword.unsafeEval,
      "'unsafe-eval' allows the execution of code injected into DOM APIs such as eval()."⟩]
  else []

/- Each value of the directives that can let scripts in, or stand in for one of them. -/
def eachRiskyValue (f : String → String → List Finding) (p : Policy) : List Finding :=
  (p.effectiveNames Directive.causingXss).flatMap fun name => (p.values name).flatMap (f name)

def riskySchemes : List String := ["data:", "http:", "https:"]

def plainUrlSchemes : Policy → List Finding := eachRiskyValue fun name value =>
  if riskySchemes.contains value then [⟨.plainUrlSchemes, .high, name, some value,
    value ++ " URI in " ++ name ++ " allows the execution of unsafe scripts."⟩]
  else []

def plainWildcard : Policy → List Finding := eachRiskyValue fun name value =>
  if Source.schemeFree value == "*" then
    [⟨.plainWildcard, .high, name, some value, name ++ " should not allow '*' as source"⟩]
  else []

/-- Relative addresses of scripts matter only where a nonce, or a hash whose trust is passed on,
lets them run. -/
def needsBaseUri (p : Policy) : Bool :=
  p.hasScriptNonces || (p.hasScriptHashes && p.hasStrictDynamic)

def missingDirective (p : Policy) (name : String) : List Finding :=
  let missing (description : String) : List Finding :=
    [⟨.missingDirectives, .high, name, none, description⟩]
  if p.has name then []
  else if name == Directive.objectSrc then
    missing "Missing object-src allows the injection of plugins which can execute JavaScript. Can you set it to 'none'?"
  else if name == Directive.baseUri then
    if needsBaseUri p then
      missing "Missing base-uri allows the injection of base tags. They can be used to set the base URL for all relative (script) URLs to an attacker controlled domain. Can you set it to 'none' or 'self'?"
    else []
  else missing (name ++ " directive is missing.")

/-- A `default-src` stands in for the other directives, but not for `base-uri`. -/
def missingDirectives (p : Policy) : List Finding :=
  if p.has Directive.defaultSrc then
    (if !p.has Directive.objectSrc && !(p.values Directive.defaultSrc).contains Keyword.none then
      [⟨.missingDirectives, .highMaybe, Directive.objectSrc, none,
        "Can you restrict object-src to 'none'?"⟩]
    else []) ++ missingDirective p Directive.baseUri
  else Directive.causingXss.flatMap (missingDirective p)

/-- Browsers ignore addresses, but for the one of their own machine. -/
def addressFinding (name value : String) (ip : Address) : Finding :=
  ⟨.ipSource, .info, name, some value,
    if ip.isLoopback then
      name ++ " directive allows localhost as source. Please make sure to remove this in production environments."
    else
      name ++ " directive has an IP-Address as source: " ++ ip.render ++
        " (will be ignored by browsers!). "⟩

def addressFindings (name value : String) : List Finding :=
  (Source.address? value).toList.map (addressFinding name value)

def ipSource : Policy → List Finding := eachValue addressFindings

def deprecatedDirective (p : Policy) : List Finding :=
  let deprecated (name description : String) : List Finding :=
    [⟨.deprecatedDirective, .info, name, none, description⟩]
  (if p.has Directive.reflectedXss then deprecated Directive.reflectedXss
    "reflected-xss is deprecated since CSP2. Please, use the X-XSS-Protection header instead."
  else []) ++
  (if p.has Directive.referrer then deprecated Directive.referrer
    "referrer is deprecated since CSP2. Please, use the Referrer-Policy header instead."
  else []) ++
  (if p.has Directive.disownOpener then deprecated Directive.disownOpener
    "disown-opener is deprecated since CSP3. Please, use the Cross Origin Opener Policy header instead."
  else []) ++
  (if p.has Directive.reportUri && !p.has Directive.reportTo then deprecated Directive.reportUri
    "report-uri is deprecated in CSP3. Please use the report-to directive instead."
  else [])

def nonceLength : Policy → List Finding := eachValue fun name value =>
  match Source.nonce? value with
  | none => []
  | some payload =>
    (if payload.length < 8 then [⟨.nonceLength, .medium, name, some value,
      "Nonces should be at least 8 characters long."⟩] else []) ++
    (if Source.isStrictNonce value then [] else [⟨.nonceCharset, .info, name, some value,
      "Nonces should only use the base64 charset."⟩])

def saysHttp (value : String) : Bool := "http://".toList.isPrefixOf value.toList

def httpFindings (name value : String) : List Finding :=
  if saysHttp value then
    [⟨.srcHttp, .medium, name, some value,
      if name == Directive.reportUri then "Use HTTPS to send violation reports securely."
      else "Allow only resources downloaded over HTTPS."⟩]
  else []

def srcHttp : Policy → List Finding := eachValue httpFindings

end ContentPolicy.Check
