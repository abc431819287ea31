/-!
The names that policies are written with: directives by their group, and the quoted keywords.
-/

namespace ContentPolicy

namespace Directive

def childSrc := "child-src"
def connectSrc := "connect-src"
def defaultSrc := "default-src"
def fontSrc := "font-src"
def frameSrc := "frame-src"
def imgSrc := "img-src"
def manifestSrc := "manifest-src"
def mediaSrc := "media-src"
def objectSrc := "object-src"
def prefetchSrc := "prefetch-src"
def scriptSrc := "script-src"
def scriptSrcElem := "script-src-elem"
def scriptSrcAttr := "script-src-attr"
def styleSrc := "style-src"
def styleSrcElem := "style-src-elem"
def styleSrcAttr := "style-src-attr"
def workerSrc := "worker-src"
def baseUri := "base-uri"
def pluginTypes := "plugin-types"
def sandbox := "sandbox"
def disownOpener := "disown-opener"
def formAction := "form-action"
def frameAncestors := "frame-ancestors"
def navigateTo := "navigate-to"
def reportUri := "report-uri"
def reportTo := "report-to"
def blockAllMixedContent := "block-all-mixed-content"
def referrer := "referrer"
def reflectedXss := "reflected-xss"
def requireSriFor := "require-sri-for"
def requireTrustedTypesFor := "require-trusted-types-for"
def trustedTypes := "trusted-types"
def upgradeInsecureRequests := "upgrade-insecure-requests"
def webrtc := "webrtc"

/-- Where resources may be fetched from. A missing one falls back to `default-src`. -/
def fetch : List String := [childSrc, connectSrc, defaultSrc, fontSrc, frameSrc, imgSrc,
  manifestSrc, mediaSrc, objectSrc, prefetchSrc, scriptSrc, scriptSrcElem, scriptSrcAttr,
  styleSrc, styleSrcElem, styleSrcAttr, workerSrc]

def document : List String := [baseUri, pluginTypes, sandbox, disownOpener]

def navigation : List String := [formAction, frameAncestors, navigateTo]

def reporting : List String := [reportUri, reportTo]

def other : List String := [blockAllMixedContent, referrer, reflectedXss, requireSriFor,
  requireTrustedTypesFor, trustedTypes, upgradeInsecureRequests, webrtc]

def all : List String := fetch ++ document ++ navigation ++ reporting ++ other

/-- Without a meaning before the third version. -/
def sinceCsp3 : List String :=
  [reportTo, workerSrc, manifestSrc, trustedTypes, requireTrustedTypesFor]

/-- Too much in one of these lets scripts in. -/
def causingXss : List String := [scriptSrc, objectSrc, baseUri]

def isKnown (name : String) : Bool := all.contains name

def isFetch (name : String) : Bool := fetch.contains name

end Directive

namespace Keyword

def self := "'self'"
def none := "'none'"
def unsafeInline := "'unsafe-inline'"
def unsafeEval := "'unsafe-eval'"
def wasmEval := "'wasm-eval'"
def wasmUnsafeEval := "'wasm-unsafe-eval'"
def strictDynamic := "'strict-dynamic'"
def unsafeHashedAttributes := "'unsafe-hashed-attributes'"
def unsafeHashes := "'unsafe-hashes'"
def reportSample := "'report-sample'"
def block := "'block'"
def allow := "'allow'"

def all : List String := [self, none, unsafeInline, unsafeEval, wasmEval, wasmUnsafeEval,
  strictDynamic, unsafeHashedAttributes, unsafeHashes, reportSample, block, allow]

/-- The word between the ticks. -/
def bare (keyword : String) : String := .ofList (keyword.toList.filter (· != '\x27'))

def allBare : List String := all.map bare

end Keyword

/-- What `require-trusted-types-for` can ask for. -/
def TrustedTypes.script := "'script'"

/-- A name in capitals, its words joined by underscores and its ticks dropped. -/
def constantName (name : String) : String :=
  .ofList ((name.toList.filter (· != '\x27')).map fun c => if c = '-' then '_' else c.toUpper)

end ContentPolicy
