import ContentPolicy.Cache
import ContentPolicy.Evaluation
import ContentPolicy.Policy.Parser
import ContentPolicy.Settings

/-!
A session works on named collections, parsers and evaluators. Two names may refer to one collection,
and so may the cache of parsed headers.
-/

namespace ContentPolicy

/-- A collection's place in the store. -/
abbrev Ref := Nat

/-- The headers to read, and the collection that each reading is appended to. -/
structure HeaderParser where
  headers : List String
  collection : Ref

structure Evaluator where
  collection : Ref
  version : Version
  bypasses : BypassLists
  findings : List Finding

/-- Of two entries for one name the first counts. -/
structure Session where
  store : List Collection
  parserStore : List HeaderParser
  collections : List (String × Ref)
  parsers : List (String × Ref)
  evaluators : List (String × Evaluator)
  cache : Cache Ref
  /-- The cached parsers that were asked for, in the order of their first use. -/
  seen : List Ref

namespace Session

def start : Session := ⟨[], [], [], [], [], .empty, []⟩

inductive Failure where
  | setting (e : SettingError)
  | noPolicy (index : Int)
  | fault (e : Fault)
  | noName (name : String)

inductive Reply where
  | nothing
  | flag (b : Bool)
  | count (n : Nat)
  | texts (ts : List String)
  | findings (fs : List Finding)
  | directives (p : Policy)
  | effective (p : Policy) (fs : List Finding)
  | parser (number : Nat) (headers : List String)
  | cacheUse (hits misses capacity size : Nat)
  | evaluator (v : Version)
  | evaluated (before : Nat) (fs : List Finding)

/- The checks to run, chosen when the bypass lists are known. -/
abbrev Checks := Option (BypassLists → List Check)

inductive Step where
  | parse (name : String) (headers : List String)
  | build (name : String) (policies : Collection)
  | clone (name source : String)
  | alias (name source : String)
  | show (name : String)
  | effective (name source : String) (version : Literal)
  | effectivePolicy (name : String) (index : Int) (version : Literal)
  | addPolicy (name : String) (policy : Policy)
  | append (name : String) (index : Int) (directive value : String)
  | remove (name : String) (index : Int) (directive value : String)
  | delete (name : String) (index : Int) (directive : String)
  | equal (left right : String)
  | check (name : String) (check : Check)
  | newParser (name : String) (headers : List String)
  | split (parser : String)
  | parseOne (parser : String) (text : String)
  | load (parser : String) (name : String)
  | cached (headers : List String) (name : Option String)
  | cacheInfo
  | evaluateHeaders (headers : List String) (version : Literal)
  | newEvaluator (evaluator name : String) (version : Literal) (bypasses : Option BypassLists)
  | evaluate (evaluator : String) (parsed effective : Checks)

/-- What a step leaves behind: events and a session also where it fails. -/
structure Answer where
  reply : Except Failure Reply
  events : List Event
  session : Session

def collection? (s : Session) (name : String) : Option Collection :=
  (s.collections.lookup name).bind (s.store[·]?)

/- Puts a new collection into the store under a name. -/
def define (s : Session) (name : String) (c : Collection) : Session :=
  { s with store := s.store ++ [c], collections := (name, s.store.length) :: s.collections }

def assign (s : Session) (r : Ref) (c : Collection) : Session :=
  { s with store := s.store.set r c }

def withRef (s : Session) (name : String) (k : Ref → Collection → Answer) : Answer :=
  match s.collections.lookup name with
  | none => ⟨.error (.noName name), [], s⟩
  | some r => match s.store[r]? with
    | none => ⟨.error (.noName name), [], s⟩
    | some c => k r c

def withParser (s : Session) (name : String) (k : HeaderParser → Answer) : Answer :=
  match (s.parsers.lookup name).bind (s.parserStore[·]?) with
  | none => ⟨.error (.noName name), [], s⟩
  | some p => k p

/-- A negative index counts from the end. -/
def place? (c : Collection) (index : Int) : Option Nat :=
  let i := if index < 0 then index + c.length else index
  if 0 ≤ i && i < c.length then some i.toNat else none

def withPolicy (s : Session) (policies : Collection) (index : Int) (k : Nat → Policy → Answer) :
    Answer :=
  match place? policies index with
  | none => ⟨.error (.noPolicy index), [], s⟩
  | some i => match policies[i]? with
    | none => ⟨.error (.noPolicy index), [], s⟩
    | some p => k i p

def withVersion (s : Session) (version : Literal) (k : Version → Answer) : Answer :=
  match Settings.readVersion version with
  | .error e => ⟨.error (.setting e), [], s⟩
  | .ok v => k v

def newParser (s : Session) (headers : List String) : Ref × Session :=
  (s.parserStore.length,
    { s with
      store := s.store ++ [[]]
      parserStore := s.parserStore ++ [⟨headers, s.store.length⟩] })

/- Appends what the parser reads to its collection. -/
def load (s : Session) (p : HeaderParser) : Session :=
  s.assign p.collection ((s.store[p.collection]?).getD [] ++ Collection.parse p.headers)

/- The parser of the headers that the cache holds, or a new one that has read them. -/
def cachedParser (s : Session) (headers : List String) : Ref × List Event × Session :=
  match s.cache.find? headers with
  | some r => (r, [], { s with cache := s.cache.hit headers r })
  | none =>
    let (r, s) := s.newParser headers
    let s := match s.parserStore[r]? with
      | some p => s.load p
      | none => s
    (r, Collection.parseEvents headers, { s with cache := s.cache.miss headers r })

def parserCollection (s : Session) (r : Ref) : Ref :=
  match s.parserStore[r]? with
  | some p => p.collection
  | none => s.store.length

/-- The number of a parser is its place among those that were asked for. -/
def number (s : Session) (r : Ref) : Nat × Session :=
  match s.seen.findIdx? (· == r) with
  | some n => (n, s)
  | none => (s.seen.length, { s with seen := s.seen ++ [r] })

/-- The findings for some headers, and the session with them in its cache. -/
structure HeaderEvaluation where
  findings : Except SettingError (List Finding)
  events : List Event
  session : Session

/-- The headers are read before the version is looked at. -/
def evaluateHeaders (s : Session) (settings : Settings) (headers : List String)
    (version : Literal) : HeaderEvaluation :=
  let (r, events, s) := s.cachedParser headers
  match settings.complete version none with
  | .error e => ⟨.error e, events, s⟩
  | .ok (v, b) =>
    let ref := s.parserCollection r
    let e := ((s.store[ref]?).getD []).evaluate v b
    ⟨.ok e.findings, events ++ e.events, s.assign ref e.after⟩

def evaluate (s : Session) (name : String) (parsed effective : Checks) : Answer :=
  match s.evaluators.lookup name with
  | none => ⟨.error (.noName name), [], s⟩
  | some e =>
    let parsed := match parsed with
      | some checks => checks e.bypasses
      | none => Check.parsedChecks
    let effective := match effective with
      | some checks => checks e.bypasses
      | none => Check.effectiveChecks e.bypasses
    let result := ((s.store[e.collection]?).getD []).evaluateWith parsed effective e.version
    let s := s.assign e.collection result.after
    ⟨.ok (.evaluated e.findings.length result.findings), result.events,
      { s with evaluators := (name, { e with findings := result.findings }) :: s.evaluators }⟩

/-- One step, under the settings that are in force during it. -/
def run (settings : Settings) (s : Session) : Step → Answer
  | .parse name headers =>
    ⟨.ok .nothing, Collection.parseEvents headers, s.define name (Collection.parse headers)⟩
  | .build name policies => ⟨.ok .nothing, [], s.define name policies⟩
  | .clone name source => s.withRef source fun _ c => ⟨.ok .nothing, [], s.define name c⟩
  | .alias name source => s.withRef source fun r _ =>
    ⟨.ok .nothing, [], { s with collections := (name, r) :: s.collections }⟩
  | .show name => s.withRef name fun _ c => ⟨.ok (.texts c.serializeEach), [], s⟩
  | .effective name source version => s.withRef source fun _ c => s.withVersion version fun v =>
    ⟨.ok (.findings (c.ignoredFindings v)), c.ignoredEvents v, s.define name (c.effective v)⟩
  | .effectivePolicy name index version => s.withRef name fun _ c =>
    s.withPolicy c index fun _ p => s.withVersion version fun v =>
      ⟨.ok (.effective (p.effective v) (p.ignoredFindings v)), p.ignoredEvents v, s⟩
  | .addPolicy name policy => s.withRef name fun r c =>
    ⟨.ok .nothing, [], s.assign r (c ++ [policy])⟩
  | .append name index directive value => s.withRef name fun r c =>
    s.withPolicy c index fun i p =>
      ⟨.ok .nothing, [], s.assign r (c.set i (p.append directive value))⟩
  | .remove name index directive value => s.withRef name fun r c =>
    s.withPolicy c index fun i p =>
      ⟨.ok .nothing, [], s.assign r (c.set i (p.remove directive value))⟩
  | .delete name index directive => s.withRef name fun r c =>
    s.withPolicy c index fun i p =>
      ⟨.ok (.flag (p.has directive)), [], s.assign r (c.set i (p.without [directive]))⟩
  | .equal left right => s.withRef left fun _ c => s.withRef right fun _ d =>
    ⟨.ok (.flag (c == d)), [], s⟩
  | .check name check => s.withRef name fun r c =>
    let o := check.run c
    let reply := match o.fault with
      | none => .ok (.findings o.findings)
      | some f => .error (.fault f)
    ⟨reply, [], s.assign r o.after⟩
  | .newParser name headers =>
    let (r, s) := s.newParser headers
    ⟨.ok (.texts headers), [], { s with parsers := (name, r) :: s.parsers }⟩
  | .split parser => s.withParser parser fun p =>
    ⟨.ok (.texts (Collection.texts p.headers)), [], s⟩
  | .parseOne parser text => s.withParser parser fun _ =>
    ⟨.ok (.directives (Policy.parse text)), (Policy.read text).events, s⟩
  | .load parser name => s.withParser parser fun p =>
    let s := s.load p
    ⟨.ok (.count ((s.store[p.collection]?).getD []).length), Collection.parseEvents p.headers,
      { s with collections := (name, p.collection) :: s.collections }⟩
  | .cached headers name =>
    let (r, events, s) := s.cachedParser headers
    let (n, s) := s.number r
    let s := match name with
      | some name => { s with collections := (name, s.parserCollection r) :: s.collections }
      | none => s
    ⟨.ok (.parser n headers), events, s⟩
  | .cacheInfo =>
    ⟨.ok (.cacheUse s.cache.hits s.cache.misses Cache.capacity s.cache.entries.length), [], s⟩
  | .evaluateHeaders headers version =>
    let e := s.evaluateHeaders settings headers version
    ⟨(e.findings.map .findings).mapError .setting, e.events, e.session⟩
  | .newEvaluator evaluator name version bypasses => s.withRef name fun r _ =>
    match settings.complete version bypasses with
    | .error e => ⟨.error (.setting e), [], s⟩
    | .ok (v, b) => ⟨.ok (.evaluator v), [],
      { s with evaluators := (evaluator, ⟨r, v, b, []⟩) :: s.evaluators }⟩
  | .evaluate evaluator parsed effective => s.evaluate evaluator parsed effective

end Session

end ContentPolicy
