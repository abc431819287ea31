import ContentPolicy.Evaluation
import ContentPolicy.Proofs.OneLine
import ContentPolicy.Proofs.Reading
import ContentPolicy.Proofs.Running

/-!
No text of a finding has a line break in it, whatever the policies and the configured lists are.
-/

namespace ContentPolicy

open Text

def Policy.OneLine (p : Policy) : Prop :=
  ∀ d ∈ p.directives, Text.OneLine d.1 ∧ ∀ value ∈ d.2, Text.OneLine value

theorem Token.IsWord.oneLine {s : String} (h : Token.IsWord s.toList) : Text.OneLine s :=
  fun hm => absurd (h.2 _ hm) (by decide)

theorem Policy.Settled.oneLine {p : Policy} (h : p.Settled) : p.OneLine := fun d hd =>
  ⟨(h d hd).isWord_name.oneLine, fun value hv => ((h d hd).isWord_value value hv).oneLine⟩

theorem Policy.OneLine.name {p : Policy} (h : p.OneLine) {name : String} (hn : name ∈ p.names) :
    Text.OneLine name := by
  obtain ⟨d, hd, rfl⟩ := List.mem_map.1 hn
  exact (h d hd).1

theorem Policy.OneLine.value {p : Policy} (h : p.OneLine) {name value : String}
    (hv : value ∈ p.values name) : Text.OneLine value :=
  (h _ (Policy.mem_directives_of_has (Policy.has_of_mem_values hv))).2 value hv

theorem Policy.oneLine_effectiveName (p : Policy) {name : String} (h : Text.OneLine name) :
    Text.OneLine (p.effectiveName name) := by
  unfold Policy.effectiveName
  split
  · exact h
  · exact oneLine_of_all (by decide)

theorem Policy.oneLine_scriptName (p : Policy) : Text.OneLine p.scriptName :=
  p.oneLine_effectiveName (oneLine_of_all (by decide))

structure Finding.OneLine (f : Finding) : Prop where
  directive : Text.OneLine f.directive
  value : ∀ value, f.value = some value → Text.OneLine value
  description : Text.OneLine f.description

theorem Finding.oneLine_of_value {topic : Topic} {severity : Severity}
    {name value description : String} (hn : Text.OneLine name) (hv : Text.OneLine value)
    (hd : Text.OneLine description) :
    Finding.OneLine ⟨topic, severity, name, some value, description⟩ :=
  ⟨hn, fun _ h => Option.some.inj h ▸ hv, hd⟩

theorem Finding.oneLine_of_directive {topic : Topic} {severity : Severity}
    {name description : String} (hn : Text.OneLine name) (hd : Text.OneLine description) :
    Finding.OneLine ⟨topic, severity, name, none, description⟩ :=
  ⟨hn, fun _ h => absurd h (by simp), hd⟩

namespace Check

def AllOneLine (fs : List Finding) : Prop := ∀ f ∈ fs, f.OneLine

section Combinators

variable {p : Policy}

theorem allOneLine_nil : AllOneLine [] := List.forall_mem_nil _

theorem allOneLine_singleton {f : Finding} (h : f.OneLine) : AllOneLine [f] :=
  List.forall_mem_singleton.2 h

theorem allOneLine_append {fs gs : List Finding} (hf : AllOneLine fs) (hg : AllOneLine gs) :
    AllOneLine (fs ++ gs) := List.forall_mem_append.2 ⟨hf, hg⟩

theorem allOneLine_ite {q : Prop} [Decidable q] {fs gs : List Finding} (hf : AllOneLine fs)
    (hg : AllOneLine gs) : AllOneLine (if q then fs else gs) := by
  split
  · exact hf
  · exact hg

theorem allOneLine_if {q : Prop} [Decidable q] {f : Finding} (h : f.OneLine) :
    AllOneLine (if q then [f] else []) := allOneLine_ite (allOneLine_singleton h) allOneLine_nil

theorem allOneLine_eachValue (hp : p.OneLine) {g : String → String → List Finding}
    (h : ∀ name value, Text.OneLine name → Text.OneLine value → AllOneLine (g name value)) :
    AllOneLine (eachValue g p) :=
  List.forall_mem_flatMap.2 fun d hd => List.forall_mem_flatMap.2 fun value hv =>
    h d.1 value (hp d hd).1 ((hp d hd).2 value hv)

theorem oneLine_of_mem_causingXss : ∀ name ∈ Directive.causingXss, Text.OneLine name := by
  simp only [Directive.causingXss, List.forall_mem_cons]
  exact ⟨oneLine_of_all (by decide), oneLine_of_all (by decide), oneLine_of_all (by decide),
    List.forall_mem_nil _⟩

theorem allOneLine_eachRiskyValue (hp : p.OneLine) {g : String → String → List Finding}
    (h : ∀ name value, Text.OneLine name → Text.OneLine value → AllOneLine (g name value)) :
    AllOneLine (eachRiskyValue g p) := by
  refine List.forall_mem_flatMap.2 fun name hn => List.forall_mem_flatMap.2 fun value hv => ?_
  obtain ⟨n, hm, rfl⟩ := List.mem_map.1 (List.mem_eraseDups.1 hn)
  exact h _ value (p.oneLine_effectiveName (oneLine_of_mem_causingXss n hm)) (hp.value hv)

theorem allOneLine_gather {α : Type} {g : α → Except Fault (List Finding)} {l : List α}
    (h : ∀ a ∈ l, ∀ fs, g a = .ok fs → AllOneLine fs) :
    ∀ fs, gather g l = .ok fs → AllOneLine fs := by
  intro fs hfs f hf
  obtain ⟨a, ha, gs, hgs, hf⟩ := exists_of_mem_gather hfs f hf
  exact h a ha gs hgs f hf

end Combinators

section Checks

theorem oneLine_of_scriptName (p : Policy) {topic : Topic} {severity : Severity}
    {description : String} (h : Text.OneLine description) :
    Finding.OneLine ⟨topic, severity, p.scriptName, none, description⟩ :=
  Finding.oneLine_of_directive p.oneLine_scriptName h

theorem allOneLine_strictDynamic (p : Policy) : AllOneLine (strictDynamic p) :=
  allOneLine_if (oneLine_of_scriptName p (oneLine_of_all rfl))

theorem allOneLine_strictDynamicNotStandalone (p : Policy) :
    AllOneLine (strictDynamicNotStandalone p) :=
  allOneLine_if (oneLine_of_scriptName p (oneLine_of_all rfl))

set_option maxRecDepth 1000 in
theorem allOneLine_unsafeInlineFallback (p : Policy) : AllOneLine (unsafeInlineFallback p) :=
  allOneLine_if (oneLine_of_scriptName p (oneLine_of_all rfl))

set_option maxRecDepth 1000 in
theorem allOneLine_allowlistFallback (p : Policy) : AllOneLine (allowlistFallback p) :=
  allOneLine_if (oneLine_of_scriptName p (oneLine_of_all rfl))

set_option maxRecDepth 1000 in
theorem allOneLine_requiresTrustedTypesForScripts (c : Collection) :
    AllOneLine (requiresTrustedTypesForScripts c) :=
  allOneLine_ite allOneLine_nil (allOneLine_singleton (Finding.oneLine_of_directive
    (oneLine_of_all rfl) (oneLine_of_all rfl)))

theorem allOneLine_scriptUnsafeInline (p : Policy) : AllOneLine (scriptUnsafeInline p) :=
  allOneLine_if (Finding.oneLine_of_value p.oneLine_scriptName (oneLine_of_all rfl)
    (oneLine_of_all rfl))

theorem allOneLine_scriptUnsafeEval (p : Policy) : AllOneLine (scriptUnsafeEval p) :=
  allOneLine_if (Finding.oneLine_of_value p.oneLine_scriptName (oneLine_of_all rfl)
    (oneLine_of_all rfl))

set_option maxRecDepth 1000 in
theorem allOneLine_missingDirective (p : Policy) {name : String} (hn : Text.OneLine name) :
    AllOneLine (missingDirective p name) := by
  have missing {description : String} (h : Text.OneLine description) :
      AllOneLine [⟨.missingDirectives, .high, name, none, description⟩] :=
    allOneLine_singleton (Finding.oneLine_of_directive hn h)
  refine allOneLine_ite allOneLine_nil (allOneLine_ite ?_ (allOneLine_ite
    (allOneLine_ite ?_ allOneLine_nil) ?_))
  · exact missing (oneLine_of_all rfl)
  · exact missing (oneLine_of_all rfl)
  · exact missing (hn.append (oneLine_of_all rfl))

theorem allOneLine_missingDirectives (p : Policy) : AllOneLine (missingDirectives p) := by
  refine allOneLine_ite (allOneLine_append (allOneLine_if ?_) ?_) ?_
  · exact Finding.oneLine_of_directive (oneLine_of_all rfl) (oneLine_of_all rfl)
  · exact allOneLine_missingDirective p (oneLine_of_all rfl)
  · exact List.forall_mem_flatMap.2 fun name hn =>
      allOneLine_missingDirective p (oneLine_of_mem_causingXss name hn)

theorem allOneLine_deprecatedDirective (p : Policy) : AllOneLine (deprecatedDirective p) := by
  have deprecated {q : Prop} [Decidable q] {name description : List Char}
      (hn : name.all (· != '\n') = true) (hd : description.all (· != '\n') = true) :
      AllOneLine (if q then [⟨.deprecatedDirective, .info, .ofList name, none,
        .ofList description⟩] else []) :=
    allOneLine_if (Finding.oneLine_of_directive (oneLine_of_all hn) (oneLine_of_all hd))
  refine allOneLine_append (allOneLine_append (allOneLine_append ?_ ?_) ?_) ?_
  · exact deprecated rfl rfl
  · exact deprecated rfl rfl
  · exact deprecated rfl rfl
  · exact deprecated rfl rfl

/-- Each of the texts is a host and a constant. -/
theorem oneLine_bypassDescription {jsonp angular : Option Url} {description : String}
    (hj : ∀ u, jsonp = some u → Text.OneLine (hostLabel u))
    (ha : ∀ u, angular = some u → Text.OneLine (hostLabel u))
    (h : bypassDescription jsonp angular = some description) : Text.OneLine description := by
  have known {u : Url} {cs : List Char} (hu : Text.OneLine (hostLabel u))
      (hcs : cs.all (· != '\n') = true)
      (hd : some (hostLabel u ++ .ofList cs) = some description) : Text.OneLine description := by
    rw [← Option.some.inj hd]
    exact hu.append (oneLine_of_all hcs)
  cases jsonp with
  | some u =>
    cases angular with
    | some w => exact known (ha w rfl) rfl h
    | none => exact known (hj u rfl) rfl h
  | none =>
    cases angular with
    | some w => exact known (ha w rfl) rfl h
    | none => cases h

theorem allOneLine_objectValueBypass (b : BypassLists) {name value : String}
    (hn : Text.OneLine name) (hv : Text.OneLine value) :
    ∀ fs, objectValueBypass b name value = .ok fs → AllOneLine fs := by
  intro fs hfs
  unfold objectValueBypass at hfs
  split at hfs
  case h_1 => cases hfs
  case h_2 flash hf =>
    rw [← Except.ok.inj hfs]
    exact allOneLine_singleton (Finding.oneLine_of_value hn hv
      ((Source.oneLine_hostLabel hf).append (oneLine_of_all rfl)))
  case h_3 =>
    split at hfs
    · rw [← Except.ok.inj hfs]
      exact allOneLine_singleton (Finding.oneLine_of_value hn hv (oneLine_of_all rfl))
    · rw [← Except.ok.inj hfs]
      exact allOneLine_nil

variable {p : Policy} (hp : p.OneLine)
include hp

theorem allOneLine_ignoredFindings (v : Version) : AllOneLine (p.ignoredFindings v) := by
  rw [Policy.ignoredFindings_eq, Policy.ignoredUnder]
  refine allOneLine_append (allOneLine_if ?_) (allOneLine_ite ?_ allOneLine_nil)
  · exact Finding.oneLine_of_value p.oneLine_scriptName (oneLine_of_all rfl) (oneLine_of_all rfl)
  · intro f hf
    obtain ⟨value, hv, rfl⟩ := List.mem_map.1 hf
    exact Finding.oneLine_of_value p.oneLine_scriptName (hp.value (List.mem_filter.1 hv).1)
      (oneLine_of_all rfl)

theorem allOneLine_unknownDirective : AllOneLine (unknownDirective p) := by
  refine List.forall_mem_flatMap.2 fun name hm => ?_
  have hn := hp.name hm
  refine allOneLine_ite allOneLine_nil (allOneLine_ite (allOneLine_singleton ?_)
    (allOneLine_singleton ?_))
  · exact Finding.oneLine_of_directive hn (oneLine_of_all rfl)
  · exact Finding.oneLine_of_directive hn (hn.between rfl rfl)

theorem allOneLine_missingSemicolon : AllOneLine (missingSemicolon p) :=
  allOneLine_eachValue hp fun _ _ hn hv => allOneLine_if (Finding.oneLine_of_value hn hv
    (hv.between rfl rfl))

theorem allOneLine_invalidKeyword : AllOneLine (invalidKeyword p) := by
  refine allOneLine_eachValue hp fun _ _ hn hv => allOneLine_ite (allOneLine_singleton ?_)
    (allOneLine_if ?_)
  · exact Finding.oneLine_of_value hn hv (hv.between rfl rfl)
  · exact Finding.oneLine_of_value hn hv (hv.append (oneLine_of_all rfl))

theorem allOneLine_plainUrlSchemes : AllOneLine (plainUrlSchemes p) :=
  allOneLine_eachRiskyValue hp fun _ _ hn hv => allOneLine_if (Finding.oneLine_of_value hn hv
    (((hv.append (oneLine_of_all rfl)).append hn).append (oneLine_of_all rfl)))

theorem allOneLine_plainWildcard : AllOneLine (plainWildcard p) :=
  allOneLine_eachRiskyValue hp fun _ _ hn hv => allOneLine_if (Finding.oneLine_of_value hn hv
    (hn.append (oneLine_of_all rfl)))

theorem allOneLine_ipSource : AllOneLine (ipSource p) := by
  refine allOneLine_eachValue hp fun name value hn hv => ?_
  rw [addressFindings]
  cases ha : Source.address? value with
  | none => exact allOneLine_nil
  | some ip =>
    refine allOneLine_singleton (Finding.oneLine_of_value hn hv ?_)
    split
    · exact hn.append (oneLine_of_all rfl)
    · exact ((hn.append (oneLine_of_all rfl)).append
        (Source.oneLine_render_address ha)).append (oneLine_of_all rfl)

theorem allOneLine_nonceLength : AllOneLine (nonceLength p) := by
  refine allOneLine_eachValue hp fun name value hn hv => ?_
  cases Source.nonce? value with
  | none => exact allOneLine_nil
  | some payload =>
    refine allOneLine_append (allOneLine_if ?_) (allOneLine_ite allOneLine_nil
      (allOneLine_singleton ?_))
    · exact Finding.oneLine_of_value hn hv (oneLine_of_all rfl)
    · exact Finding.oneLine_of_value hn hv (oneLine_of_all rfl)

theorem allOneLine_srcHttp : AllOneLine (srcHttp p) := by
  refine allOneLine_eachValue hp fun name value hn hv => allOneLine_if
    (Finding.oneLine_of_value hn hv ?_)
  split
  · exact oneLine_of_all rfl
  · exact oneLine_of_all rfl

theorem allOneLine_scriptValueBypass (b : BypassLists) {value : String}
    (hv : value ∈ p.scriptValues) :
    ∀ fs, scriptValueBypass b p value = .ok fs → AllOneLine fs := by
  have found {severity : Severity} {description : String} (h : Text.OneLine description) :
      AllOneLine [⟨.scriptAllowlistBypass, severity, p.scriptName, some value, description⟩] :=
    allOneLine_singleton (Finding.oneLine_of_value p.oneLine_scriptName (hp.value hv) h)
  intro fs hfs
  simp only [scriptValueBypass] at hfs
  split at hfs
  · rw [← Except.ok.inj hfs]
    exact found (oneLine_of_all rfl)
  split at hfs
  · rw [← Except.ok.inj hfs]
    exact allOneLine_nil
  split at hfs
  · cases hfs
  case h_2 angular ha =>
    split at hfs
    · cases hfs
    case h_2 jsonp hj =>
      split at hfs
      case h_1 description hd =>
        rw [← Except.ok.inj hfs]
        refine found (oneLine_bypassDescription (fun u hu => ?_) (fun u hu => ?_) hd)
        · have hjsonp : jsonp = some u := (Option.filter_eq_some_iff.1 hu).1
          exact Source.oneLine_hostLabel (hjsonp ▸ hj)
        · exact Source.oneLine_hostLabel (hu ▸ ha)
      case h_2 =>
        rw [← Except.ok.inj hfs]
        exact found (oneLine_of_all rfl)

theorem allOneLine_scriptAllowlistBypass (b : BypassLists) :
    ∀ fs, scriptAllowlistBypass b p = .ok fs → AllOneLine fs := by
  intro fs hfs
  unfold scriptAllowlistBypass at hfs
  split at hfs
  · rw [← Except.ok.inj hfs]
    exact allOneLine_nil
  · exact allOneLine_gather (fun value hv => allOneLine_scriptValueBypass hp b hv) fs hfs

theorem allOneLine_objectAllowlistBypass (b : BypassLists) :
    ∀ fs, objectAllowlistBypass b p = .ok fs → AllOneLine fs := by
  intro fs hfs
  simp only [objectAllowlistBypass] at hfs
  split at hfs
  · rw [← Except.ok.inj hfs]
    exact allOneLine_nil
  · have hn : Text.OneLine (p.effectiveName Directive.objectSrc) :=
      p.oneLine_effectiveName (oneLine_of_all rfl)
    exact allOneLine_gather (fun value hv => allOneLine_objectValueBypass b hn (hp.value hv)) fs hfs

end Checks

/-- A check that breaks off tells its name, and that is a constant. -/
theorem allOneLine_ofResult {name : List Char} (hn : name.all (· != '\n') = true)
    {g : Collection → Except Fault (List Finding)} {c : Collection}
    (h : ∀ fs, g c = .ok fs → AllOneLine fs) :
    AllOneLine ((ofResult (.ofList name) g).guarded c).findings := by
  have hname : Text.OneLine (.ofList name) := oneLine_of_all hn
  cases hg : g c with
  | error e =>
    rw [findings_ofResult_of_error hg]
    exact allOneLine_singleton (Finding.oneLine_of_value (oneLine_of_all rfl) hname
      (hname.between rfl rfl))
  | ok fs =>
    rw [findings_ofResult_of_ok hg]
    exact h fs hg

section Batches

variable {c : Collection}

theorem allOneLine_perPolicy {name : String} {g : Policy → List Finding}
    (h : ∀ p ∈ c, AllOneLine (g p)) : AllOneLine ((perPolicy name g).guarded c).findings :=
  List.forall_mem_flatMap.2 h

variable (hc : ∀ p ∈ c, p.OneLine)
include hc

/-- What these checks tell is made of words of the policies and of constants. -/
theorem allOneLine_parsedChecks : ∀ k ∈ parsedChecks, AllOneLine (k.guarded c).findings := by
  have each {name : String} {g : Policy → List Finding}
      (h : ∀ {p : Policy}, p.OneLine → AllOneLine (g p)) :
      AllOneLine ((perPolicy name g).guarded c).findings :=
    allOneLine_perPolicy fun p hp => h (hc p hp)
  simp only [parsedChecks, grammarChecks, strictChecks, List.cons_append, List.nil_append,
    List.forall_mem_cons]
  exact ⟨each allOneLine_unknownDirective, each allOneLine_missingSemicolon,
    each allOneLine_invalidKeyword, each fun _ => allOneLine_strictDynamic _,
    each fun _ => allOneLine_strictDynamicNotStandalone _,
    each fun _ => allOneLine_unsafeInlineFallback _, each fun _ => allOneLine_allowlistFallback _,
    allOneLine_requiresTrustedTypesForScripts c, List.forall_mem_nil _⟩

/-- Here hosts and addresses come in that were read out of URLs. -/
theorem allOneLine_effectiveChecks (b : BypassLists) :
    ∀ k ∈ effectiveChecks b, AllOneLine (k.guarded c).findings := by
  have each {name : String} {g : Policy → List Finding}
      (h : ∀ {p : Policy}, p.OneLine → AllOneLine (g p)) :
      AllOneLine ((perPolicy name g).guarded c).findings :=
    allOneLine_perPolicy fun p hp => h (hc p hp)
  have search {name : List Char} (hn : name.all (· != '\n') = true)
      {g : Policy → Except Fault (List Finding)}
      (h : ∀ {p : Policy}, p.OneLine → ∀ fs, g p = .ok fs → AllOneLine fs) :
      AllOneLine ((ofResult (.ofList name) (gather g)).guarded c).findings :=
    allOneLine_ofResult hn (allOneLine_gather fun p hp => h (hc p hp))
  simp only [effectiveChecks, List.forall_mem_cons]
  exact ⟨each fun _ => allOneLine_scriptUnsafeInline _, each fun _ => allOneLine_scriptUnsafeEval _,
    each allOneLine_plainUrlSchemes, each allOneLine_plainWildcard,
    each fun _ => allOneLine_missingDirectives _,
    search rfl fun hp => allOneLine_scriptAllowlistBypass hp b,
    search rfl fun hp => allOneLine_objectAllowlistBypass hp b,
    each allOneLine_ipSource, each fun _ => allOneLine_deprecatedDirective _,
    each allOneLine_nonceLength, each allOneLine_srcHttp, List.forall_mem_nil _⟩

end Batches

end Check

namespace Collection

/-- Whatever is configured, what is found in settled policies is told on single lines. -/
theorem oneLine_of_mem_evaluate {c : Collection} (hc : ∀ p ∈ c, p.Settled) (v : Version)
    (b : BypassLists) : ∀ f ∈ (c.evaluate v b).findings, f.OneLine := by
  have hwritten : ∀ p ∈ c, p.OneLine := fun p hp => (hc p hp).oneLine
  have henforced : ∀ p ∈ c.effective v, p.OneLine := by
    intro q hq
    obtain ⟨p, hp, rfl⟩ := List.mem_map.1 hq
    exact ((hc p hp).effective v).oneLine
  rw [findings_evaluate]
  refine Check.allOneLine_append (Check.allOneLine_append ?_ ?_) ?_
  · exact List.forall_mem_flatMap.2 fun p hp => Check.allOneLine_ignoredFindings (hwritten p hp) v
  · exact List.forall_mem_flatMap.2 (Check.allOneLine_parsedChecks hwritten)
  · exact List.forall_mem_flatMap.2 (Check.allOneLine_effectiveChecks henforced b)

end Collection

end ContentPolicy
