import ContentPolicy.Proofs.PerPolicy
import ContentPolicy.Proofs.Reading

/-!
No finding is made up: each points at something in a policy as it was written, or at something that
is missing there.
-/

namespace ContentPolicy

namespace Policy

/-- The policy bears the finding out: the value is among those of the directive, or the directive
is there, or it is a directive against scripts and is not there. -/
inductive Shows (p : Policy) : Finding → Prop where
  | value {topic : Topic} {severity : Severity} {name value description : String}
      (h : value ∈ p.values name) : Shows p ⟨topic, severity, name, some value, description⟩
  | present {topic : Topic} {severity : Severity} {name description : String}
      (ht : topic ≠ .missingDirectives ∧ topic ≠ .requireTrustedTypesForScripts)
      (h : p.has name = true) : Shows p ⟨topic, severity, name, none, description⟩
  | absent {severity : Severity} {name description : String} (hn : name ∈ Directive.causingXss)
      (h : p.has name = false) :
      Shows p ⟨.missingDirectives, severity, name, none, description⟩

theorem Shows.of_value {p : Policy} {f : Finding} {name value : String} (hn : f.directive = name)
    (hf : f.value = some value) (h : value ∈ p.values name) : p.Shows f := by
  obtain ⟨topic, severity, directive, v, description⟩ := f
  cases hn
  cases hf
  exact .value h

/-- No version adds a value. -/
theorem mem_values_of_mem_values_effective {v : Version} {p : Policy} {name value : String}
    (h : value ∈ (p.effective v).values name) : value ∈ p.values name := by
  obtain ⟨vs, hm, hs⟩ := exists_of_mem_effective (mem_directives_of_has (has_of_mem_values h))
  rw [values_of_mem hm]
  exact hs.subset h

/-- What is enforced of a policy bears out nothing that the policy itself does not. -/
theorem Shows.of_effective {v : Version} {p : Policy} {f : Finding}
    (h : (p.effective v).Shows f) : p.Shows f := by
  cases h with
  | value h => exact .value (mem_values_of_mem_values_effective h)
  | present ht h => exact .present ht (has_of_has_effective h)
  | absent hn h =>
    refine .absent hn ?_
    rwa [has_effective v p (causingXss_not_newer _ hn)] at h

end Policy

namespace Check

variable {p : Policy}

def ShowsAll (p : Policy) (fs : List Finding) : Prop := ∀ f ∈ fs, p.Shows f

theorem showsAll_nil : ShowsAll p [] := List.forall_mem_nil _

theorem showsAll_singleton {f : Finding} (h : p.Shows f) : ShowsAll p [f] :=
  List.forall_mem_singleton.2 h

theorem showsAll_append {fs gs : List Finding} (hf : ShowsAll p fs) (hg : ShowsAll p gs) :
    ShowsAll p (fs ++ gs) := List.forall_mem_append.2 ⟨hf, hg⟩

theorem showsAll_flatMap {α : Type} {g : α → List Finding} {l : List α}
    (h : ∀ a ∈ l, ShowsAll p (g a)) : ShowsAll p (l.flatMap g) := List.forall_mem_flatMap.2 h

/-- The condition of a finding is what bears it out. -/
theorem showsAll_ite {q : Prop} [Decidable q] {fs gs : List Finding} (hf : q → ShowsAll p fs)
    (hg : ¬ q → ShowsAll p gs) : ShowsAll p (if q then fs else gs) := by
  split
  case isTrue h => exact hf h
  case isFalse h => exact hg h

theorem showsAll_if {q : Prop} [Decidable q] {f : Finding} (h : q → p.Shows f) :
    ShowsAll p (if q then [f] else []) :=
  showsAll_ite (fun hq => showsAll_singleton (h hq)) fun _ => showsAll_nil

theorem showsAll_eachValue {g : String → String → List Finding}
    (h : ∀ name value, value ∈ p.values name → ShowsAll p (g name value)) :
    ShowsAll p (eachValue g p) := by
  refine showsAll_flatMap fun d hd => showsAll_flatMap fun value hv => h d.1 value ?_
  rwa [Policy.values_of_mem hd]

theorem showsAll_eachRiskyValue {g : String → String → List Finding}
    (h : ∀ name value, value ∈ p.values name → ShowsAll p (g name value)) :
    ShowsAll p (eachRiskyValue g p) :=
  showsAll_flatMap fun name _ => showsAll_flatMap fun value hv => h name value hv

theorem showsAll_told_gather {α : Type} {g : α → Except Fault (List Finding)} {l : List α}
    (h : ∀ a ∈ l, ∀ fs, g a = .ok fs → ShowsAll p fs) : ShowsAll p (told (gather g l)) := by
  intro f hf
  cases hl : gather g l with
  | error e => simp [told, hl] at hf
  | ok fs =>
    rw [hl] at hf
    obtain ⟨a, ha, gs, hgs, hf⟩ := exists_of_mem_gather hl f hf
    exact h a ha gs hgs f hf

theorem showsAll_unknownDirective (p : Policy) : ShowsAll p (unknownDirective p) := by
  refine showsAll_flatMap fun name hn => ?_
  have hp : p.has name = true := Policy.has_iff.2 hn
  exact showsAll_ite (fun _ => showsAll_nil) fun _ =>
    showsAll_ite (fun _ => showsAll_singleton (.present (by decide) hp))
      fun _ => showsAll_singleton (.present (by decide) hp)

theorem showsAll_missingSemicolon (p : Policy) : ShowsAll p (missingSemicolon p) :=
  showsAll_eachValue fun _ _ hv => showsAll_if fun _ => .value hv

theorem showsAll_invalidKeyword (p : Policy) : ShowsAll p (invalidKeyword p) :=
  showsAll_eachValue fun _ _ hv => showsAll_ite (fun _ => showsAll_singleton (.value hv))
    fun _ => showsAll_if fun _ => .value hv

theorem has_scriptName_of_any {q : String → Bool} (h : p.scriptValues.any q = true) :
    p.has p.scriptName = true := by
  obtain ⟨value, hv, -⟩ := List.any_eq_true.1 h
  exact Policy.has_of_mem_values hv

theorem has_scriptName_of_hasStrictDynamic (h : p.hasStrictDynamic = true) :
    p.has p.scriptName = true := Policy.has_of_mem_values ((Policy.hasStrictDynamic_iff p).1 h)

theorem showsAll_strictDynamic (p : Policy) : ShowsAll p (strictDynamic p) := by
  refine showsAll_if fun h => .present (by decide) ?_
  rw [Bool.and_eq_true] at h
  exact has_scriptName_of_any h.1

theorem showsAll_strictDynamicNotStandalone (p : Policy) :
    ShowsAll p (strictDynamicNotStandalone p) := by
  refine showsAll_if fun h => .present (by decide) ?_
  rw [Bool.and_eq_true, Bool.and_eq_true] at h
  exact has_scriptName_of_hasStrictDynamic h.1.1

theorem showsAll_unsafeInlineFallback (p : Policy) : ShowsAll p (unsafeInlineFallback p) := by
  refine showsAll_if fun h => .present (by decide) ?_
  rw [Bool.and_eq_true, Bool.or_eq_true] at h
  exact h.1.elim has_scriptName_of_any has_scriptName_of_any

theorem showsAll_allowlistFallback (p : Policy) : ShowsAll p (allowlistFallback p) := by
  refine showsAll_if fun h => .present (by decide) ?_
  rw [Bool.and_eq_true] at h
  exact has_scriptName_of_hasStrictDynamic h.1

theorem showsAll_scriptUnsafeInline (p : Policy) : ShowsAll p (scriptUnsafeInline p) :=
  showsAll_if fun h => .value (List.contains_iff_mem.1 h)

theorem showsAll_scriptUnsafeEval (p : Policy) : ShowsAll p (scriptUnsafeEval p) :=
  showsAll_if fun h => .value (List.contains_iff_mem.1 h)

theorem showsAll_plainUrlSchemes (p : Policy) : ShowsAll p (plainUrlSchemes p) :=
  showsAll_eachRiskyValue fun _ _ hv => showsAll_if fun _ => .value hv

theorem showsAll_plainWildcard (p : Policy) : ShowsAll p (plainWildcard p) :=
  showsAll_eachRiskyValue fun _ _ hv => showsAll_if fun _ => .value hv

theorem showsAll_missingDirective {name : String} (hn : name ∈ Directive.causingXss) :
    ShowsAll p (missingDirective p name) := by
  refine showsAll_ite (fun _ => showsAll_nil) fun hp => ?_
  have hp : p.has name = false := by simpa using hp
  have hm (description : String) :
      ShowsAll p [⟨.missingDirectives, .high, name, none, description⟩] :=
    showsAll_singleton (.absent hn hp)
  exact showsAll_ite (fun _ => hm _) fun _ => showsAll_ite
    (fun _ => showsAll_ite (fun _ => hm _) fun _ => showsAll_nil) fun _ => hm _

theorem showsAll_missingDirectives (p : Policy) : ShowsAll p (missingDirectives p) := by
  refine showsAll_ite (fun _ => showsAll_append (showsAll_if fun h => ?_) ?_) fun _ => ?_
  · rw [Bool.and_eq_true, Bool.not_eq_true'] at h
    exact .absent (by decide) h.1
  · exact showsAll_missingDirective (by decide)
  · exact showsAll_flatMap fun name hn => showsAll_missingDirective hn

theorem showsAll_ipSource (p : Policy) : ShowsAll p (ipSource p) := by
  refine showsAll_eachValue fun _ value hv => ?_
  rw [addressFindings]
  cases Source.address? value with
  | none => exact showsAll_nil
  | some ip => exact showsAll_singleton (.value hv)

theorem showsAll_deprecatedDirective (p : Policy) : ShowsAll p (deprecatedDirective p) := by
  have hd {name description : String} (h : p.has name = true) :
      p.Shows ⟨.deprecatedDirective, .info, name, none, description⟩ := .present (by decide) h
  refine showsAll_append (showsAll_append (showsAll_append (showsAll_if hd) (showsAll_if hd))
    (showsAll_if hd)) (showsAll_if fun h => hd ?_)
  rw [Bool.and_eq_true] at h
  exact h.1

theorem showsAll_nonceLength (p : Policy) : ShowsAll p (nonceLength p) := by
  refine showsAll_eachValue fun _ value hv => ?_
  cases Source.nonce? value with
  | none => exact showsAll_nil
  | some payload =>
    exact showsAll_append (showsAll_if fun _ => .value hv)
      (showsAll_ite (fun _ => showsAll_nil) fun _ => showsAll_singleton (.value hv))

theorem showsAll_srcHttp (p : Policy) : ShowsAll p (srcHttp p) :=
  showsAll_eachValue fun _ _ hv => showsAll_if fun _ => .value hv

theorem showsAll_scriptAllowlistBypass (b : BypassLists) (p : Policy) :
    ShowsAll p (told (scriptAllowlistBypass b p)) := by
  unfold scriptAllowlistBypass
  split
  · exact showsAll_nil
  · refine showsAll_told_gather fun value hv fs hfs f hf => ?_
    obtain ⟨-, hname, hvalue⟩ := about_of_scriptValueBypass hfs f hf
    exact .of_value hname hvalue hv

theorem showsAll_objectValueBypass {b : BypassLists} {name value : String}
    (hv : value ∈ p.values name) {fs : List Finding} (h : objectValueBypass b name value = .ok fs) :
    ShowsAll p fs := by
  unfold objectValueBypass at h
  split at h
  · cases h
  · cases h
    exact showsAll_singleton (.value hv)
  split at h
  · cases h
    exact showsAll_singleton (.value hv)
  · cases h
    exact showsAll_nil

theorem showsAll_objectAllowlistBypass (b : BypassLists) (p : Policy) :
    ShowsAll p (told (objectAllowlistBypass b p)) := by
  simp only [objectAllowlistBypass]
  split
  · exact showsAll_nil
  · exact showsAll_told_gather fun value hv fs hfs => showsAll_objectValueBypass hv hfs

theorem shows_of_mem_perPolicy {name : String} {g : Policy → List Finding}
    (h : ∀ p, ShowsAll p (g p)) (c : Collection) :
    ∀ f ∈ ((perPolicy name g).guarded c).findings, ∃ p ∈ c, p.Shows f := by
  intro f hf
  obtain ⟨p, hp, hf⟩ := List.mem_flatMap.1 hf
  exact ⟨p, hp, h p f hf⟩

theorem shows_of_mem_parsedChecks (c : Collection) :
    ∀ k ∈ parsedChecks, ∀ f ∈ (k.guarded c).findings,
      (∃ p ∈ c, p.Shows f) ∨ f ∈ requiresTrustedTypesForScripts c := by
  have each {name : String} {g : Policy → List Finding} (h : ∀ p, ShowsAll p (g p)) :
      ∀ f ∈ ((perPolicy name g).guarded c).findings,
        (∃ p ∈ c, p.Shows f) ∨ f ∈ requiresTrustedTypesForScripts c :=
    fun f hf => .inl (shows_of_mem_perPolicy h c f hf)
  simp only [parsedChecks, grammarChecks, strictChecks, List.cons_append, List.nil_append,
    List.forall_mem_cons]
  refine ⟨each showsAll_unknownDirective, each showsAll_missingSemicolon,
    each showsAll_invalidKeyword, each showsAll_strictDynamic,
    each showsAll_strictDynamicNotStandalone, each showsAll_unsafeInlineFallback,
    each showsAll_allowlistFallback, fun f hf => .inr hf, ?_⟩
  exact fun k hk => absurd hk List.not_mem_nil

/-- These checks see only what the resolver has left, and yet the policy bears them out as it was
written. -/
theorem shows_of_mem_effectiveChecks {b : BypassLists} (hb : b.AllTexts) (c : Collection) :
    ∀ k ∈ effectiveChecks b, ∀ f ∈ (k.guarded c).findings, ∃ p ∈ c, p.Shows f := by
  have each {name : String} {g : Policy → List Finding} (h : ∀ p, ShowsAll p (g p)) :
      ∀ f ∈ ((perPolicy name g).guarded c).findings, ∃ p ∈ c, p.Shows f :=
    shows_of_mem_perPolicy h c
  have hscript : ∀ p, ∃ fs, scriptAllowlistBypass b p = .ok fs :=
    fun p => ⟨_, scriptAllowlistBypass_eq_ok hb p⟩
  simp only [effectiveChecks, ofResult_gather_eq_perPolicy _ hscript,
    ofResult_gather_eq_perPolicy _ (objectAllowlistBypass_total hb), List.forall_mem_cons]
  refine ⟨each showsAll_scriptUnsafeInline, each showsAll_scriptUnsafeEval,
    each showsAll_plainUrlSchemes, each showsAll_plainWildcard, each showsAll_missingDirectives,
    each (showsAll_scriptAllowlistBypass b), each (showsAll_objectAllowlistBypass b),
    each showsAll_ipSource, each showsAll_deprecatedDirective, each showsAll_nonceLength,
    each showsAll_srcHttp, ?_⟩
  exact fun k hk => absurd hk List.not_mem_nil

end Check

namespace Finding

/-- What the finding says of the policies is so: its value is where it says, what is missing is
missing somewhere, Trusted Types are asked for nowhere, and any other directive is somewhere. -/
structure Grounded (c : Collection) (f : Finding) : Prop where
  value_present : ∀ value, f.value = some value →
    ∃ p ∈ c, p.has f.directive = true ∧ value ∈ p.values f.directive
  directive_missing : f.value = none → f.topic = .missingDirectives →
    ∃ p ∈ c, p.has f.directive = false
  scripts_untyped : f.value = none → f.topic = .requireTrustedTypesForScripts →
    ∀ p ∈ c, TrustedTypes.script ∉ p.values Directive.requireTrustedTypesFor
  directive_present : f.value = none → f.topic ≠ .missingDirectives →
    f.topic ≠ .requireTrustedTypesForScripts → ∃ p ∈ c, p.has f.directive = true

theorem Grounded.of_shows {c : Collection} {p : Policy} (hp : p ∈ c) {f : Finding}
    (h : p.Shows f) : f.Grounded c := by
  cases h with
  | value h =>
    refine ⟨fun value hv => ?_, nofun, nofun, nofun⟩
    cases hv
    exact ⟨p, hp, Policy.has_of_mem_values h, h⟩
  | present ht h =>
    exact ⟨nofun, fun _ hm => absurd hm ht.1, fun _ hr => absurd hr ht.2,
      fun _ _ _ => ⟨p, hp, h⟩⟩
  | absent hn h =>
    exact ⟨nofun, fun _ _ => ⟨p, hp, h⟩, nofun, fun _ hm => absurd rfl hm⟩

theorem Grounded.of_mem_requiresTrustedTypesForScripts {c : Collection} {f : Finding}
    (h : f ∈ Check.requiresTrustedTypesForScripts c) : f.Grounded c := by
  unfold Check.requiresTrustedTypesForScripts at h
  split at h
  case isTrue => exact absurd h List.not_mem_nil
  case isFalse hn =>
    rw [List.mem_singleton] at h
    subst h
    refine ⟨nofun, nofun, fun _ _ p hp hs => hn ?_, fun _ _ hr => absurd rfl hr⟩
    exact List.any_eq_true.2 ⟨p, hp, List.contains_iff_mem.2 hs⟩

end Finding

namespace Policy

/-- Only values that are there are ignored. -/
theorem shows_of_mem_ignoredFindings {v : Version} {p : Policy} :
    ∀ f ∈ p.ignoredFindings v, p.Shows f := by
  intro f hf
  rw [ignoredFindings_eq, ignoredUnder, List.mem_append, List.mem_ite_nil_right,
    List.mem_ite_nil_right] at hf
  obtain ⟨⟨-, -, hm⟩, hf⟩ | ⟨-, hf⟩ := hf
  · rw [List.mem_singleton.1 hf]
    exact .value hm
  · obtain ⟨value, hv, rfl⟩ := List.mem_map.1 hf
    exact .value (List.mem_filter.1 hv).1

end Policy

namespace Collection

/-- With texts for entries of the lists, all that is told of a collection, for whatever version, is
so in the collection as it was given. -/
theorem grounded_of_mem_evaluate {b : BypassLists} (hb : b.AllTexts) (v : Version)
    (c : Collection) : ∀ f ∈ (c.evaluate v b).findings, f.Grounded c := by
  intro f hf
  rw [findings_evaluate, List.mem_append, List.mem_append] at hf
  obtain (hf | hf) | hf := hf
  · obtain ⟨p, hp, hf⟩ := List.mem_flatMap.1 hf
    exact .of_shows hp (Policy.shows_of_mem_ignoredFindings f hf)
  · obtain ⟨k, hk, hf⟩ := List.mem_flatMap.1 hf
    obtain ⟨p, hp, hs⟩ | ht := Check.shows_of_mem_parsedChecks c k hk f hf
    · exact .of_shows hp hs
    · exact .of_mem_requiresTrustedTypesForScripts ht
  · obtain ⟨k, hk, hf⟩ := List.mem_flatMap.1 hf
    obtain ⟨q, hq, hs⟩ := Check.shows_of_mem_effectiveChecks hb _ k hk f hf
    obtain ⟨p, hp, rfl⟩ := List.mem_map.1 hq
    exact .of_shows hp hs.of_effective

def fallbackExample : Collection := [{
  directives := [("img-src", []), ("default-src", ["'nonce-a'", "cdn.example.com"])]
  nodup_names := by decide }]

theorem grounded_fallbackExample :
    placesExample.AllTexts ∧
    ∃ f ∈ (fallbackExample.evaluate .csp2 placesExample).findings,
      f.severity = .high ∧ f.directive = "default-src" ∧ f.value = some "cdn.example.com" ∧
        f.Grounded fallbackExample := by
  have hb : placesExample.AllTexts := ⟨["//cdn.example.com/x"], [], [], [], rfl⟩
  have hfound : ∃ f ∈ (fallbackExample.evaluate .csp2 placesExample).findings,
      f.severity = .high ∧ f.directive = "default-src" ∧ f.value = some "cdn.example.com" := by
    decide +kernel
  obtain ⟨f, hf, hseverity, hdirective, hvalue⟩ := hfound
  exact ⟨hb, f, hf, hseverity, hdirective, hvalue, grounded_of_mem_evaluate hb .csp2 _ f hf⟩

end Collection

end ContentPolicy
