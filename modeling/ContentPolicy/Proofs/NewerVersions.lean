import ContentPolicy.Proofs.Bypasses
import ContentPolicy.Proofs.Kinds
import ContentPolicy.Proofs.Resolution
import ContentPolicy.Proofs.SourceClass
import Mathlib.Data.List.Flatten

/-!
A newer browser is never weaker against scripts.
-/

namespace ContentPolicy

namespace Policy

def isLoud (value : String) : Bool := !Source.isQuoted value || value == Keyword.self

def mutesPlaces (v : Version) (p : Policy) : Bool := v = .csp3 && p.hasStrictDynamic

theorem filter_erase_of_false {q : String → Bool} {value : String} (h : q value = false)
    (vs : List String) : (vs.erase value).filter q = vs.filter q := by
  rw [← List.erase_filter, List.erase_of_not_mem]
  simp [h]

theorem isQuoted_of_looksLikeNonceOrHash {value : String}
    (h : looksLikeNonceOrHash value = true) : Source.isQuoted value = true := by
  simp only [looksLikeNonceOrHash, Bool.or_eq_true, List.isPrefixOf_iff_prefix] at h
  obtain ⟨r, hr⟩ | ⟨r, hr⟩ := h <;> simp [Source.isQuoted, ← hr]

theorem not_looksLikeNonceOrHash_of_isLoud {value : String} (h : isLoud value = true) :
    looksLikeNonceOrHash value = false := by
  by_contra hl
  have hl : looksLikeNonceOrHash value = true := by simpa using hl
  have hself : value ≠ Keyword.self := by
    rintro rfl
    revert hl
    decide
  simp [isLoud, isQuoted_of_looksLikeNonceOrHash hl, hself] at h

theorem not_survives_of_isLoud {value : String} (h : isLoud value = true) :
    survivesStrictDynamic value = false := by
  simp only [isLoud, Bool.or_eq_true, Bool.not_eq_true', beq_iff_eq] at h
  obtain h | h := h <;> simp [survivesStrictDynamic, h]

/-- Whichever of the edits are made, the loud values all stay or all go. -/
theorem filter_isLoud_scriptValuesUnder (v : Version) (vs : List String) :
    (scriptValuesUnder v vs).filter isLoud =
      if v = .csp3 ∧ Keyword.strictDynamic ∈ vs then [] else vs.filter isLoud := by
  have hdynamic : isLoud Keyword.strictDynamic = false := by decide
  have hinline : isLoud Keyword.unsafeInline = false := by decide
  cases v with
  | csp1 =>
    simp only [scriptValuesUnder, filter_erase_of_false hdynamic, reduceCtorEq, false_and, if_false]
    split
    · rw [List.filter_filter]
      refine List.filter_congr fun x _ => ?_
      cases hx : isLoud x with
      | true => simp [not_looksLikeNonceOrHash_of_isLoud hx]
      | false => rfl
    · rfl
  | csp2 =>
    simp only [scriptValuesUnder, filter_erase_of_false hdynamic, reduceCtorEq, false_and, if_false]
    split
    · exact filter_erase_of_false hinline vs
    · rfl
  | csp3 =>
    simp only [scriptValuesUnder, true_and]
    split
    · rw [List.filter_filter, List.filter_eq_nil_iff]
      intro x _
      cases hx : isLoud x with
      | true => simp [not_survives_of_isLoud hx]
      | false => simp
    · split
      · exact filter_erase_of_false hinline vs
      · rfl

theorem version_cases_of_le {v w : Version} (h : Numbered.number v ≤ Numbered.number w) :
    v = w ∨ v = .csp1 ∨ (v = .csp2 ∧ w = .csp3) := by
  revert h
  cases v <;> cases w <;> decide

theorem unsafeInline_mem_of_newer {v w : Version} {vs : List String}
    (h : Numbered.number v ≤ Numbered.number w)
    (hw : Keyword.unsafeInline ∈ scriptValuesUnder w vs) :
    Keyword.unsafeInline ∈ scriptValuesUnder v vs := by
  have hd : Keyword.unsafeInline ≠ Keyword.strictDynamic := by decide
  have hm : Keyword.unsafeInline ∈ vs := (scriptValuesUnder_sublist w vs).subset hw
  obtain rfl | rfl | ⟨rfl, rfl⟩ := version_cases_of_le h
  · exact hw
  · simp only [scriptValuesUnder]
    rw [List.mem_erase_of_ne hd]
    split
    · exact List.mem_filter.2 ⟨hm, by decide⟩
    · exact hm
  · simp only [scriptValuesUnder] at hw ⊢
    rw [List.mem_erase_of_ne hd]
    split at hw
    · simp [survivesStrictDynamic] at hw
    · exact hw

/-- If a version mutes the places, so does every newer one. -/
theorem mutesPlaces_of_newer {v w : Version} {p : Policy}
    (h : Numbered.number v ≤ Numbered.number w) (hv : p.mutesPlaces v = true) :
    p.mutesPlaces w = true := by
  obtain rfl | rfl | ⟨rfl, rfl⟩ := version_cases_of_le h
  · exact hv
  · simp [mutesPlaces] at hv
  · simp [mutesPlaces] at hv

theorem mutesPlaces_old {v : Version} {p : Policy} (hv : v ≠ .csp3) :
    p.mutesPlaces v = false := by
  simp [mutesPlaces, hv]

end Policy

namespace Check

theorem flatMap_filter_of_quiet {α β : Type} {q : α → Bool} {g : α → List β}
    (hg : ∀ a, q a = false → g a = []) (l : List α) : (l.filter q).flatMap g = l.flatMap g := by
  induction l with
  | nil => rfl
  | cons a r ih =>
    cases ha : q a with
    | true => rw [List.filter_cons_of_pos ha, List.flatMap_cons, List.flatMap_cons, ih]
    | false => rw [List.filter_cons_of_neg (by simp [ha]), List.flatMap_cons, hg a ha, ih]; rfl

theorem flatMap_scriptValuesUnder {g : String → List Finding}
    (hg : ∀ value, Policy.isLoud value = false → g value = []) (v : Version) (p : Policy) :
    (Policy.scriptValuesUnder v p.scriptValues).flatMap g =
      if p.mutesPlaces v then [] else p.scriptValues.flatMap g := by
  have hm : p.mutesPlaces v = true ↔ v = .csp3 ∧ Keyword.strictDynamic ∈ p.scriptValues := by
    rw [Policy.mutesPlaces, Bool.and_eq_true, Policy.hasStrictDynamic_iff, decide_eq_true_iff]
  rw [← flatMap_filter_of_quiet hg, Policy.filter_isLoud_scriptValuesUnder]
  simp only [hm]
  split
  · rfl
  · exact flatMap_filter_of_quiet hg _

/-- A check that hears loud values only hears all of them, or none where places are muted. -/
theorem eachRiskyValue_effective {g : String → String → List Finding}
    (hg : ∀ name value, Policy.isLoud value = false → g name value = [])
    (v : Version) (p : Policy) :
    eachRiskyValue g (p.effective v) =
      (p.effectiveNames Directive.causingXss).flatMap fun name =>
        if name = p.scriptName ∧ p.mutesPlaces v = true then []
        else (p.values name).flatMap (g name) := by
  rw [eachRiskyValue, Policy.effectiveNames_effective v p Policy.causingXss_not_newer]
  refine List.flatMap_congr fun name hn => ?_
  have hnewer : name ∉ Directive.sinceCsp3 := by
    obtain ⟨m, hm, rfl⟩ := List.mem_map.1 (List.mem_eraseDups.1 hn)
    exact Policy.effectiveName_not_newer p (Policy.causingXss_not_newer m hm)
  rw [Policy.values_effective v p hnewer]
  by_cases hs : name = p.scriptName
  · subst hs
    have hv : p.values p.scriptName = p.scriptValues := rfl
    simp only [if_true, true_and, hv]
    exact flatMap_scriptValuesUnder (hg _) v p
  · simp [hs]

theorem eachRiskyValue_newer {g : String → String → List Finding}
    (hg : ∀ name value, Policy.isLoud value = false → g name value = []) {v w : Version}
    (h : Numbered.number v ≤ Numbered.number w) (p : Policy) :
    (eachRiskyValue g (p.effective w)).Sublist (eachRiskyValue g (p.effective v)) := by
  rw [eachRiskyValue_effective hg, eachRiskyValue_effective hg]
  refine List.Sublist.flatMap_right _ fun name _ => ?_
  by_cases hm : name = p.scriptName ∧ p.mutesPlaces v = true
  · simp [hm, Policy.mutesPlaces_of_newer h hm.2]
  · rw [if_neg hm]
    split
    · exact List.nil_sublist _
    · exact .refl _

theorem eachRiskyValue_old {g : String → String → List Finding}
    (hg : ∀ name value, Policy.isLoud value = false → g name value = []) {v : Version}
    (hv : v ≠ .csp3) (p : Policy) :
    eachRiskyValue g (p.effective v) = eachRiskyValue g (p.effective .csp1) := by
  rw [eachRiskyValue_effective hg, eachRiskyValue_effective hg, Policy.mutesPlaces_old hv,
    Policy.mutesPlaces_old (by decide)]

theorem isQuoted_of_not_isLoud {value : String} (h : Policy.isLoud value = false) :
    Source.isQuoted value = true := by
  rw [Policy.isLoud, Bool.or_eq_false_iff, Bool.not_eq_false'] at h
  exact h.1

theorem riskySchemes_quiet {value : String} (h : Policy.isLoud value = false) :
    riskySchemes.contains value = false := by
  have hq := isQuoted_of_not_isLoud h
  by_contra hc
  have hm : value ∈ riskySchemes := by simpa using hc
  simp only [riskySchemes, List.mem_cons, List.not_mem_nil, or_false] at hm
  obtain rfl | rfl | rfl := hm <;> exact absurd hq (by decide)

theorem schemeFree_quiet {value : String} (h : Policy.isLoud value = false) :
    (Source.schemeFree value == "*") = false := by
  have hq := isQuoted_of_not_isLoud h
  rw [Source.schemeFree_of_isQuoted hq, beq_eq_false_iff_ne]
  rintro rfl
  exact absurd hq (by decide)

theorem plainUrlSchemes_newer {v w : Version} (h : Numbered.number v ≤ Numbered.number w)
    (p : Policy) : (plainUrlSchemes (p.effective w)).Sublist (plainUrlSchemes (p.effective v)) :=
  eachRiskyValue_newer (fun _ _ hq => by rw [riskySchemes_quiet hq]; rfl) h p

theorem plainUrlSchemes_old {v : Version} (hv : v ≠ .csp3) (p : Policy) :
    plainUrlSchemes (p.effective v) = plainUrlSchemes (p.effective .csp1) :=
  eachRiskyValue_old (fun _ _ hq => by rw [riskySchemes_quiet hq]; rfl) hv p

theorem plainWildcard_newer {v w : Version} (h : Numbered.number v ≤ Numbered.number w)
    (p : Policy) : (plainWildcard (p.effective w)).Sublist (plainWildcard (p.effective v)) :=
  eachRiskyValue_newer (fun _ _ hq => by rw [schemeFree_quiet hq]; rfl) h p

theorem plainWildcard_old {v : Version} (hv : v ≠ .csp3) (p : Policy) :
    plainWildcard (p.effective v) = plainWildcard (p.effective .csp1) :=
  eachRiskyValue_old (fun _ _ hq => by rw [schemeFree_quiet hq]; rfl) hv p

theorem bypassesOf_quiet {value : String} (b : BypassLists) (p : Policy)
    (h : Policy.isLoud value = false) : bypassesOf b p value = [] := by
  have hs : (value == Keyword.self) = false := by
    rw [Policy.isLoud, Bool.or_eq_false_iff] at h
    exact h.2
  simp [bypassesOf, told, scriptValueBypass, hs, isHostLike, isQuoted_of_not_isLoud h]

theorem usableJsonp_scriptValuesUnder (b : BypassLists) (v : Version) (vs : List String)
    (jsonp : Option Url) :
    usableJsonp b (Policy.scriptValuesUnder v vs) jsonp = usableJsonp b vs jsonp := by
  have hc : (Policy.scriptValuesUnder v vs).contains Keyword.unsafeEval =
      vs.contains Keyword.unsafeEval := by
    rw [Bool.eq_iff_iff, List.contains_iff_mem, List.contains_iff_mem,
      Policy.mem_scriptValuesUnder_unsafeEval]
  rw [usableJsonp, usableJsonp, hc]

theorem scriptValueBypass_effective (b : BypassLists) (v : Version) (p : Policy)
    (value : String) : scriptValueBypass b (p.effective v) value = scriptValueBypass b p value := by
  simp only [scriptValueBypass, Policy.scriptName_effective, Policy.scriptValues_effective,
    usableJsonp_scriptValuesUnder]

def allowlistFindings (b : BypassLists) (v : Version) (p : Policy) : List Finding :=
  if Keyword.none ∈ p.scriptValues ∨ p.mutesPlaces v = true then []
  else p.scriptValues.flatMap (bypassesOf b p)

section Texts

variable {b : BypassLists} (hb : b.AllTexts)
include hb

theorem scriptAllowlistBypass_effective (v : Version) (p : Policy) :
    scriptAllowlistBypass b (p.effective v) = .ok (allowlistFindings b v p) := by
  have hsame : bypassesOf b (p.effective v) = bypassesOf b p :=
    funext fun value => congrArg told (scriptValueBypass_effective b v p value)
  rw [scriptAllowlistBypass_eq_ok hb, Policy.scriptValues_effective, hsame,
    flatMap_scriptValuesUnder (fun _ => bypassesOf_quiet b p)]
  simp only [allowlistFindings, Policy.mem_scriptValuesUnder_none]
  by_cases hn : Keyword.none ∈ p.scriptValues <;> cases p.mutesPlaces v <;> simp [hn]

theorem gather_scriptAllowlistBypass_effective (v : Version) (c : Collection) :
    gather (scriptAllowlistBypass b) (c.effective v) = .ok (c.flatMap (allowlistFindings b v)) := by
  rw [Collection.effective, gather_map]
  exact gather_eq_ok fun p _ => scriptAllowlistBypass_effective hb v p

end Texts

theorem scriptUnsafeInline_newer {v w : Version} (h : Numbered.number v ≤ Numbered.number w)
    (p : Policy) :
    (scriptUnsafeInline (p.effective w)).Sublist (scriptUnsafeInline (p.effective v)) := by
  simp only [scriptUnsafeInline, Policy.scriptName_effective, Policy.scriptValues_effective,
    List.contains_iff_mem]
  by_cases hw : Keyword.unsafeInline ∈ Policy.scriptValuesUnder w p.scriptValues
  · simp [hw, Policy.unsafeInline_mem_of_newer h hw]
  · simp [hw]

theorem scriptUnsafeEval_effective (v : Version) (p : Policy) :
    scriptUnsafeEval (p.effective v) = scriptUnsafeEval p := by
  simp only [scriptUnsafeEval, Policy.scriptName_effective, Policy.scriptValues_effective,
    List.contains_iff_mem, Policy.mem_scriptValuesUnder_unsafeEval]

theorem allowlistFindings_old (b : BypassLists) {v : Version} (hv : v ≠ .csp3) :
    allowlistFindings b v = allowlistFindings b .csp1 := by
  funext p
  rw [allowlistFindings, allowlistFindings, Policy.mutesPlaces_old hv,
    Policy.mutesPlaces_old (by decide)]

theorem allowlistFindings_newer (b : BypassLists) {v w : Version}
    (h : Numbered.number v ≤ Numbered.number w) (p : Policy) :
    (allowlistFindings b w p).Sublist (allowlistFindings b v p) := by
  unfold allowlistFindings
  by_cases hm : Keyword.none ∈ p.scriptValues ∨ p.mutesPlaces v = true
  · have hw := hm.imp_right (Policy.mutesPlaces_of_newer h)
    simp only [hm, hw, if_true, List.Sublist.refl]
  · rw [if_neg hm]
    split
    · exact List.nil_sublist _
    · exact .refl _

end Check

namespace Collection

def isScriptTopic : Topic → Bool
  | .scriptUnsafeInline | .scriptUnsafeEval | .plainUrlSchemes | .plainWildcard
  | .scriptAllowlistBypass => true
  | _ => false

def scriptWeaknesses (fs : List Finding) : List Finding := fs.filter (isScriptTopic ·.topic)

section Texts

variable {b : BypassLists} (hb : b.AllTexts)
include hb

theorem scriptWeaknesses_evaluate (v : Version) (c : Collection) :
    scriptWeaknesses (c.evaluate v b).findings =
      (c.flatMap fun p => Check.scriptUnsafeInline (p.effective v)) ++
      c.flatMap Check.scriptUnsafeEval ++
      (c.flatMap fun p => Check.plainUrlSchemes (p.effective v)) ++
      (c.flatMap fun p => Check.plainWildcard (p.effective v)) ++
      c.flatMap (Check.allowlistFindings b v) := by
  have hgather := Check.gather_scriptAllowlistBypass_effective hb v c
  have hparsed : Check.speakers isScriptTopic Check.parsedChecks Check.parsedKindsEach = [] := rfl
  have heffective : Check.speakers isScriptTopic (Check.effectiveChecks b)
        Check.effectiveKindsEach = [
      .perPolicy "check_script_unsafe_inline" Check.scriptUnsafeInline,
      .perPolicy "check_script_unsafe_eval" Check.scriptUnsafeEval,
      .perPolicy "check_plain_url_schemes" Check.plainUrlSchemes,
      .perPolicy "check_wildcards" Check.plainWildcard,
      .ofResult "check_script_allowlist_bypass"
        (Check.gather (Check.scriptAllowlistBypass b))] := rfl
  have hinline := filter_topic_flatMap_of_true isScriptTopic Check.tells_scriptUnsafeInline
    (by decide) (c.effective v)
  have heval := filter_topic_flatMap_of_true isScriptTopic Check.tells_scriptUnsafeEval
    (by decide) (c.effective v)
  have hscheme := filter_topic_flatMap_of_true isScriptTopic Check.tells_plainUrlSchemes
    (by decide) (c.effective v)
  have hwild := filter_topic_flatMap_of_true isScriptTopic Check.tells_plainWildcard
    (by decide) (c.effective v)
  have hbypass := Check.filter_eq_self_of_tells isScriptTopic
    (Check.tells_gather (fun p _ => Check.tells_scriptAllowlistBypass b p) _ hgather) (by decide)
  rw [scriptWeaknesses, filter_topic_evaluate, hparsed, heffective]
  simp only [List.flatMap_cons, List.flatMap_nil, Check.findings_perPolicy,
    Check.findings_ofResult_of_ok hgather, hinline, heval, hscheme, hwild, hbypass]
  simp only [isScriptTopic, effective, List.flatMap_map, Check.scriptUnsafeEval_effective,
    Bool.false_eq_true, if_false, List.nil_append, List.append_nil, List.append_assoc]

/-- What is told of a newer version is a part of what is told of an older one. -/
theorem scriptWeaknesses_newer {v w : Version} (h : Numbered.number v ≤ Numbered.number w)
    (c : Collection) :
    (scriptWeaknesses (c.evaluate w b).findings).Sublist
      (scriptWeaknesses (c.evaluate v b).findings) := by
  rw [scriptWeaknesses_evaluate hb, scriptWeaknesses_evaluate hb]
  have hinline : (c.flatMap fun p => Check.scriptUnsafeInline (p.effective w)).Sublist
      (c.flatMap fun p => Check.scriptUnsafeInline (p.effective v)) :=
    List.Sublist.flatMap_right c fun p _ => Check.scriptUnsafeInline_newer h p
  have hscheme : (c.flatMap fun p => Check.plainUrlSchemes (p.effective w)).Sublist
      (c.flatMap fun p => Check.plainUrlSchemes (p.effective v)) :=
    List.Sublist.flatMap_right c fun p _ => Check.plainUrlSchemes_newer h p
  have hwild : (c.flatMap fun p => Check.plainWildcard (p.effective w)).Sublist
      (c.flatMap fun p => Check.plainWildcard (p.effective v)) :=
    List.Sublist.flatMap_right c fun p _ => Check.plainWildcard_newer h p
  have hbypass : (c.flatMap (Check.allowlistFindings b w)).Sublist
      (c.flatMap (Check.allowlistFindings b v)) :=
    List.Sublist.flatMap_right c fun p _ => Check.allowlistFindings_newer b h p
  exact (((hinline.append (.refl _)).append hscheme).append hwild).append hbypass

/-- Without the inline findings, nothing that is left depends on which of the old versions it is. -/
theorem scriptWeaknesses_old {v : Version} (hv : v ≠ .csp3) (c : Collection) :
    (scriptWeaknesses (c.evaluate v b).findings).filter (·.topic ≠ .scriptUnsafeInline) =
      (scriptWeaknesses (c.evaluate .csp1 b).findings).filter
        (·.topic ≠ .scriptUnsafeInline) := by
  have hinline (u : Version) := Check.filter_eq_nil_of_tells (· ≠ .scriptUnsafeInline)
    (Check.tells_flatMap fun p (_ : p ∈ c) => Check.tells_scriptUnsafeInline (p.effective u))
    (by decide)
  simp only [scriptWeaknesses_evaluate hb, List.filter_append, hinline, Check.plainUrlSchemes_old hv,
    Check.plainWildcard_old hv, Check.allowlistFindings_old b hv]

end Texts

theorem scriptUnsafeEval_evaluate (b : BypassLists) (v : Version) (c : Collection) :
    (c.evaluate v b).findings.filter (·.topic = .scriptUnsafeEval) =
      c.flatMap Check.scriptUnsafeEval := by
  have hsaid : (c.evaluate v b).findings.filter (·.topic = .scriptUnsafeEval) =
      c.flatMap fun p => Check.scriptUnsafeEval (p.effective v) :=
    filter_topic_evaluate_eq (· = .scriptUnsafeEval) rfl rfl rfl
      Check.tells_scriptUnsafeEval (by decide) v c
  simpa only [Check.scriptUnsafeEval_effective] using hsaid

/-- A newer browser hears no script weakness that an older one does not; the two old ones differ
in the inline findings only, and `eval` is the same for all. -/
theorem scriptWeaknesses_fade {b : BypassLists} (hb : b.AllTexts) (c : Collection) :
    (∀ v w, Numbered.number v ≤ Numbered.number w →
      (scriptWeaknesses (c.evaluate w b).findings).Sublist
        (scriptWeaknesses (c.evaluate v b).findings)) ∧
    (scriptWeaknesses (c.evaluate .csp1 b).findings).filter (·.topic ≠ .scriptUnsafeInline) =
      (scriptWeaknesses (c.evaluate .csp2 b).findings).filter (·.topic ≠ .scriptUnsafeInline) ∧
    ∀ v w, (c.evaluate v b).findings.filter (·.topic = .scriptUnsafeEval) =
      (c.evaluate w b).findings.filter (·.topic = .scriptUnsafeEval) := by
  refine ⟨fun v w h => scriptWeaknesses_newer hb h c, ?_, fun v w => ?_⟩
  · exact (scriptWeaknesses_old hb (by decide) c).symm
  · rw [scriptUnsafeEval_evaluate b v c, scriptUnsafeEval_evaluate b w c]

def layeredExample : Collection := [{
  directives := [
    ("script-src", ["'nonce-c2FsdA=='", "'strict-dynamic'", "'unsafe-inline'", "'unsafe-eval'",
      "https:", "cdn.jsdelivr.net"])]
  nodup_names := by decide }]

def knownPlaces : BypassLists := .ofStrings ["//cdn.jsdelivr.net"] [] [] []

theorem scriptWeaknesses_layeredExample :
    knownPlaces.AllTexts ∧ Numbered.number Version.csp1 ≤ Numbered.number Version.csp3 ∧
    (scriptWeaknesses (layeredExample.evaluate .csp3 knownPlaces).findings).Sublist
      (scriptWeaknesses (layeredExample.evaluate .csp1 knownPlaces).findings) ∧
    (scriptWeaknesses (layeredExample.evaluate .csp1 knownPlaces).findings).length = 4 ∧
    (scriptWeaknesses (layeredExample.evaluate .csp3 knownPlaces).findings).length = 1 := by
  have hb : knownPlaces.AllTexts := ⟨["//cdn.jsdelivr.net"], [], [], [], rfl⟩
  have hv : Numbered.number Version.csp1 ≤ Numbered.number Version.csp3 := by decide
  refine ⟨hb, hv, (scriptWeaknesses_fade hb layeredExample).1 _ _ hv, ?_, ?_⟩
  · decide +kernel
  · decide +kernel

end Collection

end ContentPolicy
