import ContentPolicy.Proofs.Running
import Mathlib.Data.List.Forall2

/-!
Which topics the findings of each check have, and how bad they can be.
-/

namespace ContentPolicy

def Finding.kind (f : Finding) : Topic × Severity := (f.topic, f.severity)

namespace Check

def Tells (kinds : List (Topic × Severity)) (fs : List Finding) : Prop :=
  ∀ f ∈ fs, f.kind ∈ kinds

section Combinators

variable {kinds : List (Topic × Severity)}

theorem tells_nil : Tells kinds [] := fun _ hf => absurd hf List.not_mem_nil

theorem tells_mono {kinds' : List (Topic × Severity)} {fs : List Finding} (h : Tells kinds fs)
    (hk : ∀ k ∈ kinds, k ∈ kinds') : Tells kinds' fs := fun f hf => hk _ (h f hf)

theorem tells_singleton {f : Finding} (h : f.kind ∈ kinds) : Tells kinds [f] := by
  intro g hg
  rwa [List.mem_singleton.1 hg]

theorem tells_append {fs gs : List Finding} (hf : Tells kinds fs) (hg : Tells kinds gs) :
    Tells kinds (fs ++ gs) := by
  intro f h
  cases List.mem_append.1 h with
  | inl h => exact hf f h
  | inr h => exact hg f h

theorem tells_flatMap {α : Type} {g : α → List Finding} {l : List α}
    (h : ∀ a ∈ l, Tells kinds (g a)) : Tells kinds (l.flatMap g) := by
  intro f hf
  obtain ⟨a, ha, hf⟩ := List.mem_flatMap.1 hf
  exact h a ha f hf

theorem tells_ite {q : Prop} [Decidable q] {fs gs : List Finding} (hf : Tells kinds fs)
    (hg : Tells kinds gs) : Tells kinds (if q then fs else gs) := by
  split
  · exact hf
  · exact hg

theorem tells_eachValue {g : String → String → List Finding} (p : Policy)
    (h : ∀ name value, Tells kinds (g name value)) : Tells kinds (eachValue g p) :=
  tells_flatMap fun d _ => tells_flatMap fun value _ => h d.1 value

theorem tells_eachRiskyValue {g : String → String → List Finding} (p : Policy)
    (h : ∀ name value, Tells kinds (g name value)) : Tells kinds (eachRiskyValue g p) :=
  tells_flatMap fun name _ => tells_flatMap fun value _ => h name value

theorem tells_gather {α : Type} {g : α → Except Fault (List Finding)} {l : List α}
    (h : ∀ a ∈ l, ∀ fs, g a = .ok fs → Tells kinds fs) :
    ∀ fs, gather g l = .ok fs → Tells kinds fs := by
  intro fs hfs f hf
  obtain ⟨a, ha, gs, hgs, hf⟩ := exists_of_mem_gather hfs f hf
  exact h a ha gs hgs f hf

variable {fs : List Finding} (q : Topic → Bool)

theorem filter_eq_self_of_tells (h : Tells kinds fs) (hk : ∀ k ∈ kinds, q k.1 = true) :
    fs.filter (q ·.topic) = fs :=
  List.filter_eq_self.2 fun f hf => hk _ (h f hf)

theorem filter_eq_nil_of_tells (h : Tells kinds fs) (hk : ∀ k ∈ kinds, q k.1 = false) :
    fs.filter (q ·.topic) = [] :=
  List.filter_eq_nil_iff.2 fun f hf => by simpa [Finding.kind] using hk _ (h f hf)

end Combinators

theorem tells_ignoredFindings (v : Version) (c : Collection) :
    Tells [(.ignored, .none)] (c.ignoredFindings v) := by
  refine tells_flatMap fun p _ f hf => ?_
  obtain ⟨a, -, rfl⟩ := List.mem_map.1 hf
  exact List.mem_cons_self

theorem tells_unknownDirective (p : Policy) :
    Tells [(.unknownDirective, .syntactic)] (unknownDirective p) :=
  tells_flatMap fun _ _ => tells_ite tells_nil
    (tells_ite (tells_singleton List.mem_cons_self) (tells_singleton List.mem_cons_self))

theorem tells_missingSemicolon (p : Policy) :
    Tells [(.missingSemicolon, .syntactic)] (missingSemicolon p) :=
  tells_eachValue p fun _ _ => tells_ite (tells_singleton List.mem_cons_self) tells_nil

theorem tells_invalidKeyword (p : Policy) :
    Tells [(.invalidKeyword, .syntactic)] (invalidKeyword p) :=
  tells_eachValue p fun _ _ => tells_ite (tells_singleton List.mem_cons_self)
    (tells_ite (tells_singleton List.mem_cons_self) tells_nil)

theorem tells_strictDynamic (p : Policy) :
    Tells [(.strictDynamic, .strictCsp)] (strictDynamic p) :=
  tells_ite (tells_singleton List.mem_cons_self) tells_nil

theorem tells_strictDynamicNotStandalone (p : Policy) :
    Tells [(.strictDynamicNotStandalone, .info)] (strictDynamicNotStandalone p) :=
  tells_ite (tells_singleton List.mem_cons_self) tells_nil

theorem tells_unsafeInlineFallback (p : Policy) :
    Tells [(.unsafeInlineFallback, .strictCsp)] (unsafeInlineFallback p) :=
  tells_ite (tells_singleton List.mem_cons_self) tells_nil

theorem tells_allowlistFallback (p : Policy) :
    Tells [(.allowlistFallback, .strictCsp)] (allowlistFallback p) :=
  tells_ite (tells_singleton List.mem_cons_self) tells_nil

theorem tells_requiresTrustedTypesForScripts (c : Collection) :
    Tells [(.requireTrustedTypesForScripts, .info)] (requiresTrustedTypesForScripts c) :=
  tells_ite tells_nil (tells_singleton List.mem_cons_self)

theorem tells_scriptUnsafeInline (p : Policy) :
    Tells [(.scriptUnsafeInline, .high)] (scriptUnsafeInline p) :=
  tells_ite (tells_singleton List.mem_cons_self) tells_nil

theorem tells_scriptUnsafeEval (p : Policy) :
    Tells [(.scriptUnsafeEval, .mediumMaybe)] (scriptUnsafeEval p) :=
  tells_ite (tells_singleton List.mem_cons_self) tells_nil

theorem tells_plainUrlSchemes (p : Policy) :
    Tells [(.plainUrlSchemes, .high)] (plainUrlSchemes p) :=
  tells_eachRiskyValue p fun _ _ => tells_ite (tells_singleton List.mem_cons_self) tells_nil

theorem tells_plainWildcard (p : Policy) :
    Tells [(.plainWildcard, .high)] (plainWildcard p) :=
  tells_eachRiskyValue p fun _ _ => tells_ite (tells_singleton List.mem_cons_self) tells_nil

theorem tells_missingDirective (p : Policy) (name : String) :
    Tells [(.missingDirectives, .highMaybe), (.missingDirectives, .high)]
      (missingDirective p name) := by
  have hm (description : String) :
      Tells [(.missingDirectives, .highMaybe), (.missingDirectives, .high)]
        [⟨.missingDirectives, .high, name, none, description⟩] :=
    tells_singleton (List.mem_cons_of_mem _ List.mem_cons_self)
  exact tells_ite tells_nil
    (tells_ite (hm _) (tells_ite (tells_ite (hm _) tells_nil) (hm _)))

theorem tells_missingDirectives (p : Policy) :
    Tells [(.missingDirectives, .highMaybe), (.missingDirectives, .high)]
      (missingDirectives p) :=
  tells_ite
    (tells_append (tells_ite (tells_singleton List.mem_cons_self) tells_nil)
      (tells_missingDirective p _))
    (tells_flatMap fun name _ => tells_missingDirective p name)

theorem tells_ipSource (p : Policy) : Tells [(.ipSource, .info)] (ipSource p) := by
  refine tells_eachValue p fun _ value => ?_
  rw [addressFindings]
  cases Source.address? value with
  | none => exact tells_nil
  | some ip => exact tells_singleton List.mem_cons_self

theorem tells_deprecatedDirective (p : Policy) :
    Tells [(.deprecatedDirective, .info)] (deprecatedDirective p) := by
  have hd (name description : String) : Tells [(.deprecatedDirective, .info)]
      [⟨.deprecatedDirective, .info, name, none, description⟩] :=
    tells_singleton List.mem_cons_self
  exact tells_append (tells_append (tells_append (tells_ite (hd _ _) tells_nil)
    (tells_ite (hd _ _) tells_nil)) (tells_ite (hd _ _) tells_nil))
    (tells_ite (hd _ _) tells_nil)

theorem tells_nonceLength (p : Policy) :
    Tells [(.nonceLength, .medium), (.nonceCharset, .info)] (nonceLength p) := by
  refine tells_eachValue p fun _ value => ?_
  cases Source.nonce? value with
  | none => exact tells_nil
  | some payload =>
    exact tells_append (tells_ite (tells_singleton List.mem_cons_self) tells_nil)
      (tells_ite tells_nil (tells_singleton (List.mem_cons_of_mem _ List.mem_cons_self)))

theorem tells_srcHttp (p : Policy) : Tells [(.srcHttp, .medium)] (srcHttp p) :=
  tells_eachValue p fun _ _ => tells_ite (tells_singleton List.mem_cons_self) tells_nil

theorem tells_scriptValueBypass (b : BypassLists) (p : Policy) (value : String) :
    ∀ fs, scriptValueBypass b p value = .ok fs →
      Tells [(.scriptAllowlistBypass, .mediumMaybe), (.scriptAllowlistBypass, .high)] fs := by
  intro fs hfs
  simp only [scriptValueBypass] at hfs
  split at hfs
  · cases hfs
    exact tells_singleton List.mem_cons_self
  split at hfs
  · cases hfs
    exact tells_nil
  split at hfs
  · cases hfs
  split at hfs
  · cases hfs
  split at hfs
  · cases hfs
    exact tells_singleton (List.mem_cons_of_mem _ List.mem_cons_self)
  · cases hfs
    exact tells_singleton List.mem_cons_self

theorem tells_scriptAllowlistBypass (b : BypassLists) (p : Policy) :
    ∀ fs, scriptAllowlistBypass b p = .ok fs →
      Tells [(.scriptAllowlistBypass, .mediumMaybe), (.scriptAllowlistBypass, .high)] fs := by
  intro fs hfs
  unfold scriptAllowlistBypass at hfs
  split at hfs
  · cases hfs
    exact tells_nil
  · exact tells_gather (fun value _ => tells_scriptValueBypass b p value) fs hfs

theorem tells_objectValueBypass (b : BypassLists) (name value : String) :
    ∀ fs, objectValueBypass b name value = .ok fs →
      Tells [(.objectAllowlistBypass, .mediumMaybe), (.objectAllowlistBypass, .high)] fs := by
  intro fs hfs
  unfold objectValueBypass at hfs
  split at hfs
  · cases hfs
  · cases hfs
    exact tells_singleton (List.mem_cons_of_mem _ List.mem_cons_self)
  split at hfs
  · cases hfs
    exact tells_singleton List.mem_cons_self
  · cases hfs
    exact tells_nil

theorem tells_objectAllowlistBypass (b : BypassLists) (p : Policy) :
    ∀ fs, objectAllowlistBypass b p = .ok fs →
      Tells [(.objectAllowlistBypass, .mediumMaybe), (.objectAllowlistBypass, .high)] fs := by
  intro fs hfs
  simp only [objectAllowlistBypass] at hfs
  split at hfs
  · cases hfs
    exact tells_nil
  · exact tells_gather (fun value _ => tells_objectValueBypass b _ value) fs hfs

/-- A check that breaks off tells of itself. -/
theorem tells_ofResult {kinds : List (Topic × Severity)} {name : String}
    {g : Collection → Except Fault (List Finding)} {c : Collection}
    (h : ∀ fs, g c = .ok fs → Tells kinds fs) :
    Tells (kinds ++ [(.internalError, .info)]) ((ofResult name g).guarded c).findings := by
  cases hg : g c with
  | error e =>
    rw [findings_ofResult_of_error hg]
    exact tells_singleton (List.mem_append_right _ List.mem_cons_self)
  | ok fs =>
    rw [findings_ofResult_of_ok hg]
    exact tells_mono (h fs hg) fun k hk => List.mem_append_left _ hk

def TellEach (c : Collection) : List Check → List (List (Topic × Severity)) → Prop :=
  List.Forall₂ fun k kinds => Tells kinds (k.guarded c).findings

theorem tells_of_tellEach {c : Collection} {ks : List Check}
    {kss : List (List (Topic × Severity))} (h : TellEach c ks kss) {kinds : List (Topic × Severity)}
    (hk : ∀ ks ∈ kss, ∀ k ∈ ks, k ∈ kinds) : ∀ k ∈ ks, Tells kinds (k.guarded c).findings := by
  induction h with
  | nil => exact fun k hk => absurd hk List.not_mem_nil
  | cons ht _ ih =>
    rw [List.forall_mem_cons] at hk ⊢
    exact ⟨tells_mono ht hk.1, ih hk.2⟩

def speakers (q : Topic → Bool) : List Check → List (List (Topic × Severity)) → List Check
  | k :: ks, kinds :: kss =>
    if kinds.any (q ·.1) then k :: speakers q ks kss else speakers q ks kss
  | _, _ => []

/-- What a row of checks tells of a topic is what its speakers tell. -/
theorem filter_topic_flatMap {c : Collection} {ks : List Check}
    {kss : List (List (Topic × Severity))} (h : TellEach c ks kss) (q : Topic → Bool) :
    (ks.flatMap fun k => (k.guarded c).findings).filter (q ·.topic) =
      (speakers q ks kss).flatMap fun k => (k.guarded c).findings.filter (q ·.topic) := by
  induction h with
  | nil => rfl
  | @cons k kinds ks kss ht _ ih =>
    rw [List.flatMap_cons, List.filter_append, ih, speakers]
    split
    case isTrue => rw [List.flatMap_cons]
    case isFalse hn =>
      have hall : ∀ k ∈ kinds, q k.1 = false := by simpa using hn
      rw [filter_eq_nil_of_tells q ht hall, List.nil_append]

def parsedKindsEach : List (List (Topic × Severity)) := [
  [(.unknownDirective, .syntactic)], [(.missingSemicolon, .syntactic)],
  [(.invalidKeyword, .syntactic)], [(.strictDynamic, .strictCsp)],
  [(.strictDynamicNotStandalone, .info)], [(.unsafeInlineFallback, .strictCsp)],
  [(.allowlistFallback, .strictCsp)], [(.requireTrustedTypesForScripts, .info)]]

theorem tellEach_parsedChecks (c : Collection) : TellEach c parsedChecks parsedKindsEach := by
  have each {kinds : List (Topic × Severity)} {name : String} {g : Policy → List Finding}
      (h : ∀ p, Tells kinds (g p)) : Tells kinds ((perPolicy name g).guarded c).findings :=
    tells_flatMap fun p _ => h p
  exact .cons (each tells_unknownDirective) <| .cons (each tells_missingSemicolon) <|
    .cons (each tells_invalidKeyword) <| .cons (each tells_strictDynamic) <|
    .cons (each tells_strictDynamicNotStandalone) <| .cons (each tells_unsafeInlineFallback) <|
    .cons (each tells_allowlistFallback) <| .cons (tells_requiresTrustedTypesForScripts c) .nil

def parsedKinds : List (Topic × Severity) := [
  (.unknownDirective, .syntactic), (.missingSemicolon, .syntactic), (.invalidKeyword, .syntactic),
  (.strictDynamic, .strictCsp), (.strictDynamicNotStandalone, .info),
  (.unsafeInlineFallback, .strictCsp), (.allowlistFallback, .strictCsp),
  (.requireTrustedTypesForScripts, .info)]

theorem tells_parsedChecks (c : Collection) :
    ∀ k ∈ parsedChecks, Tells parsedKinds (k.guarded c).findings :=
  tells_of_tellEach (tellEach_parsedChecks c) (by decide)

def effectiveKindsEach : List (List (Topic × Severity)) := [
  [(.scriptUnsafeInline, .high)], [(.scriptUnsafeEval, .mediumMaybe)], [(.plainUrlSchemes, .high)],
  [(.plainWildcard, .high)], [(.missingDirectives, .highMaybe), (.missingDirectives, .high)],
  [(.scriptAllowlistBypass, .mediumMaybe), (.scriptAllowlistBypass, .high), (.internalError, .info)],
  [(.objectAllowlistBypass, .mediumMaybe), (.objectAllowlistBypass, .high), (.internalError, .info)],
  [(.ipSource, .info)], [(.deprecatedDirective, .info)],
  [(.nonceLength, .medium), (.nonceCharset, .info)], [(.srcHttp, .medium)]]

theorem tellEach_effectiveChecks (b : BypassLists) (c : Collection) :
    TellEach c (effectiveChecks b) effectiveKindsEach := by
  have each {kinds : List (Topic × Severity)} {name : String} {g : Policy → List Finding}
      (h : ∀ p, Tells kinds (g p)) : Tells kinds ((perPolicy name g).guarded c).findings :=
    tells_flatMap fun p _ => h p
  exact .cons (each tells_scriptUnsafeInline) <| .cons (each tells_scriptUnsafeEval) <|
    .cons (each tells_plainUrlSchemes) <| .cons (each tells_plainWildcard) <|
    .cons (each tells_missingDirectives) <|
    .cons (tells_ofResult (tells_gather fun p _ => tells_scriptAllowlistBypass b p)) <|
    .cons (tells_ofResult (tells_gather fun p _ => tells_objectAllowlistBypass b p)) <|
    .cons (each tells_ipSource) <| .cons (each tells_deprecatedDirective) <|
    .cons (each tells_nonceLength) <| .cons (each tells_srcHttp) .nil

def effectiveKinds : List (Topic × Severity) := [
  (.scriptUnsafeInline, .high), (.scriptUnsafeEval, .mediumMaybe), (.plainUrlSchemes, .high),
  (.plainWildcard, .high), (.missingDirectives, .highMaybe), (.missingDirectives, .high),
  (.scriptAllowlistBypass, .mediumMaybe), (.scriptAllowlistBypass, .high),
  (.objectAllowlistBypass, .mediumMaybe), (.objectAllowlistBypass, .high), (.ipSource, .info),
  (.deprecatedDirective, .info), (.nonceLength, .medium), (.nonceCharset, .info),
  (.srcHttp, .medium), (.internalError, .info)]

theorem tells_effectiveChecks (b : BypassLists) (c : Collection) :
    ∀ k ∈ effectiveChecks b, Tells effectiveKinds (k.guarded c).findings :=
  tells_of_tellEach (tellEach_effectiveChecks b c) (by decide)

end Check

namespace Collection

theorem filter_topic_flatMap_of_true (q : Topic → Bool) {kinds : List (Topic × Severity)}
    {g : Policy → List Finding} (h : ∀ p, Check.Tells kinds (g p))
    (hk : ∀ k ∈ kinds, q k.1 = true) (c : Collection) :
    (c.flatMap g).filter (q ·.topic) = c.flatMap g :=
  Check.filter_eq_self_of_tells q (Check.tells_flatMap fun p _ => h p) hk

/-- What an evaluation says about some topics is said by the checks that can speak of them. -/
theorem filter_topic_evaluate (q : Topic → Bool) (v : Version) (b : BypassLists)
    (c : Collection) :
    (c.evaluate v b).findings.filter (q ·.topic) =
      (if q .ignored then c.ignoredFindings v else []) ++
      ((Check.speakers q Check.parsedChecks Check.parsedKindsEach).flatMap fun k =>
        (k.guarded c).findings.filter (q ·.topic)) ++
      (Check.speakers q (Check.effectiveChecks b) Check.effectiveKindsEach).flatMap fun k =>
        (k.guarded (c.effective v)).findings.filter (q ·.topic) := by
  have hignored : (c.ignoredFindings v).filter (q ·.topic) =
      if q .ignored then c.ignoredFindings v else [] := by
    have ht := Check.tells_ignoredFindings v c
    cases hq : q .ignored with
    | true => exact Check.filter_eq_self_of_tells q ht (by simpa using hq)
    | false => exact Check.filter_eq_nil_of_tells q ht (by simpa using hq)
  rw [findings_evaluate, List.filter_append, List.filter_append, hignored,
    Check.filter_topic_flatMap (Check.tellEach_parsedChecks c),
    Check.filter_topic_flatMap (Check.tellEach_effectiveChecks b (c.effective v))]

/-- A topic of one check only, which tells of nothing else. -/
theorem filter_topic_evaluate_eq (q : Topic → Bool) {b : BypassLists} {name : String}
    {g : Policy → List Finding} (hi : q .ignored = false)
    (hp : Check.speakers q Check.parsedChecks Check.parsedKindsEach = [])
    (he : Check.speakers q (Check.effectiveChecks b) Check.effectiveKindsEach =
      [.perPolicy name g])
    {kinds : List (Topic × Severity)} (ht : ∀ p, Check.Tells kinds (g p))
    (hk : ∀ k ∈ kinds, q k.1 = true) (v : Version) (c : Collection) :
    (c.evaluate v b).findings.filter (q ·.topic) = c.flatMap fun p => g (p.effective v) := by
  have hsays := filter_topic_flatMap_of_true q ht hk (c.effective v)
  rw [filter_topic_evaluate, hi, hp, he, List.flatMap_cons, List.flatMap_nil, List.flatMap_nil,
    Check.findings_perPolicy, hsays, effective, List.flatMap_map]
  simp

end Collection

end ContentPolicy
