import ContentPolicy.Proofs.PerPolicy
import ContentPolicy.Proofs.Reading
import ContentPolicy.Proofs.Totality

/-!
Nothing is told twice of one policy: within a check the directive and the value tell findings apart,
between checks the topic.
-/

namespace ContentPolicy

/-- No part repeats itself, and no two parts have an element in common if a mark on the elements
shows which part they are from. -/
theorem nodup_flatMap_of_mark {α β κ : Type} {l : List α} {g : α → List β} (mark : β → κ)
    (of : α → κ) (hl : l.Pairwise fun a a' => of a ≠ of a') (hg : ∀ a ∈ l, (g a).Nodup)
    (hmark : ∀ a ∈ l, ∀ x ∈ g a, mark x = of a) : (l.flatMap g).Nodup := by
  refine List.nodup_flatMap.2 ⟨hg, hl.imp_of_mem ?_⟩
  intro a a' ha ha' hne x hx hx'
  exact hne ((hmark a ha x hx).symm.trans (hmark a' ha' x hx'))

namespace Check

structure Pinned (name value : String) (fs : List Finding) : Prop where
  nodup : fs.Nodup
  about : ∀ f ∈ fs, f.directive = name ∧ f.value = some value

section Combinators

variable {name value : String}

theorem pinned_nil : Pinned name value [] := ⟨.nil, List.forall_mem_nil _⟩

theorem pinned_singleton {f : Finding} (hn : f.directive = name) (hv : f.value = some value) :
    Pinned name value [f] := by
  refine ⟨List.nodup_singleton f, fun g hg => ?_⟩
  rw [List.mem_singleton.1 hg]
  exact ⟨hn, hv⟩

theorem pinned_ite {q : Prop} [Decidable q] {fs gs : List Finding} (hf : Pinned name value fs)
    (hg : Pinned name value gs) : Pinned name value (if q then fs else gs) := by
  split
  · exact hf
  · exact hg

theorem pinned_if {q : Prop} [Decidable q] {topic : Topic} {severity : Severity}
    {description : String} :
    Pinned name value (if q then [⟨topic, severity, name, some value, description⟩] else []) :=
  pinned_ite (pinned_singleton rfl rfl) pinned_nil

theorem pinned_append {fs gs : List Finding} (hf : Pinned name value fs)
    (hg : Pinned name value gs) (hne : ∀ f ∈ fs, f ∉ gs) : Pinned name value (fs ++ gs) where
  nodup := List.nodup_append.2 ⟨hf.nodup, hg.nodup, fun f hm _ hm' he => hne f hm (he ▸ hm')⟩
  about f hm := (List.mem_append.1 hm).elim (hf.about f) (hg.about f)

theorem nodup_if {q : Prop} [Decidable q] {f : Finding} : (if q then [f] else []).Nodup := by
  split
  · exact List.nodup_singleton f
  · exact .nil

theorem nodup_flatMap_of_pinned {vs : List String} {g : String → List Finding} (hv : vs.Nodup)
    (hg : ∀ value, Pinned name value (g value)) : (vs.flatMap g).Nodup :=
  nodup_flatMap_of_mark Finding.value some (hv.imp fun hne he => hne (Option.some.inj he))
    (fun value _ => (hg value).nodup) fun value _ f hf => ((hg value).about f hf).2

theorem directive_of_mem_flatMap {vs : List String} {g : String → List Finding}
    (hg : ∀ value, Pinned name value (g value)) : ∀ f ∈ vs.flatMap g, f.directive = name := by
  intro f hf
  obtain ⟨value, -, hf⟩ := List.mem_flatMap.1 hf
  exact ((hg value).about f hf).1

variable {p : Policy} (hp : ∀ d ∈ p.directives, d.2.Nodup) {g : String → String → List Finding}
include hp

theorem nodup_eachValue (hg : ∀ name value, Pinned name value (g name value)) :
    (eachValue g p).Nodup :=
  nodup_flatMap_of_mark Finding.directive Prod.fst (List.pairwise_map.1 p.nodup_names)
    (fun d hd => nodup_flatMap_of_pinned (hp d hd) (hg d.1))
    fun d _ => directive_of_mem_flatMap (hg d.1)

/-- Two of the directives can have the same one in their place, so the names are freed from
repetitions before. -/
theorem nodup_eachRiskyValue (hg : ∀ name value, Pinned name value (g name value)) :
    (eachRiskyValue g p).Nodup :=
  nodup_flatMap_of_mark Finding.directive id nodup_eraseDups
    (fun name _ => nodup_flatMap_of_pinned (Policy.nodup_values hp name) (hg name))
    fun name _ => directive_of_mem_flatMap (hg name)

end Combinators

theorem nodup_unknownDirective (p : Policy) : (unknownDirective p).Nodup := by
  refine nodup_flatMap_of_mark Finding.directive id p.nodup_names (fun name _ => ?_)
    fun name _ f hf => ?_
  · split
    · exact .nil
    split
    · exact List.nodup_singleton _
    · exact List.nodup_singleton _
  · split at hf
    · exact absurd hf List.not_mem_nil
    split at hf
    · rw [List.mem_singleton.1 hf, id]
    · rw [List.mem_singleton.1 hf, id]

/-- At most one finding, which names the directive that is missing. -/
theorem missingDirective_sublist (p : Policy) (name : String) :
    ∃ description, (missingDirective p name).Sublist
      [⟨.missingDirectives, .high, name, none, description⟩] := by
  unfold missingDirective
  split
  · exact ⟨"", List.nil_sublist _⟩
  split
  · exact ⟨_, .refl _⟩
  split
  · split
    · exact ⟨_, .refl _⟩
    · exact ⟨"", List.nil_sublist _⟩
  · exact ⟨_, .refl _⟩

theorem nodup_missingDirective (p : Policy) (name : String) : (missingDirective p name).Nodup := by
  obtain ⟨description, hs⟩ := missingDirective_sublist p name
  exact (List.nodup_singleton _).sublist hs

theorem directive_of_mem_missingDirective (p : Policy) (name : String) :
    ∀ f ∈ missingDirective p name, f.directive = name := by
  intro f hf
  obtain ⟨description, hs⟩ := missingDirective_sublist p name
  rw [List.mem_singleton.1 (hs.subset hf)]

theorem nodup_missingDirectives (p : Policy) : (missingDirectives p).Nodup := by
  unfold missingDirectives
  split
  · refine List.nodup_append.2 ⟨nodup_if, nodup_missingDirective p _, ?_⟩
    intro f hf f' hf' heq
    have hobject : f.directive = Directive.objectSrc := by
      split at hf
      · rw [List.mem_singleton.1 hf]
      · exact absurd hf List.not_mem_nil
    rw [heq, directive_of_mem_missingDirective p _ f' hf'] at hobject
    exact absurd hobject (by decide)
  · exact nodup_flatMap_of_mark Finding.directive id (by decide)
      (fun name _ => nodup_missingDirective p name)
      fun name _ => directive_of_mem_missingDirective p name

theorem if_sublist {q : Prop} [Decidable q] (fs : List Finding) :
    (if q then fs else []).Sublist fs := by
  split
  · exact .refl fs
  · exact List.nil_sublist fs

theorem nodup_deprecatedDirective (p : Policy) : (deprecatedDirective p).Nodup := by
  refine List.Nodup.sublist
    ((((if_sublist _).append (if_sublist _)).append (if_sublist _)).append (if_sublist _)) ?_
  decide

theorem pinned_scriptValueBypass {b : BypassLists} {p : Policy} {value : String}
    {fs : List Finding} (h : scriptValueBypass b p value = .ok fs) :
    Pinned p.scriptName value fs := by
  simp only [scriptValueBypass] at h
  split at h
  · cases h
    exact pinned_singleton rfl rfl
  split at h
  · cases h
    exact pinned_nil
  split at h
  · cases h
  split at h
  · cases h
  split at h
  · cases h
    exact pinned_singleton rfl rfl
  · cases h
    exact pinned_singleton rfl rfl

theorem pinned_objectValueBypass {b : BypassLists} {name value : String}
    {fs : List Finding} (h : objectValueBypass b name value = .ok fs) : Pinned name value fs := by
  unfold objectValueBypass at h
  split at h
  · cases h
  · cases h
    exact pinned_singleton rfl rfl
  split at h
  · cases h
    exact pinned_singleton rfl rfl
  · cases h
    exact pinned_nil

section Values

variable {p : Policy} (hp : ∀ d ∈ p.directives, d.2.Nodup)
include hp

theorem nodup_invalidKeyword : (invalidKeyword p).Nodup :=
  nodup_eachValue hp fun _ _ => pinned_ite (pinned_singleton rfl rfl) pinned_if

theorem nodup_ipSource : (ipSource p).Nodup := by
  refine nodup_eachValue hp fun name value => ?_
  rw [addressFindings]
  cases Source.address? value with
  | none => exact pinned_nil
  | some ip => exact pinned_singleton rfl rfl

/-- A short nonce of odd characters is told of twice, for two reasons. -/
theorem nodup_nonceLength : (nonceLength p).Nodup := by
  refine nodup_eachValue hp fun name value => ?_
  cases Source.nonce? value with
  | none => exact pinned_nil
  | some payload =>
    refine pinned_append pinned_if (pinned_ite pinned_nil (pinned_singleton rfl rfl)) ?_
    intro f hf hf'
    have hlength : f.topic = .nonceLength := by
      rw [List.mem_singleton.1 ((if_sublist _).subset hf)]
    split at hf'
    · exact absurd hf' List.not_mem_nil
    · rw [List.mem_singleton.1 hf'] at hlength
      cases hlength

theorem nodup_told_scriptAllowlistBypass {b : BypassLists} (hb : b.AllTexts) :
    (told (scriptAllowlistBypass b p)).Nodup := by
  have hvalue (value : String) : Pinned p.scriptName value (bypassesOf b p value) :=
    pinned_scriptValueBypass (scriptValueBypass_eq_ok hb p value)
  rw [scriptAllowlistBypass_eq_ok hb, told]
  split
  · exact .nil
  · exact nodup_flatMap_of_pinned (Policy.nodup_values hp _) hvalue

theorem nodup_told_objectAllowlistBypass {b : BypassLists} (hb : b.AllTexts) :
    (told (objectAllowlistBypass b p)).Nodup := by
  have hok (value : String) :
      ∃ fs, objectValueBypass b (p.effectiveName Directive.objectSrc) value = .ok fs :=
    hb.exists_ok fun _ => blames_of_objectValueBypass_error
  have hvalue (value : String) : Pinned (p.effectiveName Directive.objectSrc) value
      (told (objectValueBypass b (p.effectiveName Directive.objectSrc) value)) :=
    pinned_objectValueBypass (eq_ok_told (hok value))
  unfold objectAllowlistBypass
  dsimp only
  split
  · exact .nil
  · rw [gather_total fun value _ => hok value, told]
    exact nodup_flatMap_of_pinned (Policy.nodup_values hp _) hvalue

theorem nodup_parsedChecks : ∀ k ∈ parsedChecks, (k.guarded [p]).findings.Nodup := by
  have htypes : (requiresTrustedTypesForScripts [p]).Nodup := by
    unfold requiresTrustedTypesForScripts
    split
    · exact .nil
    · exact List.nodup_singleton _
  simp only [parsedChecks, grammarChecks, strictChecks, List.cons_append, List.nil_append,
    List.forall_mem_cons, findings_perPolicy_singleton]
  exact ⟨nodup_unknownDirective p, nodup_eachValue hp fun _ _ => pinned_if, nodup_invalidKeyword hp,
    nodup_if, nodup_if, nodup_if, nodup_if, htypes, List.forall_mem_nil _⟩

theorem nodup_effectiveChecks {b : BypassLists} (hb : b.AllTexts) :
    ∀ k ∈ effectiveChecks b, (k.guarded [p]).findings.Nodup := by
  have hscript : ∀ q, ∃ fs, scriptAllowlistBypass b q = .ok fs :=
    fun q => ⟨_, scriptAllowlistBypass_eq_ok hb q⟩
  simp only [effectiveChecks, List.forall_mem_cons, ofResult_gather_eq_perPolicy _ hscript,
    ofResult_gather_eq_perPolicy _ (objectAllowlistBypass_total hb), findings_perPolicy_singleton]
  exact ⟨nodup_if, nodup_if, nodup_eachRiskyValue hp fun _ _ => pinned_if,
    nodup_eachRiskyValue hp fun _ _ => pinned_if, nodup_missingDirectives p,
    nodup_told_scriptAllowlistBypass hp hb, nodup_told_objectAllowlistBypass hp hb,
    nodup_ipSource hp, nodup_deprecatedDirective p, nodup_nonceLength hp,
    nodup_eachValue hp fun _ _ => pinned_if, List.forall_mem_nil _⟩

end Values

def reportKindsEach : List (List (Topic × Severity)) :=
  [(.ignored, .none)] :: (parsedKindsEach ++ effectiveKindsEach)

/-- Two parts have a kind in common only if it is the one of checks that break off. -/
theorem pairwise_reportKindsEach :
    reportKindsEach.Pairwise fun ks ls => ∀ k ∈ ks, k ∈ ls → k.1 = .internalError := by decide

theorem exists_kinds_of_mem_flatten {fss : List (List Finding)}
    {kss : List (List (Topic × Severity))}
    (h : List.Forall₂ (fun fs kinds => Tells kinds fs) fss kss) :
    ∀ f ∈ fss.flatten, ∃ kinds ∈ kss, f.kind ∈ kinds := by
  induction h with
  | nil => exact fun f hf => absurd hf List.not_mem_nil
  | @cons fs kinds fss kss ht _ ih =>
    intro f hf
    rw [List.flatten_cons] at hf
    cases List.mem_append.1 hf with
    | inl hf => exact ⟨kinds, List.mem_cons_self, ht f hf⟩
    | inr hf =>
      obtain ⟨ls, hls, hk⟩ := ih f hf
      exact ⟨ls, List.mem_cons_of_mem _ hls, hk⟩

/-- Parts that tell of different kinds have nothing in common. -/
theorem nodup_flatten_of_tells {fss : List (List Finding)} {kss : List (List (Topic × Severity))}
    (h : List.Forall₂ (fun fs kinds => Tells kinds fs) fss kss) (hn : ∀ fs ∈ fss, fs.Nodup)
    (hf : ∀ f ∈ fss.flatten, f.topic ≠ .internalError)
    (hk : kss.Pairwise fun ks ls => ∀ k ∈ ks, k ∈ ls → k.1 = Topic.internalError) :
    fss.flatten.Nodup := by
  induction h with
  | nil => exact .nil
  | @cons fs kinds fss kss ht hrest ih =>
    rw [List.forall_mem_cons] at hn
    rw [List.flatten_cons, List.forall_mem_append] at hf
    obtain ⟨hhere, hlater⟩ := List.pairwise_cons.1 hk
    refine List.nodup_append.2 ⟨hn.1, ih hn.2 hf.2 hlater, ?_⟩
    rintro f hm _ hm' rfl
    obtain ⟨ls, hls, hkind⟩ := exists_kinds_of_mem_flatten hrest f hm'
    exact hf.1 f hm (hhere ls hls f.kind (ht f hm) hkind)

end Check

namespace Policy

theorem nodup_ignoredFindings {p : Policy} (hp : ∀ d ∈ p.directives, d.2.Nodup) (v : Version) :
    (p.ignoredFindings v).Nodup := by
  have hvalues : p.scriptValues.Nodup := nodup_values hp _
  have hinj (name : String) : Function.Injective (ignoredByStrictDynamic name) := by
    intro value value' he
    rw [ignoredByStrictDynamic, ignoredByStrictDynamic, Finding.mk.injEq] at he
    exact Option.some.inj he.2.2.2.1
  rw [ignoredFindings_eq, ignoredUnder]
  refine List.nodup_append.2 ⟨Check.nodup_if, ?_, ?_⟩
  · split
    · exact (hvalues.filter _).map (hinj _)
    · exact .nil
  · -- inline scripts can be in both parts, each with its own reason
    intro f hf f' hf' heq
    have hbeside := List.mem_singleton.1 ((Check.if_sublist _).subset hf)
    obtain ⟨value, -, hdropped⟩ := List.mem_map.1 ((Check.if_sublist _).subset hf')
    rw [heq, ← hdropped] at hbeside
    rw [ignoredByStrictDynamic, ignoredBesideTrusted, Finding.mk.injEq] at hbeside
    exact absurd hbeside.2.2.2.2 (by decide)

end Policy

namespace Collection

theorem nodup_evaluate {b : BypassLists} (hb : b.AllTexts) (v : Version) {p : Policy}
    (hp : ∀ d ∈ p.directives, d.2.Nodup) : (evaluate v b [p]).findings.Nodup := by
  have heffective : ∀ d ∈ (p.effective v).directives, d.2.Nodup := by
    intro d hd
    obtain ⟨vs, hm, hs⟩ := Policy.exists_of_mem_effective hd
    exact (hp _ hm).sublist hs
  have hparts : (evaluate v b [p]).findings =
      (ignoredFindings v [p] :: (Check.parsedChecks.map (fun k => (k.guarded [p]).findings) ++
        (Check.effectiveChecks b).map fun k => (k.guarded (effective v [p])).findings)).flatten := by
    rw [findings_evaluate, List.flatten_cons, List.flatten_append, List.append_assoc]
    rfl
  have hfree : ∀ f ∈ (evaluate v b [p]).findings, f.topic ≠ .internalError := by
    intro f hf
    simpa using List.filter_eq_nil_iff.1 (filter_internalError_evaluate hb v [p]) f hf
  rw [hparts] at hfree ⊢
  refine Check.nodup_flatten_of_tells ?_ ?_ hfree Check.pairwise_reportKindsEach
  · refine .cons (Check.tells_ignoredFindings v [p]) (List.rel_append ?_ ?_)
    · rw [List.forall₂_map_left_iff]
      exact Check.tellEach_parsedChecks [p]
    · rw [List.forall₂_map_left_iff]
      exact Check.tellEach_effectiveChecks b (effective v [p])
  · rw [List.forall_mem_cons, List.forall_mem_append, List.forall_mem_map, List.forall_mem_map]
    refine ⟨?_, Check.nodup_parsedChecks hp, Check.nodup_effectiveChecks heffective hb⟩
    rw [ignoredFindings, List.flatMap_singleton]
    exact Policy.nodup_ignoredFindings hp v

/-- Each fact about a policy that was read is told once. -/
theorem nodup_evaluate_of_read {b : BypassLists} (hb : b.AllTexts) (v : Version)
    {headers : List String} {p : Policy} (hp : p ∈ parse headers) :
    (evaluate v b [p]).findings.Nodup := by
  obtain ⟨text, -, rfl⟩ := List.mem_map.1 hp
  exact nodup_evaluate hb v fun d hd => (Policy.settled_parse text d hd).nodup_values

def repeatingHeaders : List String :=
  ["default-src 'nonce-a.b' 'unsafe-inline' 'strict-dynamic' https: * https: cdn.example.com"]

theorem nodup_evaluate_of_read_repeatingHeaders :
    placesExample.AllTexts ∧ ∃ p ∈ parse repeatingHeaders,
      (evaluate .csp3 placesExample [p]).findings.length = 10 ∧
        (evaluate .csp3 placesExample [p]).findings.Nodup := by
  have hb : placesExample.AllTexts := ⟨["//cdn.example.com/x"], [], [], [], rfl⟩
  have hread : ∃ p ∈ parse repeatingHeaders,
      (evaluate .csp3 placesExample [p]).findings.length = 10 := by
    decide +kernel
  obtain ⟨p, hp, hlength⟩ := hread
  exact ⟨hb, p, hp, hlength, nodup_evaluate_of_read hb .csp3 hp⟩

end Collection

end ContentPolicy
