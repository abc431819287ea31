import ContentPolicy.Check.Allowlist
import ContentPolicy.Proofs.Matching
import ContentPolicy.Proofs.Running

/-!
Verdicts on sources that the lists of well-known places are searched for. Only the first place that
serves callbacks counts.
-/

namespace ContentPolicy.Check

def told (r : Except Fault (List Finding)) : List Finding :=
  match r with
  | .ok fs => fs
  | .error _ => []

theorem eq_ok_told {r : Except Fault (List Finding)} (h : ∃ fs, r = .ok fs) : r = .ok (told r) := by
  obtain ⟨fs, rfl⟩ := h
  rfl

theorem gather_total {α : Type} {f : α → Except Fault (List Finding)} {l : List α}
    (h : ∀ a ∈ l, ∃ fs, f a = .ok fs) : gather f l = .ok (l.flatMap fun a => told (f a)) :=
  gather_eq_ok fun a ha => eq_ok_told (h a ha)

def bypassesOf (b : BypassLists) (p : Policy) (value : String) : List Finding :=
  told (scriptValueBypass b p value)

section Faults

variable {b : BypassLists} {f : Fault}

theorem exists_of_gather_error {α : Type} {g : α → Except Fault (List Finding)} {l : List α}
    (h : gather g l = .error f) : ∃ a ∈ l, g a = .error f := by
  induction l with
  | nil => cases h
  | cons a r ih =>
    cases ha : g a with
    | error e =>
      simp only [gather, ha] at h
      exact ⟨a, List.mem_cons_self, by rw [ha, h]⟩
    | ok fs =>
      cases hr : gather g r with
      | error e =>
        simp only [gather, ha, hr, Except.map] at h
        obtain ⟨x, hx, hgx⟩ := ih (by rw [hr, h])
        exact ⟨x, List.mem_cons_of_mem a hx, hgx⟩
      | ok gs => simp [gather, ha, hr, Except.map] at h

theorem blames_of_scriptValueBypass_error {p : Policy} {value : String}
    (h : scriptValueBypass b p value = .error f) : b.Blames f := by
  have hangular : b.angularUrls ⊆ b.urls := by simp [BypassLists.urls]
  have hjsonp : b.jsonpUrls ⊆ b.urls := by simp [BypassLists.urls]
  simp only [scriptValueBypass] at h
  split at h
  · cases h
  split at h
  · cases h
  split at h
  case h_1 e he =>
    cases h
    exact BypassLists.blames_of_firstMatch_error hangular he
  split at h
  case h_1 e he =>
    cases h
    exact BypassLists.blames_of_firstMatch_error hjsonp he
  split at h <;> cases h

theorem blames_of_scriptAllowlistBypass_error {p : Policy}
    (h : scriptAllowlistBypass b p = .error f) : b.Blames f := by
  unfold scriptAllowlistBypass at h
  split at h
  · cases h
  · obtain ⟨value, -, hv⟩ := exists_of_gather_error h
    exact blames_of_scriptValueBypass_error hv

theorem blames_of_objectValueBypass_error {name value : String}
    (h : objectValueBypass b name value = .error f) : b.Blames f := by
  have hflash : b.flashUrls ⊆ b.urls := by simp [BypassLists.urls]
  unfold objectValueBypass at h
  split at h
  case h_1 e he =>
    cases h
    exact BypassLists.blames_of_firstMatch_error hflash he
  · cases h
  split at h <;> cases h

theorem blames_of_objectAllowlistBypass_error {p : Policy}
    (h : objectAllowlistBypass b p = .error f) : b.Blames f := by
  simp only [objectAllowlistBypass] at h
  split at h
  · cases h
  · obtain ⟨value, -, hv⟩ := exists_of_gather_error h
    exact blames_of_objectValueBypass_error hv

end Faults

section Texts

variable {b : BypassLists} (hb : b.AllTexts)
include hb

theorem scriptValueBypass_eq_ok (p : Policy) (value : String) :
    scriptValueBypass b p value = .ok (bypassesOf b p value) := by
  have hok : ∃ fs, scriptValueBypass b p value = .ok fs :=
    hb.exists_ok fun _ => blames_of_scriptValueBypass_error
  exact eq_ok_told hok

/-- With texts for entries no search breaks off, so each value has a verdict of its own. -/
theorem scriptAllowlistBypass_eq_ok (p : Policy) :
    scriptAllowlistBypass b p =
      .ok (if Keyword.none ∈ p.scriptValues then [] else p.scriptValues.flatMap (bypassesOf b p)) := by
  have hg : gather (scriptValueBypass b p) p.scriptValues =
      .ok (p.scriptValues.flatMap (bypassesOf b p)) :=
    gather_eq_ok fun value _ => scriptValueBypass_eq_ok hb p value
  simp only [scriptAllowlistBypass, hg, List.contains_iff_mem]
  split <;> rfl

theorem objectAllowlistBypass_total (p : Policy) : ∃ fs, objectAllowlistBypass b p = .ok fs :=
  hb.exists_ok fun _ => blames_of_objectAllowlistBypass_error

end Texts

/-- The findings about a value name the value and the directive that lets scripts in. -/
theorem about_of_scriptValueBypass {b : BypassLists} {p : Policy} {value : String}
    {fs : List Finding} (h : scriptValueBypass b p value = .ok fs) :
    ∀ f ∈ fs, f.topic = .scriptAllowlistBypass ∧ f.directive = p.scriptName ∧
      f.value = some value := by
  simp only [scriptValueBypass] at h
  split at h
  · cases h
    simp
  split at h
  · cases h
    simp
  split at h
  · cases h
  split at h
  · cases h
  split at h
  · cases h
    simp
  · cases h
    simp

section Verdict

variable {jsonpUrls angularUrls : List String} (flashUrls needsEval : List String)

def CallbackRuns (needsEval values : List String) (u : Url) : Prop :=
  Keyword.unsafeEval ∈ values ∨ ∀ host ∈ needsEval, u.hostname ≠ some host

def AllowsLibrary (angularUrls : List String) (value : String) : Prop :=
  ∃ s ∈ angularUrls, ∃ u, Source.match? value s = some u

def AllowsCallback (jsonpUrls needsEval values : List String) (value : String) : Prop :=
  ∃ s ∈ jsonpUrls, ∃ u, Source.match? value s = some u ∧ CallbackRuns needsEval values u

/-- The first place of the list that the source allows has a callback that runs. -/
def AllowsCallbackFirst (jsonpUrls needsEval values : List String) (value : String) : Prop :=
  ∃ u, jsonpUrls.findSome? (Source.match? value) = some u ∧ CallbackRuns needsEval values u

theorem AllowsCallbackFirst.allowsCallback {needsEval values : List String} {value : String}
    (h : AllowsCallbackFirst jsonpUrls needsEval values value) :
    AllowsCallback jsonpUrls needsEval values value := by
  obtain ⟨u, hu, hruns⟩ := h
  obtain ⟨s, hs, hm⟩ := List.exists_of_findSome?_eq_some hu
  exact ⟨s, hs, u, hm, hruns⟩

theorem any_namesHost_iff (host : Option String) :
    (needsEval.map Literal.text).any (namesHost host) = true ↔ ∃ s ∈ needsEval, host = some s := by
  simp [namesHost]

/-- Of the place that was found it is asked whether its callbacks run. -/
theorem isSome_usableJsonp_iff {b : BypassLists} (hb : b.jsonpNeedsEval = needsEval.map .text)
    (values : List String) (jsonp : Option Url) :
    (usableJsonp b values jsonp).isSome = true ↔
      ∃ u, jsonp = some u ∧ CallbackRuns needsEval values u := by
  cases jsonp with
  | none => simp [usableJsonp]
  | some u =>
    have hany := any_namesHost_iff needsEval u.hostname
    simp only [usableJsonp, hb, Option.isSome_filter, Option.any_some]
    rw [Bool.or_eq_true, Bool.not_eq_true', ← Bool.not_eq_true, hany, List.contains_iff_mem]
    simp [CallbackRuns]

theorem isSome_bypassDescription (jsonp angular : Option Url) :
    (bypassDescription jsonp angular).isSome = (jsonp.isSome || angular.isSome) := by
  cases jsonp <;> cases angular <;> rfl

/-- Once both lists are searched for a source, the places that it was found to allow decide. -/
theorem exists_verdict {b : BypassLists} {value : String} (hh : isHostLike value = true)
    {jsonp angular : Option Url} (hjsonp : Source.firstMatch value b.jsonpUrls = .ok jsonp)
    (hangular : Source.firstMatch value b.angularUrls = .ok angular) (p : Policy) :
    ∃ f, bypassesOf b p value = [f] ∧ f.severity =
      if (usableJsonp b p.scriptValues jsonp).isSome || angular.isSome then .high
      else .mediumMaybe := by
  have hself : (value == Keyword.self) = false := by
    rw [beq_eq_false_iff_ne]
    rintro rfl
    exact absurd hh (by decide)
  have hsome := isSome_bypassDescription (usableJsonp b p.scriptValues jsonp) angular
  simp only [bypassesOf, scriptValueBypass, hself, hh, hjsonp, hangular, ← hsome]
  cases bypassDescription (usableJsonp b p.scriptValues jsonp) angular with
  | none => exact ⟨_, rfl, rfl⟩
  | some description => exact ⟨_, rfl, rfl⟩

/-- What is told of a source that both lists are searched for. -/
theorem bypassesOf_of_isHostLike (hj : ∀ s ∈ jsonpUrls, Url.isWellFormed s = true)
    (ha : ∀ s ∈ angularUrls, Url.isWellFormed s = true) (p : Policy) {value : String}
    (hh : isHostLike value = true) :
    ∃ f, bypassesOf (.ofStrings jsonpUrls angularUrls flashUrls needsEval) p value = [f] ∧
      (f.severity = .high ↔ AllowsLibrary angularUrls value ∨
        AllowsCallbackFirst jsonpUrls needsEval p.scriptValues value) := by
  generalize hb : BypassLists.ofStrings jsonpUrls angularUrls flashUrls needsEval = b
  have hjsonp : Source.firstMatch value b.jsonpUrls =
      .ok (jsonpUrls.findSome? (Source.match? value)) := by
    rw [← hb]
    exact Source.firstMatch_texts hj value
  have hangular : Source.firstMatch value b.angularUrls =
      .ok (angularUrls.findSome? (Source.match? value)) := by
    rw [← hb]
    exact Source.firstMatch_texts ha value
  have hlibrary : (angularUrls.findSome? (Source.match? value)).isSome = true ↔
      AllowsLibrary angularUrls value := by
    simp only [AllowsLibrary, ← Option.isSome_iff_exists, List.findSome?_isSome_iff]
  have hcallback : (usableJsonp b p.scriptValues
        (jsonpUrls.findSome? (Source.match? value))).isSome = true ↔
      AllowsCallbackFirst jsonpUrls needsEval p.scriptValues value :=
    isSome_usableJsonp_iff needsEval (by rw [← hb]; rfl) p.scriptValues _
  obtain ⟨f, hf, hseverity⟩ := exists_verdict hh hjsonp hangular p
  refine ⟨f, hf, ?_⟩
  rw [hseverity, or_comm, ← hlibrary, ← hcallback, ← Bool.or_eq_true]
  split
  case isTrue h => simp [h]
  case isFalse h => simp [h]

/-- The verdict on a source is the worst exactly if it allows a place with a library, or if the
first place with callbacks that it allows has one that runs. A callback that runs is overlooked
exactly if the source allows no library and another place with callbacks, which do not run, is
found before it. -/
theorem severity_eq_high_iff (hj : ∀ s ∈ jsonpUrls, Url.isWellFormed s = true)
    (ha : ∀ s ∈ angularUrls, Url.isWellFormed s = true) {p : Policy} {value : String}
    (hv : value ∈ p.scriptValues) (hh : isHostLike value = true)
    (hn : Keyword.none ∉ p.scriptValues) :
    ∃ fs, scriptAllowlistBypass (.ofStrings jsonpUrls angularUrls flashUrls needsEval) p = .ok fs ∧
      (∃ f ∈ fs, f.value = some value) ∧
      ∀ f ∈ fs, f.value = some value →
        (f.severity = .high ↔ AllowsLibrary angularUrls value ∨
          AllowsCallbackFirst jsonpUrls needsEval p.scriptValues value) ∧
        ((f.severity = .high ↔ AllowsLibrary angularUrls value ∨
            AllowsCallback jsonpUrls needsEval p.scriptValues value) ↔
          (AllowsCallback jsonpUrls needsEval p.scriptValues value →
            AllowsLibrary angularUrls value ∨
              AllowsCallbackFirst jsonpUrls needsEval p.scriptValues value)) := by
  have hb : (BypassLists.ofStrings jsonpUrls angularUrls flashUrls needsEval).AllTexts :=
    ⟨jsonpUrls, angularUrls, flashUrls, needsEval, rfl⟩
  obtain ⟨g, hg, hhigh⟩ := bypassesOf_of_isHostLike flashUrls needsEval hj ha p hh
  have habout {x : String} {f : Finding}
      (hf : f ∈ bypassesOf (.ofStrings jsonpUrls angularUrls flashUrls needsEval) p x) :
      f.value = some x :=
    (about_of_scriptValueBypass (scriptValueBypass_eq_ok hb p x) f hf).2.2
  rw [scriptAllowlistBypass_eq_ok hb, if_neg hn]
  refine ⟨_, rfl, ⟨g, ?_, ?_⟩, fun f hf hfv => ?_⟩
  · exact List.mem_flatMap.2 ⟨value, hv, by simp [hg]⟩
  · exact habout (by simp [hg])
  · obtain ⟨x, -, hx⟩ := List.mem_flatMap.1 hf
    have hxv : x = value := by
      rw [habout hx] at hfv
      exact Option.some.inj hfv
    rw [hxv, hg, List.mem_singleton] at hx
    rw [hx]
    rw [hhigh]
    refine ⟨.rfl, fun h hc => h.2 (.inr hc), fun h => ⟨?_, fun hboth => hboth.elim .inl h⟩⟩
    exact Or.imp_right AllowsCallbackFirst.allowsCallback

end Verdict

def wildcardExample : Policy where
  directives := [("script-src", ["*.example.com"])]
  nodup_names := by decide

/-- Two places that the wildcard allows. Only the callbacks of the second run without `eval`. -/
def callbackPlaces : List String := ["//a.example.com/x", "//b.example.com/y"]

theorem severity_eq_high_iff_wildcardExample :
    (∀ s ∈ callbackPlaces.reverse, Url.isWellFormed s = true) ∧
      "*.example.com" ∈ wildcardExample.scriptValues ∧ isHostLike "*.example.com" = true ∧
      Keyword.none ∉ wildcardExample.scriptValues ∧
      ∃ fs, scriptAllowlistBypass (.ofStrings callbackPlaces.reverse [] [] ["a.example.com"])
          wildcardExample = .ok fs ∧
        ∃ f ∈ fs, f.value = some "*.example.com" ∧ f.severity = .high := by
  have hj : ∀ s ∈ callbackPlaces.reverse, Url.isWellFormed s = true := by decide +kernel
  have hv : "*.example.com" ∈ wildcardExample.scriptValues := by decide +kernel
  have hh : isHostLike "*.example.com" = true := by decide +kernel
  have hn : Keyword.none ∉ wildcardExample.scriptValues := by decide +kernel
  have hfirst : AllowsCallbackFirst callbackPlaces.reverse ["a.example.com"]
      wildcardExample.scriptValues "*.example.com" := by
    refine ⟨⟨"", "b.example.com", "/y", "", ""⟩, by decide +kernel, .inr ?_⟩
    decide +kernel
  obtain ⟨fs, hfs, ⟨f, hf, hfv⟩, hall⟩ := severity_eq_high_iff [] ["a.example.com"] hj
    (List.forall_mem_nil _) hv hh hn
  exact ⟨hj, hv, hh, hn, fs, hfs, f, hf, hfv, (hall f hf hfv).1.2 (.inr hfirst)⟩

/-- In the other order the same places are taken for harmless. -/
theorem callback_overlooked_wildcardExample :
    (∀ s ∈ callbackPlaces, Url.isWellFormed s = true) ∧
      "*.example.com" ∈ wildcardExample.scriptValues ∧ isHostLike "*.example.com" = true ∧
      Keyword.none ∉ wildcardExample.scriptValues ∧
      AllowsCallback callbackPlaces ["a.example.com"] wildcardExample.scriptValues
        "*.example.com" ∧
      (told (scriptAllowlistBypass (.ofStrings callbackPlaces [] [] ["a.example.com"])
        wildcardExample)).map (fun f => (f.value, f.severity)) =
          [(some "*.example.com", .mediumMaybe)] := by
  refine ⟨by decide +kernel, by decide +kernel, by decide +kernel, by decide +kernel, ?_,
    by decide +kernel⟩
  refine ⟨"//b.example.com/y", by decide +kernel, ⟨"", "b.example.com", "/y", "", ""⟩,
    by decide +kernel, .inr ?_⟩
  decide +kernel

end ContentPolicy.Check
