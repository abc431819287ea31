import ContentPolicy.Proofs.Bypasses
import ContentPolicy.Proofs.FirstMention
import Mathlib.Data.List.Forall2

/-!
The verdicts on the sources of scripts. Where `eval` is allowed too, none is lost, none is new, and
none gets milder.
-/

namespace ContentPolicy

namespace Policy

def AddsEval (p q : Policy) : Prop :=
  ∃ front back, p.scriptValues = front ++ back ∧
    q.scriptValues = front ++ Keyword.unsafeEval :: back

theorem AddsEval.mem_iff {p q : Policy} (h : p.AddsEval q) {value : String} :
    value ∈ q.scriptValues ↔ value = Keyword.unsafeEval ∨ value ∈ p.scriptValues := by
  obtain ⟨front, back, hp, hq⟩ := h
  rw [hp, hq, List.mem_append, List.mem_cons, List.mem_append]
  exact or_left_comm

/-- Whatever has nothing to tell of `eval` tells the same of both. -/
theorem AddsEval.flatMap_eq {p q : Policy} (h : p.AddsEval q) {g : String → List Finding}
    (hg : g Keyword.unsafeEval = []) : q.scriptValues.flatMap g = p.scriptValues.flatMap g := by
  obtain ⟨front, back, hp, hq⟩ := h
  rw [hp, hq, List.flatMap_append, List.flatMap_cons, hg, List.nil_append, List.flatMap_append]

theorem values_addNew_nil (p : Policy) (name n : String) :
    (p.addNew name []).values n = p.values n := by
  rw [values, values, directives_addNew]
  split
  · rfl
  · rw [List.lookup_append]
    cases hl : p.directives.lookup n with
    | some vs => rfl
    | none =>
      rw [Option.none_or, List.lookup_cons]
      cases n == name <;> rfl

theorem has_append (p : Policy) (name value n : String) :
    (p.append name value).has n = (p.has n || n == name) := by
  rw [← has_addNew p name [], append, has, names_modify, has]

theorem values_append_self (p : Policy) (name value : String) :
    (p.append name value).values name = p.values name ++ [value] := by
  have hname : (p.addNew name []).has name = true := by simp [has_addNew]
  rw [append, values_modify_self _ _ hname, values_addNew_nil]

/-- The directive that lets scripts in is the same when it gets one more value. -/
theorem scriptName_append (p : Policy) (value : String) :
    (p.append p.scriptName value).scriptName = p.scriptName := by
  have hfetch : Directive.isFetch Directive.scriptSrc = true := by decide
  have hname : p.scriptName = if p.has Directive.scriptSrc then Directive.scriptSrc
      else Directive.defaultSrc := by simp [scriptName, effectiveName, hfetch]
  have hhas : (p.append p.scriptName value).has Directive.scriptSrc =
      p.has Directive.scriptSrc := by
    rw [has_append, hname]
    cases p.has Directive.scriptSrc <;> decide
  rw [scriptName, effectiveName, hhas, ← effectiveName, ← scriptName]

theorem addsEval_append (p : Policy) :
    p.AddsEval (p.append p.scriptName Keyword.unsafeEval) := by
  refine ⟨p.scriptValues, [], (List.append_nil _).symm, ?_⟩
  rw [scriptValues, effectiveValues, ← scriptName, scriptName_append, values_append_self]
  rfl

end Policy

namespace Check

def IsJudged (value : String) : Prop :=
  value = Keyword.self ∨
    Source.isQuoted value = false ∧ '.' ∈ value.toList ∧ Source.isUrlScheme value = false

instance : DecidablePred IsJudged := fun value =>
  inferInstanceAs (Decidable (value = Keyword.self ∨
    Source.isQuoted value = false ∧ '.' ∈ value.toList ∧ Source.isUrlScheme value = false))

theorem isJudged_iff {value : String} :
    IsJudged value ↔ value = Keyword.self ∨ isHostLike value = true := by
  rw [IsJudged, isHostLike, Bool.and_eq_true, Bool.and_eq_true, Bool.not_eq_true',
    Bool.not_eq_true', List.contains_iff_mem, and_assoc, and_comm (a := _ = false) (b := _ ∈ _)]

def about (f : Finding) : Topic × String × Option String := (f.topic, f.directive, f.value)

/-- The second finding is about the same value and is no milder. -/
structure Escalates (f g : Finding) : Prop where
  value : g.value = f.value
  severity : g.severity = f.severity ∨ f.severity = .mediumMaybe ∧ g.severity = .high

theorem forall₂_flatMap {α : Type} {g h : α → List Finding}
    (hgh : ∀ a, List.Forall₂ Escalates (g a) (h a)) (l : List α) :
    List.Forall₂ Escalates (l.flatMap g) (l.flatMap h) := by
  induction l with
  | nil => exact .nil
  | cons a r ih =>
    rw [List.flatMap_cons, List.flatMap_cons]
    exact List.rel_append (hgh a) ih

/-- What is told of a source, given the places of both kinds that it was found to allow. -/
structure IsVerdict (b : BypassLists) (p : Policy) (value : String) (jsonp angular : Option Url)
    (f : Finding) : Prop where
  about : about f = (.scriptAllowlistBypass, p.scriptName, some value)
  severity : f.severity =
    if (usableJsonp b p.scriptValues jsonp).isSome || angular.isSome then .high else .mediumMaybe

theorem bypassesOf_self (b : BypassLists) (p : Policy) :
    bypassesOf b p Keyword.self = [⟨.scriptAllowlistBypass, .mediumMaybe, p.scriptName,
      some Keyword.self,
      "'self' can be problematic if you host JSONP, Angular or user uploaded files."⟩] := by
  simp [bypassesOf, told, scriptValueBypass]

theorem bypassesOf_of_unjudged (b : BypassLists) (p : Policy) {value : String}
    (h : ¬ IsJudged value) : bypassesOf b p value = [] := by
  rw [isJudged_iff, not_or, Bool.not_eq_true] at h
  simp [bypassesOf, told, scriptValueBypass, h.1, h.2]

/-- Where `eval` is allowed every callback runs. -/
theorem usableJsonp_of_eval (b : BypassLists) {values : List String}
    (h : Keyword.unsafeEval ∈ values) (jsonp : Option Url) : usableJsonp b values jsonp = jsonp := by
  cases jsonp <;> simp [usableJsonp, h]

section Texts

variable {b : BypassLists} (hb : b.AllTexts)
include hb

/-- The places that a source is found to allow depend on the lists alone, so two policies have the
same before them. -/
theorem exists_isVerdict {value : String} (hh : isHostLike value = true) :
    ∃ jsonp angular, ∀ p, ∃ f, bypassesOf b p value = [f] ∧
      IsVerdict b p value jsonp angular f := by
  obtain ⟨jsonp, hjsonp⟩ : ∃ u, Source.firstMatch value b.jsonpUrls = .ok u :=
    hb.exists_ok fun _ => BypassLists.blames_of_firstMatch_error (by simp [BypassLists.urls])
  obtain ⟨angular, hangular⟩ : ∃ u, Source.firstMatch value b.angularUrls = .ok u :=
    hb.exists_ok fun _ => BypassLists.blames_of_firstMatch_error (by simp [BypassLists.urls])
  refine ⟨jsonp, angular, fun p => ?_⟩
  obtain ⟨f, hf, hseverity⟩ := exists_verdict hh hjsonp hangular p
  obtain ⟨htopic, hdirective, hvalue⟩ :=
    about_of_scriptValueBypass (scriptValueBypass_eq_ok hb p value) f (by simp [hf])
  exact ⟨f, hf, by rw [about, htopic, hdirective, hvalue], hseverity⟩

/-- What the verdicts are about does not depend on the lists. -/
theorem map_about_bypassesOf (p : Policy) (value : String) :
    (bypassesOf b p value).map about =
      if IsJudged value then [(.scriptAllowlistBypass, p.scriptName, some value)] else [] := by
  by_cases hs : value = Keyword.self
  · rw [if_pos (.inl hs), hs, bypassesOf_self]
    rfl
  cases hh : isHostLike value with
  | true =>
    obtain ⟨jsonp, angular, hverdict⟩ := exists_isVerdict hb hh
    obtain ⟨f, hf, hv⟩ := hverdict p
    rw [if_pos (isJudged_iff.2 (.inr hh)), hf, List.map_singleton, hv.about]
  | false =>
    have hnot : ¬ IsJudged value := fun h => (isJudged_iff.1 h).elim hs (by simp [hh])
    rw [if_neg hnot, bypassesOf_of_unjudged b p hnot, List.map_nil]

theorem map_about_flatMap (p : Policy) (vs : List String) :
    (vs.flatMap (bypassesOf b p)).map about =
      (vs.filter IsJudged).map fun value => (.scriptAllowlistBypass, p.scriptName, some value) := by
  induction vs with
  | nil => rfl
  | cons value r ih =>
    rw [List.flatMap_cons, List.map_append, ih, map_about_bypassesOf hb]
    by_cases h : IsJudged value <;> simp [h]

/-- With `eval` all callbacks run that ran without it. -/
theorem forall₂_bypassesOf (p : Policy) {q : Policy} (hq : Keyword.unsafeEval ∈ q.scriptValues)
    (value : String) : List.Forall₂ Escalates (bypassesOf b p value) (bypassesOf b q value) := by
  by_cases hs : value = Keyword.self
  · rw [hs, bypassesOf_self, bypassesOf_self]
    exact .cons ⟨rfl, .inl rfl⟩ .nil
  cases hh : isHostLike value with
  | true =>
    obtain ⟨jsonp, angular, hverdict⟩ := exists_isVerdict hb hh
    obtain ⟨f, hf, hfv⟩ := hverdict p
    obtain ⟨g, hg, hgv⟩ := hverdict q
    rw [hf, hg]
    have hvalue : g.value = f.value := by
      have hgvalue : g.value = some value := congrArg (·.2.2) hgv.about
      have hfvalue : f.value = some value := congrArg (·.2.2) hfv.about
      rw [hgvalue, hfvalue]
    refine .cons ⟨hvalue, ?_⟩ .nil
    rw [hfv.severity, hgv.severity, usableJsonp_of_eval b hq]
    cases angular with
    | some u => simp
    | none =>
      cases jsonp with
      | none => exact .inl rfl
      | some u => cases (usableJsonp b p.scriptValues (some u)).isSome <;> simp
  | false =>
    have hnot : ¬ IsJudged value := fun h => (isJudged_iff.1 h).elim hs (by simp [hh])
    rw [bypassesOf_of_unjudged b p hnot, bypassesOf_of_unjudged b q hnot]
    exact .nil

/-- Each place that a policy allows gets one verdict and nothing else gets any. With `eval` the same
values get one, in the same order, and a verdict can only get worse. -/
theorem verdicts_escalate {p : Policy} (hn : Keyword.none ∉ p.scriptValues) :
    ∃ fs, scriptAllowlistBypass b p = .ok fs ∧
      fs.map about = (p.scriptValues.filter IsJudged).map
        (fun value => (.scriptAllowlistBypass, p.scriptName, some value)) ∧
      ∀ q, p.AddsEval q → ∃ gs, scriptAllowlistBypass b q = .ok gs ∧
        List.Forall₂ Escalates fs gs := by
  refine ⟨p.scriptValues.flatMap (bypassesOf b p), ?_, map_about_flatMap hb p _, ?_⟩
  · rw [scriptAllowlistBypass_eq_ok hb, if_neg hn]
  · intro q hq
    have hquiet : bypassesOf b q Keyword.unsafeEval = [] :=
      bypassesOf_of_unjudged b q (by decide)
    have hnone : Keyword.none ∉ q.scriptValues := by
      rw [hq.mem_iff, not_or]
      exact ⟨by decide, hn⟩
    refine ⟨q.scriptValues.flatMap (bypassesOf b q), ?_, ?_⟩
    · rw [scriptAllowlistBypass_eq_ok hb, if_neg hnone]
    · rw [hq.flatMap_eq hquiet]
      exact forall₂_flatMap (forall₂_bypassesOf hb p (hq.mem_iff.2 (.inl rfl))) _

end Texts

def placesExample : Policy := .parse "script-src 'self' *.example.com b.c https: 'nonce-a.b' localhost"

/- The callbacks of the place that the wildcard allows wait for `eval`, and no search gets past the
   entry that cannot be taken apart. -/
def placesLists : BypassLists :=
  .ofStrings ["//a.example.com/x", "//["] ["//[", "//b.c"] [] ["a.example.com"]

theorem verdicts_escalate_placesExample :
    Keyword.none ∉ placesExample.scriptValues ∧
      ∃ fs, scriptAllowlistBypass placesLists placesExample = .ok fs ∧
        fs.map (·.value) = [some "'self'", some "*.example.com", some "b.c"] ∧
        fs.map (·.severity) = [.mediumMaybe, .mediumMaybe, .mediumMaybe] ∧
        ∃ gs, scriptAllowlistBypass placesLists
            (placesExample.append placesExample.scriptName Keyword.unsafeEval) = .ok gs ∧
          List.Forall₂ Escalates fs gs ∧
          gs.map (·.severity) = [.mediumMaybe, .high, .mediumMaybe] := by
  have hb : placesLists.AllTexts := ⟨_, _, _, _, rfl⟩
  have hn : Keyword.none ∉ placesExample.scriptValues := by decide +kernel
  have hbefore : (told (scriptAllowlistBypass placesLists placesExample)).map
        (fun f => (f.value, f.severity)) =
      [(some "'self'", .mediumMaybe), (some "*.example.com", .mediumMaybe),
        (some "b.c", .mediumMaybe)] := by decide +kernel
  have hafter : (told (scriptAllowlistBypass placesLists
        (placesExample.append placesExample.scriptName Keyword.unsafeEval))).map (·.severity) =
      [.mediumMaybe, .high, .mediumMaybe] := by decide +kernel
  obtain ⟨fs, hfs, -, hescalate⟩ := verdicts_escalate hb hn
  obtain ⟨gs, hgs, hrel⟩ := hescalate _ placesExample.addsEval_append
  rw [hfs] at hbefore
  rw [hgs] at hafter
  refine ⟨hn, fs, hfs, ?_, ?_, gs, hgs, hrel, hafter⟩
  · have hvalues := congrArg (List.map Prod.fst) hbefore
    rwa [List.map_map] at hvalues
  · have hseverities := congrArg (List.map Prod.snd) hbefore
    rwa [List.map_map] at hseverities

end Check

end ContentPolicy
