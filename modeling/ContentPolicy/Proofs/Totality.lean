import ContentPolicy.Proofs.Kinds
import ContentPolicy.Proofs.PerPolicy

/-!
The checks come to an end, whatever the policies hold; only an entry that is no text breaks one off.
-/

namespace ContentPolicy

namespace Check

/-- A check that breaks off blames an entry of the lists. -/
theorem blames_of_fault {b : BypassLists} : ∀ k ∈ parsedChecks ++ effectiveChecks b,
    ∀ c f, (k.run c).fault = some f → b.Blames f := by
  have look (name : String) (g : Collection → List Finding) :
      ∀ c f, ((ofFindings name g).run c).fault = some f → b.Blames f := fun _ _ => nofun
  have each (name : String) (g : Policy → List Finding) :
      ∀ c f, ((perPolicy name g).run c).fault = some f → b.Blames f := look name _
  have search (name : String) {g : Policy → Except Fault (List Finding)}
      (h : ∀ p f, g p = .error f → b.Blames f) :
      ∀ c f, ((ofResult name (gather g)).run c).fault = some f → b.Blames f := by
    intro c f hf
    cases hg : gather g c with
    | ok fs => simp [ofResult, hg] at hf
    | error e =>
      obtain ⟨p, -, hp⟩ := exists_of_gather_error hg
      simp only [ofResult, hg, Option.some.injEq] at hf
      exact hf ▸ h p e hp
  simp only [parsedChecks, grammarChecks, strictChecks, effectiveChecks, List.cons_append,
    List.nil_append, List.forall_mem_cons]
  refine ⟨each _ _, each _ _, each _ _, each _ _, each _ _, each _ _, each _ _, look _ _,
    each _ _, each _ _, each _ _, each _ _, each _ _,
    search _ fun _ _ => blames_of_scriptAllowlistBypass_error,
    search _ fun _ _ => blames_of_objectAllowlistBypass_error,
    each _ _, each _ _, each _ _, each _ _, ?_⟩
  exact fun k hk => absurd hk List.not_mem_nil

theorem onlyLooks_of_mem {b : BypassLists} {k : Check} (hk : k ∈ parsedChecks ++ effectiveChecks b) :
    k.OnlyLooks := by
  cases List.mem_append.1 hk with
  | inl hk => exact onlyLooks_parsedChecks k hk
  | inr hk => exact onlyLooks_effectiveChecks b k hk

/-- What is told of a failure is told of some check of the row, on the policies that it got. -/
theorem exists_of_checkFailed_mem {ks : List Check} {c : Collection} {name : String} {f : Fault}
    (h : .checkFailed name f ∈ (runAll ks c).events) :
    ∃ k ∈ ks, ∃ d, k.name = name ∧ (k.run d).fault = some f := by
  induction ks generalizing c with
  | nil => cases h
  | cons k r ih =>
    cases List.mem_append.1 h with
    | inl hk =>
      refine ⟨k, List.mem_cons_self, c, ?_⟩
      cases hf : (k.run c).fault with
      | none => simp [guarded, hf] at hk
      | some e =>
        simp only [guarded, hf, List.mem_singleton, Event.checkFailed.injEq] at hk
        exact ⟨hk.1.symm, by rw [hk.2]⟩
    | inr hr =>
      obtain ⟨j, hj, hd⟩ := ih hr
      exact ⟨j, List.mem_cons_of_mem k hj, hd⟩

section Texts

variable {b : BypassLists} (hb : b.AllTexts)
include hb

/-- Every check ends on every collection. -/
theorem run_total : ∀ k ∈ parsedChecks ++ effectiveChecks b,
    ∀ c, ∃ fs, k.run c = ⟨fs, none, c⟩ := by
  intro k hk c
  have hfault : (k.run c).fault = none := by
    rw [Option.eq_none_iff_forall_not_mem]
    exact fun f hf => hb.not_blames (blames_of_fault k hk c f hf)
  have hafter := onlyLooks_of_mem hk c
  generalize k.run c = o at hfault hafter
  cases o
  cases hfault
  cases hafter
  exact ⟨_, rfl⟩

/-- A search that finds all its entries to be texts says nothing about itself. -/
theorem filter_internalError_search (name : String) {g : Policy → Except Fault (List Finding)}
    {kinds : List (Topic × Severity)} (h : ∀ p f, g p = .error f → b.Blames f)
    (ht : ∀ p fs, g p = .ok fs → Tells kinds fs)
    (hk : ∀ k ∈ kinds, (k.1 == Topic.internalError) = false) (c : Collection) :
    ((ofResult name (gather g)).guarded c).findings.filter (·.topic == .internalError) = [] := by
  have hg : gather g c = .ok (c.flatMap fun p => told (g p)) :=
    gather_total fun p _ => hb.exists_ok (h p)
  have htold : Tells kinds (c.flatMap fun p => told (g p)) :=
    tells_gather (fun p _ => ht p) _ hg
  rw [findings_ofResult_of_ok hg]
  exact filter_eq_nil_of_tells (· == .internalError) htold hk

end Texts

end Check

namespace Collection

theorem filter_internalError_evaluate {b : BypassLists} (hb : b.AllTexts) (v : Version)
    (c : Collection) : (c.evaluate v b).findings.filter (·.topic == .internalError) = [] := by
  have hparsed : Check.speakers (· == .internalError) Check.parsedChecks Check.parsedKindsEach =
      [] := rfl
  have heffective : Check.speakers (· == .internalError) (Check.effectiveChecks b)
      Check.effectiveKindsEach = [
        .ofResult "check_script_allowlist_bypass" (Check.gather (Check.scriptAllowlistBypass b)),
        .ofResult "check_flash_object_allowlist_bypass"
          (Check.gather (Check.objectAllowlistBypass b))] := rfl
  have hscript := Check.filter_internalError_search hb "check_script_allowlist_bypass"
    (fun _ _ => Check.blames_of_scriptAllowlistBypass_error)
    (Check.tells_scriptAllowlistBypass b) (by decide) (c.effective v)
  have hobject := Check.filter_internalError_search hb "check_flash_object_allowlist_bypass"
    (fun _ _ => Check.blames_of_objectAllowlistBypass_error)
    (Check.tells_objectAllowlistBypass b) (by decide) (c.effective v)
  rw [filter_topic_evaluate (· == .internalError), hparsed, heffective, List.flatMap_cons,
    List.flatMap_cons, hscript, hobject]
  rfl

/-- With texts in the lists, each check of the library comes to its end on any policies and leaves
them as they are, so an evaluation never tells of a check that broke off. -/
theorem evaluate_without_failures {b : BypassLists} (hb : b.AllTexts) (v : Version)
    (c : Collection) :
    (∀ k ∈ Check.parsedChecks ++ Check.effectiveChecks b, ∀ d, ∃ fs, k.run d = ⟨fs, none, d⟩) ∧
      (∀ f ∈ (c.evaluate v b).findings, f.topic ≠ .internalError) ∧
      ∀ name f, .checkFailed name f ∉ (c.evaluate v b).events := by
  refine ⟨Check.run_total hb, fun f hf ht => ?_, fun name f hm => ?_⟩
  · have hin : f ∈ (c.evaluate v b).findings.filter (·.topic == .internalError) :=
      List.mem_filter.2 ⟨hf, by simp [ht]⟩
    rw [filter_internalError_evaluate hb] at hin
    cases hin
  · have hnot {ks : List Check} {d : Collection}
        (hks : ks ⊆ Check.parsedChecks ++ Check.effectiveChecks b) :
        .checkFailed name f ∉ (Check.runAll ks d).events := by
      intro h
      obtain ⟨k, hk, e, -, hfault⟩ := Check.exists_of_checkFailed_mem h
      exact hb.not_blames (Check.blames_of_fault k (hks hk) e f hfault)
    simp only [evaluate, evaluateWith, List.mem_append, List.mem_singleton] at hm
    rcases hm with ((hm | hm) | hm) | hm
    · simp [ignoredEvents, Policy.ignoredEvents] at hm
    · exact hnot (List.subset_append_left _ _) hm
    · exact hnot (List.subset_append_right _ _) hm
    · cases hm

def brokenPlaces : BypassLists :=
  .ofStrings ["//[", "//[v1.x"] ["//[1.2.3.4]/"] ["//\u2100.example.com"] ["]"]

def brokenExample : Collection := [{
  directives := [
    ("script-src", ["a].b", "[fe80::1%25eth0].c", "\u2100.example.com", "*.[v1.x]"]),
    ("object-src", ["[::1%]", "cdn.example.com:port"])]
  nodup_names := by decide }]

theorem evaluate_without_failures_brokenExample :
    brokenPlaces.AllTexts ∧ Source.url? "a].b" = none ∧ Source.url? "\u2100.example.com" = none ∧
      (∀ f ∈ (brokenExample.evaluate .csp1 brokenPlaces).findings, f.topic ≠ .internalError) ∧
      (brokenExample.evaluate .csp1 brokenPlaces).findings.countP
        (·.topic == .scriptAllowlistBypass) = 4 := by
  have hb : brokenPlaces.AllTexts := ⟨_, _, _, _, rfl⟩
  refine ⟨hb, by decide +kernel, by decide +kernel,
    (evaluate_without_failures hb .csp1 brokenExample).2.1, ?_⟩
  decide +kernel

end Collection

end ContentPolicy
