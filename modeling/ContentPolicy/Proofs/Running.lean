import ContentPolicy.Evaluation

/-!
A run is a row of segments, one for each check.
-/

namespace ContentPolicy

namespace Check

/-- What a check adds to a report: its findings or, if it breaks off after any number of them, one
about itself. -/
def segment (k : Check) (c : Collection) : List Finding :=
  match (k.run c).fault with
  | none => (k.run c).findings
  | some _ => [⟨.internalError, .info, "", some k.name,
      "The check " ++ k.name ++ " failed unexpectedly."⟩]

def left (ks : List Check) (c : Collection) : Collection :=
  ks.foldl (fun c k => (k.run c).after) c

def segments (ks : List Check) (c : Collection) : List (List Finding) :=
  ks.mapIdx fun i k => k.segment (left (ks.take i) c)

theorem left_cons (k : Check) (ks : List Check) (c : Collection) :
    left (k :: ks) c = left ks (k.run c).after := rfl

theorem left_append (ks ls : List Check) (c : Collection) :
    left (ks ++ ls) c = left ls (left ks c) := List.foldl_append

theorem segments_cons (k : Check) (ks : List Check) (c : Collection) :
    segments (k :: ks) c = k.segment c :: segments ks (k.run c).after := by
  rw [segments, List.mapIdx_cons]
  rfl

theorem findings_guarded (k : Check) (c : Collection) : (k.guarded c).findings = k.segment c := by
  rw [guarded, segment]
  cases (k.run c).fault <;> rfl

theorem after_guarded (k : Check) (c : Collection) : (k.guarded c).after = (k.run c).after := by
  rw [guarded]
  cases (k.run c).fault <;> rfl

/-- A run is a row of segments, one for each check. -/
theorem runAll_eq (ks : List Check) (c : Collection) :
    (runAll ks c).findings = (segments ks c).flatten ∧ (runAll ks c).after = left ks c := by
  induction ks generalizing c with
  | nil => exact ⟨rfl, rfl⟩
  | cons k r ih =>
    obtain ⟨hfindings, hafter⟩ := ih (k.run c).after
    simp only [runAll, after_guarded, findings_guarded, hfindings, hafter, segments_cons,
      left_cons, List.flatten_cons, and_self]

def OnlyLooks (k : Check) : Prop := ∀ c, (k.run c).after = c

theorem onlyLooks_ofResult (name : String) (f : Collection → Except Fault (List Finding)) :
    (ofResult name f).OnlyLooks := by
  intro c
  simp only [ofResult]
  cases f c <;> rfl

/-- If all checks only look, each of them is given the same policies. -/
theorem segments_of_onlyLooks {ks : List Check} (h : ∀ k ∈ ks, k.OnlyLooks) (c : Collection) :
    segments ks c = ks.map fun k => (k.guarded c).findings := by
  induction ks with
  | nil => rfl
  | cons k r ih =>
    rw [segments_cons, h k List.mem_cons_self c, ih fun k hr => h k (List.mem_cons_of_mem _ hr),
      List.map_cons, findings_guarded]

theorem findings_runAll {ks : List Check} (h : ∀ k ∈ ks, k.OnlyLooks) (c : Collection) :
    (runAll ks c).findings = ks.flatMap fun k => (k.guarded c).findings := by
  rw [(runAll_eq ks c).1, segments_of_onlyLooks h]
  rfl

theorem left_of_onlyLooks {ks : List Check} (h : ∀ k ∈ ks, k.OnlyLooks) (c : Collection) :
    left ks c = c := by
  induction ks with
  | nil => rfl
  | cons k r ih =>
    rw [left_cons, h k List.mem_cons_self c, ih fun k hr => h k (List.mem_cons_of_mem _ hr)]

theorem onlyLooks_parsedChecks : ∀ k ∈ parsedChecks, k.OnlyLooks := by
  simp [parsedChecks, grammarChecks, strictChecks, perPolicy, ofFindings, onlyLooks_ofResult]

theorem onlyLooks_effectiveChecks (b : BypassLists) : ∀ k ∈ effectiveChecks b, k.OnlyLooks := by
  simp [effectiveChecks, perPolicy, ofFindings, onlyLooks_ofResult]

theorem gather_eq_ok {α : Type} {f : α → Except Fault (List Finding)} {g : α → List Finding}
    {l : List α} (h : ∀ a ∈ l, f a = .ok (g a)) : gather f l = .ok (l.flatMap g) := by
  induction l with
  | nil => rfl
  | cons a r ih =>
    simp only [gather, h a List.mem_cons_self, ih fun a ha => h a (List.mem_cons_of_mem _ ha)]
    rfl

theorem gather_map {α β : Type} (f : β → Except Fault (List Finding)) (g : α → β) (l : List α) :
    gather f (l.map g) = gather (fun a => f (g a)) l := by
  induction l with
  | nil => rfl
  | cons a r ih => simp only [List.map_cons, gather, ih]

/-- All that is found is found in some place. -/
theorem exists_of_mem_gather {α : Type} {f : α → Except Fault (List Finding)} {l : List α}
    {fs : List Finding} (h : gather f l = .ok fs) :
    ∀ x ∈ fs, ∃ a ∈ l, ∃ gs, f a = .ok gs ∧ x ∈ gs := by
  induction l generalizing fs with
  | nil =>
    cases h
    exact fun x hx => absurd hx List.not_mem_nil
  | cons a r ih =>
    cases ha : f a with
    | error e => simp [gather, ha] at h
    | ok gs =>
      cases hr : gather f r with
      | error e => simp [gather, ha, hr, Except.map] at h
      | ok rs =>
        simp only [gather, ha, hr, Except.map, Except.ok.injEq] at h
        intro x hx
        rw [← h] at hx
        cases List.mem_append.1 hx with
        | inl hx => exact ⟨a, List.mem_cons_self, gs, ha, hx⟩
        | inr hx =>
          obtain ⟨b, hb, hxb⟩ := ih hr x hx
          exact ⟨b, List.mem_cons_of_mem _ hb, hxb⟩

/-- Nothing is found only where nothing is found in any place and no place has a fault. -/
theorem gather_eq_ok_nil_iff {α : Type} {f : α → Except Fault (List Finding)} {l : List α} :
    gather f l = .ok [] ↔ ∀ a ∈ l, f a = .ok [] := by
  induction l with
  | nil => simp [gather]
  | cons a r ih =>
    rw [List.forall_mem_cons, ← ih, gather]
    cases hf : f a with
    | error e => simp
    | ok fs => cases hg : gather f r <;> simp [Except.map]

theorem findings_perPolicy (name : String) (f : Policy → List Finding) (c : Collection) :
    ((perPolicy name f).guarded c).findings = c.flatMap f := rfl

theorem findings_perPolicy_singleton (name : String) (f : Policy → List Finding) (p : Policy) :
    ((perPolicy name f).guarded [p]).findings = f p := by
  rw [findings_perPolicy, List.flatMap_singleton]

theorem findings_ofResult_of_ok {name : String} {f : Collection → Except Fault (List Finding)}
    {c : Collection} {fs : List Finding} (h : f c = .ok fs) :
    ((ofResult name f).guarded c).findings = fs := by
  simp [guarded, ofResult, h]

theorem findings_ofResult_of_error {name : String}
    {f : Collection → Except Fault (List Finding)} {c : Collection} {e : Fault}
    (h : f c = .error e) : ((ofResult name f).guarded c).findings = [failure name] := by
  simp [guarded, ofResult, h]

theorem findings_ofResult_eq_nil_iff {name : String}
    {f : Collection → Except Fault (List Finding)} {c : Collection} :
    ((ofResult name f).guarded c).findings = [] ↔ f c = .ok [] := by
  cases hf : f c with
  | error e => simp [findings_ofResult_of_error hf]
  | ok fs => simp [findings_ofResult_of_ok hf]

end Check

namespace Collection

theorem findings_evaluate (v : Version) (b : BypassLists) (c : Collection) :
    (c.evaluate v b).findings =
      c.ignoredFindings v ++
        (Check.parsedChecks.flatMap fun k => (k.guarded c).findings) ++
        (Check.effectiveChecks b).flatMap fun k => (k.guarded (c.effective v)).findings := by
  rw [← Check.findings_runAll Check.onlyLooks_parsedChecks,
    ← Check.findings_runAll (Check.onlyLooks_effectiveChecks b)]
  rfl

/-- The checks of this library leave the policies as they are. -/
theorem after_evaluate (v : Version) (b : BypassLists) (c : Collection) :
    (c.evaluate v b).after = c := by
  have hafter := (Check.runAll_eq Check.parsedChecks c).2
  rw [Check.left_of_onlyLooks Check.onlyLooks_parsedChecks] at hafter
  exact hafter

end Collection

end ContentPolicy
