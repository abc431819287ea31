import ContentPolicy.Session
import ContentPolicy.Proofs.Memory
import ContentPolicy.Proofs.Running

/-!
Checks that edit what they are given, or break off, do not reach each other's side.
-/

namespace ContentPolicy

namespace Collection

/-- What is ignored of the policies, and then a segment for each check. -/
def report (parsed effective : List Check) (v : Version) (c : Collection) : List Finding :=
  c.ignoredFindings v ++ (Check.segments parsed c).flatten ++
    (Check.segments effective (c.effective v)).flatten

theorem evaluateWith_eq (parsed effective : List Check) (v : Version) (c : Collection) :
    (c.evaluateWith parsed effective v).findings = c.report parsed effective v ∧
      (c.evaluateWith parsed effective v).after = Check.left parsed c := by
  obtain ⟨hparsed, hafter⟩ := Check.runAll_eq parsed c
  obtain ⟨heffective, -⟩ := Check.runAll_eq effective (c.effective v)
  simp only [evaluateWith, hparsed, hafter, heffective, report, and_self]

end Collection

namespace Memory

variable {m m' : Memory} {r : Nat} {ks : List Check} {fss : List (List Finding)}

/-- The checks run on what is at `r`. Each edits it in place, to what it says that it leaves. -/
inductive RunsAt (r : Nat) : List Check → Memory → List (List Finding) → Memory → Prop where
  | done (m : Memory) : RunsAt r [] m [] m
  | check {k : Check} {ks : List Check} {m m' m'' : Memory} {fss : List (List Finding)}
      (hedit : EditedAt r m m') (hafter : m'.collectionAt r = (k.run (m.collectionAt r)).after)
      (hrest : RunsAt r ks m' fss m'') :
      RunsAt r (k :: ks) m ((k.guarded (m.collectionAt r)).findings :: fss) m''

/-- In memory the checks find what they find on values. -/
theorem RunsAt.eq_segments (h : RunsAt r ks m fss m') (hl : m.Live r) :
    EditedAt r m m' ∧ fss = Check.segments ks (m.collectionAt r) ∧
      m'.collectionAt r = Check.left ks (m.collectionAt r) := by
  induction h with
  | done m => exact ⟨.refl hl, rfl, rfl⟩
  | check hedit hafter _ ih =>
    obtain ⟨hedits, hsegments, hleft⟩ := ih hedit.live
    refine ⟨hedit.trans hedits, ?_, ?_⟩
    · rw [Check.segments_cons, Check.findings_guarded, hsegments, hafter]
    · rw [hleft, hafter, Check.left_cons]

/-- Whatever the checks do, there is a run of them. -/
theorem exists_runsAt (hl : m.Live r) (ks : List Check) : ∃ fss m', RunsAt r ks m fss m' := by
  induction ks generalizing m with
  | nil => exact ⟨[], m, .done m⟩
  | cons k ks ih =>
    obtain ⟨m', hedit, hafter⟩ := exists_editedAt hl (k.run (m.collectionAt r)).after
    obtain ⟨fss, m'', hrest⟩ := ih hedit.live
    exact ⟨_, m'', .check hedit hafter hrest⟩

/-- An evaluation of what is at `r`. The resolver edits a copy to what is enforced; then the checks
of the written policies run on the original, and those of the enforced ones on the copy. -/
inductive EvaluatesAt (parsed effective : List Check) (v : Version) (r : Nat) (m : Memory) :
    List Finding → Memory → Prop where
  | evaluated {copied resolved checked m' : Memory} {e : Nat} {ps es : List (List Finding)}
      (hcopy : m.copy r = (copied, e)) (hresolve : EditedAt e copied resolved)
      (hresolved : resolved.collectionAt e = (copied.collectionAt e).effective v)
      (hparsed : RunsAt r parsed resolved ps checked)
      (heffective : RunsAt e effective checked es m') :
      EvaluatesAt parsed effective v r m
        ((m.collectionAt r).ignoredFindings v ++ ps.flatten ++ es.flatten) m'

variable {parsed effective : List Check} {v : Version} {fs : List Finding}

theorem exists_evaluatesAt (hl : m.Live r) (parsed effective : List Check) (v : Version) :
    ∃ fs m', EvaluatesAt parsed effective v r m fs m' := by
  obtain ⟨copied, e, hcopy, hext, hnew, -⟩ := copy_spec m r
  have hcopied := hext.apart hl hnew
  obtain ⟨resolved, hresolve, hresolved⟩ :=
    exists_editedAt hcopied.live_right ((copied.collectionAt e).effective v)
  have hapart := (hresolve.apart hcopied.symm).symm
  obtain ⟨ps, checked, hparsed⟩ := exists_runsAt hapart.live_left parsed
  have hchecked := (hparsed.eq_segments hapart.live_left).1.apart hapart
  obtain ⟨es, m', heffective⟩ := exists_runsAt hchecked.live_right effective
  exact ⟨_, m', .evaluated hcopy hresolve hresolved hparsed heffective⟩

/-- The original and the copy are apart from the start, and no work on either changes that or what
the other says. -/
theorem EvaluatesAt.eq_report (h : EvaluatesAt parsed effective v r m fs m') (hl : m.Live r) :
    fs = (m.collectionAt r).report parsed effective v ∧
      m'.collectionAt r = Check.left parsed (m.collectionAt r) := by
  cases h with
  | @evaluated copied resolved checked _ e ps es hcopy hresolve hresolved hparsed heffective =>
    obtain ⟨copied', e', hcopy', hext, hnew, hsays⟩ := copy_spec m r
    obtain ⟨rfl, rfl⟩ := Prod.mk.inj (hcopy.symm.trans hcopy')
    have hcopied := hext.apart hl hnew
    have hwritten : resolved.collectionAt r = m.collectionAt r := by
      rw [(hresolve.sameFrom hcopied.symm).collectionAt, (hext.sameFrom hl).collectionAt]
    have hapart := (hresolve.apart hcopied.symm).symm
    obtain ⟨hedits, hps, hleft⟩ := hparsed.eq_segments hapart.live_left
    have henforced : checked.collectionAt e = (m.collectionAt r).effective v := by
      rw [(hedits.sameFrom hapart).collectionAt, hresolved, hsays]
    have hchecked := hedits.apart hapart
    obtain ⟨heedits, hes, -⟩ := heffective.eq_segments hchecked.live_right
    refine ⟨?_, ?_⟩
    · rw [hps, hes, hwritten, henforced, Collection.report]
    · rw [(heedits.sameFrom hchecked.symm).collectionAt, hleft, hwritten]

end Memory

def Evaluator.chosenParsed (e : Evaluator) (checks : Session.Checks) : List Check :=
  (checks.map (· e.bypasses)).getD Check.parsedChecks

def Evaluator.chosenEffective (e : Evaluator) (checks : Session.Checks) : List Check :=
  (checks.map (· e.bypasses)).getD (Check.effectiveChecks e.bypasses)

namespace Session

variable {s : Session} {name : String} {e : Evaluator} {c : Collection}

section Evaluate

variable (he : s.evaluators.lookup name = some e) (hc : s.store[e.collection]? = some c)
  (parsed effective : Checks)
include he hc

/-- What an evaluator told before it tells no more. -/
theorem evaluate_eq :
    (s.evaluate name parsed effective).reply = .ok (.evaluated e.findings.length
      (c.report (e.chosenParsed parsed) (e.chosenEffective effective) e.version)) ∧
    (s.evaluate name parsed effective).session.evaluators.lookup name = some { e with
      findings := c.report (e.chosenParsed parsed) (e.chosenEffective effective) e.version } ∧
    (s.evaluate name parsed effective).session.store[e.collection]? =
      some (Check.left (e.chosenParsed parsed) c) := by
  have hchosen : s.evaluate name parsed effective =
      let result := c.evaluateWith (e.chosenParsed parsed) (e.chosenEffective effective) e.version
      let after := s.assign e.collection result.after
      ⟨.ok (.evaluated e.findings.length result.findings), result.events, { after with
        evaluators := (name, { e with findings := result.findings }) :: s.evaluators }⟩ := by
    cases parsed <;> cases effective <;> simp only [evaluate, he, hc] <;> rfl
  obtain ⟨hfindings, hafter⟩ :=
    c.evaluateWith_eq (e.chosenParsed parsed) (e.chosenEffective effective) e.version
  have hlt : e.collection < s.store.length := (List.getElem?_eq_some_iff.1 hc).1
  simp only [hchosen, hfindings, hafter, assign, List.lookup_cons_self,
    List.getElem?_set_self hlt, and_self]

end Evaluate

def evaluateAll (s : Session) (name : String) (rounds : List (Checks × Checks)) : Session :=
  rounds.foldl (fun s r => (s.evaluate name r.1 r.2).session) s

/-- Of earlier rounds only the edits on the written policies are left. -/
theorem evaluateAll_eq (he : s.evaluators.lookup name = some e)
    (hc : s.store[e.collection]? = some c) (rounds : List (Checks × Checks)) :
    ∃ fs, (s.evaluateAll name rounds).evaluators.lookup name = some { e with findings := fs } ∧
      (s.evaluateAll name rounds).store[e.collection]? =
        some (Check.left (rounds.flatMap fun r => e.chosenParsed r.1) c) := by
  induction rounds generalizing s e c with
  | nil => exact ⟨e.findings, he, hc⟩
  | cons r rounds ih =>
    obtain ⟨-, hlookup, hstore⟩ := evaluate_eq he hc r.1 r.2
    have hrest := ih hlookup hstore
    rw [List.flatMap_cons, Check.left_append]
    exact hrest

end Session

namespace Collection

/-- An evaluation tells what is ignored of the policies as they were, and then one segment for each
check; the segments of the checks on the enforced policies are the same whatever the other checks
do. So it is where all edits are made in place in one memory and the enforced policies are a copy,
and so it is with each later evaluation: of the earlier ones it sees only what their checks have
left of the written policies. -/
theorem checks_isolated :
    (∀ (parsed effective : List Check) (v : Version) (c : Collection),
      (c.evaluateWith parsed effective v).findings = c.report parsed effective v ∧
        (c.evaluateWith parsed effective v).after = Check.left parsed c) ∧
    (∀ (parsed effective : List Check) (v : Version) (m : Memory) (r : Nat), m.Live r →
      (∃ fs m', m.EvaluatesAt parsed effective v r fs m') ∧
      ∀ fs m', m.EvaluatesAt parsed effective v r fs m' →
        fs = (m.collectionAt r).report parsed effective v ∧
          m'.collectionAt r = Check.left parsed (m.collectionAt r)) ∧
    ∀ (s : Session) (name : String) (e : Evaluator) (c : Collection),
      s.evaluators.lookup name = some e → s.store[e.collection]? = some c →
      ∀ (rounds : List (Session.Checks × Session.Checks)) (parsed effective : Session.Checks),
        ∃ before, ((s.evaluateAll name rounds).evaluate name parsed effective).reply =
          .ok (.evaluated before
            ((Check.left (rounds.flatMap fun r => e.chosenParsed r.1) c).report
              (e.chosenParsed parsed) (e.chosenEffective effective) e.version)) := by
  refine ⟨evaluateWith_eq, fun parsed effective v m r hl => ⟨?_, fun fs m' h => h.eq_report hl⟩,
    fun s name e c he hc rounds parsed effective => ?_⟩
  · exact Memory.exists_evaluatesAt hl parsed effective v
  · obtain ⟨fs, hlookup, hstore⟩ := Session.evaluateAll_eq he hc rounds
    exact ⟨_, (Session.evaluate_eq hlookup hstore parsed effective).1⟩

def vandal : Check where
  name := "vandal"
  run _ := ⟨[⟨.unknownDirective, .high, "img-src", none, "found"⟩], some (.reported "tired"), []⟩

def census : Check where
  name := "census"
  run c := ⟨c.flatMap fun p => p.names.map fun name => ⟨.unknownDirective, .info, name, none, ""⟩,
    none, c⟩

def sharedExample : Memory := [
  .values ["'self'"], .directives [("img-src", 0), ("font-src", 0)] (by decide), .policy 1,
  .collection [2, 2]]

def sharedEvaluator : Evaluator := ⟨0, .csp3, .ofStrings [] [] [] [], []⟩

def sharedSession : Session :=
  { Session.start with
    store := [sharedExample.collectionAt 3]
    evaluators := [("twice", sharedEvaluator)] }

theorem checks_isolated_sharedExample :
    sharedExample.Live 3 ∧
    (∃ fs m', sharedExample.EvaluatesAt [vandal, census] [census] .csp3 3 fs m' ∧
      fs.map (fun f => (f.topic, f.directive, f.value)) = [
        (.internalError, "", some "vandal"), (.unknownDirective, "img-src", none),
        (.unknownDirective, "font-src", none), (.unknownDirective, "img-src", none),
        (.unknownDirective, "font-src", none)] ∧
      m'.collectionAt 3 = []) ∧
    ∃ before, ((sharedSession.evaluateAll "twice" [(some fun _ => [vandal], none)]).evaluate "twice"
      (some fun _ => [census]) (some fun _ => [])).reply = .ok (.evaluated before []) := by
  have hl : sharedExample.Live 3 := Memory.live_of_forall (by decide) (by decide)
  obtain ⟨-, hmemory, hsession⟩ := checks_isolated
  obtain ⟨⟨fs, m', h⟩, hall⟩ := hmemory [vandal, census] [census] .csp3 sharedExample 3 hl
  obtain ⟨hfs, hm'⟩ := hall fs m' h
  refine ⟨hl, ⟨fs, m', h, ?_, ?_⟩, ?_⟩
  · rw [hfs]
    decide +kernel
  · rw [hm']
    rfl
  · have hcollection : sharedSession.store[sharedEvaluator.collection]? =
        some (sharedExample.collectionAt 3) := rfl
    obtain ⟨before, hreply⟩ := hsession sharedSession "twice" sharedEvaluator _ rfl hcollection
      [(some fun _ => [vandal], none)] (some fun _ => [census]) (some fun _ => [])
    exact ⟨before, hreply⟩

end Collection

end ContentPolicy
