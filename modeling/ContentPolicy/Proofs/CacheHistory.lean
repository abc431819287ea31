import ContentPolicy.CommandLine.Request
import ContentPolicy.Proofs.Caching
import ContentPolicy.Proofs.Isolation

/-!
All who ask for the same headers share one collection while the cache keeps it, and no evaluation
changes it.
-/

namespace ContentPolicy

namespace Session

variable {s t u : Session} {settings : Settings} {headers : List String} {r : Ref}

/-- Edits no collection that is there already. Checks that run on what is enforced get a copy, so
these may do as they like. -/
def Step.OnlyLooks : Step → Prop
  | .addPolicy .. | .append .. | .remove .. | .delete .. | .load .. => False
  | .check _ k => k.OnlyLooks
  | .evaluate _ (some checks) _ => ∀ b, ∀ k ∈ checks b, k.OnlyLooks
  | _ => True

structure Extends (s t : Session) : Prop where
  store : s.store <+: t.store
  parserStore : s.parserStore <+: t.parserStore
  seen : s.seen <+: t.seen
  entries : t.cache.entries = s.cache.entries

theorem Extends.refl (s : Session) : Extends s s :=
  ⟨List.prefix_rfl, List.prefix_rfl, List.prefix_rfl, rfl⟩

theorem Extends.named (h : s.Extends t) (collections : List (String × Ref))
    (evaluators : List (String × Evaluator)) :
    s.Extends { t with collections := collections, evaluators := evaluators } :=
  ⟨h.store, h.parserStore, h.seen, h.entries⟩

theorem HasRead.extends (h : s.HasRead headers r) (he : s.Extends t) : t.HasRead headers r := by
  obtain ⟨cs, hcs⟩ := he.store
  obtain ⟨ps, hps⟩ := he.parserStore
  rw [HasRead, ← hcs, ← hps]
  exact h.append ps cs s.cache

theorem extends_define (name : String) (c : Collection) : s.Extends (s.define name c) :=
  ⟨List.prefix_append _ _, List.prefix_rfl, List.prefix_rfl, rfl⟩

theorem extends_withRef {name : String} {k : Ref → Collection → Answer}
    (h : ∀ r c, s.store[r]? = some c → s.Extends (k r c).session) :
    s.Extends (s.withRef name k).session := by
  unfold withRef
  split
  · exact .refl s
  · split
    case h_1 => exact .refl s
    case h_2 c hc => exact h _ c hc

theorem extends_withParser {name : String} {k : HeaderParser → Answer}
    (h : ∀ p, s.Extends (k p).session) : s.Extends (s.withParser name k).session := by
  unfold withParser
  split
  · exact .refl s
  · exact h _

theorem extends_withPolicy {c : Collection} {index : Int} {k : Nat → Policy → Answer}
    (h : ∀ i p, s.Extends (k i p).session) : s.Extends (s.withPolicy c index k).session := by
  unfold withPolicy
  split
  · exact .refl s
  · split
    · exact .refl s
    · exact h _ _

theorem extends_withVersion {version : Literal} {k : Version → Answer}
    (h : ∀ v, s.Extends (k v).session) : s.Extends (s.withVersion version k).session := by
  unfold withVersion
  split
  · exact .refl s
  · exact h _

/-- Where nothing is stored nothing is read, and nothing is left to store. -/
theorem assign_of_eq_getD {c : Collection} (h : c = (s.store[r]?).getD []) : s.assign r c = s := by
  cases hr : s.store[r]? with
  | none => rw [assign, List.set_eq_of_length_le (List.getElem?_eq_none_iff.1 hr)]
  | some d =>
    rw [hr, Option.getD_some] at h
    exact assign_self (h ▸ hr)

theorem extends_assign {c : Collection} (h : c = (s.store[r]?).getD []) :
    s.Extends (s.assign r c) := by
  rw [assign_of_eq_getD h]
  exact .refl s

theorem extends_number (s : Session) (r : Ref) : s.Extends (s.number r).2 := by
  unfold number
  split
  · exact .refl s
  · exact ⟨List.prefix_rfl, List.prefix_rfl, List.prefix_append _ _, rfl⟩

theorem extends_evaluate {name : String} {parsed effective : Checks}
    (h : (Step.evaluate name parsed effective).OnlyLooks) :
    s.Extends (s.evaluate name parsed effective).session := by
  unfold evaluate
  split
  case h_1 => exact .refl s
  case h_2 e _ =>
    have hlook : ∀ k ∈ e.chosenParsed parsed, k.OnlyLooks := by
      cases parsed with
      | none => exact Check.onlyLooks_parsedChecks
      | some checks => exact h e.bypasses
    have hafter := (((s.store[e.collection]?).getD []).evaluateWith_eq (e.chosenParsed parsed)
      (e.chosenEffective effective) e.version).2
    rw [Check.left_of_onlyLooks hlook] at hafter
    cases parsed <;> cases effective <;> exact (extends_assign hafter).named _ _

theorem session_evaluateHeaders (s : Session) (settings : Settings) (headers : List String)
    (version : Literal) :
    (s.evaluateHeaders settings headers version).session = (s.cachedParser headers).2.2 := by
  unfold evaluateHeaders
  generalize s.cachedParser headers = q
  obtain ⟨r, events, t⟩ := q
  cases settings.complete version none with
  | error e => rfl
  | ok vb => exact assign_of_eq_getD (Collection.after_evaluate _ _ _)

/-- A step that only looks adds to what is stored. If it asks for some headers, then their parser
is in the cache before anything else happens. -/
theorem run_extends (settings : Settings) {step : Step} (h : step.OnlyLooks) :
    s.Extends (s.run settings step).session ∨
      ∃ headers, (s.cachedParser headers).2.2.Extends (s.run settings step).session := by
  cases step with
  | parse name headers => exact .inl (extends_define name _)
  | build name policies => exact .inl (extends_define name _)
  | clone name source => exact .inl (extends_withRef fun _ c _ => extends_define name c)
  | «alias» name source => exact .inl (extends_withRef fun _ _ _ => (Extends.refl s).named _ _)
  | «show» name => exact .inl (extends_withRef fun _ _ _ => .refl s)
  | effective name source version =>
    exact .inl (extends_withRef fun _ c _ => extends_withVersion fun v => extends_define name _)
  | effectivePolicy name index version =>
    exact .inl (extends_withRef fun _ _ _ => extends_withPolicy fun _ _ =>
      extends_withVersion fun _ => .refl s)
  | addPolicy | append | remove | delete | load => exact h.elim
  | equal left right =>
    exact .inl (extends_withRef fun _ _ _ => extends_withRef fun _ _ _ => .refl s)
  | check name check =>
    refine .inl (extends_withRef fun r c hc => ?_)
    have hafter : (check.run c).after = (s.store[r]?).getD [] := by rw [h c, hc, Option.getD_some]
    exact extends_assign hafter
  | newParser name headers =>
    exact .inl ⟨List.prefix_append _ _, List.prefix_append _ _, List.prefix_rfl, rfl⟩
  | split parser => exact .inl (extends_withParser fun _ => .refl s)
  | parseOne parser text => exact .inl (extends_withParser fun _ => .refl s)
  | cached headers name =>
    have hn := extends_number (s.cachedParser headers).2.2 (s.cachedParser headers).1
    refine .inr ⟨headers, ?_⟩
    cases name <;> exact hn.named _ _
  | cacheInfo => exact .inl (.refl s)
  | evaluateHeaders headers version =>
    refine .inr ⟨headers, ?_⟩
    rw [← session_evaluateHeaders s settings headers version]
    exact .refl _
  | newEvaluator evaluator name version bypasses =>
    refine .inl (extends_withRef fun r c _ => ?_)
    split <;> exact (Extends.refl s).named _ _
  | evaluate name parsed effective => exact .inl (extends_evaluate h)

structure Sound (s : Session) : Prop where
  faithful : s.Faithful
  nodup_keys : (s.cache.entries.map Prod.fst).Nodup

theorem sound_of_no_entries (h : s.cache.entries = []) : s.Sound := by
  refine ⟨fun e he => ?_, ?_⟩
  · rw [h] at he
    exact absurd he List.not_mem_nil
  · rw [h]
    exact .nil

/-- Whatever is stored behind it, a sound session stays sound. -/
theorem Sound.extends (hs : s.Sound) (he : s.Extends t) : t.Sound := by
  refine ⟨fun e hm => ?_, he.entries ▸ hs.nodup_keys⟩
  exact (hs.faithful e (he.entries ▸ hm)).extends he

theorem Sound.cachedParser (hs : s.Sound) (headers : List String) :
    (s.cachedParser headers).2.2.Sound := by
  refine ⟨(hs.faithful.cachedParser headers).2, ?_⟩
  cases h : s.cache.find? headers with
  | some r =>
    rw [cachedParser_of_hit h]
    have hrest : ((s.cache.entries.filter (·.1 != headers)).map Prod.fst).Nodup :=
      hs.nodup_keys.sublist (List.filter_sublist.map _)
    refine List.nodup_cons.2 ⟨fun hm => ?_, hrest⟩
    obtain ⟨e, he, rfl⟩ := List.mem_map.1 hm
    simpa using (List.mem_filter.1 he).2
  | none =>
    rw [cachedParser_of_miss h]
    have hnew : headers ∉ s.cache.entries.map Prod.fst := by
      intro hm
      obtain ⟨e, he, rfl⟩ := List.mem_map.1 hm
      simpa using List.lookup_eq_none_iff.1 h e he
    have hall : (((headers, s.parserStore.length) :: s.cache.entries).map Prod.fst).Nodup :=
      List.nodup_cons.2 ⟨hnew, hs.nodup_keys⟩
    exact hall.sublist ((List.take_sublist _ _).map _)

theorem seen_cachedParser (s : Session) (headers : List String) :
    (s.cachedParser headers).2.2.seen = s.seen := by
  cases h : s.cache.find? headers with
  | some r => rw [cachedParser_of_hit h]
  | none => rw [cachedParser_of_miss h]

/-- A step that only looks keeps the cache sound, and forgets no parser. -/
theorem Sound.run (hs : s.Sound) (settings : Settings) {step : Step} (h : step.OnlyLooks) :
    (s.run settings step).session.Sound ∧ s.seen <+: (s.run settings step).session.seen := by
  cases run_extends settings h with
  | inl he => exact ⟨hs.extends he, he.seen⟩
  | inr he =>
    obtain ⟨headers, he⟩ := he
    exact ⟨(hs.cachedParser headers).extends he, seen_cachedParser s headers ▸ he.seen⟩

end Session

namespace CommandLine

theorem session_evaluate (settings : Settings) (s : Session) (r : Request) :
    (evaluate settings s r).session = s ∨
      (evaluate settings s r).session = (s.cachedParser r.policies).2.2 := by
  unfold evaluate
  split
  · exact .inl rfl
  · exact .inr (Session.session_evaluateHeaders s settings r.policies r.version)

end CommandLine

namespace Session

variable {s t u : Session} {headers : List String} {r : Ref}

/-- From one session to another by steps that only look and by runs of the command, each under
settings of its own and whether it succeeds or not. -/
inductive History (s : Session) : Session → Prop where
  | start : History s s
  | step {t : Session} (h : History s t) (settings : Settings) {step : Step}
      (hl : step.OnlyLooks) : History s (t.run settings step).session
  | command {t : Session} (h : History s t) (settings : Settings) (r : CommandLine.Request) :
      History s (CommandLine.evaluate settings t r).session

/-- Evaluations in any order and number leave in the cache what was read. -/
theorem History.sound (h : History s t) (hs : s.Sound) : t.Sound ∧ s.seen <+: t.seen := by
  induction h with
  | start => exact ⟨hs, List.prefix_rfl⟩
  | step _ settings hl ih =>
    obtain ⟨hsound, hseen⟩ := ih.1.run settings hl
    exact ⟨hsound, ih.2.trans hseen⟩
  | @command t _ settings r ih =>
    obtain hc | hc := CommandLine.session_evaluate settings t r
    · rwa [hc]
    · rw [hc, seen_cachedParser]
      exact ⟨ih.1.cachedParser r.policies, ih.2⟩

theorem Sound.cachedParser_of_mem (hs : s.Sound) (h : (headers, r) ∈ s.cache.entries) :
    (s.cachedParser headers).1 = r := by
  obtain ⟨before, after, he⟩ := List.append_of_mem h
  have hnew : ∀ e ∈ before, headers ≠ e.1 := by
    intro e hm heq
    have hn := hs.nodup_keys
    rw [he, List.map_append, List.map_cons] at hn
    exact (List.nodup_append.1 hn).2.2 e.1 (List.mem_map_of_mem hm) headers List.mem_cons_self
      heq.symm
  have hfind : s.cache.find? headers = some r :=
    List.lookup_eq_some_iff.2 ⟨before, after, he, fun e hm => by simpa using hnew e hm⟩
  rw [cachedParser_of_hit hfind]

theorem mem_entries_cachedParser (s : Session) (headers : List String) :
    (headers, (s.cachedParser headers).1) ∈ (s.cachedParser headers).2.2.cache.entries := by
  cases h : s.cache.find? headers with
  | some r =>
    rw [cachedParser_of_hit h]
    exact List.mem_cons_self
  | none =>
    rw [cachedParser_of_miss h]
    exact List.mem_cons_self

theorem number_eq_of_mem {n : Nat} (h : s.seen.findIdx? (· == r) = some n) : s.number r = (n, s) := by
  rw [number, h]

/-- Once a parser has a number it keeps it. -/
theorem findIdx?_seen_number (s : Session) (r : Ref) :
    (s.number r).2.seen.findIdx? (· == r) = some (s.number r).1 := by
  cases h : s.seen.findIdx? (· == r) with
  | some n => rw [number_eq_of_mem h, h]
  | none => simp [number, h, List.findIdx?_append]

/-- Who asks for cached headers gets the parser that is there. -/
theorem reply_cached (s : Session) (settings : Settings) (headers : List String)
    (name : Option String) :
    (s.run settings (.cached headers name)).reply =
      .ok (.parser ((s.cachedParser headers).2.2.number (s.cachedParser headers).1).1 headers) := rfl

theorem seen_cached (s : Session) (settings : Settings) (headers : List String)
    (name : Option String) :
    (s.run settings (.cached headers name)).session.seen =
      ((s.cachedParser headers).2.2.number (s.cachedParser headers).1).2.seen := by
  cases name <;> rfl

theorem entries_cached (s : Session) (settings : Settings) (headers : List String)
    (name : Option String) :
    (s.run settings (.cached headers name)).session.cache.entries =
      (s.cachedParser headers).2.2.cache.entries := by
  have hn := extends_number (s.cachedParser headers).2.2 (s.cachedParser headers).1
  cases name <;> exact hn.entries

theorem collection?_cached (hs : s.Faithful) (settings : Settings) (headers : List String)
    (name : String) :
    (s.run settings (.cached headers (some name))).session.collection? name =
      some (Collection.parse headers) := by
  have hread := (hs.cachedParser headers).1.extends
    (extends_number (s.cachedParser headers).2.2 (s.cachedParser headers).1)
  obtain ⟨p, hp, hc⟩ := hread
  have hplace : ((s.cachedParser headers).2.2.number (s.cachedParser headers).1).2.parserCollection
      (s.cachedParser headers).1 = p.collection := by
    rw [parserCollection, hp]
  simp only [run, collection?, List.lookup_cons_self, hplace, Option.bind_some]
  exact hc

/-- While a parser is in the cache, all who ask for its headers get it, and by its number. -/
theorem Sound.cached_again (hs : s.Sound) {settings settings' : Settings} {name name' : Option String}
    (h : History (s.run settings (.cached headers name)).session t)
    (hm : (headers, (s.cachedParser headers).1) ∈ t.cache.entries) :
    (t.cachedParser headers).1 = (s.cachedParser headers).1 ∧
      (t.run settings' (.cached headers name')).reply =
        (s.run settings (.cached headers name)).reply := by
  have hlooks : (Step.cached headers name).OnlyLooks := trivial
  have hasked := (hs.run settings hlooks).1
  obtain ⟨ht, hseen⟩ := h.sound hasked
  have hr := ht.cachedParser_of_mem hm
  refine ⟨hr, ?_⟩
  rw [seen_cached] at hseen
  have hn := hseen.findIdx?_eq_some (findIdx?_seen_number _ _)
  rw [← seen_cachedParser t headers, ← hr] at hn
  rw [reply_cached, reply_cached, number_eq_of_mem hn, hr]

end Session

namespace Memory

/-- The usual checks find in the shared policies what they find in any like them, and leave them as
they are. -/
theorem EvaluatesAt.of_parsedChecks {m m' : Memory} {r : Nat} {v : Version} {b : BypassLists}
    {fs : List Finding}
    (h : m.EvaluatesAt Check.parsedChecks (Check.effectiveChecks b) v r fs m') (hl : m.Live r) :
    fs = ((m.collectionAt r).evaluate v b).findings ∧ m'.collectionAt r = m.collectionAt r := by
  obtain ⟨hfs, hleft⟩ := h.eq_report hl
  rw [Check.left_of_onlyLooks Check.onlyLooks_parsedChecks] at hleft
  exact ⟨hfs.trans (Collection.evaluateWith_eq _ _ v _).1.symm, hleft⟩

end Memory

namespace Session

variable {s t : Session}

/-- However the cache was used since it was empty, what it hands out says what a new reading says,
and so do the findings; and a parser that is asked for is in the cache, and for as long as it is, all
who ask for its headers get it, whether they ask for one header or for a list of it. In memory the
usual checks work on the shared policies themselves, and leave them as they are. -/
theorem cached_as_read (h0 : s.cache.entries = []) (h : History s t) :
    (∀ (x : Headers) (settings : Settings) (name : String), ∃ n,
      (t.run settings (.cached x.toList (some name))).reply = .ok (.parser n x.toList) ∧
        (t.run settings (.cached x.toList (some name))).session.collection? name =
          some (Collection.parse x.toList) ∧
        (x.toList, (t.cachedParser x.toList).1) ∈
          (t.run settings (.cached x.toList (some name))).session.cache.entries) ∧
    (∀ (x y : Headers) (settings settings' : Settings) (name name' : Option String) (u : Session),
      x.toList = y.toList →
      History (t.run settings (.cached x.toList name)).session u →
      (x.toList, (t.cachedParser x.toList).1) ∈ u.cache.entries →
      (u.cachedParser y.toList).1 = (t.cachedParser x.toList).1 ∧
        (u.run settings' (.cached y.toList name')).reply =
          (t.run settings (.cached x.toList name)).reply) ∧
    (∀ (x : Headers) (settings : Settings) (version : Literal),
      (t.evaluateHeaders settings x.toList version).findings =
        (settings.complete version none).map
          fun (v, b) => ((Collection.parse x.toList).evaluate v b).findings) ∧
    (∀ (settings : Settings) (r : CommandLine.Request),
      (CommandLine.evaluate settings t r).findings =
        (CommandLine.evaluate settings start r).findings) ∧
    ∀ (m : Memory) (r : Nat) (v : Version) (b : BypassLists), m.Live r →
      (∃ fs m', m.EvaluatesAt Check.parsedChecks (Check.effectiveChecks b) v r fs m') ∧
      ∀ fs m', m.EvaluatesAt Check.parsedChecks (Check.effectiveChecks b) v r fs m' →
        fs = ((m.collectionAt r).evaluate v b).findings ∧
          m'.collectionAt r = m.collectionAt r := by
  have ht := (h.sound (sound_of_no_entries h0)).1
  refine ⟨fun x settings name => ⟨_, rfl, ?_, ?_⟩, ?_, fun x settings version => ?_, ?_, ?_⟩
  · exact collection?_cached ht.faithful settings x.toList name
  · rw [entries_cached]
    exact mem_entries_cachedParser t x.toList
  · intro x y settings settings' name name' u hxy hu hm
    rw [← hxy]
    exact ht.cached_again hu hm
  · exact (ht.faithful.evaluateHeaders settings x.toList version).1
  · intro settings r
    simp only [CommandLine.evaluate, (ht.faithful.evaluateHeaders settings _ _).1,
      (faithful_start.evaluateHeaders settings _ _).1]
    split <;> rfl
  · intro m r v b hl
    exact ⟨Memory.exists_evaluatesAt hl _ _ v, fun fs m' he => he.of_parsedChecks hl⟩

def sharedHeader : Headers := .one "script-src 'unsafe-inline' 'nonce-1', img-src *"

def askedSession : Session :=
  (start.run {} (.cached sharedHeader.toList (some "shared"))).session

def usedSession : Session :=
  let s := (CommandLine.evaluate { version := some (.int 2) } askedSession
    { policies := sharedHeader.toList, sorted := true }).session
  let s := (s.run {} (.newEvaluator "old" "shared" (.int 1) none)).session
  let s := (s.run {} (.evaluate "old" none none)).session
  (s.run {} (.evaluateHeaders ["", "img-src *"] (.int 7))).session

theorem cached_as_read_usedSession :
    History start usedSession ∧ usedSession.cache.entries.map Prod.snd = [1, 0] ∧
      (usedSession.run {} (.cached (Headers.several sharedHeader.toList).toList none)).reply =
        (start.run {} (.cached sharedHeader.toList (some "shared"))).reply ∧
      (usedSession.run {} (.cached sharedHeader.toList (some "again"))).session.collection? "again" =
        some (Collection.parse sharedHeader.toList) ∧
      (usedSession.evaluateHeaders {} sharedHeader.toList (.int 3)).findings =
        .ok ((Collection.parse sharedHeader.toList).evaluate .csp3 .builtIn).findings := by
  have hlooks : (Step.cached sharedHeader.toList (some "shared")).OnlyLooks := trivial
  have hold : (Step.newEvaluator "old" "shared" (.int 1) none).OnlyLooks := trivial
  have hevaluate : (Step.evaluate "old" none none).OnlyLooks := trivial
  have hfails : (Step.evaluateHeaders ["", "img-src *"] (.int 7)).OnlyLooks := trivial
  have hsince : History askedSession usedSession :=
    .step (.step (.step (.command .start _ _) {} hold) {} hevaluate) {} hfails
  have hall : History start usedSession :=
    .step (.step (.step (.command (.step .start {} hlooks) _ _) {} hold) {} hevaluate) {} hfails
  have hentries : usedSession.cache.entries =
      [(["", "img-src *"], 1), (sharedHeader.toList, 0)] := by decide +kernel
  obtain ⟨-, hagain, -⟩ := cached_as_read rfl (.start (s := start))
  obtain ⟨hread, -, hfindings, -⟩ := cached_as_read rfl hall
  obtain ⟨n, -, hcollection, -⟩ := hread sharedHeader {} "again"
  have hm : (sharedHeader.toList, 0) ∈ usedSession.cache.entries := by
    rw [hentries]
    exact List.mem_cons_of_mem _ List.mem_cons_self
  refine ⟨hall, by rw [hentries]; rfl, ?_, hcollection, hfindings sharedHeader {} (.int 3)⟩
  exact (hagain sharedHeader (.several sharedHeader.toList) {} {} _ none _ rfl hsince hm).2

end Session

end ContentPolicy
