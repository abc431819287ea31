import ContentPolicy.Session
import ContentPolicy.Proofs.Headers
import ContentPolicy.Proofs.Running

/-!
What the cache holds for some headers is what is read of them, as long as no one edits it.
-/

namespace ContentPolicy

namespace Session

variable {s : Session} {headers : List String} {r : Ref}

def HasRead (s : Session) (headers : List String) (r : Ref) : Prop :=
  ∃ p, s.parserStore[r]? = some p ∧ s.store[p.collection]? = some (Collection.parse headers)

/-- Nobody has edited what the cache refers to. -/
def Faithful (s : Session) : Prop := ∀ e ∈ s.cache.entries, s.HasRead e.1 e.2

theorem faithful_start : start.Faithful := fun _ he => absurd he List.not_mem_nil

/-- New collections come behind the old ones and touch none of them. -/
theorem HasRead.append (h : s.HasRead headers r) (ps : List HeaderParser) (cs : List Collection)
    (cache : Cache Ref) :
    HasRead { s with parserStore := s.parserStore ++ ps, store := s.store ++ cs, cache := cache }
      headers r := by
  obtain ⟨p, hp, hc⟩ := h
  have hr : r < s.parserStore.length := (List.getElem?_eq_some_iff.1 hp).1
  have hlt : p.collection < s.store.length := (List.getElem?_eq_some_iff.1 hc).1
  refine ⟨p, ?_, ?_⟩
  · rw [List.getElem?_append_left hr, hp]
  · rw [List.getElem?_append_left hlt, hc]

theorem cachedParser_of_miss (h : s.cache.find? headers = none) :
    s.cachedParser headers = (s.parserStore.length, Collection.parseEvents headers, { s with
      parserStore := s.parserStore ++ [⟨headers, s.store.length⟩]
      store := s.store ++ [Collection.parse headers]
      cache := s.cache.miss headers s.parserStore.length }) := by
  simp [cachedParser, h, newParser, load, assign]

theorem cachedParser_of_hit (h : s.cache.find? headers = some r) :
    s.cachedParser headers = (r, [], { s with cache := s.cache.hit headers r }) := by
  simp [cachedParser, h]

theorem mem_entries_of_find? (h : s.cache.find? headers = some r) :
    (headers, r) ∈ s.cache.entries := by
  obtain ⟨before, after, he, -⟩ := List.lookup_eq_some_iff.1 h
  rw [he]
  exact List.mem_append_right before List.mem_cons_self

/-- The parser that is handed out has read the headers, and the cache stays faithful. -/
theorem Faithful.cachedParser (hs : s.Faithful) (headers : List String) :
    (s.cachedParser headers).2.2.HasRead headers (s.cachedParser headers).1 ∧
      (s.cachedParser headers).2.2.Faithful := by
  cases h : s.cache.find? headers with
  | some r =>
    have hread : s.HasRead headers r := hs _ (mem_entries_of_find? h)
    rw [cachedParser_of_hit h]
    refine ⟨hread, fun e he => ?_⟩
    cases he with
    | head => exact hread
    | tail _ he => exact hs e (List.mem_filter.1 he).1
  | none =>
    rw [cachedParser_of_miss h]
    have hread : HasRead { s with
        parserStore := s.parserStore ++ [⟨headers, s.store.length⟩]
        store := s.store ++ [Collection.parse headers]
        cache := s.cache.miss headers s.parserStore.length } headers s.parserStore.length :=
      ⟨⟨headers, s.store.length⟩, by simp, by simp⟩
    refine ⟨hread, fun e he => ?_⟩
    cases List.mem_of_mem_take he with
    | head => exact hread
    | tail _ he => exact (hs e he).append _ _ _

theorem assign_self {c : Collection} (h : s.store[r]? = some c) : s.assign r c = s := by
  obtain ⟨hlt, rfl⟩ := List.getElem?_eq_some_iff.1 h
  rw [assign, List.set_getElem_self]

/-- What is found for headers is found in what is read of them, and looking for it edits nothing. -/
theorem Faithful.evaluateHeaders (hs : s.Faithful) (settings : Settings) (headers : List String)
    (version : Literal) :
    (s.evaluateHeaders settings headers version).findings =
      (settings.complete version none).map
        (fun (v, b) => ((Collection.parse headers).evaluate v b).findings) ∧
      (s.evaluateHeaders settings headers version).session.Faithful := by
  obtain ⟨⟨p, hp, hc⟩, hf⟩ := hs.cachedParser headers
  unfold Session.evaluateHeaders
  generalize s.cachedParser headers = q at hp hc hf
  obtain ⟨r, events, t⟩ := q
  cases settings.complete version none with
  | error e => exact ⟨rfl, hf⟩
  | ok vb =>
    obtain ⟨v, b⟩ := vb
    have hcollection : t.parserCollection r = p.collection := by
      simp only [parserCollection, hp]
    simp only [hcollection, hc, Option.getD_some, Collection.after_evaluate, assign_self hc]
    exact ⟨rfl, hf⟩

end Session

namespace Collection

/-- What is read of headers is what is read of each of them, one policy more than there are commas
with a blank behind them. It is the same if they come as one header with a comma and a blank between
them, and so is what is found, whatever was evaluated before. -/
theorem joined_headers :
    (∀ headers more, parse (headers ++ more) = parse headers ++ parse more) ∧
    (∀ headers, (parse headers).length =
      headers.length + (headers.map fun h => countCommaBlanks h.toList).sum) ∧
    ∀ headers, headers ≠ [] →
      parse [", ".intercalate headers] = parse headers ∧
      ∀ s s' : Session, s.Faithful → s'.Faithful → ∀ settings version,
        (s.evaluateHeaders settings [", ".intercalate headers] version).findings =
          (s'.evaluateHeaders settings headers version).findings := by
  refine ⟨parse_append, length_parse, fun headers hne => ⟨parse_join hne, ?_⟩⟩
  intro s s' hs hs' settings version
  rw [(hs.evaluateHeaders settings _ version).1, (hs'.evaluateHeaders settings _ version).1,
    parse_join hne]

def seamExample : List String := ["img-src a,", " font-src b, media-src *", ""]

def seamSession : Session := (Session.start.evaluateHeaders {} seamExample (.int 1)).session

theorem joined_headers_seamExample :
    seamExample ≠ [] ∧ Session.start.Faithful ∧ seamSession.Faithful ∧
      seamSession.cache.entries.length = 1 ∧
      (parse [", ".intercalate seamExample]).length = 4 ∧
      (Session.start.evaluateHeaders {} [", ".intercalate seamExample] (.int 2)).findings =
        (seamSession.evaluateHeaders {} seamExample (.int 2)).findings := by
  have hne : seamExample ≠ [] := by decide
  have hstart := Session.faithful_start
  have hseam : seamSession.Faithful := (hstart.evaluateHeaders {} seamExample (.int 1)).2
  obtain ⟨-, hlength, hjoined⟩ := joined_headers
  obtain ⟨hparse, hfindings⟩ := hjoined seamExample hne
  refine ⟨hne, hstart, hseam, rfl, ?_, hfindings _ _ hstart hseam {} (.int 2)⟩
  rw [hparse, hlength]
  decide

end Collection

end ContentPolicy
