import ContentPolicy.Proofs.LetterCase
import ContentPolicy.Proofs.Matching

/-!
What a search for a pattern finds: the first entry that the pattern allows, unless a malformed one
comes before it.
-/

namespace ContentPolicy

namespace Url

open Text

theorem ok_of_toOption {ε α : Type} {e : Except ε α} {a : α} (h : e.toOption = some a) :
    e = .ok a := by
  cases e with
  | error => cases h
  | ok b => exact congrArg Except.ok (Option.some.inj h)

def parts (text : String) : Url :=
  let (scheme, r) := splitScheme (clean text.toList)
  let (netloc, r) := splitNetloc r
  let (r, fragment) := cut '#' r
  let (path, query) := cut '?' r
  ⟨.ofList scheme, .ofList netloc, .ofList path, .ofList query, .ofList fragment⟩

/-- Only what stands for the host is looked at before the parts are handed out. -/
theorem split_eq (text : String) :
    split text = (checkNetloc (parts text).netloc.toList).map fun _ => parts text := by
  simp only [split, parts, String.toList_ofList]
  cases checkNetloc (splitNetloc (splitScheme (clean text.toList)).2).1 <;> rfl

theorem isWellFormed_eq (text : String) :
    isWellFormed text = (checkNetloc (parts text).netloc.toList).isOk := by
  rw [isWellFormed, split_eq]
  cases checkNetloc (parts text).netloc.toList <;> rfl

theorem eq_parts {text : String} {u : Url} (h : split text = .ok u) : u = parts text := by
  rw [split_eq] at h
  cases hc : checkNetloc (parts text).netloc.toList with
  | error e => simp [hc, Except.map] at h
  | ok _ => simpa [hc, Except.map, eq_comm] using h

/-- Behind `*.` at least one more label must stand in front of the rest. -/
def AllowsHost (host domain : List Char) : Prop :=
  (¬ ['*', '.'] <+: host ∧ host = domain) ∨ ∃ r, host = '*' :: '.' :: r ∧ '.' :: r <:+ domain

def AllowsPath (path candidate : List Char) : Prop :=
  path = [] ∨ (path.getLast? = some '/' ∧ path <+: candidate) ∨ path = candidate

theorem hostMatches_iff {host domain : List Char} :
    hostMatches host domain = true ↔ AllowsHost host domain := by
  unfold hostMatches AllowsHost
  split
  case h_1 r => simp
  case h_2 hstar =>
    have hno : ¬ ['*', '.'] <+: host := by
      rintro ⟨r, rfl⟩
      exact hstar r rfl
    have hnone : ¬ ∃ r, host = '*' :: '.' :: r ∧ '.' :: r <:+ domain :=
      fun ⟨r, hr, _⟩ => hstar r hr
    simp [hno, hnone]

theorem isFolder_iff {path : List Char} : isFolder path = true ↔ path.getLast? = some '/' :=
  beq_iff_eq

theorem pathMatches_iff {path candidate : List Char} :
    pathMatches path candidate = true ↔ AllowsPath path candidate := by
  rw [pathMatches, AllowsPath, Bool.or_eq_true, List.isEmpty_iff, ← isFolder_iff]
  refine or_congr_right ?_
  cases hfolder : isFolder path with
  | true =>
    simp only [if_true, List.isPrefixOf_iff_prefix, true_and]
    refine ⟨.inl, ?_⟩
    rintro (h | rfl)
    · exact h
    · exact List.prefix_refl path
  | false => simp

theorem allows_iff {host path : List Char} {u : Url} :
    allows host path u = true ↔
      AllowsHost host u.domain.toList ∧ AllowsPath path u.path.toList := by
  rw [allows, Bool.and_eq_true, hostMatches_iff, pathMatches_iff]

def Matches (pattern entry : String) : Prop :=
  ∃ p u, split pattern = .ok p ∧ split entry = .ok u ∧
    AllowsHost (lowerChars p.domain.toList) u.domain.toList ∧
    AllowsPath p.path.toList u.path.toList

/-- Here the search ends: the entry is allowed, or it cannot be taken apart. -/
def stops (host path : List Char) (entry : String) : Bool :=
  match split entry with
  | .ok u => allows host path u
  | .error _ => true

theorem firstEntry_texts (host path : List Char) (l : List String) :
    firstEntry host path (l.map .text) =
      match l.find? (stops host path) with
      | none => .ok none
      | some s =>
        match split s with
        | .ok u => .ok (some u)
        | .error e => .error (.malformed e) := by
  induction l with
  | nil => rfl
  | cons s r ih =>
    cases hs : split s with
    | error e =>
      have hstop : stops host path s = true := by simp only [stops, hs]
      simp only [List.map_cons, firstEntry, matchEntry_text, List.find?_cons, hstop, hs]
    | ok u =>
      have hstop : stops host path s = allows host path u := by simp only [stops, hs]
      rw [List.map_cons, firstEntry_cons_text hs, List.find?_cons, hstop, ih]
      cases allows host path u <;> simp [hs]

theorem isWellFormed_iff {s : String} : isWellFormed s = true ↔ ∃ u, split s = .ok u := by
  refine ⟨exists_of_isWellFormed, ?_⟩
  rintro ⟨u, hu⟩
  rw [isWellFormed, hu]
  rfl

/-- Among entries that can all be taken apart it is the first of those that are allowed. -/
theorem firstEntry_of_isWellFormed (host path : List Char) {l : List String}
    (hl : ∀ s ∈ l, isWellFormed s = true) :
    firstEntry host path (l.map .text) =
      .ok ((l.find? fun s => allows host path (parts s)).map parts) := by
  induction l with
  | nil => rfl
  | cons s r ih =>
    obtain ⟨u, hu⟩ := exists_of_isWellFormed (hl s List.mem_cons_self)
    have hr := ih fun x hx => hl x (List.mem_cons_of_mem s hx)
    rw [List.map_cons, firstEntry_cons_text hu, hr, eq_parts hu, List.find?_cons]
    cases allows host path (parts s) <;> rfl

theorem isWellFormed_eq_false_iff {s : String} :
    isWellFormed s = false ↔ ∃ e, split s = .error e := by
  cases hs : split s with
  | error e => simp [isWellFormed, hs, Except.isOk, Except.toBool]
  | ok u => simp [isWellFormed, hs, Except.isOk, Except.toBool]

section Pattern

variable {pattern : String} {p : Url} (hp : split pattern = .ok p)
include hp

theorem firstMatch_eq (l : List Literal) :
    firstMatch pattern l = firstEntry (lowerChars p.domain.toList) p.path.toList l := by
  rw [firstMatch, hp]

theorem matches_iff {s : String} {u : Url} (hs : split s = .ok u) :
    Matches pattern s ↔ allows (lowerChars p.domain.toList) p.path.toList u = true := by
  rw [allows_iff]
  constructor
  · rintro ⟨p', u', hp', hu', h⟩
    cases hp.symm.trans hp'
    cases hs.symm.trans hu'
    exact h
  · exact fun h => ⟨p, u, hp, hs, h⟩

theorem stops_eq_false_iff {s : String} :
    stops (lowerChars p.domain.toList) p.path.toList s = false ↔
      isWellFormed s = true ∧ ¬ Matches pattern s := by
  cases hs : split s with
  | error e => simp [stops, isWellFormed, hs, Except.isOk, Except.toBool]
  | ok u => simp [stops, isWellFormed, hs, Except.isOk, Except.toBool, matches_iff hp hs]

theorem stops_iff {s : String} :
    stops (lowerChars p.domain.toList) p.path.toList s = true ↔
      isWellFormed s = false ∨ Matches pattern s := by
  rw [← Bool.not_eq_false, stops_eq_false_iff hp, not_and_or, not_not, Bool.not_eq_true]

/-- The first entry where the search ends, and what it has passed till then. -/
theorem find?_stops_iff {l : List String} {s : String} :
    l.find? (stops (lowerChars p.domain.toList) p.path.toList) = some s ↔
      (isWellFormed s = false ∨ Matches pattern s) ∧ ∃ before after, l = before ++ s :: after ∧
        ∀ x ∈ before, isWellFormed x = true ∧ ¬ Matches pattern x := by
  simp only [List.find?_eq_some_iff_append, stops_iff hp, ← stops_eq_false_iff hp,
    Bool.not_eq_eq_eq_not, Bool.not_true]

theorem firstMatch_ok_iff {l : List String} {u : Url} :
    firstMatch pattern (l.map .text) = .ok (some u) ↔
      ∃ s, l.find? (stops (lowerChars p.domain.toList) p.path.toList) = some s ∧
        split s = .ok u := by
  rw [firstMatch_eq hp, firstEntry_texts]
  cases l.find? (stops (lowerChars p.domain.toList) p.path.toList) with
  | none => simp
  | some s => cases hs : split s <;> simp [hs]

theorem firstMatch_none_iff {l : List String} :
    firstMatch pattern (l.map .text) = .ok none ↔
      l.find? (stops (lowerChars p.domain.toList) p.path.toList) = none := by
  rw [firstMatch_eq hp, firstEntry_texts]
  cases l.find? (stops (lowerChars p.domain.toList) p.path.toList) with
  | none => simp
  | some s => cases hs : split s <;> simp [hs]

theorem firstMatch_error_iff {l : List String} :
    (∃ e, firstMatch pattern (l.map .text) = .error e) ↔
      ∃ s, l.find? (stops (lowerChars p.domain.toList) p.path.toList) = some s ∧
        isWellFormed s = false := by
  rw [firstMatch_eq hp, firstEntry_texts]
  cases l.find? (stops (lowerChars p.domain.toList) p.path.toList) with
  | none => simp
  | some s => cases hs : split s <;> simp [hs, isWellFormed, Except.isOk, Except.toBool]

end Pattern

section Outcomes

variable {pattern : String} {l : List String}

theorem isWellFormed_of_matches {s : String} (h : Matches pattern s) :
    isWellFormed pattern = true := by
  obtain ⟨p, _, hp, -⟩ := h
  exact isWellFormed_iff.2 ⟨p, hp⟩

theorem not_matches_of_malformed (hp : isWellFormed pattern = false) (s : String) :
    ¬ Matches pattern s :=
  fun h => Bool.noConfusion (hp.symm.trans (isWellFormed_of_matches h))

theorem firstMatch_of_malformed (hp : isWellFormed pattern = false) (entries : List Literal) :
    ∃ e, firstMatch pattern entries = .error (.malformed e) := by
  obtain ⟨e, he⟩ := isWellFormed_eq_false_iff.1 hp
  exact ⟨e, by rw [firstMatch, he]⟩

/-- The first entry that matches is found if those before it are well formed. -/
theorem firstMatch_eq_some_iff {u : Url} :
    firstMatch pattern (l.map .text) = .ok (some u) ↔
      ∃ before s after, l = before ++ s :: after ∧ split s = .ok u ∧ Matches pattern s ∧
        ∀ x ∈ before, isWellFormed x = true ∧ ¬ Matches pattern x := by
  cases hwf : isWellFormed pattern with
  | false =>
    obtain ⟨e, he⟩ := firstMatch_of_malformed hwf (l.map .text)
    simp [he, not_matches_of_malformed hwf]
  | true =>
    obtain ⟨p, hp⟩ := isWellFormed_iff.1 hwf
    rw [firstMatch_ok_iff hp]
    constructor
    · rintro ⟨s, hfind, hs⟩
      obtain ⟨hstop, before, after, hl, hbefore⟩ := (find?_stops_iff hp).1 hfind
      refine ⟨before, s, after, hl, hs, hstop.resolve_left ?_, hbefore⟩
      rw [isWellFormed_iff.2 ⟨u, hs⟩]
      exact Bool.noConfusion
    · rintro ⟨before, s, after, hl, hs, hmatch, hbefore⟩
      exact ⟨s, (find?_stops_iff hp).2 ⟨.inr hmatch, before, after, hl, hbefore⟩, hs⟩

theorem firstMatch_eq_none_iff :
    firstMatch pattern (l.map .text) = .ok none ↔
      isWellFormed pattern = true ∧ ∀ x ∈ l, isWellFormed x = true ∧ ¬ Matches pattern x := by
  cases hwf : isWellFormed pattern with
  | false =>
    obtain ⟨e, he⟩ := firstMatch_of_malformed hwf (l.map .text)
    simp [he]
  | true =>
    obtain ⟨p, hp⟩ := isWellFormed_iff.1 hwf
    rw [firstMatch_none_iff hp, List.find?_eq_none]
    simp only [Bool.not_eq_true, stops_eq_false_iff hp, true_and]

/-- The search breaks off at a malformed entry unless one that matches comes before it. -/
theorem firstMatch_eq_error_iff :
    (∃ e, firstMatch pattern (l.map .text) = .error e) ↔
      isWellFormed pattern = false ∨ ∃ before s after, l = before ++ s :: after ∧
        isWellFormed s = false ∧ ∀ x ∈ before, ¬ Matches pattern x := by
  cases hwf : isWellFormed pattern with
  | false =>
    obtain ⟨e, he⟩ := firstMatch_of_malformed hwf (l.map .text)
    simp [he]
  | true =>
    obtain ⟨p, hp⟩ := isWellFormed_iff.1 hwf
    rw [firstMatch_error_iff hp]
    simp only [Bool.true_eq_false, false_or]
    constructor
    · rintro ⟨s, hfind, hs⟩
      obtain ⟨-, before, after, hl, hbefore⟩ := (find?_stops_iff hp).1 hfind
      exact ⟨before, s, after, hl, hs, fun x hx => (hbefore x hx).2⟩
    · rintro ⟨before, s, after, rfl, hs, hbefore⟩
      rw [List.find?_append]
      -- The search may break off even before this entry, but only at another malformed one.
      cases hfind : before.find? (stops (lowerChars p.domain.toList) p.path.toList) with
      | none =>
        have hstop := (stops_iff hp).2 (.inl hs)
        exact ⟨s, by simp [hstop], hs⟩
      | some x =>
        have hx := (stops_iff hp).1 (List.find?_some hfind)
        exact ⟨x, rfl, hx.resolve_right (hbefore x (List.mem_of_find?_eq_some hfind))⟩

theorem malformed_of_firstMatch_error {e : MatchError}
    (h : firstMatch pattern (l.map .text) = .error e) : ∃ x, e = .malformed x := by
  cases e with
  | malformed x => exact ⟨x, rfl⟩
  | unusable entry =>
    rw [firstMatch] at h
    split at h
    · cases h
    · obtain ⟨hmem, hnone⟩ := mem_of_firstEntry_unusable h
      obtain ⟨s, -, rfl⟩ := List.mem_map.1 hmem
      cases hnone

theorem firstMatch_append {u : Url} (h : firstMatch pattern (l.map .text) = .ok (some u))
    (later : List String) : firstMatch pattern ((l ++ later).map .text) = .ok (some u) := by
  obtain ⟨before, s, after, rfl, hs, hmatch, hbefore⟩ := firstMatch_eq_some_iff.1 h
  refine firstMatch_eq_some_iff.2 ⟨before, s, after ++ later, ?_, hs, hmatch, hbefore⟩
  rw [List.append_assoc, List.cons_append]

/-- A wildcard keeps its dot: it allows neither the rest itself nor a host that only ends so. -/
theorem not_matches_of_getLast?_ne {p u : Url} {r w : List Char} {s : String}
    (hp : split pattern = .ok p) (hr : lowerChars p.domain.toList = '*' :: '.' :: r)
    (hs : split s = .ok u) (hu : u.domain.toList = w ++ r) (hw : w.getLast? ≠ some '.') :
    ¬ Matches pattern s := by
  rw [matches_iff hp hs, allows_iff, hr, hu]
  rintro ⟨⟨hno, -⟩ | ⟨_, hcons, x, hx⟩, -⟩
  · exact hno ⟨r, rfl⟩
  · cases hcons
    have hwx : x ++ ['.'] = w := List.append_cancel_right (by simpa using hx)
    exact hw (by rw [← hwx, List.getLast?_concat])

end Outcomes

section HostCase

structure SameButHostCase (pattern other : String) : Prop where
  netloc : SameButCase (parts pattern).netloc.toList (parts other).netloc.toList
  path : (parts pattern).path = (parts other).path

def opensFuture (pattern : String) : Bool :=
  let netloc := (parts pattern).netloc.toList
  netloc.contains '[' && (hostText netloc).head? == some 'v'

variable {pattern other : String} (h : SameButHostCase pattern other)
include h

/-- Whether a host is one depends on case only where the `v` must be a small one. -/
theorem SameButHostCase.isWellFormed_eq_or :
    isWellFormed pattern = isWellFormed other ∨ opensFuture pattern = !opensFuture other := by
  have hopen : (parts pattern).netloc.toList.contains '[' =
      (parts other).netloc.toList.contains '[' := h.netloc.eq (contains_small (by decide))
  rw [isWellFormed_eq, isWellFormed_eq, opensFuture, opensFuture, hopen]
  refine or_iff_not_imp_right.2 fun hne => isOk_checkNetloc h.netloc fun hmem => ?_
  have hmem' : (parts other).netloc.toList.contains '[' = true := by
    rw [← hopen]
    simpa using hmem
  rw [hmem', Bool.true_and, Bool.true_and, Bool.eq_not, ne_eq, not_not] at hne
  simpa using Bool.eq_iff_iff.1 hne

theorem SameButHostCase.firstMatch_eq (hwf : isWellFormed pattern = isWellFormed other)
    (entries : List Literal) :
    (firstMatch pattern entries).toOption = (firstMatch other entries).toOption := by
  cases hother : isWellFormed other with
  | false =>
    obtain ⟨e, he⟩ := firstMatch_of_malformed (hwf.trans hother) entries
    obtain ⟨e', he'⟩ := firstMatch_of_malformed hother entries
    rw [he, he']
    rfl
  | true =>
    obtain ⟨p, hp⟩ := isWellFormed_iff.1 (hwf.trans hother)
    obtain ⟨q, hq⟩ := isWellFormed_iff.1 hother
    have hhost : lowerChars p.domain.toList = lowerChars q.domain.toList := by
      rw [toList_domain, toList_domain, eq_parts hp, eq_parts hq]
      refine h.netloc.eq (f := fun cs => lowerChars (lowerHost (hostText cs))) fun cs => ?_
      rw [hostText_small, lowerChars_lowerHost_small]
    have hpath : p.path = q.path := by rw [eq_parts hp, eq_parts hq, h.path]
    rw [Url.firstMatch_eq hp, Url.firstMatch_eq hq, hhost, hpath]

end HostCase

/-- A search among texts takes the first that matches unless a malformed one stands before it. It
needs a dot for a wildcard; the case of the host makes no difference but to the mark of a future
kind of address; and what comes after the entry found makes none at all. -/
theorem firstMatch_outcomes (pattern : String) (l : List String) :
    (∀ e, firstMatch pattern (l.map .text) = .error e → ∃ x, e = .malformed x) ∧
    ((∃ e, firstMatch pattern (l.map .text) = .error e) ↔
      isWellFormed pattern = false ∨ ∃ before s after, l = before ++ s :: after ∧
        isWellFormed s = false ∧ ∀ x ∈ before, ¬ Matches pattern x) ∧
    (∀ u, firstMatch pattern (l.map .text) = .ok (some u) ↔
      ∃ before s after, l = before ++ s :: after ∧ split s = .ok u ∧ Matches pattern s ∧
        ∀ x ∈ before, isWellFormed x = true ∧ ¬ Matches pattern x) ∧
    (firstMatch pattern (l.map .text) = .ok none ↔
      isWellFormed pattern = true ∧ ∀ x ∈ l, isWellFormed x = true ∧ ¬ Matches pattern x) ∧
    (∀ p r s u w, split pattern = .ok p → lowerChars p.domain.toList = '*' :: '.' :: r →
      split s = .ok u → u.domain.toList = w ++ r → w.getLast? ≠ some '.' →
      ¬ Matches pattern s) ∧
    (∀ other, SameButHostCase pattern other →
      (isWellFormed pattern = isWellFormed other →
        (firstMatch pattern (l.map .text)).toOption =
          (firstMatch other (l.map .text)).toOption) ∧
      (isWellFormed pattern = isWellFormed other ∨ opensFuture pattern = !opensFuture other)) ∧
    ∀ u later, firstMatch pattern (l.map .text) = .ok (some u) →
      firstMatch pattern ((l ++ later).map .text) = .ok (some u) :=
  ⟨fun _ => malformed_of_firstMatch_error, firstMatch_eq_error_iff,
    fun _ => firstMatch_eq_some_iff, firstMatch_eq_none_iff,
    fun _ _ _ _ _ => not_matches_of_getLast?_ne,
    fun _ h => ⟨fun hwf => h.firstMatch_eq hwf _, h.isWellFormed_eq_or⟩,
    fun _ later h => firstMatch_append h later⟩

theorem firstMatch_outcomes_wildcardExample :
    ¬ Matches "//*.b.c" "//xb.c" ∧
    (firstMatch "//*.b.c" (["//xb.c", "//a.b.c/q"].map .text)).toOption =
      (firstMatch "//*.B.C" (["//xb.c", "//a.b.c/q"].map .text)).toOption ∧
    firstMatch "//*.b.c" ((["//xb.c", "//a.b.c/q"] ++ ["//["]).map .text) =
      .ok (some ⟨"", "a.b.c", "/q", "", ""⟩) := by
  obtain ⟨-, -, -, -, hdot, hcase, hlater⟩ := firstMatch_outcomes "//*.b.c" ["//xb.c", "//a.b.c/q"]
  have hother : SameButHostCase "//*.b.c" "//*.B.C" := ⟨by decide +kernel, by decide +kernel⟩
  refine ⟨?_, (hcase "//*.B.C" hother).1 (by decide +kernel), hlater _ ["//["] ?_⟩
  · exact hdot ⟨"", "*.b.c", "", "", ""⟩ ['b', '.', 'c'] "//xb.c" ⟨"", "xb.c", "", "", ""⟩ ['x']
      (ok_of_toOption (by decide +kernel)) (by decide +kernel) (ok_of_toOption (by decide +kernel))
      (by decide +kernel) (by decide)
  · exact ok_of_toOption (by decide +kernel)

/-- The mark of a future kind of address is a small letter. -/
theorem firstMatch_futureAddress :
    SameButHostCase "//[v1.a]" "//[V1.a]" ∧
    (firstMatch "//[v1.a]" [.text "//[v1.a]"]).toOption =
      some (some ⟨"", "[v1.a]", "", "", ""⟩) ∧
    (firstMatch "//[V1.a]" [.text "//[v1.a]"]).toOption = none :=
  ⟨⟨by decide +kernel, by decide +kernel⟩, by decide +kernel, by decide +kernel⟩

end Url

end ContentPolicy
