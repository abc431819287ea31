import ContentPolicy.Proofs.BroaderSource
import Mathlib.Data.List.Find

/-!
What a source with the path `/` allows: all paths are below the root, but an entry without a path is
passed over.
-/

namespace ContentPolicy

namespace Url

open Text

section Entries

/-- Behind the host stands nothing or a mark. Only a slash opens a path. -/
theorem path_cut {cs : List Char} (h : ∀ c ∈ cs.head?, endsNetloc c = true) :
    (cut '?' (cut '#' cs).1).1 = [] ∨ (cut '?' (cut '#' cs).1).1.head? = some '/' := by
  cases cs with
  | nil => exact .inl rfl
  | cons c r =>
    have hc : (c = '/' ∨ c = '?') ∨ c = '#' := by simpa [endsNetloc] using h c rfl
    obtain (rfl | rfl) | rfl := hc
    · exact .inr (by simp [cut])
    · exact .inl (by simp [cut])
    · exact .inl (by simp [cut])

/-- A text that begins with two slashes has no path, or one from the root. -/
theorem path_eq_nil_or_root {s : String} (h : ['/', '/'] <+: s.toList) :
    (parts s).path.toList = [] ∨ (parts s).path.toList.head? = some '/' := by
  obtain ⟨r, hr⟩ := h
  obtain ⟨cs, hcs⟩ : ∃ cs, clean s.toList = '/' :: '/' :: cs := by
    rw [← hr]
    exact ⟨_, clean_slashes r⟩
  have hends : ∀ c ∈ (cs.dropWhile (!endsNetloc ·)).head?, endsNetloc c = true := by
    intro c hc
    have hdrop := List.head?_dropWhile_not (!endsNetloc ·) cs
    rw [hc] at hdrop
    simpa using hdrop
  simp only [parts, hcs, splitScheme_slash, splitNetloc, String.toList_ofList]
  exact path_cut hends

def isBare (s : String) : Bool := (parts s).path.toList.isEmpty

theorem pathMatches_root {s : String} (h : ['/', '/'] <+: s.toList) :
    pathMatches ['/'] (parts s).path.toList = !isBare s := by
  rw [isBare]
  obtain hpath | hpath := path_eq_nil_or_root h
  · rw [hpath]
    decide
  · obtain ⟨r, hr⟩ := List.head?_eq_some_iff.1 hpath
    simp [hr, pathMatches, isFolder]

end Entries

/-- One more test makes a search find something else unless what it found passes the test. -/
theorem map_find?_and_eq_iff {α β : Type} {f : α → β} {p q : α → Bool}
    (hf : ∀ a b, f a = f b → q a = q b) (l : List α) :
    (l.find? fun a => p a && q a).map f = (l.find? p).map f ↔
      ∀ a, l.find? p = some a → q a = true := by
  induction l with
  | nil => simp
  | cons a r ih =>
    cases hp : p a with
    | false => simpa [List.find?_cons, hp] using ih
    | true =>
      cases hq : q a with
      | true => simp [hp, hq]
      | false =>
        simp only [List.find?_cons, hp, hq, Bool.and_false, Option.map_some, Option.some.injEq,
          forall_eq', Bool.false_eq_true, iff_false, Option.map_eq_some_iff, not_exists, not_and]
        intro b hb hab
        have hqb := List.find?_some (p := fun a => p a && q a) hb
        rw [Bool.and_eq_true, hf b a hab, hq] at hqb
        exact absurd hqb.2 (by decide)

def allowsHostOf (host s : String) : Bool :=
  hostMatches (small host.toList) (parts s).domain.toList

section Patterns

variable {host path : String} {l : List String} (hl : ∀ s ∈ l, isWellFormed s = true)
include hl

theorem firstMatch_hostPath (hn : IsPatternHost host.toList) (hq : IsPath path.toList) :
    firstMatch (hostPath host path) (l.map .text) =
      .ok ((l.find? fun s => allowsHostOf host s &&
        pathMatches (clean path.toList) (parts s).path.toList).map parts) := by
  have hsplit := split_hostPath hn hq (toList_hostPath host path)
  have hhost : lowerChars (lowerHost (hostText host.toList)) = small host.toList := by
    rw [hostText_patternHost hn, lowerHost_patternHost hn, lowerChars_small,
      lowerChars_of_isAscii hn.isAscii]
  rw [firstMatch_eq hsplit, firstEntry_of_isWellFormed _ _ hl, toList_domain,
    String.toList_ofList, String.toList_ofList, hhost]
  rfl

/-- Without a path the host alone decides. -/
theorem firstMatch_bare (hn : IsPatternHost host.toList) :
    firstMatch (hostPath host "") (l.map .text) =
      .ok ((l.find? (allowsHostOf host)).map parts) := by
  have hall : ∀ q, pathMatches (clean "".toList) q = true := fun _ => rfl
  rw [firstMatch_hostPath hl hn ⟨.inl rfl, by decide, by decide⟩]
  simp only [hall, Bool.and_true]

/-- An entry without a path is passed over, and the search goes on to the next of its host. -/
theorem firstMatch_rootPath (hn : IsPatternHost host.toList)
    (hslashes : ∀ s ∈ l, ['/', '/'] <+: s.toList) :
    firstMatch (hostPath host "/") (l.map .text) =
      .ok ((l.find? fun s => allowsHostOf host s && !isBare s).map parts) := by
  have hclean : clean "/".toList = ['/'] := by decide
  have hfind : (l.find? fun s => allowsHostOf host s &&
        pathMatches ['/'] (parts s).path.toList) =
      l.find? fun s => allowsHostOf host s && !isBare s :=
    List.find?_congr fun s hs => by rw [pathMatches_root (hslashes s hs)]
  rw [firstMatch_hostPath hl hn ⟨.inr rfl, by decide, by decide⟩, hclean, hfind]

end Patterns

/-- A host without a path finds the first entry of a host that it allows, and with the root for a
path the first of them that has a path. So the root restricts nothing exactly if the first entry of
an allowed host has a path, or if there is none. -/
theorem firstMatch_root {h : String} (hh : ∀ c ∈ h.toList, isHostChar c = true) {l : List String}
    (hl : ∀ s ∈ l, isWellFormed s = true ∧ ['/', '/'] <+: s.toList) :
    ∀ host ∈ [h, "*." ++ h],
      firstMatch (hostPath host "") (l.map .text) =
        .ok ((l.find? (allowsHostOf host)).map parts) ∧
      firstMatch (hostPath host "/") (l.map .text) =
        .ok ((l.find? fun s => allowsHostOf host s && !isBare s).map parts) ∧
      (firstMatch (hostPath host "/") (l.map .text) =
          firstMatch (hostPath host "") (l.map .text) ↔
        ∀ s, l.find? (allowsHostOf host) = some s → isBare s = false) := by
  have hhosts : ∀ host ∈ [h, "*." ++ h], IsPatternHost host.toList := by
    simp only [List.forall_mem_cons, List.not_mem_nil, false_implies, implies_true, and_true]
    exact ⟨fun c hc => by rw [hh c hc, Bool.true_or], isPatternHost_wildcard hh⟩
  intro host hhost
  have hbare := firstMatch_bare (fun s hs => (hl s hs).1) (hhosts host hhost)
  have hroot := firstMatch_rootPath (fun s hs => (hl s hs).1) (hhosts host hhost)
    fun s hs => (hl s hs).2
  have hparts : ∀ s t, parts s = parts t → (!isBare s) = !isBare t := by
    intro s t hst
    rw [isBare, isBare, hst]
  refine ⟨hbare, hroot, ?_⟩
  rw [hbare, hroot, Except.ok.injEq, map_find?_and_eq_iff hparts]
  simp only [Bool.not_eq_true']

/-- The wildcard allows the hosts of the last two entries, and the first of these has a path. -/
theorem firstMatch_root_wildcardExample :
    firstMatch (hostPath ("*." ++ "b.c") "/") (["//b.c", "//a.b.c/q", "//x.b.c"].map .text) =
      firstMatch (hostPath ("*." ++ "b.c") "") (["//b.c", "//a.b.c/q", "//x.b.c"].map .text) := by
  have hentries : ∀ s ∈ ["//b.c", "//a.b.c/q", "//x.b.c"],
      isWellFormed s = true ∧ ['/', '/'] <+: s.toList := by decide +kernel
  have hfind : ["//b.c", "//a.b.c/q", "//x.b.c"].find? (allowsHostOf ("*." ++ "b.c")) =
      some "//a.b.c/q" := by decide +kernel
  refine (firstMatch_root (h := "b.c") (List.all_eq_true.1 (by decide)) hentries _
    (by simp)).2.2.2 fun s hs => ?_
  rw [hfind] at hs
  cases hs
  decide +kernel

/-- One of the well-known places is a whole host. The source that allows all its paths by a slash is
taken for harmless, the one that allows them without a path is not. -/
theorem firstMatch_root_bareEntry :
    "//cdn.jsdelivr.net" ∈ Bypass.jsonpUrls ∧ isWellFormed "//cdn.jsdelivr.net" = true ∧
      "cdn.jsdelivr.net".toList.all isHostChar = true ∧
      (firstMatch (hostPath "cdn.jsdelivr.net" "/") [.text "//cdn.jsdelivr.net"]).toOption =
        some none ∧
      (firstMatch (hostPath "cdn.jsdelivr.net" "") [.text "//cdn.jsdelivr.net"]).toOption =
        some (some ⟨"", "cdn.jsdelivr.net", "", "", ""⟩) :=
  ⟨List.mem_of_getLast? rfl, by decide +kernel, by decide +kernel, by decide +kernel,
    by decide +kernel⟩

end Url

end ContentPolicy
