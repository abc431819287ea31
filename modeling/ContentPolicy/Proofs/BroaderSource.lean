import ContentPolicy.Proofs.FirstMatch
import ContentPolicy.Proofs.Hosts
import ContentPolicy.Proofs.Words

/-!
A pattern that allows more never loses what was found: it finds that or something in front of it.
-/

namespace ContentPolicy

namespace Text

theorem cut_of_not_mem {m : Char} {cs : List Char} (h : m ∉ cs) : cut m cs = (cs, []) := by
  have hall : ∀ c ∈ cs, (c != m) = true := fun c hc => bne_iff_ne.2 fun hcm => h (hcm ▸ hc)
  rw [cut, List.takeWhile_eq_self_iff.2 hall, List.dropWhile_eq_nil_iff.2 hall, List.drop_nil]

end Text

namespace Url

open Text

section Search

structure FindsAt (pattern : String) (l : List String) (i : Nat) (u : Url) : Prop where
  passes : firstMatch pattern ((l.take i).map .text) = .ok none
  entry : l[i]?.map split = some (.ok u)
  found : firstMatch pattern (l.map .text) = .ok (some u)

variable {pattern : String} {before after : List String} {s : String} {u : Url}

/-- A search that has passed all of a front list finds the next entry at the length of that list. -/
theorem findsAt_length
    (hbefore : ∀ x ∈ before, isWellFormed x = true ∧ ¬ Matches pattern x) (hs : split s = .ok u)
    (hmatch : Matches pattern s) : FindsAt pattern (before ++ s :: after) before.length u where
  passes := by
    rw [List.take_left]
    exact firstMatch_eq_none_iff.2 ⟨isWellFormed_of_matches hmatch, hbefore⟩
  entry := by simp [hs]
  found := firstMatch_eq_some_iff.2 ⟨before, s, after, rfl, hs, hmatch, hbefore⟩

def Covers (broad narrow : String) : Prop := ∀ s, Matches narrow s → Matches broad s

/-- What the narrower search has passed is well formed, so the broader one cannot break off there. -/
theorem Covers.exists_findsAt {broad : String} (h : Covers broad pattern)
    (hbefore : ∀ x ∈ before, isWellFormed x = true) (hs : split s = .ok u)
    (hmatch : Matches pattern s) :
    ∃ j ≤ before.length, ∃ w, FindsAt broad (before ++ s :: after) j w := by
  have hbroad := h s hmatch
  cases hb : firstMatch broad (before.map .text) with
  | error e =>
    obtain hno | ⟨_, x, _, rfl, hx, -⟩ := firstMatch_eq_error_iff.1 ⟨e, hb⟩
    · exact absurd hbroad (not_matches_of_malformed hno s)
    · rw [hbefore x (by simp)] at hx
      cases hx
  | ok found =>
    cases found with
    | none =>
      have hpassed := (firstMatch_eq_none_iff.1 hb).2
      exact ⟨before.length, le_rfl, u, findsAt_length hpassed hs hbroad⟩
    | some w =>
      obtain ⟨front, x, rest, rfl, hx, hmatch, hfront⟩ := firstMatch_eq_some_iff.1 hb
      have hfinds : FindsAt broad (front ++ x :: (rest ++ s :: after)) front.length w :=
        findsAt_length hfront hx hmatch
      refine ⟨front.length, by simp, w, ?_⟩
      rwa [List.append_assoc, List.cons_append]

end Search

section HostPath

def isHostChar (c : Char) : Bool := c.isAlphanum || c == '-' || c == '_' || c == '.'

theorem isAscii_of_isHostChar {c : Char} (h : isHostChar c = true) : isAscii c = true := by
  simp only [isHostChar, Bool.or_eq_true, beq_iff_eq] at h
  obtain ((hletter | rfl) | rfl) | rfl := h
  · exact isAscii_of_isAlphanum hletter
  all_goals decide

def IsPatternHost (cs : List Char) : Prop := ∀ c ∈ cs, (isHostChar c || c == '*') = true

structure IsPath (cs : List Char) : Prop where
  root : cs = [] ∨ cs.head? = some '/'
  query : '?' ∉ cs
  fragment : '#' ∉ cs

/-- Only characters beyond ASCII can hide a delimiter. -/
theorem checkNetloc_of_isAscii {n : List Char} (hleft : '[' ∉ n) (hright : ']' ∉ n)
    (hascii : ∀ c ∈ n, isAscii c = true) : checkNetloc n = .ok () := by
  have hplain : n.any (fun c => delimiterLikes.contains c.toNat) = false := by
    refine List.any_eq_false.2 fun c hc => ?_
    have hc := hascii c hc
    simp only [isAscii, decide_eq_true_eq] at hc
    simp [delimiterLikes]
    omega
  have hleft : n.contains '[' = false := by simpa using hleft
  have hright : n.contains ']' = false := by simpa using hright
  simp only [checkNetloc, checkBrackets, hleft, hright, hplain]
  rfl

variable {n q : List Char}

section Host

variable (hn : IsPatternHost n)
include hn

theorem IsPatternHost.ne {c m : Char} (hc : c ∈ n) (hm : (isHostChar m || m == '*') = false) :
    c ≠ m := by
  rintro rfl
  rw [hn c hc] at hm
  cases hm

theorem IsPatternHost.not_mem {m : Char} (hm : (isHostChar m || m == '*') = false) : m ∉ n :=
  fun hmem => hn.ne hmem hm rfl

theorem IsPatternHost.isAscii : ∀ c ∈ n, isAscii c = true := by
  intro c hc
  have hchar := hn c hc
  rw [Bool.or_eq_true, beq_iff_eq] at hchar
  obtain h | rfl := hchar
  · exact isAscii_of_isHostChar h
  · decide

theorem checkNetloc_patternHost : checkNetloc n = .ok () :=
  checkNetloc_of_isAscii (hn.not_mem (by decide)) (hn.not_mem (by decide)) hn.isAscii

theorem hostText_patternHost : hostText n = n := by
  have hopen : n.contains '[' = false := by simpa using hn.not_mem (m := '[') (by decide)
  have hport := cut_of_not_mem (hn.not_mem (m := ':') (by decide))
  simp only [hostText, afterLast_of_not_mem (hn.not_mem (m := '@') (by decide)), hopen, hport,
    Bool.false_eq_true, if_false]

theorem lowerHost_patternHost : lowerHost n = small n := by
  have hzone : ∀ c ∈ n, (c != '%') = true := fun c hc => bne_iff_ne.2 (hn.ne hc (by decide))
  rw [lowerHost, List.takeWhile_eq_self_iff.2 hzone, List.dropWhile_eq_nil_iff.2 hzone,
    List.append_nil, lowerChars_of_isAscii hn.isAscii]

end Host

section Path

variable (hq : IsPath q)
include hq

theorem clean_path : clean q = q.filter fun c => c != '\t' && c != '\n' && c != '\r' := by
  obtain rfl | hroot := hq.root
  · rfl
  · obtain ⟨r, rfl⟩ := List.head?_eq_some_iff.1 hroot
    simp [clean]

theorem IsPath.isPath_clean : IsPath (clean q) where
  root := by
    rw [clean_path hq]
    obtain rfl | hroot := hq.root
    · exact .inl rfl
    · obtain ⟨r, rfl⟩ := List.head?_eq_some_iff.1 hroot
      exact .inr rfl
  query := fun h => hq.query (List.mem_of_mem_filter (clean_path hq ▸ h))
  fragment := fun h => hq.fragment (List.mem_of_mem_filter (clean_path hq ▸ h))

end Path

variable (hn : IsPatternHost n) (hq : IsPath q)
include hn hq

theorem clean_hostPath : clean ('/' :: '/' :: (n ++ q)) = '/' :: '/' :: (n ++ clean q) := by
  have hkept : n.filter (fun c => c != '\t' && c != '\n' && c != '\r') = n := by
    refine List.filter_eq_self.2 fun c hc => ?_
    simp [hn.ne hc (m := '\t') (by decide), hn.ne hc (m := '\n') (by decide),
      hn.ne hc (m := '\r') (by decide)]
  rw [clean_slashes, List.filter_append, hkept, clean_path hq]

theorem splitNetloc_hostPath : splitNetloc ('/' :: '/' :: (n ++ q)) = (n, q) := by
  have hin : ∀ c ∈ n, (!endsNetloc c) = true := by
    intro c hc
    simp [endsNetloc, hn.ne hc (m := '/') (by decide), hn.ne hc (m := '?') (by decide),
      hn.ne hc (m := '#') (by decide)]
  have hout : q.takeWhile (!endsNetloc ·) = [] ∧ q.dropWhile (!endsNetloc ·) = q := by
    obtain rfl | hroot := hq.root
    · exact ⟨rfl, rfl⟩
    · obtain ⟨r, rfl⟩ := List.head?_eq_some_iff.1 hroot
      simp [endsNetloc]
  rw [splitNetloc, List.takeWhile_append_of_pos hin, List.dropWhile_append_of_pos hin, hout.1,
    hout.2, List.append_nil]

/-- A plain host and a path are handed out as they are, but for line breaks and tabs. -/
theorem split_hostPath {text : String} (ht : text.toList = '/' :: '/' :: (n ++ q)) :
    split text = .ok ⟨"", .ofList n, .ofList (clean q), "", ""⟩ := by
  have hclean := hq.isPath_clean
  simp only [split, ht, clean_hostPath hn hq, splitScheme_slash, splitNetloc_hostPath hn hclean,
    checkNetloc_patternHost hn, cut_of_not_mem hclean.query, cut_of_not_mem hclean.fragment]

/-- Plain hosts and paths are compared as they are written. -/
theorem matches_hostPath_iff {text : String} (ht : text.toList = '/' :: '/' :: (n ++ q))
    {s : String} :
    Matches text s ↔ ∃ u, split s = .ok u ∧ AllowsHost (small n) u.domain.toList ∧
      AllowsPath (clean q) u.path.toList := by
  have hsplit := split_hostPath hn hq ht
  have hhost : lowerChars (lowerHost (hostText n)) = small n := by
    rw [hostText_patternHost hn, lowerHost_patternHost hn, lowerChars_small,
      lowerChars_of_isAscii hn.isAscii]
  constructor
  · rintro ⟨p, u, hp, hu, hallows⟩
    cases hsplit.symm.trans hp
    rw [toList_domain, String.toList_ofList, hhost, String.toList_ofList] at hallows
    exact ⟨u, hu, hallows⟩
  · rintro ⟨u, hu, hallows⟩
    refine ⟨_, u, hsplit, hu, ?_⟩
    rwa [toList_domain, String.toList_ofList, hhost, String.toList_ofList]

end HostPath

section Broader

/-- A wildcard allows each host that has labels where it stands. -/
theorem AllowsHost.wildcard {a r d : List Char} (ha : '*' ∉ a) (h : AllowsHost (a ++ '.' :: r) d) :
    AllowsHost ('*' :: '.' :: r) d := by
  obtain ⟨-, rfl⟩ | ⟨x, hx, -⟩ := h
  · exact .inr ⟨r, rfl, a, rfl⟩
  · cases a with
    | nil => simp at hx
    | cons c a =>
      obtain ⟨rfl, -⟩ := List.cons.inj hx
      exact absurd List.mem_cons_self ha

/-- A folder allows all below it, so also what a path there allows. -/
theorem AllowsPath.folder {p q d : List Char} (hp : p.getLast? = some '/') (hpq : p <+: q)
    (h : AllowsPath q d) : AllowsPath p d := by
  refine .inr (.inl ⟨hp, ?_⟩)
  obtain rfl | ⟨-, hq⟩ | rfl := h
  · rw [List.prefix_nil.1 hpq]
    exact List.nil_prefix
  · exact hpq.trans hq
  · exact hpq

def hostPath (host path : String) : String := "//" ++ host ++ path

theorem toList_hostPath (host path : String) :
    (hostPath host path).toList = '/' :: '/' :: (host.toList ++ path.toList) := by
  simp [hostPath]

/-- A host and a path that allow more make a pattern that covers more. -/
theorem covers_hostPath {host host' path path' : String} (hh : IsPatternHost host.toList)
    (hh' : IsPatternHost host'.toList) (hp : IsPath path.toList) (hp' : IsPath path'.toList)
    (hhost : ∀ d, AllowsHost (small host.toList) d → AllowsHost (small host'.toList) d)
    (hpath : ∀ d, AllowsPath (clean path.toList) d → AllowsPath (clean path'.toList) d) :
    Covers (hostPath host' path') (hostPath host path) := by
  intro s h
  obtain ⟨u, hu, hallows⟩ := (matches_hostPath_iff hh hp (toList_hostPath host path)).1 h
  exact (matches_hostPath_iff hh' hp' (toList_hostPath host' path')).2
    ⟨u, hu, hhost _ hallows.1, hpath _ hallows.2⟩

variable {a h p q : String}

theorem isPatternHost_labels (ha : ∀ c ∈ a.toList, isHostChar c = true)
    (hh : ∀ c ∈ h.toList, isHostChar c = true) : IsPatternHost (a ++ "." ++ h).toList := by
  intro c hc
  rw [String.toList_append, String.toList_append, List.mem_append, List.mem_append] at hc
  obtain (hc | hc) | hc := hc
  · rw [ha c hc, Bool.true_or]
  · rw [List.mem_singleton.1 hc]
    decide
  · rw [hh c hc, Bool.true_or]

theorem isPatternHost_wildcard (hh : ∀ c ∈ h.toList, isHostChar c = true) :
    IsPatternHost ("*." ++ h).toList := by
  intro c hc
  rw [String.toList_append, List.mem_append] at hc
  obtain hc | hc := hc
  · exact List.all_eq_true.1 (by decide : "*.".toList.all (fun c => isHostChar c || c == '*')) c hc
  · rw [hh c hc, Bool.true_or]

theorem IsPath.start {p q : List Char} (hq : IsPath q) (hpq : p <+: q) : IsPath p where
  root := by
    obtain ⟨r, rfl⟩ := hpq
    cases p with
    | nil => exact .inl rfl
    | cons c p => exact .inr (by simpa using hq.root)
  query := fun h => hq.query (hpq.subset h)
  fragment := fun h => hq.fragment (hpq.subset h)

/-- Line breaks and tabs are dropped from both. -/
theorem allowsPath_clean_folder {p q d : List Char} (hq : IsPath q) (hp : p.getLast? = some '/')
    (hpq : p <+: q) (h : AllowsPath (clean q) d) : AllowsPath (clean p) d := by
  rw [clean_path hq] at h
  rw [clean_path (hq.start hpq)]
  refine h.folder ?_ (hpq.filter _)
  obtain ⟨r, rfl⟩ := List.getLast?_eq_some_iff.1 hp
  simp

theorem allowsHost_small_wildcard (ha : ∀ c ∈ a.toList, isHostChar c = true) {d : List Char}
    (hd : AllowsHost (small (a ++ "." ++ h).toList) d) :
    AllowsHost (small ("*." ++ h).toList) d := by
  have hlabels : small (a ++ "." ++ h).toList = small a.toList ++ '.' :: small h.toList := by
    simp [small]
  have hstar : (small a.toList).contains '*' = false := by
    rw [contains_small (m := '*') (by decide)]
    refine Bool.eq_false_iff.2 fun hmem => ?_
    exact absurd (ha '*' (by simpa using hmem)) (by decide)
  rw [hlabels] at hd
  simpa [small] using hd.wildcard (by simpa using hstar)

/-- What is found for a host and a path, or something before it, is found for a folder above the
path, for any path, and for a wildcard in place of the first labels. -/
theorem broader_finds (ha : ∀ c ∈ a.toList, isHostChar c = true)
    (hh : ∀ c ∈ h.toList, isHostChar c = true) (hq : IsPath q.toList)
    (hfolder : p.toList.getLast? = some '/') (hpq : p.toList <+: q.toList) {l : List String}
    {u : Url} (hfound : firstMatch (hostPath (a ++ "." ++ h) q) (l.map .text) = .ok (some u)) :
    ∃ i, FindsAt (hostPath (a ++ "." ++ h) q) l i u ∧
      ∀ host ∈ [a ++ "." ++ h, "*." ++ h], ∀ path ∈ [q, p, ""],
        ∃ j ≤ i, ∃ w, FindsAt (hostPath host path) l j w := by
  have hplain := isPatternHost_labels ha hh
  have hhosts : ∀ host ∈ [a ++ "." ++ h, "*." ++ h], IsPatternHost host.toList ∧
      ∀ d, AllowsHost (small (a ++ "." ++ h).toList) d → AllowsHost (small host.toList) d := by
    simp only [List.forall_mem_cons, List.not_mem_nil, false_implies, implies_true, and_true]
    exact ⟨⟨hplain, fun _ => id⟩, isPatternHost_wildcard hh, fun _ => allowsHost_small_wildcard ha⟩
  have hpaths : ∀ path ∈ [q, p, ""], IsPath path.toList ∧
      ∀ d, AllowsPath (clean q.toList) d → AllowsPath (clean path.toList) d := by
    simp only [List.forall_mem_cons, List.not_mem_nil, false_implies, implies_true, and_true]
    exact ⟨⟨hq, fun _ => id⟩, ⟨hq.start hpq,
      fun _ => allowsPath_clean_folder hq hfolder hpq⟩,
      ⟨.inl rfl, by decide, by decide⟩, fun _ _ => .inl rfl⟩
  obtain ⟨before, s, after, rfl, hs, hmatch, hbefore⟩ := firstMatch_eq_some_iff.1 hfound
  refine ⟨before.length, findsAt_length hbefore hs hmatch, fun host hhost path hpath => ?_⟩
  obtain ⟨hhost, hallowsHost⟩ := hhosts host hhost
  obtain ⟨hpath, hallowsPath⟩ := hpaths path hpath
  have hcovers := covers_hostPath hplain hhost hq hpath hallowsHost hallowsPath
  exact hcovers.exists_findsAt (fun x hx => (hbefore x hx).1) hs hmatch

theorem broader_finds_folderExample :
    ∃ i, FindsAt (hostPath ("b" ++ "." ++ "c") "/x/y") ["//a.c/x/", "//b.c/x/y", "//["] i
        ⟨"", "b.c", "/x/y", "", ""⟩ ∧
      ∃ j ≤ i, ∃ w, FindsAt (hostPath ("*." ++ "c") "/x/")
        ["//a.c/x/", "//b.c/x/y", "//["] j w := by
  have hq : IsPath "/x/y".toList := ⟨.inr rfl, by decide +kernel, by decide +kernel⟩
  obtain ⟨i, hfound, hbroad⟩ := broader_finds (a := "b") (h := "c") (p := "/x/")
    (List.all_eq_true.1 (by decide)) (List.all_eq_true.1 (by decide)) hq (by decide) (by decide)
    (ok_of_toOption (by decide +kernel) : firstMatch (hostPath ("b" ++ "." ++ "c") "/x/y")
      (["//a.c/x/", "//b.c/x/y", "//["].map .text) = .ok (some ⟨"", "b.c", "/x/y", "", ""⟩))
  exact ⟨i, hfound, hbroad _ (by simp) _ (by simp)⟩

end Broader

end Url

end ContentPolicy
