import ContentPolicy.Url.Matching
import Mathlib.Data.List.Basic
import Mathlib.Data.List.TakeWhile

/-!
What stands before a host. A scheme is told by the mark that follows it, and all that is read of a
source is read of the rest.
-/

namespace ContentPolicy.Source

/-- A letter, a digit or an underscore of any script, and more of them, with three marks allowed. -/
def IsScheme (s : List Char) : Prop :=
  ∃ c r, s = c :: r ∧ Text.isWord c = true ∧ ∀ x ∈ r, isSchemeWord x = true

structure StartsAtHost (cs : List Char) : Prop where
  no_slashes : ¬ "//".toList <+: cs
  no_scheme : ∀ s, IsScheme s → ¬ s ++ "://".toList <+: cs

inductive IsLead : String → Prop where
  | nothing : IsLead ""
  | slashes : IsLead "//"
  | scheme {s : String} (h : IsScheme s.toList) : IsLead (s ++ "://")
  | schemeSlashes {s : String} (h : IsScheme s.toList) : IsLead (s ++ "://" ++ "//")

theorem dropWhile_scheme {s : List Char} (h : ∀ c ∈ s, isSchemeWord c = true) (r : List Char) :
    (s ++ "://".toList ++ r).dropWhile isSchemeWord = "://".toList ++ r := by
  rw [List.append_assoc, List.dropWhile_append_of_pos h]
  exact List.dropWhile_cons_of_neg (by decide)

theorem isSchemeWord_of_isWord {c : Char} (h : Text.isWord c = true) : isSchemeWord c = true := by
  simp [isSchemeWord, h]

theorem IsScheme.isSchemeWord {s : List Char} (h : IsScheme s) :
    ∀ c ∈ s, isSchemeWord c = true := by
  obtain ⟨c, r, rfl, hc, hr⟩ := h
  exact List.forall_mem_cons.2 ⟨isSchemeWord_of_isWord hc, hr⟩

theorem dropScheme_scheme {s : List Char} (h : IsScheme s) (r : List Char) :
    dropScheme (s ++ "://".toList ++ r) = r := by
  obtain ⟨c, t, rfl, hc, ht⟩ := h
  rw [List.cons_append, List.cons_append, dropScheme, if_pos hc, dropWhile_scheme ht,
    List.isPrefixOf?_eq_some_iff_append_eq.2 rfl, Option.getD_some]

/-- Either no scheme stands in front, or one is taken away with its mark. -/
theorem dropScheme_cases (cs : List Char) :
    dropScheme cs = cs ∨ ∃ s, IsScheme s ∧ cs = s ++ "://".toList ++ dropScheme cs := by
  cases cs with
  | nil => exact .inl rfl
  | cons c r =>
    rw [dropScheme]
    split
    case isFalse => exact .inl rfl
    case isTrue hc =>
      cases hp : "://".toList.isPrefixOf? (r.dropWhile isSchemeWord) with
      | none => exact .inl rfl
      | some t =>
        have hscheme : IsScheme (c :: r.takeWhile isSchemeWord) :=
          ⟨c, _, rfl, hc, fun x hx => List.mem_takeWhile_imp hx⟩
        refine .inr ⟨_, hscheme, ?_⟩
        rw [Option.getD_some, List.append_assoc, List.isPrefixOf?_eq_some_iff_append_eq.1 hp,
          List.cons_append, List.takeWhile_append_dropWhile]

/-- A scheme ends where its characters end. -/
theorem no_scheme_of_dropWhile {cs : List Char}
    (h : ¬ "://".toList <+: cs.dropWhile isSchemeWord) :
    ∀ s, IsScheme s → ¬ s ++ "://".toList <+: cs := by
  rintro s hs ⟨t, rfl⟩
  rw [dropWhile_scheme hs.isSchemeWord] at h
  exact h (List.prefix_append _ _)

theorem StartsAtHost.dropScheme_eq {cs : List Char} (h : StartsAtHost cs) : dropScheme cs = cs := by
  obtain hsame | ⟨s, hs, hcs⟩ := dropScheme_cases cs
  · exact hsame
  · exact absurd ⟨_, hcs.symm⟩ (h.no_scheme s hs)

/-- No scheme begins with a slash. -/
theorem dropScheme_slashes (cs : List Char) :
    dropScheme ("//".toList ++ cs) = "//".toList ++ cs := by
  have hslash : Text.isWord '/' = false := by decide
  simp [dropScheme, hslash]

theorem schemeFree_of_slashes {value r : String}
    (h : dropScheme value.toList = "//".toList ++ r.toList) : schemeFree value = r := by
  rw [schemeFree, h, List.isPrefixOf?_eq_some_iff_append_eq.2 rfl, Option.getD_some,
    String.ofList_toList]

theorem schemeFree_of_startsAtHost {value r : String} (hr : StartsAtHost r.toList)
    (h : dropScheme value.toList = r.toList) : schemeFree value = r := by
  have hslashes : "//".toList.isPrefixOf? r.toList = none := by
    cases hp : "//".toList.isPrefixOf? r.toList with
    | none => rfl
    | some t => exact absurd ⟨t, List.isPrefixOf?_eq_some_iff_append_eq.1 hp⟩ hr.no_slashes
  rw [schemeFree, h, hslashes, Option.getD_none, String.ofList_toList]

/-- What stands before a host is taken away, and nothing of the host. -/
theorem schemeFree_lead {lead r : String} (hl : IsLead lead) (hr : StartsAtHost r.toList) :
    schemeFree (lead ++ r) = r := by
  cases hl with
  | nothing =>
    refine schemeFree_of_startsAtHost hr ?_
    rw [String.empty_append, hr.dropScheme_eq]
  | slashes =>
    refine schemeFree_of_slashes ?_
    rw [String.toList_append, dropScheme_slashes]
  | scheme hs =>
    refine schemeFree_of_startsAtHost hr ?_
    rw [String.toList_append, String.toList_append, dropScheme_scheme hs]
  | schemeSlashes hs =>
    refine schemeFree_of_slashes ?_
    rw [String.toList_append, String.toList_append, String.toList_append, List.append_assoc,
      dropScheme_scheme hs]

theorem dropScheme_eq_schemeFree (value : String) :
    dropScheme value.toList = (schemeFree value).toList ∨
      dropScheme value.toList = "//".toList ++ (schemeFree value).toList := by
  rw [schemeFree]
  cases h : "//".toList.isPrefixOf? (dropScheme value.toList) with
  | none => exact .inl (by rw [Option.getD_none, String.toList_ofList])
  | some r =>
    rw [Option.getD_some, String.toList_ofList]
    exact .inr (List.isPrefixOf?_eq_some_iff_append_eq.1 h).symm

/-- Nothing is taken away but what may stand before a host. -/
theorem exists_lead (value : String) : ∃ lead, IsLead lead ∧ value = lead ++ schemeFree value := by
  have hjoin {lead : String} (h : value.toList = lead.toList ++ (schemeFree value).toList) :
      value = lead ++ schemeFree value := by
    rw [← String.toList_inj, h, String.toList_append]
  have hrest := dropScheme_eq_schemeFree value
  obtain hnone | ⟨s, hs, hscheme⟩ := dropScheme_cases value.toList
  · rw [hnone] at hrest
    cases hrest with
    | inl h => exact ⟨"", .nothing, hjoin (by rw [h, String.toList_empty, List.nil_append])⟩
    | inr h => exact ⟨"//", .slashes, hjoin h⟩
  · have hs : IsScheme (String.ofList s).toList := by rwa [String.toList_ofList]
    cases hrest with
    | inl h =>
      refine ⟨_, .scheme hs, hjoin ?_⟩
      rw [String.toList_append, String.toList_ofList, ← h, ← hscheme]
    | inr h =>
      refine ⟨_, .schemeSlashes hs, hjoin ?_⟩
      rw [String.toList_append, String.toList_append, String.toList_ofList, List.append_assoc, ← h,
        ← hscheme]

theorem startsAtHost_star : StartsAtHost "*".toList where
  no_slashes := by decide
  no_scheme := no_scheme_of_dropWhile (by decide)

theorem schemeFree_eq_star_iff {value : String} :
    schemeFree value = "*" ↔ ∃ lead, IsLead lead ∧ value = lead ++ "*" := by
  constructor
  · intro h
    exact h ▸ exists_lead value
  · rintro ⟨lead, hlead, rfl⟩
    exact schemeFree_lead hlead startsAtHost_star

section SameRest

variable {value other : String} (h : schemeFree value = schemeFree other)
include h

theorem url?_eq_of_schemeFree_eq : url? value = url? other := by
  rw [url?, h, url?]

theorem address?_eq_of_schemeFree_eq : address? value = address? other := by
  rw [address?, url?_eq_of_schemeFree_eq h, address?]

theorem firstMatch_eq_of_schemeFree_eq (entries : List Literal) :
    firstMatch value entries = firstMatch other entries := by
  unfold firstMatch
  rw [h]

end SameRest

/-- Whatever stands before its host, a source is the same URL, or no URL at all, it has the same
address, and it allows the same of any list. The wildcard for all hosts is told by its host too, and
by nothing else. -/
theorem lead_irrelevant :
    (∀ r lead : String, StartsAtHost r.toList → IsLead lead →
      schemeFree (lead ++ r) = r ∧ url? (lead ++ r) = url? r ∧ address? (lead ++ r) = address? r ∧
        ∀ entries, firstMatch (lead ++ r) entries = firstMatch r entries) ∧
    ∀ value, schemeFree value = "*" ↔ ∃ lead, IsLead lead ∧ value = lead ++ "*" := by
  refine ⟨fun r lead hr hlead => ?_, fun value => schemeFree_eq_star_iff⟩
  have hrest : schemeFree (lead ++ r) = r := schemeFree_lead hlead hr
  have hself : schemeFree r = r := by
    have hnothing := schemeFree_lead .nothing hr
    rwa [String.empty_append] at hnothing
  have hsame : schemeFree (lead ++ r) = schemeFree r := hrest.trans hself.symm
  exact ⟨hrest, url?_eq_of_schemeFree_eq hsame, address?_eq_of_schemeFree_eq hsame,
    firstMatch_eq_of_schemeFree_eq hsame⟩

/-- A scheme with the look of an address, and one more mark of a scheme behind the host. -/
theorem lead_irrelevant_markExample :
    StartsAtHost "127.0.0.1:80/x://y".toList ∧ IsLead ("10.0.0.1" ++ "://") ∧
      (address? ("10.0.0.1" ++ "://" ++ "127.0.0.1:80/x://y")).any Address.isLoopback = true ∧
      url? ("10.0.0.1" ++ "://" ++ "127.0.0.1:80/x://y") =
        some ⟨"", "127.0.0.1:80", "/x://y", "", ""⟩ ∧
      schemeFree ("10.0.0.1" ++ "://" ++ "//" ++ "*") = "*" := by
  have hscheme : IsScheme "10.0.0.1".toList :=
    ⟨'1', "0.0.0.1".toList, rfl, by decide, List.all_eq_true.1 (by decide)⟩
  have hhost : StartsAtHost "127.0.0.1:80/x://y".toList :=
    ⟨by decide, no_scheme_of_dropWhile (by decide)⟩
  have hlead : IsLead ("10.0.0.1" ++ "://") := .scheme hscheme
  obtain ⟨-, hurl, haddress, -⟩ := lead_irrelevant.1 _ _ hhost hlead
  refine ⟨hhost, hlead, haddress ▸ by decide +kernel, hurl.trans (by decide +kernel), ?_⟩
  exact (lead_irrelevant.2 _).2 ⟨_, .schemeSlashes hscheme, rfl⟩

end ContentPolicy.Source
