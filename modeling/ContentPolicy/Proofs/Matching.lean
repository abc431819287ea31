import ContentPolicy.Bypass
import ContentPolicy.Url.Matching

/-!
Only an entry that is no text can break off the search for a source in a list.
-/

namespace ContentPolicy

def BypassLists.AllTexts (b : BypassLists) : Prop :=
  ∃ jsonpUrls angularUrls flashUrls jsonpNeedsEval,
    b = .ofStrings jsonpUrls angularUrls flashUrls jsonpNeedsEval

def BypassLists.urls (b : BypassLists) : List Literal :=
  b.jsonpUrls ++ b.angularUrls ++ b.flashUrls

/-- The fault is of an entry that is no text. -/
def BypassLists.Blames (b : BypassLists) (f : Fault) : Prop :=
  ∃ entry ∈ b.urls, entry.text? = none ∧ f = .unusableEntry entry

namespace Url

def allows (host path : List Char) (u : Url) : Bool :=
  hostMatches host u.domain.toList && pathMatches path u.path.toList

theorem matchEntry_text (host path : List Char) (s : String) :
    matchEntry host path (.text s) =
      match split s with
      | .error e => .error (.malformed e)
      | .ok u => .ok (if allows host path u then some u else none) := by
  simp only [matchEntry, ofEntry]
  cases split s with
  | error e => rfl
  | ok u =>
    have hok : (Except.ok u).mapError MatchError.malformed = .ok u := rfl
    cases hh : hostMatches host u.domain.toList <;> cases hp : pathMatches path u.path.toList <;>
      simp [hok, Literal.text?, allows, hh, hp]

theorem text?_of_ofEntry_unusable {e entry : Literal} (h : ofEntry e = .error (.unusable entry)) :
    entry = e ∧ e.text? = none := by
  cases e with
  | text s =>
    simp only [ofEntry] at h
    cases hs : split s with
    | error e =>
      rw [hs] at h
      nomatch h
    | ok u =>
      rw [hs] at h
      nomatch h
  | list items => simpa [ofEntry, Literal.text?, eq_comm] using h
  | record fields => simpa [ofEntry, Literal.text?, eq_comm] using h
  | null | bool | int | decimal | infinite | undefined =>
    simp only [ofEntry] at h
    split at h
    · cases h
    · cases h
      exact ⟨rfl, rfl⟩

/-- A text has a path to look below, so it is compared without more ado. -/
theorem text?_of_matchEntry_unusable {host path : List Char} {e entry : Literal}
    (h : matchEntry host path e = .error (.unusable entry)) : entry = e ∧ e.text? = none := by
  unfold matchEntry at h
  split at h
  case h_1 err he =>
    cases h
    exact text?_of_ofEntry_unusable he
  case h_2 u _ =>
    split at h
    · split at h
      case isTrue hnone =>
        cases h
        rw [Bool.and_eq_true] at hnone
        exact ⟨rfl, Option.isNone_iff_eq_none.1 hnone.1⟩
      case isFalse => cases h
    · cases h

theorem mem_of_firstEntry_unusable {host path : List Char} {l : List Literal} {entry : Literal}
    (h : firstEntry host path l = .error (.unusable entry)) : entry ∈ l ∧ entry.text? = none := by
  induction l with
  | nil => cases h
  | cons e r ih =>
    rw [firstEntry] at h
    split at h
    · obtain ⟨hmem, hnone⟩ := ih h
      exact ⟨List.mem_cons_of_mem e hmem, hnone⟩
    · obtain ⟨rfl, hnone⟩ := text?_of_matchEntry_unusable h
      exact ⟨List.mem_cons_self, hnone⟩

def isWellFormed (s : String) : Bool := (split s).isOk

theorem exists_of_isWellFormed {s : String} (h : isWellFormed s = true) :
    ∃ u, split s = .ok u := by
  cases hs : split s with
  | error e => simp [isWellFormed, hs, Except.isOk, Except.toBool] at h
  | ok u => exact ⟨u, rfl⟩

theorem firstEntry_cons_text {s : String} {u : Url} (h : split s = .ok u) (host path : List Char)
    (r : List Literal) :
    firstEntry host path (.text s :: r) =
      if allows host path u then .ok (some u) else firstEntry host path r := by
  rw [firstEntry, matchEntry_text, h]
  cases ha : allows host path u <;> simp [ha]

end Url

namespace Source

/-- A search breaks off only at an entry that is no text. -/
theorem mem_of_firstMatch_error {value : String} {l : List Literal} {f : Fault}
    (h : firstMatch value l = .error f) :
    ∃ entry ∈ l, entry.text? = none ∧ f = .unusableEntry entry := by
  unfold firstMatch at h
  split at h
  · cases h
  · cases h
  case h_3 entry hm =>
    cases h
    unfold Url.firstMatch at hm
    split at hm
    · cases hm
    · obtain ⟨hmem, hnone⟩ := Url.mem_of_firstEntry_unusable hm
      exact ⟨entry, hmem, hnone, rfl⟩

def match? (value url : String) : Option Url :=
  match firstMatch value [.text url] with
  | .ok found => found
  | .error _ => none

theorem firstMatch_nil (value : String) : firstMatch value [] = .ok none := by
  unfold firstMatch Url.firstMatch
  cases Url.split ("//" ++ schemeFree value) <;> rfl

theorem firstMatch_cons_text {s : String} (h : Url.isWellFormed s = true) (value : String)
    (r : List Literal) :
    firstMatch value (.text s :: r) =
      match match? value s with
      | some u => .ok (some u)
      | none => firstMatch value r := by
  obtain ⟨u, hu⟩ := Url.exists_of_isWellFormed h
  unfold match? firstMatch Url.firstMatch
  cases Url.split ("//" ++ schemeFree value) with
  | error e => rfl
  | ok p =>
    simp only [Url.firstEntry_cons_text hu]
    cases Url.allows (Text.lowerChars p.domain.toList) p.path.toList u <;> rfl

/-- Among entries that can all be taken apart the first that the source allows is found. -/
theorem firstMatch_texts {l : List String} (h : ∀ s ∈ l, Url.isWellFormed s = true)
    (value : String) : firstMatch value (l.map .text) = .ok (l.findSome? (match? value)) := by
  induction l with
  | nil => exact firstMatch_nil value
  | cons s r ih =>
    have hr := ih fun x hx => h x (List.mem_cons_of_mem _ hx)
    rw [List.map_cons, firstMatch_cons_text (h s List.mem_cons_self), hr, List.findSome?_cons]
    cases match? value s <;> rfl

end Source

namespace BypassLists

variable {b : BypassLists} {f : Fault}

/-- Only an entry that is no text breaks a search off. -/
theorem blames_of_firstMatch_error {value : String} {entries : List Literal}
    (hs : entries ⊆ b.urls) (h : Source.firstMatch value entries = .error f) : b.Blames f := by
  obtain ⟨entry, hmem, hnone, hf⟩ := Source.mem_of_firstMatch_error h
  exact ⟨entry, hs hmem, hnone, hf⟩

theorem AllTexts.not_blames (hb : b.AllTexts) : ¬ b.Blames f := by
  obtain ⟨jsonpUrls, angularUrls, flashUrls, jsonpNeedsEval, rfl⟩ := hb
  rintro ⟨entry, hmem, hnone, -⟩
  have htext : entry ∈ (jsonpUrls ++ angularUrls ++ flashUrls).map Literal.text := by
    simpa only [urls, ofStrings, List.map_append] using hmem
  obtain ⟨s, -, rfl⟩ := List.mem_map.1 htext
  cases hnone

/-- Where only an entry could be blamed and all of them are texts, there is a result. -/
theorem AllTexts.exists_ok {α : Type} (hb : b.AllTexts) {r : Except Fault α}
    (h : ∀ f, r = .error f → b.Blames f) : ∃ a, r = .ok a := by
  cases hr : r with
  | ok a => exact ⟨a, rfl⟩
  | error f => exact absurd (h f hr) hb.not_blames

end BypassLists

end ContentPolicy
