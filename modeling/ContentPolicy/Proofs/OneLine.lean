import ContentPolicy.Check.Allowlist
import ContentPolicy.Proofs.Words

/-!
Texts without line breaks: neither hosts nor small letters nor numbers bring any in.
-/

namespace ContentPolicy

namespace Text

def OneLine (s : String) : Prop := '\n' ∉ s.toList

theorem oneLine_ofList {cs : List Char} : OneLine (.ofList cs) ↔ '\n' ∉ cs := by
  rw [OneLine, String.toList_ofList]

/-- A constant is the list of its characters to the checker of proofs. -/
theorem oneLine_of_all {cs : List Char} (h : cs.all (· != '\n') = true) : OneLine (.ofList cs) :=
  oneLine_ofList.2 fun hm => absurd (List.all_eq_true.1 h _ hm) (by decide)

theorem OneLine.append {s t : String} (hs : OneLine s) (ht : OneLine t) : OneLine (s ++ t) := by
  rw [OneLine, String.toList_append, List.mem_append]
  exact fun h => h.elim hs ht

/-- Most descriptions are some word between two constants. -/
theorem OneLine.between {s : String} {before after : List Char} (hs : OneLine s)
    (hb : before.all (· != '\n') = true) (ha : after.all (· != '\n') = true) :
    OneLine (.ofList before ++ s ++ .ofList after) :=
  ((oneLine_of_all hb).append hs).append (oneLine_of_all ha)

theorem OneLine.intercalate {sep : String} {ss : List String} (hsep : OneLine sep)
    (h : ∀ s ∈ ss, OneLine s) : OneLine (sep.intercalate ss) := by
  rw [OneLine, String.toList_intercalate]
  intro hm
  obtain hm | ⟨w, hw, hm⟩ := mem_intercalate hm
  · exact hsep hm
  · obtain ⟨s, hs, rfl⟩ := List.mem_map.1 hw
    exact h s hs hm

section Digits

theorem digitChar_ne_break (n : Nat) : Nat.digitChar n ≠ '\n' := by
  by_cases h : n < 16
  · have hall : ∀ m < 16, Nat.digitChar m ≠ '\n' := by decide
    exact hall n h
  · have hstar : Nat.digitChar n = '*' := by
      unfold Nat.digitChar
      repeat rw [if_neg (by omega)]
    rw [hstar]
    decide

theorem break_not_mem_toDigits {b : Nat} (hb : 1 < b) (n : Nat) : '\n' ∉ Nat.toDigits b n := by
  induction n using Nat.strongRecOn with
  | ind n ih =>
    by_cases hn : n < b
    · rw [Nat.toDigits_of_lt_base hn, List.mem_singleton]
      exact (digitChar_ne_break n).symm
    · have hlt : n / b < n := Nat.div_lt_self (by omega) hb
      rw [Nat.toDigits_of_base_le hb (Nat.not_lt.1 hn), List.mem_append, List.mem_singleton]
      exact fun hm => hm.elim (ih _ hlt) (digitChar_ne_break _).symm

theorem oneLine_toString (n : Nat) : OneLine (toString n) := by
  rw [Nat.toString_eq_ofList_toDigits, oneLine_ofList]
  exact break_not_mem_toDigits (by decide) n

end Digits

theorem cut_subset (c : Char) (cs : List Char) : (cut c cs).1 ⊆ cs ∧ (cut c cs).2 ⊆ cs :=
  ⟨(List.takeWhile_sublist _).subset,
    ((List.drop_sublist _ _).trans (List.dropWhile_sublist _)).subset⟩

theorem afterLast_subset (c : Char) (cs : List Char) : afterLast c cs ⊆ cs := by
  intro x hx
  exact List.mem_reverse.1 ((List.takeWhile_sublist _).subset (List.mem_reverse.1 hx))

end Text

open Text

namespace Address

theorem oneLine_joinGroups (groups : List Nat) : OneLine (joinGroups groups) := by
  refine OneLine.intercalate (oneLine_of_all (by decide)) fun s hs => ?_
  obtain ⟨g, -, rfl⟩ := List.mem_map.1 hs
  exact oneLine_ofList.2 (break_not_mem_toDigits (by decide) g)

/-- Only the zone is taken over from the text as it is. -/
theorem oneLine_render {a : Address}
    (h : ∀ groups zone, a = .v6 groups (some zone) → OneLine zone) : OneLine a.render := by
  cases a with
  | v4 a b c d =>
    refine OneLine.intercalate (oneLine_of_all (by decide)) fun s hs => ?_
    obtain ⟨n, -, rfl⟩ := List.mem_map.1 hs
    exact oneLine_toString n
  | v6 groups zone =>
    have htext (i n : Nat) : OneLine (if n < 2 then joinGroups groups
        else joinGroups (groups.take i) ++ "::" ++ joinGroups (groups.drop (i + n))) := by
      split
      · exact oneLine_joinGroups _
      · exact ((oneLine_joinGroups _).append (oneLine_of_all (by decide))).append
          (oneLine_joinGroups _)
    cases zone with
    | none => exact htext _ _
    | some zone =>
      exact ((htext _ _).append (oneLine_of_all (by decide))).append (h groups zone rfl)

theorem zone_subset {text zone : String} {groups : List Nat}
    (h : parse? text = some (.v6 groups (some zone))) : zone.toList ⊆ text.toList := by
  unfold parse? at h
  split at h
  · simp at h
  · simp only [parseV6?] at h
    split at h
    · split at h
      · simp at h
      · obtain ⟨gs, -, hgs⟩ := Option.map_eq_some_iff.1 h
        simp only [v6.injEq, Option.some.injEq] at hgs
        rw [← hgs.2, String.toList_ofList]
        exact (cut_subset _ _).2
    · obtain ⟨gs, -, hgs⟩ := Option.map_eq_some_iff.1 h
      simp at hgs

end Address

namespace Url

theorem break_not_mem_clean (cs : List Char) : '\n' ∉ clean cs :=
  fun h => absurd (List.mem_filter.1 h).2 (by decide)

theorem splitScheme_subset (cs : List Char) : (splitScheme cs).2 ⊆ cs := by
  unfold splitScheme
  dsimp only
  split
  · exact (cut_subset _ _).2
  · exact List.Subset.refl cs

theorem splitNetloc_subset (cs : List Char) : (splitNetloc cs).1 ⊆ cs := by
  unfold splitNetloc
  split
  · exact fun c hc => List.mem_cons_of_mem _ (List.mem_cons_of_mem _
      ((List.takeWhile_sublist _).subset hc))
  · exact List.nil_subset _

theorem oneLine_netloc {text : String} {u : Url} (h : split text = .ok u) : OneLine u.netloc := by
  simp only [split] at h
  split at h
  · cases h
  · rw [← Except.ok.inj h]
    refine oneLine_ofList.2 fun hm => break_not_mem_clean text.toList ?_
    exact splitScheme_subset _ (splitNetloc_subset _ hm)

theorem oneLine_netloc_of_ofEntry {entry : Literal} {u : Url} (h : ofEntry entry = .ok u) :
    OneLine u.netloc := by
  unfold ofEntry at h
  split at h
  case h_1 s =>
    cases hs : split s with
    | error e => simp [hs, Except.mapError] at h
    | ok w =>
      rw [hs] at h
      cases h
      exact oneLine_netloc hs
  case h_2 => cases h
  case h_3 => cases h
  case h_4 =>
    split at h
    · cases h
      exact oneLine_of_all rfl
    · cases h

theorem hostText_subset (netloc : List Char) : hostText netloc ⊆ netloc := by
  unfold hostText
  dsimp only
  split
  · exact fun c hc => afterLast_subset _ _ ((cut_subset _ _).2 ((cut_subset _ _).1 hc))
  · exact fun c hc => afterLast_subset _ _ ((cut_subset _ _).1 hc)

theorem oneLine_hostname {u : Url} {host : String} (hu : OneLine u.netloc)
    (h : u.hostname = some host) : OneLine host := by
  have htext : '\n' ∉ hostText u.netloc.toList := fun hm => hu (hostText_subset _ hm)
  simp only [hostname] at h
  split at h
  · cases h
  · rw [← Option.some.inj h, oneLine_ofList, lowerHost, List.mem_append]
    rintro (hm | hm)
    · rw [mem_lowerChars_iff (by decide) (by decide)] at hm
      exact htext ((List.takeWhile_sublist _).subset hm)
    · exact htext ((List.dropWhile_sublist _).subset hm)

theorem oneLine_netloc_of_firstEntry {host path : List Char} {entries : List Literal} {u : Url}
    (h : firstEntry host path entries = .ok (some u)) : OneLine u.netloc := by
  induction entries with
  | nil => cases h
  | cons e r ih =>
    unfold firstEntry at h
    split at h
    case h_1 => exact ih h
    case h_2 =>
      unfold matchEntry at h
      split at h
      case h_1 => cases h
      case h_2 w hw =>
        split at h
        · split at h
          · cases h
          · split at h
            · cases h
              exact oneLine_netloc_of_ofEntry hw
            · cases h
        · cases h

end Url

namespace Source

/-- The address of a source is shown on one line. -/
theorem oneLine_render_address {value : String} {ip : Address} (h : address? value = some ip) :
    OneLine ip.render := by
  obtain ⟨host, hh, hip⟩ := Option.bind_eq_some_iff.1 h
  obtain ⟨u, hu, hhost⟩ := Option.bind_eq_some_iff.1 hh
  cases hs : Url.split ("//" ++ schemeFree value) with
  | error e => simp [url?, hs, Except.toOption] at hu
  | ok w =>
    have hw : w = u := by simpa [url?, hs, Except.toOption] using hu
    have hline := Url.oneLine_hostname (Url.oneLine_netloc hs) (hw ▸ hhost)
    refine Address.oneLine_render fun groups zone he hm => hline ?_
    exact Address.zone_subset (he ▸ hip) hm

/-- So is the host of any entry that a source is found to allow. -/
theorem oneLine_hostLabel {value : String} {entries : List Literal} {u : Url}
    (h : firstMatch value entries = .ok (some u)) : OneLine (Check.hostLabel u) := by
  have hu : OneLine u.netloc := by
    unfold firstMatch at h
    split at h
    case h_1 found hf =>
      cases h
      unfold Url.firstMatch at hf
      split at hf
      · cases hf
      · exact Url.oneLine_netloc_of_firstEntry hf
    case h_2 => cases h
    case h_3 => cases h
  unfold Check.hostLabel
  cases hh : u.hostname with
  | none => exact oneLine_of_all (by decide)
  | some host => exact Url.oneLine_hostname hu hh

end Source

end ContentPolicy
