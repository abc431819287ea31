import ContentPolicy.Url.Basic
import Mathlib.Data.List.Basic
import Mathlib.Data.List.TakeWhile

/-!
Texts that differ in the case of their ASCII letters. A URL is cut at marks that have no case, so the
same letters make the same host.
-/

namespace ContentPolicy

namespace Text

theorem exists_capital {c : Char} (h : c.toLower ≠ c) : ∃ n < 26, c = Char.ofNat (65 + n) := by
  have hrange : c.val ≥ 'A'.val ∧ c.val ≤ 'Z'.val := by
    by_contra hn
    exact h (dif_neg hn)
  have hlow : 65 ≤ c.toNat := UInt32.le_iff_toNat_le.1 hrange.1
  have hhigh : c.toNat ≤ 90 := UInt32.le_iff_toNat_le.1 hrange.2
  refine ⟨c.toNat - 65, by omega, ?_⟩
  rw [show 65 + (c.toNat - 65) = c.toNat by omega, Char.ofNat_toNat]

theorem isAscii_of_isAlphanum {c : Char} (h : c.isAlphanum = true) : isAscii c = true := by
  have hranges : ((decide ('A'.val ≤ c.val ∧ c.val ≤ 'Z'.val) ||
      ('a'.val ≤ c.val && c.val ≤ 'z'.val)) || ('0'.val ≤ c.val && c.val ≤ '9'.val)) = true := h
  simp only [Bool.or_eq_true, Bool.and_eq_true, decide_eq_true_eq, UInt32.le_iff_toNat_le]
    at hranges
  have hz : 'z'.val.toNat = 122 := rfl
  have hZ : 'Z'.val.toNat = 90 := rfl
  have h9 : '9'.val.toNat = 57 := rfl
  rw [isAscii, decide_eq_true_eq, Char.toNat]
  omega

/-- What holds of the 26 pairs, and of each character with itself, holds of all. -/
theorem toLower_induction {motive : Char → Char → Prop} (self : ∀ c, motive c c)
    (capital : ∀ n < 26, motive (.ofNat (65 + n)) (Char.ofNat (65 + n)).toLower) (c : Char) :
    motive c c.toLower := by
  by_cases h : c.toLower = c
  · rw [h]
    exact self c
  · obtain ⟨n, hn, rfl⟩ := exists_capital h
    exact capital n hn

/-- A mark that is no letter is no letter's small form. -/
theorem toLower_beq {m : Char} (hm : m.isAlpha = false) (c : Char) :
    (c.toLower == m) = (c == m) := by
  refine toLower_induction (motive := fun c d => (d == m) = (c == m)) (fun _ => rfl) ?_ c
  have hletters : ∀ n < 26, (Char.ofNat (65 + n)).isAlpha = true ∧
      (Char.ofNat (65 + n)).toLower.isAlpha = true := by decide
  intro n hn
  have hne {d : Char} (hd : d.isAlpha = true) : (d == m) = false := by
    rw [beq_eq_false_iff_ne]
    rintro rfl
    rw [hm] at hd
    cases hd
  rw [hne (hletters n hn).1, hne (hletters n hn).2]

theorem toLower_toLower (c : Char) : c.toLower.toLower = c.toLower :=
  toLower_induction (motive := fun c d => d.toLower = c.toLower) (fun _ => rfl) (by decide) c

def small (cs : List Char) : List Char := cs.map Char.toLower

def SameButCase (cs ds : List Char) : Prop := small cs = small ds

instance {cs ds : List Char} : Decidable (SameButCase cs ds) :=
  inferInstanceAs (Decidable (small cs = small ds))

theorem SameButCase.eq {α : Type} {cs ds : List Char} {f : List Char → α}
    (hf : ∀ cs, f (small cs) = f cs) (h : SameButCase cs ds) : f cs = f ds := by
  rw [← hf cs, h, hf ds]

theorem small_small (cs : List Char) : small (small cs) = small cs := by
  rw [small, small, List.map_map]
  exact List.map_congr_left fun c _ => toLower_toLower c

theorem small_append (cs ds : List Char) : small (cs ++ ds) = small cs ++ small ds :=
  List.map_append

section Marks

variable {m : Char} (hm : m.isAlpha = false)
include hm

theorem contains_small (cs : List Char) : (small cs).contains m = cs.contains m := by
  induction cs with
  | nil => rfl
  | cons c r ih =>
    have hc : (m == c.toLower) = (m == c) := by
      rw [BEq.comm (a := m), BEq.comm (a := m), toLower_beq hm]
    rw [small, List.map_cons, List.contains_cons, List.contains_cons, hc]
    exact congrArg _ ih

theorem toLower_bne (c : Char) : (c.toLower != m) = (c != m) := by
  rw [bne, bne, toLower_beq hm]

theorem cut_small (cs : List Char) :
    cut m (small cs) = (small (cut m cs).1, small (cut m cs).2) := by
  have hne : (· != m) ∘ Char.toLower = (· != m) := funext (toLower_bne hm)
  simp only [cut, small, List.takeWhile_map, List.dropWhile_map, hne, List.map_drop]

theorem afterLast_small (cs : List Char) : afterLast m (small cs) = small (afterLast m cs) := by
  have hne : (· != m) ∘ Char.toLower = (· != m) := funext (toLower_bne hm)
  simp only [afterLast, small, ← List.map_reverse, List.takeWhile_map, hne]

theorem splitOnP_small (cs : List Char) :
    (small cs).splitOnP (· == m) = (cs.splitOnP (· == m)).map small := by
  induction cs with
  | nil => rfl
  | cons c r ih =>
    rw [small, List.map_cons, List.splitOnP_cons_eq_if_modifyHead,
      List.splitOnP_cons_eq_if_modifyHead, toLower_beq hm, ← small, ih]
    split
    · rfl
    · cases r.splitOnP (· == m) <;> rfl

end Marks

theorem lowerChar_toLower (c : Char) : lowerChar c.toLower = lowerChar c :=
  toLower_induction (motive := fun c d => lowerChar d = lowerChar c) (fun _ => rfl) (by decide) c

theorem isCased_toLower (c : Char) : isCased c.toLower = isCased c :=
  toLower_induction (motive := fun c d => isCased d = isCased c) (fun _ => rfl) (by decide) c

theorem isCaseIgnorable_toLower (c : Char) : isCaseIgnorable c.toLower = isCaseIgnorable c :=
  toLower_induction (motive := fun c d => isCaseIgnorable d = isCaseIgnorable c) (fun _ => rfl)
    (by decide) c

theorem startsCased_small (cs : List Char) : startsCased (small cs) = startsCased cs := by
  have hi : isCaseIgnorable ∘ Char.toLower = isCaseIgnorable := funext isCaseIgnorable_toLower
  simp only [startsCased, small, List.dropWhile_map, hi, List.head?_map, Option.any_map,
    isCased_toLower]

theorem lowerFrom_small (inWord : Bool) (cs : List Char) :
    lowerFrom inWord (small cs) = lowerFrom inWord cs := by
  induction cs generalizing inWord with
  | nil => rfl
  | cons c r ih =>
    have hsigma : c.toLower = '\u03a3' ↔ c = '\u03a3' := by
      simpa using Bool.eq_iff_iff.1 (toLower_beq (m := '\u03a3') (by decide) c)
    rw [small, List.map_cons, ← small, lowerFrom, lowerFrom, ih, startsCased_small,
      lowerChar_toLower, isCased_toLower, isCaseIgnorable_toLower]
    simp only [hsigma]

theorem lowerChars_small (cs : List Char) : lowerChars (small cs) = lowerChars cs :=
  lowerFrom_small false cs

/-- The sigma is the one character that looks at its neighbours. -/
theorem exists_lowerFrom_append {cs : List Char} (h : ∀ c ∈ cs, isAscii c = true) (inWord : Bool)
    (r : List Char) : ∃ inWord', lowerFrom inWord (cs ++ r) = small cs ++ lowerFrom inWord' r := by
  induction cs generalizing inWord with
  | nil => exact ⟨inWord, rfl⟩
  | cons c cs ih =>
    have hc : isAscii c = true := h c List.mem_cons_self
    have hsigma : c ≠ '\u03a3' := by
      rintro rfl
      exact absurd hc (by decide)
    obtain ⟨inWord', hr⟩ := ih (fun d hd => h d (List.mem_cons_of_mem _ hd))
      (if isCaseIgnorable c then inWord else isCased c)
    refine ⟨inWord', ?_⟩
    rw [List.cons_append, lowerFrom, hr]
    simp [hsigma, lowerChar, hc, small]

theorem small_prefix_lowerChars {cs : List Char} (h : ∀ c ∈ cs, isAscii c = true) (r : List Char) :
    small cs <+: lowerChars (cs ++ r) := by
  obtain ⟨_, hr⟩ := exists_lowerFrom_append h false r
  exact ⟨_, hr.symm⟩

theorem lowerChars_of_isAscii {cs : List Char} (h : ∀ c ∈ cs, isAscii c = true) :
    lowerChars cs = small cs := by
  obtain ⟨_, hr⟩ := exists_lowerFrom_append h false []
  rwa [List.append_nil, lowerFrom, List.append_nil] at hr

/-- A number beyond all characters makes the character 0. -/
theorem toNat_ofNat_cases (n : Nat) : (Char.ofNat n).toNat = n ∨ (Char.ofNat n).toNat = 0 := by
  by_cases h : n.isValidChar
  · exact .inl (by rw [Char.ofNat, dif_pos h]; rfl)
  · exact .inr (by rw [Char.ofNat, dif_neg h]; rfl)

theorem caseSpans_beyond_capitals : ∀ s ∈ caseSpans, 'A'.toNat ≤ (s.first : Int) + s.offset := by
  decide +kernel

section LowMarks

variable {m : Char} (hpos : 0 < m.toNat) (hlow : m.toNat < 'A'.toNat)
include hpos hlow

theorem mem_lowerChar_iff {c : Char} : m ∈ lowerChar c ↔ m = c := by
  have hletters : ∀ d ∈ ['i', '\u0307'], ¬ d.toNat < 'A'.toNat := by simp
  unfold lowerChar
  split
  case isTrue =>
    rw [List.mem_singleton]
    refine toLower_induction (motive := fun c d => m = d ↔ m = c) (fun _ => Iff.rfl) ?_ c
    have hcapitals : ∀ n < 26, ¬ (Char.ofNat (65 + n)).toNat < 'A'.toNat ∧
        ¬ (Char.ofNat (65 + n)).toLower.toNat < 'A'.toNat := by decide
    refine fun n hn => iff_of_false ?_ ?_
    · rintro rfl
      exact (hcapitals n hn).2 hlow
    · rintro rfl
      exact (hcapitals n hn).1 hlow
  case isFalse hascii =>
    have hne : m ≠ c := by
      rintro rfl
      exact hascii (decide_eq_true (Nat.lt_trans hlow (by decide)))
    refine iff_of_false (fun h => ?_) hne
    split at h
    · exact hletters m h hlow
    · split at h
      case h_1 s hs =>
        obtain rfl := List.mem_singleton.1 h
        have hspan := caseSpans_beyond_capitals s (List.mem_of_find?_eq_some hs)
        have hcovers := List.find?_some hs
        simp only [CaseSpan.covers, Bool.and_eq_true, decide_eq_true_eq] at hcovers
        have hn := toNat_ofNat_cases (c.toNat + s.offset).toNat
        omega
      case h_2 => exact hne (List.mem_singleton.1 h)

/-- The marks that come before the letters are where they were. -/
theorem mem_lowerFrom_iff (inWord : Bool) (cs : List Char) :
    m ∈ lowerFrom inWord cs ↔ m ∈ cs := by
  induction cs generalizing inWord with
  | nil => exact Iff.rfl
  | cons c r ih =>
    rw [lowerFrom, List.mem_append, List.mem_cons, ih]
    refine or_congr ?_ Iff.rfl
    split
    case isTrue h =>
      have hsigma : ∀ d ∈ ['\u03a3', '\u03c2'], ¬ d.toNat < 'A'.toNat := by simp
      simp only [Bool.and_eq_true, decide_eq_true_eq] at h
      refine iff_of_false (fun hm => ?_) ?_
      · exact hsigma m (List.mem_cons_of_mem _ hm) hlow
      · rintro rfl
        exact hsigma m (h.1.1 ▸ List.mem_cons_self) hlow
    case isFalse => exact mem_lowerChar_iff hpos hlow

theorem mem_lowerChars_iff {cs : List Char} : m ∈ lowerChars cs ↔ m ∈ cs :=
  mem_lowerFrom_iff hpos hlow false cs

end LowMarks

end Text

open Text

namespace Address

theorem hexDigit?_toLower (c : Char) : hexDigit? c.toLower = hexDigit? c :=
  toLower_induction (motive := fun c d => hexDigit? d = hexDigit? c) (fun _ => rfl) (by decide) c

theorem isHexDigit_toLower (c : Char) : isHexDigit c.toLower = isHexDigit c := by
  rw [isHexDigit, hexDigit?_toLower, isHexDigit]

theorem isDigit_toLower (c : Char) : c.toLower.isDigit = c.isDigit :=
  toLower_induction (motive := fun c d => d.isDigit = c.isDigit) (fun _ => rfl) (by decide) c

theorem toLower_of_isDigit {c : Char} (h : c.isDigit = true) : c.toLower = c :=
  toLower_induction (motive := fun c d => c.isDigit = true → d = c) (fun _ _ => rfl) (by decide) c h

/-- Digits have no case. -/
theorem octet?_small (cs : List Char) : octet? (small cs) = octet? cs := by
  have hall : (small cs).all Char.isDigit = cs.all Char.isDigit := by
    simp only [small, List.all_map, Function.comp_def, isDigit_toLower]
  by_cases hd : cs.all Char.isDigit = true
  · have hsame : small cs = cs := by
      refine (List.map_congr_left fun c hc => ?_).trans (List.map_id cs)
      exact toLower_of_isDigit (List.all_eq_true.1 hd c hc)
    rw [hsame]
  · simp [octet?, hall, hd]

theorem octets?_small (cs : List Char) : octets? (small cs) = octets? cs := by
  have hoctet : octet? ∘ small = octet? := funext octet?_small
  rw [octets?, splitOnP_small (by decide), List.map_map, hoctet, ← octets?.eq_1]

theorem group?_small (cs : List Char) : group? (small cs) = group? cs := by
  simp only [group?, small, List.all_map, List.foldl_map, List.length_map, List.isEmpty_map,
    Function.comp_def, isHexDigit_toLower, hexDigit?_toLower]

theorem tail?_small (cs : List Char) : tail? (small cs) = tail? cs := by
  rw [tail?, octets?_small, group?_small, ← tail?.eq_1]

theorem groupsThenTail?_small (css : List (List Char)) :
    groupsThenTail? (css.map small) = groupsThenTail? css := by
  induction css with
  | nil => rfl
  | cons cs r ih =>
    cases r with
    | nil => exact tail?_small cs
    | cons ds r =>
      have hstep (as bs : List Char) (rest : List (List Char)) :
          groupsThenTail? (as :: bs :: rest) =
            (group? as).bind fun g => (groupsThenTail? (bs :: rest)).map (g :: ·) := rfl
      rw [List.map_cons, List.map_cons, hstep, ← List.map_cons, ih, group?_small, hstep]

theorem pieces_small (cs : List Char) : pieces (small cs) = (pieces cs).map small := by
  cases cs with
  | nil => rfl
  | cons c r => exact splitOnP_small (by decide) (c :: r)

theorem splitAtGap_small (cs : List Char) :
    splitAtGap (small cs) = (splitAtGap cs).map fun parts => (small parts.1, small parts.2) := by
  induction cs using splitAtGap.induct with
  | case1 => rfl
  | case2 r => rfl
  | case3 c r hgap ih =>
    have hcolon {d : Char} (hd : d.toLower = ':') : d = ':' := by
      simpa [hd] using toLower_beq (m := ':') (by decide) d
    have hsmall : ∀ u, c.toLower = ':' → small r = ':' :: u → False := by
      intro u hc hr
      obtain ⟨d, t, rfl, hd, -⟩ := List.map_eq_cons_iff.1 hr
      exact hgap t (hcolon hc) (by rw [hcolon hd])
    rw [small, List.map_cons, ← small, splitAtGap.eq_3 _ _ hsmall, splitAtGap.eq_3 _ _ hgap, ih,
      Option.map_map, Option.map_map]
    rfl

theorem sixteenBits?_small (cs : List Char) : sixteenBits? (small cs) = sixteenBits? cs := by
  have hgroup (ds : List Char) : ((pieces ds).map small).mapM group? = (pieces ds).mapM group? := by
    rw [List.mapM_map]
    exact congrArg (List.mapM · (pieces ds)) (funext group?_small)
  rw [sixteenBits?, splitAtGap_small, sixteenBits?]
  cases splitAtGap cs with
  | none => simp only [Option.map_none, pieces_small, groupsThenTail?_small]
  | some parts => simp only [Option.map_some, pieces_small, groupsThenTail?_small, hgroup]

/-- Both spellings are addresses of the same kind or none at all. -/
theorem isV4_parse?_small (cs : List Char) :
    (parse? (.ofList (small cs))).map isV4 = (parse? (.ofList cs)).map isV4 := by
  have hv6 (zone : Option String) (groups : Option (List Nat)) :
      (groups.map (Address.v6 · zone)).map isV4 = groups.map fun _ => false := by
    cases groups <;> rfl
  have hzone (zone : List Char) : (small zone).isEmpty = zone.isEmpty := List.isEmpty_map
  rw [parse?, parse?, String.toList_ofList, String.toList_ofList, octets?_small]
  cases octets? cs with
  | some octets => rfl
  | none =>
    simp only [parseV6?, contains_small (m := '%') (by decide), cut_small (m := '%') (by decide),
      sixteenBits?_small, hzone]
    split
    · split
      · rfl
      · rw [hv6, hv6]
    · rfl

end Address

namespace Url

theorem hostText_small (netloc : List Char) : hostText (small netloc) = small (hostText netloc) := by
  simp only [hostText, afterLast_small (m := '@') (by decide), contains_small (m := '[') (by decide),
    cut_small (m := '[') (by decide), cut_small (m := ']') (by decide),
    cut_small (m := ':') (by decide)]
  split <;> rfl

theorem isFutureAddress_small (cs : List Char) :
    isFutureAddress (small cs) = isFutureAddress cs := by
  have hhex : Address.isHexDigit ∘ Char.toLower = Address.isHexDigit :=
    funext Address.isHexDigit_toLower
  have hdot (c : Char) : c.toLower = '.' ↔ c = '.' := by
    simpa using Bool.eq_iff_iff.1 (toLower_beq (m := '.') (by decide) c)
  simp only [isFutureAddress, small, ← List.map_drop, List.dropWhile_map, hhex, List.head?_map,
    Option.any_map, Address.isHexDigit_toLower]
  cases (cs.drop 1).dropWhile Address.isHexDigit with
  | nil => rfl
  | cons c r =>
    by_cases hc : c = '.'
    · subst hc
      cases r <;> rfl
    · have hl : c.toLower ≠ '.' := fun hl => hc ((hdot c).1 hl)
      simp [hc, hl]

def isEnclosed (netloc : List Char) : Bool :=
  let h := afterLast '@' netloc
  let after := (cut ']' (cut '[' h).2).2
  !h.contains '[' || (cut '[' h).1.isEmpty && (after.isEmpty || after.head? == some ':')

theorem checkBrackets_eq (netloc : List Char) :
    checkBrackets netloc =
      if netloc.contains '[' != netloc.contains ']' then .error .unbalancedBrackets
      else if netloc.contains '[' then
        if isEnclosed netloc then checkBracketed (hostText netloc) else .error .unbalancedBrackets
      else .ok () := by
  simp only [checkBrackets, isEnclosed, hostText]
  by_cases ho : (afterLast '@' netloc).contains '[' = true
  · simp only [ho, if_true, Bool.not_true, Bool.false_or]
  · simp only [ho, if_false, Bool.false_eq_true, Bool.not_false, Bool.true_or, if_true]

theorem isEnclosed_small (netloc : List Char) : isEnclosed (small netloc) = isEnclosed netloc := by
  have hempty (cs : List Char) : (small cs).isEmpty = cs.isEmpty := List.isEmpty_map
  have hcolon (cs : List Char) : ((small cs).head? == some ':') = (cs.head? == some ':') := by
    cases cs with
    | nil => rfl
    | cons c r => exact toLower_beq (m := ':') (by decide) c
  simp only [isEnclosed, afterLast_small (m := '@') (by decide),
    contains_small (m := '[') (by decide), cut_small (m := '[') (by decide),
    cut_small (m := ']') (by decide), hempty, hcolon]

section Accepted

variable {n n' : List Char}

/-- The kind of an address in brackets is told by a small `v`; all else is the same. -/
theorem isOk_checkBracketed (h : SameButCase n n')
    (hv : n.head? = some 'v' ↔ n'.head? = some 'v') :
    (checkBracketed n).isOk = (checkBracketed n').isOk := by
  have hfuture : isFutureAddress n = isFutureAddress n' := h.eq isFutureAddress_small
  have hkind := h.eq (f := fun cs => (Address.parse? (.ofList cs)).map Address.isV4)
    Address.isV4_parse?_small
  simp only [checkBracketed, beq_iff_eq, hv, hfuture]
  split
  · rfl
  · cases ha : Address.parse? (.ofList n) with
    | none =>
      cases ha' : Address.parse? (.ofList n') with
      | none => rfl
      | some a' => simp [ha, ha'] at hkind
    | some a =>
      cases ha' : Address.parse? (.ofList n') with
      | none => simp [ha, ha'] at hkind
      | some a' =>
        have hsame : a.isV4 = a'.isV4 := by simpa [ha, ha'] using hkind
        simp only [hsame]

theorem sameButCase_hostText (h : SameButCase n n') : SameButCase (hostText n) (hostText n') := by
  rw [SameButCase, ← hostText_small, ← hostText_small, h]

theorem isOk_checkBrackets (h : SameButCase n n') (hv : '[' ∈ n →
      ((hostText n).head? = some 'v' ↔ (hostText n').head? = some 'v')) :
    (checkBrackets n).isOk = (checkBrackets n').isOk := by
  have hleft : n.contains '[' = n'.contains '[' := h.eq (contains_small (by decide))
  have hright : n.contains ']' = n'.contains ']' := h.eq (contains_small (by decide))
  have henclosed : isEnclosed n = isEnclosed n' := h.eq isEnclosed_small
  rw [checkBrackets_eq, checkBrackets_eq, hright, henclosed, ← hleft]
  split
  · rfl
  · split
    · split
      · exact isOk_checkBracketed (sameButCase_hostText h) (hv (by simpa using ‹n.contains '[' = true›))
      · rfl
    · rfl

theorem isOk_checkNetloc (h : SameButCase n n') (hv : '[' ∈ n →
      ((hostText n).head? = some 'v' ↔ (hostText n').head? = some 'v')) :
    (checkNetloc n).isOk = (checkNetloc n').isOk := by
  have hlike (c : Char) : delimiterLikes.contains c.toLower.toNat = delimiterLikes.contains c.toNat :=
    toLower_induction
      (motive := fun c d => delimiterLikes.contains d.toNat = delimiterLikes.contains c.toNat)
      (fun _ => rfl) (by decide) c
  have hany : n.any (fun c => delimiterLikes.contains c.toNat) =
      n'.any fun c => delimiterLikes.contains c.toNat := by
    refine h.eq (f := (List.any · fun c => delimiterLikes.contains c.toNat)) fun cs => ?_
    simp only [small, List.any_map, Function.comp_def, hlike]
  have hbrackets := isOk_checkBrackets h hv
  simp only [checkNetloc, hany]
  cases hn : checkBrackets n with
  | error e =>
    cases hn' : checkBrackets n' with
    | error e' => rfl
    | ok _ => simp [hn, hn', Except.isOk, Except.toBool] at hbrackets
  | ok _ =>
    cases hn' : checkBrackets n' with
    | error e' => simp [hn, hn', Except.isOk, Except.toBool] at hbrackets
    | ok _ => cases n'.any fun c => delimiterLikes.contains c.toNat <;> rfl

end Accepted

theorem toList_domain (u : Url) : u.domain.toList = lowerHost (hostText u.netloc.toList) := by
  rw [domain, hostname]
  cases hostText u.netloc.toList with
  | nil => rfl
  | cons c r => simp

/-- A zone keeps its case only until the whole pattern is lowered. -/
theorem lowerChars_lowerHost_small (host : List Char) :
    lowerChars (lowerHost (small host)) = lowerChars (lowerHost host) := by
  have hne : (· != '%') ∘ Char.toLower = (· != '%') := funext (toLower_bne (by decide))
  have hparts : lowerHost (small host) =
      lowerChars (host.takeWhile (· != '%')) ++ small (host.dropWhile (· != '%')) := by
    rw [lowerHost, small, List.takeWhile_map, List.dropWhile_map, hne, ← small, lowerChars_small]
    rfl
  rw [hparts, lowerHost, ← lowerChars_small, small_append, small_small, ← small_append,
    lowerChars_small]

end Url

end ContentPolicy
