import ContentPolicy.Proofs.FirstMatch
import ContentPolicy.Proofs.SourceClass
import Mathlib.Data.List.TakeWhile

/-!
A quoted value has no host, unless an at sign in it makes the tick a part of a user's name.
-/

namespace ContentPolicy

namespace Text

theorem splitOnP_cons_of_false (isSep : Char → Bool) {c : Char} (h : isSep c = false)
    (r : List Char) : ∃ u us, (c :: r).splitOnP isSep = (c :: u) :: us := by
  rw [List.splitOnP_cons_eq_if_modifyHead, h]
  cases hs : r.splitOnP isSep with
  | nil => exact absurd hs (List.splitOnP_ne_nil isSep r)
  | cons u us => exact ⟨u, us, by simp⟩

theorem afterLast_of_not_mem {c : Char} {cs : List Char} (h : c ∉ cs) : afterLast c cs = cs := by
  have hall : ∀ x ∈ cs.reverse, (x != c) = true := by
    intro x hx
    have hne : x ≠ c := by
      rintro rfl
      exact h (List.mem_reverse.1 hx)
    simpa using hne
  rw [afterLast, List.takeWhile_eq_self_iff.2 hall, List.reverse_reverse]

theorem not_mem_afterLast (c : Char) (cs : List Char) : c ∉ afterLast c cs := by
  intro h
  have hc := List.mem_takeWhile_imp (List.mem_reverse.1 h)
  simp at hc

end Text

namespace Address

section Beginning

variable {c : Char} (hc : isHexDigit c = false)
include hc

theorem isDigit_of_not_isHexDigit : c.isDigit = false := by
  cases hd : c.isDigit with
  | false => rfl
  | true => simp [isHexDigit, hexDigit?, hd] at hc

theorem group?_eq_none (r : List Char) : group? (c :: r) = none := by
  simp [group?, hc]

theorem octets?_eq_none (hdot : c ≠ '.') (r : List Char) : octets? (c :: r) = none := by
  obtain ⟨u, us, hs⟩ := Text.splitOnP_cons_of_false (· == '.') (by simpa using hdot) r
  have hfirst : octet? (c :: u) = none := by
    simp [octet?, isDigit_of_not_isHexDigit hc]
  rw [octets?, hs, List.map_cons, hfirst]

theorem tail?_eq_none (hdot : c ≠ '.') (r : List Char) : tail? (c :: r) = none := by
  rw [tail?, octets?_eq_none hc hdot, group?_eq_none hc]
  rfl

theorem groupsThenTail?_eq_none (hdot : c ≠ '.') (r : List Char) (rest : List (List Char)) :
    groupsThenTail? ((c :: r) :: rest) = none := by
  cases rest with
  | nil => exact tail?_eq_none hc hdot r
  | cons cs rest =>
    rw [groupsThenTail?, group?_eq_none hc]
    · rfl
    · exact nofun

/-- No address begins with a character that is neither of a group nor a mark of its own. -/
theorem sixteenBits?_eq_none (hdot : c ≠ '.') (hcolon : c ≠ ':') (r : List Char) :
    sixteenBits? (c :: r) = none := by
  have hpieces (cs : List Char) : ∃ u us, pieces (c :: cs) = (c :: u) :: us :=
    Text.splitOnP_cons_of_false (· == ':') (by simpa using hcolon) cs
  have hgap : splitAtGap (c :: r) = (splitAtGap r).map fun parts => (c :: parts.1, parts.2) :=
    splitAtGap.eq_3 c r fun u hu _ => hcolon hu
  rw [sixteenBits?, hgap]
  cases splitAtGap r with
  | none =>
    obtain ⟨u, us, hp⟩ := hpieces r
    simp [hp, groupsThenTail?_eq_none hc hdot]
  | some parts =>
    obtain ⟨u, us, hp⟩ := hpieces parts.1
    simp [hp, group?_eq_none hc]

/-- No address begins with a character that is no digit of any kind and no mark of an address. -/
theorem parse?_eq_none (hdot : c ≠ '.') (hcolon : c ≠ ':') (hzone : c ≠ '%') {text : String}
    {r : List Char} (ht : text.toList = c :: r) : parse? text = none := by
  have hgroups : sixteenBits? (Text.cut '%' (c :: r)).1 = none := by
    have hcut : (Text.cut '%' (c :: r)).1 = c :: r.takeWhile (· != '%') := by
      simp [Text.cut, hzone]
    rw [hcut, sixteenBits?_eq_none hc hdot hcolon]
  have hnone : parseV6? (c :: r) = none := by
    simp only [parseV6?, hgroups, sixteenBits?_eq_none hc hdot hcolon, Option.map_none, ite_self]
  rw [parse?, ht, octets?_eq_none hc hdot]
  exact hnone

end Beginning

end Address

namespace Url

/-- Behind slashes no blanks are dropped but line breaks and tabs. -/
theorem clean_slashes (cs : List Char) :
    clean ('/' :: '/' :: cs) =
      '/' :: '/' :: cs.filter fun c => c != '\t' && c != '\n' && c != '\r' := by
  simp [clean]

theorem checkBrackets_of_checkNetloc {netloc : List Char} (h : checkNetloc netloc = .ok ()) :
    checkBrackets netloc = .ok () := by
  unfold checkNetloc at h
  split at h
  case h_1 => cases h
  case h_2 hb => exact hb

theorem splitScheme_slash (r : List Char) : splitScheme ('/' :: r) = ([], '/' :: r) := by
  simp [splitScheme, Text.cut, isSchemeText]

/-- Brackets are for addresses and nothing stands before them, so the host begins with the tick. -/
theorem hostText_tick {r : List Char} (ha : '@' ∉ r) (hb : checkBrackets ('\x27' :: r) = .ok ()) :
    ∃ u, hostText ('\x27' :: r) = '\x27' :: u := by
  have hlast : Text.afterLast '@' ('\x27' :: r) = '\x27' :: r :=
    Text.afterLast_of_not_mem (List.not_mem_cons_of_ne_of_not_mem (by decide) ha)
  have hopen : ('\x27' :: r).contains '[' = false := by
    by_contra ho
    have ho : ('\x27' :: r).contains '[' = true := by simpa using ho
    simp only [checkBrackets, hlast, ho, if_true] at hb
    split at hb
    · cases hb
    · simp [Text.cut] at hb
  refine ⟨r.takeWhile (· != ':'), ?_⟩
  simp only [hostText, hlast, hopen]
  simp [Text.cut]

theorem lowerHost_tick (r : List Char) : ∃ u, lowerHost ('\x27' :: r) = '\x27' :: u := by
  have hsmall : Text.lowerChar '\x27' = ['\x27'] := by decide
  simp [lowerHost, Text.lowerChars, Text.lowerFrom, hsmall]

/-- Whoever stands in front of an at sign, the host is behind it. -/
theorem hostText_afterLast (netloc : List Char) :
    hostText (Text.afterLast '@' netloc) = hostText netloc := by
  have hlast := Text.afterLast_of_not_mem (Text.not_mem_afterLast '@' netloc)
  simp only [hostText, hlast]

theorem hostname_bind_parse? (u : Url) :
    u.hostname.bind Address.parse? = Address.parse? u.domain := by
  rw [domain]
  cases u.hostname with
  | none => rfl
  | some host => rfl

/-- The host of a URL is cut out of its host part, in small letters. -/
theorem domain_eq (u : Url) : u.domain = .ofList (lowerHost (hostText u.netloc.toList)) := by
  rw [← toList_domain, String.ofList_toList]

end Url

namespace Source

open Url

/-- What a host is read from where no scheme stands in front: all before the path, the query and the
fragment. Line breaks and tabs are no part of it. -/
def hostPart (value : String) : List Char :=
  (value.toList.filter fun c => c != '\t' && c != '\n' && c != '\r').takeWhile (!endsNetloc ·)

def hostBehindAt? (value : String) : Option String :=
  if '@' ∈ hostPart value ∧ (checkNetloc (hostPart value)).isOk = true then
    some (.ofList (lowerHost (hostText (Text.afterLast '@' (hostPart value)))))
  else none

theorem netloc_eq_hostPart (value : String) :
    (parts ("//" ++ value)).netloc.toList = hostPart value := by
  have htext : ("//" ++ value).toList = '/' :: '/' :: value.toList := by
    rw [String.toList_append]
    rfl
  simp only [parts, htext, clean_slashes, splitScheme_slash, splitNetloc, String.toList_ofList]
  rfl

/-- The address of a source is that of its host. -/
theorem address?_of_checkNetloc {value : String}
    (hok : checkNetloc (hostPart (schemeFree value)) = .ok ()) :
    address? value =
      Address.parse? (.ofList (lowerHost (hostText (hostPart (schemeFree value))))) := by
  have hparts : ((Except.ok () : Except UrlError Unit).map fun _ =>
      parts ("//" ++ schemeFree value)).toOption = some (parts ("//" ++ schemeFree value)) := rfl
  rw [address?, url?, split_eq, netloc_eq_hostPart, hok, hparts, Option.bind_some,
    hostname_bind_parse?, domain_eq, netloc_eq_hostPart]

section Quoted

variable {value : String} (hq : isQuoted value = true)
include hq

theorem exists_hostPart_eq : ∃ r, hostPart value = '\x27' :: r := by
  obtain ⟨r, hr⟩ := toList_of_isQuoted hq
  simp [hostPart, hr, endsNetloc]

/-- Without an at sign the tick stays in front of the host. -/
theorem lowerHost_tick_of_no_at (ha : '@' ∉ hostPart value)
    (hok : checkNetloc (hostPart value) = .ok ()) :
    ∃ r, lowerHost (hostText (hostPart value)) = '\x27' :: r := by
  obtain ⟨r, hr⟩ := exists_hostPart_eq hq
  rw [hr] at ha hok ⊢
  obtain ⟨u, hu⟩ := hostText_tick (fun hat => ha (List.mem_cons_of_mem _ hat))
    (checkBrackets_of_checkNetloc hok)
  rw [hu]
  exact lowerHost_tick u

/-- A quoted value has an address only behind an at sign. -/
theorem address?_eq_behindAt :
    address? value = (hostBehindAt? value).bind Address.parse? := by
  have hfree := schemeFree_of_isQuoted hq
  cases hok : checkNetloc (hostPart value) with
  | error e =>
    rw [address?, url?, hfree, split_eq, netloc_eq_hostPart, hok]
    simp [hostBehindAt?, hok, Except.isOk, Except.toBool, Except.map, Except.toOption]
  | ok _ =>
    rw [address?_of_checkNetloc (hfree.symm ▸ hok), hfree]
    by_cases ha : '@' ∈ hostPart value
    · simp [hostBehindAt?, ha, hok, Except.isOk, Except.toBool, hostText_afterLast]
    · obtain ⟨r, hr⟩ := lowerHost_tick_of_no_at hq ha hok
      rw [hostBehindAt?, if_neg fun h => ha h.1, hr]
      exact Address.parse?_eq_none (by decide) (by decide) (by decide) (by decide)
        String.toList_ofList

end Quoted

theorem hostBehindAt?_eq_none {value : String} (h : '@' ∉ value.toList) :
    hostBehindAt? value = none := by
  refine if_neg fun hat => h ?_
  exact (List.filter_subset_self _) ((List.takeWhile_sublist _).subset hat.1)

/-- A quoted value without an at sign has no address for a host. -/
theorem address?_of_isQuoted {value : String} (hq : isQuoted value = true)
    (ha : '@' ∉ value.toList) : address? value = none := by
  rw [address?_eq_behindAt hq, hostBehindAt?_eq_none ha, Option.bind_none]

end Source

end ContentPolicy
