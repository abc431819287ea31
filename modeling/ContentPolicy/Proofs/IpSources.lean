import ContentPolicy.Check.Weakness
import ContentPolicy.Proofs.BroaderSource
import ContentPolicy.Proofs.EachValue
import ContentPolicy.Proofs.SchemeFree

/-!
Sources that have an address of four octets for a host, whatever stands around it.
-/

namespace ContentPolicy

namespace Address

section Dotted

variable (a b c d : Fin 256)

def dotted : String :=
  toString a.val ++ "." ++ toString b.val ++ "." ++ toString c.val ++ "." ++ toString d.val

theorem octet?_toString : ∀ n : Fin 256, octet? (toString n.val).toList = some n.val := by
  decide +kernel

theorem isDigit_toString (n : Fin 256) : ∀ x ∈ (toString n.val).toList, x.isDigit = true := by
  have ho := octet?_toString n
  unfold octet? at ho
  split at ho
  case isTrue hc =>
    simp only [Bool.and_eq_true] at hc
    exact List.all_eq_true.1 hc.1.1.2
  case isFalse => cases ho

theorem toList_dotted : (dotted a b c d).toList =
    (toString a.val).toList ++ '.' :: ((toString b.val).toList ++ '.' ::
      ((toString c.val).toList ++ '.' :: (toString d.val).toList)) := by
  simp [dotted]

theorem mem_dotted {x : Char} (h : x ∈ (dotted a b c d).toList) : x.isDigit = true ∨ x = '.' := by
  simp only [toList_dotted, List.mem_append, List.mem_cons] at h
  have hdigit := isDigit_toString
  grind

theorem octets?_dotted :
    octets? (dotted a b c d).toList = some (a.val, b.val, c.val, d.val) := by
  have hno (n : Fin 256) : ∀ x ∈ (toString n.val).toList, (x == '.') = false := by
    intro x hx
    rw [beq_eq_false_iff_ne]
    rintro rfl
    exact absurd (isDigit_toString n _ hx) (by decide)
  rw [octets?, toList_dotted, List.splitOnP_append_cons_of_forall_mem (hno a) '.' rfl,
    List.splitOnP_append_cons_of_forall_mem (hno b) '.' rfl,
    List.splitOnP_append_cons_of_forall_mem (hno c) '.' rfl, List.splitOnP_eq_singleton (hno d)]
  simp only [List.map_cons, List.map_nil, octet?_toString]

theorem parse?_dotted : parse? (dotted a b c d) = some (.v4 a b c d) := by
  rw [parse?, octets?_dotted]

theorem render_v4 : render (.v4 a b c d) = dotted a b c d := by
  simp [render, dotted, String.append_assoc]

end Dotted

end Address

namespace Source

open Url

inductive IsPort : String → Prop where
  | unnamed : IsPort ""
  | any : IsPort ":*"
  | number {digits : String} (hne : digits ≠ "") (h : ∀ c ∈ digits.toList, c.isDigit = true) :
    IsPort (":" ++ digits)

/-- The character behind the colon of a port is no slash. -/
theorem IsPort.cases {port : String} (h : IsPort port) :
    port.toList = [] ∨ ∃ c r, port.toList = ':' :: c :: r ∧ c ≠ '/' ∧ IsPatternHost (c :: r) := by
  cases h with
  | unnamed => exact .inl rfl
  | any => exact .inr ⟨'*', [], rfl, by decide, List.forall_mem_singleton.2 (by decide)⟩
  | @number digits hne hd =>
    have happ : (":" ++ digits).toList = ':' :: digits.toList := by
      rw [String.toList_append]
      rfl
    cases hs : digits.toList with
    | nil => exact absurd (String.toList_eq_nil_iff.1 hs) hne
    | cons c r =>
      rw [hs] at happ hd
      refine .inr ⟨c, r, happ, ?_, fun x hx => ?_⟩
      · rintro rfl
        exact absurd (hd '/' List.mem_cons_self) (by decide)
      · simp [isHostChar, Char.isAlphanum, hd x hx]

def isNetlocChar (c : Char) : Bool := isHostChar c || c == '*' || c == ':'

section Netloc

variable {n q : List Char} {port : String} (hn : IsPatternHost n) (hp : IsPort port)
  (hq : q = [] ∨ q.head? = some '/')

section
include hn hp

theorem isNetlocChar_of_mem : ∀ c ∈ n ++ port.toList, isNetlocChar c = true := by
  intro c hc
  cases List.mem_append.1 hc with
  | inl hc => rw [isNetlocChar, hn c hc, Bool.true_or]
  | inr hc =>
    obtain hnone | ⟨d, r, hport, -, hr⟩ := hp.cases
    · rw [hnone] at hc
      cases hc
    · rw [hport] at hc
      obtain rfl | hc := List.mem_cons.1 hc
      · decide
      · rw [isNetlocChar, hr c hc, Bool.true_or]

theorem ne_of_mem_netloc {c m : Char} (hc : c ∈ n ++ port.toList) (hm : isNetlocChar m = false) :
    c ≠ m := by
  rintro rfl
  rw [isNetlocChar_of_mem hn hp c hc] at hm
  cases hm

theorem checkNetloc_netloc : checkNetloc (n ++ port.toList) = .ok () := by
  refine checkNetloc_of_isAscii (fun h => ?_) (fun h => ?_) fun c hc => ?_
  · exact ne_of_mem_netloc hn hp h (by decide) rfl
  · exact ne_of_mem_netloc hn hp h (by decide) rfl
  · have hchar := isNetlocChar_of_mem hn hp c hc
    rw [isNetlocChar, Bool.or_eq_true, beq_iff_eq] at hchar
    obtain h | rfl := hchar
    · have hone : IsPatternHost [c] := List.forall_mem_singleton.2 h
      exact hone.isAscii c List.mem_cons_self
    · decide

theorem hostText_netloc : hostText (n ++ port.toList) = n := by
  have hlast : Text.afterLast '@' (n ++ port.toList) = n ++ port.toList :=
    Text.afterLast_of_not_mem fun h => ne_of_mem_netloc hn hp h (by decide) rfl
  have hopen : (n ++ port.toList).contains '[' = false := by
    rw [← Bool.not_eq_true, List.contains_iff_mem]
    exact fun h => ne_of_mem_netloc hn hp h (by decide) rfl
  have hcolon : ∀ c ∈ n, (c != ':') = true := fun c hc => bne_iff_ne.2 (hn.ne hc (by decide))
  rw [hostText, hlast, hopen]
  obtain hnone | ⟨c, r, hport, -⟩ := hp.cases
  · simp [hnone, Text.cut, List.takeWhile_eq_self_iff.2 hcolon]
  · simp [hport, Text.cut, List.takeWhile_append_of_pos hcolon]

include hq

theorem hostPart_netloc {value : String} (hv : value.toList = n ++ port.toList ++ q) :
    hostPart value = n ++ port.toList := by
  have hkept : (n ++ port.toList).filter (fun c => c != '\t' && c != '\n' && c != '\r') =
      n ++ port.toList := by
    refine List.filter_eq_self.2 fun c hc => ?_
    simp [ne_of_mem_netloc hn hp hc (m := '\t') (by decide),
      ne_of_mem_netloc hn hp hc (m := '\n') (by decide),
      ne_of_mem_netloc hn hp hc (m := '\r') (by decide)]
  have hin : ∀ c ∈ n ++ port.toList, (!endsNetloc c) = true := by
    intro c hc
    simp [endsNetloc, ne_of_mem_netloc hn hp hc (m := '/') (by decide),
      ne_of_mem_netloc hn hp hc (m := '?') (by decide),
      ne_of_mem_netloc hn hp hc (m := '#') (by decide)]
  have hout : (q.filter fun c => c != '\t' && c != '\n' && c != '\r').takeWhile
      (!endsNetloc ·) = [] := by
    obtain rfl | hslash := hq
    · rfl
    · obtain ⟨r, rfl⟩ := List.head?_eq_some_iff.1 hslash
      simp [endsNetloc]
  rw [hostPart, hv, List.filter_append, hkept, List.takeWhile_append_of_pos hin, hout,
    List.append_nil]

end

theorem isSchemeWord_of_isHostChar {c : Char} (h : isHostChar c = true) :
    isSchemeWord c = true := by
  have hascii := isAscii_of_isHostChar h
  simp only [isHostChar, Bool.or_eq_true, beq_iff_eq] at h
  simp only [isSchemeWord, Text.isWord, hascii, if_true, Bool.or_eq_true, decide_eq_true_eq]
  tauto

include hp hq

/-- A host stands at the start, and no port and no path makes a scheme of it. -/
theorem startsAtHost_netloc (hne : n ≠ []) (hchars : ∀ c ∈ n, isHostChar c = true) :
    StartsAtHost (n ++ port.toList ++ q) where
  no_slashes := by
    obtain ⟨c, r, rfl⟩ := List.exists_cons_of_ne_nil hne
    rintro ⟨t, ht⟩
    obtain rfl : c = '/' := (List.cons.inj ht).1.symm
    exact absurd (hchars '/' List.mem_cons_self) (by decide)
  no_scheme := by
    refine no_scheme_of_dropWhile ?_
    rw [List.append_assoc, List.dropWhile_append_of_pos fun c hc =>
      isSchemeWord_of_isHostChar (hchars c hc)]
    obtain hnone | ⟨c, r, hport, hslash, -⟩ := hp.cases
    · rw [hnone, List.nil_append]
      obtain rfl | hroot := hq
      · decide
      · obtain ⟨r, rfl⟩ := List.head?_eq_some_iff.1 hroot
        have hword : isSchemeWord '/' = false := by decide
        simp [hword]
    · have hword : isSchemeWord ':' = false := by decide
      simp [hport, hword, Ne.symm hslash]

end Netloc

/-- The spelling of a source that has an address of four octets for a host. -/
structure AddressSource where
  lead : String
  a : Fin 256
  b : Fin 256
  c : Fin 256
  d : Fin 256
  port : String
  path : String
  isLead : IsLead lead
  isPort : IsPort port
  isPath : path.toList = [] ∨ path.toList.head? = some '/'

namespace AddressSource

variable (s : AddressSource)

def host : String := Address.dotted s.a s.b s.c s.d

def text : String := s.lead ++ (s.host ++ s.port ++ s.path)

theorem isHostChar_host : ∀ x ∈ s.host.toList, isHostChar x = true := by
  intro x hx
  obtain hdigit | rfl := Address.mem_dotted _ _ _ _ hx
  · simp [isHostChar, Char.isAlphanum, hdigit]
  · decide

theorem isPatternHost_host : IsPatternHost s.host.toList := fun x hx => by
  rw [s.isHostChar_host x hx, Bool.true_or]

theorem host_ne_nil : s.host.toList ≠ [] := by
  simp [host, Address.toList_dotted]

/-- Digits and dots have no case. -/
theorem small_host : Text.small s.host.toList = s.host.toList := by
  have hself : ∀ x ∈ s.host.toList, x.toLower = x := by
    intro x hx
    obtain hdigit | rfl := Address.mem_dotted _ _ _ _ hx
    · exact Address.toLower_of_isDigit hdigit
    · decide
  rw [Text.small, List.map_congr_left hself, List.map_id']

theorem schemeFree_text : schemeFree s.text = s.host ++ s.port ++ s.path := by
  refine schemeFree_lead s.isLead ?_
  rw [String.toList_append, String.toList_append]
  exact startsAtHost_netloc s.isPort s.isPath s.host_ne_nil s.isHostChar_host

theorem address?_text : address? s.text = some (.v4 s.a s.b s.c s.d) := by
  have hpart : hostPart (schemeFree s.text) = s.host.toList ++ s.port.toList := by
    refine hostPart_netloc s.isPatternHost_host s.isPort s.isPath ?_
    rw [schemeFree_text, String.toList_append, String.toList_append]
  have hok : checkNetloc (hostPart (schemeFree s.text)) = .ok () := by
    rw [hpart, checkNetloc_netloc s.isPatternHost_host s.isPort]
  rw [address?_of_checkNetloc hok, hpart, hostText_netloc s.isPatternHost_host s.isPort,
    lowerHost_patternHost s.isPatternHost_host, small_host, String.ofList_toList, host,
    Address.parse?_dotted]

end AddressSource

end Source

namespace Check

theorem concerns_addressFindings (name value : String) :
    ∀ f ∈ addressFindings name value, Concerns name value f := by
  intro f hf
  obtain ⟨ip, -, rfl⟩ := List.mem_map.1 hf
  exact ⟨rfl, rfl⟩

/-- Whatever stands around the address, each time that a directive lists the source one finding says
so, and with the address, unless it is one of the machine itself. -/
theorem filter_ipSource_address (s : Source.AddressSource) (p : Policy) (name : String) :
    (ipSource p).filter (Concerns name s.text) = List.replicate ((p.values name).count s.text)
      ⟨.ipSource, .info, name, some s.text,
        if s.a.val = 127 then
          name ++ " directive allows localhost as source. Please make sure to remove this in production environments."
        else
          name ++ " directive has an IP-Address as source: " ++ s.host ++
            " (will be ignored by browsers!). "⟩ := by
  have hrender : Address.render (.v4 s.a s.b s.c s.d) = s.host := Address.render_v4 _ _ _ _
  rw [ipSource, filter_eachValue concerns_addressFindings]
  simp only [addressFindings, s.address?_text, Option.toList_some, List.map_singleton,
    addressFinding, Address.isLoopback, hrender, beq_iff_eq, List.flatten_replicate_singleton]

/- A scheme that could be an address, no number for a port, and a slash that begins no path. -/
def schemeExample : Source.AddressSource where
  lead := "1.2.3.4" ++ "://"
  a := 127
  b := 0
  c := 0
  d := 255
  port := ":*"
  path := "//x://é?#"
  isLead := .scheme ⟨'1', ".2.3.4".toList, rfl, by decide, List.all_eq_true.1 (by decide)⟩
  isPort := .any
  isPath := .inr rfl

theorem filter_ipSource_schemeExample :
    schemeExample.text = "1.2.3.4://127.0.0.255:*//x://é?#" ∧
      (ipSource (.parse "img-src 'self' 1.2.3.4://127.0.0.255:*//x://é?# *;font-src 10.0.0.1")).filter
        (Concerns "img-src" schemeExample.text) = [⟨.ipSource, .info, "img-src",
          some schemeExample.text,
          "img-src directive allows localhost as source. Please make sure to remove this in production environments."⟩] := by
  have hcount : ((Policy.parse "img-src 'self' 1.2.3.4://127.0.0.255:*//x://é?# *;font-src 10.0.0.1").values
      "img-src").count schemeExample.text = 1 := by decide +kernel
  refine ⟨by decide +kernel, ?_⟩
  rw [filter_ipSource_address, hcount]
  decide +kernel

end Check

end ContentPolicy
