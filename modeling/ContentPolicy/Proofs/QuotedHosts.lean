import ContentPolicy.Proofs.Bypasses
import ContentPolicy.Proofs.IpSources
import ContentPolicy.Proofs.RootPath
import ContentPolicy.Proofs.StrictPolicy

/-!
Which host a keyword, a nonce or a hash is taken for: none, but for what is behind an at sign.
-/

namespace ContentPolicy

namespace Url

open Text

section Plain

def isPlain : List Char → Bool
  | '/' :: '/' :: r => r.all fun c => isHostChar c || c == '/'
  | _ => false

theorem split_of_isPlain {s : String} (h : isPlain s.toList = true) :
    ∃ n, IsPatternHost n ∧ ∃ path, split s = .ok ⟨"", .ofList n, path, "", ""⟩ := by
  obtain ⟨r, hr, hall⟩ : ∃ r, s.toList = '/' :: '/' :: r ∧
      ∀ c ∈ r, (isHostChar c || c == '/') = true := by
    unfold isPlain at h
    split at h
    case h_1 r hr => exact ⟨r, hr, List.all_eq_true.1 h⟩
    case h_2 => cases h
  have hn : IsPatternHost (r.takeWhile (· != '/')) := by
    intro c hc
    have hchar := hall c ((List.takeWhile_sublist _).subset hc)
    have hslash : (c == '/') = false := by simpa using List.mem_takeWhile_imp hc
    rw [hslash, Bool.or_false] at hchar
    rw [hchar, Bool.true_or]
  have hmark {m : Char} (hm : (isHostChar m || m == '/') = false) :
      m ∉ r.dropWhile (· != '/') := by
    intro hmem
    rw [hall m ((List.dropWhile_sublist _).subset hmem)] at hm
    cases hm
  have hq : IsPath (r.dropWhile (· != '/')) := by
    refine ⟨?_, hmark (by decide), hmark (by decide)⟩
    have hdrop := List.head?_dropWhile_not (· != '/') r
    cases hd : (r.dropWhile (· != '/')).head? with
    | none => exact .inl (List.head?_eq_none_iff.1 hd)
    | some c =>
      rw [hd] at hdrop
      exact .inr (by simpa using hdrop)
  refine ⟨_, hn, _, split_hostPath hn hq ?_⟩
  rw [hr, List.takeWhile_append_dropWhile]

theorem tick_not_mem_domain {s : String} (h : isPlain s.toList = true) :
    '\x27' ∉ (parts s).domain.toList := by
  obtain ⟨n, hn, path, hs⟩ := split_of_isPlain h
  have htick : (small n).contains '\x27' = false := by
    rw [contains_small (m := '\x27') (by decide)]
    simpa using hn.not_mem (m := '\x27') (by decide)
  rw [← eq_parts hs, toList_domain, String.toList_ofList, hostText_patternHost hn,
    lowerHost_patternHost hn]
  simpa using htick

/-- All built-in places are plain, so none has a tick in its host. -/
theorem isPlain_builtIn :
    ∀ urls ∈ [Bypass.jsonpUrls, Bypass.angularUrls, Bypass.flashUrls], ∀ s ∈ urls,
      isPlain s.toList = true := by
  simp only [Bypass.jsonpUrls, Bypass.angularUrls, Bypass.flashUrls, List.forall_mem_cons]
  and_intros
  all_goals first
    | exact List.forall_mem_nil _
    | rw [String.toList_ofList]; decide

end Plain

theorem lowerChars_tick (r : List Char) : ∃ u, lowerChars ('\x27' :: r) = '\x27' :: u := by
  have hsmall : lowerChar '\x27' = ['\x27'] := by decide
  simp [lowerChars, lowerFrom, hsmall]

/-- A host that begins with a tick is no wildcard, so it allows itself only. -/
theorem hostMatches_tick {r domain : List Char} (h : '\x27' ∉ domain) :
    hostMatches ('\x27' :: r) domain = false := by
  rw [hostMatches, beq_eq_false_iff_ne]
  · rintro rfl
    exact h List.mem_cons_self
  · exact nofun

end Url

namespace Source

open Url

def knownAt? (value : String) (urls : List String) (host : String) : Option Url :=
  (urls.find? fun s => allows (Text.lowerChars host.toList) (parts ("//" ++ value)).path.toList
    (parts s)).map parts

/-- Among plain places a quoted value is taken for one only behind an at sign. -/
theorem firstMatch_eq_behindAt {value : String} (hq : isQuoted value = true) {urls : List String}
    (hu : ∀ s ∈ urls, isPlain s.toList = true) :
    firstMatch value (urls.map .text) = .ok ((hostBehindAt? value).bind (knownAt? value urls)) := by
  have hwf : ∀ s ∈ urls, isWellFormed s = true := by
    intro s hs
    obtain ⟨n, -, path, hsplit⟩ := split_of_isPlain (hu s hs)
    exact isWellFormed_iff.2 ⟨_, hsplit⟩
  unfold firstMatch
  rw [schemeFree_of_isQuoted hq]
  cases hok : checkNetloc (hostPart value) with
  | error e =>
    have hsplit : split ("//" ++ value) = .error e := by
      rw [split_eq, netloc_eq_hostPart, hok]
      rfl
    simp [Url.firstMatch, hsplit, hostBehindAt?, hok, Except.isOk, Except.toBool]
  | ok _ =>
    have hsplit : split ("//" ++ value) = .ok (parts ("//" ++ value)) := by
      rw [split_eq, netloc_eq_hostPart, hok]
      rfl
    rw [firstMatch_eq hsplit, firstEntry_of_isWellFormed _ _ hwf, domain_eq,
      netloc_eq_hostPart, String.toList_ofList]
    by_cases ha : '@' ∈ hostPart value
    · simp [hostBehindAt?, knownAt?, ha, hok, Except.isOk, Except.toBool, hostText_afterLast]
    · obtain ⟨r, hr⟩ := lowerHost_tick_of_no_at hq ha hok
      obtain ⟨u, hu'⟩ := lowerChars_tick r
      have hfind : (urls.find? fun s => allows ('\x27' :: u) (parts ("//" ++ value)).path.toList
          (parts s)) = none := by
        refine List.find?_eq_none.2 fun s hs => ?_
        rw [allows, hostMatches_tick (tick_not_mem_domain (hu s hs)), Bool.false_and]
        exact Bool.false_ne_true
      rw [hostBehindAt?, if_neg fun h => ha h.1, hr, hu', hfind]
      rfl

end Source

namespace Check

theorem exists_mem_ipSource_iff {p : Policy} {value : String} :
    (∃ f ∈ ipSource p, f.value = some value) ↔
      (∃ d ∈ p.directives, value ∈ d.2) ∧ (Source.address? value).isSome = true := by
  have hone (name : String) : (∃ f ∈ ipSource p, f.directive = name ∧ f.value = some value) ↔
      value ∈ p.values name ∧ (Source.address? value).isSome = true := by
    rw [ipSource, exists_mem_eachValue_iff concerns_addressFindings, addressFindings]
    cases Source.address? value <;> simp
  constructor
  · rintro ⟨f, hf, hv⟩
    obtain ⟨hmem, hsome⟩ := (hone f.directive).1 ⟨f, hf, rfl, hv⟩
    exact ⟨⟨_, Policy.mem_directives_of_has (Policy.has_of_mem_values hmem), hmem⟩, hsome⟩
  · rintro ⟨⟨d, hd, hv⟩, hsome⟩
    obtain ⟨f, hf, -, hfv⟩ := (hone d.1).2 ⟨by rwa [Policy.values_of_mem hd], hsome⟩
    exact ⟨f, hf, hfv⟩

theorem severity_eq_high_of_objectValueBypass {b : BypassLists} {name value : String}
    {fs : List Finding} (h : objectValueBypass b name value = .ok fs) :
    ∀ f ∈ fs, f.value = some value ∧
      (f.severity = .high ↔ ∃ u, Source.firstMatch value b.flashUrls = .ok (some u)) := by
  unfold objectValueBypass at h
  split at h
  case h_1 => cases h
  case h_2 u hu =>
    cases h
    simp [hu]
  case h_3 hnone =>
    split at h
    · cases h
      simp [hnone]
    · cases h
      exact List.forall_mem_nil _

/-- A value among those of the objects is told of as a danger if a place is known that it allows. -/
theorem severity_eq_high_of_objectAllowlistBypass {b : BypassLists} {p : Policy}
    {fs : List Finding} (h : objectAllowlistBypass b p = .ok fs) {f : Finding} (hf : f ∈ fs)
    {value : String} (hv : f.value = some value) :
    f.severity = .high ↔ ∃ u, Source.firstMatch value b.flashUrls = .ok (some u) := by
  simp only [objectAllowlistBypass] at h
  split at h
  · cases h
    exact absurd hf List.not_mem_nil
  · obtain ⟨x, -, gs, hgs, hfx⟩ := exists_of_mem_gather h f hf
    obtain ⟨hx, hhigh⟩ := severity_eq_high_of_objectValueBypass hgs f hfx
    rw [hv] at hx
    cases hx
    exact hhigh

end Check

namespace Source

/-- What the library knows of a value is what it knows of this host: its address, the built-in
places that have it, and the findings that come of both. Of no host, nothing is known. -/
structure ReadAs (value : String) (host : Option String) : Prop where
  address : address? value = host.bind Address.parse?
  known : ∀ urls ∈ [Bypass.jsonpUrls, Bypass.angularUrls, Bypass.flashUrls],
    firstMatch value (urls.map .text) = .ok (host.bind (knownAt? value urls))
  ipSource (p : Policy) : (∃ f ∈ Check.ipSource p, f.value = some value) ↔
    (∃ d ∈ p.directives, value ∈ d.2) ∧ (host.bind Address.parse?).isSome = true
  objects (p : Policy) : ∃ fs, Check.objectAllowlistBypass .builtIn p = .ok fs ∧
    ∀ f ∈ fs, f.value = some value →
      (f.severity = .high ↔ (host.bind (knownAt? value Bypass.flashUrls)).isSome = true)

/-- An at sign in the text of a nonce or a hash makes all before it the name of a user. -/
theorem readAs_of_isQuoted {value : String} (hq : isQuoted value = true) :
    ReadAs value (hostBehindAt? value) := by
  have haddress := address?_eq_behindAt hq
  have hknown : ∀ urls ∈ [Bypass.jsonpUrls, Bypass.angularUrls, Bypass.flashUrls],
      firstMatch value (urls.map .text) =
        .ok ((hostBehindAt? value).bind (knownAt? value urls)) :=
    fun urls hu => firstMatch_eq_behindAt hq (Url.isPlain_builtIn urls hu)
  refine ⟨haddress, hknown, fun p => ?_, fun p => ?_⟩
  · rw [Check.exists_mem_ipSource_iff, haddress]
  · have htexts : BypassLists.builtIn.AllTexts := ⟨_, _, _, _, rfl⟩
    obtain ⟨fs, hfs⟩ := Check.objectAllowlistBypass_total htexts p
    refine ⟨fs, hfs, fun f hf hv => ?_⟩
    have hflash : firstMatch value BypassLists.builtIn.flashUrls =
        .ok ((hostBehindAt? value).bind (knownAt? value Bypass.flashUrls)) :=
      hknown _ (by simp)
    rw [Check.severity_eq_high_of_objectAllowlistBypass hfs hf hv, hflash,
      Option.isSome_iff_exists]
    simp only [Except.ok.injEq]

/-- A keyword, a nonce or a hash is taken for the host behind an at sign, and for no other. Where it
has no text but that of a keyword or of a base64 number, it is taken for none. -/
theorem readAs_hostBehindAt {value : String}
    (h : isKeyword value = true ∨ isNonce value = true ∨ isHash value = true) :
    ReadAs value (hostBehindAt? value) ∧
      (isKeyword value = true ∨ isStrictNonce value = true ∨ isStrictHash value = true →
        ReadAs value none) := by
  have hread := readAs_of_isQuoted (isQuoted_of_trusted h)
  refine ⟨hread, fun hstrict => ?_⟩
  rwa [hostBehindAt?_eq_none (not_mem_of_strict (.inl rfl) hstrict)] at hread

/-- The at sign of this hash stands behind a slash. -/
theorem readAs_none_hashExample :
    isHash "'sha256-1.2.3.4/@vk.com'" = true ∧ ReadAs "'sha256-1.2.3.4/@vk.com'" none := by
  have hhash : isHash "'sha256-1.2.3.4/@vk.com'" = true := by decide +kernel
  have hhost : hostBehindAt? "'sha256-1.2.3.4/@vk.com'" = none := by decide +kernel
  exact ⟨hhash, hhost ▸ (readAs_hostBehindAt (.inr (.inr hhash))).1⟩

/-- Two nonces with an at sign in front of the mark that ends a host. The one is told of as the
machine itself, the other as a place that serves films. -/
theorem nonce_taken_for_host :
    isNonce "'nonce-x@127.0.0.1/'" = true ∧
      (address? "'nonce-x@127.0.0.1/'").map Address.isLoopback = some true ∧
      (Check.ipSource (.parse "script-src 'nonce-x@127.0.0.1/'")).map (·.value) =
        [some "'nonce-x@127.0.0.1/'"] ∧
      isNonce "'nonce-x@vk.com?'" = true ∧
      (Check.told (Check.objectAllowlistBypass .builtIn (.parse "object-src 'nonce-x@vk.com?'"))).map
        (fun f => (f.value, f.severity)) = [(some "'nonce-x@vk.com?'", .high)] := by
  decide +kernel

end Source

end ContentPolicy
