import ContentPolicy.CommandLine.Request
import ContentPolicy.Proofs.Caching
import ContentPolicy.Proofs.FindingTexts
import ContentPolicy.Proofs.Ranking
import Mathlib.Data.List.Forall2

/-!
What the command prints: a line for each finding and a last one for the worst severity, which no text
of a policy can forge.
-/

namespace ContentPolicy

namespace Report

open Text (oneLine_of_all)

/-- The line tells the severity of the finding, its place and its description. The place is the
directive, and the value behind it if the finding is about one. -/
inductive IsLine : Finding → String → Prop where
  | directive (topic : Topic) (severity : Severity) (name description : String) :
    IsLine ⟨topic, severity, name, none, description⟩
      ("[" ++ severity.label ++ "] " ++ name ++ ": " ++ description)
  | value (topic : Topic) (severity : Severity) (name value description : String) :
    IsLine ⟨topic, severity, name, some value, description⟩
      ("[" ++ severity.label ++ "] " ++ name ++ " " ++ value ++ ": " ++ description)

theorem isLine_line (f : Finding) : IsLine f (line f) := by
  obtain ⟨topic, severity, name, value, description⟩ := f
  cases value with
  | none => exact .directive topic severity name description
  | some v =>
    have hline : line ⟨topic, severity, name, some v, description⟩ =
        "[" ++ severity.label ++ "] " ++ name ++ " " ++ v ++ ": " ++ description := by
      simp only [line, String.append_assoc]
    rw [hline]
    exact .value topic severity name v description

theorem eq_line_of_isLine {f : Finding} {l : String} (h : IsLine f l) : l = line f := by
  cases h with
  | directive => rfl
  | value => simp only [line, String.append_assoc]

/-- A finding has one line. -/
theorem forall₂_isLine_iff {fs : List Finding} {ls : List String} :
    List.Forall₂ IsLine fs ls ↔ ls = fs.map line := by
  constructor
  · intro h
    induction h with
    | nil => rfl
    | cons hl _ ih => rw [List.map_cons, eq_line_of_isLine hl, ih]
  · rintro rfl
    exact List.forall₂_map_right_iff.2 (List.forall₂_same.2 fun f _ => isLine_line f)

theorem oneLine_label (s : Severity) : Text.OneLine s.label := by
  cases s <;> exact oneLine_of_all rfl

theorem oneLine_line {f : Finding} (h : f.OneLine) : Text.OneLine (line f) := by
  have told {place : String} (hp : Text.OneLine place) :
      Text.OneLine ("[" ++ f.severity.label ++ "] " ++ place ++ ": " ++ f.description) :=
    ((((oneLine_label f.severity).between rfl rfl).append hp).append (oneLine_of_all rfl)).append
      h.description
  unfold line
  cases hv : f.value with
  | none => exact told h.directive
  | some v => exact told ((h.directive.append (oneLine_of_all rfl)).append (h.value v hv))

theorem oneLine_lastLine (fs : List Finding) : Text.OneLine (lastLine fs) :=
  (oneLine_of_all rfl).append (oneLine_label _)

theorem lastLine_eq_of_perm {fs gs : List Finding} (h : fs.Perm gs) : lastLine fs = lastLine gs := by
  unfold lastLine
  rw [Finding.highest_eq_of_perm h]

/-- Lines that are written each with a break behind it are read again, and nothing is behind the
last break. -/
theorem splitOn_join {ls : List String} (h : ∀ l ∈ ls, Text.OneLine l) :
    ((String.join (ls.map (· ++ "\n"))).toList.splitOn '\n').map String.ofList = ls ++ [""] := by
  induction ls with
  | nil => rfl
  | cons l ls ih =>
    have hl : ∀ c ∈ l.toList, (c == '\n') = false := by
      intro c hc
      rw [beq_eq_false_iff_ne]
      rintro rfl
      exact h l List.mem_cons_self hc
    have htext : (String.join ((l :: ls).map (· ++ "\n"))).toList =
        l.toList ++ '\n' :: (String.join (ls.map (· ++ "\n"))).toList := by
      simp [String.toList_join]
    have hrest := ih fun m hm => h m (List.mem_cons_of_mem _ hm)
    rw [htext, List.splitOn, List.splitOnP_append_cons_of_forall_mem hl _ rfl, List.map_cons,
      String.ofList_toList]
    exact congrArg (l :: ·) hrest

/-- Without colors, findings on single lines are read back from what is printed. -/
theorem splitOn_render {fs : List Finding} (h : ∀ f ∈ fs, f.OneLine) :
    ((render false fs).toList.splitOn '\n').map String.ofList =
      fs.map line ++ [lastLine fs, ""] := by
  have hlines : lines false fs = fs.map line ++ [lastLine fs] := by simp [lines]
  have hone : ∀ l ∈ lines false fs, Text.OneLine l := by
    rw [hlines, List.forall_mem_append]
    refine ⟨fun l hl => ?_, List.forall_mem_singleton.2 (oneLine_lastLine fs)⟩
    obtain ⟨f, hf, rfl⟩ := List.mem_map.1 hl
    exact oneLine_line (h f hf)
  rw [render, splitOn_join hone, hlines, List.append_assoc]
  rfl

end Report

namespace Settings

def chosenVersion (s : Settings) (version : Literal) : Except SettingError Version :=
  match version with
  | .null => s.defaultVersion
  | given => readVersion given

/-- Whatever is set as a list of hosts or URLs has parts, as lists of texts have. -/
def ListsReadable (s : Settings) : Prop :=
  ∀ setting ∈ [s.jsonpUrls, s.angularUrls, s.flashUrls, s.jsonpNeedsEval],
    ∀ value, setting = some value → value.parts?.isSome = true

theorem exists_readList {setting : Option Literal} (default : List Literal)
    (h : ∀ value, setting = some value → value.parts?.isSome = true) :
    ∃ items, readList setting default = .ok items := by
  cases setting with
  | none => exact ⟨default, rfl⟩
  | some value =>
    obtain ⟨items, hitems⟩ := Option.isSome_iff_exists.1 (h value rfl)
    exact ⟨items, by simp only [readList, hitems]⟩

theorem ListsReadable.exists_bypassLists {s : Settings} (h : s.ListsReadable) :
    ∃ b, s.bypassLists = .ok b := by
  simp only [ListsReadable, List.forall_mem_cons] at h
  obtain ⟨hjsonp, hangular, hflash, heval, -⟩ := h
  obtain ⟨jsonp, hjsonp⟩ := exists_readList BypassLists.builtIn.jsonpUrls hjsonp
  obtain ⟨angular, hangular⟩ := exists_readList BypassLists.builtIn.angularUrls hangular
  obtain ⟨flash, hflash⟩ := exists_readList BypassLists.builtIn.flashUrls hflash
  obtain ⟨eval, heval⟩ := exists_readList BypassLists.builtIn.jsonpNeedsEval heval
  refine ⟨⟨jsonp, angular, flash, eval⟩, ?_⟩
  simp only [bypassLists, hjsonp, hangular, hflash, heval]
  rfl

theorem complete_eq_ok {s : Settings} {version : Literal} {v : Version} {b : BypassLists}
    (hv : s.chosenVersion version = .ok v) (hb : s.bypassLists = .ok b) :
    s.complete version none = .ok (v, b) := by
  have hcomplete : s.complete version none =
      (s.chosenVersion version).bind fun v => s.bypassLists.bind fun b => .ok (v, b) := by
    cases version <;> rfl
  rw [hcomplete, hv, hb]
  rfl

end Settings

namespace CommandLine

def output (settings : Settings) (s : Session) (r : Request) : Except Failure String :=
  (evaluate settings s r).findings.map (Report.render r.color)

theorem output_eq_ok {settings : Settings} {s : Session} {r : Request} {v : Version}
    {b : BypassLists} {fs : List Finding} (hs : s.Faithful) (hc : r.color = false)
    (hv : settings.chosenVersion r.version = .ok v) (hb : settings.bypassLists = .ok b)
    (hf : ((Collection.parse r.policies).evaluate v b).findings = fs) (sorted : Bool) :
    output settings s { r with sorted := sorted } =
      .ok (Report.render false (if sorted then Finding.sort fs else fs)) := by
  have hfindings := (hs.evaluateHeaders settings r.policies r.version).1
  simp only [Settings.complete_eq_ok hv hb, Except.map, hf] at hfindings
  simp only [output, evaluate, hc, Bool.false_and, Bool.false_eq_true, if_false, hfindings,
    Except.map]

/-- For any policies, a version that there is and lists that can be read, the command prints one
line for each finding, in their order, and then one for the worst severity; each ends with a break
and no text in them has one. Sorted, the lines are the same in the order of the ranking, and the
last stays. -/
theorem splitOn_output {settings : Settings} {s : Session} {r : Request} {v : Version}
    (hs : s.Faithful) (hc : r.color = false) (hv : settings.chosenVersion r.version = .ok v)
    (hl : settings.ListsReadable) :
    ∃ b fs, settings.bypassLists = .ok b ∧
      ((Collection.parse r.policies).evaluate v b).findings = fs ∧
      Finding.IsRanking (Finding.sort fs) fs ∧ Finding.IsWorst (Finding.highest fs) fs ∧
      ∃ plain ranked, List.Forall₂ Report.IsLine fs plain ∧
        List.Forall₂ Report.IsLine (Finding.sort fs) ranked ∧ ranked.Perm plain ∧
        ∀ sorted, ∃ text, output settings s { r with sorted := sorted } = .ok text ∧
          (text.toList.splitOn '\n').map String.ofList =
            (if sorted then ranked else plain) ++
              ["Highest severity: " ++ (Finding.highest fs).label, ""] := by
  obtain ⟨b, hb⟩ := hl.exists_bypassLists
  have hsettled : ∀ p ∈ Collection.parse r.policies, p.Settled := by
    intro p hp
    obtain ⟨text, -, rfl⟩ := List.mem_map.1 hp
    exact Policy.settled_parse text
  have hone := Collection.oneLine_of_mem_evaluate hsettled v b
  generalize hf : ((Collection.parse r.policies).evaluate v b).findings = fs at hone
  have hranking := Finding.isRanking_sort fs
  refine ⟨b, fs, hb, hf, hranking, Finding.isWorst_highest fs, fs.map Report.line,
    (Finding.sort fs).map Report.line, Report.forall₂_isLine_iff.2 rfl,
    Report.forall₂_isLine_iff.2 rfl, hranking.perm.map _, fun sorted => ?_⟩
  refine ⟨_, output_eq_ok hs hc hv hb hf sorted, ?_⟩
  cases sorted with
  | false => exact Report.splitOn_render hone
  | true =>
    have hsorted := Report.splitOn_render fun f hf => hone f (hranking.perm.mem_iff.1 hf)
    rwa [Report.lastLine_eq_of_perm hranking.perm] at hsorted

/-- The configured host and the policy both try to end a line and start another. -/
def forgingSettings : Settings where
  version := some (.int 3)
  jsonpUrls := some (.list [])
  angularUrls := some (.list [.text "//evil\n.example/\n[HIGH]"])

def forgingRequest : Request where
  policies := ["script-src //evil.example\n[HIGH]:;object-src;base-uri"]
  version := .int 2

/- Of the texts of the host and of the policy, all but the breaks is within the lines. -/
def forgingLines : List String := [
  "[HIGH] script-src //evil.example: evil.example is known to host Angular libraries which allow to bypass this CSP.",
  "[STRICT_CSP] script-src: Host allowlists can frequently be bypassed. Consider using 'strict-dynamic' in combination with CSP nonces or hashes.",
  "[INFO] require-trusted-types-for: Consider requiring Trusted Types for scripts to lock down DOM XSS injection sinks. You can do this by adding \"require-trusted-types-for 'script'\" to your policy."]

theorem splitOn_output_forgingRequest :
    Session.start.Faithful ∧ forgingRequest.color = false ∧
      forgingSettings.chosenVersion forgingRequest.version = .ok .csp2 ∧
      forgingSettings.ListsReadable ∧
      ∃ text, output forgingSettings .start { forgingRequest with sorted := true } = .ok text ∧
        (text.toList.splitOn '\n').map String.ofList =
          forgingLines ++ ["Highest severity: HIGH", ""] := by
  have hs := Session.faithful_start
  have hv : forgingSettings.chosenVersion forgingRequest.version = .ok .csp2 := rfl
  have hl : forgingSettings.ListsReadable := by
    simp [Settings.ListsReadable, forgingSettings, Literal.parts?]
  obtain ⟨b, fs, hb, hf, hsort, -, plain, ranked, -, hranked, -, hprinted⟩ :=
    splitOn_output hs rfl hv hl
  obtain ⟨text, htext, hlines⟩ := hprinted true
  have hfound : (forgingSettings.bypassLists.toOption.map fun b =>
      let fs := ((Collection.parse forgingRequest.policies).evaluate .csp2 b).findings
      (fs.map fun f => (f.severity, Report.line f), (Finding.highest fs).label)) =
        some ([(.strictCsp, forgingLines[1]), (.info, forgingLines[2]), (.high, forgingLines[0])],
          "HIGH") := by decide +kernel
  rw [hb, Except.toOption, Option.map_some, hf, Option.some.injEq, Prod.mk.injEq] at hfound
  obtain ⟨hfound, hworst⟩ := hfound
  obtain ⟨f, g, h, rfl⟩ : ∃ f g h, fs = [f, g, h] :=
    List.length_eq_three.1 (by simpa using congrArg List.length hfound)
  simp only [List.map_cons, List.map_nil, List.cons.injEq, Prod.mk.injEq, and_true] at hfound
  obtain ⟨⟨hfs, hf⟩, ⟨hgs, hg⟩, hhs, hh⟩ := hfound
  have hranking : Finding.IsRanking [h, f, g] [f, g, h] := by
    have hperm : ([h] ++ [f, g]).Perm ([f, g] ++ [h]) := List.perm_append_comm
    refine ⟨hperm, ?_, fun s => ?_⟩
    · simp only [List.pairwise_cons, List.forall_mem_cons, hfs, hgs, hhs]
      decide
    · cases s <;> simp [List.filter, hfs, hgs, hhs]
  rw [hsort.unique hranking] at hranked
  rw [Report.forall₂_isLine_iff.1 hranked, hworst] at hlines
  refine ⟨hs, rfl, hv, hl, text, htext, hlines.trans ?_⟩
  simp only [List.map_cons, hf, hg, hh]
  rfl

end CommandLine

end ContentPolicy
