import SourceContract.Proofs.Report.Rows
import SourceContract.Proofs.Text.Lines
import SourceContract.Report.Markdown

/-!
# The document can be read back

A document has headings and, below each, lines that are none.  As long as no text in a
report holds a line break, no text can pretend to be a heading or a further entry: the
lines of the document are those that were written, the headings are the five of a
report, and the entries below them are its results and its issues.
-/

namespace SourceContract.Markdown

open Text (OneLine linesOf)

/-! ## Documents in parts -/

def isHeading (line : String) : Bool := line.startsWith "## "

/-- What stands below a heading, as far as the next one. -/
def linesBelow (heading : String) (ls : List String) : List String :=
  ((ls.dropWhile fun line => line != heading).tail).takeWhile fun line => !isHeading line

def entriesBelow (heading : String) (ls : List String) : List String :=
  (linesBelow heading ls).filter fun line => line != ""

structure Part where
  heading : String
  body : List String

def Part.written (p : Part) : List String := p.heading :: p.body

/-- The heading is one, and no line of the body is. -/
structure Part.Proper (p : Part) : Prop where
  heading : isHeading p.heading = true
  body : ∀ line ∈ p.body, isHeading line = false

section Parts

variable {before : List String} {parts : List Part}

theorem filter_isHeading (hbefore : ∀ line ∈ before, isHeading line = false)
    (hparts : ∀ p ∈ parts, p.Proper) :
    (before ++ parts.flatMap Part.written).filter isHeading = parts.map Part.heading := by
  have hnone {ls : List String} (h : ∀ line ∈ ls, isHeading line = false) :
      ls.filter isHeading = [] := by simpa using h
  rw [List.filter_append, hnone hbefore, List.nil_append]
  induction parts with
  | nil => rfl
  | cons p rest ih =>
      have hp := hparts p List.mem_cons_self
      have hrest := ih fun q hq => hparts q (List.mem_cons_of_mem p hq)
      rw [List.flatMap_cons, List.filter_append, hrest, Part.written,
        List.filter_cons_of_pos hp.heading, hnone hp.body]
      rfl

theorem dropWhile_of_no_heading {heading : String} (h : isHeading heading = true)
    (hbefore : ∀ line ∈ before, isHeading line = false) (ls : List String) :
    (before ++ ls).dropWhile (fun line => line != heading) =
      ls.dropWhile fun line => line != heading := by
  apply List.dropWhile_append_of_pos
  intro line hline
  rw [bne_iff_ne]
  rintro rfl
  rw [hbefore line hline] at h
  contradiction

theorem takeWhile_written (hparts : ∀ p ∈ parts, p.Proper) :
    (parts.flatMap Part.written).takeWhile (fun line => !isHeading line) = [] := by
  cases parts with
  | nil => rfl
  | cons p rest =>
      have hp := hparts p List.mem_cons_self
      rw [List.flatMap_cons, Part.written, List.cons_append, List.takeWhile_cons_of_neg]
      simp [hp.heading]

/-- If no two headings are the same, the body of each part is found again below its heading. -/
theorem linesBelow_heading (hbefore : ∀ line ∈ before, isHeading line = false)
    (hparts : ∀ p ∈ parts, p.Proper) (hnodup : (parts.map Part.heading).Nodup) {p : Part}
    (hp : p ∈ parts) :
    linesBelow p.heading (before ++ parts.flatMap Part.written) = p.body := by
  have hheading := (hparts p hp).heading
  rw [linesBelow, dropWhile_of_no_heading hheading hbefore]
  clear hbefore
  induction parts with
  | nil => contradiction
  | cons q rest ih =>
      obtain ⟨hq, hrest⟩ := List.forall_mem_cons.mp hparts
      obtain ⟨hnew, hnodup⟩ := List.nodup_cons.mp hnodup
      rw [List.flatMap_cons, Part.written, List.cons_append]
      rcases List.mem_cons.mp hp with rfl | hp
      · rw [List.dropWhile_cons_of_neg (by simp), List.tail_cons,
          List.takeWhile_append_of_pos (by simpa using hq.body), takeWhile_written hrest,
          List.append_nil]
      · have hother : q.heading ≠ p.heading := fun h => hnew (h ▸ List.mem_map_of_mem hp)
        rw [List.dropWhile_cons_of_pos (by simpa using hother),
          dropWhile_of_no_heading hheading hq.body]
        exact ih hrest hnodup hp

end Parts

/-! ## The parts of a report -/

def keyParts (r : RunReport) (c : Contract) : List Part :=
  if keyInterfaceRows r c = [] then []
  else [⟨"## Key interface status", "" :: keyLines r c ++ [""]⟩]

def parts (r : RunReport) (c : Contract) : List Part :=
  ⟨"## Overall result", "" :: overallLines r c ++ [""]⟩ ::
    ⟨"## Check results", "" :: resultLines r ++ [""]⟩ :: keyParts r c ++
    [⟨"## Issues", "" :: issueLines r ++ [""]⟩,
      ⟨"## Recommendation", ["", recommendationLine r, ""]⟩]

theorem forall_mem_parts {r : RunReport} {c : Contract} {P : Part → Prop}
    (hoverall : P ⟨"## Overall result", "" :: overallLines r c ++ [""]⟩)
    (hresults : P ⟨"## Check results", "" :: resultLines r ++ [""]⟩)
    (hkeys : P ⟨"## Key interface status", "" :: keyLines r c ++ [""]⟩)
    (hissues : P ⟨"## Issues", "" :: issueLines r ++ [""]⟩)
    (hrecommendation : P ⟨"## Recommendation", "" :: [recommendationLine r] ++ [""]⟩) :
    ∀ p ∈ parts r c, P p := by
  have hkeyParts : ∀ p ∈ keyParts r c, P p := by
    unfold keyParts
    split
    next => exact List.forall_mem_nil _
    next => exact List.forall_mem_singleton.mpr hkeys
  simp only [parts, List.cons_append, List.forall_mem_cons, List.forall_mem_append]
  exact ⟨hoverall, hresults, hkeyParts, hissues, hrecommendation, List.forall_mem_nil _⟩

theorem lines_eq_parts (r : RunReport) (c : Contract) (root now : String) :
    lines r c root now ++ [""] =
      titleLines r c root now ++ (parts r c).flatMap Part.written := by
  have hkeys : (if (keyLines r c).isEmpty then []
      else heading "Key interface status" ++ keyLines r c ++ [""]) =
        (keyParts r c).flatMap Part.written := by
    unfold keyParts keyLines
    cases keyInterfaceRows r c with
    | nil => rfl
    | cons row rest => simp [Part.written, heading]
  simp only [lines, hkeys, parts, List.flatMap_append, List.flatMap_cons, List.flatMap_nil]
  simp [Part.written, heading]

theorem headings_parts (r : RunReport) (c : Contract) :
    (parts r c).map Part.heading =
      ["## Overall result", "## Check results"] ++
        (if keyInterfaceRows r c = [] then [] else ["## Key interface status"]) ++
        ["## Issues", "## Recommendation"] := by
  unfold parts keyParts
  split <;> rfl

theorem nodup_headings (r : RunReport) (c : Contract) :
    ((parts r c).map Part.heading).Nodup := by
  rw [headings_parts]
  split <;> decide

/-! ## Lines that are no headings -/

theorem isHeading_iff {line : String} :
    isHeading line = true ↔ ['#', '#', ' '] <+: line.toList :=
  String.startsWith_string_iff

theorem isHeading_eq_false_iff {line : String} :
    isHeading line = false ↔ ¬ ['#', '#', ' '] <+: line.toList :=
  String.startsWith_string_eq_false_iff

theorem not_heading_of_number (n : Nat) (rest : String) :
    isHeading (toString n ++ rest) = false := by
  rw [isHeading_eq_false_iff, String.toList_append, Text.toList_toString]
  cases hdigits : Nat.toDigits 10 n with
  | nil => exact absurd hdigits Nat.toDigits_ne_nil
  | cons c cs =>
      have hc := Nat.isDigit_of_mem_toDigits (by decide) (Nat.le_refl 10)
        (hdigits ▸ List.mem_cons_self : c ∈ Nat.toDigits 10 n)
      intro hprefix
      obtain ⟨rfl, -⟩ := List.cons_prefix_cons.mp hprefix
      contradiction

theorem not_heading_bullet (label value : String) : isHeading (bullet label value) = false := by
  simp [isHeading_eq_false_iff, bullet]

variable {r : RunReport} {c : Contract} {root now : String}

theorem not_heading_titleLines : ∀ line ∈ titleLines r c root now, isHeading line = false := by
  unfold titleLines
  split <;> split <;> simp [isHeading_eq_false_iff]

theorem not_heading_overallLines : ∀ line ∈ overallLines r c, isHeading line = false := by
  dsimp only [overallLines]
  split <;> simp only [List.forall_mem_append, List.forall_mem_cons, List.forall_mem_map,
    not_heading_bullet, List.not_mem_nil, false_implies, implies_true, and_true]

theorem not_heading_resultLines : ∀ line ∈ resultLines r, isHeading line = false := by
  unfold resultLines
  split <;> simp [isHeading_eq_false_iff, resultLine]

theorem not_heading_keyLines : ∀ line ∈ keyLines r c, isHeading line = false := by
  rw [keyLines, List.forall_mem_map]
  intro row _
  unfold keyLine
  split <;> simp [isHeading_eq_false_iff]

theorem numbered_eq (write : Nat → Issue → String) (n : Nat) (issues : List Issue) :
    numbered write n issues = (issues.zipIdx n).map fun i => write i.2 i.1 := by
  induction issues generalizing n with
  | nil => rfl
  | cons i rest ih => rw [numbered, ih, List.zipIdx_cons, List.map_cons]

theorem not_heading_issueLines : ∀ line ∈ issueLines r, isHeading line = false := by
  unfold issueLines
  split
  next => simp [isHeading_eq_false_iff]
  next =>
      simp only [numbered_eq, List.forall_mem_map, issueLine, String.append_assoc]
      exact fun i _ => not_heading_of_number i.2 _

theorem not_heading_recommendationLine : isHeading (recommendationLine r) = false := by
  unfold recommendationLine
  cases r.recommendation <;> simp [isHeading_eq_false_iff, Recommendation.tag]

theorem proper_of_body {heading : String} {body : List String} (hheading : isHeading heading = true)
    (hbody : ∀ line ∈ body, isHeading line = false) :
    Part.Proper ⟨heading, "" :: body ++ [""]⟩ where
  heading := hheading
  body := by
    have hblank : isHeading "" = false := by simp [isHeading_eq_false_iff]
    simpa [hblank, or_imp, forall_and] using hbody

theorem proper_parts : ∀ p ∈ parts r c, p.Proper :=
  forall_mem_parts (proper_of_body (by simp [isHeading_iff]) not_heading_overallLines)
    (proper_of_body (by simp [isHeading_iff]) not_heading_resultLines)
    (proper_of_body (by simp [isHeading_iff]) not_heading_keyLines)
    (proper_of_body (by simp [isHeading_iff]) not_heading_issueLines)
    (proper_of_body (by simp [isHeading_iff])
      (List.forall_mem_singleton.mpr not_heading_recommendationLine))

/-! ## Texts without line breaks -/

/-- No text that a document shows holds a line break. -/
structure Unbroken (r : RunReport) (c : Contract) (root : String) : Prop where
  root : OneLine root
  title : ∀ title ∈ c.report.title, OneLine title
  name : OneLine c.name
  labels : ∀ key ∈ c.report.keyInterfaces, OneLine key.label
  descriptions : ∀ k ∈ c.checks, ∀ description ∈ k.description, OneLine description
  owners : ∀ k ∈ c.checks, ∀ owner ∈ k.requirement.owner?, OneLine owner
  results : ∀ result ∈ r.results, OneLine result.name ∧ OneLine result.message
  issues : ∀ i ∈ r.issues, OneLine i.check ∧ OneLine i.message

namespace Unbroken

theorem reportTitle (h : Unbroken r c root) : OneLine c.reportTitle := by
  unfold Contract.reportTitle
  split
  next title htitle => exact h.title title htitle
  next =>
      split
      next => decide
      next => exact h.name.append (by decide)

theorem keyRows (h : Unbroken r c root) : ∀ row ∈ keyInterfaceRows r c, OneLine row.1 := by
  unfold keyInterfaceRows
  split
  next =>
      intro row hrow
      obtain ⟨k, hk, hrow⟩ := List.mem_filterMap.mp hrow
      unfold interfaceRow at hrow
      split at hrow
      next owner _ _ _ hrequirement =>
          cases hrow
          exact h.owners k hk owner (by rw [hrequirement]; rfl)
      next => contradiction
  next => simpa using h.labels

theorem labelOf (h : Unbroken r c root) {name : String} (hname : OneLine name) :
    OneLine (c.labelOf name) := by
  unfold Contract.labelOf
  split
  next k hk =>
      have hmem := List.mem_of_find?_eq_some hk
      have hsame : k.name = name := by simpa using List.find?_some hk
      unfold Check.label
      cases hdescription : k.description with
      | none => exact hsame ▸ hname
      | some description => exact h.descriptions k hmem description hdescription
  next => exact hname

theorem measurementRows (h : Unbroken r c root) :
    ∀ row ∈ SourceContract.measurementRows r c, OneLine row.1 := by
  unfold SourceContract.measurementRows RunReport.measurements
  intro row hrow
  obtain ⟨measured, hmeasured, rfl⟩ := List.mem_map.mp hrow
  obtain ⟨result, hresult, hvalue⟩ := List.mem_filterMap.mp hmeasured
  obtain ⟨value, -, rfl⟩ := Option.map_eq_some_iff.mp hvalue
  exact h.labelOf (h.results result hresult).1

theorem titleLines (h : Unbroken r c root) (hnow : OneLine now) :
    ∀ line ∈ Markdown.titleLines r c root now, OneLine line := by
  unfold Markdown.titleLines
  simp only [List.forall_mem_append, List.forall_mem_cons, Text.oneLine_append, h.reportTitle,
    hnow, h.root, and_true]
  refine ⟨⟨⟨by decide, ?_⟩, by decide⟩, ?_⟩
  · split
    next => exact List.forall_mem_nil _
    next => exact List.forall_mem_singleton.mpr (.append (by decide) h.name)
  · split <;> decide

theorem bullet {label value : String} (hlabel : OneLine label) (hvalue : OneLine value) :
    OneLine (Markdown.bullet label value) := by
  simp only [Markdown.bullet, Text.oneLine_append, hlabel, hvalue, and_true]
  decide

theorem overallLines (h : Unbroken r c root) :
    ∀ line ∈ Markdown.overallLines r c, OneLine line := by
  have hnumber {label : String} (n : Nat) (hlabel : OneLine label) :=
    bullet hlabel (Text.oneLine_toString n)
  have hrate : OneLine (r.stats.passRate.fixed 1 ++ "%") :=
    (Binary64.oneLine_fixed 1 _).append (by decide)
  have hfiles : OneLine (toString r.stats.filesInspected ++ " (" ++
      toString r.stats.filesMissing ++ " missing)") := by
    simp only [Text.oneLine_append, Text.oneLine_toString, true_and]
    decide
  dsimp only [Markdown.overallLines]
  simp only [List.forall_mem_append, List.forall_mem_cons, List.forall_mem_map]
  refine ⟨⟨⟨hnumber _ (by decide), hnumber _ (by decide), hnumber _ (by decide),
    bullet (by decide) hrate, hnumber _ (by decide), bullet (by decide) hfiles,
    List.forall_mem_nil _⟩, ?_⟩, fun row hrow => hnumber _ (h.measurementRows row hrow)⟩
  split
  next => exact List.forall_mem_nil _
  next => exact List.forall_mem_singleton.mpr (hnumber _ (by decide))

theorem resultLines (h : Unbroken r c root) :
    ∀ line ∈ Markdown.resultLines r, OneLine line := by
  unfold Markdown.resultLines
  split
  next => decide
  next =>
      rw [List.forall_mem_map]
      intro result hresult
      obtain ⟨hname, hmessage⟩ := h.results result hresult
      have htag : OneLine result.tag := by
        unfold CheckResult.tag
        split
        next => decide
        next => split <;> decide
      simp only [resultLine, Text.oneLine_append, htag, hname, and_true]
      refine ⟨⟨by decide, ?_⟩, ?_⟩
      · split
        next => decide
        next => exact .append (by decide) hmessage
      · split
        next =>
            simp only [Text.oneLine_append, Text.oneLine_toString, and_true]
            decide
        next => decide

theorem keyLines (h : Unbroken r c root) : ∀ line ∈ Markdown.keyLines r c, OneLine line := by
  rw [Markdown.keyLines, List.forall_mem_map]
  intro row hrow
  simp only [keyLine, Text.oneLine_append, h.keyRows row hrow, and_true]
  split <;> decide

theorem issueLines (h : Unbroken r c root) : ∀ line ∈ Markdown.issueLines r, OneLine line := by
  unfold Markdown.issueLines
  split
  next => decide
  next =>
      rw [numbered_eq, List.forall_mem_map]
      intro i hi
      obtain ⟨hcheck, hmessage⟩ := h.issues i.1 (List.fst_mem_of_mem_zipIdx hi)
      have hkind : OneLine i.1.kind.name := by cases i.1.kind <;> decide
      simp only [issueLine, Text.oneLine_append, Text.oneLine_toString, hcheck, hkind, hmessage,
        true_and, and_true]
      decide

theorem written {heading : String} {body : List String} (hheading : OneLine heading)
    (hbody : ∀ line ∈ body, OneLine line) :
    ∀ line ∈ Part.written ⟨heading, "" :: body ++ [""]⟩, OneLine line := by
  have hblank : OneLine "" := by decide
  simp only [Part.written, List.cons_append, List.forall_mem_cons, List.forall_mem_append]
  exact ⟨hheading, hblank, hbody, hblank, List.forall_mem_nil _⟩

theorem recommendationLine (r : RunReport) : OneLine (Markdown.recommendationLine r) := by
  unfold Markdown.recommendationLine
  cases r.recommendation <;> decide

theorem parts (h : Unbroken r c root) :
    ∀ p ∈ Markdown.parts r c, ∀ line ∈ p.written, OneLine line :=
  forall_mem_parts (written (by decide) h.overallLines) (written (by decide) h.resultLines)
    (written (by decide) h.keyLines) (written (by decide) h.issueLines)
    (written (by decide) (List.forall_mem_singleton.mpr (recommendationLine r)))

theorem lines (h : Unbroken r c root) (hnow : OneLine now) :
    ∀ line ∈ Markdown.lines r c root now, OneLine line := by
  intro line hline
  have hwritten : line ∈ Markdown.lines r c root now ++ [""] := List.mem_append_left _ hline
  rw [lines_eq_parts] at hwritten
  rcases List.mem_append.mp hwritten with htitle | hparts
  · exact h.titleLines hnow line htitle
  · obtain ⟨p, hp, hline⟩ := List.mem_flatMap.mp hparts
    exact h.parts p hp line hline

theorem linesOf_render (h : Unbroken r c root) (hnow : OneLine now) :
    linesOf (render r c root now) =
      Markdown.titleLines r c root now ++ (Markdown.parts r c).flatMap Part.written := by
  rw [render, Text.linesOf_join (h.lines hnow), lines_eq_parts]

theorem linesBelow_render (h : Unbroken r c root) (hnow : OneLine now) {p : Part}
    (hp : p ∈ Markdown.parts r c) :
    linesBelow p.heading (linesOf (render r c root now)) = p.body := by
  rw [h.linesOf_render hnow]
  exact linesBelow_heading not_heading_titleLines proper_parts (nodup_headings r c) hp

theorem entriesBelow_render (h : Unbroken r c root) (hnow : OneLine now) {heading : String}
    {entries : List String} (hentries : ∀ line ∈ entries, line ≠ "")
    (hp : ⟨heading, "" :: entries ++ [""]⟩ ∈ Markdown.parts r c) :
    entriesBelow heading (linesOf (render r c root now)) = entries := by
  rw [entriesBelow, h.linesBelow_render hnow hp]
  have hkept : entries.filter (fun line => line != "") = entries :=
    List.filter_eq_self.mpr fun line hline => bne_iff_ne.mpr (hentries line hline)
  simp [hkept]

end Unbroken

/-! ## Entries -/

theorem resultLine_eq (result : CheckResult) :
    ∃ rest, resultLine result = "- " ++ result.tag ++ " **" ++ result.name ++ "**" ++ rest :=
  ⟨_, String.append_assoc ..⟩

theorem resultLines_ne_empty : ∀ line ∈ resultLines r, line ≠ "" := by
  unfold resultLines
  split <;> simp [resultLine]

theorem issueLines_ne_empty : ∀ line ∈ issueLines r, line ≠ "" := by
  unfold issueLines
  split
  next => simp
  next =>
      rw [numbered_eq, List.forall_mem_map]
      simp [issueLine]

theorem mem_parts_results : ⟨"## Check results", "" :: resultLines r ++ [""]⟩ ∈ parts r c := by
  simp [parts]

theorem mem_parts_issues : ⟨"## Issues", "" :: issueLines r ++ [""]⟩ ∈ parts r c := by
  simp [parts]

/-! ## The time -/

theorem lines_time (r : RunReport) (c : Contract) (root : String) :
    ∃ rest, ∀ now, lines r c root now =
      ("# " ++ c.reportTitle) :: "" :: ("**Generated**: " ++ now) :: rest := by
  refine ⟨(lines r c root "").drop 3, fun now => ?_⟩
  simp only [lines, titleLines, List.cons_append, List.drop_succ_cons, List.drop_zero]

theorem render_time (r : RunReport) (c : Contract) (root : String) :
    ∃ head tail, ∀ now, render r c root now = head ++ now ++ tail := by
  obtain ⟨rest, hrest⟩ := lines_time r c root
  refine ⟨"# " ++ c.reportTitle ++ "\n" ++ "\n" ++ "**Generated**: ",
    "\n" ++ String.join (rest.map fun line => line ++ "\n"), fun now => ?_⟩
  rw [render, hrest]
  simp only [List.map_cons, String.join_cons, String.append_assoc, String.empty_append]

theorem linesOf_render_time (h : Unbroken r c root) :
    ∃ above below, ∀ now, OneLine now →
      linesOf (render r c root now) = above ++ ("**Generated**: " ++ now) :: below := by
  obtain ⟨rest, hrest⟩ := lines_time r c root
  refine ⟨["# " ++ c.reportTitle, ""], rest ++ [""], fun now hnow => ?_⟩
  rw [render, Text.linesOf_join (h.lines hnow), hrest]
  rfl

/-- The document can be read back line by line.  If no text in it holds a line break, its headings
are the four that are always there and, if there are key interfaces, that of their status, each once
and in this order.  Below the second one there is an entry for each result, in order, that begins
with its tag and its name, and below that of the issues an entry for each issue, in order, with the
numbers from one on; if there are none, a single entry says so.  The time is seen in one line only,
which is its own. -/
theorem document_reads_back (h : Unbroken r c root) (hnow : OneLine now) :
    let ls := linesOf (render r c root now)
    ls.filter isHeading = ["## Overall result", "## Check results"] ++
        (if keyInterfaceRows r c = [] then [] else ["## Key interface status"]) ++
        ["## Issues", "## Recommendation"] ∧
      (r.results ≠ [] → List.Forall₂
        (fun result line => ∃ rest,
          line = "- " ++ result.tag ++ " **" ++ result.name ++ "**" ++ rest)
        r.results (entriesBelow "## Check results" ls)) ∧
      (r.results = [] → entriesBelow "## Check results" ls = ["No checks were evaluated."]) ∧
      (r.issues ≠ [] → entriesBelow "## Issues" ls = (r.issues.zipIdx 1).map fun i =>
        toString i.2 ++ ". \x60" ++ i.1.check ++ "\x60 [" ++ i.1.kind.name ++ "] " ++
          i.1.message) ∧
      (r.issues = [] → entriesBelow "## Issues" ls = ["No issues."]) ∧
      ∃ above below, ∀ now', OneLine now' →
        linesOf (render r c root now') = above ++ ("**Generated**: " ++ now') :: below := by
  intro ls
  have hresults : entriesBelow "## Check results" ls = resultLines r :=
    h.entriesBelow_render hnow resultLines_ne_empty mem_parts_results
  have hissues : entriesBelow "## Issues" ls = issueLines r :=
    h.entriesBelow_render hnow issueLines_ne_empty mem_parts_issues
  refine ⟨?_, ?_, ?_, ?_, ?_, linesOf_render_time h⟩
  · rw [← headings_parts]
    dsimp only [ls]
    rw [h.linesOf_render hnow]
    exact filter_isHeading not_heading_titleLines proper_parts
  · intro hsome
    rw [hresults, resultLines, if_neg (by simpa using hsome), List.forall₂_map_right_iff,
      List.forall₂_same]
    exact fun result _ => resultLine_eq result
  · intro hnone
    rw [hresults, resultLines, if_pos (by simpa using hnone)]
  · intro hsome
    rw [hissues, issueLines, if_neg (by simpa using hsome), numbered_eq]
    rfl
  · intro hnone
    rw [hissues, issueLines, if_pos (by simpa using hnone)]

/-- No text here makes a line that is a heading, or a second entry. -/
theorem document_reads_back_of_false_headings :
    let result := (CheckResult.fail "## Issues" "exists" "- [PASS] **b**").issue .imbalance
      "## Recommendation"
    let r := RunReport.aggregate "c" [result] ⟨0, 1⟩ false
    let c : Contract := { Contract.empty with name := "## Issues" }
    let ls := linesOf (render r c "## Issues" "2. ## Issues")
    ls.filter isHeading =
        ["## Overall result", "## Check results", "## Issues", "## Recommendation"] ∧
      entriesBelow "## Issues" ls = ["1. \x60## Issues\x60 [imbalance] ## Recommendation"] := by
  intro result r c ls
  have h : Unbroken r c "## Issues" :=
    { root := by decide
      title := by decide
      name := by decide
      labels := List.forall_mem_nil _
      descriptions := List.forall_mem_nil _
      owners := List.forall_mem_nil _
      results := by decide
      issues := by decide }
  have hnow : OneLine "2. ## Issues" := by decide
  obtain ⟨hheadings, -, -, hissues, -⟩ := document_reads_back h hnow
  exact ⟨hheadings, hissues (List.cons_ne_nil _ _)⟩

end SourceContract.Markdown
