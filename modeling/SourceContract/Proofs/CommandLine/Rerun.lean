import Mathlib.Data.List.Find
import SourceContract.Proofs.CommandLine.Footprint
import SourceContract.Proofs.FileTree.Again
import SourceContract.Proofs.Verdict.Silent

/-!
# Running once more

A run that writes its report apart from everything that it looks at can be repeated.
The second run finds the project root, the contract and the files of the checks as the
first one did, so it decides the same and writes its report to the same place.
-/

namespace SourceContract.CommandLine

open FileTree

variable {cwd : Location} {t after : FileTree} {colour : Bool} {now : String} {o : Options}
  {root : String} {c : Contract} {l : Location}

/-! ## Saving -/

namespace SavesTo

variable {path : String} {made : FileTree}

theorem gains (h : SavesTo cwd t path made l) (henters : t.Enters cwd) (bytes : ByteArray) :
    t.Gains (made.put l (.file bytes)) l :=
  h.digs.gains henters h.2 bytes

theorem unique {made' : FileTree} {l' : Location} (h : SavesTo cwd t path made l)
    (h' : SavesTo cwd t path made' l') : made' = made ∧ l' = l := by
  obtain ⟨rfl, -⟩ := Prod.mk.inj (h'.1.symm.trans h.1)
  exact ⟨rfl, Except.ok.inj (h'.2.symm.trans h.2)⟩

theorem location_ne_nil (h : SavesTo cwd t path made l) : l ≠ [] := by
  obtain ⟨place, htargets, rfl⟩ := target_eq_ok h.2
  exact htargets.location_ne_nil

theorem isDirectory_put (h : SavesTo cwd t path made l) (linkless : t.Linkless)
    (henters : t.Enters cwd) (bytes : ByteArray) {directory : String}
    (hmade : made.isDirectory cwd directory = true) :
    (made.put l (.file bytes)).isDirectory cwd directory = true := by
  have hwidens := h.digs.widens
  have hgains := Digs.refl.gains (hwidens.enters henters) h.2 bytes
  exact hgains.isDirectory (hwidens.linkless linkless) (hwidens.enters henters) hmade

theorem again (h : SavesTo cwd t path made l) (linkless : t.Linkless) (henters : t.Enters cwd)
    (bytes : ByteArray) :
    SavesTo cwd (made.put l (.file bytes)) path (made.put l (.file bytes)) l := by
  refine ⟨?_, target_put (h.digs.widens.enters henters) h.2 bytes⟩
  have hmade := h.1
  unfold withDirectory at hmade ⊢
  cases hparent : (Path.parent? path).filter fun p => !p.isEmpty with
  | none => rfl
  | some parent =>
      rw [hparent] at hmade
      obtain ⟨hparent, hnonempty⟩ := Option.filter_eq_some_iff.mp hparent
      have hslash := Path.endsInSlash_parent hparent
      have hthere := isDirectory_makeDirectories (by simpa using hnonempty) hslash hmade
      exact makeDirectories_eq_self hslash (h.isDirectory_put linkless henters bytes hthere)

end SavesTo

/-! ## Before the checks are run -/

theorem leads_down_of_mem_contractNames {name : String} (h : name ∈ contractNames) :
    ".." ∉ Path.pieces name := by
  have hpieces : ∀ name ∈ contractNames, Path.pieces name = [name] := by
    decide
  have hother : ".." ∉ contractNames := by decide
  rw [hpieces name h, List.mem_singleton]
  rintro rfl
  exact hother h

theorem location_of_mem_contractNames (linkless : t.Linkless) {name : String}
    (hname : name ∈ contractNames) {n : Node}
    (h : t.resolve [] (Path.join "/" name) = .ok (l, n)) : l = [name] := by
  have hsteps : ∀ name ∈ contractNames, steps (Path.join "/" name) = [name] := by
    decide
  have hother : "." ∉ contractNames ∧ ".." ∉ contractNames := by decide
  obtain ⟨-, -, -, hfollows⟩ := locate_eq_ok_iff.mp (resolve_eq_ok_iff.mp h)
  rw [hsteps name hname, ite_self] at hfollows
  refine hfollows.location_of_single linkless ?_ ?_
  · rintro rfl
    exact hother.1 hname
  · rintro rfl
    exact hother.2 hname

theorem origin_of_gains (h : t.Gains after l) (plain : t.Plain) (henters : t.Enters cwd)
    {top : Location} (hroot : t.resolve cwd root = .ok (top, .directory))
    (hnames : ∀ name ∈ contractNames, ∀ n, after.resolve cwd (Path.join root name) ≠ .ok (l, n)) :
    origin cwd after o root = origin cwd t o root := by
  have hfind : (contractNames.map (Path.join root)).find? (after.isFile cwd) =
      (contractNames.map (Path.join root)).find? (t.isFile cwd) := by
    refine List.find?_congr fun path hpath => ?_
    obtain ⟨name, hname, rfl⟩ := List.mem_map.mp hpath
    rw [Bool.eq_iff_iff, isFile_iff, isFile_iff]
    exact exists_congr fun bytes => (h.read_iff plain henters hroot
      (leads_down_of_mem_contractNames hname) (hnames name hname) bytes).symm
  unfold origin
  rw [hfind]

theorem Ready.of_gains (h : t.Gains after l) (plain : t.Plain) (henters : t.Enters cwd)
    (hready : Ready cwd t o root c)
    (hcontract : ∀ path, origin cwd t o root = .file path →
      ∀ n, after.resolve cwd path ≠ .ok (l, n))
    (hnames : ∀ name ∈ contractNames, ∀ n, after.resolve cwd (Path.join root name) ≠ .ok (l, n)) :
    Ready cwd after o root c := by
  obtain ⟨hcanonical, hdirectory⟩ := hready.hasRoot
  obtain ⟨top, hroot⟩ := isDirectory_iff.mp hdirectory
  refine ⟨hready.format_known, ⟨h.canonicalize plain.linkless henters hcanonical,
    h.isDirectory plain.linkless henters hdirectory⟩, ?_, hready.valid⟩
  rw [origin_of_gains h plain henters hroot hnames]
  have hgives := hready.gives
  cases horigin : origin cwd t o root with
  | template name =>
      rw [horigin] at hgives
      exact hgives
  | file path =>
      rw [horigin] at hgives
      obtain ⟨bytes, text, hread, htext, hc⟩ := hgives
      have hafter := h.read plain.linkless henters (hcontract path horigin) hread
      exact ⟨bytes, text, hafter, htext, hc⟩

/-! ## The checks -/

theorem reportOn_eq (cwd : Location) (t : FileTree) (root : String) (c : Contract) :
    reportOn cwd t root c =
      .aggregate c.name (c.checks.map (Check.verdict (t.answers cwd root) c.matching))
        (Corpus.afterChecks (t.answers cwd root) c.matching c.checks).stats false := by
  rw [reportOn, Contract.run, runChecks_eq (steady_project cwd root t), at_project]

theorem silent_reportOn_eq
    (h : ∀ k ∈ c.checks, (t.answers cwd root).SameFor (after.answers cwd root) k.requirement) :
    (reportOn cwd after root c).silent = (reportOn cwd t root c).silent := by
  rw [reportOn_eq, reportOn_eq, RunReport.silent_aggregate, RunReport.silent_aggregate,
    Corpus.stats_afterChecks_eq h, List.map_map, List.map_map]
  congr 1
  exact List.map_congr_left fun k hk => ((h k hk).verdict c.matching).1.symm

theorem exitCode_eq_of_silent {r r' : RunReport} (h : r.silent = r'.silent) :
    exitCode r = exitCode r' := by
  rw [exitCode, exitCode, ← r.allPassed_silent, h, r'.allPassed_silent]

/-! ## The whole invocation -/

structure LeadsDown (r : Requirement) : Prop where
  named : ∀ path ∈ r.namedPaths, ".." ∉ Path.pieces path
  walked : ∀ dir glob, r.walk? = some (dir, glob) → ".." ∉ Path.pieces dir

/-- No path that the walks of the checks find has such a name either. -/
def FindsDown (cwd : Location) (t : FileTree) (root : String) (c : Contract) : Prop :=
  ∀ k ∈ c.checks, ∀ dir glob paths, k.requirement.walk? = some (dir, glob) →
    t.listingOf cwd root dir glob = .ok paths → ∀ path ∈ paths, ".." ∉ Path.pieces path

/-- In a tree without links, the invocation has judged the project and written its report at `l`.
Nothing that it looks at leads there, neither a file of a check, nor a directory that is walked, nor
the contract or a place where one would be looked for. -/
structure ReportsApart (cwd : Location) (t : FileTree) (colour : Bool) (now : String)
    (args : List String) (outcome : Outcome) (after : FileTree) (o : Options) (root : String)
    (c : Contract) (l : Location) : Prop where
  plain : t.Plain
  enters : t.Enters cwd
  options : Options.ofArguments args = .ok o
  verifies : o.listTemplates = false
  wanted : o.noReport = false
  invokes : Invokes cwd t colour now args outcome after
  judged : outcome.exitCode = 0 ∨ outcome.exitCode = 1
  ready : Ready cwd t o root c
  located : ∃ n, after.resolve cwd (reportFile o root c) = .ok (l, n)
  unread : ∀ k ∈ c.checks, ∀ path, (after.answers cwd root).Concerns k.requirement path →
    ∀ n, after.resolve cwd (Path.join root path) ≠ .ok (l, n)
  not_walked : ∀ k ∈ c.checks, ∀ dir glob, k.requirement.walk? = some (dir, glob) →
    ∀ d, after.resolve cwd (Path.join root dir) = .ok (d, .directory) → ¬ d <+: l
  not_contract : ∀ path, origin cwd t o root = .file path →
    ∀ n, after.resolve cwd path ≠ .ok (l, n)
  not_default : ∀ name ∈ contractNames, ∀ n, after.resolve cwd (Path.join root name) ≠ .ok (l, n)
  leads_down : ∀ k ∈ c.checks, LeadsDown k.requirement

/-- The second run has ended as the first one did, with the same verdicts, and has changed nothing
but the report.  Where the reports differ, it is in messages and in the time. -/
structure Repeats (cwd : Location) (t after : FileTree) (now now' : String) (root : String)
    (c : Contract) (l : Location) (outcome outcome' : Outcome) (after' : FileTree) : Prop where
  exitCode : outcome'.exitCode = outcome.exitCode
  passed : (reportOn cwd after root c).results.map CheckResult.passed =
    (reportOn cwd t root c).results.map CheckResult.passed
  silent : (reportOn cwd after root c).silent = (reportOn cwd t root c).silent
  others : ∀ q, q ≠ l → after'.node? q = after.node? q
  first : after.file? l = some (document cwd t now root c).toUTF8
  second : after'.file? l = some (document cwd after now' root c).toUTF8

theorem Invokes.ends {args : List String} {outcome : Outcome}
    (h : Invokes cwd t colour now args outcome after) (hargs : Options.ofArguments args = .ok o) :
    (run (disk cwd) colour now o).run t = (outcome, after) := by
  cases h with
  | refused hrefused =>
      rw [hargs] at hrefused
      contradiction
  | accepted haccepted hends =>
      obtain rfl := Except.ok.inj (hargs.symm.trans haccepted)
      exact (ends_iff cwd t colour now o).mp hends

theorem Course.exists_savesTo {outcome : Outcome} (h : Course cwd t colour now o outcome after)
    (hlist : o.listTemplates = false) (hwanted : o.noReport = false) (hcode : outcome.exitCode ≠ 2)
    (hready : Ready cwd t o root c) : ∃ made l, SavesTo cwd t (reportFile o root c) made l := by
  cases h with
  | listed h => simp [hlist] at h
  | stopped => exact absurd rfl hcode
  | shown _ _ hnone => simp [hwanted] at hnone
  | saved _ hready' _ hsaves =>
      obtain ⟨rfl, rfl⟩ := hready.unique hready'
      exact ⟨_, _, hsaves⟩
  | unsaved => exact absurd rfl hcode

theorem Course.eq_of_savesTo {outcome : Outcome} (h : Course cwd t colour now o outcome after)
    (hlist : o.listTemplates = false) (hwanted : o.noReport = false) (hready : Ready cwd t o root c)
    {made : FileTree} (hsaves : SavesTo cwd t (reportFile o root c) made l) :
    outcome.exitCode = exitCode (reportOn cwd t root c) ∧
      after = made.put l (.file (document cwd t now root c).toUTF8) := by
  cases h with
  | listed h => simp [hlist] at h
  | stopped _ hnone => exact absurd hready (hnone _ _)
  | shown _ _ hnone => simp [hwanted] at hnone
  | saved _ hready' _ hsaves' =>
      obtain ⟨rfl, rfl⟩ := hready.unique hready'
      obtain ⟨rfl, rfl⟩ := hsaves.unique hsaves'
      exact ⟨savedOutcome_exitCode .., rfl⟩
  | unsaved _ hready' _ hnowhere =>
      obtain ⟨rfl, rfl⟩ := hready.unique hready'
      exact absurd hsaves (hnowhere _ _)

namespace ReportsApart

variable {args : List String} {outcome : Outcome}

theorem exists_savesTo (h : ReportsApart cwd t colour now args outcome after o root c l) :
    ∃ made, SavesTo cwd t (reportFile o root c) made l ∧
      after = made.put l (.file (document cwd t now root c).toUTF8) ∧
      outcome.exitCode = exitCode (reportOn cwd t root c) := by
  have hcourse := run_course cwd t colour now o (h.invokes.ends h.options)
  have hcode : outcome.exitCode ≠ 2 := by
    rcases h.judged with hcode | hcode <;> simp [hcode]
  obtain ⟨made, l', hsaves⟩ := hcourse.exists_savesTo h.verifies h.wanted hcode h.ready
  obtain ⟨hcode, hafter⟩ := hcourse.eq_of_savesTo h.verifies h.wanted h.ready hsaves
  -- The report path leads to where the report was written.
  obtain ⟨n, hlocated⟩ := h.located
  obtain ⟨place, htargets, rfl⟩ := target_eq_ok hsaves.2
  have hput := htargets.resolve_put (hsaves.digs.widens.enters h.enters)
    (document cwd t now root c).toUTF8
  rw [← hafter, hlocated] at hput
  obtain ⟨rfl, -⟩ := Prod.mk.inj (Except.ok.inj hput)
  exact ⟨made, hsaves, hafter, hcode⟩

theorem gains (h : ReportsApart cwd t colour now args outcome after o root c l) :
    t.Gains after l := by
  obtain ⟨made, hsaves, rfl, -⟩ := h.exists_savesTo
  exact hsaves.gains h.enters _

theorem ready_after (h : ReportsApart cwd t colour now args outcome after o root c l) :
    Ready cwd after o root c :=
  h.ready.of_gains h.gains h.plain h.enters h.not_contract h.not_default

theorem again (h : ReportsApart cwd t colour now args outcome after o root c l)
    {colour' : Bool} {now' : String} {outcome' : Outcome} {after' : FileTree}
    (h' : Invokes cwd after colour' now' args outcome' after') :
    outcome'.exitCode = exitCode (reportOn cwd after root c) ∧
      after' = after.put l (.file (document cwd after now' root c).toUTF8) := by
  obtain ⟨made, hsaves, hafter, -⟩ := h.exists_savesTo
  have hagain := hsaves.again h.plain.linkless h.enters (document cwd t now root c).toUTF8
  rw [← hafter] at hagain
  have hcourse := run_course cwd after colour' now' o (h'.ends h.options)
  exact hcourse.eq_of_savesTo h.verifies h.wanted h.ready_after hagain

theorem location_ne_nil (h : ReportsApart cwd t colour now args outcome after o root c l) :
    l ≠ [] := by
  obtain ⟨made, hsaves, -⟩ := h.exists_savesTo
  exact hsaves.location_ne_nil

theorem sameFiles (h : ReportsApart cwd t colour now args outcome after o root c l) {k : Check}
    (hk : k ∈ c.checks) {dir glob : String} (hwalk : k.requirement.walk? = some (dir, glob)) :
    SameFiles (t.listingOf cwd root dir glob) (after.listingOf cwd root dir glob) := by
  obtain ⟨top, hroot⟩ := isDirectory_iff.mp h.ready.hasRoot.2
  have hfault := (c.validate_eq_ok_iff.mp h.ready.valid).faultless k hk
  obtain ⟨compiled, hglob⟩ := Check.exists_glob_of_walk hfault hwalk
  exact h.gains.sameFiles h.plain h.enters hroot ((h.leads_down k hk).walked dir glob hwalk) hglob
    (h.not_walked k hk dir glob hwalk)

theorem sameFor (h : ReportsApart cwd t colour now args outcome after o root c l)
    (hfinds : FindsDown cwd t root c) {k : Check} (hk : k ∈ c.checks) :
    (t.answers cwd root).SameFor (after.answers cwd root) k.requirement := by
  obtain ⟨top, hroot⟩ := isDirectory_iff.mp h.ready.hasRoot.2
  refine ⟨fun path hpath => ?_, fun dir glob hwalk => h.sameFiles hk hwalk⟩
  have hdown : ".." ∉ Path.pieces path := by
    cases hpath with
    | named hnamed => exact (h.leads_down k hk).named path hnamed
    | found hwalk hfound hin => exact hfinds k hk _ _ _ hwalk hfound path hin
  have hafter : (after.answers cwd root).Concerns k.requirement path := by
    cases hpath with
    | named hnamed => exact .named hnamed
    | found hwalk hfound hin => exact .found hwalk ((h.sameFiles hk hwalk).eq_ok hfound) hin
  exact h.gains.sameText h.plain h.enters hroot hdown (h.unread k hk path hafter)

end ReportsApart

/-! ## A project with one walk -/

section Walked

variable (text name : String) (bytes : ByteArray)

def walked : FileTree :=
  ⟨[(["k"], .file text.toUTF8), (["a"], .file "".toUTF8), (["s"], .directory),
    (["s", name], .file "".toUTF8)]⟩

def walkedAfter : FileTree :=
  ⟨(walked text name).nodes ++ [(["o"], .directory), (["o", "r"], .file bytes)]⟩

def walkedOptions : Options := ⟨none, some "k", none, some "o/r", "pretty", false, false, false, 0⟩

def walkedCheck : Check := ⟨"a", none, false, .forbidden "x" (.walk "s" "*") [] false⟩

def walkedContract : Contract := { Contract.empty with checks := [walkedCheck] }

def walkedText : String :=
  "checks:\n- name: a\n  kind: forbidden\n  token: x\n  files:\n    dir: s\n    glob: \"*\""

theorem ofYaml_walkedText : Contract.ofYaml walkedText = .ok walkedContract := by decide +kernel

theorem plain_walked : (walked text name).Plain := by
  have hs : (walked text name).Enters ["s"] := enters_nil.snoc (l := []) rfl
  refine plain_of_nodes fun e he => ?_
  simp only [walked, List.mem_cons, List.not_mem_nil, or_false] at he
  rcases he with rfl | rfl | rfl | rfl
  · exact ⟨enters_nil, nofun⟩
  · exact ⟨enters_nil, nofun⟩
  · exact ⟨enters_nil, nofun⟩
  · exact ⟨hs, nofun⟩

theorem savesTo_walked : ∃ made : FileTree, SavesTo [] (walked text name) "o/r" made ["o", "r"] ∧
    ∀ bytes, made.put ["o", "r"] (.file bytes) = walkedAfter text name bytes :=
  ⟨⟨(walked text name).nodes ++ [(["o"], .directory)]⟩, ⟨rfl, rfl⟩, fun _ => rfl⟩

theorem listingOf_walked {t : FileTree} {name path : String}
    (hdirectory : t.isDirectory [] (Path.join "/" "s") = true)
    (hwalk : t.walk [] (Path.join "/" "s") = .ok [⟨"/s/" ++ name, name⟩])
    (hmatch : ∃ glob, Glob.compile "*" = .ok glob ∧ glob.isMatch name = true)
    (hproject : projectPath? "/" ("/s/" ++ name) = some path) :
    t.listingOf [] "/" "s" "*" = .ok [path] := by
  obtain ⟨glob, hcompile, hmatch⟩ := hmatch
  rw [listingOf, if_pos hdirectory, hcompile, hwalk]
  simp [matching, hmatch, hproject]

variable {text name}

theorem reportsApart_walked {path : String} (hc : Contract.ofYaml text = .ok walkedContract)
    (hlist : ∀ bytes, (walkedAfter text name bytes).listingOf [] "/" "s" "*" = .ok [path])
    (helsewhere : ∀ bytes n,
      (walkedAfter text name bytes).resolve [] (Path.join "/" path) ≠ .ok (["o", "r"], n)) :
    ∃ outcome bytes,
      outcome.exitCode = exitCode (reportOn [] (walked text name) "/" walkedContract) ∧
      ReportsApart [] (walked text name) false "" ["-c", "k", "-o", "o/r"] outcome
        (walkedAfter text name bytes) walkedOptions "/" walkedContract ["o", "r"] := by
  have hargs : Options.ofArguments ["-c", "k", "-o", "o/r"] = .ok walkedOptions := by
    decide +kernel
  have hvalid : walkedContract.validate = .ok () := by decide +kernel
  have plain := plain_walked text name
  have hready : Ready [] (walked text name) walkedOptions "/" walkedContract :=
    ⟨Or.inl rfl, .top _, .of_text rfl hc, hvalid⟩
  obtain ⟨made, hsaves, hmade⟩ := savesTo_walked text name
  obtain ⟨outcome, after, hinvokes⟩ :=
    exists_invokes [] (walked text name) false "" ["-c", "k", "-o", "o/r"]
  have hcourse := run_course [] (walked text name) false "" walkedOptions (hinvokes.ends hargs)
  obtain ⟨hcode, hafter⟩ := hcourse.eq_of_savesTo rfl rfl hready hsaves
  -- What the report says is of no interest.
  generalize (document [] (walked text name) "" "/" walkedContract).toUTF8 = bytes at hafter
  have hgains := hsaves.gains enters_nil bytes
  rw [hmade] at hafter hgains
  subst hafter
  have hlocated : (walkedAfter text name bytes).resolve [] "o/r" =
      .ok (["o", "r"], .file bytes) := rfl
  have hjudged : outcome.exitCode = 0 ∨ outcome.exitCode = 1 := by
    rw [hcode, exitCode]
    split <;> simp
  refine ⟨outcome, bytes, hcode, plain, enters_nil, hargs, rfl, rfl, hinvokes, hjudged, hready,
    ⟨_, hlocated⟩, ?unread, ?not_walked, ?not_contract, ?not_default, ?leads_down⟩
  case unread =>
    intro k hk path' hpath
    obtain rfl := List.mem_singleton.mp hk
    cases hpath with
    | named hnamed => exact absurd hnamed List.not_mem_nil
    | found hwalk hfound hin =>
        cases hwalk
        cases hfound.symm.trans (hlist bytes)
        obtain rfl := List.mem_singleton.mp hin
        exact helsewhere bytes
  case not_walked =>
    intro k hk dir glob hwalk d hd
    obtain rfl := List.mem_singleton.mp hk
    cases hwalk
    have hs : (walkedAfter text name bytes).resolve [] (Path.join "/" "s") =
        .ok (["s"], .directory) := rfl
    cases hd.symm.trans hs
    decide
  case not_contract =>
    intro path' hpath n
    cases hpath
    have hk : (walkedAfter text name bytes).resolve [] "k" = .ok (["k"], .file text.toUTF8) := rfl
    simp [hk]
  case not_default =>
    intro name' hname n hn
    have hl := location_of_mem_contractNames (hgains.linkless plain.linkless) hname hn
    simp at hl
  case leads_down =>
    intro k hk
    obtain rfl := List.mem_singleton.mp hk
    refine ⟨List.forall_mem_nil _, ?_⟩
    rintro _ _ ⟨⟩
    decide

theorem passesOn_walked_iff {t : FileTree} {path : String}
    (hlist : t.listingOf [] "/" "s" "*" = .ok [path]) :
    PassesOn [] t "/" walkedContract ↔
      ∃ q bytes, t.resolve [] (Path.join "/" path) = .ok (q, .file bytes) ∧
        ¬ Matching.Occurs "x" (Text.Utf8.decode bytes) := by
  have hmeets : PassesOn [] t "/" walkedContract ↔
      (t.answers [] "/").Meets .literal walkedCheck.requirement := by
    rw [← alone_passed_iff]
    exact ⟨fun h => h walkedCheck List.mem_cons_self rfl,
      fun h k hk _ => List.mem_singleton.mp hk ▸ h⟩
  rw [hmeets]
  constructor
  · rintro (⟨paths, hpaths, -, hall⟩ | ⟨⟨dir, hdir⟩, -⟩)
    · cases hpaths.symm.trans hlist
      obtain ⟨text, hload, hclean, -⟩ := hall path List.mem_cons_self
      obtain ⟨bytes, hread, rfl⟩ := answerTo_eq_ok_iff.mp hload
      obtain ⟨q, hresolve⟩ := read_eq_ok_iff.mp hread
      exact ⟨q, bytes, hresolve, hclean⟩
    · cases hdir.symm.trans hlist
  · rintro ⟨q, bytes, hresolve, hclean⟩
    refine Or.inl ⟨[path], hlist, nofun, fun path' hpath' => ?_⟩
    obtain rfl := List.mem_singleton.mp hpath'
    have hload := answerTo_eq_ok_iff.mpr ⟨bytes, read_eq_ok_iff.mpr ⟨q, hresolve⟩, rfl⟩
    exact ⟨_, hload, hclean, List.forall_mem_nil _⟩

end Walked

/-! ## The second run -/

/-- A run that writes its report apart from what it looks at can be repeated: there is a second one,
and however it ends, it repeats the first.  The walks must find no path with a name that leads up.
A backslash in the name of a file is taken for a slash, so such paths are found even where no
directory is walked that is named by one. -/
theorem rerun_repeats {args : List String} {outcome : Outcome}
    (h : ReportsApart cwd t colour now args outcome after o root c l)
    (hfinds : FindsDown cwd t root c) (colour' : Bool) (now' : String) :
    (∃ outcome' after', Invokes cwd after colour' now' args outcome' after') ∧
      ∀ outcome' after', Invokes cwd after colour' now' args outcome' after' →
        Repeats cwd t after now now' root c l outcome outcome' after' := by
  refine ⟨exists_invokes cwd after colour' now' args, fun outcome' after' hinvokes => ?_⟩
  have hsilent := silent_reportOn_eq fun k hk => h.sameFor hfinds hk
  have hl := h.location_ne_nil
  obtain ⟨made, -, hafter, hcode⟩ := h.exists_savesTo
  obtain ⟨hcode', hafter'⟩ := h.again hinvokes
  refine ⟨?_, ?_, hsilent, ?_, ?_, ?_⟩
  · rw [hcode', hcode, exitCode_eq_of_silent hsilent]
  · rw [← (reportOn cwd after root c).passed_silent, hsilent, RunReport.passed_silent]
  · intro q hq
    rw [hafter', node?_put hl, if_neg hq]
  · rw [hafter, file?_put_file hl, if_pos rfl]
  · rw [hafter', file?_put_file hl, if_pos rfl]

theorem rerun_repeats_after_walk :
    let t := walked walkedText "b"
    ∃ outcome after outcome' after',
      ReportsApart [] t false "" ["-c", "k", "-o", "o/r"] outcome after walkedOptions "/"
        walkedContract ["o", "r"] ∧
      FindsDown [] t "/" walkedContract ∧
      Invokes [] after true "later" ["-c", "k", "-o", "o/r"] outcome' after' ∧
      Repeats [] t after "" "later" "/" walkedContract ["o", "r"] outcome outcome' after' := by
  have hc := ofYaml_walkedText
  generalize walkedText = text at hc ⊢
  intro t
  have hmatch : ∃ glob, Glob.compile "*" = .ok glob ∧ glob.isMatch "b" = true :=
    ⟨_, rfl, by decide +kernel⟩
  have hproject : projectPath? "/" ("/s/" ++ "b") = some "s/b" := by decide +kernel
  have hlist : t.listingOf [] "/" "s" "*" = .ok ["s/b"] :=
    listingOf_walked rfl rfl hmatch hproject
  have hlist' (bytes : ByteArray) :
      (walkedAfter text "b" bytes).listingOf [] "/" "s" "*" = .ok ["s/b"] :=
    listingOf_walked rfl rfl hmatch hproject
  have hfound (bytes : ByteArray) : (walkedAfter text "b" bytes).resolve [] (Path.join "/" "s/b") =
      .ok (["s", "b"], .file "".toUTF8) := rfl
  obtain ⟨outcome, bytes, -, h⟩ := reportsApart_walked hc hlist' fun bytes n => by simp [hfound]
  have hfinds : FindsDown [] t "/" walkedContract := by
    intro k hk dir glob paths hwalk hpaths path hpath
    obtain rfl := List.mem_singleton.mp hk
    cases hwalk
    cases hpaths.symm.trans hlist
    obtain rfl := List.mem_singleton.mp hpath
    decide
  obtain ⟨⟨outcome', after', hinvokes⟩, hrepeats⟩ := rerun_repeats h hfinds true "later"
  exact ⟨outcome, _, outcome', after', h, hfinds, hinvokes, hrepeats _ _ hinvokes⟩

/-- Without what is said of the paths that the walks find, the second run may end otherwise.  The
path that is found here leads through a directory that is only made for the report. -/
theorem rerun_differs_over_backslashes :
    let t := walked walkedText "..\\o\\..\\a"
    ∃ outcome after outcome' after',
      ReportsApart [] t false "" ["-c", "k", "-o", "o/r"] outcome after walkedOptions "/"
        walkedContract ["o", "r"] ∧
      Invokes [] after false "" ["-c", "k", "-o", "o/r"] outcome' after' ∧
      outcome.exitCode = 1 ∧ outcome'.exitCode = 0 := by
  have hc := ofYaml_walkedText
  generalize walkedText = text at hc ⊢
  intro t
  have hmatch : ∃ glob, Glob.compile "*" = .ok glob ∧ glob.isMatch "..\\o\\..\\a" = true :=
    ⟨_, rfl, by decide +kernel⟩
  have hproject : projectPath? "/" ("/s/" ++ "..\\o\\..\\a") = some "s/../o/../a" := by
    decide +kernel
  have hlist : t.listingOf [] "/" "s" "*" = .ok ["s/../o/../a"] :=
    listingOf_walked rfl rfl hmatch hproject
  have hlist' (bytes : ByteArray) :
      (walkedAfter text "..\\o\\..\\a" bytes).listingOf [] "/" "s" "*" = .ok ["s/../o/../a"] :=
    listingOf_walked rfl rfl hmatch hproject
  have hmissing : t.resolve [] (Path.join "/" "s/../o/../a") = .error .notFound := rfl
  have hfound (bytes : ByteArray) : (walkedAfter text "..\\o\\..\\a" bytes).resolve []
      (Path.join "/" "s/../o/../a") = .ok (["a"], .file "".toUTF8) := rfl
  obtain ⟨outcome, bytes, hcode, h⟩ := reportsApart_walked hc hlist' fun bytes n => by simp [hfound]
  obtain ⟨outcome', after', hinvokes⟩ := exists_invokes [] _ false "" ["-c", "k", "-o", "o/r"]
  refine ⟨outcome, _, outcome', after', h, hinvokes, ?_, ?_⟩
  · rw [hcode, exitCode_reportOn_eq_one_iff, passesOn_walked_iff hlist]
    rintro ⟨q, bytes, hresolve, -⟩
    rw [hmissing] at hresolve
    contradiction
  · rw [(h.again hinvokes).1, exitCode_reportOn_eq_zero_iff, passesOn_walked_iff (hlist' bytes)]
    have hempty : Text.Utf8.decode "".toUTF8 = "" := by decide +kernel
    refine ⟨["a"], _, hfound bytes, ?_⟩
    rw [hempty]
    simp [Matching.Occurs]

end SourceContract.CommandLine
