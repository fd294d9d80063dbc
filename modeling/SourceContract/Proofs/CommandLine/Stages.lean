import SourceContract.CommandLine.Run
import SourceContract.Proofs.Verdict.Gating

/-!
# The stages of the command on a file tree

Before its report is saved the command only reads.  Each stage has a plain meaning on
the tree that it reads: what the project root is, where the contract comes from and
what it says, and when a document can be saved.
-/

namespace SourceContract

namespace FileTree

variable (cwd : Location) (t : FileTree)

theorem run_canonicalize (path : String) :
    ((disk cwd).canonicalize path).run t = (t.canonicalize cwd path, t) := (rfl)

theorem run_isFile (path : String) :
    ((disk cwd).isFile path).run t = (t.isFile cwd path, t) := (rfl)

theorem run_makeDirectories (path : String) :
    ((disk cwd).makeDirectories path).run t =
      ((t.makeDirectories cwd path).2, (t.makeDirectories cwd path).1) := (rfl)

theorem run_write (path text : String) :
    ((disk cwd).write path text).run t =
      match t.write cwd path text.toUTF8 with
      | .ok after => (.ok (), after)
      | .error fault => (.error fault, t) := by
  change StateT.run (match t.write cwd path text.toUTF8 with
    | .ok after => do
        set after
        return .ok ()
    | .error fault => return .error fault : StateM FileTree (Except FileFault Unit)) t = _
  cases t.write cwd path text.toUTF8 <;> rfl

end FileTree

namespace CommandLine

open FileTree

variable (cwd : Location) (t : FileTree)

/-! ## The project root -/

def HasRoot (path : Option String) (root : String) : Prop :=
  t.canonicalize cwd (path.getD (locationText cwd)) = .ok root ∧ t.isDirectory cwd root = true

theorem HasRoot.top (t : FileTree) : HasRoot [] t none "/" := ⟨rfl, rfl⟩

theorem run_findRoot (path : Option String) :
    ∃ found, (findRoot (disk cwd) path).run t = (found, t) ∧
      ∀ root, found = .ok root ↔ HasRoot cwd t path root := by
  -- Without a path the command starts from that of the working directory.
  have hstart : (findRoot (disk cwd) path).run t =
      (findRoot (disk cwd) (some (path.getD (locationText cwd)))).run t := by
    cases path <;> rfl
  rw [hstart]
  unfold findRoot HasRoot
  simp only [pure_bind, run_bind, run_canonicalize]
  cases t.canonicalize cwd (path.getD (locationText cwd)) with
  | error fault => exact ⟨_, rfl, fun root => by simp⟩
  | ok canonical =>
      simp only [run_bind, run_isDirectory]
      cases hdirectory : t.isDirectory cwd canonical with
      | true =>
          refine ⟨.ok canonical, rfl, fun root => ?_⟩
          constructor
          · rintro ⟨⟩
            exact ⟨rfl, hdirectory⟩
          · rintro ⟨⟨⟩, -⟩
            rfl
      | false =>
          refine ⟨_, rfl, fun root => ?_⟩
          constructor
          · rintro ⟨⟩
          · rintro ⟨⟨⟩, h⟩
            rw [hdirectory] at h
            contradiction

/-! ## The contract -/

inductive Origin where
  | file (path : String)
  | template (name : String)

/-- The file that is given, or else the template, or else the first of the usual files that is there
in the project root, or else the default template. -/
def origin (o : Options) (root : String) : Origin :=
  match o.contract, o.template with
  | some path, _ => .file path
  | none, some name => .template name
  | none, none =>
      match (contractNames.map (Path.join root)).find? (t.isFile cwd) with
      | some path => .file path
      | none => .template Template.default.name

def Origin.Gives : Origin → Contract → Prop
  | .file path, c => ∃ bytes text, t.read cwd path = .ok bytes ∧
      String.fromUTF8? bytes = some text ∧ Contract.ofYaml text = .ok c
  | .template name, c => ∃ known, Template.find? name = some known ∧
      Contract.ofYaml known.content = .ok c

theorem Origin.Gives.of_text {cwd : Location} {t : FileTree} {path text : String} {c : Contract}
    (hread : t.read cwd path = .ok text.toUTF8) (hc : Contract.ofYaml text = .ok c) :
    (Origin.file path).Gives cwd t c :=
  ⟨text.toUTF8, text, hread, dif_pos text.isValidUTF8, hc⟩

theorem parse_eq_ok_iff {path text source : String} {c : Contract} :
    (∃ label, parse path text source = .ok (c, label)) ↔ Contract.ofYaml text = .ok c := by
  unfold parse
  cases Contract.ofYaml text with
  | ok found => simp
  | error fault => simp

theorem run_readContract (path : String) :
    ∃ read, (readContract (disk cwd) path).run t = (read, t) ∧
      ∀ c, (∃ label, read = .ok (c, label)) ↔ (Origin.file path).Gives cwd t c := by
  unfold readContract Origin.Gives
  simp only [run_bind, run_read]
  cases t.read cwd path with
  | error fault => exact ⟨_, rfl, fun c => by simp⟩
  | ok bytes =>
      dsimp only
      cases htext : String.fromUTF8? bytes with
      | none => exact ⟨_, rfl, fun c => by simp [htext]⟩
      | some text => exact ⟨_, rfl, fun c => by simp [htext, parse_eq_ok_iff]⟩

theorem readTemplate_eq_ok_iff {name : String} {c : Contract} :
    (∃ label, readTemplate name = .ok (c, label)) ↔ (Origin.template name).Gives cwd t c := by
  unfold readTemplate Origin.Gives
  cases hknown : Template.find? name with
  | none => simp [hknown]
  | some known => simp [hknown, parse_eq_ok_iff]

theorem run_findContract (root : String) (names : List String) :
    (findContract (disk cwd) root names).run t =
      ((names.map (Path.join root)).find? (t.isFile cwd), t) := by
  induction names with
  | nil => rfl
  | cons name rest ih =>
      simp only [findContract, run_bind, run_isFile, List.map_cons, List.find?_cons]
      cases t.isFile cwd (Path.join root name) with
      | true => rfl
      | false => exact ih

theorem run_selectContract (o : Options) (root : String) :
    ∃ selected, (selectContract (disk cwd) o root).run t = (selected, t) ∧
      ∀ c, (∃ label, selected = .ok (c, label)) ↔ (origin cwd t o root).Gives cwd t c := by
  unfold selectContract origin
  cases o.contract with
  | some path => exact run_readContract cwd t path
  | none =>
      cases o.template with
      | some name => exact ⟨_, rfl, fun c => readTemplate_eq_ok_iff cwd t⟩
      | none =>
          simp only [run_bind, run_findContract]
          cases (contractNames.map (Path.join root)).find? (t.isFile cwd) with
          | some path => exact run_readContract cwd t path
          | none => exact ⟨_, rfl, fun c => readTemplate_eq_ok_iff cwd t⟩

theorem Origin.Gives.unique {cwd : Location} {t : FileTree} {source : Origin} {c c' : Contract}
    (h : source.Gives cwd t c) (h' : source.Gives cwd t c') : c = c' := by
  cases source with
  | file path =>
      obtain ⟨bytes, text, hread, htext, hc⟩ := h
      obtain ⟨bytes', text', hread', htext', hc'⟩ := h'
      obtain rfl := Except.ok.inj (hread.symm.trans hread')
      obtain rfl := Option.some.inj (htext.symm.trans htext')
      exact Except.ok.inj (hc.symm.trans hc')
  | template name =>
      obtain ⟨known, hknown, hc⟩ := h
      obtain ⟨known', hknown', hc'⟩ := h'
      obtain rfl := Option.some.inj (hknown.symm.trans hknown')
      exact Except.ok.inj (hc.symm.trans hc')

/-! ## Before the checks are run -/

/-- Everything is there that a run needs. -/
structure Ready (o : Options) (root : String) (c : Contract) : Prop where
  format_known : o.format = "pretty" ∨ o.format = "json"
  hasRoot : HasRoot cwd t o.root root
  gives : (origin cwd t o root).Gives cwd t c
  valid : c.validate = .ok ()

theorem validated_eq_ok_iff {s : Sourced} {c : Contract} :
    validated s = .ok c ↔ s.1 = c ∧ c.validate = .ok () := by
  unfold validated
  cases h : s.1.validate with
  | ok =>
      constructor
      · rintro ⟨⟩
        exact ⟨rfl, h⟩
      · rintro ⟨rfl, -⟩
        rfl
  | error fault =>
      constructor
      · rintro ⟨⟩
      · rintro ⟨rfl, hvalid⟩
        rw [h] at hvalid
        contradiction

theorem run_prepare (o : Options) :
    ∃ prepared, (prepare (disk cwd) o).run t = (prepared, t) ∧
      ∀ root c, prepared = .ok (root, c) ↔ Ready cwd t o root c := by
  unfold prepare
  by_cases hformat : o.format ≠ "pretty" ∧ o.format ≠ "json"
  · rw [if_pos hformat]
    refine ⟨_, rfl, fun root c => ⟨nofun, fun h => ?_⟩⟩
    rcases h.format_known with hpretty | hjson
    · exact absurd hpretty hformat.1
    · exact absurd hjson hformat.2
  · rw [if_neg hformat]
    have hknown : o.format = "pretty" ∨ o.format = "json" := by grind
    obtain ⟨found, hfound, hroot⟩ := run_findRoot cwd t o.root
    simp only [run_bind, hfound]
    cases found with
    | error fault =>
        refine ⟨_, rfl, fun root c => ⟨nofun, fun h => ?_⟩⟩
        exact nomatch (hroot root).mpr h.hasRoot
    | ok root =>
        obtain ⟨selected, hselected, hcontract⟩ := run_selectContract cwd t o root
        simp only [run_bind, hselected]
        -- The root and the contract are the only ones there are.
        have hsame : ∀ root' c, Ready cwd t o root' c → root' = root ∧
            ∃ label, selected = .ok (c, label) := by
          intro root' c h
          obtain rfl := Except.ok.inj ((hroot root').mpr h.hasRoot)
          exact ⟨rfl, (hcontract c).mpr h.gives⟩
        cases selected with
        | error fault =>
            refine ⟨_, rfl, fun root' c => ⟨nofun, fun h => ?_⟩⟩
            obtain ⟨-, label, hlabel⟩ := hsame root' c h
            contradiction
        | ok sourced =>
            refine ⟨_, rfl, fun root' c => ⟨fun h => ?_, fun h => ?_⟩⟩
            · cases hvalidated : validated sourced with
              | error fault =>
                  rw [hvalidated] at h
                  contradiction
              | ok c' =>
                  rw [hvalidated] at h
                  obtain ⟨rfl, rfl⟩ := Prod.mk.inj (Except.ok.inj h)
                  obtain ⟨hc, hvalid⟩ := validated_eq_ok_iff.mp hvalidated
                  exact ⟨hknown, (hroot root).mp rfl, (hcontract c').mp ⟨sourced.2, by rw [← hc]⟩,
                    hvalid⟩
            · obtain ⟨rfl, label, hlabel⟩ := hsame root' c h
              obtain rfl := Except.ok.inj hlabel
              rw [validated_eq_ok_iff.mpr ⟨rfl, h.valid⟩]
              rfl

/-! ## Saving a document -/

def withDirectory (path : String) : FileTree × Except FileFault Unit :=
  match (Path.parent? path).filter fun p => !p.isEmpty with
  | none => (t, .ok ())
  | some parent => t.makeDirectories cwd parent

def Saves (path text : String) : Prop :=
  ∃ made after, withDirectory cwd t path = (made, .ok ()) ∧
    made.write cwd path text.toUTF8 = .ok after

/-! ## The report -/

def reportOn (root : String) (c : Contract) : RunReport :=
  ((c.run ((disk cwd).project root) false).run t).1

theorem run_contract (root : String) (c : Contract) :
    (c.run ((disk cwd).project root) false).run t = (reportOn cwd t root c, t) := by
  have still := steady_project cwd root t
  refine Prod.ext rfl ?_
  rw [Contract.run, runChecks_eq still]

def reportFile (o : Options) (root : String) (c : Contract) : String :=
  o.output.getD (Path.join root c.reportPath)

def document (now root : String) (c : Contract) : String :=
  Markdown.render (reportOn cwd t root c) c root now

def Delivers (now : String) (o : Options) (root : String) (c : Contract) : Prop :=
  o.noReport = true ∨ Saves cwd t (reportFile o root c) (document cwd t now root c)

end CommandLine

end SourceContract
