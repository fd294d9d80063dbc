import SourceContract.Proofs.Corpus.Disk
import SourceContract.Proofs.Corpus.Likewise
import SourceContract.Proofs.FileTree.Walk

/-!
# The answers of a tree that gained a file

A file that is new is of no concern to a check that neither reads it nor walks where it
lies.  What such a check is told afterwards says the same as before: a directory that
was made for the file may be found, but there are no files in it.
-/

namespace SourceContract.FileTree

variable {t after : FileTree} {cwd l : Location} {root path : String}

/-! ## What is read -/

theorem isFile_iff : t.isFile cwd path = true ↔ ∃ bytes, t.read cwd path = .ok bytes := by
  unfold isFile read
  cases t.resolve cwd path with
  | error fault => simp
  | ok found =>
      obtain ⟨q, n⟩ := found
      cases n <;> simp

theorem toOption_answerTo (t : FileTree) (cwd : Location) (root path : String) :
    (t.answerTo cwd root path).toOption =
      (t.read cwd (Path.join root path)).toOption.map Text.Utf8.decode := by
  unfold answerTo
  cases t.read cwd (Path.join root path) <;> rfl

theorem toOption_eq_of_iff {ε α : Type} {x y : Except ε α} (h : ∀ a, x = .ok a ↔ y = .ok a) :
    x.toOption = y.toOption := by
  cases x <;> cases y <;> simp_all [Except.toOption]

namespace Gains

variable {top : Location}

theorem read (h : t.Gains after l) (linkless : t.Linkless) (henters : t.Enters cwd)
    (hunread : ∀ n, after.resolve cwd path ≠ .ok (l, n)) {bytes : ByteArray}
    (hread : t.read cwd path = .ok bytes) : after.read cwd path = .ok bytes := by
  obtain ⟨q, hresolve⟩ := read_eq_ok_iff.mp hread
  obtain ⟨n', hafter, rfl | rfl⟩ := h.resolve linkless henters hresolve
  · exact absurd hafter (hunread n')
  · exact read_eq_ok_iff.mpr ⟨q, hafter⟩

theorem isDirectory (h : t.Gains after l) (linkless : t.Linkless) (henters : t.Enters cwd)
    (hdirectory : t.isDirectory cwd path = true) : after.isDirectory cwd path = true := by
  obtain ⟨q, hresolve⟩ := isDirectory_iff.mp hdirectory
  exact isDirectory_iff.mpr ⟨q, h.resolve_directory linkless henters hresolve⟩

theorem canonicalize (h : t.Gains after l) (linkless : t.Linkless) (henters : t.Enters cwd)
    {text : String} (hcanonical : t.canonicalize cwd path = .ok text) :
    after.canonicalize cwd path = .ok text := by
  unfold FileTree.canonicalize at hcanonical ⊢
  cases hresolve : t.resolve cwd path with
  | error fault =>
      rw [hresolve] at hcanonical
      contradiction
  | ok found =>
      obtain ⟨n', hafter, -⟩ := h.resolve linkless henters hresolve
      rw [hresolve] at hcanonical
      rw [hafter]
      exact hcanonical

theorem read_iff (h : t.Gains after l) (plain : t.Plain) (henters : t.Enters cwd)
    (hroot : t.resolve cwd root = .ok (top, .directory)) (hup : ".." ∉ Path.pieces path)
    (hunread : ∀ n, after.resolve cwd (Path.join root path) ≠ .ok (l, n)) (bytes : ByteArray) :
    t.read cwd (Path.join root path) = .ok bytes ↔
      after.read cwd (Path.join root path) = .ok bytes := by
  constructor
  · exact h.read plain.linkless henters hunread
  · rw [read_eq_ok_iff, read_eq_ok_iff]
    rintro ⟨q, hresolve⟩
    have hq : q ≠ l := by
      rintro rfl
      exact hunread _ hresolve
    have hnode := node?_of_resolve (h.enters henters) hresolve
    rcases h.others q hq with heq | ⟨-, hmade⟩
    · exact ⟨q, h.resolve_back plain henters hroot hup hresolve (heq ▸ hnode)⟩
    · cases hmade.symm.trans hnode

theorem sameText (h : t.Gains after l) (plain : t.Plain) (henters : t.Enters cwd)
    (hroot : t.resolve cwd root = .ok (top, .directory)) (hup : ".." ∉ Path.pieces path)
    (hunread : ∀ n, after.resolve cwd (Path.join root path) ≠ .ok (l, n)) :
    SameText (t.answerTo cwd root path) (after.answerTo cwd root path) := by
  have hread := toOption_eq_of_iff (h.read_iff plain henters hroot hup hunread)
  rw [SameText, toOption_answerTo, toOption_answerTo, hread]

/-! ## What is listed -/

theorem sameFiles (h : t.Gains after l) (plain : t.Plain) (henters : t.Enters cwd)
    (hroot : t.resolve cwd root = .ok (top, .directory)) {dir glob : String}
    (hup : ".." ∉ Path.pieces dir) {compiled : Glob} (hglob : Glob.compile glob = .ok compiled)
    (hout : ∀ d, after.resolve cwd (Path.join root dir) = .ok (d, .directory) → ¬ d <+: l) :
    SameFiles (t.listingOf cwd root dir glob) (after.listingOf cwd root dir glob) := by
  by_cases hdirectory : after.isDirectory cwd (Path.join root dir) = true
  · obtain ⟨d, hresolve⟩ := isDirectory_iff.mp hdirectory
    have hnode := node?_of_resolve (h.enters henters) hresolve
    have hd : d ≠ l := by
      rintro rfl
      exact hout d hresolve (List.prefix_refl _)
    obtain ⟨hsame, hnew⟩ := h.walk plain hresolve (hout d hresolve)
    rcases h.others d hd with heq | ⟨hfree, -⟩
    · have hbefore := h.resolve_back plain henters hroot hup hresolve (heq ▸ hnode)
      have hthere := isDirectory_iff.mpr ⟨d, hbefore⟩
      rw [listingOf, listingOf, if_pos hdirectory, if_pos hthere, hsame hbefore]
      exact .refl _
    · -- The directory has been made, and holds no files.
      have hmissing : t.isDirectory cwd (Path.join root dir) ≠ true := fun hthere => by
        obtain ⟨d', hbefore⟩ := isDirectory_iff.mp hthere
        cases (h.resolve_directory plain.linkless henters hbefore).symm.trans hresolve
        cases (node?_of_resolve henters hbefore).symm.trans hfree
      rw [listingOf, listingOf, if_pos hdirectory, if_neg hmissing, hglob, hnew hfree]
      have hnone : matching root compiled [] = [] := by simp [matching]
      dsimp only
      rw [hnone]
      exact .made dir
  · have hbefore : t.isDirectory cwd (Path.join root dir) ≠ true := fun hthere =>
      hdirectory (h.isDirectory plain.linkless henters hthere)
    rw [listingOf, listingOf, if_neg hdirectory, if_neg hbefore]
    exact .refl _

end Gains

end SourceContract.FileTree
