import SourceContract.Proofs.Corpus.Gain

/-!
# Saving once more

Directories that have been made are there, so making them once more changes nothing.  A
file that has been written is written to the same place again.
-/

namespace SourceContract.FileTree

variable {t t' : FileTree} {cwd l here : Location} {path : String}

/-! ## Making directories -/

theorem Follows.put_directory {followLast : Bool} {links : Nat} {names : List String}
    (h : t.Follows followLast links here names (.free l)) :
    (t.put l .directory).Follows true links here names (.taken l .directory) := by
  obtain ⟨hl, hfree⟩ := h.node?_of_free
  have hmade : (t.put l .directory).node? l = some .directory := by rw [node?_put hl, if_pos rfl]
  have hkept {q : Location} {n : Node} (hnode : t.node? q = some n) :
      (t.put l .directory).node? q = some n := by
    have hq : q ≠ l := by
      rintro rfl
      rw [hfree] at hnode
      contradiction
    rw [node?_put hl, if_neg hq, hnode]
  generalize hplace : Place.free l = place at h
  induction h with
  | here | file | stop => contradiction
  | dot _ ih => exact .dot (ih hplace)
  | up _ ih => exact .up (ih hplace)
  | free hname =>
      cases hplace
      exact .down hname hmade (.end hmade)
  | down hname hnode _ ih => exact .down hname (hkept hnode) (ih hplace)
  | through hname hnode _ htarget _ ih =>
      exact .through hname (hkept hnode) (fun _ => rfl) htarget (ih hplace)

theorem isDirectory_makeDirectory (hslash : Path.endsInSlash path = false)
    (h : t.makeDirectory cwd path = .ok t') : t'.isDirectory cwd path = true := by
  rw [makeDirectory, Path.withoutEndSlash_eq_self hslash] at h
  split at h
  next => contradiction
  next l hfree =>
      cases h
      obtain ⟨hnull, hempty, hshort, hfollows⟩ := locate_eq_ok_iff.mp hfree
      refine isDirectory_iff.mpr ⟨l, resolve_eq_ok_iff.mpr (locate_eq_ok_iff.mpr ?_)⟩
      exact ⟨hnull, hempty, hshort, hfollows.put_directory⟩
  next => contradiction

theorem isDirectory_makeDirectories (hempty : path ≠ "") (hslash : Path.endsInSlash path = false)
    (h : t.makeDirectories cwd path = (t', .ok ())) : t'.isDirectory cwd path = true := by
  have hnonempty : ¬ path.isEmpty = true := by simpa using hempty
  -- What is there already is a directory, or the fault would have been reported.
  have hthere {made : FileTree} {fault : FileFault}
      (heq : (made, if made.isDirectory cwd path then .ok () else .error fault) =
        (t', (.ok () : Except FileFault Unit))) : t'.isDirectory cwd path = true := by
    obtain ⟨rfl, hresult⟩ := Prod.mk.inj heq
    split at hresult
    next hdirectory => exact hdirectory
    next => contradiction
  rw [makeDirectories, makeDirectoriesUp, if_neg hnonempty] at h
  split at h
  next made hmade =>
      obtain ⟨rfl, -⟩ := Prod.mk.inj h
      exact isDirectory_makeDirectory hslash hmade
  next =>
      split at h
      next => cases h
      next =>
          split at h
          next => cases h
          next =>
              split at h
              next made hmade =>
                  obtain ⟨rfl, -⟩ := Prod.mk.inj h
                  exact isDirectory_makeDirectory hslash hmade
              next => exact hthere h
  next => exact hthere h

theorem Follows.exists_taken {links : Nat} {names : List String} {n : Node}
    (h : t.Follows true links here names (.taken l n)) :
    ∃ l' n', t.Follows false links here names (.taken l' n') := by
  generalize hplace : Place.taken l n = place at h
  induction h with
  | here => exact ⟨_, _, .here⟩
  | free | stop => contradiction
  | dot _ ih =>
      obtain ⟨l', n', h'⟩ := ih hplace
      exact ⟨l', n', .dot h'⟩
  | up _ ih =>
      obtain ⟨l', n', h'⟩ := ih hplace
      exact ⟨l', n', .up h'⟩
  | file hname hnode => exact ⟨_, _, .file hname hnode⟩
  | down hname hnode _ ih =>
      obtain ⟨l', n', h'⟩ := ih hplace
      exact ⟨l', n', .down hname hnode h'⟩
  | @through _ _ _ _ rest _ hname hnode _ htarget _ ih =>
      -- A link at the end is a node of its own.
      cases rest with
      | nil => exact ⟨_, _, .stop hname hnode rfl⟩
      | cons next rest =>
          obtain ⟨l', n', h'⟩ := ih hplace
          exact ⟨l', n', .through hname hnode nofun htarget h'⟩

theorem makeDirectories_eq_self (hslash : Path.endsInSlash path = false)
    (h : t.isDirectory cwd path = true) : t.makeDirectories cwd path = (t, .ok ()) := by
  obtain ⟨q, hresolve⟩ := isDirectory_iff.mp h
  obtain ⟨hnull, hempty, hshort, hfollows⟩ := locate_eq_ok_iff.mp (resolve_eq_ok_iff.mp hresolve)
  obtain ⟨l', n', hfollows'⟩ := hfollows.exists_taken
  have hmake : t.makeDirectory cwd path = .error .exists := by
    rw [makeDirectory, Path.withoutEndSlash_eq_self hslash,
      locate_eq_ok_iff.mpr ⟨hnull, hempty, hshort, hfollows'⟩]
  have hnonempty : ¬ path.isEmpty = true := by simp [hempty]
  rw [makeDirectories, makeDirectoriesUp, if_neg hnonempty, hmake]
  simp only [h, if_true]

/-! ## Writing a file -/

theorem endsInSlash_of_target (h : t.target cwd path = .ok l) : Path.endsInSlash path = false := by
  unfold target at h
  cases hslash : Path.endsInSlash path with
  | false => rfl
  | true =>
      rw [hslash] at h
      split at h <;> contradiction

theorem target_put (henters : t.Enters cwd) (h : t.target cwd path = .ok l) (bytes : ByteArray) :
    (t.put l (.file bytes)).target cwd path = .ok l := by
  have hslash := endsInSlash_of_target h
  obtain ⟨place, htargets, rfl⟩ := target_eq_ok h
  have hput := resolve_eq_ok_iff.mp (htargets.resolve_put henters bytes)
  rw [target, Path.withoutEndSlash_eq_self hslash, hput, hslash]
  rfl

end SourceContract.FileTree
