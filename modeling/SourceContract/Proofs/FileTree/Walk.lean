import SourceContract.FileTree.Walk
import SourceContract.Proofs.FileTree.Gain

/-!
# What a walk finds

In a tree without links a walk cannot fail: it finds the files below the directory, in
the order in which the tree lists them.  Its fuel is enough, since every step down
leaves a node behind.  Directories that are new hold no files, so a walk finds after a
tree has gained a file what it found before, unless the file lies where it walks.
-/

namespace SourceContract.FileTree

variable {t after : FileTree} {cwd l here : Location} {path : String}

/-! ## The files below a directory -/

def filesBelow (t : FileTree) : Nat → Location → String → List WalkedFile
  | 0, _, _ => []
  | fuel + 1, here, path => (t.namesIn here).flatMap fun name =>
      match t.node? (here ++ [name]) with
      | some (.file _) => [⟨Path.join path name, name⟩]
      | some .directory => t.filesBelow fuel (here ++ [name]) (Path.join path name)
      | _ => []

theorem walkBelow_eq (linkless : t.Linkless) (fuel : Nat)
    (here : Location) (path : String) (trail : Trail) :
    t.walkBelow cwd fuel here path trail = .ok (t.filesBelow fuel here path) := by
  induction fuel generalizing here path trail with
  | zero => rfl
  | succ fuel ih =>
      rw [walkBelow, filesBelow, List.flatMap_def]
      have hparts (step : String → Except WalkFault (List WalkedFile))
          (part : String → List WalkedFile) (hstep : ∀ name, step name = .ok (part name)) :
          (do
            let parts ← (t.namesIn here).mapM step
            return parts.flatten) = Except.ok ((t.namesIn here).map part).flatten := by
        have hall : (t.namesIn here).mapM (fun name => (.ok (part name) : Except WalkFault _)) =
            .ok ((t.namesIn here).map part) := List.mapM_pure
        rw [funext hstep, hall]
        rfl
      refine hparts _ _ fun name => ?_
      cases hnode : t.node? (here ++ [name]) with
      | none => rfl
      | some n =>
          cases n with
          | file bytes => rfl
          | directory => exact ih _ _ _
          | link target => exact absurd hnode (linkless _ _)

theorem walk_eq (linkless : t.Linkless) {n : Node}
    (h : t.resolve cwd path = .ok (here, n)) :
    t.walk cwd path = .ok (t.filesBelow t.walkFuel here path) := by
  rw [walk, h]
  exact walkBelow_eq linkless _ _ _ _

/-! ## Enough fuel -/

def countBelow (t : FileTree) (here : Location) : Nat :=
  t.nodes.countP fun e => here.isPrefixOf e.1 && e.1 != here

theorem countBelow_lt {name : String} (h : name ∈ t.namesIn here) :
    t.countBelow (here ++ [name]) < t.countBelow here := by
  obtain ⟨n, hn⟩ := mem_namesIn_iff.mp h
  let below (top : Location) (e : Location × Node) : Bool := top.isPrefixOf e.1 && e.1 != top
  have hsub : ∀ e ∈ t.nodes, below (here ++ [name]) e = true →
      (below here e && below (here ++ [name]) e) = true := by
    rintro e - he
    obtain ⟨hdeep, -⟩ := Bool.and_eq_true_iff.mp he
    obtain ⟨rest, hrest⟩ := List.isPrefixOf_iff_prefix.mp hdeep
    have hbelow : below here e = true := by simp [below, ← hrest]
    rw [hbelow, he, Bool.and_self]
  have hself : 0 < (t.nodes.filter fun e => !below (here ++ [name]) e).countP (below here) := by
    refine List.countP_pos_iff.mpr ⟨(here ++ [name], n), ?_, ?_⟩
    · simp [below, hn]
    · simp [below]
  have hsplit := List.countP_eq_countP_filter_add t.nodes (below here) (below (here ++ [name]))
  have hle : t.nodes.countP (below (here ++ [name])) ≤
      (t.nodes.filter (below (here ++ [name]))).countP (below here) := by
    rw [List.countP_filter]
    exact List.countP_mono_left hsub
  unfold countBelow
  change t.nodes.countP (below (here ++ [name])) < t.nodes.countP (below here)
  omega

theorem namesIn_eq_nil (h : t.countBelow here = 0) : t.namesIn here = [] := by
  refine List.eq_nil_iff_forall_not_mem.mpr fun name hname => ?_
  have hless := countBelow_lt hname
  omega

/-- More fuel than there are nodes below makes no difference. -/
theorem filesBelow_eq_of_le {fuel fuel' : Nat} (h : t.countBelow here ≤ fuel)
    (h' : t.countBelow here ≤ fuel') :
    t.filesBelow fuel here path = t.filesBelow fuel' here path := by
  induction fuel generalizing fuel' here path with
  | zero =>
      cases fuel' with
      | zero => rfl
      | succ fuel' => rw [filesBelow, filesBelow, namesIn_eq_nil (by omega), List.flatMap_nil]
  | succ fuel ih =>
      cases fuel' with
      | zero => rw [filesBelow, filesBelow, namesIn_eq_nil (by omega), List.flatMap_nil]
      | succ fuel' =>
          rw [filesBelow, filesBelow]
          refine List.flatMap_congr fun name hname => ?_
          have hless := countBelow_lt hname
          have hrest : t.filesBelow fuel (here ++ [name]) (Path.join path name) =
              t.filesBelow fuel' (here ++ [name]) (Path.join path name) :=
            ih (by omega) (by omega)
          rw [hrest]

theorem countBelow_le_walkFuel (t : FileTree) (here : Location) :
    t.countBelow here ≤ t.walkFuel := by
  calc
    t.countBelow here ≤ t.nodes.length := List.countP_le_length
    _ ≤ t.nodes.length + 2 := Nat.le_add_right _ _
    _ ≤ t.walkFuel := Nat.le_mul_self _

/-! ## After a tree has gained a file -/

theorem Plain.namesIn_eq_nil (plain : t.Plain) (h : t.node? here = none) : t.namesIn here = [] := by
  refine List.eq_nil_iff_forall_not_mem.mpr fun name hname => ?_
  obtain ⟨n, hnode⟩ := exists_node_of_mem_namesIn hname
  have henters := plain.enters _ _ hnode
  rw [List.dropLast_concat] at henters
  rw [henters.node?_eq] at h
  contradiction

theorem Plain.filesBelow_eq_nil (plain : t.Plain) (h : t.node? here = none) (fuel : Nat) :
    t.filesBelow fuel here path = [] := by
  cases fuel with
  | zero => rfl
  | succ fuel => rw [filesBelow, plain.namesIn_eq_nil h, List.flatMap_nil]

theorem Gains.filesBelow_eq (h : t.Gains after l) (plain : t.Plain) (fuel : Nat)
    (hout : ¬ here <+: l) (path : String) :
    after.filesBelow fuel here path = t.filesBelow fuel here path := by
  induction fuel generalizing here path with
  | zero => rfl
  | succ fuel ih =>
      have hchild (name : String) : ¬ here ++ [name] <+: l := fun hin =>
        hout ((List.prefix_append _ _).trans hin)
      have hne (name : String) : here ++ [name] ≠ l := fun heq =>
        hchild name (heq ▸ List.prefix_refl _)
      obtain ⟨more, hmore, hnew⟩ := h.names here
      rw [filesBelow, filesBelow, hmore, List.flatMap_append]
      refine (congrArg₂ (· ++ ·) ?_ ?_).trans (List.append_nil _)
      · refine List.flatMap_congr fun name hname => ?_
        obtain ⟨n, hnode⟩ := exists_node_of_mem_namesIn hname
        rw [hnode, h.node?_eq hnode (hne name), ih (hchild name)]
      · -- What is new here is a directory without files.
        refine List.flatMap_eq_nil_iff.mpr fun name hname => ?_
        have hfree := hnew name hname
        rcases h.others _ (hne name) with heq | ⟨-, hmade⟩
        · rw [heq, hfree]
        · rw [hmade]
          exact (ih (hchild name) _).trans (plain.filesBelow_eq_nil hfree fuel)

theorem Gains.walked_eq (h : t.Gains after l) (plain : t.Plain) (hout : ¬ here <+: l)
    (path : String) :
    after.filesBelow after.walkFuel here path = t.filesBelow t.walkFuel here path := by
  let fuel := after.walkFuel + t.walkFuel
  have hafter := after.countBelow_le_walkFuel here
  have hbefore := t.countBelow_le_walkFuel here
  calc
    after.filesBelow after.walkFuel here path = after.filesBelow fuel here path :=
      filesBelow_eq_of_le hafter (by omega)
    _ = t.filesBelow fuel here path := h.filesBelow_eq plain fuel hout path
    _ = t.filesBelow t.walkFuel here path := filesBelow_eq_of_le (by omega) hbefore

/-- A walk finds what it found before, and nothing in a directory that is new. -/
theorem Gains.walk (h : t.Gains after l) (plain : t.Plain)
    (hresolve : after.resolve cwd path = .ok (here, .directory)) (hout : ¬ here <+: l) :
    (t.resolve cwd path = .ok (here, .directory) → after.walk cwd path = t.walk cwd path) ∧
      (t.node? here = none → after.walk cwd path = .ok []) := by
  have hwalk := walk_eq (h.linkless plain.linkless) hresolve
  rw [h.walked_eq plain hout] at hwalk
  constructor
  · intro hbefore
    rw [hwalk, walk_eq plain.linkless hbefore]
  · intro hnone
    rw [hwalk, plain.filesBelow_eq_nil hnone]

end SourceContract.FileTree
