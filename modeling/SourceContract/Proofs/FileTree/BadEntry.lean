import SourceContract.Proofs.FileTree.Reach

/-!
# Where a walk fails

A walk fails exactly when there is a bad entry below the directory: a link that cannot be
followed, or one that leads back up to a directory that names have led through.  The way to a
bad entry may itself lead through bad entries, since the walk then fails at the first of them.

The trail of a walk is what makes this a fact about names: it holds the directories that the
names so far have led through, and no others.
-/

namespace SourceContract.FileTree

open SourceContract.Path (IsFileName below)

variable {t : FileTree} {cwd here l : Location} {base name : String} {names more : List String}
  {trail : Trail} {fuel : Nat}

/-! ## Bad entries -/

def Passes (t : FileTree) (cwd : Location) (base : String) (names : List String) (l : Location) :
    Prop :=
  ∃ front, front <+: names ∧ t.Reaches cwd base front l .directory

structure BadEntry (t : FileTree) (cwd : Location) (base : String) (names : List String)
    (name : String) : Prop where
  file_names : ∀ n ∈ names ++ [name], IsFileName n
  is_link : ∃ here target, t.Reaches cwd base names here .directory ∧
    t.node? (here ++ [name]) = some (.link target)
  leads_astray : (∃ fault, t.resolve cwd (below base (names ++ [name])) = .error fault) ∨
    ∃ l, t.resolve cwd (below base (names ++ [name])) = .ok (l, .directory) ∧
      t.Passes cwd base names l

theorem join_below (base : String) (names : List String) (name : String) :
    Path.join (below base names) name = below base (names ++ [name]) := by
  rw [Path.below_append]
  rfl

/-! ## Trails -/

/-- The directories of the trail are those that the names lead through. -/
def Tracks (t : FileTree) (cwd : Location) (base : String) (names : List String)
    (trail : Trail) : Prop :=
  ∀ l, (trail.lookup l).isSome = true ↔ t.Passes cwd base names l

theorem Passes.snoc_iff (h : t.Reaches cwd base (names ++ [name]) here .directory) :
    t.Passes cwd base (names ++ [name]) l ↔ l = here ∨ t.Passes cwd base names l := by
  simp only [Passes, List.prefix_concat_iff, or_and_right, exists_or, exists_eq_left]
  apply or_congr_left
  constructor
  · exact fun hl => (hl.unique h).1
  · rintro rfl
    exact h

theorem Tracks.snoc (h : t.Tracks cwd base names trail)
    (hreaches : t.Reaches cwd base (names ++ [name]) here .directory) (path : String) :
    t.Tracks cwd base (names ++ [name]) ((here, path) :: trail) := by
  intro l
  rw [Passes.snoc_iff hreaches, List.lookup_cons, ← h l]
  by_cases hl : l = here
  · simp [hl]
  · simp [hl, beq_false_of_ne hl]

theorem tracks_start (hreaches : t.Reaches cwd base [] here .directory) (path : String) :
    t.Tracks cwd base [] [(here, path)] := by
  intro l
  have hpasses : t.Passes cwd base [] l ↔ l = here := by
    simp only [Passes, List.prefix_nil, exists_eq_left]
    constructor
    · exact fun hl => (hl.unique hreaches).1
    · rintro rfl
      exact hreaches
  rw [hpasses, List.lookup_cons, List.lookup_nil]
  by_cases hl : l = here
  · simp [hl]
  · simp [hl, beq_false_of_ne hl]

/-! ## A walk that fails -/

theorem exists_error_of_mapM {α ε γ : Type} {f : α → Except ε (List γ)} {xs : List α} {e : ε}
    (h : (do return (← xs.mapM f).flatten : Except ε (List γ)) = .error e) :
    ∃ x ∈ xs, f x = .error e := by
  induction xs with
  | nil => simp [pure, Except.pure, bind, Except.bind] at h
  | cons x xs ih =>
      rw [List.mapM_cons] at h
      cases hx : f x with
      | error e' => exact ⟨x, List.mem_cons_self, by simpa [hx, bind, Except.bind] using h⟩
      | ok part =>
          cases hxs : xs.mapM f with
          | error e' =>
              obtain ⟨y, hy, herror⟩ :=
                ih (by simpa [hx, hxs, bind, Except.bind] using h)
              exact ⟨y, List.mem_cons_of_mem x hy, herror⟩
          | ok parts => simp [hx, hxs, pure, Except.pure, bind, Except.bind] at h

theorem exists_badEntry_of_walkBelow {fault : WalkFault} (admissible : t.Admissible)
    (hbase : base ≠ "") (hnames : ∀ n ∈ names, IsFileName n)
    (hreaches : t.Reaches cwd base names here .directory)
    (htrail : t.Tracks cwd base names trail)
    (h : t.walkBelow cwd fuel here (below base names) trail = .error fault) :
    ∃ names name, t.BadEntry cwd base names name := by
  -- On the fuel: what fails is an entry, or the walk below one.
  induction fuel generalizing here names trail with
  | zero => contradiction
  | succ fuel ih =>
      rw [walkBelow] at h
      obtain ⟨name, hname, hstep⟩ := exists_error_of_mapM h
      obtain ⟨n, hnode⟩ := exists_node_of_mem_namesIn hname
      have hmore : ∀ n ∈ names ++ [name], IsFileName n := by
        simpa [or_imp, forall_and] using And.intro hnames (admissible.names here name hname).1
      simp only [hnode, join_below] at hstep
      cases n with
      | file bytes => contradiction
      | directory =>
          have hbelow := hreaches.directory (admissible.isEntryName hname) hnode
          exact ih hmore hbelow (htrail.snoc hbelow _) hstep
      | link target =>
          dsimp only at hstep
          split at hstep
          next l hresolve =>
              split at hstep
              next ancestor hancestor =>
                  have hpasses := (htrail l).mp (by rw [hancestor]; rfl)
                  exact ⟨names, name, hmore, ⟨here, target, hreaches, hnode⟩,
                    .inr ⟨l, hresolve, hpasses⟩⟩
              next hnew =>
                  have hbelow := Reaches.of_resolve hbase hmore (by simp) hresolve
                  exact ih hmore hbelow (htrail.snoc hbelow _) hstep
          next => contradiction
          next fault' hresolve =>
              exact ⟨names, name, hmore, ⟨here, target, hreaches, hnode⟩, .inl ⟨fault', hresolve⟩⟩

/-! ## A walk that succeeds -/

theorem BadEntry.mem_namesIn (h : t.BadEntry cwd base (names ++ more) name)
    (hreaches : t.Reaches cwd base names here .directory) :
    ∀ n ∈ (more ++ [name]).head?, n ∈ t.namesIn here := by
  obtain ⟨l, target, hlink, hnode⟩ := h.is_link
  intro n hn
  cases more with
  | nil =>
      obtain rfl : name = n := by simpa using hn
      rw [List.append_nil] at hlink
      rw [(hreaches.unique hlink).1]
      exact mem_namesIn_of_node? hnode
  | cons first more =>
      obtain rfl : first = n := by simpa using hn
      exact hreaches.mem_namesIn (h.file_names first (by simp)) hlink

theorem Visits.not_badEntry {part : List WalkedFile}
    (h : t.Visits cwd fuel here (below base names) trail name part)
    (hreaches : t.Reaches cwd base names here .directory)
    (htrail : t.Tracks cwd base names trail) : ¬ t.BadEntry cwd base names name := by
  intro hbad
  obtain ⟨l, target, hlink, hnode⟩ := hbad.is_link
  rw [← (hreaches.unique hlink).1] at hnode
  have hastray := hbad.leads_astray
  cases h with
  | file hfile => simp [hnode] at hfile
  | directory hdirectory => simp [hnode] at hdirectory
  | linkedFile _ hresolve hn =>
      rw [join_below] at hresolve
      rw [hresolve] at hastray
      rcases hastray with ⟨fault, herror⟩ | ⟨q, hq, -⟩
      · contradiction
      · exact hn (congrArg Prod.snd (Except.ok.inj hq))
  | linkedDirectory _ hresolve hnew =>
      rw [join_below] at hresolve
      rw [hresolve] at hastray
      rcases hastray with ⟨fault, herror⟩ | ⟨q, hq, hpasses⟩
      · contradiction
      · obtain ⟨rfl, -⟩ := Prod.mk.inj (Except.ok.inj hq)
        have hknown := (htrail _).mpr hpasses
        rw [hnew] at hknown
        contradiction

theorem Reaches.eq_nil_of_file {bytes : ByteArray} {q : Location} {n : Node}
    (h : t.Reaches cwd base names l (.file bytes)) (henters : t.Enters cwd)
    (hmore : t.Reaches cwd base (names ++ more) q n) : more = [] := by
  rw [Reaches, follows_iff, ← List.append_assoc] at hmore
  exact Follows.end_at_file (henters.start _) h hmore

theorem Visits.exists_walkBelow {part : List WalkedFile} {q : Location}
    (h : t.Visits cwd fuel here (below base names) trail name part) (admissible : t.Admissible)
    (henters : t.Enters cwd) (hbase : base ≠ "") (hnames : ∀ n ∈ names ++ [name], IsFileName n)
    (hname : name ∈ t.namesIn here) (hreaches : t.Reaches cwd base names here .directory)
    (hmore : t.Reaches cwd base (names ++ [name] ++ more) q .directory)
    (hfuel : t.depthLeft here trail ≤ fuel + 1) :
    ∃ l, t.Reaches cwd base (names ++ [name]) l .directory ∧
      t.depthLeft l ((l, below base (names ++ [name])) :: trail) ≤ fuel ∧
        t.walkBelow cwd fuel l (below base (names ++ [name]))
          ((l, below base (names ++ [name])) :: trail) = .ok part := by
  have hfile : ∀ {l bytes}, ¬ t.Reaches cwd base (names ++ [name]) l (.file bytes) := by
    intro l bytes hfile
    obtain rfl := hfile.eq_nil_of_file henters hmore
    rw [List.append_nil] at hmore
    cases (hmore.unique hfile).2
  cases h with
  | file hnode => exact absurd (hreaches.file (admissible.isEntryName hname) hnode) hfile
  | directory hnode hwalk =>
      rw [join_below] at hwalk
      have hless := depthLeft_below (below base (names ++ [name])) trail hname
      exact ⟨_, hreaches.directory (admissible.isEntryName hname) hnode, by omega, hwalk⟩
  | @linkedFile target l n hnode hresolve hn =>
      rw [join_below] at hresolve
      have hbelow := Reaches.of_resolve hbase hnames (by simp) hresolve
      cases n with
      | file bytes => exact absurd hbelow hfile
      | directory => contradiction
      | link target => exact absurd rfl ((hbelow.node? henters).2 target)
  | linkedDirectory hnode hresolve hnew hwalk =>
      rw [join_below] at hresolve hwalk
      have hbelow := Reaches.of_resolve hbase hnames (by simp) hresolve
      have hless := depthLeft_through here (below base (names ++ [name])) (hbelow.node? henters).1
        hnew
      exact ⟨_, hbelow, by omega, hwalk⟩

theorem exists_fuel (hname : name ∈ t.namesIn here) (hfuel : t.depthLeft here trail ≤ fuel) :
    ∃ rest, fuel = rest + 1 := by
  have hless := countBelow_lt hname
  unfold depthLeft at hfuel
  exact Nat.exists_eq_succ_of_ne_zero (by omega)

theorem not_badEntry_of_walkBelow {found : List WalkedFile} (admissible : t.Admissible)
    (henters : t.Enters cwd) (hbase : base ≠ "")
    (hreaches : t.Reaches cwd base names here .directory)
    (htrail : t.Tracks cwd base names trail) (hfuel : t.depthLeft here trail ≤ fuel)
    (h : t.walkBelow cwd fuel here (below base names) trail = .ok found) :
    ¬ t.BadEntry cwd base (names ++ more) name := by
  -- On the names that are left, each of which the walk has visited.
  induction more generalizing fuel here names trail found with
  | nil =>
      intro hbad
      have hname := hbad.mem_namesIn hreaches name (by simp)
      obtain ⟨rest, rfl⟩ := exists_fuel hname hfuel
      obtain ⟨part, -, hpart⟩ := visits_of_walkBelow h
      rw [List.append_nil] at hbad
      exact (hpart name hname).not_badEntry hreaches htrail hbad
  | cons first more ih =>
      intro hbad
      have hfirst := hbad.mem_namesIn hreaches first (by simp)
      obtain ⟨rest, rfl⟩ := exists_fuel hfirst hfuel
      obtain ⟨part, -, hpart⟩ := visits_of_walkBelow h
      have hsplit : names ++ first :: more = names ++ [first] ++ more := by simp
      rw [hsplit] at hbad
      obtain ⟨q, target, hmore, -⟩ := hbad.is_link
      have hnames : ∀ n ∈ names ++ [first], IsFileName n := fun n hn =>
        hbad.file_names n (List.mem_append_left _ (List.mem_append_left _ hn))
      obtain ⟨l, hbelow, hdepth, hwalk⟩ := (hpart first hfirst).exists_walkBelow admissible
        henters hbase hnames hfirst hreaches hmore hfuel
      exact ih hbelow (htrail.snoc hbelow _) hdepth hwalk hbad

/-! ## Walks -/

theorem ne_empty_of_isDirectory (h : t.isDirectory cwd base = true) : base ≠ "" := by
  obtain ⟨l, hresolve⟩ := isDirectory_iff.mp h
  obtain ⟨-, hnonempty, -⟩ := locate_eq_ok_iff.mp (resolve_eq_ok_iff.mp hresolve)
  simpa using hnonempty

/-- A walk below a directory fails if there is a bad entry, and only then. -/
theorem walk_eq_error_iff (admissible : t.Admissible) (henters : t.Enters cwd)
    (hdirectory : t.isDirectory cwd base = true) :
    (∃ fault, t.walk cwd base = .error fault) ↔ ∃ names name, t.BadEntry cwd base names name := by
  obtain ⟨l, hresolve⟩ := isDirectory_iff.mp hdirectory
  have hbase := ne_empty_of_isDirectory hdirectory
  have hreaches := Reaches.of_directory hresolve
  have htrail := tracks_start hreaches base
  rw [walk, hresolve]
  constructor
  · rintro ⟨fault, hfault⟩
    exact exists_badEntry_of_walkBelow admissible hbase (by simp) hreaches htrail hfault
  · rintro ⟨names, name, hbad⟩
    cases hwalk : t.walkBelow cwd t.walkFuel l base [(l, base)] with
    | error fault => exact ⟨fault, hwalk⟩
    | ok found =>
        exact absurd hbad (not_badEntry_of_walkBelow admissible henters hbase hreaches htrail
          (t.depthLeft_le_walkFuel l _) hwalk)

end SourceContract.FileTree
