import Mathlib.Data.List.Induction
import Mathlib.Data.List.Nodup
import SourceContract.Proofs.FileTree.Relative
import SourceContract.Proofs.FileTree.Walk

/-!
# What a walk reaches

A walk finds a file exactly when names lead to it from the directory, each link on the way
followed.  The names stand in the path of the file one behind the other, so a walk finds
nothing twice.

The fuel of a walk is enough although links may lead to directories that lie above: each
link leads to a directory that the walk is not in, and between two links every step leaves
a node behind.
-/

namespace SourceContract.FileTree

open SourceContract.Path (IsFileName below words namePieces)

variable {t : FileTree} {cwd here q : Location} {links : Nat} {front names tail : List String}

/-! ## Following in two parts -/

theorem Follows.append (h : t.Follows true links here front (.taken q .directory)) :
    ∃ left, ∀ tail, t.follow true links here (front ++ tail) = t.follow true left q tail := by
  generalize hplace : Place.taken q .directory = place at h
  induction h with
  | @here links l =>
      obtain ⟨rfl, -⟩ := Place.taken.inj hplace
      exact ⟨links, fun _ => rfl⟩
  | dot _ ih =>
      obtain ⟨left, hleft⟩ := ih hplace
      exact ⟨left, fun tail => by simpa [follow_cons] using hleft tail⟩
  | up _ ih =>
      obtain ⟨left, hleft⟩ := ih hplace
      exact ⟨left, fun tail => by simpa [follow_cons] using hleft tail⟩
  | free | stop => contradiction
  | file => cases (Place.taken.inj hplace).2
  | down hname hnode _ ih =>
      obtain ⟨left, hleft⟩ := ih hplace
      refine ⟨left, fun tail => ?_⟩
      simpa [follow_cons, hname.not_here, hname.not_up, hname.short, hnode] using hleft tail
  | through hname hnode hlast htarget _ ih =>
      obtain ⟨left, hleft⟩ := ih hplace
      refine ⟨left, fun tail => ?_⟩
      simpa [follow_cons, hname.not_here, hname.not_up, hname.short, hnode, htarget] using
        hleft tail

theorem Follows.end_at_file {bytes : ByteArray} {place : Place} (henters : t.Enters here)
    (h : t.Follows true links here front (.taken q (.file bytes)))
    (hmore : t.follow true links here (front ++ tail) = .ok place) : tail = [] := by
  generalize hplace : Place.taken q (.file bytes) = found at h
  induction h with
  | here =>
      obtain ⟨rfl, hfile⟩ := Place.taken.inj hplace
      simp [henters.node?_eq] at hfile
  | dot _ ih => exact ih henters (by simpa [follow_cons] using hmore) hplace
  | up _ ih => exact ih henters.dropLast (by simpa [follow_cons] using hmore) hplace
  | free | stop => contradiction
  | file hname hnode =>
      by_contra hne
      simp [follow_cons, hname.not_here, hname.not_up, hname.short, hnode, hne] at hmore
  | down hname hnode _ ih =>
      refine ih (henters.snoc hnode) ?_ hplace
      simpa [follow_cons, hname.not_here, hname.not_up, hname.short, hnode] using hmore
  | through hname hnode hlast htarget _ ih =>
      refine ih (henters.start _) ?_ hplace
      simpa [follow_cons, hname.not_here, hname.not_up, hname.short, hnode, htarget] using hmore

/-! ## Dots -/

theorem follow_dot (front : List String) (htail : tail ≠ []) :
    t.follow true links here (front ++ "." :: tail) = t.follow true links here (front ++ tail) := by
  induction links using Nat.strongRecOn generalizing here front with
  | ind links ihlinks =>
      induction front generalizing here with
      | nil => simp [follow_cons]
      | cons name front ih =>
          have hmore : (front ++ "." :: tail).isEmpty = false := by simp
          have hless : (front ++ tail).isEmpty = false := by simp [htail]
          rw [List.cons_append, List.cons_append, follow_cons, follow_cons, hmore, hless]
          simp only [ih]
          cases links with
          | zero => rfl
          | succ links =>
              have hlink (l : Location) (target : String) :
                  t.follow true links l (steps target ++ (front ++ "." :: tail)) =
                    t.follow true links l (steps target ++ (front ++ tail)) := by
                rw [← List.append_assoc, ihlinks links (Nat.lt_succ_self _), List.append_assoc]
              simp only [hlink]

theorem follow_without_dots (front : List String) (name : String) :
    t.follow true links here (front ++ [name]) =
      t.follow true links here ((front.filter fun p => p != ".") ++ [name]) := by
  suffices h : ∀ passed, t.follow true links here (passed ++ (front ++ [name])) =
      t.follow true links here (passed ++ ((front.filter fun p => p != ".") ++ [name])) from h []
  induction front with
  | nil => exact fun _ => rfl
  | cons p front ih =>
      intro passed
      by_cases hdot : p = "."
      · rw [hdot, List.cons_append, follow_dot passed (by simp), ih,
          List.filter_cons_of_neg (by simp)]
      · have hmore := ih (passed ++ [p])
        rw [List.append_assoc, List.append_assoc] at hmore
        rw [List.filter_cons_of_pos (by simpa using hdot)]
        exact hmore

theorem follow_filter (hlast : ∀ p, names.getLast? = some p → p ≠ ".") :
    t.follow true links here names =
      t.follow true links here (names.filter fun p => p != ".") := by
  obtain rfl | ⟨front, name, rfl⟩ := List.eq_nil_or_concat' names
  · rfl
  · have hname : name ≠ "." := hlast name (by simp)
    have hfilter : (front ++ [name]).filter (fun p => p != ".") =
        (front.filter fun p => p != ".") ++ [name] := by simp [hname]
    rw [hfilter, follow_without_dots]

theorem follow_filter_of_directory
    (h : t.follow true links here names = .ok (.taken q .directory)) :
    t.follow true links here (names.filter fun p => p != ".") = .ok (.taken q .directory) := by
  induction names using List.reverseRecOn with
  | nil => exact h
  | append_singleton front name ih =>
      by_cases hname : name = "."
      · rw [hname] at h ⊢
        simpa using ih (follow_of_dot h)
      · rw [← follow_filter (by simp [hname])]
        exact h

/-! ## Trees that a file system admits -/

/-- The entries of each directory have names of their own, and names that entries can have. -/
structure Admissible (t : FileTree) : Prop where
  distinct : (t.nodes.map Prod.fst).Nodup
  names : ∀ here name, name ∈ t.namesIn here →
    IsFileName name ∧ ¬ maxNameSize < name.utf8ByteSize

namespace Admissible

theorem isEntryName (h : t.Admissible) {name : String} (hname : name ∈ t.namesIn here) :
    IsEntryName name :=
  ⟨(h.names _ _ hname).1.not_here, (h.names _ _ hname).1.not_up, (h.names _ _ hname).2⟩

theorem nodup_namesIn (h : t.Admissible) (here : Location) : (t.namesIn here).Nodup := by
  unfold namesIn
  rw [List.Nodup, List.pairwise_filterMap]
  have hdistinct := h.distinct
  rw [List.Nodup, List.pairwise_map] at hdistinct
  refine hdistinct.imp fun hne name hname name' hname' heq => hne ?_
  rw [childName_eq_some_iff.mp hname, childName_eq_some_iff.mp hname', heq]

end Admissible

theorem admissible_iff :
    t.Admissible ↔ (t.nodes.map Prod.fst).Nodup ∧ ∀ e ∈ t.nodes, ∀ name ∈ e.1.getLast?,
      IsFileName name ∧ ¬ maxNameSize < name.utf8ByteSize := by
  constructor
  · rintro ⟨hdistinct, hnames⟩
    refine ⟨hdistinct, fun e he name hname => ?_⟩
    obtain ⟨here, hhere⟩ := List.getLast?_eq_some_iff.mp hname
    exact hnames here name (mem_namesIn_iff.mpr ⟨e.2, hhere ▸ he⟩)
  · rintro ⟨hdistinct, hnames⟩
    refine ⟨hdistinct, fun here name hname => ?_⟩
    obtain ⟨n, hmem⟩ := mem_namesIn_iff.mp hname
    exact hnames _ hmem name (by simp)

instance : Decidable t.Admissible := decidable_of_iff _ admissible_iff.symm

theorem mem_namesIn_of_node? {name : String} {n : Node} (h : t.node? (here ++ [name]) = some n) :
    name ∈ t.namesIn here := by
  rw [FileTree.node?, if_neg (by simp)] at h
  obtain ⟨before, after, hnodes, -⟩ := List.lookup_eq_some_iff.mp h
  exact mem_namesIn_iff.mpr ⟨n, by simp [hnodes]⟩

theorem Follows.exists_mem_namesIn {followLast : Bool} {n : Node}
    (h : t.Follows followLast links here names (.taken q n)) {name : String} (hname : name ∈ names)
    (hhere : name ≠ ".") (hup : name ≠ "..") : ∃ l, name ∈ t.namesIn l := by
  generalize hplace : Place.taken q n = place at h
  induction h with
  | here => contradiction
  | dot _ ih => exact ih ((List.mem_cons.mp hname).resolve_left hhere) hplace
  | up _ ih => exact ih ((List.mem_cons.mp hname).resolve_left hup) hplace
  | free => contradiction
  | file _ hnode | stop _ hnode =>
      obtain rfl := List.mem_singleton.mp hname
      exact ⟨_, mem_namesIn_of_node? hnode⟩
  | down _ hnode _ ih =>
      obtain rfl | hmore := List.mem_cons.mp hname
      · exact ⟨_, mem_namesIn_of_node? hnode⟩
      · exact ih hmore hplace
  | through _ hnode _ _ _ ih =>
      obtain rfl | hmore := List.mem_cons.mp hname
      · exact ⟨_, mem_namesIn_of_node? hnode⟩
      · exact ih (List.mem_append_right _ hmore) hplace

/-! ## Reaching names one by one -/

def Reaches (t : FileTree) (cwd : Location) (base : String) (names : List String) (l : Location)
    (n : Node) : Prop :=
  t.Follows true maxLinks (if Path.isAbsolute base then [] else cwd) (words base ++ names)
    (.taken l n)

namespace Reaches

variable {base : String} {l l' : Location} {n n' : Node} {name : String}

theorem node? (h : t.Reaches cwd base names l n) (henters : t.Enters cwd) :
    t.node? l = some n ∧ ∀ target, n ≠ .link target :=
  h.node?_of_taken (henters.start _)

theorem unique (h : t.Reaches cwd base names l n) (h' : t.Reaches cwd base names l' n') :
    l = l' ∧ n = n' := by
  have hboth := (follows_iff.mp h).symm.trans (follows_iff.mp h')
  simpa using hboth

theorem of_resolve (hbase : base ≠ "") (hnames : ∀ name ∈ names, IsFileName name)
    (hne : names ≠ []) (h : t.resolve cwd (below base names) = .ok (l, n)) :
    t.Reaches cwd base names l n := by
  obtain ⟨-, -, -, hfollows⟩ := locate_eq_ok_iff.mp (resolve_eq_ok_iff.mp h)
  rwa [(Path.isAbsolute_below hnames hbase).2, steps_eq, Path.words_below hnames,
    Path.hasEndSlash_below hnames hne, if_neg Bool.false_ne_true, List.append_nil] at hfollows

theorem of_directory (h : t.resolve cwd base = .ok (l, .directory)) :
    t.Reaches cwd base [] l .directory := by
  obtain ⟨-, -, -, hfollows⟩ := locate_eq_ok_iff.mp (resolve_eq_ok_iff.mp h)
  rw [steps_eq] at hfollows
  rw [Reaches, List.append_nil]
  by_cases hslash : Path.hasEndSlash base = true
  · rw [if_pos hslash] at hfollows
    exact follows_iff.mpr (follow_of_dot (follows_iff.mp hfollows))
  · rwa [if_neg hslash, List.append_nil] at hfollows

theorem append (h : t.Reaches cwd base names here .directory) :
    ∃ left, ∀ more l n, t.Reaches cwd base (names ++ more) l n ↔
      t.Follows true left here more (.taken l n) := by
  obtain ⟨left, hleft⟩ := Follows.append h
  refine ⟨left, fun more l n => ?_⟩
  rw [Reaches, follows_iff, follows_iff, ← List.append_assoc, hleft]

theorem file (h : t.Reaches cwd base names here .directory) (hname : IsEntryName name)
    {bytes : ByteArray} (hnode : t.node? (here ++ [name]) = some (.file bytes)) :
    t.Reaches cwd base (names ++ [name]) (here ++ [name]) (.file bytes) := by
  obtain ⟨left, hleft⟩ := h.append
  exact (hleft _ _ _).mpr (.file hname hnode)

theorem directory (h : t.Reaches cwd base names here .directory) (hname : IsEntryName name)
    (hnode : t.node? (here ++ [name]) = some .directory) :
    t.Reaches cwd base (names ++ [name]) (here ++ [name]) .directory := by
  obtain ⟨left, hleft⟩ := h.append
  exact (hleft _ _ _).mpr (.down hname hnode (.end hnode))

theorem mem_namesIn (h : t.Reaches cwd base names here .directory) (hname : IsFileName name)
    {more : List String} (hmore : t.Reaches cwd base (names ++ name :: more) l n) :
    name ∈ t.namesIn here := by
  obtain ⟨left, hleft⟩ := h.append
  have hfollows := (hleft _ _ _).mp hmore
  obtain ⟨n', hnode⟩ : ∃ n', t.node? (here ++ [name]) = some n' := by
    cases hfollows with
    | dot => exact absurd rfl hname.not_here
    | up => exact absurd rfl hname.not_up
    | file _ hnode | down _ hnode | stop _ hnode | through _ hnode => exact ⟨_, hnode⟩
  exact mem_namesIn_of_node? hnode

end Reaches

/-! ## One entry of a walk -/

/-- What a walk does at one entry of a directory: it finds a file, or goes on below. -/
inductive Visits (t : FileTree) (cwd : Location) (fuel : Nat) (here : Location) (path : String)
    (trail : Trail) (name : String) : List WalkedFile → Prop
  | file {bytes : ByteArray} (hnode : t.node? (here ++ [name]) = some (.file bytes)) :
      Visits t cwd fuel here path trail name [⟨Path.join path name, name⟩]
  | directory {part : List WalkedFile} (hnode : t.node? (here ++ [name]) = some .directory)
      (hwalk : t.walkBelow cwd fuel (here ++ [name]) (Path.join path name)
        ((here ++ [name], Path.join path name) :: trail) = .ok part) :
      Visits t cwd fuel here path trail name part
  | linkedFile {target : String} {l : Location} {n : Node}
      (hnode : t.node? (here ++ [name]) = some (.link target))
      (hresolve : t.resolve cwd (Path.join path name) = .ok (l, n)) (hn : n ≠ .directory) :
      Visits t cwd fuel here path trail name [⟨Path.join path name, name⟩]
  | linkedDirectory {target : String} {l : Location} {part : List WalkedFile}
      (hnode : t.node? (here ++ [name]) = some (.link target))
      (hresolve : t.resolve cwd (Path.join path name) = .ok (l, .directory))
      (hnew : trail.lookup l = none)
      (hwalk : t.walkBelow cwd fuel l (Path.join path name) ((l, Path.join path name) :: trail) =
        .ok part) :
      Visits t cwd fuel here path trail name part

theorem exists_flatMap_of_mapM {α ε γ : Type} {f : α → Except ε (List γ)} {xs : List α}
    {ys : List γ} (h : (do return (← xs.mapM f).flatten : Except ε (List γ)) = .ok ys) :
    ∃ g, ys = xs.flatMap g ∧ ∀ x ∈ xs, f x = .ok (g x) := by
  refine ⟨fun x => (f x).toOption.getD [], ?_⟩
  induction xs generalizing ys with
  | nil =>
      obtain rfl : [] = ys := by simpa [pure, Except.pure, bind, Except.bind] using h
      simp
  | cons x xs ih =>
      rw [List.mapM_cons] at h
      cases hx : f x with
      | error fault => simp [hx, bind, Except.bind] at h
      | ok y =>
          cases hxs : xs.mapM f with
          | error fault => simp [hx, hxs, bind, Except.bind] at h
          | ok rest =>
              obtain rfl : y ++ rest.flatten = ys := by
                simpa [hx, hxs, bind, Except.bind, pure, Except.pure] using h
              obtain ⟨hrest, hall⟩ : rest.flatten = _ ∧ _ := ih (by rw [hxs]; rfl)
              have hfirst : (f x).toOption.getD [] = y := by rw [hx]; rfl
              have hown : f x = .ok ((f x).toOption.getD []) := by rw [hfirst, hx]
              refine ⟨?_, List.forall_mem_cons.mpr ⟨hown, hall⟩⟩
              rw [List.flatMap_cons, ← hrest, hfirst]

theorem visits_of_walkBelow {fuel : Nat} {path : String} {trail : Trail}
    {found : List WalkedFile} (h : t.walkBelow cwd (fuel + 1) here path trail = .ok found) :
    ∃ part, found = (t.namesIn here).flatMap part ∧
      ∀ name ∈ t.namesIn here, t.Visits cwd fuel here path trail name (part name) := by
  rw [walkBelow] at h
  obtain ⟨part, rfl, hpart⟩ := exists_flatMap_of_mapM h
  refine ⟨part, rfl, fun name hname => ?_⟩
  obtain ⟨n, hnode⟩ := exists_node_of_mem_namesIn hname
  have hstep := hpart name hname
  simp only [hnode] at hstep
  cases n with
  | file bytes =>
      rw [← Except.ok.inj hstep]
      exact .file hnode
  | directory => exact .directory hnode hstep
  | link target =>
      dsimp only at hstep
      split at hstep
      next l hresolve =>
          split at hstep
          next => contradiction
          next hnew => exact .linkedDirectory hnode hresolve hnew hstep
      next found hfile hresolve =>
          rw [← Except.ok.inj hstep]
          exact .linkedFile hnode hresolve fun hn => hfile found.1 (by rw [← hn])
      next => contradiction

/-! ## Enough fuel -/

/-- Directories that a walk is not in. -/
def unvisited (t : FileTree) (trail : Trail) : Nat :=
  (([] : Location) :: t.nodes.map Prod.fst).countP fun l => (trail.lookup l).isNone

/-- A bound for the depth that a walk can still come to. -/
def depthLeft (t : FileTree) (here : Location) (trail : Trail) : Nat :=
  t.unvisited trail * (t.nodes.length + 1) + t.countBelow here

theorem lookup_cons_isNone {trail : Trail} {l : Location} {path : String} {e : Location}
    (h : (((l, path) :: trail).lookup e).isNone = true) :
    (trail.lookup e).isNone = true ∧ e ≠ l := by
  rw [List.lookup_cons] at h
  split at h
  next => simp at h
  next hne => exact ⟨h, by simpa using hne⟩

theorem unvisited_cons_le (t : FileTree) (trail : Trail) (l : Location) (path : String) :
    t.unvisited ((l, path) :: trail) ≤ t.unvisited trail :=
  List.countP_mono_left fun _ _ h => (lookup_cons_isNone h).1

theorem unvisited_cons_lt {trail : Trail} {l : Location} {n : Node} (path : String)
    (hnode : t.node? l = some n) (hnew : trail.lookup l = none) :
    t.unvisited ((l, path) :: trail) < t.unvisited trail := by
  have hmem : l ∈ ([] : Location) :: t.nodes.map Prod.fst := by
    unfold node? at hnode
    split at hnode
    next hroot => simp [List.isEmpty_iff.mp hroot]
    next =>
        obtain ⟨before, after, hnodes, -⟩ := List.lookup_eq_some_iff.mp hnode
        simp [hnodes]
  have hold : ∀ places : List Location,
      places.countP (fun e => (((l, path) :: trail).lookup e).isNone) ≤
        places.countP fun e => (trail.lookup e).isNone := fun places =>
    List.countP_mono_left fun _ _ h => (lookup_cons_isNone h).1
  obtain ⟨front, behind, hsplit⟩ := List.append_of_mem hmem
  have hfront := hold front
  have hbehind := hold behind
  unfold unvisited
  rw [hsplit, List.countP_append, List.countP_append,
    List.countP_cons_of_neg (by simp), List.countP_cons_of_pos (by simp [hnew])]
  omega

theorem depthLeft_below {name : String} (path : String) (trail : Trail)
    (hname : name ∈ t.namesIn here) :
    t.depthLeft (here ++ [name]) ((here ++ [name], path) :: trail) < t.depthLeft here trail := by
  have hless := countBelow_lt hname
  have hle := Nat.mul_le_mul_right (t.nodes.length + 1)
    (t.unvisited_cons_le trail (here ++ [name]) path)
  unfold depthLeft
  omega

theorem depthLeft_through {trail : Trail} {l : Location} {n : Node} (here : Location)
    (path : String) (hnode : t.node? l = some n) (hnew : trail.lookup l = none) :
    t.depthLeft l ((l, path) :: trail) < t.depthLeft here trail := by
  have hless := unvisited_cons_lt path hnode hnew
  have hcount : t.countBelow l ≤ t.nodes.length := List.countP_le_length
  calc
    t.depthLeft l ((l, path) :: trail)
        ≤ t.unvisited ((l, path) :: trail) * (t.nodes.length + 1) + t.nodes.length :=
      Nat.add_le_add_left hcount _
    _ < (t.unvisited ((l, path) :: trail) + 1) * (t.nodes.length + 1) := by
      rw [Nat.add_mul, Nat.one_mul]
      omega
    _ ≤ t.unvisited trail * (t.nodes.length + 1) := Nat.mul_le_mul_right _ hless
    _ ≤ t.depthLeft here trail := Nat.le_add_right _ _

theorem depthLeft_le_walkFuel (t : FileTree) (here : Location) (trail : Trail) :
    t.depthLeft here trail ≤ t.walkFuel := by
  have hunvisited : t.unvisited trail ≤ t.nodes.length + 1 := by
    calc
      t.unvisited trail ≤ (([] : Location) :: t.nodes.map Prod.fst).length := List.countP_le_length
      _ = t.nodes.length + 1 := by rw [List.length_cons, List.length_map]
  have hcount : t.countBelow here ≤ t.nodes.length := List.countP_le_length
  calc
    t.depthLeft here trail
        ≤ (t.nodes.length + 1) * (t.nodes.length + 1) + t.nodes.length :=
      Nat.add_le_add (Nat.mul_le_mul_right _ hunvisited) hcount
    _ ≤ (t.nodes.length + 1 + 1) * (t.nodes.length + 1) := by
      rw [Nat.add_mul (t.nodes.length + 1), Nat.one_mul]
      omega
    _ ≤ t.walkFuel := Nat.mul_le_mul_left _ (Nat.le_succ _)

/-! ## What a walk finds -/

variable {base : String} {f : WalkedFile}

def FoundBelow (t : FileTree) (cwd : Location) (base : String) (names : List String)
    (f : WalkedFile) : Prop :=
  ∃ more name, (∀ n ∈ more ++ [name], IsFileName n) ∧
    f = ⟨below base (names ++ (more ++ [name])), name⟩ ∧
      ∃ l bytes, t.Reaches cwd base (names ++ (more ++ [name])) l (.file bytes)

def FoundAt (t : FileTree) (cwd : Location) (base : String) (names : List String) (entry : String)
    (f : WalkedFile) : Prop :=
  f = ⟨below base (names ++ [entry]), entry⟩ ∧
      (∃ l bytes, t.Reaches cwd base (names ++ [entry]) l (.file bytes)) ∨
    t.FoundBelow cwd base (names ++ [entry]) f

theorem foundBelow_iff :
    t.FoundBelow cwd base names f ↔
      ∃ entry, IsFileName entry ∧ t.FoundAt cwd base names entry f := by
  constructor
  · rintro ⟨_ | ⟨entry, more⟩, name, hmore, rfl, hfile⟩
    · exact ⟨name, hmore name (by simp), .inl ⟨rfl, hfile⟩⟩
    · obtain ⟨hentry, hmore⟩ := List.forall_mem_cons.mp hmore
      refine ⟨entry, hentry, .inr ⟨more, name, hmore, ?_, ?_⟩⟩
      · simp
      · simpa using hfile
  · rintro ⟨entry, hentry, ⟨rfl, hfile⟩ | ⟨more, name, hmore, rfl, hfile⟩⟩
    · exact ⟨[], entry, by simpa using hentry, rfl, hfile⟩
    · refine ⟨entry :: more, name, List.forall_mem_cons.mpr ⟨hentry, hmore⟩, ?_, ?_⟩
      · simp
      · simpa using hfile

theorem FoundAt.path_eq {entry : String} (h : t.FoundAt cwd base names entry f)
    (hnames : ∀ name ∈ names, IsFileName name) (hentry : IsFileName entry) :
    ∃ rest, words f.path = words base ++ (names ++ entry :: rest) := by
  obtain ⟨rfl, -⟩ | ⟨more, name, hmore, rfl, -⟩ := h
  · refine ⟨[], Path.words_below ?_⟩
    simpa [or_imp, forall_and] using ⟨hnames, hentry⟩
  · refine ⟨more ++ [name], ?_⟩
    rw [Path.words_below (by simp_all [or_imp, forall_and]), List.append_assoc]
    rfl

theorem FoundAt.mem_namesIn {entry : String} (h : t.FoundAt cwd base names entry f)
    (hreaches : t.Reaches cwd base names here .directory) (hentry : IsFileName entry) :
    entry ∈ t.namesIn here := by
  obtain ⟨-, l, bytes, hfile⟩ | ⟨more, name, -, -, l, bytes, hfile⟩ := h
  · exact hreaches.mem_namesIn hentry hfile
  · have hthrough : t.Reaches cwd base (names ++ entry :: (more ++ [name])) l (.file bytes) := by
      simpa using hfile
    exact hreaches.mem_namesIn hentry hthrough

structure Covers (t : FileTree) (cwd : Location) (base : String) (names : List String)
    (found : List WalkedFile) : Prop where
  nodup : found.Nodup
  mem_iff : ∀ f, f ∈ found ↔ t.FoundBelow cwd base names f

theorem Visits.covers {fuel : Nat} {trail : Trail} {name : String} {part : List WalkedFile}
    (h : t.Visits cwd fuel here (below base names) trail name part) (admissible : t.Admissible)
    (henters : t.Enters cwd) (hbase : base ≠ "") (hnames : ∀ n ∈ names ++ [name], IsFileName n)
    (hname : name ∈ t.namesIn here) (hreaches : t.Reaches cwd base names here .directory)
    (hfuel : t.depthLeft here trail ≤ fuel + 1)
    (hwalk : ∀ {l : Location} {trail : Trail} {found : List WalkedFile},
      t.Reaches cwd base (names ++ [name]) l .directory → t.depthLeft l trail ≤ fuel →
        t.walkBelow cwd fuel l (below base (names ++ [name])) trail = .ok found →
          t.Covers cwd base (names ++ [name]) found) :
    part.Nodup ∧ ∀ f, f ∈ part ↔ t.FoundAt cwd base names name f := by
  have hpath : Path.join (below base names) name = below base (names ++ [name]) := by
    rw [Path.below_append]
    rfl
  -- Either the entry is a file, and nothing lies below it, or a directory, and it is no file.
  have hfile : ∀ {l bytes}, t.Reaches cwd base (names ++ [name]) l (.file bytes) →
      [WalkedFile.mk (Path.join (below base names) name) name].Nodup ∧
        ∀ f, f ∈ [WalkedFile.mk (Path.join (below base names) name) name] ↔
          t.FoundAt cwd base names name f := by
    intro l bytes hfile
    refine ⟨List.nodup_singleton _, fun f => ?_⟩
    rw [List.mem_singleton, hpath]
    constructor
    · exact fun heq => .inl ⟨heq, l, bytes, hfile⟩
    · rintro (⟨heq, -⟩ | ⟨more, last, -, -, l', bytes', hbelow⟩)
      · exact heq
      · rw [Reaches, follows_iff, ← List.append_assoc] at hbelow
        have hnone := Follows.end_at_file (henters.start _) hfile hbelow
        simp at hnone
  have hdirectory : ∀ {l part}, t.Reaches cwd base (names ++ [name]) l .directory →
      t.Covers cwd base (names ++ [name]) part →
        part.Nodup ∧ ∀ f, f ∈ part ↔ t.FoundAt cwd base names name f := by
    intro l part hbelow hcovers
    refine ⟨hcovers.nodup, fun f => ?_⟩
    rw [hcovers.mem_iff]
    constructor
    · exact .inr
    · rintro (⟨-, l', bytes, hentry⟩ | hbelow)
      · cases (hbelow.unique hentry).2
      · exact hbelow
  rw [hpath] at hfile
  cases h with
  | file hnode =>
      rw [hpath]
      exact hfile (hreaches.file (admissible.isEntryName hname) hnode)
  | directory hnode hstep =>
      have hbelow := hreaches.directory (admissible.isEntryName hname) hnode
      rw [hpath] at hstep
      refine hdirectory hbelow (hwalk hbelow ?_ hstep)
      have hless := depthLeft_below (below base (names ++ [name])) trail hname
      omega
  | @linkedFile target l n hnode hresolve hn =>
      rw [hpath] at hresolve ⊢
      have hbelow := Reaches.of_resolve hbase hnames (by simp) hresolve
      cases n with
      | file bytes => exact hfile hbelow
      | directory => contradiction
      | link target => exact absurd rfl ((hbelow.node? henters).2 target)
  | linkedDirectory hnode hresolve hnew hstep =>
      rw [hpath] at hresolve hstep
      have hbelow := Reaches.of_resolve hbase hnames (by simp) hresolve
      refine hdirectory hbelow (hwalk hbelow ?_ hstep)
      have hless := depthLeft_through here (below base (names ++ [name])) (hbelow.node? henters).1
        hnew
      omega

theorem covers_of_walkBelow {fuel : Nat} {trail : Trail} {found : List WalkedFile}
    (admissible : t.Admissible) (henters : t.Enters cwd) (hbase : base ≠ "")
    (hnames : ∀ name ∈ names, IsFileName name)
    (hreaches : t.Reaches cwd base names here .directory) (hfuel : t.depthLeft here trail ≤ fuel)
    (h : t.walkBelow cwd fuel here (below base names) trail = .ok found) :
    t.Covers cwd base names found := by
  -- On the fuel, as the walk itself; that there is enough makes the first case one without entries.
  induction fuel generalizing here names trail found with
  | zero =>
      obtain rfl : [] = found := Except.ok.inj h
      have hnone : t.namesIn here = [] := namesIn_eq_nil (by unfold depthLeft at hfuel; omega)
      refine ⟨List.nodup_nil, fun f => ⟨fun hf => absurd hf List.not_mem_nil, fun hbelow => ?_⟩⟩
      obtain ⟨entry, hentry, hat⟩ := foundBelow_iff.mp hbelow
      have hmem := hat.mem_namesIn hreaches hentry
      simp [hnone] at hmem
  | succ fuel ih =>
      obtain ⟨part, rfl, hpart⟩ := visits_of_walkBelow h
      have hentries : ∀ name ∈ t.namesIn here, ∀ n ∈ names ++ [name], IsFileName n := by
        intro name hname n hn
        obtain hn | hn := List.mem_append.mp hn
        · exact hnames n hn
        · rw [List.mem_singleton.mp hn]
          exact (admissible.names here name hname).1
      have hcovers : ∀ name ∈ t.namesIn here,
          (part name).Nodup ∧ ∀ f, f ∈ part name ↔ t.FoundAt cwd base names name f :=
        fun name hname => (hpart name hname).covers admissible henters hbase (hentries name hname)
          hname hreaches hfuel fun hbelow hdepth => ih (hentries name hname) hbelow hdepth
      refine ⟨List.nodup_flatMap.mpr ⟨fun name hname => (hcovers name hname).1, ?_⟩, fun f => ?_⟩
      · -- Paths through different entries are different.
        refine (admissible.nodup_namesIn here).imp_of_mem ?_
        intro name name' hname hname' hne f hf hf'
        have hat := ((hcovers name hname).2 f).mp hf
        have hat' := ((hcovers name' hname').2 f).mp hf'
        obtain ⟨rest, hrest⟩ := hat.path_eq hnames (admissible.names here name hname).1
        obtain ⟨rest', hrest'⟩ := hat'.path_eq hnames (admissible.names here name' hname').1
        rw [hrest] at hrest'
        simp only [List.append_cancel_left_eq, List.cons.injEq] at hrest'
        exact hne hrest'.1
      · rw [List.mem_flatMap, foundBelow_iff]
        constructor
        · rintro ⟨name, hname, hf⟩
          exact ⟨name, (admissible.names here name hname).1, ((hcovers name hname).2 f).mp hf⟩
        · rintro ⟨name, hentry, hat⟩
          have hname := hat.mem_namesIn hreaches hentry
          exact ⟨name, hname, ((hcovers name hname).2 f).mpr hat⟩

/-- A walk that succeeds finds each file below the directory, and each once. -/
theorem covers_of_walk {found : List WalkedFile} (admissible : t.Admissible)
    (henters : t.Enters cwd) (hdirectory : t.isDirectory cwd base = true)
    (h : t.walk cwd base = .ok found) : t.Covers cwd base [] found := by
  obtain ⟨l, hresolve⟩ := isDirectory_iff.mp hdirectory
  have hbase : base ≠ "" := by
    obtain ⟨-, hnonempty, -⟩ := locate_eq_ok_iff.mp (resolve_eq_ok_iff.mp hresolve)
    simpa using hnonempty
  rw [walk, hresolve] at h
  exact covers_of_walkBelow admissible henters hbase (by simp) (.of_directory hresolve)
    (t.depthLeft_le_walkFuel l _) h

end SourceContract.FileTree
