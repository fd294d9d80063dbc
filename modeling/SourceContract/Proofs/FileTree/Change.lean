import SourceContract.FileTree.Basic

/-!
# What a change leaves as it was

A node is put at one location, and every other location keeps what it holds.  Making
directories adds directories where there was nothing; writing a file puts it where its
path leads, in place of what was there, and the path leads to it afterwards.
-/

namespace SourceContract

def Place.location : Place → Location
  | .taken l _ => l
  | .free l => l

namespace FileTree

variable {t t' : FileTree} {cwd : Location}

/-! ## Nodes -/

def file? (t : FileTree) (l : Location) : Option ByteArray :=
  match t.node? l with
  | some (.file bytes) => some bytes
  | _ => none

theorem lookup_replace_of_ne {nodes : List (Location × Node)} {l q : Location} (n : Node)
    (h : q ≠ l) :
    (nodes.map fun e => if e.1 == l then (l, n) else e).lookup q = nodes.lookup q := by
  induction nodes with
  | nil => rfl
  | cons e rest ih =>
      obtain ⟨place, node⟩ := e
      rw [List.map_cons]
      by_cases hplace : place = l
      · subst hplace
        rw [if_pos (beq_self_eq_true place), List.lookup_cons, List.lookup_cons,
          beq_false_of_ne h, ih]
      · rw [if_neg (by simpa using hplace), List.lookup_cons, List.lookup_cons, ih]

theorem lookup_replace_self {nodes : List (Location × Node)} {l : Location} (n : Node)
    (h : nodes.any (fun e => e.1 == l) = true) :
    (nodes.map fun e => if e.1 == l then (l, n) else e).lookup l = some n := by
  induction nodes with
  | nil => contradiction
  | cons e rest ih =>
      obtain ⟨place, node⟩ := e
      rw [List.map_cons]
      by_cases hplace : place = l
      · rw [if_pos (by simpa using hplace), List.lookup_cons, beq_self_eq_true]
      · have hrest : rest.any (fun e => e.1 == l) = true := by simpa [hplace] using h
        rw [if_neg (by simpa using hplace), List.lookup_cons,
          beq_false_of_ne (Ne.symm hplace), ih hrest]

theorem lookup_eq_none_of_any {nodes : List (Location × Node)} {l : Location}
    (h : ¬ nodes.any (fun e => e.1 == l) = true) : nodes.lookup l = none := by
  rw [List.lookup_eq_none_iff]
  intro e he
  have hne : e.1 ≠ l := fun heq => h (List.any_eq_true.mpr ⟨e, he, by simpa using heq⟩)
  simpa using hne.symm

theorem node?_put {l : Location} (hl : l ≠ []) (n : Node) (q : Location) :
    (t.put l n).node? q = if q = l then some n else t.node? q := by
  cases q with
  | nil => rw [if_neg hl.symm]; rfl
  | cons name names =>
      change (t.put l n).nodes.lookup _ = if _ then _ else t.nodes.lookup _
      unfold put
      split
      next hany =>
          split
          next heq => rw [heq, lookup_replace_self n hany]
          next hne => rw [lookup_replace_of_ne n hne]
      next hnone =>
          rw [List.lookup_append]
          split
          next heq => simp [heq, lookup_eq_none_of_any hnone]
          next hne => simp [List.lookup_cons, beq_false_of_ne hne]

theorem file?_put_file {l : Location} (hl : l ≠ []) (bytes : ByteArray) (q : Location) :
    (t.put l (.file bytes)).file? q = if q = l then some bytes else t.file? q := by
  unfold file?
  rw [node?_put hl]
  by_cases hq : q = l
  · rw [if_pos hq, if_pos hq]
  · rw [if_neg hq, if_neg hq]

/-! ## Directories on the way -/

def Enters (t : FileTree) (l : Location) : Prop := ∀ p, p <+: l → t.node? p = some .directory

theorem enters_nil : t.Enters [] := by
  intro p hp
  rw [List.prefix_nil.mp hp]
  rfl

namespace Enters

variable {l : Location}

theorem node?_eq (h : t.Enters l) : t.node? l = some .directory := h l (List.prefix_refl l)

theorem dropLast (h : t.Enters l) : t.Enters l.dropLast := fun p hp =>
  h p (hp.trans (List.dropLast_prefix l))

theorem snoc (h : t.Enters l) {name : String} (hnode : t.node? (l ++ [name]) = some .directory) :
    t.Enters (l ++ [name]) := by
  intro p hp
  rcases List.prefix_concat_iff.mp hp with rfl | hp
  · exact hnode
  · exact h p hp

theorem start (h : t.Enters l) (absolute : Bool) : t.Enters (if absolute then [] else l) := by
  split
  next => exact enters_nil
  next => exact h

end Enters

/-! ## Following names -/

structure IsEntryName (name : String) : Prop where
  not_here : name ≠ "."
  not_up : name ≠ ".."
  short : ¬ maxNameSize < name.utf8ByteSize

theorem IsEntryName.of_tests {name : String} (hhere : ¬ (name == ".") = true)
    (hup : ¬ (name == "..") = true) (hshort : ¬ maxNameSize < name.utf8ByteSize) :
    IsEntryName name :=
  ⟨by simpa using hhere, by simpa using hup, hshort⟩

theorem follow_nil (followLast : Bool) (links : Nat) (here : Location) :
    t.follow followLast links here [] =
      .ok (.taken here ((t.node? here).getD .directory)) := by
  cases links <;> rfl

theorem follow_cons (followLast : Bool) (links : Nat) (here : Location) (name : String)
    (rest : List String) :
    t.follow followLast links here (name :: rest) =
      if name == "." then t.follow followLast links here rest
      else if name == ".." then t.follow followLast links here.dropLast rest
      else if maxNameSize < name.utf8ByteSize then .error .nameTooLong
      else
        match t.node? (here ++ [name]) with
        | none => if rest.isEmpty then .ok (.free (here ++ [name])) else .error .notFound
        | some .directory => t.follow followLast links (here ++ [name]) rest
        | some (.file bytes) =>
            if rest.isEmpty then .ok (.taken (here ++ [name]) (.file bytes))
            else .error .notDirectory
        | some (.link target) =>
            if rest.isEmpty && !followLast then .ok (.taken (here ++ [name]) (.link target))
            else
              match links with
              | 0 => .error .tooManyLinks
              | links + 1 =>
                  if target.isEmpty then .error .notFound
                  else t.follow followLast links (if Path.isAbsolute target then [] else here)
                    (steps target ++ rest) := by
  cases links <;> rfl

inductive Follows (t : FileTree) (followLast : Bool) : Nat → Location → List String → Place → Prop
  | here {links : Nat} {l : Location} :
      Follows t followLast links l [] (.taken l ((t.node? l).getD .directory))
  | dot {links : Nat} {l : Location} {rest : List String} {place : Place}
      (h : Follows t followLast links l rest place) : Follows t followLast links l ("." :: rest) place
  | up {links : Nat} {l : Location} {rest : List String} {place : Place}
      (h : Follows t followLast links l.dropLast rest place) :
      Follows t followLast links l (".." :: rest) place
  | free {links : Nat} {l : Location} {name : String} (hname : IsEntryName name)
      (hnode : t.node? (l ++ [name]) = none) :
      Follows t followLast links l [name] (.free (l ++ [name]))
  | file {links : Nat} {l : Location} {name : String} {bytes : ByteArray}
      (hname : IsEntryName name) (hnode : t.node? (l ++ [name]) = some (.file bytes)) :
      Follows t followLast links l [name] (.taken (l ++ [name]) (.file bytes))
  | down {links : Nat} {l : Location} {name : String} {rest : List String} {place : Place}
      (hname : IsEntryName name) (hnode : t.node? (l ++ [name]) = some .directory)
      (h : Follows t followLast links (l ++ [name]) rest place) :
      Follows t followLast links l (name :: rest) place
  | stop {links : Nat} {l : Location} {name target : String} (hname : IsEntryName name)
      (hnode : t.node? (l ++ [name]) = some (.link target)) (hlast : followLast = false) :
      Follows t followLast links l [name] (.taken (l ++ [name]) (.link target))
  | through {links : Nat} {l : Location} {name target : String} {rest : List String}
      {place : Place} (hname : IsEntryName name)
      (hnode : t.node? (l ++ [name]) = some (.link target))
      (hlast : rest = [] → followLast = true) (htarget : target ≠ "")
      (h : Follows t followLast links (if Path.isAbsolute target then [] else l)
        (steps target ++ rest) place) :
      Follows t followLast (links + 1) l (name :: rest) place

theorem Follows.end {followLast : Bool} {links : Nat} {l : Location} {n : Node}
    (h : t.node? l = some n) : t.Follows followLast links l [] (.taken l n) := by
  have hhere : t.Follows followLast links l [] (.taken l ((t.node? l).getD .directory)) := .here
  rwa [h] at hhere

/-- Between two links names are followed one by one. -/
theorem Follows.of_untilLink {followLast : Bool} {links : Nat} {here : Location}
    {names : List String} {place : Place}
    {jump : Location → String → List String → Except FileFault Place}
    (hjump : ∀ l target rest place, jump l target rest = .ok place →
      ∃ left, links = left + 1 ∧ target ≠ "" ∧
        t.Follows followLast left (if Path.isAbsolute target then [] else l)
          (steps target ++ rest) place)
    (h : t.followUntilLink followLast jump here names = .ok place) :
    t.Follows followLast links here names place := by
  fun_induction t.followUntilLink followLast jump here names <;> try contradiction
  case case1 =>
    cases h
    exact .here
  case case2 hdot ih =>
    obtain rfl := beq_iff_eq.mp hdot
    exact .dot (ih h)
  case case3 hup ih =>
    obtain rfl := beq_iff_eq.mp hup
    exact .up (ih h)
  case case5 hhere hup hshort hnode hend =>
    cases h
    obtain rfl := List.isEmpty_iff.mp hend
    exact .free (.of_tests hhere hup hshort) hnode
  case case7 hhere hup hshort hnode ih =>
    exact .down (.of_tests hhere hup hshort) hnode (ih h)
  case case8 hhere hup hshort bytes hnode hend =>
    cases h
    obtain rfl := List.isEmpty_iff.mp hend
    exact .file (.of_tests hhere hup hshort) hnode
  case case10 hhere hup hshort target hnode hstop =>
    cases h
    obtain ⟨hend, hlast⟩ : _ = [] ∧ followLast = false := by simpa using hstop
    rw [hend]
    exact .stop (.of_tests hhere hup hshort) hnode hlast
  case case11 hhere hup hshort target hnode hon =>
    obtain ⟨left, rfl, htarget, hleft⟩ := hjump _ _ _ _ h
    refine .through (.of_tests hhere hup hshort) hnode ?_ htarget hleft
    rintro rfl
    simpa using hon

theorem follows_iff {followLast : Bool} {links : Nat} {here : Location} {names : List String}
    {place : Place} :
    t.Follows followLast links here names place ↔
      t.follow followLast links here names = .ok place := by
  constructor
  · intro h
    induction h with
    | here => rw [follow_nil]
    | dot h ih => simpa [follow_cons] using ih
    | up h ih => simpa [follow_cons] using ih
    | free hname hnode | file hname hnode =>
        simp [follow_cons, hname.not_here, hname.not_up, hname.short, hnode]
    | down hname hnode h ih =>
        simpa [follow_cons, hname.not_here, hname.not_up, hname.short, hnode] using ih
    | stop hname hnode hlast =>
        simp [follow_cons, hname.not_here, hname.not_up, hname.short, hnode, hlast]
    | @through _ _ _ _ rest _ hname hnode hlast htarget h ih =>
        have hon : ¬ (rest.isEmpty && !followLast) = true := by grind
        rw [follow_cons]
        simpa [hname.not_here, hname.not_up, hname.short, hnode, hon, htarget] using ih
  · intro h
    induction links generalizing here names place with
    | zero => exact .of_untilLink (fun _ _ _ _ hjump => by contradiction) h
    | succ links ih =>
        refine .of_untilLink (fun l target rest place hjump => ?_) h
        split at hjump
        · contradiction
        next htarget => exact ⟨links, rfl, by simpa using htarget, ih hjump⟩

section Place

variable {followLast : Bool} {links : Nat} {here l : Location} {names : List String}
  {place : Place}

theorem Follows.node?_of_free (h : t.Follows followLast links here names (.free l)) :
    l ≠ [] ∧ t.node? l = none := by
  generalize hplace : Place.free l = found at h
  induction h with
  | free hname hnode =>
      cases hplace
      exact ⟨by simp, hnode⟩
  | here | file | stop => contradiction
  | dot h ih | up h ih | down _ _ h ih | through _ _ _ _ h ih => exact ih hplace

theorem Follows.node?_of_taken {n : Node} (h : t.Follows true links here names (.taken l n))
    (henters : t.Enters here) : t.node? l = some n ∧ ∀ target, n ≠ .link target := by
  generalize hplace : Place.taken l n = found at h
  induction h with
  | here =>
      -- The names ended where they started, in a directory.
      cases hplace
      simp [henters.node?_eq]
  | file hname hnode =>
      cases hplace
      exact ⟨hnode, nofun⟩
  | free => contradiction
  | stop _ _ hlast => contradiction
  | dot h ih => exact ih henters hplace
  | up h ih => exact ih henters.dropLast hplace
  | down hname hnode h ih => exact ih (henters.snoc hnode) hplace
  | through _ _ _ _ h ih => exact ih (henters.start _) hplace

end Place

/-! ## Where a path leads -/

def LeadsTo (t : FileTree) (cwd : Location) (path : String) (l : Location) : Prop :=
  ∃ place, t.locate true cwd path = .ok place ∧ place.location = l

theorem LeadsTo.unique {path : String} {l l' : Location} (h : t.LeadsTo cwd path l)
    (h' : t.LeadsTo cwd path l') : l = l' := by
  obtain ⟨place, hplace, rfl⟩ := h
  obtain ⟨place', hplace', rfl⟩ := h'
  rw [Except.ok.inj (hplace.symm.trans hplace')]

theorem locate_eq_ok_iff {followLast : Bool} {path : String} {place : Place} :
    t.locate followLast cwd path = .ok place ↔
      '\x00' ∉ path.toList ∧ path.isEmpty = false ∧ ¬ maxPathSize < path.utf8ByteSize ∧
        t.Follows followLast maxLinks (if Path.isAbsolute path then [] else cwd) (steps path)
          place := by
  rw [follows_iff, locate]
  split
  next h => simp [h]
  next hnull =>
      split
      next h => simp [h]
      next hempty =>
          split
          next h => simp [h]
          next hshort => simp [hnull, hempty, hshort]

/-! ## Making directories -/

/-- Directories are added where there was nothing, and nothing else changes. -/
def Widens (t t' : FileTree) : Prop :=
  ∀ l, t'.node? l = t.node? l ∨ t.node? l = none ∧ t'.node? l = some .directory

namespace Widens

theorem refl (t : FileTree) : t.Widens t := fun _ => Or.inl rfl

theorem trans {t'' : FileTree} (h : t.Widens t') (h' : t'.Widens t'') : t.Widens t'' := by
  intro l
  rcases h' l with heq | ⟨hnone, hmade⟩
  · rw [heq]
    exact h l
  · rcases h l with heq | ⟨-, hdirectory⟩
    · exact Or.inr ⟨heq.symm.trans hnone, hmade⟩
    · rw [hnone] at hdirectory
      contradiction

theorem node?_eq (h : t.Widens t') {l : Location} {n : Node} (hnode : t.node? l = some n) :
    t'.node? l = some n := by
  rcases h l with heq | ⟨hnone, -⟩
  · rw [heq, hnode]
  · rw [hnone] at hnode
    contradiction

theorem file?_eq (h : t.Widens t') (l : Location) : t'.file? l = t.file? l := by
  rcases h l with heq | ⟨hnone, hmade⟩
  · rw [file?, file?, heq]
  · rw [file?, file?, hnone, hmade]

theorem enters (h : t.Widens t') {l : Location} (henters : t.Enters l) : t'.Enters l :=
  fun p hp => h.node?_eq (henters p hp)

theorem put_directory {l : Location} (hl : l ≠ []) (hfree : t.node? l = none) :
    t.Widens (t.put l .directory) := by
  intro q
  rw [node?_put hl]
  split
  next heq => exact Or.inr ⟨heq ▸ hfree, rfl⟩
  next => exact Or.inl rfl

theorem follows (h : t.Widens t') {followLast : Bool} {links : Nat} {here : Location}
    {names : List String} {place : Place} (hfollows : t.Follows followLast links here names place) :
    ∃ place', t'.Follows followLast links here names place' ∧
      place'.location = place.location := by
  induction hfollows with
  | here => exact ⟨_, .here, rfl⟩
  | dot _ ih =>
      obtain ⟨place', h', heq⟩ := ih
      exact ⟨place', .dot h', heq⟩
  | up _ ih =>
      obtain ⟨place', h', heq⟩ := ih
      exact ⟨place', .up h', heq⟩
  | @free _ l name hname hnode =>
      -- A free place may be a directory now, and the names lead there as before.
      rcases h (l ++ [name]) with heq | ⟨-, hmade⟩
      · exact ⟨_, .free hname (heq.trans hnode), rfl⟩
      · exact ⟨_, .down hname hmade .here, rfl⟩
  | file hname hnode => exact ⟨_, .file hname (h.node?_eq hnode), rfl⟩
  | down hname hnode _ ih =>
      obtain ⟨place', h', heq⟩ := ih
      exact ⟨place', .down hname (h.node?_eq hnode) h', heq⟩
  | stop hname hnode hlast => exact ⟨_, .stop hname (h.node?_eq hnode) hlast, rfl⟩
  | through hname hnode hlast htarget _ ih =>
      obtain ⟨place', h', heq⟩ := ih
      exact ⟨place', .through hname (h.node?_eq hnode) hlast htarget h', heq⟩

theorem leadsTo (h : t.Widens t') {path : String} {l : Location} (hleads : t.LeadsTo cwd path l) :
    t'.LeadsTo cwd path l := by
  obtain ⟨place, hplace, rfl⟩ := hleads
  obtain ⟨hnull, hempty, hshort, hfollows⟩ := locate_eq_ok_iff.mp hplace
  obtain ⟨place', hfollows', heq⟩ := h.follows hfollows
  exact ⟨place', locate_eq_ok_iff.mpr ⟨hnull, hempty, hshort, hfollows'⟩, heq⟩

end Widens

/-- Directories are put, one after the other, where there is nothing. -/
inductive Digs (t : FileTree) : FileTree → Prop
  | refl : Digs t t
  | put {t' : FileTree} (h : Digs t t') {l : Location} (hl : l ≠ []) (hfree : t'.node? l = none) :
      Digs t (t'.put l .directory)

namespace Digs

theorem trans {t'' : FileTree} (h : t.Digs t') (h' : t'.Digs t'') : t.Digs t'' := by
  induction h' with
  | refl => exact h
  | put _ hl hfree ih => exact .put ih hl hfree

theorem widens (h : t.Digs t') : t.Widens t' := by
  induction h with
  | refl => exact .refl t
  | put _ hl hfree ih => exact ih.trans (.put_directory hl hfree)

end Digs

theorem digs_makeDirectory {path : String} (h : t.makeDirectory cwd path = .ok t') : t.Digs t' := by
  unfold makeDirectory at h
  split at h
  next => contradiction
  next l hfree =>
      cases h
      obtain ⟨-, -, -, hfollows⟩ := locate_eq_ok_iff.mp hfree
      obtain ⟨hl, hnode⟩ := hfollows.node?_of_free
      exact .put .refl hl hnode
  next => contradiction

theorem digs_makeDirectoriesUp (cwd : Location) (fuel : Nat) (t : FileTree) (path : String) :
    t.Digs (makeDirectoriesUp cwd fuel t path).1 := by
  induction fuel generalizing t path with
  | zero => exact .refl
  | succ fuel ih =>
      unfold makeDirectoriesUp
      split
      next => exact .refl
      next =>
          split
          next hmade => exact digs_makeDirectory hmade
          next =>
              split
              next => exact .refl
              next above _ =>
                  have habove := ih t above
                  split
                  next hup =>
                      rw [hup] at habove
                      exact habove
                  next hup =>
                      rw [hup] at habove
                      split
                      next hmade => exact habove.trans (digs_makeDirectory hmade)
                      next => exact habove
          next => exact .refl

theorem digs_makeDirectories (t : FileTree) (cwd : Location) (path : String) :
    t.Digs (t.makeDirectories cwd path).1 :=
  digs_makeDirectoriesUp cwd _ t path

/-! ## Writing a file -/

def target (t : FileTree) (cwd : Location) (path : String) : Except FileFault Location :=
  match t.locate true cwd (Path.withoutEndSlash path) with
  | .error e => .error e
  | .ok (.taken _ .directory) => .error .isDirectory
  | .ok (.taken l _) | .ok (.free l) =>
      if Path.endsInSlash path then .error .isDirectory else .ok l

/-- Whether a file can be written, and where, does not depend on what is written. -/
theorem write_eq (t : FileTree) (cwd : Location) (path : String) (bytes : ByteArray) :
    t.write cwd path bytes = (t.target cwd path).map fun l => t.put l (.file bytes) := by
  unfold write target
  cases t.locate true cwd (Path.withoutEndSlash path) with
  | error e => rfl
  | ok place =>
      cases place with
      | taken l n => cases n <;> cases Path.endsInSlash path <;> rfl
      | free l => cases Path.endsInSlash path <;> rfl

structure Targets (t : FileTree) (cwd : Location) (path : String) (place : Place) : Prop where
  leads : t.locate true cwd path = .ok place
  no_directory : ∀ l, place ≠ .taken l .directory

theorem target_eq_ok {path : String} {l : Location} (h : t.target cwd path = .ok l) :
    ∃ place, t.Targets cwd path place ∧ place.location = l := by
  unfold target at h
  -- A path without a slash at its end is the one that is followed.
  have hsame (hslash : ¬ Path.endsInSlash path = true) : Path.withoutEndSlash path = path :=
    if_neg hslash
  split at h
  next => contradiction
  next => contradiction
  next q n hno hplace =>
      split at h
      next => contradiction
      next hslash =>
          rw [hsame hslash] at hplace
          refine ⟨_, ⟨hplace, ?_⟩, Except.ok.inj h⟩
          rintro q' ⟨⟩
          exact hno rfl
  next q hplace =>
      split at h
      next => contradiction
      next hslash =>
          rw [hsame hslash] at hplace
          exact ⟨_, ⟨hplace, nofun⟩, Except.ok.inj h⟩

theorem Follows.location_ne_nil {followLast : Bool} {links : Nat} {here : Location}
    {names : List String} {place : Place} (h : t.Follows followLast links here names place)
    (hplace : ∀ l, place ≠ .taken l .directory) : place.location ≠ [] := by
  induction h with
  | @here _ l =>
      rintro rfl
      exact hplace [] rfl
  | free | file | stop => simp [Place.location]
  | dot _ ih | up _ ih | down _ _ _ ih | through _ _ _ _ _ ih => exact ih hplace

theorem Targets.location_ne_nil {path : String} {place : Place}
    (h : t.Targets cwd path place) : place.location ≠ [] := by
  obtain ⟨-, -, -, hfollows⟩ := locate_eq_ok_iff.mp h.leads
  exact hfollows.location_ne_nil h.no_directory

theorem node?_put_file {l q : Location} {n : Node} (hl : l ≠ [])
    (hfile : ∀ n, t.node? l = some n → ∃ bytes, n = .file bytes) (hnode : t.node? q = some n)
    (hn : ∀ bytes, n ≠ .file bytes) (bytes : ByteArray) :
    (t.put l (.file bytes)).node? q = some n := by
  have hne : q ≠ l := by
    rintro rfl
    obtain ⟨old, hold⟩ := hfile n hnode
    exact hn old hold
  rw [node?_put hl, if_neg hne, hnode]

theorem Follows.put_file {links : Nat} {here : Location} {names : List String} {place : Place}
    (h : t.Follows true links here names place) (henters : t.Enters here)
    (hplace : ∀ l, place ≠ .taken l .directory) (hl : place.location ≠ [])
    (hfile : ∀ n, t.node? place.location = some n → ∃ bytes, n = .file bytes)
    (bytes : ByteArray) :
    (t.put place.location (.file bytes)).Follows true links here names
      (.taken place.location (.file bytes)) := by
  have hput : (t.put place.location (.file bytes)).node? place.location = some (.file bytes) := by
    rw [node?_put hl, if_pos rfl]
  -- The directories and links on the way are still there, and at its end is the file.
  induction h with
  | @here _ l =>
      rw [henters.node?_eq] at hplace
      exact absurd rfl (hplace l)
  | dot _ ih => exact .dot (ih henters hplace hl hfile hput)
  | up _ ih => exact .up (ih henters.dropLast hplace hl hfile hput)
  | free hname | file hname => exact .file hname hput
  | down hname hnode _ ih =>
      exact .down hname (node?_put_file hl hfile hnode nofun bytes)
        (ih (henters.snoc hnode) hplace hl hfile hput)
  | stop _ _ hlast => contradiction
  | through hname hnode hlast htarget _ ih =>
      exact .through hname (node?_put_file hl hfile hnode nofun bytes) hlast htarget
        (ih (henters.start _) hplace hl hfile hput)

theorem Targets.resolve_put {path : String} {place : Place} (h : t.Targets cwd path place)
    (henters : t.Enters cwd) (bytes : ByteArray) :
    (t.put place.location (.file bytes)).resolve cwd path =
      .ok (place.location, .file bytes) := by
  obtain ⟨hnull, hempty, hshort, hfollows⟩ := locate_eq_ok_iff.mp h.leads
  have hstart := henters.start (Path.isAbsolute path)
  have hfile : ∀ n, t.node? place.location = some n → ∃ bytes, n = .file bytes := by
    intro n hnode
    cases place with
    | free l =>
        obtain ⟨-, hnone⟩ := hfollows.node?_of_free
        rw [Place.location, hnone] at hnode
        contradiction
    | taken l n' =>
        obtain ⟨hthere, hlink⟩ := hfollows.node?_of_taken hstart
        obtain rfl := Option.some.inj (hthere.symm.trans hnode)
        cases n' with
        | file bytes => exact ⟨bytes, rfl⟩
        | directory => exact absurd rfl (h.no_directory l)
        | link target => exact absurd rfl (hlink target)
  have hput := hfollows.put_file hstart h.no_directory h.location_ne_nil hfile bytes
  rw [resolve, locate_eq_ok_iff.mpr ⟨hnull, hempty, hshort, hput⟩]

end FileTree

end SourceContract
