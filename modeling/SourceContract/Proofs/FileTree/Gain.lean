import SourceContract.Proofs.FileTree.Change
import SourceContract.Proofs.FileTree.Path

/-!
# A tree that gained a file

Saving a document puts a file at one location and may make directories.  What a path
led to before it leads to afterwards.  The converse needs care: a name that leads up
again may pass through a directory that has only just been made, so it is for paths
without such names, in a tree without links, that nothing but the new file can be
reached that could not be reached before.
-/

namespace SourceContract.FileTree

variable {t t' after : FileTree} {cwd : Location} {l : Location}

/-! ## Trees without links -/

def Linkless (t : FileTree) : Prop := ∀ l target, t.node? l ≠ some (.link target)

structure Plain (t : FileTree) : Prop where
  enters : ∀ l n, t.node? l = some n → t.Enters l.dropLast
  linkless : t.Linkless

theorem Widens.linkless (h : t.Widens t') (linkless : t.Linkless) : t'.Linkless := by
  intro q target hnode
  rcases h q with heq | ⟨-, hmade⟩
  · exact linkless q target (heq ▸ hnode)
  · cases hmade.symm.trans hnode

theorem plain_of_nodes
    (h : ∀ e ∈ t.nodes, t.Enters e.1.dropLast ∧ ∀ target, e.2 ≠ .link target) : t.Plain := by
  have hnode : ∀ l n, t.node? l = some n → t.Enters l.dropLast ∧ ∀ target, n ≠ .link target := by
    intro l n hnode
    unfold node? at hnode
    split at hnode
    next hroot =>
        cases hnode
        rw [List.isEmpty_iff.mp hroot]
        exact ⟨enters_nil, nofun⟩
    next =>
        obtain ⟨before, after, hnodes, -⟩ := List.lookup_eq_some_iff.mp hnode
        exact h (l, n) (by simp [hnodes])
  refine ⟨fun l n h => (hnode l n h).1, fun l target h => ?_⟩
  exact (hnode l _ h).2 target rfl

theorem Plain.enters_of_directory (plain : t.Plain) (h : t.node? l = some .directory) :
    t.Enters l := by
  rcases List.eq_nil_or_concat' l with rfl | ⟨front, name, rfl⟩
  · exact enters_nil
  · have hfront := plain.enters _ _ h
    rw [List.dropLast_concat] at hfront
    exact hfront.snoc h

theorem Plain.directory_above (plain : t.Plain) {p : Location} {n : Node}
    (h : t.node? l = some n) (hp : p <+: l) (hne : p ≠ l) : t.node? p = some .directory := by
  rcases List.eq_nil_or_concat' l with rfl | ⟨front, name, rfl⟩
  · exact absurd (List.prefix_nil.mp hp) hne
  · have hfront := plain.enters _ _ h
    rw [List.dropLast_concat] at hfront
    exact hfront p ((List.prefix_concat_iff.mp hp).resolve_left hne)

/-! ## Lists of names -/

theorem childName_eq_some_iff {here : Location} {name : String} :
    (if l.length = here.length + 1 ∧ here.isPrefixOf l then l.getLast? else none) = some name ↔
      l = here ++ [name] := by
  constructor
  · intro h
    split at h
    next hchild =>
        obtain ⟨last, rfl⟩ := List.isPrefixOf_iff_prefix.mp hchild.2
        obtain ⟨other, rfl⟩ : ∃ other, last = [other] := by
          rw [← List.length_eq_one_iff]
          simpa using hchild.1
        simp_all
    next => contradiction
  · rintro rfl
    simp

theorem mem_namesIn_iff {here : Location} {name : String} :
    name ∈ t.namesIn here ↔ ∃ n, (here ++ [name], n) ∈ t.nodes := by
  simp only [namesIn, List.mem_filterMap, childName_eq_some_iff]
  constructor
  · rintro ⟨⟨l, n⟩, hmem, rfl⟩
    exact ⟨n, hmem⟩
  · rintro ⟨n, hmem⟩
    exact ⟨_, hmem, rfl⟩

theorem exists_node_of_mem_namesIn {here : Location} {name : String}
    (h : name ∈ t.namesIn here) : ∃ n, t.node? (here ++ [name]) = some n := by
  obtain ⟨n, hmem⟩ := mem_namesIn_iff.mp h
  refine Option.ne_none_iff_exists'.mp fun hnone => ?_
  rw [node?, if_neg (by simp)] at hnone
  have hne := List.lookup_eq_none_iff.mp hnone (here ++ [name], n) hmem
  simp at hne

theorem namesIn_put (t : FileTree) (l : Location) (n : Node) (here : Location) :
    ∃ more, (t.put l n).namesIn here = t.namesIn here ++ more ∧
      ∀ name ∈ more, here ++ [name] = l ∧ t.node? l = none := by
  unfold put
  split
  next =>
      refine ⟨[], ?_, List.forall_mem_nil _⟩
      rw [List.append_nil, namesIn, namesIn, List.filterMap_map]
      refine List.filterMap_congr fun e _ => ?_
      have hplace : (if e.1 == l then (l, n) else e).1 = e.1 := by
        split
        next heq => exact (beq_iff_eq.mp heq).symm
        next => rfl
      rw [Function.comp_apply, hplace]
  next hnone =>
      refine ⟨namesIn ⟨[(l, n)]⟩ here, List.filterMap_append, fun name hname => ?_⟩
      obtain ⟨n', hn'⟩ := mem_namesIn_iff.mp hname
      obtain ⟨rfl, -⟩ := Prod.mk.inj (List.mem_singleton.mp hn')
      refine ⟨rfl, ?_⟩
      rw [node?, if_neg (by simp)]
      exact lookup_eq_none_of_any hnone

def AddsNames (t t' : FileTree) : Prop :=
  ∀ here, ∃ more, t'.namesIn here = t.namesIn here ++ more ∧
    ∀ name ∈ more, t.node? (here ++ [name]) = none

theorem AddsNames.put (h : t.AddsNames t') (hwidens : t.Widens t') (l : Location) (n : Node) :
    t.AddsNames (t'.put l n) := by
  intro here
  obtain ⟨more, hmore, hnew⟩ := h here
  obtain ⟨last, hlast, hput⟩ := namesIn_put t' l n here
  refine ⟨more ++ last, by rw [hlast, hmore, List.append_assoc], fun name hname => ?_⟩
  rcases List.mem_append.mp hname with hname | hname
  · exact hnew name hname
  · obtain ⟨rfl, hfree⟩ := hput name hname
    cases hold : t.node? (here ++ [name]) with
    | none => rfl
    | some n' =>
        rw [hwidens.node?_eq hold] at hfree
        contradiction

theorem Digs.addsNames (h : t.Digs t') : t.AddsNames t' := by
  induction h with
  | refl => exact fun here => ⟨[], by rw [List.append_nil], List.forall_mem_nil _⟩
  | put h _ _ ih => exact ih.put h.widens _ _

/-! ## The new file -/

/-- There is a file at `l` now, where there was none or another, and there may be directories where
there was nothing. -/
structure Gains (t after : FileTree) (l : Location) : Prop where
  file : ∃ bytes, after.node? l = some (.file bytes)
  no_directory : t.node? l ≠ some .directory
  others : ∀ q, q ≠ l →
    after.node? q = t.node? q ∨ t.node? q = none ∧ after.node? q = some .directory
  names : t.AddsNames after

theorem Digs.gains (h : t.Digs t') {path : String} (henters : t.Enters cwd)
    (htarget : t'.target cwd path = .ok l) (bytes : ByteArray) :
    t.Gains (t'.put l (.file bytes)) l := by
  obtain ⟨place, htargets, rfl⟩ := target_eq_ok htarget
  have hl := htargets.location_ne_nil
  have hwidens := h.widens
  refine ⟨⟨bytes, by rw [node?_put hl, if_pos rfl]⟩, ?_, ?_, h.addsNames.put hwidens _ _⟩
  · intro hdirectory
    have hthere := hwidens.node?_eq hdirectory
    obtain ⟨-, -, -, hfollows⟩ := locate_eq_ok_iff.mp htargets.leads
    cases place with
    | free l =>
        rw [Place.location, hfollows.node?_of_free.2] at hthere
        contradiction
    | taken l n =>
        have hnode := (hfollows.node?_of_taken ((hwidens.enters henters).start _)).1
        obtain rfl := Option.some.inj (hnode.symm.trans hthere)
        exact htargets.no_directory l rfl
  · intro q hq
    rw [node?_put hl, if_neg hq]
    exact hwidens q

namespace Gains

theorem node?_eq (h : t.Gains after l) {q : Location} {n : Node} (hnode : t.node? q = some n)
    (hq : q ≠ l) : after.node? q = some n := by
  rcases h.others q hq with heq | ⟨hnone, -⟩
  · rw [heq, hnode]
  · rw [hnone] at hnode
    contradiction

theorem directory (h : t.Gains after l) {q : Location} (hnode : t.node? q = some .directory) :
    after.node? q = some .directory :=
  h.node?_eq hnode fun heq => h.no_directory (heq ▸ hnode)

theorem enters (h : t.Gains after l) {q : Location} (henters : t.Enters q) : after.Enters q :=
  fun p hp => h.directory (henters p hp)

theorem linkless (h : t.Gains after l) (linkless : t.Linkless) : after.Linkless := by
  intro q target hnode
  rcases eq_or_ne q l with rfl | hq
  · obtain ⟨bytes, hbytes⟩ := h.file
    cases hbytes.symm.trans hnode
  · rcases h.others q hq with heq | ⟨-, hmade⟩
    · exact linkless q target (heq ▸ hnode)
    · cases hmade.symm.trans hnode

/-! ## Paths that led somewhere before -/

variable {links : Nat} {here q : Location} {names : List String} {n : Node}

theorem follows (h : t.Gains after l) (linkless : t.Linkless)
    (hfollows : t.Follows true links here names (.taken q n)) (henters : t.Enters here) :
    ∃ n', after.Follows true links here names (.taken q n') ∧ (q = l ∨ n' = n) := by
  generalize hplace : Place.taken q n = place at hfollows
  induction hfollows with
  | @here _ l' =>
      obtain ⟨rfl, rfl⟩ := Place.taken.inj hplace
      refine ⟨_, .here, Or.inr ?_⟩
      rw [henters.node?_eq, h.directory henters.node?_eq]
  | dot _ ih =>
      obtain ⟨n', h', hn'⟩ := ih henters hplace
      exact ⟨n', .dot h', hn'⟩
  | up _ ih =>
      obtain ⟨n', h', hn'⟩ := ih henters.dropLast hplace
      exact ⟨n', .up h', hn'⟩
  | free | stop => contradiction
  | @file _ l' name bytes hname hnode =>
      obtain ⟨rfl, rfl⟩ := Place.taken.inj hplace
      rcases eq_or_ne (l' ++ [name]) l with heq | hq
      · obtain ⟨new, hnew⟩ := h.file
        exact ⟨_, .file hname (heq ▸ hnew), Or.inl heq⟩
      · exact ⟨_, .file hname (h.node?_eq hnode hq), Or.inr rfl⟩
  | down hname hnode _ ih =>
      obtain ⟨n', h', hn'⟩ := ih (henters.snoc hnode) hplace
      exact ⟨n', .down hname (h.directory hnode) h', hn'⟩
  | through _ hnode => exact absurd hnode (linkless _ _)

end Gains

/-! ## Paths that do not lead up -/

section Down

variable {links : Nat} {here q : Location} {names front tail : List String} {n : Node}
  {place : Place}

/-- Without links and without names that lead up, one comes to what lies below. -/
theorem Follows.prefix_location (hfollows : t.Follows true links here names place)
    (linkless : t.Linkless) (hup : ".." ∉ names) :
    here <+: place.location := by
  induction hfollows with
  | here => exact List.prefix_refl _
  | dot _ ih => exact ih fun hin => hup (List.mem_cons_of_mem _ hin)
  | up => exact absurd List.mem_cons_self hup
  | free | file | stop => exact List.prefix_append _ _
  | down _ _ _ ih =>
      have hbelow := ih fun hin => hup (List.mem_cons_of_mem _ hin)
      exact (List.prefix_append _ _).trans hbelow
  | through _ hnode => exact absurd hnode (linkless _ _)

theorem Follows.location_of_single {name : String}
    (hfollows : t.Follows true links here [name] place) (linkless : t.Linkless)
    (hdot : name ≠ ".") (hup : name ≠ "..") : place.location = here ++ [name] := by
  cases hfollows with
  | dot => contradiction
  | up => contradiction
  | free | file | stop => rfl
  | down _ _ hrest =>
      cases hrest
      rfl
  | through _ hnode => exact absurd hnode (linkless _ _)

theorem Gains.follows_back (h : t.Gains after l) (plain : t.Plain)
    (hfollows : after.Follows true links here names (.taken q n)) (henters : after.Enters here)
    (hup : ".." ∉ names) (hthere : t.node? q = some n) :
    t.Follows true links here names (.taken q n) := by
  have linkless := h.linkless plain.linkless
  generalize hplace : Place.taken q n = place at hfollows ⊢
  induction hfollows with
  | here =>
      obtain ⟨rfl, rfl⟩ := Place.taken.inj hplace
      exact .end hthere
  | dot _ ih =>
      exact .dot (ih henters (fun hin => hup (List.mem_cons_of_mem _ hin)) hplace)
  | up => exact absurd List.mem_cons_self hup
  | free | stop => contradiction
  | file hname hnode =>
      obtain ⟨rfl, rfl⟩ := Place.taken.inj hplace
      exact .file hname hthere
  | @down _ l' name _ _ hname hnode hrest ih =>
      have hrest_up := fun hin => hup (List.mem_cons_of_mem _ hin)
      have hbelow := hrest.prefix_location linkless hrest_up
      rw [← hplace] at hrest hbelow
      have hold : t.node? (l' ++ [name]) = some .directory := by
        rcases eq_or_ne (l' ++ [name]) q with rfl | hne
        · have hlast := (hrest.node?_of_taken (henters.snoc hnode)).1
          rw [hthere, ← hlast, hnode]
        · exact plain.directory_above hthere hbelow hne
      exact .down hname hold (ih (henters.snoc hnode) hrest_up hplace)
  | through _ hnode => exact absurd hnode (linkless _ _)

theorem follow_append (linkless : t.Linkless)
    (hfollows : t.Follows true links here front (.taken q .directory)) (tail : List String) :
    t.follow true links here (front ++ tail) = t.follow true links q tail := by
  generalize hplace : Place.taken q .directory = place at hfollows
  induction hfollows with
  | @here _ l' =>
      obtain ⟨rfl, -⟩ := Place.taken.inj hplace
      rfl
  | dot _ ih =>
      rw [List.cons_append, follow_cons]
      simpa using ih hplace
  | up _ ih =>
      rw [List.cons_append, follow_cons]
      simpa using ih hplace
  | free | stop => contradiction
  | file => cases (Place.taken.inj hplace).2
  | down hname hnode _ ih =>
      rw [List.cons_append, follow_cons]
      simpa [hname.not_here, hname.not_up, hname.short, hnode] using ih hplace
  | through _ hnode => exact absurd hnode (linkless _ _)

theorem follow_of_dot (h : t.follow true links here (names ++ ["."]) = .ok (.taken q .directory)) :
    t.follow true links here names = .ok (.taken q .directory) := by
  induction links using Nat.strongRecOn generalizing here names with
  | ind links ihlinks =>
      induction names generalizing here with
      | nil => simpa [follow_cons] using h
      | cons name rest ih =>
          have hmore : (rest ++ ["."]).isEmpty = false := by simp
          rw [List.cons_append, follow_cons] at h
          rw [follow_cons]
          by_cases hdot : (name == ".") = true
          · rw [if_pos hdot] at h ⊢
            exact ih h
          rw [if_neg hdot] at h ⊢
          by_cases hup : (name == "..") = true
          · rw [if_pos hup] at h ⊢
            exact ih h
          rw [if_neg hup] at h ⊢
          by_cases hlong : maxNameSize < name.utf8ByteSize
          · simp [hlong] at h
          rw [if_neg hlong] at h ⊢
          cases hnode : t.node? (here ++ [name]) with
          | none => simp [hnode] at h
          | some n =>
              cases n with
              | file bytes => simp [hnode] at h
              | directory => exact ih (by simpa [hnode] using h)
              | link target =>
                  cases links with
                  | zero => simp [hnode] at h
                  | succ links =>
                      by_cases htarget : target = ""
                      · simp [hnode, htarget] at h
                      · have hrest : t.follow true links
                            (if Path.isAbsolute target then [] else here) (steps target ++ rest) =
                              .ok (.taken q .directory) :=
                          ihlinks links (Nat.lt_succ_self _) (by simpa [hnode, htarget] using h)
                        simpa [htarget] using hrest

end Down

/-! ## Paths -/

variable {path root : String} {q : Location} {n : Node}

theorem resolve_eq_ok_iff :
    t.resolve cwd path = .ok (q, n) ↔ t.locate true cwd path = .ok (.taken q n) := by
  unfold resolve
  cases t.locate true cwd path with
  | error fault => simp
  | ok place => cases place <;> simp

theorem read_eq_ok_iff {bytes : ByteArray} :
    t.read cwd path = .ok bytes ↔ ∃ q, t.resolve cwd path = .ok (q, .file bytes) := by
  unfold read
  cases t.resolve cwd path with
  | error fault => simp
  | ok found =>
      obtain ⟨q, n⟩ := found
      cases n <;> simp

theorem isDirectory_iff :
    t.isDirectory cwd path = true ↔ ∃ q, t.resolve cwd path = .ok (q, .directory) := by
  unfold isDirectory
  cases t.resolve cwd path with
  | error fault => simp
  | ok found =>
      obtain ⟨q, n⟩ := found
      cases n <;> simp

theorem node?_of_resolve (henters : t.Enters cwd) (h : t.resolve cwd path = .ok (q, n)) :
    t.node? q = some n := by
  obtain ⟨-, -, -, hfollows⟩ := locate_eq_ok_iff.mp (resolve_eq_ok_iff.mp h)
  exact (hfollows.node?_of_taken (henters.start _)).1

namespace Gains

theorem resolve (h : t.Gains after l) (linkless : t.Linkless) (henters : t.Enters cwd)
    (hresolve : t.resolve cwd path = .ok (q, n)) :
    ∃ n', after.resolve cwd path = .ok (q, n') ∧ (q = l ∨ n' = n) := by
  obtain ⟨hnull, hempty, hshort, hfollows⟩ := locate_eq_ok_iff.mp (resolve_eq_ok_iff.mp hresolve)
  obtain ⟨n', hfollows', hn'⟩ := h.follows linkless hfollows (henters.start _)
  exact ⟨n', resolve_eq_ok_iff.mpr (locate_eq_ok_iff.mpr ⟨hnull, hempty, hshort, hfollows'⟩), hn'⟩

theorem resolve_directory (h : t.Gains after l) (linkless : t.Linkless) (henters : t.Enters cwd)
    (hresolve : t.resolve cwd path = .ok (q, .directory)) :
    after.resolve cwd path = .ok (q, .directory) := by
  obtain ⟨n', hafter, rfl | rfl⟩ := h.resolve linkless henters hresolve
  · exact absurd (node?_of_resolve henters hresolve) h.no_directory
  · exact hafter

/-- A path in the project that does not lead up leads nowhere else than before, but to what is
new. -/
theorem resolve_back (h : t.Gains after l) (plain : t.Plain) (henters : t.Enters cwd)
    {top : Location} (hroot : t.resolve cwd root = .ok (top, .directory))
    (hup : ".." ∉ Path.pieces path)
    (hresolve : after.resolve cwd (Path.join root path) = .ok (q, n))
    (hthere : t.node? q = some n) : t.resolve cwd (Path.join root path) = .ok (q, n) := by
  obtain ⟨hnull, hempty, hshort, hfollows⟩ := locate_eq_ok_iff.mp (resolve_eq_ok_iff.mp hresolve)
  suffices hbefore : t.Follows true maxLinks _ (steps (Path.join root path)) (.taken q n) from
    resolve_eq_ok_iff.mpr (locate_eq_ok_iff.mpr ⟨hnull, hempty, hshort, hbefore⟩)
  cases habsolute : Path.isAbsolute path with
  | true =>
      have hjoin : Path.join root path = path := if_pos habsolute
      rw [hjoin] at hfollows ⊢
      refine h.follows_back plain hfollows ((h.enters henters).start _) ?_ hthere
      intro hin
      rcases mem_steps hin with hpiece | hdot
      · exact hup hpiece
      · contradiction
  | false =>
      obtain ⟨-, hnonempty, -, hwhole⟩ := locate_eq_ok_iff.mp (resolve_eq_ok_iff.mp hroot)
      obtain ⟨tail, hsteps, htail⟩ := steps_join root habsolute
      have hne : root ≠ "" := by simpa using hnonempty
      rw [Path.isAbsolute_join hne habsolute, hsteps] at hfollows
      rw [Path.isAbsolute_join hne habsolute, hsteps]
      have hstart := henters.start (Path.isAbsolute root)
      -- Both trees lead to the project root, and on from there.
      have hwords : t.Follows true maxLinks (if Path.isAbsolute root then [] else cwd)
          (Path.words root) (.taken top .directory) := by
        rw [steps_eq] at hwhole
        by_cases hslash : Path.hasEndSlash root = true
        · rw [if_pos hslash] at hwhole
          exact follows_iff.mpr (follow_of_dot (follows_iff.mp hwhole))
        · rwa [if_neg hslash, List.append_nil] at hwhole
      have htop : t.Enters top :=
        plain.enters_of_directory (hwords.node?_of_taken hstart).1
      obtain ⟨n', hwords', rfl | rfl⟩ := h.follows plain.linkless hwords hstart
      · exact absurd htop.node?_eq h.no_directory
      · have linkless := h.linkless plain.linkless
        rw [follows_iff, follow_append linkless hwords', ← follows_iff] at hfollows
        rw [follows_iff, follow_append plain.linkless hwords, ← follows_iff]
        refine h.follows_back plain hfollows (h.enters htop) ?_ hthere
        intro hin
        rcases htail _ hin with hpiece | hdot
        · exact hup hpiece
        · contradiction

end Gains

end SourceContract.FileTree
