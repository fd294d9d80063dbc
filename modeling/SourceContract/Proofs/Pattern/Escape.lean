import SourceContract.Pattern.Search
import SourceContract.Proofs.Pattern.Match

/-!
# Written patterns and what they are read as

A character that has a meaning of its own in patterns stands for itself behind a
backslash, and every other one without.  So a text of any characters can be written in a
pattern and is read as itself, whatever stands in front of it and behind it.

The parts of a pattern are read one after the other.  Only a question mark or a brace
can change what was read before it, so parts that begin with neither are read
independently of each other.
-/

namespace SourceContract.Pattern

open Text Reader

variable {c : Char} {more : List Char} {place place' : Place} {names : List (String × Span)}
  {fuel : Nat} {done : List Tree} {t : Tree}

/-! ## What follows a part -/

/-- What follows cannot change the part before it. -/
def Fresh (written : List Char) : Prop := ∀ c ∈ written.head?, c ≠ '?' ∧ c ≠ '\x7b'

theorem Fresh.append {written : List Char} (h : Fresh written) (h' : Fresh more) :
    Fresh (written ++ more) := by
  cases written with
  | nil => exact h'
  | cons c written => exact h

theorem run_skipBlanks : skipBlanks.run ⟨more, place, false, names⟩ =
    pure ((), ⟨more, place, false, names⟩) := rfl

theorem run_place {k : Cursor} : Reader.place.run k = pure (k.place, k) := rfl

theorem run_peek {k : Cursor} : peek.run k = pure (k.rest.head?, k) := rfl

theorem run_bump : bump.run ⟨c :: more, place, false, names⟩ =
    pure (!more.isEmpty, ⟨more, place.after c, false, names⟩) := rfl

theorem run_spanChar : spanChar.run ⟨c :: more, place, false, names⟩ =
    pure (⟨place, place.after c⟩, ⟨c :: more, place, false, names⟩) := rfl

theorem run_spanFrom : (spanFrom place).run ⟨more, place', false, names⟩ =
    pure (⟨place, place'⟩, ⟨more, place', false, names⟩) := rfl

theorem run_specialBoundary (h : Fresh more) :
    (specialBoundary? place).run ⟨more, place', false, names⟩ =
      pure (none, ⟨more, place', false, names⟩) := by
  have hbrace : (more.head? != some '\x7b') = true := by
    rw [bne_iff_ne]
    exact fun hhead => (h _ hhead).2 rfl
  rw [specialBoundary?]
  simp only [StateT.run_bind, run_peek, pure_bind, hbrace, if_true]
  rfl

theorem run_greedySuffix (h : Fresh more) :
    greedySuffix.run ⟨more, place, false, names⟩ = pure (true, ⟨more, place, false, names⟩) := by
  have hmark : ¬ (more.head? == some '?') = true := by
    rw [beq_iff_eq]
    exact fun hhead => (h _ hhead).1 rfl
  rw [greedySuffix]
  simp only [StateT.run_bind, run_peek, pure_bind, hmark]
  rfl

theorem run_simpleRepetition (ht : t.isRepeatable = true) (h : Fresh more) :
    (simpleRepetition '*' (t :: done)).run ⟨'*' :: more, place, false, names⟩ =
      pure (.repetition ⟨t.span.start, place.after '*'⟩ 0 none true t :: done,
        ⟨more, place.after '*', false, names⟩) := by
  have hoperand : (takeOperand (t :: done)).run ⟨'*' :: more, place, false, names⟩ =
      pure ((t, done), ⟨'*' :: more, place, false, names⟩) := by
    rw [takeOperand, if_pos ht]
    rfl
  rw [simpleRepetition]
  simp only [StateT.run_bind, hoperand, run_bump, pure_bind, run_greedySuffix h]
  rfl

/-! ## One step of a branch -/

def isOperator (c : Char) : Bool := "|()[\x7b?*+".toList.contains c

theorem branch_primitive (hc : isOperator c = false) :
    (branch (fuel + 1) done).run ⟨c :: more, place, false, names⟩ =
      (primitive c >>= fun t => branch fuel (t :: done)).run ⟨c :: more, place, false, names⟩ := by
  simp [isOperator] at hc
  rw [branch]
  simp only [StateT.run_bind, run_skipBlanks, run_peek, pure_bind, List.head?_cons]
  split <;> simp_all

theorem branch_escape {rest : List Char}
    (h : escape.run ⟨'\\' :: more, place, false, names⟩ =
      pure (t, ⟨rest, place', false, names⟩)) :
    (branch (fuel + 1) done).run ⟨'\\' :: more, place, false, names⟩ =
      (branch fuel (t :: done)).run ⟨rest, place', false, names⟩ := by
  have hprimitive : (primitive '\\').run ⟨'\\' :: more, place, false, names⟩ =
      pure (t, ⟨rest, place', false, names⟩) := by
    unfold primitive
    simp only [StateT.run_bind, run_spanChar, pure_bind, h]
  rw [branch_primitive (by decide), StateT.run_bind, hprimitive]
  rfl

theorem branch_star (ht : t.isRepeatable = true) (h : Fresh more) :
    (branch (fuel + 1) (t :: done)).run ⟨'*' :: more, place, false, names⟩ =
      (branch fuel (.repetition ⟨t.span.start, place.after '*'⟩ 0 none true t :: done)).run
        ⟨more, place.after '*', false, names⟩ := by
  have hbranch : (branch (fuel + 1) (t :: done)).run ⟨'*' :: more, place, false, names⟩ =
      (simpleRepetition '*' (t :: done) >>= branch fuel).run
        ⟨'*' :: more, place, false, names⟩ := rfl
  rw [hbranch, StateT.run_bind, run_simpleRepetition ht h]
  rfl

theorem branch_plain (hc : isMeta c = false) :
    (branch (fuel + 1) done).run ⟨c :: more, place, false, names⟩ =
      (branch fuel (.literal ⟨⟨place, place.after c⟩, c, false⟩ :: done)).run
        ⟨more, place.after c, false, names⟩ := by
  simp [isMeta] at hc
  rw [branch_primitive (by simp_all [isOperator])]
  unfold primitive
  split
  case h_5 => rfl
  all_goals simp_all

theorem branch_nil : (branch (fuel + 1) done).run ⟨[], place, false, names⟩ =
    pure (done, ⟨[], place, false, names⟩) := by
  rw [branch]
  rfl

/-! ## Parts -/

def Tree.IsShallow (tree : Tree) : Prop := ∀ room, tree.checkDepth (room + 1) = .ok ()

theorem Tree.checkDepths_of_shallow {trees : List Tree} (h : ∀ tree ∈ trees, tree.IsShallow)
    (room : Nat) : Tree.checkDepths (room + 1) trees = .ok () := by
  induction trees with
  | nil => rfl
  | cons tree rest ih =>
      rw [Tree.checkDepths, h tree List.mem_cons_self]
      exact ih fun tree htree => h tree (List.mem_cons_of_mem _ htree)

def Tree.row (span : Span) (trees : List Tree) : Tree := .alternation span [.concat span trees]

theorem Tree.checkDepth_row {span : Span} {trees : List Tree}
    (h : ∀ tree ∈ trees, tree.IsShallow) : (row span trees).checkDepth nestLimit = .ok () := by
  have hparts : Tree.checkDepth nestLimit (.concat span trees) = .ok () := by
    rw [Tree.checkDepth]
    split
    · exact Tree.checkDepths_of_shallow h 249
    · exact Tree.checkDepths_of_shallow h 248
  have hchoice : Tree.checkDepths nestLimit [.concat span trees] = .ok () := by
    rw [Tree.checkDepths, hparts]
    rfl
  rw [row, Tree.checkDepth]
  exact hchoice

theorem Tree.meaning_row {span : Span} {trees : List Tree} {rs : List Regex}
    (h : Tree.meanings {} trees = .ok (rs, {})) :
    (row span trees).meaning {} = .ok (Regex.ofList rs, {}) := by
  have hconcat : Tree.meaning {} (.concat span trees) = .ok (Regex.ofList rs, {}) := by
    rw [Tree.meaning, h]
    rfl
  have hmeanings : Tree.meanings {} [.concat span trees] = .ok ([Regex.ofList rs], {}) := by
    rw [Tree.meanings, hconcat]
    rfl
  rw [row, Tree.meaning, hmeanings]
  rfl

/-- Between parts of a pattern, the text is read as trees that mean the expressions. -/
structure ReadsAs (written : List Char) (rs : List Regex) : Prop where
  fresh : Fresh written
  reads : ∀ (more : List Char) (place : Place) (names : List (String × Span)) (done : List Tree),
    Fresh more → ∃ n place' trees, n ≤ written.length ∧ Tree.meanings {} trees = .ok (rs, {}) ∧
      (∀ tree ∈ trees, tree.IsShallow) ∧
      ∀ fuel, (branch (fuel + n) done).run ⟨written ++ more, place, false, names⟩ =
        (branch fuel (trees.reverse ++ done)).run ⟨more, place', false, names⟩

theorem Tree.meanings_append {m m' m'' : Mode} {ts us : List Tree} {rs ss : List Regex}
    (h : Tree.meanings m ts = .ok (rs, m')) (h' : Tree.meanings m' us = .ok (ss, m'')) :
    Tree.meanings m (ts ++ us) = .ok (rs ++ ss, m'') := by
  induction ts generalizing m rs with
  | nil =>
      obtain ⟨rfl, rfl⟩ : [] = rs ∧ m = m' := by simpa [Tree.meanings] using h
      exact h'
  | cons t ts ih =>
      rw [Tree.meanings] at h
      cases ht : t.meaning m with
      | error fault => simp [ht, bind, Except.bind] at h
      | ok first =>
          obtain ⟨r, between⟩ := first
          cases hts : Tree.meanings between ts with
          | error fault => simp [ht, hts, bind, Except.bind] at h
          | ok rest =>
              obtain ⟨rest, after⟩ := rest
              obtain ⟨rfl, rfl⟩ : r :: rest = rs ∧ after = m' := by
                simpa [ht, hts, bind, Except.bind, pure, Except.pure] using h
              rw [List.cons_append, Tree.meanings, ht]
              simp only [bind, Except.bind, ih hts]
              rfl

namespace ReadsAs

variable {written written' : List Char} {rs rs' : List Regex}

theorem nil : ReadsAs [] [] where
  fresh := by simp [Fresh]
  reads more place names done _ := ⟨0, place, [], Nat.le_refl _, rfl, by simp, fun _ => rfl⟩

theorem append (h : ReadsAs written rs) (h' : ReadsAs written' rs') :
    ReadsAs (written ++ written') (rs ++ rs') where
  fresh := h.fresh.append h'.fresh
  reads more place names done hmore := by
    obtain ⟨n, between, trees, hn, hmeaning, hshallow, hread⟩ :=
      h.reads (written' ++ more) place names done (h'.fresh.append hmore)
    obtain ⟨n', place', trees', hn', hmeaning', hshallow', hread'⟩ :=
      h'.reads more between names (trees.reverse ++ done) hmore
    refine ⟨n' + n, place', trees ++ trees', ?_, Tree.meanings_append hmeaning hmeaning',
      List.forall_mem_append.mpr ⟨hshallow, hshallow'⟩, fun fuel => ?_⟩
    · rw [List.length_append]
      omega
    · rw [List.append_assoc, ← Nat.add_assoc, hread, hread', List.reverse_append, List.append_assoc]

theorem single {r : Regex} {n : Nat} (hfresh : Fresh written) (hn : n ≤ written.length)
    (hreads : ∀ more place names done, Fresh more → ∃ place' tree,
      Tree.meaning {} tree = .ok (r, {}) ∧ tree.IsShallow ∧
        ∀ fuel, (branch (fuel + n) done).run ⟨written ++ more, place, false, names⟩ =
          (branch fuel (tree :: done)).run ⟨more, place', false, names⟩) :
    ReadsAs written [r] where
  fresh := hfresh
  reads more place names done hmore := by
    obtain ⟨place', tree, hmeaning, hshallow, hread⟩ := hreads more place names done hmore
    refine ⟨n, place', [tree], hn, ?_, by simpa using hshallow, hread⟩
    rw [Tree.meanings, hmeaning]
    rfl

/-- A pattern that is read part by part is read as one sequence. -/
theorem exists_row (h : ReadsAs written rs) :
    ∃ span trees, Tree.ofText (String.ofList written) = .ok (Tree.row span trees) ∧
      Tree.meanings {} trees = .ok (rs, {}) ∧ ∀ tree ∈ trees, tree.IsShallow := by
  obtain ⟨n, place', trees, hn, hmeaning, hshallow, hread⟩ :=
    h.reads [] Place.first [] [] (by simp [Fresh])
  refine ⟨⟨Place.first, place'⟩, trees, ?_, hmeaning, hshallow⟩
  obtain ⟨rounds, hrounds⟩ : ∃ rounds, 4 * (written.length + 1) = rounds + 1 + n + 1 :=
    ⟨4 * (written.length + 1) - n - 2, by omega⟩
  have hbranch := hread (rounds + 1)
  rw [List.append_nil, List.append_nil, branch_nil] at hbranch
  have hbranches : (branches (4 * (written.length + 1))).run ⟨written, Place.first, false, []⟩ =
      .ok ([.concat ⟨Place.first, place'⟩ trees], ⟨[], place', false, []⟩) := by
    rw [hrounds, branches, StateT.run_bind, run_place, pure_bind, StateT.run_bind, hbranch,
      pure_bind, List.reverse_reverse]
    rfl
  have hsteps : steps.run ⟨written, Place.first, false, []⟩ =
      pure (written.length + 1, ⟨written, Place.first, false, []⟩) := rfl
  rw [Tree.ofText, Cursor.start, String.toList_ofList, whole, StateT.run_bind, run_place, pure_bind,
    StateT.run_bind, hsteps, pure_bind, StateT.run_bind, hbranches]
  rfl

theorem ofText (h : ReadsAs written rs) :
    Regex.ofText (String.ofList written) = .ok (Regex.ofList rs) := by
  obtain ⟨span, trees, htree, hmeaning, hshallow⟩ := h.exists_row
  rw [Regex.ofText, htree]
  simp only [bind, Except.bind, Tree.checkDepth_row hshallow, Tree.meaning_row hmeaning]
  rfl

/-! ## Characters, boundaries and classes -/

theorem plainChar (hc : isMeta c = false) : ReadsAs [c] [.set (CharSet.singleton c)] := by
  have hfresh : Fresh [c] := by
    simp [isMeta] at hc
    simp [Fresh, hc]
  exact single (n := 1) hfresh (Nat.le_refl _) fun more place names done _ =>
    ⟨_, .literal ⟨⟨place, place.after c⟩, c, false⟩, rfl, fun _ => rfl, fun fuel => branch_plain hc⟩

theorem metaChar (hc : isMeta c = true) : ReadsAs ['\\', c] [.set (CharSet.singleton c)] := by
  refine single (n := 1) (by simp [Fresh]) (by simp) fun more place names done _ => ?_
  have hmem : c ∈ "\\.+*?()|[]\x7b\x7d^$#&-~".toList := by simpa [isMeta] using hc
  simp at hmem
  obtain rfl | rfl | rfl | rfl | rfl | rfl | rfl | rfl | rfl | rfl | rfl | rfl | rfl | rfl | rfl |
    rfl | rfl | rfl := hmem
  all_goals exact ⟨_, _, rfl, fun _ => rfl, fun _ => rfl⟩

theorem wordBoundary : ReadsAs ['\\', 'b'] [.look (.boundary true)] := by
  refine single (n := 1) (by simp [Fresh]) (by simp) fun more place names done hmore => ?_
  have hescape : escape.run ⟨'\\' :: 'b' :: more, place, false, names⟩ =
      (shortEscape place 'b').run ⟨'b' :: more, place.after '\\', false, names⟩ := rfl
  have hletter : (isMeta 'b' || isEscapable 'b') = false := by decide
  rw [shortEscape] at hescape
  simp only [StateT.run_bind, run_bump, run_spanFrom, pure_bind, hletter, Bool.false_eq_true,
    if_false, run_specialBoundary hmore, StateT.run_pure] at hescape
  exact ⟨_, .assertion _ .wordBoundary, rfl, fun _ => rfl, fun fuel => branch_escape hescape⟩

theorem starred {letter : Char} {kind : Shorthand}
    (hescape : ∀ more place names, ∃ span,
      escape.run ⟨'\\' :: letter :: more, place, false, names⟩ =
        pure (.shorthand span kind false,
          ⟨more, (place.after '\\').after letter, false, names⟩)) :
    ReadsAs ['\\', letter, '*'] [.repetition 0 none true (.set (shorthandSet true kind))] := by
  refine single (n := 2) (by simp [Fresh]) (by simp) fun more place names done hmore => ?_
  obtain ⟨span, hclass⟩ := hescape ('*' :: more) place names
  refine ⟨_, .repetition _ 0 none true (.shorthand span kind false), by cases kind <;> rfl,
    fun _ => rfl, fun fuel => (branch_escape hclass).trans (branch_star rfl hmore)⟩

theorem words : ReadsAs ['\\', 'w', '*'] [.repetition 0 none true (.set wordChars)] :=
  @starred 'w' .word fun _ _ _ => ⟨_, rfl⟩

theorem spaces : ReadsAs ['\\', 's', '*'] [.repetition 0 none true (.set Text.spaces)] :=
  @starred 's' .space fun _ _ _ => ⟨_, rfl⟩

end ReadsAs

/-! ## Texts -/

def escapedChar (c : Char) : List Char := if isMeta c then ['\\', c] else [c]

def escaped (text : List Char) : List Char := text.flatMap escapedChar

theorem readsAs_escaped (text : List Char) :
    ReadsAs (escaped text) (Regex.chars text) := by
  induction text with
  | nil => exact .nil
  | cons c text ih =>
      have hchar : ReadsAs (escapedChar c) [.set (CharSet.singleton c)] := by
        unfold escapedChar
        split
        next hc => exact .metaChar hc
        next hc => exact .plainChar (by simpa using hc)
      exact hchar.append ih

end SourceContract.Pattern
