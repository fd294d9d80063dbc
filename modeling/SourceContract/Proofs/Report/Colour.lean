import SourceContract.Report.Console

/-!
# What is seen of a styled text

A terminal takes the escape sequences that set a style out of a text and shows the
rest.  Styles are put around texts that are padded already, so what is seen of a report
in colour is the report without colour, its columns included, as long as the report
itself brings no escape character along.
-/

namespace SourceContract.Console

/-! ## Sequences that set a style -/

def isParameter (c : Char) : Bool := c.isDigit || c == ';'

def styleLength : List Char → Nat
  | '\x1b' :: '[' :: rest =>
      match rest.dropWhile isParameter with
      | 'm' :: _ => (rest.takeWhile isParameter).length + 3
      | _ => 0
  | _ => 0

def seenAfter : Nat → List Char → List Char
  | _, [] => []
  | n + 1, _ :: rest => seenAfter n rest
  | 0, c :: rest =>
      match styleLength (c :: rest) with
      | 0 => c :: seenAfter 0 rest
      | n + 1 => seenAfter n rest

/-- A text without the sequences that set a style. -/
def seen (s : String) : String := String.ofList (seenAfter 0 s.toList)

theorem seenAfter_length (cs rest : List Char) :
    seenAfter cs.length (cs ++ rest) = seenAfter 0 rest := by
  induction cs with
  | nil => rfl
  | cons c cs ih => exact ih

theorem styleLength_of_ne {c : Char} (h : c ≠ '\x1b') (rest : List Char) :
    styleLength (c :: rest) = 0 := by
  unfold styleLength
  split
  next heq => exact absurd (List.cons.inj heq).1 h
  next => rfl

theorem styleLength_style {parameters : List Char} (h : ∀ c ∈ parameters, isParameter c = true)
    (rest : List Char) :
    styleLength ('\x1b' :: '[' :: (parameters ++ 'm' :: rest)) = parameters.length + 3 := by
  have hend : isParameter 'm' = false := by decide
  have htake : (parameters ++ 'm' :: rest).takeWhile isParameter = parameters := by
    rw [List.takeWhile_append_of_pos h, List.takeWhile_cons_of_neg (by simp [hend]),
      List.append_nil]
  have hdrop : (parameters ++ 'm' :: rest).dropWhile isParameter = 'm' :: rest := by
    rw [List.dropWhile_append_of_pos h, List.dropWhile_cons_of_neg (by simp [hend])]
  simp only [styleLength, hdrop, htake]

/-! ## What a text shows wherever it stands -/

/-- What is seen of the text `written`, whatever stands behind it. -/
def Shows (written shown : String) : Prop :=
  ∀ rest, seenAfter 0 (written.toList ++ rest) = shown.toList ++ seenAfter 0 rest

namespace Shows

variable {written written' shown shown' : String}

theorem seen_eq (h : Shows written shown) : seen written = shown := by
  have hend := h []
  simp only [List.append_nil, seenAfter] at hend
  rw [seen, hend, String.ofList_toList]

theorem append (h : Shows written shown) (h' : Shows written' shown') :
    Shows (written ++ written') (shown ++ shown') := by
  intro rest
  rw [String.toList_append, List.append_assoc, h, h', String.toList_append, List.append_assoc]

theorem of_no_escape {s : String} (h : '\x1b' ∉ s.toList) : Shows s s := by
  intro rest
  generalize s.toList = cs at h ⊢
  induction cs with
  | nil => rfl
  | cons c cs ih =>
      obtain ⟨hc, hcs⟩ := List.ne_and_not_mem_of_not_mem_cons h
      rw [List.cons_append, seenAfter, styleLength_of_ne hc.symm]
      exact congrArg (c :: ·) (ih hcs)

theorem before (h : '\x1b' ∉ shown.toList → Shows written shown) (text : String)
    (hplain : '\x1b' ∉ (shown ++ text).toList) : Shows (written ++ text) (shown ++ text) := by
  rw [String.toList_append, List.mem_append, not_or] at hplain
  exact (h hplain.1).append (of_no_escape hplain.2)

theorem codeText {code : String} (h : code.toList.all isParameter = true) :
    Shows (codeText code) "" := by
  intro rest
  have hwritten : (Console.codeText code).toList ++ rest =
      '\x1b' :: '[' :: (code.toList ++ 'm' :: rest) := by simp [Console.codeText]
  rw [hwritten, seenAfter, styleLength_style (List.all_eq_true.mp h)]
  simpa using seenAfter_length ('[' :: code.toList ++ ['m']) rest

theorem join {α : Type} {write plain : α → String}
    (h : ∀ x, '\x1b' ∉ (plain x).toList → Shows (write x) (plain x)) (xs : List α)
    (hplain : '\x1b' ∉ (String.join (xs.map plain)).toList) :
    Shows (String.join (xs.map write)) (String.join (xs.map plain)) := by
  induction xs with
  | nil => exact fun rest => rfl
  | cons x xs ih =>
      simp only [List.map_cons, String.join_cons, String.toList_append, List.mem_append,
        not_or] at hplain ⊢
      exact (h x hplain.1).append (ih hplain.2)

end Shows

/-! ## The report in colour -/

theorem isParameter_code {style : Style} {code : String} (h : style.code = some code) :
    code.toList.all isParameter = true := by
  cases style <;> cases h <;> decide

theorem resume_eq_self (start : List Char) {cs : List Char} (h : '\x1b' ∉ cs) :
    resume start cs = cs := by
  induction cs with
  | nil => rfl
  | cons c cs ih =>
      obtain ⟨hc, hcs⟩ := List.ne_and_not_mem_of_not_mem_cons h
      rw [resume, ih hcs]
      intro rest heq
      exact absurd heq.symm hc

theorem Span.write_false (s : Span) : s.write false = s.text := rfl

theorem Span.shows (s : Span) (h : '\x1b' ∉ (s.write false).toList) :
    Shows (s.write true) (s.write false) := by
  rw [Span.write_false] at h ⊢
  unfold Span.write
  split
  next code _ hcode =>
      have hstart : Shows (codeText code) "" := .codeText (isParameter_code hcode)
      have hend : Shows (codeText "0") "" := .codeText (by decide)
      dsimp only
      rw [resume_eq_self _ h, String.ofList_toList]
      simpa using (hstart.append (.of_no_escape h)).append hend
  next => exact .of_no_escape h

theorem escape_mem_render_iff {version : String} {r : RunReport} {c : Contract} {root : String} :
    '\x1b' ∈ (render false version r c root).toList ↔
      ∃ l ∈ lines version r c root, ∃ s ∈ l, '\x1b' ∈ s.text.toList := by
  simp only [render, Line.write, String.toList_join, List.flatMap_map, List.mem_flatMap,
    String.toList_append, List.mem_append]
  simp [Span.write_false]

theorem Line.shows (l : Line) (h : '\x1b' ∉ (l.write false).toList) :
    Shows (l.write true) (l.write false) :=
  Shows.join Span.shows l h

theorem shows_render {version : String} {r : RunReport} {c : Contract} {root : String}
    (h : '\x1b' ∉ (render false version r c root).toList) :
    Shows (render true version r c root) (render false version r c root) :=
  Shows.join (fun l => Shows.before l.shows "\n") (lines version r c root) h

end SourceContract.Console
