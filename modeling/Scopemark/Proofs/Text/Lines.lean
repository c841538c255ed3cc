import Scopemark.Text.Lines

namespace Scopemark.Text

variable {line cs rest : List Char} {rows : List (List Char)}

structure OneLine (cs : List Char) : Prop where
  noFeed : '\n' ∉ cs
  noReturn : cs.getLast? ≠ some '\r'

theorem linesFrom_append (h : '\n' ∉ cs) :
    linesFrom line (cs ++ rest) = linesFrom (cs.reverse ++ line) rest := by
  induction cs generalizing line with
  | nil => rfl
  | cons c cs ih =>
      obtain ⟨hc, hcs⟩ := not_or.mp (mt List.mem_cons.mpr h)
      have hstep : linesFrom line (c :: (cs ++ rest)) = linesFrom (c :: line) (cs ++ rest) :=
        if_neg (Ne.symm hc)
      rw [List.cons_append, hstep, ih hcs, List.reverse_cons, List.append_assoc]
      rfl

theorem OneLine.lines_append (h : OneLine cs) : lines (cs ++ '\n' :: rest) = cs :: lines rest := by
  rw [lines, linesFrom_append h.noFeed, List.append_nil, linesFrom, if_pos rfl, List.reverse_reverse,
    lines]
  intro line hline
  apply h.noReturn
  rw [← List.reverse_reverse cs, hline, List.reverse_cons, List.getLast?_concat]

theorem lines_append_return (h : '\n' ∉ cs) : lines (cs ++ '\r' :: '\n' :: rest) = cs :: lines rest := by
  have hstep : linesFrom cs.reverse ('\r' :: '\n' :: rest) = cs.reverse.reverse :: lines rest := rfl
  rw [lines, linesFrom_append h, List.append_nil, hstep, List.reverse_reverse]

theorem lines_of_ne_nil (h : '\n' ∉ cs) (hne : cs ≠ []) : lines cs = [cs] := by
  have hlines : lines (cs ++ []) = linesFrom (cs.reverse ++ []) [] := linesFrom_append h
  rw [List.append_nil, List.append_nil] at hlines
  rw [hlines, linesFrom, if_neg (by simpa using hne), List.reverse_reverse]

theorem linesFrom_append_feed : linesFrom line (cs ++ '\n' :: rest) =
    linesFrom line (cs ++ ['\n']) ++ lines rest := by
  induction cs generalizing line with
  | nil => rfl
  | cons c cs ih =>
      by_cases hc : c = '\n'
      · subst hc
        exact congrArg (_ :: ·) ih
      · have hstep (rest : List Char) : linesFrom line (c :: rest) = linesFrom (c :: line) rest :=
          if_neg hc
        rw [List.cons_append, List.cons_append, hstep, hstep, ih]

/-- Text that ends with a line feed, or that is empty, shares no line with what comes behind it. -/
theorem lines_append (h : cs = [] ∨ cs.getLast? = some '\n') :
    lines (cs ++ rest) = lines cs ++ lines rest := by
  rcases h with rfl | hlast
  · rfl
  · obtain ⟨init, rfl⟩ := List.getLast?_eq_some_iff.mp hlast
    rw [List.append_assoc]
    exact linesFrom_append_feed

theorem exists_lines_feed (h : '\n' ∉ cs) : ∃ line, lines (cs ++ ['\n']) = [line] := by
  rw [lines, linesFrom_append h]
  exact ⟨_, rfl⟩

/-- Text can be cut between two of its lines. -/
theorem exists_cut (cs : List Char) {n : Nat} (hn : n ≤ (lines cs).length) :
    ∃ front behind, cs = front ++ behind ∧ lines front = (lines cs).take n ∧
      lines behind = (lines cs).drop n := by
  induction n generalizing cs with
  | zero => exact ⟨[], cs, rfl, rfl, rfl⟩
  | succ n ih =>
      by_cases hfeed : '\n' ∈ cs
      · obtain ⟨first, rest, rfl, hfirst⟩ := List.eq_append_cons_of_mem hfeed
        obtain ⟨line, hline⟩ := exists_lines_feed hfirst
        have hlines (rest : List Char) : lines (first ++ '\n' :: rest) = line :: lines rest := by
          rw [lines, linesFrom_append_feed, ← lines, hline, List.singleton_append]
        rw [hlines, List.length_cons] at hn
        obtain ⟨front, behind, rfl, hfront, hbehind⟩ := ih rest (Nat.le_of_succ_le_succ hn)
        refine ⟨first ++ '\n' :: front, behind, by simp, ?_, ?_⟩
        · rw [hlines, hlines, hfront, List.take_succ_cons]
        · rw [hlines, hbehind, List.drop_succ_cons]
      · have hne : cs ≠ [] := by
          rintro rfl
          exact Nat.not_succ_le_zero n hn
        refine ⟨cs, [], (List.append_nil cs).symm, ?_, ?_⟩
        · rw [lines_of_ne_nil hfeed hne, List.take_succ_cons, List.take_nil]
        · rw [lines_of_ne_nil hfeed hne, List.drop_succ_cons, List.drop_nil]
          rfl

theorem lines_flatMap (h : ∀ row ∈ rows, OneLine row) :
    lines (rows.flatMap fun row => row ++ ['\n']) = rows := by
  induction rows with
  | nil => rfl
  | cons row rows ih =>
      obtain ⟨hrow, hrows⟩ := List.forall_mem_cons.mp h
      rw [List.flatMap_cons, List.append_assoc, List.singleton_append, hrow.lines_append, ih hrows]

/-- The text is made of these lines. Each of them ends with a line feed, which may have a carriage return
in front, and the last one may do without an end if it is not empty. -/
inductive Ended : List (List Char) → List Char → Prop
  | nil : Ended [] []
  | feed {line cs : List Char} {rows : List (List Char)} (rest : Ended rows cs) :
      Ended (line :: rows) (line ++ '\n' :: cs)
  | returnFeed {line cs : List Char} {rows : List (List Char)} (rest : Ended rows cs) :
      Ended (line :: rows) (line ++ '\r' :: '\n' :: cs)
  | bare {line : List Char} (nonempty : line ≠ []) : Ended [line] line

theorem Ended.lines_eq (h : Ended rows cs) (hrows : ∀ row ∈ rows, OneLine row) : lines cs = rows := by
  induction h with
  | nil => rfl
  | feed _ ih =>
      obtain ⟨hline, hrows⟩ := List.forall_mem_cons.mp hrows
      rw [hline.lines_append, ih hrows]
  | returnFeed _ ih =>
      obtain ⟨hline, hrows⟩ := List.forall_mem_cons.mp hrows
      rw [lines_append_return hline.noFeed, ih hrows]
  | bare hne => exact lines_of_ne_nil (hrows _ List.mem_cons_self).noFeed hne

end Scopemark.Text
