import Scopemark.Proofs.Fixture.Flaws
import Scopemark.Proofs.Text.Offsets

namespace Scopemark.Fixture

open Text

variable {α β ε : Type} {front text rest row target : List Char} {column pos : Nat} {mark : Mark}
  {runs : List ColumnSpan} {token : List Char}

def minus? (a b : Nat) : Option Nat := if b ≤ a then some (a - b) else none

def sliceFrom? (cs : List Char) (pos : Nat) : Option (List Char) :=
  if pos ≤ cs.length then some (cs.drop pos) else none

def span? (start stop : Nat) : Option ColumnSpan :=
  if h : start ≤ stop then some ⟨start, stop, h⟩ else none

def width? (span : ColumnSpan) : Option Nat := (minus? span.stop span.start).map (· + 1)

/-- A result that was reached by no step that can go wrong. -/
def sure (r : Except ε α) : ExceptT ε Option α := ExceptT.mk (some r)

theorem sure_ok_bind (a : α) (f : α → ExceptT ε Option β) : sure (.ok a) >>= f = f a := rfl

theorem lift_bind (a : α) (f : α → ExceptT ε Option β) :
    (liftM (some a) : ExceptT ε Option α) >>= f = f a := rfl

theorem sure_error_bind (e : ε) (f : α → ExceptT ε Option β) : sure (.error e) >>= f = sure (.error e) :=
  rfl

theorem sure_bind {r : Except ε α} {f : α → ExceptT ε Option β} {g : α → Except ε β}
    (h : ∀ a, f a = sure (g a)) : sure r >>= f = sure (r >>= g) := by
  cases r with
  | error e => rfl
  | ok a => exact h a

/-- A run takes up columns, so that less of the line is left behind it. -/
theorem left_lt_of_run {stop gap : Nat} {run : ColumnSpan} (hrun : minus? stop 1 >>= span? pos = some run)
    (hnext : row[stop + gap]? = some '^') : row.length - (stop + gap) < row.length - pos := by
  obtain ⟨last, hlast, hspan⟩ := Option.bind_eq_some_iff.mp hrun
  obtain ⟨hstop, heq⟩ := Option.ite_none_right_eq_some.mp hlast
  cases heq
  obtain ⟨hle, -⟩ := Option.dite_none_right_eq_some.mp hspan
  obtain ⟨hlt, -⟩ := List.getElem?_eq_some_iff.mp hnext
  omega

theorem minus?_add (a b : Nat) : minus? (a + b) b = some a := by
  rw [minus?, if_pos (Nat.le_add_left b a), Nat.add_sub_cancel]

theorem sliceFrom?_of_eq (front : List Char) (hrow : row = front ++ rest) (hpos : front.length = pos) :
    sliceFrom? row pos = some rest := by
  subst hrow hpos
  rw [sliceFrom?, if_pos (by simp), List.drop_left]

theorem span?_add (start more : Nat) :
    span? start (start + more) = some ⟨start, start + more, Nat.le_add_right start more⟩ :=
  dif_pos (Nat.le_add_right start more)

theorem width?_eq (span : ColumnSpan) : width? span = some span.width := by
  rw [width?, minus?, if_pos span.le]
  rfl

/-- A mark before it is set against a line, with all dashes of an arrow counted. -/
inductive RawMark
  | carets (runs : List ColumnSpan)
  | arrow (offset width : Nat)

def countRun (row : List Char) (pos : Nat) (c : Char) : Nat :=
  match sliceFrom? row pos with
  | none => 0
  | some rest => (rest.takeWhile (· == c)).length

def caretsAt? (row : List Char) (pos : Nat) : Option (List ColumnSpan × Nat) :=
  let stop := pos + countRun row pos '^'
  match hrun : minus? stop 1 >>= span? pos with
  | none => none
  | some run => do
    let rest ← sliceFrom? row stop
    let gap := (rest.takeWhile isBlank).length
    if hnext : row[stop + gap]? = some '^' then
      have := left_lt_of_run hrun hnext
      let (runs, stop) ← caretsAt? row (stop + gap)
      return (run :: runs, stop)
    else return ([run], stop)
termination_by row.length - pos

theorem countRun_of_eq {c : Char} {k : Nat} (front : List Char)
    (hrow : row = front ++ (List.replicate k c ++ rest)) (hpos : front.length = pos)
    (h : rest.head? ≠ some c) : countRun row pos c = k := by
  have htake : (List.replicate k c ++ rest).takeWhile (· == c) = List.replicate k c :=
    takeWhile_append_of_stop (fun _ => beq_of_mem_replicate) (beq_of_head?_ne h)
  rw [countRun, sliceFrom?_of_eq front hrow hpos]
  dsimp only
  rw [htake, List.length_replicate]

theorem getElem?_length_append (front back : List Char) : (front ++ back)[front.length]? = back.head? := by
  rw [List.getElem?_append_right (Nat.le_refl _), Nat.sub_self, List.head?_eq_getElem?]

/-- One run, the white space behind it, and what follows: it is another run or it is not. -/
theorem caretsAt?_run {more : Nat} {gap : List Char}
    (hrow : row = front ++ (List.replicate (more + 1) '^' ++ (gap ++ text))) (hgap : Blanks gap)
    (htext : ∀ c ∈ text.head?, isBlank c = false) (hstop : (gap ++ text).head? ≠ some '^') :
    caretsAt? row front.length =
      if text.head? = some '^' then
        (caretsAt? row (front.length + more + 1 + gap.length)).map fun p =>
          (⟨front.length, front.length + more, Nat.le_add_right _ more⟩ :: p.1, p.2)
      else some ([⟨front.length, front.length + more, Nat.le_add_right _ more⟩],
        front.length + more + 1) := by
  have hrun : minus? (front.length + more + 1) 1 >>= span? front.length =
      some ⟨front.length, front.length + more, Nat.le_add_right _ more⟩ := by
    rw [minus?_add]
    exact span?_add _ _
  have hrest : sliceFrom? row (front.length + more + 1) = some (gap ++ text) :=
    sliceFrom?_of_eq (front ++ List.replicate (more + 1) '^') (by simp [hrow])
      (by simp [Nat.add_assoc])
  have hnext : row[front.length + more + 1 + gap.length]? = text.head? := by
    have hpassed := getElem?_length_append (front ++ (List.replicate (more + 1) '^' ++ gap)) text
    simpa [hrow, Nat.add_assoc] using hpassed
  rw [caretsAt?, countRun_of_eq front hrow rfl hstop, ← Nat.add_assoc]
  split
  next hnone =>
    rw [hrun] at hnone
    cases hnone
  next run hsome =>
    obtain rfl := Option.some.inj (hrun.symm.trans hsome)
    simp only [hrest, Option.bind_eq_bind, Option.bind_some, takeWhile_append_of_stop hgap htext, hnext]
    split
    · cases caretsAt? row _ <;> rfl
    · rfl

theorem head?_trimStart (cs : List Char) : ∀ c ∈ (trimStart cs).head?, isBlank c = false := by
  by_cases hnil : trimStart cs = []
  · rw [hnil]
    exact nofun
  · exact (solid_trimStart hnil).head?

theorem head?_append_ne_of_blanks {gap : List Char} (hgap : Blanks gap) (hne : gap ≠ []) :
    (gap ++ text).head? ≠ some '^' := by
  rw [List.head?_append_of_ne_nil _ hne]
  intro hhead
  exact absurd (hgap _ (List.mem_of_mem_head? hhead)) (by decide)

theorem head?_ne_of_ends (ends : ∀ gap behind, Blanks gap → rest ≠ gap ++ '^' :: behind) :
    rest.head? ≠ some '^' ∧ (trimStart rest).head? ≠ some '^' := by
  have hends {gap behind : List Char} (hgap : Blanks gap) (hrest : rest = gap ++ behind) :
      behind.head? ≠ some '^' := by
    intro hhead
    obtain ⟨behind, rfl⟩ := List.head?_eq_some_iff.mp hhead
    exact ends gap behind hgap hrest
  obtain ⟨gap, hgap, hrest⟩ := exists_trimStart rest
  exact ⟨hends (List.forall_mem_nil _) rfl, hends hgap hrest⟩

theorem Carets.caretsAt? (h : Carets column text runs rest) (hrow : row = front ++ text)
    (hfront : front.length = column) :
    ∃ stop, Fixture.caretsAt? row column = some (runs, stop) ∧ sliceFrom? row stop = some rest := by
  induction h generalizing front with
  | @last column more rest ends =>
      subst hfront
      obtain ⟨gap, hgap, hrest⟩ := exists_trimStart rest
      obtain ⟨hstop, hnext⟩ := head?_ne_of_ends ends
      refine ⟨front.length + more + 1, ?_, ?_⟩
      · rw [caretsAt?_run (by rw [hrow, ← hrest]) hgap (head?_trimStart rest) (hrest ▸ hstop),
          if_neg hnext]
      · exact sliceFrom?_of_eq (front ++ List.replicate (more + 1) '^') (by simp [hrow])
          (by simp [Nat.add_assoc])
  | @next column more gap text rest runs blanks apart others ih =>
      subst hfront
      obtain ⟨stop, hothers, hslice⟩ := @ih (front ++ (List.replicate (more + 1) '^' ++ gap))
        (by simp [hrow]) (by simp [Nat.add_assoc])
      obtain ⟨cs, rfl⟩ := others.exists_cons
      have hsolid : ∀ c ∈ ('^' :: cs).head?, isBlank c = false := by
        rintro _ ⟨⟩
        decide
      refine ⟨stop, ?_, hslice⟩
      rw [caretsAt?_run hrow blanks hsolid (head?_append_ne_of_blanks blanks apart), List.head?_cons,
        if_pos rfl, hothers]
      rfl

def markAt? (row : List Char) (start : Nat) : ExceptT FixtureFault Option (RawMark × Nat) :=
  if row[start]? = some '<' then
    let offset := countRun row (start + 1) '~'
    let width := countRun row (start + 1 + offset) '-'
    if width = 0 then throw .emptyArrow
    else return (.arrow offset width, start + 1 + offset + width)
  else do
    let (runs, stop) ← caretsAt? row start
    return (.carets runs, stop)

def RawMark.spans? (target : List Char) : RawMark → Option (List (ColumnSpan × MarkKind))
  | .carets runs => runs.mapM fun span => do
      let width ← width? span
      return (span, if width = 1 then .caret else .caretRun)
  | .arrow offset width => do
      let first := (target.findIdx? fun c => !isBlank c).getD target.length
      let start := first + offset
      let stop ← minus? (start + width) 1
      let span ← span? start stop
      return [(span, .arrow)]

def Mark.raw : Mark → RawMark
  | .carets runs => .carets runs
  | .arrow offset more => .arrow offset (more + 1)

theorem markAt?_arrow {offset : Nat} (width : Nat)
    (hrow : row = front ++ '<' :: (List.replicate offset '~' ++ (List.replicate width '-' ++ rest)))
    (htilde : (List.replicate width '-' ++ rest).head? ≠ some '~') (hdash : rest.head? ≠ some '-') :
    markAt? row front.length = sure (if width = 0 then .error .emptyArrow
      else .ok (.arrow offset width, front.length + 1 + offset + width)) := by
  have hhead : row[front.length]? = some '<' := by
    rw [hrow, getElem?_length_append, List.head?_cons]
  have hoffset : countRun row (front.length + 1) '~' = offset :=
    countRun_of_eq (front ++ ['<']) (by rw [hrow, List.append_assoc]; rfl) (by simp) htilde
  have hwidth : countRun row (front.length + 1 + offset) '-' = width :=
    countRun_of_eq (front ++ '<' :: List.replicate offset '~') (by simp [hrow])
      (by simp; omega) hdash
  rw [markAt?, if_pos hhead]
  simp only [hoffset, hwidth]
  split <;> rfl

theorem Shape.markAt? (h : Shape column text mark rest) (hrow : row = front ++ text)
    (hfront : front.length = column) : ∃ stop, Fixture.markAt? row column = sure (.ok (mark.raw, stop)) ∧
      sliceFrom? row stop = some rest := by
  subst hfront
  cases h with
  | carets runs_read =>
      obtain ⟨stop, hcarets, hslice⟩ := runs_read.caretsAt? hrow rfl
      obtain ⟨cs, rfl⟩ := runs_read.exists_cons
      refine ⟨stop, ?_, hslice⟩
      rw [Fixture.markAt?, hrow, getElem?_length_append, if_neg (by simp), ← hrow, hcarets]
      rfl
  | @arrow offset more rest ends =>
      refine ⟨front.length + 1 + offset + (more + 1), ?_, ?_⟩
      · rw [markAt?_arrow _ hrow (by simp [List.replicate_succ]) ends, if_neg (Nat.succ_ne_zero more)]
        rfl
      · exact sliceFrom?_of_eq
          (front ++ '<' :: (List.replicate offset '~' ++ List.replicate (more + 1) '-'))
          (by simp [hrow]) (by simp; omega)

theorem Dashless.markAt? (h : Dashless text) (hrow : row = front ++ text)
    (hfront : front.length = column) : Fixture.markAt? row column = sure (.error .emptyArrow) := by
  subst hfront
  obtain ⟨offset, rest, rfl, htilde, hdash⟩ := h
  exact markAt?_arrow 0 hrow htilde hdash

theorem findIdx?_isBlank (target : List Char) :
    (target.findIdx? fun c => !isBlank c).getD target.length = (target.takeWhile isBlank).length := by
  rw [← List.findIdx_eq_getD_findIdx?, List.takeWhile_eq_take_findIdx_not, List.length_take_of_le]
  exact List.findIdx_le_length

theorem mapM_width? (runs : List ColumnSpan) :
    (runs.mapM fun span => do
      let width ← width? span
      return (span, if width = 1 then MarkKind.caret else .caretRun)) =
      some (runs.map fun span => (span, caretKind span)) := by
  induction runs with
  | nil => rfl
  | cons run runs ih =>
      rw [List.mapM_cons, ih, width?_eq]
      rfl

theorem Mark.spans?_raw (mark : Mark) (target : List Char) :
    mark.raw.spans? target = some (mark.spans target) := by
  cases mark with
  | carets runs => exact mapM_width? runs
  | arrow offset more =>
      rw [raw, RawMark.spans?, findIdx?_isBlank, ← Nat.add_assoc, minus?_add]
      simp only [Option.bind_eq_bind, Option.bind_some, span?_add]
      rfl

def assertionsAt? (target : SourceLine) (index column : Nat) (row : List Char) :
    ExceptT FixtureFault Option (List ScopeAssertion) := do
  let (mark, stop) ← markAt? row column
  let rest ← sliceFrom? row stop
  let scopes ← sure (readScopes false (words rest))
  if scopes.expected.isEmpty && scopes.excluded.isEmpty then throw .missingScopes
  else
    let spans ← mark.spans? target.text.toList
    sure (spans.mapM (assertionAt target index scopes))

theorem assertionsAt?_eq (hopens : OpensMark text) (hrow : row = front ++ text) (target : SourceLine)
    (index : Nat) : assertionsAt? target index front.length row =
      sure (readAssertions target index front.length text) := by
  rcases hopens.dashless_or_shape front.length with hdashless | ⟨mark, rest, hshape⟩
  · rw [assertionsAt?, hdashless.markAt? hrow rfl, sure_error_bind,
      (Flawed.emptyArrow hdashless).readAssertions]
  · obtain ⟨stop, hmark, hslice⟩ := hshape.markAt? hrow rfl
    rw [assertionsAt?, hmark, sure_ok_bind, hshape.readAssertions_eq]
    dsimp only
    rw [hslice, lift_bind]
    refine sure_bind fun scopes => ?_
    rw [Mark.spans?_raw]
    split <;> rfl

def addLineAt? (token : List Char) (before : List SourceLine) (index : Nat) (row : List Char) :
    ExceptT FixtureFault Option (List SourceLine) :=
  match markText? token row with
  | none => return ⟨index, .ofList row, []⟩ :: before
  | some text => do
    let column ← minus? row.length text.length
    match before with
    | [] => throw .noTargetLine
    | target :: others => do
      let assertions ← assertionsAt? target index column row
      return { target with assertions := target.assertions ++ assertions } :: others

def readLinesAt? (token : List Char) (before : List SourceLine) (index : Nat) :
    List (List Char) → ExceptT FixtureError Option (List SourceLine)
  | [] => return before.reverse
  | row :: rest => do
    let before ← (addLineAt? token before index row).adapt fun fault => ⟨index + 1, fault⟩
    readLinesAt? token before (index + 1) rest

/-- The column of a mark is the length of what is in front of it. -/
theorem exists_front_of_markText? (h : markText? token row = some text) :
    ∃ front, row = front ++ text ∧ row.length - text.length = front.length := by
  obtain ⟨-, indent, gap, -, -, hrow⟩ := exists_of_markText?_eq_some h
  have hfront : row = (indent ++ (token ++ gap)) ++ text := by simp [hrow]
  exact ⟨_, hfront, by rw [hfront, List.length_append, Nat.add_sub_cancel]⟩

theorem addLineAt?_eq (before : List SourceLine) (index : Nat) :
    addLineAt? token before index row = sure (addLine token before index row) := by
  unfold addLineAt? addLine
  cases hmark : markText? token row with
  | none => rfl
  | some text =>
      obtain ⟨front, hrow, hcolumn⟩ := exists_front_of_markText? hmark
      have hlength : row.length = front.length + text.length := by rw [hrow, List.length_append]
      dsimp only
      rw [hcolumn, hlength, minus?_add, lift_bind]
      cases before with
      | nil => rfl
      | cons target others =>
          dsimp only
          rw [assertionsAt?_eq (exists_of_markText?_eq_some hmark).1 hrow]
          cases readAssertions target index _ text <;> rfl

theorem readLinesAt?_eq (lines : List (List Char)) (before : List SourceLine) (index : Nat) :
    readLinesAt? token before index lines = sure (readLines token before index lines) := by
  induction lines generalizing before index with
  | nil => rfl
  | cons row lines ih =>
      rw [readLinesAt?, readLines, addLineAt?_eq]
      cases addLine token before index row with
      | error fault => rfl
      | ok next => exact ih next (index + 1)

def findFrom (offset : Nat) (mark : List Char) : List Char → Option Nat
  | [] => if mark.isEmpty then some offset else none
  | c :: rest =>
    if mark.isPrefixOf (c :: rest) then some offset else findFrom (offset + c.utf8Size) mark rest

def quotedAt? (cs : List Char) : Option (Option (List Char × List Char)) :=
  match trimStart cs with
  | '\x22' :: cs => do
    let some stop := findFrom 0 ['\x22'] cs | return none
    let (inside, _) ← cutAt? stop cs
    let (_, behind) ← cutAt? (stop + 1) cs
    return some (inside, behind)
  | _ => return none

def headerAt? (row : List Char) : Option (Option FixtureHeader) := do
  let row := trim row
  let some start := findFrom 0 headerMark row | return none
  let (before, _) ← cutAt? start row
  let token := trimEnd before
  if token.isEmpty then return none
  else
    let (_, rest) ← cutAt? (start + size headerMark) row
    let some (scopeName, rest) ← quotedAt? rest | return none
    let some (suite, _) ← quotedAt? rest | return none
    return some ⟨.ofList token, .ofList scopeName, .ofList suite⟩

def firstHeaderAt? (lines : List (List Char)) : Option (Option FixtureHeader) :=
  match lines.find? fun l => !allBlank l with
  | none => some none
  | some row => headerAt? row

theorem findFrom_eq (offset : Nat) (mark cs : List Char) :
    findFrom offset mark cs = (cutAround mark cs).map fun p => offset + size p.1 := by
  induction cs generalizing offset with
  | nil =>
      rw [findFrom, cutAround]
      split <;> rfl
  | cons c cs ih =>
      rw [findFrom, cutAround]
      split
      · rfl
      · rw [ih, Option.map_map]
        refine congrArg (fun f => Option.map f _) (funext fun p => ?_)
        exact Nat.add_assoc _ _ _

/-- The cut is at an offset between two characters, and so is that behind the mark. -/
theorem cutAt?_of_cutAround {mark cs before behind : List Char}
    (h : cutAround mark cs = some (before, behind)) : findFrom 0 mark cs = some (size before) ∧
      cutAt? (size before) cs = some (before, mark ++ behind) ∧
      cutAt? (size before + size mark) cs = some (before ++ mark, behind) := by
  have hcs := eq_append_of_cutAround h
  refine ⟨?_, cutAt?_eq_some.mpr ⟨hcs.symm, rfl⟩, cutAt?_eq_some.mpr ⟨by simp [hcs], ?_⟩⟩
  · rw [findFrom_eq, h, Option.map_some, Nat.zero_add]
  · exact size_append before mark

theorem findFrom_of_cutAround {mark cs : List Char} (h : cutAround mark cs = none) :
    findFrom 0 mark cs = none := by
  rw [findFrom_eq, h, Option.map_none]

theorem quoted?_of_quote {cs : List Char} (h : trimStart cs = '\x22' :: rest) :
    quoted? cs = cutAround ['\x22'] rest := by
  simp only [quoted?, h]

theorem quoted?_eq_none {cs : List Char} (h : ∀ rest, trimStart cs ≠ '\x22' :: rest) :
    quoted? cs = none := by
  rw [quoted?]
  split
  next rest htrim => exact absurd htrim (h rest)
  next => rfl

theorem quotedAt?_eq (cs : List Char) : quotedAt? cs = some (quoted? cs) := by
  rw [quotedAt?]
  split
  next body rest htrim =>
    rw [quoted?_of_quote htrim]
    cases hcut : cutAround ['\x22'] rest with
    | none =>
        rw [findFrom_of_cutAround hcut]
        rfl
    | some parts =>
        obtain ⟨inside, behind⟩ := parts
        obtain ⟨hfind, hinside, hbehind⟩ := cutAt?_of_cutAround hcut
        rw [show size ['\x22'] = 1 by decide] at hbehind
        simp only [hfind, hinside, hbehind, Option.bind_eq_bind, Option.bind_some]
        rfl
  next hopens =>
    rw [quoted?_eq_none fun rest htrim => hopens rest htrim]
    rfl

theorem headerAt?_eq (row : List Char) : headerAt? row = some (readHeader? row) := by
  rw [headerAt?, readHeader?]
  cases hcut : cutAround headerMark (trim row) with
  | none =>
      dsimp only
      rw [findFrom_of_cutAround hcut]
      rfl
  | some parts =>
      obtain ⟨before, behind⟩ := parts
      obtain ⟨hfind, hbefore, hbehind⟩ := cutAt?_of_cutAround hcut
      simp only [hfind, hbefore, hbehind, quotedAt?_eq, Option.bind_eq_bind, Option.bind_some]
      split
      · rfl
      · cases quoted? behind with
        | none => rfl
        | some parts =>
            obtain ⟨scopeName, rest⟩ := parts
            dsimp only [Option.bind_some]
            cases quoted? rest <;> rfl

theorem firstHeaderAt?_eq (lines : List (List Char)) : firstHeaderAt? lines = some (header? lines) := by
  rw [firstHeaderAt?, header?]
  cases lines.find? fun l => !allBlank l with
  | none => rfl
  | some row => exact headerAt?_eq row

def readAt? (text : String) : ExceptT FixtureError Option Fixture := do
  let lines := Text.lines text.toList
  let header ← firstHeaderAt? lines
  let sources ← readLinesAt? (tokenOf header) [] 0 lines
  return ⟨header, text, sources⟩

/-- Reading by positions never goes wrong, and it is reading. -/
theorem readAt?_eq (text : String) : readAt? text = sure (read? text) := by
  rw [readAt?, read?, firstHeaderAt?_eq, lift_bind, readLinesAt?_eq]
  cases readLines (tokenOf (header? (Text.lines text.toList))) [] 0 (Text.lines text.toList) <;> rfl

end Scopemark.Fixture
