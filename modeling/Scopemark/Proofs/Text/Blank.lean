import Mathlib.Data.List.DropRight
import Mathlib.Data.List.TakeWhile
import Scopemark.Text.Blank

namespace Scopemark.Text

variable {g cs w : List Char} {c : Char}

def Blanks (cs : List Char) : Prop := ∀ c ∈ cs, isBlank c = true

def Solid (cs : List Char) : Prop := ∃ c rest, cs = c :: rest ∧ isBlank c = false

theorem Solid.append (h : Solid cs) (g : List Char) : Solid (cs ++ g) := by
  obtain ⟨c, rest, rfl, hc⟩ := h
  exact ⟨c, rest ++ g, rfl, hc⟩

theorem Solid.of_append (h : Solid (cs ++ g)) (hne : cs ≠ []) : Solid cs := by
  obtain ⟨c, rest, hcs, hc⟩ := h
  cases cs with
  | nil => exact absurd rfl hne
  | cons d cs =>
      cases hcs
      exact ⟨c, cs, rfl, hc⟩

theorem Solid.head? (h : Solid cs) : ∀ c ∈ cs.head?, isBlank c = false := by
  obtain ⟨c, rest, rfl, hc⟩ := h
  rintro _ ⟨⟩
  exact hc

theorem takeWhile_append_of_stop {p : Char → Bool} (hg : ∀ c ∈ g, p c = true)
    (hcs : ∀ c ∈ cs.head?, p c = false) : (g ++ cs).takeWhile p = g := by
  rw [List.takeWhile_append_of_pos hg]
  cases cs with
  | nil => exact List.append_nil g
  | cons c cs => rw [List.takeWhile_cons_of_neg (by simp [hcs c rfl]), List.append_nil]

theorem dropWhile_append_of_stop {p : Char → Bool} (hg : ∀ c ∈ g, p c = true)
    (hcs : ∀ c ∈ cs.head?, p c = false) : (g ++ cs).dropWhile p = cs := by
  rw [List.dropWhile_append_of_pos hg]
  cases cs with
  | nil => rfl
  | cons c cs => exact List.dropWhile_cons_of_neg (by simp [hcs c rfl])

theorem trimStart_append (hg : Blanks g) : trimStart (g ++ cs) = trimStart cs :=
  List.dropWhile_append_of_pos hg

theorem Solid.trimStart (h : Solid cs) : trimStart cs = cs := by
  obtain ⟨c, rest, rfl, hc⟩ := h
  exact List.dropWhile_cons_of_neg (by simp [hc])

theorem exists_trimStart (cs : List Char) : ∃ g, Blanks g ∧ cs = g ++ trimStart cs :=
  ⟨cs.takeWhile isBlank, fun _ => List.mem_takeWhile_imp, List.takeWhile_append_dropWhile.symm⟩

theorem exists_trimEnd (cs : List Char) : ∃ g, Blanks g ∧ cs = trimEnd cs ++ g :=
  ⟨cs.rtakeWhile isBlank, fun _ => List.mem_rtakeWhile_imp, List.rdropWhile_append_rtakeWhile.symm⟩

theorem solid_trimStart (h : Text.trimStart cs ≠ []) : Solid (Text.trimStart cs) := by
  have hhead := List.head?_dropWhile_not isBlank cs
  unfold Text.trimStart at h ⊢
  cases hcs : cs.dropWhile isBlank with
  | nil => exact absurd hcs h
  | cons c rest =>
      rw [hcs] at hhead
      exact ⟨c, rest, rfl, hhead⟩

theorem exists_trim (cs : List Char) : ∃ g g', Blanks g ∧ Blanks g' ∧ cs = g ++ (trim cs ++ g') := by
  obtain ⟨g, hg, hcs⟩ := exists_trimStart cs
  obtain ⟨g', hg', htrim⟩ := exists_trimEnd (Text.trimStart cs)
  exact ⟨g, g', hg, hg', hcs.trans (congrArg (g ++ ·) htrim)⟩

theorem solid_trim (h : trim cs ≠ []) : Solid (trim cs) := by
  obtain ⟨g, _, hcs⟩ := exists_trimEnd (Text.trimStart cs)
  refine Solid.of_append (g := g) ?_ h
  rw [trim, ← hcs]
  refine solid_trimStart fun hnil => h ?_
  rw [trim, hnil]
  rfl

def Closed (cs : List Char) : Prop := Solid cs.reverse

theorem Closed.prepend (h : Closed cs) (g : List Char) : Closed (g ++ cs) := by
  unfold Closed
  rw [List.reverse_append]
  exact Solid.append h _

theorem Closed.trimEnd_append (h : Closed cs) (hg : Blanks g) : trimEnd (cs ++ g) = cs := by
  have hg' : Blanks g.reverse := fun c hc => hg c (List.mem_reverse.mp hc)
  have htrim : trimStart (g.reverse ++ cs.reverse) = trimStart cs.reverse := trimStart_append hg'
  unfold trimEnd
  rw [List.reverse_append]
  rw [Solid.trimStart h, trimStart] at htrim
  rw [htrim, List.reverse_reverse]

theorem Closed.trimEnd (h : Closed cs) : Text.trimEnd cs = cs := by
  have htrim := h.trimEnd_append (g := []) (by simp [Blanks])
  rwa [List.append_nil] at htrim

theorem closed_trimEnd (h : Text.trimEnd cs ≠ []) : Closed (Text.trimEnd cs) := by
  unfold Closed Text.trimEnd at *
  rw [List.reverse_reverse]
  exact solid_trimStart fun hnil => h (congrArg List.reverse hnil)

structure Word (w : List Char) : Prop where
  ne_nil : w ≠ []
  noBlank : ∀ c ∈ w, isBlank c = false

theorem Word.noFeed (h : Word w) : '\n' ∉ w :=
  fun hmem => absurd (h.noBlank _ hmem) (by decide)

theorem Word.solid (h : Word w) : Solid w := by
  cases w with
  | nil => exact absurd rfl h.ne_nil
  | cons c w => exact ⟨c, w, rfl, h.noBlank c List.mem_cons_self⟩

theorem Word.closed (h : Word w) : Closed w :=
  Word.solid ⟨mt List.reverse_eq_nil_iff.mp h.ne_nil,
    fun c hc => h.noBlank c (List.mem_reverse.mp hc)⟩

theorem wordsFrom_append {word : List Char} (h : ∀ c ∈ w, isBlank c = false) :
    wordsFrom word (w ++ cs) = wordsFrom (w.reverse ++ word) cs := by
  induction w generalizing word with
  | nil => rfl
  | cons c w ih =>
      obtain ⟨hc, hw⟩ := List.forall_mem_cons.mp h
      rw [List.cons_append, wordsFrom, if_neg (by simp [hc]), ih hw, List.reverse_cons,
        List.append_assoc]
      rfl

theorem word_reverse (hne : ¬ w.isEmpty = true) (h : ∀ c ∈ w, isBlank c = false) : Word w.reverse :=
  ⟨by simpa using hne, fun c hc => h c (List.mem_reverse.mp hc)⟩

theorem forall_mem_wordsFrom {word : List Char} (h : ∀ c ∈ word, isBlank c = false) :
    ∀ w ∈ wordsFrom word cs, Word w := by
  induction cs generalizing word with
  | nil =>
      rw [wordsFrom]
      split
      · exact List.forall_mem_nil _
      next hne => exact List.forall_mem_singleton.mpr (word_reverse hne h)
  | cons c cs ih =>
      rw [wordsFrom]
      split
      · split
        · exact ih (List.forall_mem_nil _)
        next hne => exact List.forall_mem_cons.mpr ⟨word_reverse hne h, ih (List.forall_mem_nil _)⟩
      next hc => exact ih (List.forall_mem_cons.mpr ⟨eq_false_of_ne_true hc, h⟩)

theorem forall_mem_words (cs : List Char) : ∀ w ∈ words cs, Word w :=
  forall_mem_wordsFrom (List.forall_mem_nil _)

theorem words_append_blanks (h : Blanks g) : words (g ++ cs) = words cs := by
  induction g with
  | nil => rfl
  | cons c g ih =>
      obtain ⟨hc, hg⟩ := List.forall_mem_cons.mp h
      rw [List.cons_append, words, wordsFrom, if_pos hc]
      exact ih hg

theorem words_trimStart (cs : List Char) : words (Text.trimStart cs) = words cs := by
  obtain ⟨g, hg, hcs⟩ := exists_trimStart cs
  have hwords : words (g ++ Text.trimStart cs) = words (Text.trimStart cs) := words_append_blanks hg
  rw [← hwords, ← hcs]

theorem Word.words_append (h : Word w) (hcs : ∀ c ∈ cs.head?, isBlank c = true) :
    words (w ++ cs) = w :: words cs := by
  have hne : ¬ w.reverse.isEmpty = true := by simp [h.ne_nil]
  rw [words, wordsFrom_append h.noBlank, List.append_nil]
  cases cs with
  | nil =>
      rw [wordsFrom, if_neg hne, List.reverse_reverse]
      rfl
  | cons c cs =>
      have hc : isBlank c = true := hcs c rfl
      rw [wordsFrom, if_pos hc, if_neg hne, List.reverse_reverse, words, wordsFrom, if_pos hc]
      rfl

end Scopemark.Text
