import Mathlib.Data.List.Lex
import Mathlib.Data.List.TakeWhile
import Mathlib.Order.Lattice
import Scopemark.Files.Tree
import Scopemark.Proofs.Text.Cut
import Scopemark.Proofs.Text.Lossy

namespace Scopemark

namespace FilePath

variable {p : FilePath} {s t : String}

theorem bytes_ofString (s : String) : (ofString s).bytes = s.toList.flatMap String.utf8EncodeChar := by
  rw [ofString, String.toUTF8, ← String.utf8Encode_toList, List.utf8Encode, List.data_toByteArray]

/-- A path is text just if it has the bytes of one, and is that text then. -/
theorem text?_eq_some_iff : p.text? = some s ↔ p = s := by
  unfold text? String.fromUTF8?
  constructor
  · intro h
    split at h
    · cases h
      rfl
    · cases h
  · rintro rfl
    exact dif_pos s.isValidUTF8

@[simp] theorem text?_ofString (s : String) : (ofString s).text? = some s := text?_eq_some_iff.mpr rfl

@[simp] theorem display_ofString (s : String) : (ofString s).display = s := by
  rw [display, bytes_ofString, Text.lossy_utf8, String.ofList_toList]

/-- What is no text is shown as another text. -/
theorem text?_eq_none_iff : p.text? = none ↔ ofString p.display ≠ p := by
  rw [Option.eq_none_iff_forall_ne_some]
  constructor
  · intro h heq
    exact h p.display (text?_eq_some_iff.mpr heq.symm)
  · intro h s hs
    obtain rfl := text?_eq_some_iff.mp hs
    exact h (by rw [display_ofString])

theorem bytes_injective : Function.Injective bytes := fun ⟨_⟩ ⟨_⟩ h => congrArg mk h

instance : LinearOrder UInt8 where
  le_refl _ := UInt8.le_refl _
  le_trans _ _ _ := UInt8.le_trans
  le_antisymm _ _ := UInt8.le_antisymm
  le_total := UInt8.le_total
  lt_iff_le_not_ge a b := by
    rw [UInt8.not_le]
    exact ⟨fun h => ⟨UInt8.le_of_lt h, h⟩, And.right⟩
  toDecidableLE := inferInstance
  toDecidableEq := inferInstance
  toDecidableLT := inferInstance

instance : LinearOrder FilePath := .lift' bytes bytes_injective

theorem lt_iff {p q : FilePath} : p < q ↔ p.bytes < q.bytes := Iff.rfl

end FilePath

namespace Path

open Text

section Letters

variable {α : Type} [DecidableEq α] [Letter α] {root name : List α} {pieces : List (List α)}

def partsOfPieces (pieces : List (List α)) : List (Part α) :=
  (pieces.filter fun p => !isIdle p).map Part.ofPiece

theorem partsOfPieces_concat (pieces : List (List α)) (piece : List α) :
    partsOfPieces (pieces ++ [piece]) =
      partsOfPieces pieces ++ if isIdle piece then [] else [.ofPiece piece] := by
  rw [partsOfPieces, List.filter_append, List.map_append]
  cases hidle : isIdle piece <;> simp [partsOfPieces, hidle]

def partsOf (absolute : Bool) : List (List α) → List (Part α)
  | [] => []
  | first :: rest =>
    if absolute || first == [dot] then
      (if first.isEmpty then .root else .here) :: partsOfPieces rest
    else partsOfPieces (first :: rest)

theorem parts_eq_partsOf (path : List α) :
    parts path = partsOf (isAbsolute path) (cut slash path) := by
  obtain ⟨first, rest, hcut⟩ := List.exists_cons_of_ne_nil (cut_ne_nil slash path)
  have hhead : (some first == some [dot]) = (first == [dot]) := rfl
  rw [parts, cutStart, hcut, partsOf, List.head?_cons, hhead]
  by_cases hstart : (isAbsolute path || first == [dot]) = true
  · simp only [if_pos hstart]
    rfl
  · simp only [if_neg hstart]
    rfl

theorem partsOf_concat (absolute : Bool) (h : pieces ≠ []) (piece : List α) :
    partsOf absolute (pieces ++ [piece]) =
      partsOf absolute pieces ++ if isIdle piece then [] else [.ofPiece piece] := by
  obtain ⟨first, rest, rfl⟩ := List.exists_cons_of_ne_nil h
  rw [List.cons_append, partsOf, partsOf, partsOfPieces_concat]
  split
  · rw [List.cons_append]
  · exact partsOfPieces_concat (first :: rest) piece

theorem isAbsolute_eq_false (h : slash ∉ name) : isAbsolute name = false := by
  unfold isAbsolute
  rw [beq_eq_false_iff_ne]
  intro hhead
  exact h (List.mem_of_mem_head? hhead)

theorem append_nil_left (h : slash ∉ name) : append [] name = name := by
  simp [append, isAbsolute_eq_false h]

theorem append_of_slash (h : slash ∉ name) (root : List α) :
    append (root ++ [slash]) name = root ++ slash :: name := by
  simp [append, isAbsolute_eq_false h]

theorem append_of_noSlash (h : slash ∉ name) (hroot : root ≠ []) (hlast : root.getLast? ≠ some slash) :
    append root name = root ++ slash :: name := by
  simp [append, isAbsolute_eq_false h, hroot, hlast]

/-- One slash stands between a path and the name that is put behind it. -/
theorem append_cases (h : slash ∉ name) (hroot : root ≠ []) :
    ∃ front, append root name = front ++ slash :: name ∧ (root = front ∨ root = front ++ [slash]) := by
  by_cases hlast : root.getLast? = some slash
  · obtain ⟨front, rfl⟩ := List.getLast?_eq_some_iff.mp hlast
    exact ⟨front, append_of_slash h front, .inr rfl⟩
  · exact ⟨root, append_of_noSlash h hroot hlast, .inl rfl⟩

theorem isAbsolute_append (h : slash ∉ name) (hroot : root ≠ []) :
    isAbsolute (append root name) = isAbsolute root := by
  obtain ⟨front, happend, rfl | rfl⟩ := append_cases h hroot
  · rw [happend, isAbsolute, isAbsolute, List.head?_append_of_ne_nil _ hroot]
  · rw [happend, isAbsolute, isAbsolute]
    cases front <;> rfl

theorem cut_append (h : slash ∉ name) (hroot : root ≠ []) :
    ∃ front, cut slash (append root name) = front ++ [name] ∧ front ≠ [] ∧
      (cut slash root = front ∨ cut slash root = front ++ [[]]) := by
  obtain ⟨front, happend, hfront⟩ := append_cases h hroot
  refine ⟨cut slash front, ?_, cut_ne_nil _ _, ?_⟩
  · rw [happend, cut_append_sep, cut_of_not_mem h]
  · rcases hfront with rfl | rfl
    · exact .inl rfl
    · exact .inr (cut_append_sep front [])

theorem add_length_le_append (h : slash ∉ name) (root : List α) :
    root.length + name.length ≤ (append root name).length := by
  by_cases hroot : root = []
  · simp [hroot, append_nil_left h]
  obtain ⟨front, happend, rfl | rfl⟩ := append_cases h hroot
  · simp [happend]
  · simp [happend]
    omega

theorem mem_append {c : α} (h : slash ∉ name) (hc : c ∈ append root name) :
    c ∈ root ∨ c = slash ∨ c ∈ name := by
  by_cases hroot : root = []
  · rw [hroot, append_nil_left h] at hc
    exact .inr (.inr hc)
  obtain ⟨front, happend, rfl | rfl⟩ := append_cases h hroot
  · rw [happend, List.mem_append, List.mem_cons] at hc
    exact hc
  · rw [happend, List.mem_append, List.mem_cons] at hc
    exact hc.imp_left fun hc => List.mem_append_left _ hc

/-- The file name of a path is its last piece, if this one leads to an entry of a directory. -/
theorem fileName?_of_cut {path : List α} {front : List (List α)} {last : List α}
    (h : cut slash path = front ++ [last]) (hidle : isIdle last = false) (hup : last ≠ [dot, dot]) :
    fileName? path = some last := by
  have hpiece : Part.ofPiece last = .name last := by simp [Part.ofPiece, hup]
  rw [fileName?, parts_eq_partsOf, h]
  by_cases hfront : front = []
  · subst hfront
    have habsolute : isAbsolute path = false := by
      unfold isAbsolute
      rw [beq_eq_false_iff_ne]
      intro hhead
      obtain ⟨rest, hrest⟩ := List.head?_eq_some_iff.mp hhead
      have hcut : cut slash ([] ++ slash :: rest) = cut slash [] ++ cut slash rest := cut_append_sep [] rest
      rw [List.nil_append, ← hrest, h] at hcut
      exact cut_ne_nil _ _ (List.cons_eq_cons.mp hcut).2.symm
    have hhere : (last == [dot]) = false := by
      rw [isIdle, Bool.or_eq_false_iff] at hidle
      exact hidle.2
    simp [partsOf, partsOfPieces, habsolute, hhere, hidle, hpiece]
  · rw [partsOf_concat _ hfront, hidle, hpiece]
    simp

theorem nameExtension?_eq_some_iff {e : List α} : nameExtension? name = some e ↔
    ∃ stem, stem ≠ [] ∧ name = stem ++ dot :: e ∧ dot ∉ e := by
  unfold nameExtension?
  dsimp only
  constructor
  · intro h
    have hsplit : name.reverse.takeWhile (· != dot) ++ name.reverse.dropWhile (· != dot) = name.reverse :=
      List.takeWhile_append_dropWhile
    have hbehind : dot ∉ name.reverse.takeWhile (· != dot) :=
      fun hmem => by simpa using List.mem_takeWhile_imp hmem
    have hhead := List.head?_dropWhile_not (· != dot) name.reverse
    generalize name.reverse.takeWhile (· != dot) = behind at h hsplit hbehind
    cases hrest : name.reverse.dropWhile (· != dot) with
    | nil =>
        rw [hrest, List.append_nil] at hsplit
        simp [← hsplit] at h
    | cons c before =>
        rw [hrest] at hsplit hhead
        obtain rfl : c = dot := by simpa using hhead
        rw [← hsplit, List.drop_left, List.drop_one, List.tail_cons] at h
        split at h
        · cases h
        next hbefore =>
          cases h
          refine ⟨before.reverse, by simpa using hbefore, ?_, by simpa using hbehind⟩
          have hname := congrArg List.reverse hsplit
          rw [List.reverse_reverse, List.reverse_append, List.reverse_cons] at hname
          simp [← hname]
  · rintro ⟨stem, hstem, rfl, hdot⟩
    have hreverse : (stem ++ dot :: e).reverse = e.reverse ++ dot :: stem.reverse := by simp
    have htake : (e.reverse ++ dot :: stem.reverse).takeWhile (· != dot) = e.reverse := by
      rw [List.takeWhile_append_of_pos, List.takeWhile_cons_of_neg (by simp), List.append_nil]
      intro c hc
      rw [bne_iff_ne]
      rintro rfl
      exact hdot (List.mem_reverse.mp hc)
    rw [hreverse, htake, List.drop_left, List.drop_one, List.tail_cons, if_neg (by simpa using hstem),
      List.reverse_reverse]

end Letters

theorem Part.lt_self (p : Part UInt8) : p.lt p = false := by
  cases p with
  | name s => exact decide_eq_false (lt_irrefl s)
  | root | here | up => rfl

theorem Part.lt_name_iff {s t : List UInt8} : (Part.name s).lt (.name t) = true ↔ s < t :=
  decide_eq_true_iff

theorem ltParts_append (ps qs rs : List (Part UInt8)) :
    ltParts (ps ++ qs) (ps ++ rs) = ltParts qs rs := by
  induction ps with
  | nil => rfl
  | cons p ps ih => simp [ltParts, p.lt_self, ih]

end Path

namespace FilePath

open Scopemark.Path

variable {name : FileName} {names others : List FileName}

/-- An entry of a directory can have this name. -/
structure IsName (name : FileName) : Prop where
  ne_empty : name.bytes ≠ []
  ne_here : name.bytes ≠ [dot]
  ne_up : name.bytes ≠ [dot, dot]
  noSlash : slash ∉ name.bytes
  noNul : 0 ∉ name.bytes
  short : name.size ≤ Files.nameLimit

instance (name : FileName) : Decidable (IsName name) :=
  decidable_of_iff (name.bytes ≠ [] ∧ name.bytes ≠ [dot] ∧ name.bytes ≠ [dot, dot] ∧
      slash ∉ name.bytes ∧ 0 ∉ name.bytes ∧ name.size ≤ Files.nameLimit)
    ⟨fun ⟨empty, here, up, slash, nul, short⟩ => ⟨empty, here, up, slash, nul, short⟩,
      fun h => ⟨h.ne_empty, h.ne_here, h.ne_up, h.noSlash, h.noNul, h.short⟩⟩

def below (root : FilePath) (names : List FileName) : FilePath := names.foldl join root

theorem below_cons (root name : FilePath) (names : List FileName) :
    root.below (name :: names) = (root.join name).below names := rfl

theorem IsName.not_isIdle (h : IsName name) : isIdle name.bytes = false := by
  simp [isIdle, h.ne_empty, h.ne_here]

theorem IsName.ofPiece (h : IsName name) : Part.ofPiece name.bytes = .name name.bytes := by
  simp [Part.ofPiece, h.ne_up]

theorem IsName.parts (h : IsName name) : parts name.bytes = [.name name.bytes] := by
  have hhere : (name.bytes == [dot]) = false := by simp [h.ne_here]
  rw [parts_eq_partsOf, Text.cut_of_not_mem h.noSlash, partsOf, isAbsolute_eq_false h.noSlash, hhere]
  simp [partsOfPieces, h.not_isIdle, h.ofPiece]

theorem parts_join (h : IsName name) (root : FilePath) :
    Path.parts (root.join name).bytes = Path.parts root.bytes ++ [.name name.bytes] := by
  by_cases hroot : root.bytes = []
  · rw [join, hroot, append_nil_left h.noSlash, h.parts]
    rfl
  obtain ⟨front, hcut, hfront, hroots⟩ := cut_append h.noSlash hroot
  have hlast : partsOf (isAbsolute root.bytes) (front ++ [name.bytes]) =
      partsOf (isAbsolute root.bytes) front ++ [.name name.bytes] := by
    rw [partsOf_concat _ hfront, h.not_isIdle, h.ofPiece]
    rfl
  rw [join, parts_eq_partsOf, isAbsolute_append h.noSlash hroot, hcut, hlast, parts_eq_partsOf]
  rcases hroots with hroots | hroots
  · rw [hroots]
  · rw [hroots, partsOf_concat _ hfront]
    simp [isIdle]

theorem parts_below (h : ∀ n ∈ names, IsName n) (root : FilePath) :
    Path.parts (root.below names).bytes =
      Path.parts root.bytes ++ names.map fun n => Part.name n.bytes := by
  induction names generalizing root with
  | nil => exact (List.append_nil _).symm
  | cons name names ih =>
      obtain ⟨hname, hnames⟩ := List.forall_mem_cons.mp h
      rw [below_cons, ih hnames, parts_join hname, List.append_assoc]
      rfl

theorem extension?_join (h : IsName name) (root : FilePath) :
    (root.join name).extension? = (nameExtension? name.bytes).map .mk := by
  rw [extension?, Path.extension?, Path.fileName?, parts_join h, List.getLast?_concat]
  rfl

theorem add_size_le_join (h : IsName name) (root : FilePath) :
    root.size + name.size ≤ (root.join name).size :=
  add_length_le_append h.noSlash root.bytes

theorem size_le_join (h : IsName name) (root : FilePath) : root.size ≤ (root.join name).size :=
  (Nat.le_add_right _ _).trans (add_size_le_join h root)

theorem size_le_below (h : ∀ n ∈ names, IsName n) (root : FilePath) : root.size ≤ (root.below names).size := by
  induction names generalizing root with
  | nil => exact Nat.le_refl _
  | cons name names ih =>
      obtain ⟨hname, hnames⟩ := List.forall_mem_cons.mp h
      exact (size_le_join hname root).trans (ih hnames (root.join name))

theorem ltParts_map_name (names others : List FileName) :
    ltParts (names.map fun n => Part.name n.bytes) (others.map fun n => Part.name n.bytes) =
      decide (names < others) := by
  induction names generalizing others with
  | nil => cases others <;> simp [ltParts]
  | cons name names ih =>
      cases others with
      | nil => simp [ltParts]
      | cons other others =>
          rw [List.map_cons, List.map_cons, ltParts, ih, Bool.eq_iff_iff, Bool.or_eq_true,
            Bool.and_eq_true, Part.lt_name_iff, beq_iff_eq, Part.name.injEq, decide_eq_true_iff,
            decide_eq_true_iff, List.cons_lt_cons_iff, bytes_injective.eq_iff, lt_iff]

/-- Paths that lead on from one directory are in the order of the names on the way. -/
theorem lt_below (h : ∀ n ∈ names, IsName n) (hothers : ∀ n ∈ others, IsName n) (root : FilePath) :
    (root.below names).lt (root.below others) = decide (names < others) := by
  rw [lt, parts_below h, parts_below hothers, ltParts_append, ltParts_map_name]

end FilePath

end Scopemark
