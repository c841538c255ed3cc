import Scopemark.Text.Offsets

namespace Scopemark.Text

variable {cs front back : List Char} {a b : Nat}

@[simp]
theorem size_cons (c : Char) (cs : List Char) : size (c :: cs) = c.utf8Size + size cs := rfl

theorem size_append (front back : List Char) : size (front ++ back) = size front + size back := by
  induction front with
  | nil => exact (Nat.zero_add _).symm
  | cons c front ih => rw [List.cons_append, size_cons, ih, size_cons, Nat.add_assoc]

theorem size_eq_zero : size cs = 0 ↔ cs = [] := by
  cases cs with
  | nil => exact ⟨fun _ => rfl, fun _ => rfl⟩
  | cons c cs =>
      have hc := c.utf8Size_pos
      simp only [size_cons, reduceCtorEq, iff_false]
      omega

theorem length_le_size (cs : List Char) : cs.length ≤ size cs := by
  induction cs with
  | nil => exact Nat.le_refl 0
  | cons c cs ih =>
      have hc := c.utf8Size_pos
      rw [List.length_cons, size_cons]
      omega

theorem offsetsFrom_append_length (offset : Nat) (front back : List Char) :
    (offsetsFrom offset (front ++ back))[front.length]? = some (offset + size front) := by
  induction front generalizing offset with
  | nil => cases back <;> rfl
  | cons c front ih =>
      rw [List.cons_append, offsetsFrom, List.length_cons, List.getElem?_cons_succ, ih, size_cons,
        Nat.add_assoc]

theorem length_offsetsFrom (offset : Nat) (cs : List Char) :
    (offsetsFrom offset cs).length = cs.length + 1 := by
  induction cs generalizing offset with
  | nil => rfl
  | cons c cs ih => rw [offsetsFrom, List.length_cons, ih, List.length_cons]

/-- The offset of a column is the size of what is in front of it. -/
theorem offsetOf_eq_size_take (cs : List Char) (column : Nat) :
    offsetOf cs column = size (cs.take column) := by
  unfold offsetOf
  rcases Nat.le_total column cs.length with hle | hge
  · have hcolumn := offsetsFrom_append_length 0 (cs.take column) (cs.drop column)
    rw [List.take_append_drop, List.length_take_of_le hle, Nat.zero_add] at hcolumn
    rw [hcolumn, Option.getD_some]
  · rw [List.take_of_length_le hge]
    rcases Nat.eq_or_lt_of_le hge with rfl | hlt
    · have hend := offsetsFrom_append_length 0 cs []
      rw [List.append_nil, Nat.zero_add] at hend
      rw [hend, Option.getD_some]
    · rw [List.getElem?_eq_none (by rw [length_offsetsFrom]; exact hlt), Option.getD_none]

/-- Text is cut between its characters only. -/
theorem cutAt?_eq_some {offset : Nat} :
    cutAt? offset cs = some (front, back) ↔ front ++ back = cs ∧ size front = offset := by
  fun_induction cutAt? offset cs generalizing front with
  | case1 cs =>
      rw [Option.some.injEq, Prod.mk.injEq, size_eq_zero]
      constructor
      · rintro ⟨rfl, rfl⟩
        exact ⟨rfl, rfl⟩
      · rintro ⟨rfl, rfl⟩
        exact ⟨rfl, rfl⟩
  | case2 offset =>
      refine ⟨nofun, ?_⟩
      rintro ⟨happend, hsize⟩
      rw [(List.append_eq_nil_iff.mp happend).1] at hsize
      cases hsize
  | case3 offset c cs hle ih =>
      rw [Option.map_eq_some_iff]
      constructor
      · rintro ⟨⟨rest, _⟩, hrest, heq⟩
        cases heq
        obtain ⟨rfl, hsize⟩ := ih.mp hrest
        refine ⟨rfl, ?_⟩
        rw [size_cons]
        omega
      · rintro ⟨happend, hsize⟩
        cases front with
        | nil => cases hsize
        | cons d rest =>
            obtain ⟨rfl, rfl⟩ := List.cons_eq_cons.mp happend
            rw [size_cons] at hsize
            exact ⟨(rest, back), ih.mpr ⟨rfl, by omega⟩, rfl⟩
  | case4 offset c cs hgt =>
      refine ⟨nofun, ?_⟩
      rintro ⟨happend, hsize⟩
      cases front with
      | nil => cases hsize
      | cons d rest =>
          obtain ⟨rfl, rfl⟩ := List.cons_eq_cons.mp happend
          rw [size_cons] at hsize
          omega

example : cutAt? 1 ['é', 'x'] = none ∧ cutAt? 2 ['é', 'x'] = some (['é'], ['x']) := by decide

theorem cutAt?_offsetOf (cs : List Char) (column : Nat) :
    cutAt? (offsetOf cs column) cs = some (cs.take column, cs.drop column) :=
  cutAt?_eq_some.mpr ⟨List.take_append_drop column cs, (offsetOf_eq_size_take cs column).symm⟩

/-- Columns behind the text count as its end, as they do for `List.take`. -/
theorem slice?_offsetOf (cs : List Char) (h : a ≤ b) :
    slice? (offsetOf cs a) (offsetOf cs b) cs = some ((cs.drop a).take (b - a)) := by
  have hfront : (cs.take b).take a = cs.take a := by rw [List.take_take, Nat.min_eq_left h]
  have hstart : cutAt? (offsetOf cs a) (cs.take b) = some (cs.take a, (cs.take b).drop a) :=
    cutAt?_eq_some.mpr ⟨by rw [← hfront, List.take_append_drop], (offsetOf_eq_size_take cs a).symm⟩
  simp only [slice?, cutAt?_offsetOf, hstart, Option.bind_eq_bind, Option.bind_some, Option.pure_def,
    List.drop_take]

theorem offsetOf_zero (cs : List Char) : offsetOf cs 0 = 0 := by
  rw [offsetOf_eq_size_take, List.take_zero, size]

theorem offsetOf_length (cs : List Char) : offsetOf cs cs.length = size cs := by
  rw [offsetOf_eq_size_take, List.take_length]

theorem offsetOf_succ {c : Char} (h : cs[a]? = some c) :
    offsetOf cs (a + 1) = offsetOf cs a + c.utf8Size := by
  rw [offsetOf_eq_size_take, offsetOf_eq_size_take, List.take_add_one, h, size_append]
  rfl

/-- Columns of a line and their offsets are in the same order. -/
theorem offsetOf_lt (hlt : a < b) (hb : b ≤ cs.length) : offsetOf cs a < offsetOf cs b := by
  obtain ⟨c, hc⟩ : ∃ c, cs[a]? = some c := ⟨_, List.getElem?_eq_getElem (Nat.lt_of_lt_of_le hlt hb)⟩
  have hsucc := offsetOf_succ hc
  have hle : offsetOf cs (a + 1) ≤ offsetOf cs b := by
    rw [offsetOf_eq_size_take, offsetOf_eq_size_take, ← List.take_append_drop (a + 1) (cs.take b),
      List.take_take, Nat.min_eq_left hlt, size_append]
    exact Nat.le_add_right _ _
  have hsize := c.utf8Size_pos
  omega

theorem offsetOf_lt_iff (ha : a ≤ cs.length) (hb : b ≤ cs.length) :
    offsetOf cs a < offsetOf cs b ↔ a < b := by
  refine ⟨fun h => Nat.lt_of_not_le fun hle => ?_, fun h => offsetOf_lt h hb⟩
  rcases Nat.eq_or_lt_of_le hle with rfl | hlt
  · exact Nat.lt_irrefl _ h
  · exact Nat.lt_asymm h (offsetOf_lt hlt ha)

theorem offsetOf_le_iff (ha : a ≤ cs.length) (hb : b ≤ cs.length) :
    offsetOf cs a ≤ offsetOf cs b ↔ a ≤ b := by
  rw [← Nat.not_lt, offsetOf_lt_iff hb ha, Nat.not_lt]

theorem offsetOf_inj (ha : a ≤ cs.length) (hb : b ≤ cs.length) :
    offsetOf cs a = offsetOf cs b ↔ a = b := by
  rw [Nat.le_antisymm_iff, offsetOf_le_iff ha hb, offsetOf_le_iff hb ha, ← Nat.le_antisymm_iff]

end Scopemark.Text
