import Scopemark.KeyList

namespace Scopemark.KeyList

variable {α : Type} {key : String} {value : α} {table entries : List (String × α)} {e : String × α}

def Ascending (table : List (String × α)) : Prop := table.Pairwise fun a b => a.1 < b.1

theorem mem_of_mem_insert (h : e ∈ insert key value table) : e = (key, value) ∨ e ∈ table := by
  induction table with
  | nil => exact .inl (List.mem_singleton.mp h)
  | cons first rest ih =>
      obtain ⟨k, v⟩ := first
      rw [insert] at h
      split at h
      · exact List.mem_cons.mp h
      · split at h
        · exact (List.mem_cons.mp h).imp_right (List.mem_cons_of_mem _)
        · rcases List.mem_cons.mp h with rfl | h
          · exact .inr List.mem_cons_self
          · exact (ih h).imp_right (List.mem_cons_of_mem _)

theorem Ascending.insert (h : Ascending table) : Ascending (KeyList.insert key value table) := by
  induction table with
  | nil => exact List.pairwise_singleton _ _
  | cons first rest ih =>
      obtain ⟨k, v⟩ := first
      obtain ⟨hfirst, hrest⟩ := List.pairwise_cons.mp h
      rw [KeyList.insert]
      split
      next hlt =>
        refine List.pairwise_cons.mpr ⟨?_, h⟩
        intro e he
        rcases List.mem_cons.mp he with rfl | he
        · exact hlt
        · exact String.lt_trans hlt (hfirst e he)
      next hnot =>
        split
        next heq =>
          subst heq
          exact List.pairwise_cons.mpr ⟨hfirst, hrest⟩
        next hne =>
          refine List.pairwise_cons.mpr ⟨?_, ih hrest⟩
          intro e he
          rcases mem_of_mem_insert he with rfl | he
          · exact Std.lt_of_le_of_ne (String.not_lt.mp hnot) (Ne.symm hne)
          · exact hfirst e he

theorem insert_of_forall_lt (h : ∀ e ∈ table, e.1 < key) :
    insert key value table = table ++ [(key, value)] := by
  induction table with
  | nil => rfl
  | cons first rest ih =>
      obtain ⟨k, v⟩ := first
      obtain ⟨hfirst, hrest⟩ := List.forall_mem_cons.mp h
      have hne : key ≠ k := by
        rintro rfl
        exact String.lt_irrefl _ hfirst
      rw [insert, if_neg (String.lt_asymm hfirst), if_neg hne, ih hrest, List.cons_append]

theorem ascending_foldl (h : Ascending table) (entries : List (String × α)) :
    Ascending (entries.foldl (fun table (key, value) => KeyList.insert key value table) table) := by
  induction entries generalizing table with
  | nil => exact h
  | cons e entries ih => exact ih h.insert

theorem ascending_ofList (entries : List (String × α)) : Ascending (ofList entries) :=
  ascending_foldl .nil entries

theorem mem_of_mem_foldl
    (h : e ∈ entries.foldl (fun table (key, value) => KeyList.insert key value table) table) :
    e ∈ table ∨ e ∈ entries := by
  induction entries generalizing table with
  | nil => exact .inl h
  | cons first entries ih =>
      rcases ih h with h | h
      · rcases mem_of_mem_insert h with rfl | h
        · exact .inr List.mem_cons_self
        · exact .inl h
      · exact .inr (List.mem_cons_of_mem _ h)

theorem mem_of_mem_ofList (h : e ∈ ofList entries) : e ∈ entries :=
  (mem_of_mem_foldl h).resolve_left List.not_mem_nil

theorem foldl_of_ascending (h : Ascending (table ++ entries)) :
    entries.foldl (fun table (key, value) => KeyList.insert key value table) table =
      table ++ entries := by
  induction entries generalizing table with
  | nil => exact (List.append_nil table).symm
  | cons first entries ih =>
      obtain ⟨k, v⟩ := first
      have hlast : ∀ e ∈ table, e.1 < k := by
        intro e he
        exact (List.pairwise_append.mp h).2.2 e he (k, v) List.mem_cons_self
      have hinsert : table ++ (k, v) :: entries = KeyList.insert k v table ++ entries := by
        rw [insert_of_forall_lt hlast, List.append_assoc, List.singleton_append]
      rw [hinsert] at h ⊢
      exact ih h

theorem ofList_of_ascending (h : Ascending table) : ofList table = table := by
  have hnil : Ascending ([] ++ table) := h
  exact foldl_of_ascending hnil

end Scopemark.KeyList
