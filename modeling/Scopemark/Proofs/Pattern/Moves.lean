import Scopemark.Pattern.Basic

namespace Scopemark.Pattern

variable {p : Program} {line : Array Char} {pos : Nat}

inductive Moves (p : Program) (line : Array Char) (pos : Nat) : Nat → Nat → Prop
  | look {node next : Nat} {look : Look} (h : p.nodes[node]? = some (.look look next))
      (holds : look.holds line pos = true) : Moves p line pos node next
  | first {node first second : Nat} (h : p.nodes[node]? = some (.fork first second)) :
      Moves p line pos node first
  | second {node first second : Nat} (h : p.nodes[node]? = some (.fork first second)) :
      Moves p line pos node second
  | mark {node slot next : Nat} (h : p.nodes[node]? = some (.mark slot next)) :
      Moves p line pos node next

/-- What holds of threads whatever way they move holds of those that wait in the end. -/
theorem settle_forall {P : Thread → Prop}
    (hmove : ∀ t next, Moves p line pos t.node next → P t → P { t with node := next })
    (hmark : ∀ t slot next, p.nodes[t.node]? = some (.mark slot next) → P t →
      P { t with node := next, slots := t.slots.setIfInBounds slot (some pos) })
    (fuel : Nat) (work : List Thread) (visits : Visits) (waiting : List Thread)
    (hwork : ∀ t ∈ work, P t) (hwaiting : ∀ t ∈ waiting, P t) :
    ∀ t ∈ (settle p line pos fuel work visits waiting).2, P t := by
  fun_induction settle p line pos fuel work visits waiting with
  | case1 | case2 => exact hwaiting
  | case3 _ t work _ _ _ ih => exact ih (List.forall_mem_cons.mp hwork).2 hwaiting
  | case4 _ t work _ _ _ _ look next hnode holds ih =>
      obtain ⟨ht, hwork⟩ := List.forall_mem_cons.mp hwork
      exact ih (List.forall_mem_cons.mpr ⟨hmove t next (.look hnode holds) ht, hwork⟩) hwaiting
  | case5 _ t work _ _ _ _ look next _ _ ih => exact ih (List.forall_mem_cons.mp hwork).2 hwaiting
  | case6 _ t work _ _ _ _ first second hnode ih =>
      obtain ⟨ht, hwork⟩ := List.forall_mem_cons.mp hwork
      have hboth := List.forall_mem_cons.mpr ⟨hmove t second (.second hnode) ht, hwork⟩
      exact ih (List.forall_mem_cons.mpr ⟨hmove t first (.first hnode) ht, hboth⟩) hwaiting
  | case7 _ t work _ _ _ _ slot next hnode ih =>
      obtain ⟨ht, hwork⟩ := List.forall_mem_cons.mp hwork
      exact ih (List.forall_mem_cons.mpr ⟨hmark t slot next hnode ht, hwork⟩) hwaiting
  | case8 _ t work _ _ _ _ set next _ ih | case9 _ t work _ _ _ _ _ ih =>
      obtain ⟨ht, hwork⟩ := List.forall_mem_cons.mp hwork
      exact ih hwork (List.forall_mem_cons.mpr ⟨ht, hwaiting⟩)
  | case10 _ t work _ _ _ _ _ ih => exact ih (List.forall_mem_cons.mp hwork).2 hwaiting

/-- What can be carried over the character holds of the threads that read it. A match is that of a thread
that waits where it accepts. -/
theorem advance_forall {P Q : Thread → Prop} {c : Option Char} {waiting : List Thread}
    (h : ∀ t ∈ waiting, P t)
    (hread : ∀ t set next, p.nodes[t.node]? = some (.one set next) → c.any set.contains = true →
      P t → Q { t with node := next }) :
    (∀ t ∈ (advance p c pos waiting).1, Q t) ∧
      ∀ m, (advance p c pos waiting).2 = some m →
        ∃ t ∈ waiting, p.nodes[t.node]? = some .accept ∧ m = ⟨t.start, pos, t.slots⟩ := by
  fun_induction advance p c pos waiting with
  | case1 => exact ⟨nofun, nofun⟩
  | case2 t waiting hnode =>
      refine ⟨nofun, fun m hm => ⟨t, List.mem_cons_self, hnode, ?_⟩⟩
      exact (Option.some.inj hm).symm
  | case3 t waiting set next hnode threads found he hreads ih =>
      obtain ⟨ht, hwaiting⟩ := List.forall_mem_cons.mp h
      rw [he] at ih
      obtain ⟨hthreads, hfound⟩ := ih hwaiting
      refine ⟨List.forall_mem_cons.mpr ⟨hread t set next hnode hreads ht, hthreads⟩, fun m hm => ?_⟩
      exact (hfound m hm).imp fun _ => And.imp_left (List.mem_cons_of_mem _)
  | case4 t waiting set next _ threads found he _ ih =>
      rw [he] at ih
      obtain ⟨hthreads, hfound⟩ := ih (List.forall_mem_cons.mp h).2
      exact ⟨hthreads, fun m hm => (hfound m hm).imp fun _ => And.imp_left (List.mem_cons_of_mem _)⟩
  | case5 t waiting _ _ ih =>
      obtain ⟨hthreads, hfound⟩ := ih (List.forall_mem_cons.mp h).2
      exact ⟨hthreads, fun m hm => (hfound m hm).imp fun _ => And.imp_left (List.mem_cons_of_mem _)⟩

def starting (p : Program) (line : Array Char) (pos : Nat) (threads : List Thread)
    (best : Option Match) : List Thread :=
  if best.isNone && p.mayStart (charAfter line pos) then threads ++ [⟨p.start, pos, p.slots⟩]
  else threads

def leave (p : Program) (line : Array Char) (pos : Nat) (work : List Thread) (visits : Visits) :
    Visits × List Thread × Option Match :=
  let settled := settle p line pos (settleFuel p work) work visits []
  (settled.1, advance p (charAfter line pos) pos settled.2.reverse)

theorem scan_succ (p : Program) (line : Array Char) (fuel pos : Nat) (threads : List Thread)
    (visits : Visits) (best : Option Match) :
    scan p line (fuel + 1) pos threads visits best =
      let work := starting p line pos threads best
      let left := leave p line pos work visits
      if work.isEmpty then scan p line fuel (pos + 1) [] visits best
      else if left.2.1.isEmpty && (left.2.2.or best).isSome then left.2.2.or best
      else scan p line fuel (pos + 1) left.2.1 left.1 (left.2.2.or best) :=
  rfl

theorem forall_mem_starting (line : Array Char) (best : Option Match) {P : Thread → Prop}
    {threads : List Thread} (h : ∀ t ∈ threads, P t)
    (hstart : p.mayStart (charAfter line pos) = true → P ⟨p.start, pos, p.slots⟩) :
    ∀ t ∈ starting p line pos threads best, P t := by
  unfold starting
  split
  next hmay =>
    rw [Bool.and_eq_true] at hmay
    exact List.forall_mem_append.mpr ⟨h, List.forall_mem_singleton.mpr (hstart hmay.2)⟩
  next => exact h

theorem mem_starting_of_mem (line : Array Char) (pos : Nat) (best : Option Match) {t : Thread}
    {threads : List Thread} (h : t ∈ threads) : t ∈ starting p line pos threads best := by
  unfold starting
  split
  · exact List.mem_append_left _ h
  · exact h

theorem start_mem_starting (threads : List Thread) (h : p.mayStart (charAfter line pos) = true) :
    ⟨p.start, pos, p.slots⟩ ∈ starting p line pos threads none := by
  simp [starting, h]

theorem leave_forall (line : Array Char) (pos : Nat) (visits : Visits) {P Q : Thread → Prop}
    {work : List Thread}
    (hmove : ∀ t next, Moves p line pos t.node next → P t → P { t with node := next })
    (hmark : ∀ t slot next, p.nodes[t.node]? = some (.mark slot next) → P t →
      P { t with node := next, slots := t.slots.setIfInBounds slot (some pos) })
    (hread : ∀ t set next, p.nodes[t.node]? = some (.one set next) →
      (charAfter line pos).any set.contains = true → P t → Q { t with node := next })
    (hwork : ∀ t ∈ work, P t) :
    (∀ t ∈ (leave p line pos work visits).2.1, Q t) ∧
      ∀ m, (leave p line pos work visits).2.2 = some m →
        ∃ t, P t ∧ p.nodes[t.node]? = some .accept ∧ m = ⟨t.start, pos, t.slots⟩ := by
  have hwaiting : ∀ t ∈ (settle p line pos (settleFuel p work) work visits []).2.reverse, P t :=
    fun t ht => settle_forall hmove hmark _ work visits [] hwork nofun t (List.mem_reverse.mp ht)
  obtain ⟨hthreads, hfound⟩ := advance_forall hwaiting hread
  refine ⟨hthreads, fun m hm => ?_⟩
  obtain ⟨t, ht, haccept⟩ := hfound m hm
  exact ⟨t, hwaiting t ht, haccept⟩

end Scopemark.Pattern
