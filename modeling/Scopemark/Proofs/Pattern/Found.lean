import Scopemark.Proofs.Pattern.Moves

namespace Scopemark.Pattern

variable {p : Program} {line : Array Char} {pos : Nat} {t : Thread} {work waiting : List Thread}
  {visits : Visits} {node : Nat}

inductive Accepts (p : Program) (line : Array Char) : Nat → Nat → Prop
  | accept {pos node : Nat} (h : p.nodes[node]? = some .accept) : Accepts p line pos node
  | move {pos node next : Nat} (h : Moves p line pos node next) (rest : Accepts p line pos next) :
      Accepts p line pos node
  | read {pos node next : Nat} {set : CharSet} {c : Char} (h : p.nodes[node]? = some (.one set next))
      (char : charAfter line pos = some c) (mem : set.contains c = true)
      (rest : Accepts p line (pos + 1) next) : Accepts p line pos node

def Node.waits : Node → Bool
  | .one .. => true
  | .accept => true
  | _ => false

def Node.nexts : Node → List Nat
  | .look _ next => [next]
  | .fork first second => [first, second]
  | .mark _ next => [next]
  | _ => []

theorem Moves.mem_nexts {next : Nat} (h : Moves p line pos node next) {n : Node}
    (hn : p.nodes[node]? = some n) : next ∈ n.nexts := by
  cases h with
  | look h _ | first h | second h | mark h =>
      obtain rfl := Option.some.inj (hn.symm.trans h)
      simp [Node.nexts]

/-- No thread has to go to the node any more at this place: one was there, or there is no such node. -/
def Seen (p : Program) (pos : Nat) (visits : Visits) (node : Nat) : Prop :=
  p.nodes[node]? = none ∨ visits[node]? = some (pos + 1)

def Known (p : Program) (pos : Nat) (work : List Thread) (visits : Visits) (node : Nat) : Prop :=
  Seen p pos visits node ∨ ∃ t ∈ work, t.node = node

/-- All that a thread may move to from nodes that were seen is known, and a thread waits at each of them
that is one to wait at. -/
structure Progress (p : Program) (line : Array Char) (pos : Nat) (work : List Thread) (visits : Visits)
    (waiting : List Thread) : Prop where
  size : visits.size = p.nodes.size
  le : ∀ v ∈ visits, v ≤ pos + 1
  moves : ∀ node next, Seen p pos visits node → Moves p line pos node next →
    Known p pos work visits next
  waits : ∀ node n, Seen p pos visits node → p.nodes[node]? = some n → n.waits = true →
    ∃ t ∈ waiting, t.node = node

theorem Known.skip (h : Known p pos (t :: work) visits node) (ht : Seen p pos visits t.node) :
    Known p pos work visits node := by
  rcases h with h | ⟨u, hu, rfl⟩
  · exact .inl h
  · rcases List.mem_cons.mp hu with rfl | hu
    · exact .inl ht
    · exact .inr ⟨u, hu, rfl⟩

theorem Progress.skip (h : Progress p line pos (t :: work) visits waiting)
    (ht : Seen p pos visits t.node) : Progress p line pos work visits waiting :=
  ⟨h.size, h.le, fun node next hnode hmoves => (h.moves node next hnode hmoves).skip ht, h.waits⟩

theorem seen_visit (ht : t.node < visits.size) :
    Seen p pos (visits.setIfInBounds t.node (pos + 1)) node ↔
      Seen p pos visits node ∨ node = t.node := by
  unfold Seen
  rw [Array.getElem?_setIfInBounds]
  by_cases hsame : t.node = node
  · simp [hsame, hsame ▸ ht]
  · simp [hsame, Ne.symm hsame]

theorem Known.visit (ht : t.node < visits.size) (more : List Thread)
    (h : Known p pos (t :: work) visits node) :
    Known p pos (more ++ work) (visits.setIfInBounds t.node (pos + 1)) node := by
  rcases h with h | ⟨u, hu, rfl⟩
  · exact .inl ((seen_visit ht).mpr (.inl h))
  · rcases List.mem_cons.mp hu with rfl | hu
    · exact .inl ((seen_visit ht).mpr (.inr rfl))
    · exact .inr ⟨u, List.mem_append_right more hu, rfl⟩

theorem Progress.lt_size (h : Progress p line pos work visits waiting) {n : Node}
    (hn : p.nodes[node]? = some n) : node < visits.size := by
  rw [h.size]
  exact (Array.getElem?_eq_some_iff.mp hn).1

def unseen (pos : Nat) (visits : Visits) : Nat := visits.countP fun v => v != pos + 1

theorem unseen_visit (ht : t.node < visits.size) (hnot : visits[t.node]? ≠ some (pos + 1)) :
    unseen pos (visits.setIfInBounds t.node (pos + 1)) + 1 = unseen pos visits := by
  have hne : visits[t.node] ≠ pos + 1 := fun he => hnot (by rw [Array.getElem?_eq_getElem ht, he])
  have hpos : 0 < visits.countP fun v => v != pos + 1 :=
    Array.countP_pos_iff.mpr ⟨visits[t.node], Array.getElem_mem ht, by simpa using hne⟩
  rw [unseen, unseen, Array.setIfInBounds, dif_pos ht, Array.countP_set]
  simp only [bne_iff_ne, ne_eq, hne, not_false_eq_true, if_true, bne_self_eq_false, if_false,
    Bool.false_eq_true]
  omega

/-- A bound on the steps to come: a node that was not seen yet may bring two threads. -/
def toDo (pos : Nat) (work : List Thread) (visits : Visits) : Nat :=
  2 * unseen pos visits + work.length

/-- A thread makes its node seen, and is replaced by those that it moves on as, or waits. -/
theorem Progress.visit (h : Progress p line pos (t :: work) visits waiting) {n : Node}
    (hn : p.nodes[t.node]? = some n) (more more' : List Thread)
    (hmoves : ∀ next, Moves p line pos t.node next → ∃ u ∈ more, u.node = next)
    (hwaits : n.waits = true → ∃ u ∈ more', u.node = t.node) :
    Progress p line pos (more ++ work) (visits.setIfInBounds t.node (pos + 1)) (more' ++ waiting) := by
  have ht := h.lt_size hn
  refine ⟨Array.size_setIfInBounds.trans h.size, ?_, ?_, ?_⟩
  · intro v hv
    rcases Array.mem_or_eq_of_mem_setIfInBounds hv with hv | rfl
    · exact h.le v hv
    · exact Nat.le_refl _
  · intro node next hnode hmove
    rcases (seen_visit ht).mp hnode with hnode | rfl
    · exact (h.moves node next hnode hmove).visit ht more
    · obtain ⟨u, hu, he⟩ := hmoves next hmove
      exact .inr ⟨u, List.mem_append_left work hu, he⟩
  · intro node n' hnode hn' hwait
    rcases (seen_visit ht).mp hnode with hnode | rfl
    · obtain ⟨u, hu, he⟩ := h.waits node n' hnode hn' hwait
      exact ⟨u, List.mem_append_right more' hu, he⟩
    · obtain rfl := Option.some.inj (hn.symm.trans hn')
      obtain ⟨u, hu, he⟩ := hwaits hwait
      exact ⟨u, List.mem_append_left waiting hu, he⟩

theorem toDo_visit (work : List Thread) (ht : t.node < visits.size)
    (hnot : visits[t.node]? ≠ some (pos + 1)) {more : List Thread} (hmore : more.length ≤ 2) :
    toDo pos (more ++ work) (visits.setIfInBounds t.node (pos + 1)) < toDo pos (t :: work) visits := by
  have hunseen := unseen_visit ht hnot
  simp only [toDo, List.length_append, List.length_cons]
  omega

structure Settles (p : Program) (line : Array Char) (pos : Nat) (work : List Thread) (visits : Visits)
    (settled : Visits × List Thread) : Prop where
  progress : Progress p line pos [] settled.1 settled.2
  seen : ∀ node, Known p pos work visits node → Seen p pos settled.1 node

theorem Settles.skip {settled : Visits × List Thread} (ht : Seen p pos visits t.node)
    (h : Settles p line pos work visits settled) : Settles p line pos (t :: work) visits settled :=
  ⟨h.progress, fun node hnode => h.seen node (hnode.skip ht)⟩

theorem Progress.settles {settled : Visits × List Thread} {fuel : Nat}
    (h : Progress p line pos (t :: work) visits waiting) {n : Node} (hn : p.nodes[t.node]? = some n)
    (hnot : ¬ (visits[t.node]? == some (pos + 1)) = true)
    (hfuel : toDo pos (t :: work) visits < fuel + 1) (more more' : List Thread)
    (hmore : more.length ≤ 2)
    (hmoves : ∀ next, Moves p line pos t.node next → ∃ u ∈ more, u.node = next)
    (hwaits : n.waits = true → ∃ u ∈ more', u.node = t.node)
    (ih : Progress p line pos (more ++ work) (visits.setIfInBounds t.node (pos + 1))
        (more' ++ waiting) →
      toDo pos (more ++ work) (visits.setIfInBounds t.node (pos + 1)) < fuel →
      Settles p line pos (more ++ work) (visits.setIfInBounds t.node (pos + 1)) settled) :
    Settles p line pos (t :: work) visits settled := by
  have ht := h.lt_size hn
  have hless := toDo_visit work ht (fun he => hnot (beq_of_eq he)) hmore
  obtain ⟨hprogress, hseen⟩ := ih (h.visit hn more more' hmoves hwaits) (by omega)
  exact ⟨hprogress, fun node hnode => hseen node (hnode.visit ht more)⟩

/-- With steps enough all threads come to wait, and every node is seen that one could have moved to. -/
theorem settle_settles (fuel : Nat) (h : Progress p line pos work visits waiting)
    (hfuel : toDo pos work visits < fuel) :
    Settles p line pos work visits (settle p line pos fuel work visits waiting) := by
  fun_induction settle p line pos fuel work visits waiting with
  | case1 => exact absurd hfuel (Nat.not_lt_zero _)
  | case2 => exact ⟨h, fun node hnode => hnode.resolve_right (by simp)⟩
  | case3 fuel t work visits waiting hvisited ih =>
      have ht : Seen p pos visits t.node := .inr (eq_of_beq hvisited)
      simp only [toDo, List.length_cons] at hfuel ih
      exact (ih (h.skip ht) (by omega)).skip ht
  | case4 fuel t work visits waiting hnot visits' look next hnode _ ih =>
      refine h.settles hnode hnot hfuel [{ t with node := next }] [] (by simp) ?_ (by simp [Node.waits]) ih
      intro next' hmove
      simpa [Node.nexts, eq_comm] using hmove.mem_nexts hnode
  | case5 fuel t work visits waiting hnot visits' look next hnode hfails ih =>
      refine h.settles hnode hnot hfuel [] [] (by simp) ?_ (by simp [Node.waits]) ih
      intro next' hmove
      cases hmove with
      | look hlook holds =>
          cases hnode.symm.trans hlook
          exact absurd holds hfails
      | first hfork | second hfork | mark hfork => cases hnode.symm.trans hfork
  | case6 fuel t work visits waiting hnot visits' first second hnode ih =>
      refine h.settles hnode hnot hfuel [{ t with node := first }, { t with node := second }] []
        (by simp) ?_ (by simp [Node.waits]) ih
      intro next hmove
      simpa [Node.nexts, eq_comm] using hmove.mem_nexts hnode
  | case7 fuel t work visits waiting hnot visits' slot next hnode ih =>
      refine h.settles hnode hnot hfuel
        [{ t with node := next, slots := t.slots.setIfInBounds slot (some pos) }] [] (by simp) ?_
        (by simp [Node.waits]) ih
      intro next' hmove
      simpa [Node.nexts, eq_comm] using hmove.mem_nexts hnode
  | case8 fuel t work visits waiting hnot visits' set next hnode ih
  | case9 fuel t work visits waiting hnot visits' hnode ih =>
      refine h.settles hnode hnot hfuel [] [t] (by simp) ?_ (fun _ => by simp) ih
      intro next' hmove
      cases hmove.mem_nexts hnode
  | case10 fuel t work visits waiting hnot visits' hnode ih =>
      have ht : Seen p pos visits t.node := .inl hnode
      have hsame : visits' = visits := by
        refine Array.setIfInBounds_eq_of_size_le ?_
        rw [h.size]
        exact Array.getElem?_eq_none_iff.mp hnode
      rw [hsame] at ih ⊢
      simp only [toDo, List.length_cons] at hfuel ih
      exact (ih (h.skip ht) (by omega)).skip ht

inductive Ready (p : Program) (line : Array Char) (pos node : Nat) : Prop
  | accept (h : p.nodes[node]? = some .accept)
  | read {next : Nat} {set : CharSet} {c : Char} (h : p.nodes[node]? = some (.one set next))
      (char : charAfter line pos = some c) (mem : set.contains c = true)
      (rest : Accepts p line (pos + 1) next)

theorem Accepts.exists_ready (h : Accepts p line pos node)
    (hprogress : Progress p line pos [] visits waiting) (hseen : Seen p pos visits node) :
    ∃ t ∈ waiting, Ready p line pos t.node := by
  induction h with
  | accept h =>
      obtain ⟨t, ht, rfl⟩ := hprogress.waits _ _ hseen h rfl
      exact ⟨t, ht, .accept h⟩
  | move h _ ih =>
      exact ih hprogress ((hprogress.moves _ _ hseen h).resolve_right (by simp))
  | read h char mem rest _ =>
      obtain ⟨t, ht, rfl⟩ := hprogress.waits _ _ hseen h rfl
      exact ⟨t, ht, .read h char mem rest⟩

/-- If no thread accepts, those that can read the character go on behind it. -/
theorem advance_none {c : Option Char} (h : (advance p c pos waiting).2 = none) :
    ∀ t ∈ waiting, p.nodes[t.node]? ≠ some .accept ∧
      ∀ set next, p.nodes[t.node]? = some (.one set next) → c.any set.contains = true →
        ∃ u ∈ (advance p c pos waiting).1, u.node = next := by
  fun_induction advance p c pos waiting with
  | case1 => simp
  | case2 => cases h
  | case3 t waiting set next hnode threads found he hreads ih =>
      rw [he] at ih
      refine List.forall_mem_cons.mpr ⟨⟨?_, ?_⟩, ?_⟩
      · simp [hnode]
      · intro set' next' hnode' _
        cases hnode.symm.trans hnode'
        exact ⟨_, List.mem_cons_self, rfl⟩
      · intro u hu
        refine ⟨(ih h u hu).1, fun set' next' hnode' hreads' => ?_⟩
        obtain ⟨v, hv, he⟩ := (ih h u hu).2 set' next' hnode' hreads'
        exact ⟨v, List.mem_cons_of_mem _ hv, he⟩
  | case4 t waiting set next hnode threads found he hreads ih =>
      rw [he] at ih
      refine List.forall_mem_cons.mpr ⟨⟨?_, ?_⟩, ih h⟩
      · simp [hnode]
      · intro set' next' hnode' hreads'
        cases hnode.symm.trans hnode'
        exact absurd hreads' hreads
  | case5 t waiting haccept hone ih =>
      refine List.forall_mem_cons.mpr ⟨⟨haccept, ?_⟩, ih h⟩
      intro set next hnode _
      exact absurd hnode (hone set next)

def Barren (p : Program) (line : Array Char) (pos : Nat) : Prop :=
  p.mayStart (charAfter line pos) = true → ¬ Accepts p line pos p.start

theorem scan_isSome (p : Program) (line : Array Char) (fuel pos : Nat) (threads : List Thread)
    (visits : Visits) {best : Option Match} (h : best.isSome = true) :
    (scan p line fuel pos threads visits best).isSome = true := by
  induction fuel generalizing pos threads visits best with
  | zero => exact h
  | succ fuel ih =>
      have hleft (work : List Thread) : ((leave p line pos work visits).2.2.or best).isSome = true := by
        rw [Option.isSome_or, h, Bool.or_true]
      rw [scan_succ]
      simp only
      split
      · exact ih _ _ _ h
      · split
        · exact hleft _
        · exact ih _ _ _ (hleft _)

/-- A search that fails goes on from place to place. -/
theorem scan_eq_none_succ {fuel : Nat} {threads : List Thread}
    (h : scan p line (fuel + 1) pos threads visits none = none) :
    (starting p line pos threads none = [] ∧ scan p line fuel (pos + 1) [] visits none = none) ∨
      ((leave p line pos (starting p line pos threads none) visits).2.2 = none ∧
        scan p line fuel (pos + 1) (leave p line pos (starting p line pos threads none) visits).2.1
          (leave p line pos (starting p line pos threads none) visits).1 none = none) := by
  rw [scan_succ] at h
  simp only at h
  generalize starting p line pos threads none = work at h ⊢
  generalize leave p line pos work visits = left at h ⊢
  split at h
  next hempty => exact .inl ⟨List.isEmpty_iff.mp hempty, h⟩
  next =>
    split at h
    next hfound =>
      rw [Bool.and_eq_true, h] at hfound
      cases hfound.2
    next =>
      cases hfound : left.2.2 with
      | some m =>
          have hsome : (left.2.2.or none).isSome = true := by rw [hfound]; rfl
          have hscan := scan_isSome p line fuel (pos + 1) left.2.1 left.1 hsome
          rw [h] at hscan
          cases hscan
      | none =>
          rw [hfound] at h
          exact .inr ⟨rfl, h⟩

theorem progress_start (line : Array Char) (hsize : visits.size = p.nodes.size)
    (hold : ∀ v ∈ visits, v ≤ pos) (work : List Thread) : Progress p line pos work visits [] := by
  have hseen {node : Nat} {n : Node} (h : Seen p pos visits node) (hn : p.nodes[node]? = some n) :
      False := by
    rcases h with h | h
    · cases h.symm.trans hn
    · have hle := hold _ (Array.mem_of_getElem? h)
      omega
  refine ⟨hsize, fun v hv => Nat.le_succ_of_le (hold v hv), ?_, ?_⟩
  · intro node next h hmoves
    cases hmoves with
    | look hn _ | first hn | second hn | mark hn => exact (hseen h hn).elim
  · intro node n h hn _
    exact (hseen h hn).elim

/-- The visits that a place leaves are fit for the next one. If there is no match, any way to accept is
that of a thread that goes on. -/
theorem leave_complete (line : Array Char) (hsize : visits.size = p.nodes.size)
    (hold : ∀ v ∈ visits, v ≤ pos) (work : List Thread) :
    (leave p line pos work visits).1.size = p.nodes.size ∧
      (∀ v ∈ (leave p line pos work visits).1, v ≤ pos + 1) ∧
      ((leave p line pos work visits).2.2 = none → ∀ t ∈ work, Accepts p line pos t.node →
        ∃ u ∈ (leave p line pos work visits).2.1, Accepts p line (pos + 1) u.node) := by
  have hfuel : toDo pos work visits < settleFuel p work := by
    have hle : unseen pos visits ≤ visits.size := Array.countP_le_size
    simp only [toDo, settleFuel]
    omega
  obtain ⟨hprogress, hseen⟩ :=
    settle_settles (settleFuel p work) (progress_start line hsize hold work) hfuel
  refine ⟨hprogress.size, hprogress.le, fun hnone t ht haccepts => ?_⟩
  obtain ⟨u, hu, hready⟩ := haccepts.exists_ready hprogress (hseen _ (.inr ⟨t, ht, rfl⟩))
  obtain ⟨haccept, hreads⟩ := advance_none hnone u (List.mem_reverse.mpr hu)
  cases hready with
  | accept hnode => exact absurd hnode haccept
  | @read next set c hnode char mem rest =>
      obtain ⟨v, hv, rfl⟩ := hreads set next hnode (by rw [char]; exact mem)
      exact ⟨v, hv, rest⟩

theorem leave_end (h : line.size ≤ pos) (work : List Thread) :
    (leave p line pos work visits).2.1 = [] := by
  have hnone : charAfter line pos = none := Array.getElem?_eq_none h
  have hthreads : ∀ t ∈ (leave p line pos work visits).2.1, False :=
    (leave_forall line pos visits (P := fun _ => True) (fun _ _ _ _ => trivial)
      (fun _ _ _ _ _ => trivial) (fun _ _ _ _ hread _ => by simp [hnone] at hread)
      fun _ _ => trivial).1
  exact List.eq_nil_iff_forall_not_mem.mpr hthreads

/-- A search that fails had no thread with a way to accept, and no place to start from. -/
theorem scan_complete (fuel : Nat) {threads : List Thread} (hfuel : fuel + pos = line.size + 1)
    (hsize : visits.size = p.nodes.size) (hold : ∀ v ∈ visits, v ≤ pos)
    (hend : line.size < pos → threads = [])
    (h : scan p line fuel pos threads visits none = none) :
    (∀ t ∈ threads, ¬ Accepts p line pos t.node) ∧
      ∀ q, pos ≤ q → q ≤ line.size → Barren p line q := by
  induction fuel generalizing pos threads visits with
  | zero =>
      rw [hend (by omega)]
      exact ⟨nofun, fun q hlow hhigh => by omega⟩
  | succ fuel ih =>
      have hstep := scan_eq_none_succ h
      have hmem : ∀ t ∈ threads, t ∈ starting p line pos threads none := fun t ht =>
        mem_starting_of_mem line pos none ht
      have hmay : p.mayStart (charAfter line pos) = true →
          ⟨p.start, pos, p.slots⟩ ∈ starting p line pos threads none := start_mem_starting threads
      generalize starting p line pos threads none = work at hstep hmem hmay
      -- It is enough that no thread here has a way to accept, and no later place.
      suffices hwork : (∀ t ∈ work, ¬ Accepts p line pos t.node) ∧
          ∀ q, pos + 1 ≤ q → q ≤ line.size → Barren p line q by
        refine ⟨fun t ht => hwork.1 t (hmem t ht), fun q hlow hhigh => ?_⟩
        rcases Nat.eq_or_lt_of_le hlow with rfl | hlt
        · exact fun hstart => hwork.1 _ (hmay hstart)
        · exact hwork.2 q hlt hhigh
      rcases hstep with ⟨rfl, hrest⟩ | ⟨hfound, hrest⟩
      · refine ⟨nofun, (ih (by omega) hsize (fun v hv => Nat.le_succ_of_le (hold v hv)) ?_ hrest).2⟩
        exact fun _ => rfl
      · obtain ⟨hsize', hold', hcomplete⟩ := leave_complete line hsize hold work
        obtain ⟨hthreads, hbarren⟩ := ih (by omega) hsize' hold'
          (fun hlt => leave_end (Nat.le_of_lt_succ hlt) work) hrest
        refine ⟨fun t ht haccepts => ?_, hbarren⟩
        obtain ⟨u, hu, hrest⟩ := hcomplete hfound t ht haccepts
        exact hthreads u hu hrest

/-- The thread has started at a place where one may start, and if there is a way to accept for it, there
is one from there. -/
structure Thread.Backed (p : Program) (line : Array Char) (low pos : Nat) (t : Thread) : Prop where
  low_le : low ≤ t.start
  le_size : t.start ≤ line.size
  mayStart : p.mayStart (charAfter line t.start) = true
  backs : Accepts p line pos t.node → Accepts p line t.start p.start

theorem leave_backed (visits : Visits) {low : Nat} (hwork : ∀ t ∈ work, t.Backed p line low pos) :
    (∀ t ∈ (leave p line pos work visits).2.1, t.Backed p line low (pos + 1)) ∧
      ((leave p line pos work visits).2.2.isSome = true →
        ∃ q, low ≤ q ∧ q ≤ line.size ∧ ¬ Barren p line q) := by
  obtain ⟨hthreads, hfound⟩ := leave_forall line pos visits (P := Thread.Backed p line low pos)
    (Q := Thread.Backed p line low (pos + 1))
    (fun t next hmove ht => ⟨ht.low_le, ht.le_size, ht.mayStart, fun h => ht.backs (.move hmove h)⟩)
    (fun t slot next hmark ht =>
      ⟨ht.low_le, ht.le_size, ht.mayStart, fun h => ht.backs (.move (.mark hmark) h)⟩)
    (fun t set next hnode hread ht => ⟨ht.low_le, ht.le_size, ht.mayStart, fun h => by
      obtain ⟨c, hc, hmem⟩ := (Option.any_eq_true _ _).mp hread
      exact ht.backs (.read hnode hc hmem h)⟩) hwork
  refine ⟨hthreads, fun hsome => ?_⟩
  obtain ⟨m, hm⟩ := Option.isSome_iff_exists.mp hsome
  obtain ⟨t, ht, haccept, _⟩ := hfound m hm
  exact ⟨t.start, ht.low_le, ht.le_size, fun hbarren =>
    hbarren ht.mayStart (ht.backs (.accept haccept))⟩

/-- A search that succeeds had a place to start from with a way to accept. -/
theorem scan_sound {low : Nat} (fuel : Nat) (threads : List Thread) (hlow : low ≤ pos)
    (hfuel : fuel + pos ≤ line.size + 1) (hthreads : ∀ t ∈ threads, t.Backed p line low pos)
    (h : (scan p line fuel pos threads visits none).isSome = true) :
    ∃ q, low ≤ q ∧ q ≤ line.size ∧ ¬ Barren p line q := by
  induction fuel generalizing pos threads visits with
  | zero => cases h
  | succ fuel ih =>
      rw [scan_succ] at h
      simp only at h
      have hwork := forall_mem_starting line none hthreads fun hstart =>
        ⟨hlow, by simp only; omega, hstart, id⟩
      generalize starting p line pos threads none = work at h hwork
      obtain ⟨hleft, hfound⟩ := leave_backed visits hwork
      generalize leave p line pos work visits = left at h hleft hfound
      split at h
      · exact ih [] (by omega) (by omega) nofun h
      · cases hm : left.2.2 with
        | some m => exact hfound (by rw [hm]; rfl)
        | none =>
            rw [hm] at h
            simp only [Option.or_none, Option.isSome_none, Bool.and_false, Bool.false_eq_true,
              if_false] at h
            exact ih _ (by omega) (by omega) hleft h

/-- A search finds something just if there is a way to accept from a place where a match may start. -/
theorem Program.find?_eq_none_iff (p : Program) (line : Array Char) (pos : Nat) :
    p.find? line pos = none ↔ ∀ q, pos ≤ q → q ≤ line.size → Barren p line q := by
  constructor
  · intro h
    by_cases hpos : pos ≤ line.size + 1
    · refine (scan_complete (line.size + 1 - pos) (by omega) Array.size_replicate ?_ (fun _ => rfl) h).2
      intro v hv
      rw [(Array.mem_replicate.mp hv).2]
      exact Nat.zero_le pos
    · exact fun q hlow hhigh => by omega
  · intro h
    by_cases hpos : pos ≤ line.size + 1
    · cases hfind : p.find? line pos with
      | none => rfl
      | some m =>
          obtain ⟨q, hlow, hhigh, hbarren⟩ := scan_sound (line.size + 1 - pos) [] (Nat.le_refl pos)
            (by omega) nofun (Option.isSome_of_eq_some hfind)
          exact absurd (h q hlow hhigh) hbarren
    · have hfuel : line.size + 1 - pos = 0 := by omega
      rw [Program.find?, hfuel]
      rfl

/-- A search from a later place finds nothing if one from an earlier place did not. -/
theorem find?_eq_none_of_le {p : Pattern} {q : Nat} (h : p.find? line pos = none) (hq : pos ≤ q) :
    p.find? line q = none :=
  (p.program.find?_eq_none_iff line q).mpr fun r hlow hhigh =>
    (p.program.find?_eq_none_iff line pos).mp h r (Nat.le_trans hq hlow) hhigh

end Scopemark.Pattern
