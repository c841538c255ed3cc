import Mathlib.Data.List.Forall2
import Mathlib.Data.List.Nodup
import Scopemark.Files.Tree
import Scopemark.Proofs.Except
import Scopemark.Proofs.Files.Path

namespace Scopemark

namespace FileTree

variable {tree other : FileTree} {entries others : List (FileName × FileTree)} {name : FileName}
  {names : List FileName}

inductive Proper : FileTree → Prop
  | file (content : ByteArray) : Proper (.file content)
  | dir {entries : List (FileName × FileTree)} (distinct : (entries.map Prod.fst).Nodup)
      (named : ∀ e ∈ entries, FilePath.IsName e.1) (proper : ∀ e ∈ entries, Proper e.2) :
      Proper (.dir entries)

inductive Has : FileTree → List FileName → FileTree → Prop
  | here (tree : FileTree) : Has tree [] tree
  | inside {entries : List (FileName × FileTree)} {name : FileName} {tree : FileTree}
      {names : List FileName} {item : FileTree} (entry : (name, tree) ∈ entries)
      (rest : Has tree names item) : Has (.dir entries) (name :: names) item

def HasFile (tree : FileTree) (names : List FileName) : Prop := ∃ content, tree.Has names (.file content)

/-- The entries of directories in one tree may stand in another order in the other one. -/
inductive Reordered : FileTree → FileTree → Prop
  | refl (tree : FileTree) : Reordered tree tree
  | perm {entries others : List (FileName × FileTree)} (h : entries.Perm others) :
      Reordered (.dir entries) (.dir others)
  | entry (before : List (FileName × FileTree)) (name : FileName) {tree other : FileTree}
      (behind : List (FileName × FileTree)) (h : Reordered tree other) :
      Reordered (.dir (before ++ (name, tree) :: behind)) (.dir (before ++ (name, other) :: behind))
  | trans {tree middle other : FileTree} (h : Reordered tree middle) (h' : Reordered middle other) :
      Reordered tree other

theorem Reordered.symm (h : tree.Reordered other) : other.Reordered tree := by
  induction h with
  | refl tree => exact .refl tree
  | perm h => exact .perm h.symm
  | entry before name behind h ih => exact .entry before name behind ih
  | trans h h' ih ih' => exact .trans ih' ih

/-- Both are files or both are directories, and what is below a name of one is below it in the other. -/
theorem Reordered.exists_entries (h : tree.Reordered other) (hdir : tree = .dir entries) :
    ∃ others, other = .dir others ∧ (entries.map Prod.fst).Perm (others.map Prod.fst) ∧
      ∀ name tree, (name, tree) ∈ entries → ∃ other, (name, other) ∈ others ∧ tree.Reordered other := by
  induction h generalizing entries with
  | refl tree => exact ⟨entries, hdir, .refl _, fun name tree h => ⟨tree, h, .refl tree⟩⟩
  | perm h =>
      cases hdir
      exact ⟨_, rfl, h.map _, fun name tree hentry => ⟨tree, h.mem_iff.mp hentry, .refl tree⟩⟩
  | entry before name behind h =>
      cases hdir
      refine ⟨_, rfl, by simp, fun name' tree' hentry => ?_⟩
      rcases List.mem_append.mp hentry with hentry | hentry
      · exact ⟨tree', List.mem_append_left _ hentry, .refl tree'⟩
      rcases List.mem_cons.mp hentry with heq | hentry
      · cases heq
        exact ⟨_, List.mem_append_right _ List.mem_cons_self, h⟩
      · exact ⟨tree', List.mem_append_right _ (List.mem_cons_of_mem _ hentry), .refl tree'⟩
  | trans h h' ih ih' =>
      obtain ⟨middle, rfl, hperm, hentries⟩ := ih hdir
      obtain ⟨others, rfl, hperm', hentries'⟩ := ih' rfl
      refine ⟨others, rfl, hperm.trans hperm', fun name tree hentry => ?_⟩
      obtain ⟨tree', hentry', hr⟩ := hentries name tree hentry
      obtain ⟨tree'', hentry'', hr'⟩ := hentries' name tree' hentry'
      exact ⟨tree'', hentry'', hr.trans hr'⟩

theorem Reordered.eq_file (h : tree.Reordered other) {content : ByteArray}
    (hfile : tree = .file content) : other = .file content := by
  induction h with
  | refl tree => exact hfile
  | perm h => cases hfile
  | entry before name behind h => cases hfile
  | trans h h' ih ih' => exact ih' (ih hfile)

theorem Proper.reordered (h : tree.Proper) (hr : tree.Reordered other) : other.Proper := by
  induction h generalizing other with
  | file content =>
      obtain rfl := hr.eq_file rfl
      exact .file content
  | dir distinct named proper ih =>
      obtain ⟨others, rfl, hperm, -⟩ := hr.exists_entries rfl
      obtain ⟨entries', heq, -, hentries⟩ := hr.symm.exists_entries rfl
      cases heq
      refine .dir (hperm.nodup_iff.mp distinct) (fun e he => ?_) fun e he => ?_
      · obtain ⟨tree, hentry, -⟩ := hentries e.1 e.2 he
        exact named (e.1, tree) hentry
      · obtain ⟨tree, hentry, hr⟩ := hentries e.1 e.2 he
        exact ih (e.1, tree) hentry hr.symm

theorem Has.isName {item : FileTree} (h : tree.Has names item) (hproper : tree.Proper) :
    ∀ n ∈ names, FilePath.IsName n := by
  induction h with
  | here tree => exact List.forall_mem_nil _
  | inside entry rest ih =>
      cases hproper with
      | dir _ named proper => exact List.forall_mem_cons.mpr ⟨named _ entry, ih (proper _ entry)⟩

theorem lookup_eq_some_iff (h : (entries.map Prod.fst).Nodup) :
    entries.lookup name = some tree ↔ (name, tree) ∈ entries := by
  rw [List.lookup_eq_some_iff]
  constructor
  · rintro ⟨before, behind, rfl, -⟩
    exact List.mem_append_right _ List.mem_cons_self
  · intro hmem
    obtain ⟨before, behind, rfl⟩ := List.append_of_mem hmem
    refine ⟨before, behind, rfl, fun e he => ?_⟩
    rw [bne_iff_ne]
    rw [List.map_append, List.nodup_append] at h
    exact (h.2.2 _ (List.mem_map_of_mem he) name List.mem_cons_self).symm

theorem tree_induction {P : FileTree → Prop} (file : ∀ content, P (.file content))
    (dir : ∀ entries, (∀ e ∈ entries, P e.2) → P (.dir entries)) (tree : FileTree) : P tree := by
  induction tree using FileTree.rec with
  | file content => exact file content
  | dir entries h => exact dir entries h
  | nil => exact List.forall_mem_nil _
  | cons e rest he hrest => exact List.forall_mem_cons.mpr ⟨he, hrest⟩
  | mk name tree h => exact h

mutual

def isProper : FileTree → Bool
  | .file _ => true
  | .dir entries => decide (entries.map Prod.fst).Nodup && areProper entries

def areProper : List (FileName × FileTree) → Bool
  | [] => true
  | (name, tree) :: rest => decide (FilePath.IsName name) && isProper tree && areProper rest

end

theorem areProper_eq (entries : List (FileName × FileTree)) :
    areProper entries = entries.all fun e => decide (FilePath.IsName e.1) && e.2.isProper := by
  induction entries with
  | nil => rw [areProper, List.all_nil]
  | cons e rest ih => rw [areProper, ih, List.all_cons]

theorem isProper_iff (tree : FileTree) : tree.isProper = true ↔ tree.Proper := by
  induction tree using tree_induction with
  | file content => exact ⟨fun _ => .file content, fun _ => by rw [isProper]⟩
  | dir entries ih =>
      simp only [isProper, areProper_eq, Bool.and_eq_true, decide_eq_true_iff, List.all_eq_true]
      constructor
      · rintro ⟨distinct, hentries⟩
        exact .dir distinct (fun e he => (hentries e he).1) fun e he => (ih e he).mp (hentries e he).2
      · rintro (_ | ⟨distinct, named, proper⟩)
        exact ⟨distinct, fun e he => ⟨named e he, (ih e he).mpr (proper e he)⟩⟩

instance (tree : FileTree) : Decidable tree.Proper := decidable_of_iff _ tree.isProper_iff

end FileTree

open FileTree

namespace Place

variable {p p' q : Place} {piece : List UInt8} {pieces : List (List UInt8)}

structure Proper (p : Place) : Prop where
  tree : p.tree.Proper
  above : ∀ t ∈ p.above, t.Proper ∧ t.isDir = true

structure Reordered (p q : Place) : Prop where
  tree : p.tree.Reordered q.tree
  above : List.Forall₂ FileTree.Reordered p.above q.above

theorem proper_root {root : FileTree} (h : root.Proper) : Proper ⟨root, []⟩ := ⟨h, List.forall_mem_nil _⟩

inductive Steps (p : Place) (piece : List UInt8) : Place → Prop
  | stays {entries : List (FileName × FileTree)} (dir : p.tree = .dir entries)
      (idle : Path.isIdle piece = true) : Steps p piece p
  | top {entries : List (FileName × FileTree)} (dir : p.tree = .dir entries) (up : piece = [Path.dot, Path.dot])
      (top : p.above = []) : Steps p piece p
  | up {entries : List (FileName × FileTree)} {tree : FileTree} {above : List FileTree}
      (dir : p.tree = .dir entries) (up : piece = [Path.dot, Path.dot]) (below : p.above = tree :: above) :
      Steps p piece ⟨tree, above⟩
  | enters {entries : List (FileName × FileTree)} {tree : FileTree} (dir : p.tree = .dir entries)
      (named : Path.isIdle piece = false) (down : piece ≠ [Path.dot, Path.dot])
      (short : piece.length ≤ Files.nameLimit)
      (entry : entries.lookup ⟨piece⟩ = some tree) : Steps p piece ⟨tree, p.tree :: p.above⟩

theorem Steps.of_step (h : Files.step p piece = .ok p') : Steps p piece p' := by
  obtain ⟨tree, above⟩ := p
  unfold Files.step at h
  cases tree with
  | file content => cases h
  | dir entries =>
      dsimp only at h
      split at h
      next hidle =>
        cases h
        exact .stays rfl hidle
      next hidle =>
      split at h
      next hup =>
        have hup := eq_of_beq hup
        cases above with
        | nil =>
            cases h
            exact .top rfl hup rfl
        | cons up above =>
            cases h
            exact .up rfl hup rfl
      next hup =>
      split at h
      · cases h
      next hshort =>
      split at h
      · cases h
      next tree hentry =>
        cases h
        exact .enters rfl (eq_false_of_ne_true hidle) (by simpa using hup) (Nat.le_of_not_lt hshort) hentry

theorem Steps.step (h : Steps p piece p') : Files.step p piece = .ok p' := by
  obtain ⟨tree, above⟩ := p
  cases h with
  | stays dir idle =>
      cases dir
      simp [Files.step, idle]
  | top dir up top =>
      cases dir
      cases up
      cases top
      rfl
  | up dir up below =>
      cases dir
      cases up
      cases below
      rfl
  | enters dir named down short entry =>
      cases dir
      simp [Files.step, named, down, Nat.not_lt.mpr short, entry]

theorem Steps.proper (h : Steps p piece p') (hp : p.Proper) : p'.Proper := by
  cases h with
  | stays | top => exact hp
  | up dir up below =>
      have habove := hp.above
      rw [below] at habove
      obtain ⟨hup, habove⟩ := List.forall_mem_cons.mp habove
      exact ⟨hup.1, habove⟩
  | enters dir named down short entry =>
      have hproper := hp.tree
      rw [dir] at hproper
      cases hproper with
      | dir distinct _ proper =>
          refine ⟨proper _ ((lookup_eq_some_iff distinct).mp entry), ?_⟩
          exact List.forall_mem_cons.mpr ⟨⟨hp.tree, by rw [dir]; rfl⟩, hp.above⟩

/-- The same step leads on from a place in a tree that is reordered. -/
theorem Steps.reordered (h : Steps p piece p') (hp : p.Proper) (hr : p.Reordered q) :
    ∃ q', Steps q piece q' ∧ p'.Reordered q' := by
  obtain ⟨tree, above⟩ := q
  obtain ⟨htree, habove⟩ := hr
  dsimp only at htree habove
  cases h with
  | stays dir idle =>
      obtain ⟨others, hothers, -⟩ := htree.exists_entries dir
      exact ⟨_, .stays hothers idle, htree, habove⟩
  | top dir up top =>
      obtain ⟨others, hothers, -⟩ := htree.exists_entries dir
      have hnil := habove
      rw [top, List.forall₂_nil_left_iff] at hnil
      exact ⟨_, .top hothers up hnil, htree, habove⟩
  | up dir up below =>
      obtain ⟨others, hothers, -⟩ := htree.exists_entries dir
      rw [below] at habove
      obtain ⟨tree', above', hup, hrest, rfl⟩ := List.forall₂_cons_left_iff.mp habove
      exact ⟨_, .up hothers up rfl, hup, hrest⟩
  | enters dir named down short entry =>
      obtain ⟨others, hothers, hnames, hentries⟩ := htree.exists_entries dir
      have hproper := hp.tree
      rw [dir] at hproper
      cases hproper with
      | dir distinct _ proper =>
          obtain ⟨other, hother, hr⟩ := hentries _ _ ((lookup_eq_some_iff distinct).mp entry)
          have hlookup := (lookup_eq_some_iff (hnames.nodup_iff.mp distinct)).mpr hother
          exact ⟨_, .enters hothers named down short hlookup, hr, .cons htree habove⟩

theorem walk_cons_eq_ok_iff : Files.walk p (piece :: pieces) = .ok q ↔
    ∃ p', Files.step p piece = .ok p' ∧ Files.walk p' pieces = .ok q := by
  rw [Files.walk, List.foldlM_cons, bind_eq_ok]
  rfl

theorem walk_idle {entries : List (FileName × FileTree)} (hdir : p.tree = .dir entries)
    (h : ∀ piece ∈ pieces, Path.isIdle piece = true) : Files.walk p pieces = .ok p := by
  induction pieces with
  | nil => rfl
  | cons piece pieces ih =>
      obtain ⟨hidle, h⟩ := List.forall_mem_cons.mp h
      exact walk_cons_eq_ok_iff.mpr ⟨p, Steps.step (.stays hdir hidle), ih h⟩

theorem walk_proper (h : Files.walk p pieces = .ok q) (hp : p.Proper) : q.Proper := by
  induction pieces generalizing p with
  | nil =>
      cases h
      exact hp
  | cons piece pieces ih =>
      obtain ⟨p', hstep, hwalk⟩ := walk_cons_eq_ok_iff.mp h
      exact ih hwalk ((Steps.of_step hstep).proper hp)

theorem walk_reordered {r : Place} (h : Files.walk p pieces = .ok q) (hp : p.Proper)
    (hr : p.Reordered r) : ∃ r', Files.walk r pieces = .ok r' ∧ q.Reordered r' := by
  induction pieces generalizing p r with
  | nil =>
      cases h
      exact ⟨r, rfl, hr⟩
  | cons piece pieces ih =>
      obtain ⟨p', hstep, hwalk⟩ := walk_cons_eq_ok_iff.mp h
      obtain ⟨q', hsteps, hr'⟩ := (Steps.of_step hstep).reordered hp hr
      obtain ⟨r', hwalk', hr''⟩ := ih hwalk ((Steps.of_step hstep).proper hp) hr'
      exact ⟨r', walk_cons_eq_ok_iff.mpr ⟨q', hsteps.step, hwalk'⟩, hr''⟩

end Place

namespace Files

variable {fs fs' : Files} {path : FilePath} {tree : FileTree}

structure Reordered (fs fs' : Files) : Prop where
  root : fs.root.Reordered fs'.root
  workingDir : fs.workingDir = fs'.workingDir

theorem Reordered.symm (h : fs.Reordered fs') : fs'.Reordered fs := ⟨h.root.symm, h.workingDir.symm⟩

def startOf (fs : Files) (path : FilePath) : Except FileFault Place :=
  if Path.isAbsolute path.bytes then .ok ⟨fs.root, []⟩ else fs.here

structure Leads (path : FilePath) : Prop where
  noNul : path.bytes.contains 0 = false
  short : path.size < pathLimit
  nonempty : path.bytes.isEmpty = false

theorem leads_of_find (h : fs.find path = .ok tree) : Leads path := by
  unfold find at h
  split at h
  · cases h
  next hnul =>
  split at h
  · cases h
  next hlong =>
  split at h
  · cases h
  next hempty =>
    exact ⟨eq_false_of_ne_true hnul, Nat.lt_of_not_le hlong, eq_false_of_ne_true hempty⟩

theorem Leads.find_eq (h : Leads path) : fs.find path = fs.startOf path >>= fun start =>
    walk start (Text.cut Path.slash path.bytes) >>= fun place => pure place.tree := by
  have hnul : ¬ path.bytes.contains 0 = true := Bool.not_eq_true _ ▸ h.noNul
  rw [find, if_neg hnul, if_neg (Nat.not_le.mpr h.short), if_neg (by simp [h.nonempty]), startOf]
  split <;> rfl

theorem find_eq_ok_iff : fs.find path = .ok tree ↔ Leads path ∧ ∃ start place,
    fs.startOf path = .ok start ∧ walk start (Text.cut Path.slash path.bytes) = .ok place ∧
      place.tree = tree := by
  have hwalk (start : Place) : (walk start (Text.cut Path.slash path.bytes) >>= fun place =>
      pure place.tree) = .ok tree ↔
        ∃ place, walk start (Text.cut Path.slash path.bytes) = .ok place ∧ place.tree = tree := by
    simp only [bind_eq_ok, pure, Except.pure, Except.ok.injEq]
  constructor
  · intro h
    have hleads := leads_of_find h
    rw [hleads.find_eq, bind_eq_ok] at h
    obtain ⟨start, hstart, h⟩ := h
    obtain ⟨place, hplace, htree⟩ := (hwalk start).mp h
    exact ⟨hleads, start, place, hstart, hplace, htree⟩
  · rintro ⟨hleads, start, place, hstart, hplace, htree⟩
    rw [hleads.find_eq, bind_eq_ok]
    exact ⟨start, hstart, (hwalk start).mpr ⟨place, hplace, htree⟩⟩

theorem startOf_proper {start : Place} (hproper : fs.root.Proper) (h : fs.startOf path = .ok start) :
    start.Proper := by
  unfold startOf at h
  split at h
  · cases h
    exact Place.proper_root hproper
  · exact Place.walk_proper h (Place.proper_root hproper)

theorem startOf_reordered {start : Place} (hproper : fs.root.Proper) (hr : fs.Reordered fs')
    (h : fs.startOf path = .ok start) :
    ∃ start', fs'.startOf path = .ok start' ∧ start.Reordered start' := by
  have hroot : Place.Reordered ⟨fs.root, []⟩ ⟨fs'.root, []⟩ := ⟨hr.root, .nil⟩
  unfold startOf at h ⊢
  by_cases habsolute : Path.isAbsolute path.bytes = true
  · rw [if_pos habsolute] at h ⊢
    cases h
    exact ⟨_, rfl, hroot⟩
  · rw [if_neg habsolute] at h ⊢
    rw [here, ← hr.workingDir]
    exact Place.walk_reordered h (Place.proper_root hproper) hroot

theorem find_proper (hproper : fs.root.Proper) (h : fs.find path = .ok tree) : tree.Proper := by
  obtain ⟨-, start, place, hstart, hwalk, rfl⟩ := find_eq_ok_iff.mp h
  exact (Place.walk_proper hwalk (startOf_proper hproper hstart)).tree

theorem find_reordered (hproper : fs.root.Proper) (hr : fs.Reordered fs')
    (h : fs.find path = .ok tree) : ∃ tree', fs'.find path = .ok tree' ∧ tree.Reordered tree' := by
  obtain ⟨hleads, start, place, hstart, hwalk, rfl⟩ := find_eq_ok_iff.mp h
  obtain ⟨start', hstart', hr'⟩ := startOf_reordered hproper hr hstart
  obtain ⟨place', hwalk', hr''⟩ := Place.walk_reordered hwalk (startOf_proper hproper hstart) hr'
  exact ⟨place'.tree, find_eq_ok_iff.mpr ⟨hleads, start', place', hstart', hwalk', rfl⟩, hr''.tree⟩

/-- A path to a file ends with the name of the file. -/
theorem exists_fileName (hproper : fs.root.Proper) {content : ByteArray}
    (h : fs.find path = .ok (.file content)) : ∃ name, path.fileName? = some name := by
  obtain ⟨-, start, place, hstart, hwalk, htree⟩ := find_eq_ok_iff.mp h
  obtain ⟨front, last, hcut⟩ := (List.eq_nil_or_concat _).resolve_left
    (Text.cut_ne_nil Path.slash path.bytes)
  rw [List.concat_eq_append] at hcut
  rw [hcut, walk, List.foldlM_append, bind_eq_ok] at hwalk
  obtain ⟨p, hfront, hlast⟩ := hwalk
  obtain ⟨q, hstep, hend⟩ := Place.walk_cons_eq_ok_iff.mp hlast
  obtain rfl : q = place := Except.ok.inj hend
  have hp : p.Proper := Place.walk_proper hfront (startOf_proper hproper hstart)
  cases Place.Steps.of_step hstep with
  | stays dir | top dir =>
      rw [dir] at htree
      cases htree
  | up dir up below =>
      have habove := hp.above
      rw [below] at habove
      have hdir := (List.forall_mem_cons.mp habove).1.2
      dsimp only at htree
      rw [htree] at hdir
      cases hdir
  | enters dir named down =>
      exact ⟨⟨last⟩, by rw [FilePath.fileName?, Path.fileName?_of_cut hcut named down, Option.map_some]⟩

theorem find_error_of_long (fs : Files) (h : pathLimit ≤ path.size) : ∃ fault, fs.find path = .error fault := by
  cases hfind : fs.find path with
  | error fault => exact ⟨fault, rfl⟩
  | ok tree => exact absurd (leads_of_find hfind).short (Nat.not_lt.mpr h)

theorem Leads.join {dir : FilePath} {name : FileName} (h : Leads dir) (hname : name.IsName)
    (hshort : (dir.join name).size < pathLimit) : Leads (dir.join name) where
  noNul := by
    have hdir : 0 ∉ dir.bytes := by simpa using h.noNul
    have hjoin : 0 ∉ (dir.join name).bytes := fun hmem => by
      rcases Path.mem_append hname.noSlash hmem with hmem | hslash | hmem
      · exact hdir hmem
      · exact absurd hslash (by decide)
      · exact hname.noNul hmem
    simpa using hjoin
  short := hshort
  nonempty := by
    have hdir : dir.bytes ≠ [] := by simpa using h.nonempty
    have hjoin : (dir.join name).bytes ≠ [] := fun hnil => by
      have hlength := FilePath.size_le_join hname dir
      rw [FilePath.size, FilePath.size, hnil] at hlength
      exact hdir (List.eq_nil_of_length_eq_zero (Nat.le_zero.mp hlength))
    simpa using hjoin

/-- The slash at the end of the path of a directory is a step that stays there. -/
theorem walk_of_walk_concat_nil {start place : Place} {pieces : List (List UInt8)}
    (h : walk start (pieces ++ [[]]) = .ok place) : walk start pieces = .ok place := by
  rw [walk, List.foldlM_append, bind_eq_ok] at h
  obtain ⟨p, hfront, hlast⟩ := h
  obtain ⟨q, hstep, hend⟩ := Place.walk_cons_eq_ok_iff.mp hlast
  obtain rfl : q = place := Except.ok.inj hend
  cases Place.Steps.of_step hstep with
  | stays | top => exact hfront
  | up _ up => cases up
  | enters _ named => cases named

/-- From the path of a directory the name of an entry leads on to the entry. -/
theorem find_join {dir : FilePath} {entries : List (FileName × FileTree)} {name : FileName}
    (h : fs.find dir = .ok (.dir entries)) (hname : name.IsName)
    (hentry : entries.lookup name = some tree) (hshort : (dir.join name).size < pathLimit) :
    fs.find (dir.join name) = .ok tree := by
  obtain ⟨hleads, start, place, hstart, hwalk, htree⟩ := find_eq_ok_iff.mp h
  have hdir : dir.bytes ≠ [] := by simpa using hleads.nonempty
  obtain ⟨front, hcut, -, hfront⟩ := Path.cut_append hname.noSlash hdir
  have hplace : walk start front = .ok place := by
    rcases hfront with hfront | hfront
    · rwa [hfront] at hwalk
    · rw [hfront] at hwalk
      exact walk_of_walk_concat_nil hwalk
  have hstep : step place name.bytes = .ok ⟨tree, place.tree :: place.above⟩ :=
    Place.Steps.step (.enters htree hname.not_isIdle hname.ne_up hname.short hentry)
  have hstart' : fs.startOf (dir.join name) = .ok start := by
    rw [startOf, FilePath.join, Path.isAbsolute_append hname.noSlash hdir]
    exact hstart
  refine find_eq_ok_iff.mpr ⟨hleads.join hname hshort, start, ⟨tree, place.tree :: place.above⟩, hstart', ?_, rfl⟩
  rw [FilePath.join, hcut, walk, List.foldlM_append, bind_eq_ok]
  exact ⟨place, hplace, Place.walk_cons_eq_ok_iff.mpr ⟨_, hstep, rfl⟩⟩

theorem isDir_of_find (h : fs.find path = .ok tree) : fs.isDir path = tree.isDir := by
  rw [isDir, h]

theorem isDir_of_long (h : pathLimit ≤ path.size) : fs.isDir path = false := by
  obtain ⟨fault, hfault⟩ := find_error_of_long fs h
  rw [isDir, hfault]

end Files

end Scopemark
