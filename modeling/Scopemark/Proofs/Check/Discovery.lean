import Scopemark.Check.Discovery
import Scopemark.Proofs.Files.Tree

namespace Scopemark.Check

open FileTree FilePath

variable {extensions : List String} {name : FileName} {path : FilePath} {names : List FileName}
  {tree other : FileTree} {entries : List (FileName × FileTree)} {fs fs' : Files}

def HasExtension (name : FileName) (extension : String) : Prop :=
  ∃ stem, stem ≠ [] ∧ name.bytes = stem ++ Path.dot :: (ofString extension).bytes ∧
    Path.dot ∉ (ofString extension).bytes

def Dotted (name : FileName) : Prop := name.bytes.head? = some Path.dot

instance : DecidablePred Dotted := fun name => inferInstanceAs (Decidable (name.bytes.head? = _))

def DottedText (name : FileName) : Prop := Dotted name ∧ name.text? ≠ none

/-- What the names lead to is a fixture if it is a file. -/
structure IsFixture (hides : FileName → Prop) (extensions : List String) (names : List FileName) :
    Prop where
  shown : ∀ n ∈ names, ¬ hides n
  entered : ∀ n ∈ names.dropLast, n ≠ ofString "target" ∧ n ≠ ofString "node_modules"
  extension : ∃ name ∈ names.getLast?, ∃ e ∈ extensions, HasExtension name e

/-- The names lead from what has the path to a file, or to a directory whose path is too long. Only what
has a short path can be gone through. -/
inductive TakenForFile : FilePath → FileTree → List FileName → Prop
  | file (path : FilePath) (content : ByteArray) : TakenForFile path (.file content) []
  | tooLong {path : FilePath} (long : Files.pathLimit ≤ path.size)
      (entries : List (FileName × FileTree)) : TakenForFile path (.dir entries) []
  | inside {path : FilePath} {entries : List (FileName × FileTree)} {name : FileName} {tree : FileTree}
      {names : List FileName} (short : path.size < Files.pathLimit) (entry : (name, tree) ∈ entries)
      (rest : TakenForFile (path.join name) tree names) : TakenForFile path (.dir entries) (name :: names)

theorem nameText_eq_iff {t : String} (ht : t ≠ "") : nameText name = t ↔ name = ofString t := by
  rw [nameText, ← text?_eq_some_iff]
  cases name.text? with
  | none => simp [ht.symm]
  | some s => simp

theorem isSkipped_iff : isSkipped name = true ↔ name = ofString "target" ∨ name = ofString "node_modules" := by
  rw [isSkipped, Bool.or_eq_true, beq_iff_eq, beq_iff_eq, nameText_eq_iff (by decide),
    nameText_eq_iff (by decide)]

/-- The byte of a dot is not a part of any other character. -/
theorem dotted_ofString (s : String) : Dotted s ↔ s.toList.head? = some '.' := by
  have hlossy : Text.lossy (ofString s).bytes = s.toList := by rw [bytes_ofString, Text.lossy_utf8]
  rw [Dotted]
  constructor
  · intro h
    obtain ⟨rest, hrest⟩ := List.head?_eq_some_iff.mp h
    rw [← hlossy, hrest]
    rfl
  · intro h
    obtain ⟨rest, hrest⟩ := List.head?_eq_some_iff.mp h
    rw [bytes_ofString, hrest]
    rfl

theorem isHidden_ofString (s : String) : isHidden s = (s.toList.head? == some '.') := by
  rw [isHidden, nameText, text?_ofString, Option.getD_some]

theorem isSkipped_ofString (s : String) : isSkipped s = (s == "target" || s == "node_modules") := by
  rw [isSkipped, nameText, text?_ofString, Option.getD_some]

theorem isHidden_iff : isHidden name = true ↔ DottedText name := by
  rw [isHidden, nameText, beq_iff_eq, DottedText]
  cases h : name.text? with
  | none => simp
  | some s =>
      obtain rfl := text?_eq_some_iff.mp h
      simp [dotted_ofString]

theorem hasExtension_iff :
    hasExtension extensions path = true ↔ ∃ e ∈ extensions, path.extension? = some (ofString e) := by
  simp only [hasExtension, Option.any_eq_true, List.contains_eq_mem, decide_eq_true_iff,
    Option.bind_eq_some_iff, text?_eq_some_iff]
  constructor
  · rintro ⟨e, ⟨_, he, rfl⟩, hmem⟩
    exact ⟨e, hmem, he⟩
  · rintro ⟨e, hmem, he⟩
    exact ⟨e, ⟨_, he, rfl⟩, hmem⟩

def namedFixture (extensions : List String) (name : FileName) : Bool :=
  extensions.any fun e => Path.nameExtension? name.bytes == some (ofString e).bytes

def admits (extensions : List String) (names : List FileName) : Bool :=
  names.all (fun n => !isHidden n) && names.dropLast.all (fun n => !isSkipped n) &&
    names.getLast?.any (namedFixture extensions)

theorem namedFixture_iff :
    namedFixture extensions name = true ↔ ∃ e ∈ extensions, HasExtension name e := by
  simp only [namedFixture, List.any_eq_true, beq_iff_eq, HasExtension, Path.nameExtension?_eq_some_iff]

theorem hasExtension_of_name (h : path.extension? = (Path.nameExtension? name.bytes).map .mk) :
    hasExtension extensions path = namedFixture extensions name := by
  have hname (e : String) : (Path.nameExtension? name.bytes).map FilePath.mk = some (ofString e) ↔
      Path.nameExtension? name.bytes = some (ofString e).bytes :=
    Option.map_eq_some_iff.trans ⟨fun ⟨_, h, h'⟩ => h' ▸ h, fun h => ⟨_, h, rfl⟩⟩
  rw [Bool.eq_iff_iff, hasExtension_iff, h]
  simp only [namedFixture, List.any_eq_true, beq_iff_eq, hname]

theorem hasExtension_join (h : IsName name) (dir : FilePath) :
    hasExtension extensions (dir.join name) = namedFixture extensions name :=
  hasExtension_of_name (extension?_join h dir)

theorem admits_iff : admits extensions names = true ↔ IsFixture DottedText extensions names := by
  have hshown : names.all (fun n => !isHidden n) = true ↔ ∀ n ∈ names, ¬ DottedText n := by
    simp [← isHidden_iff]
  have hentered : names.dropLast.all (fun n => !isSkipped n) = true ↔
      ∀ n ∈ names.dropLast, n ≠ ofString "target" ∧ n ≠ ofString "node_modules" := by
    simp [← not_or, ← isSkipped_iff]
  have hextension : names.getLast?.any (namedFixture extensions) = true ↔
      ∃ name ∈ names.getLast?, ∃ e ∈ extensions, HasExtension name e := by
    rw [Option.any_eq_true]
    exact exists_congr fun n => and_congr_right fun _ => namedFixture_iff
  rw [admits, Bool.and_eq_true, Bool.and_eq_true, hshown, hentered, hextension, and_assoc]
  exact ⟨fun ⟨h, h', h''⟩ => ⟨h, h', h''⟩, fun h => ⟨h.shown, h.entered, h.extension⟩⟩

/-- Where all names are text, whatever starts with a dot is hidden. -/
theorem isFixture_iff_of_text (h : ∀ n ∈ names, n.text? ≠ none) :
    IsFixture DottedText extensions names ↔ IsFixture Dotted extensions names := by
  have hshown : (∀ n ∈ names, ¬ DottedText n) ↔ ∀ n ∈ names, ¬ Dotted n :=
    forall₂_congr fun n hn => not_congr (and_iff_left (h n hn))
  exact ⟨fun h => ⟨hshown.mp h.shown, h.entered, h.extension⟩,
    fun h => ⟨hshown.mpr h.shown, h.entered, h.extension⟩⟩

theorem admits_singleton : admits extensions [name] =
    (!isHidden name && namedFixture extensions name) := by
  simp [admits]

theorem admits_cons (h : names ≠ []) : admits extensions (name :: names) =
    (!isHidden name && (!isSkipped name && admits extensions names)) := by
  obtain ⟨first, rest, rfl⟩ := List.exists_cons_of_ne_nil h
  simp only [admits, List.all_cons, List.dropLast_cons_cons, List.getLast?_cons_cons, Bool.and_assoc,
    Bool.and_left_comm]

theorem admits_hidden (h : isHidden name = true) (names : List FileName) :
    admits extensions (name :: names) = false := by
  simp [admits, h]

mutual

def namesAt (path : FilePath) : FileTree → List (List FileName)
  | .file _ => [[]]
  | .dir entries => if path.size < Files.pathLimit then namesBelow path entries else [[]]

def namesBelow (dir : FilePath) : List (FileName × FileTree) → List (List FileName)
  | [] => []
  | (name, tree) :: rest => (namesAt (dir.join name) tree).map (name :: ·) ++ namesBelow dir rest

end

theorem namesBelow_eq (dir : FilePath) (entries : List (FileName × FileTree)) :
    namesBelow dir entries =
      entries.flatMap fun e => (namesAt (dir.join e.1) e.2).map (e.1 :: ·) := by
  induction entries with
  | nil => rw [namesBelow, List.flatMap_nil]
  | cons e rest ih => rw [namesBelow, ih, List.flatMap_cons]

theorem ne_nil_of_mem_namesBelow {dir : FilePath} (h : names ∈ namesBelow dir entries) : names ≠ [] := by
  rw [namesBelow_eq, List.mem_flatMap] at h
  obtain ⟨e, -, hnames⟩ := h
  obtain ⟨rest, -, rfl⟩ := List.mem_map.mp hnames
  exact List.cons_ne_nil e.1 rest

theorem mem_namesAt_iff (path : FilePath) (tree : FileTree) (names : List FileName) :
    names ∈ namesAt path tree ↔ TakenForFile path tree names := by
  induction tree using tree_induction generalizing path names with
  | file content =>
      rw [namesAt, List.mem_singleton]
      constructor
      · rintro rfl
        exact .file path content
      · rintro ⟨⟩
        rfl
  | dir entries ih =>
      rw [namesAt]
      split
      next hshort =>
        rw [namesBelow_eq, List.mem_flatMap]
        constructor
        · rintro ⟨⟨name, tree⟩, hentry, hnames⟩
          obtain ⟨rest, hrest, rfl⟩ := List.mem_map.mp hnames
          exact .inside hshort hentry ((ih _ hentry _ rest).mp hrest)
        · rintro (_ | ⟨long⟩ | ⟨_, hentry, hrest⟩)
          · exact absurd hshort (Nat.not_lt.mpr long)
          · exact ⟨_, hentry, List.mem_map_of_mem ((ih _ hentry _ _).mpr hrest)⟩
      next hlong =>
        rw [List.mem_singleton]
        constructor
        · rintro rfl
          exact .tooLong (Nat.not_lt.mp hlong) entries
        · rintro (_ | _ | ⟨hshort⟩)
          · rfl
          · exact absurd hshort hlong

theorem TakenForFile.has (h : TakenForFile path tree names) : ∃ item, tree.Has names item := by
  induction h with
  | file path content => exact ⟨_, .here _⟩
  | tooLong long entries => exact ⟨_, .here _⟩
  | inside short entry rest ih =>
      obtain ⟨item, hitem⟩ := ih
      exact ⟨item, .inside entry hitem⟩

theorem TakenForFile.isName (h : TakenForFile path tree names) (hproper : tree.Proper) :
    ∀ n ∈ names, IsName n := by
  obtain ⟨item, hitem⟩ := h.has
  exact hitem.isName hproper

theorem TakenForFile.hasFile (h : TakenForFile path tree names)
    (hshort : (path.below names).size < Files.pathLimit) : tree.HasFile names := by
  induction h with
  | file path content => exact ⟨content, .here _⟩
  | tooLong long entries => exact absurd hshort (Nat.not_lt.mpr long)
  | inside short entry rest ih =>
      obtain ⟨content, hcontent⟩ := ih hshort
      exact ⟨content, .inside entry hcontent⟩

theorem TakenForFile.of_has {content : ByteArray} (h : tree.Has names (.file content))
    (hproper : tree.Proper) (hshort : (path.below names).size < Files.pathLimit) :
    TakenForFile path tree names := by
  generalize hitem : FileTree.file content = item at h
  induction h generalizing path with
  | here tree =>
      subst hitem
      exact .file path content
  | inside entry rest ih =>
      have hnames := (Has.inside entry rest).isName hproper
      cases hproper with
      | dir _ _ proper =>
          exact .inside ((size_le_below hnames path).trans_lt hshort) entry
            (ih (proper _ entry) hshort hitem)

/-- Where the path is short enough, nothing but a file is taken for one. -/
theorem takenForFile_iff_hasFile (hproper : tree.Proper)
    (hshort : (path.below names).size < Files.pathLimit) :
    TakenForFile path tree names ↔ tree.HasFile names :=
  ⟨fun h => h.hasFile hshort, fun ⟨_, h⟩ => .of_has h hproper hshort⟩

theorem TakenForFile.reordered (h : TakenForFile path tree names) (hr : tree.Reordered other) :
    TakenForFile path other names := by
  induction h generalizing other with
  | file path content =>
      obtain rfl := hr.eq_file rfl
      exact .file path content
  | tooLong long entries =>
      obtain ⟨others, rfl, -⟩ := hr.exists_entries rfl
      exact .tooLong long others
  | inside short entry rest ih =>
      obtain ⟨others, rfl, -, hentries⟩ := hr.exists_entries rfl
      obtain ⟨other, hentry, hr⟩ := hentries _ _ entry
      exact .inside short hentry (ih hr)

theorem nodup_namesAt (h : tree.Proper) (path : FilePath) : (namesAt path tree).Nodup := by
  induction h generalizing path with
  | file content => exact List.nodup_singleton _
  | dir distinct named proper ih =>
      rw [namesAt]
      split
      · rw [namesBelow_eq, List.nodup_flatMap]
        refine ⟨fun e he => (ih e he _).map List.cons_injective, ?_⟩
        refine (List.pairwise_map.mp distinct).imp fun hne => ?_
        intro names h h'
        obtain ⟨_, -, rfl⟩ := List.mem_map.mp h
        obtain ⟨_, -, heq⟩ := List.mem_map.mp h'
        exact hne (List.cons_eq_cons.mp heq).1.symm
      · exact List.nodup_singleton _

theorem fixturesBelow_eq (dir : FilePath) (entries : List (FileName × FileTree)) :
    fixturesBelow fs extensions dir entries = entries.flatMap fun e =>
      if isHidden e.1 then [] else fixturesAt fs extensions (dir.join e.1) e.1 e.2 := by
  induction entries with
  | nil => rw [fixturesBelow, List.flatMap_nil]
  | cons e rest ih => rw [fixturesBelow, ih, List.flatMap_cons]

def Seen (fs : Files) (path : FilePath) (tree : FileTree) : Prop :=
  path.size < Files.pathLimit → fs.find path = .ok tree

def FindsFixtures (fs : Files) (extensions : List String) (tree : FileTree) : Prop :=
  ∀ (dir name : FilePath), IsName name → isHidden name = false → Seen fs (dir.join name) tree →
    fixturesAt fs extensions (dir.join name) name tree =
      ((namesAt (dir.join name) tree).filter fun names => admits extensions (name :: names)).map
        (dir.join name).below

theorem fixturesBelow_eq_names (hfind : fs.find path = .ok (.dir entries))
    (hproper : (FileTree.dir entries).Proper) (h : ∀ e ∈ entries, FindsFixtures fs extensions e.2) :
    fixturesBelow fs extensions path entries =
      ((namesBelow path entries).filter (admits extensions)).map path.below := by
  cases hproper with
  | dir distinct named proper =>
      rw [fixturesBelow_eq, namesBelow_eq, List.filter_flatMap, List.map_flatMap]
      refine List.flatMap_congr fun e he => ?_
      rw [List.filter_map, List.map_map]
      cases hhidden : isHidden e.1 with
      | true =>
          have hnone : (namesAt (path.join e.1) e.2).filter (admits extensions ∘ (e.1 :: ·)) = [] :=
            List.filter_eq_nil_iff.mpr fun names _ => by simp [admits_hidden hhidden]
          rw [if_pos rfl, hnone, List.map_nil]
      | false =>
          have hseen : Seen fs (path.join e.1) e.2 :=
            Files.find_join hfind (named e he) ((lookup_eq_some_iff distinct).mpr he)
          exact h e he path e.1 (named e he) hhidden hseen

/-- What cannot be gone through is found if its name is that of a fixture. -/
theorem fixture_alone (hname : IsName name) (hhidden : isHidden name = false) (dir : FilePath) :
    (if hasExtension extensions (dir.join name) = true then [dir.join name] else []) =
      ([[]].filter fun names => admits extensions (name :: names)).map (dir.join name).below := by
  rw [hasExtension_join hname, List.filter_singleton, admits_singleton, hhidden]
  cases namedFixture extensions name <;> rfl

theorem findsFixtures (h : tree.Proper) : FindsFixtures fs extensions tree := by
  induction h with
  | file content =>
      intro dir name hname hhidden _
      rw [fixturesAt, namesAt, fixture_alone hname hhidden]
  | @dir entries distinct named proper ih =>
      intro dir name hname hhidden hseen
      rw [fixturesAt, namesAt]
      by_cases hshort : (dir.join name).size < Files.pathLimit
      · rw [Files.isDir_of_find (hseen hshort), FileTree.isDir, if_pos rfl, if_pos hshort]
        cases hskipped : isSkipped name with
        | true =>
            have hnone : (namesBelow (dir.join name) entries).filter
                (fun names => admits extensions (name :: names)) = [] := by
              refine List.filter_eq_nil_iff.mpr fun names hnames => ?_
              simp [admits_cons (ne_nil_of_mem_namesBelow hnames), hskipped]
            rw [if_pos rfl, hnone, List.map_nil]
        | false =>
            have hsame : (namesBelow (dir.join name) entries).filter
                (fun names => admits extensions (name :: names)) =
                  (namesBelow (dir.join name) entries).filter (admits extensions) := by
              refine List.filter_congr fun names hnames => ?_
              simp [admits_cons (ne_nil_of_mem_namesBelow hnames), hskipped, hhidden]
            rw [if_neg Bool.false_ne_true, hsame]
            exact fixturesBelow_eq_names (hseen hshort) (.dir distinct named proper) ih
      · rw [Files.isDir_of_long (Nat.not_lt.mp hshort), if_neg Bool.false_ne_true, if_neg hshort,
          fixture_alone hname hhidden]

def fixtureNames (extensions : List String) (dir : FilePath) (entries : List (FileName × FileTree)) :
    List (List FileName) :=
  ((namesAt dir (.dir entries)).filter (admits extensions)).mergeSort fun a b => decide (a ≤ b)

theorem mem_fixtureNames : names ∈ fixtureNames extensions path entries ↔
    TakenForFile path (.dir entries) names ∧ IsFixture DottedText extensions names := by
  rw [fixtureNames, List.mem_mergeSort, List.mem_filter, admits_iff, mem_namesAt_iff]

theorem pairwise_fixtureNames (extensions : List String) (path : FilePath)
    (h : (FileTree.dir entries).Proper) : (fixtureNames extensions path entries).Pairwise (· < ·) := by
  have hle : (fixtureNames extensions path entries).Pairwise fun a b => decide (a ≤ b) = true :=
    List.pairwise_mergeSort (fun a b c => by simpa using le_trans) (fun a b => by simpa using le_total a b) _
  have hnodup : (fixtureNames extensions path entries).Nodup :=
    (List.mergeSort_perm _ _).nodup_iff.mpr ((nodup_namesAt h path).filter _)
  exact (hle.and hnodup).imp fun h => lt_of_le_of_ne (of_decide_eq_true h.1) h.2

theorem discover_eq (h : fs.find path = .ok (.dir entries)) (hproper : (FileTree.dir entries).Proper) :
    discover fs extensions path = (fixtureNames extensions path entries).map path.below := by
  have hshort := (Files.leads_of_find h).short
  have hfinds (e : FileName × FileTree) (he : e ∈ entries) : FindsFixtures fs extensions e.2 := by
    cases hproper with
    | dir _ _ proper => exact findsFixtures (proper e he)
  rw [discover, h]
  dsimp only
  rw [fixturesBelow_eq_names h hproper hfinds, fixtureNames, namesAt, if_pos hshort, List.map_mergeSort]
  intro a ha b hb
  have hnames {names : List FileName} (h : names ∈ (namesBelow path entries).filter (admits extensions)) :
      ∀ n ∈ names, IsName n := by
    have hmem : names ∈ namesAt path (.dir entries) := by
      rw [namesAt, if_pos hshort]
      exact (List.mem_filter.mp h).1
    exact ((mem_namesAt_iff _ _ _).mp hmem).isName hproper
  rw [lt_below (hnames hb) (hnames ha), ← decide_not, decide_eq_decide, not_lt]

theorem pairwise_lt_discover (h : fs.find path = .ok (.dir entries))
    (hproper : (FileTree.dir entries).Proper) :
    (discover fs extensions path).Pairwise fun a b => a.lt b = true := by
  rw [discover_eq h hproper, List.pairwise_map]
  refine (pairwise_fixtureNames extensions path hproper).imp_of_mem fun ha hb hlt => ?_
  have ha := (mem_fixtureNames.mp ha).1.isName hproper
  have hb := (mem_fixtureNames.mp hb).1.isName hproper
  rw [lt_below ha hb]
  exact decide_eq_true hlt

theorem discoverAt_dir (h : fs.find path = .ok (.dir entries)) :
    discoverAt fs extensions path = discover fs extensions path := by
  have hfile : fs.isFile path = false := by rw [Files.isFile, h]; rfl
  rw [discoverAt, hfile]
  rfl

theorem discover_error {e : FileFault} (h : fs.find path = .error e) :
    discover fs extensions path = [] := by
  rw [discover, h]

theorem discoverAt_error {e : FileFault} (h : fs.find path = .error e) :
    discoverAt fs extensions path = [] := by
  have hfile : fs.isFile path = false := by rw [Files.isFile, h]
  rw [discoverAt, hfile, if_neg Bool.false_ne_true, discover_error h]

theorem discoverAt_file {content : ByteArray} (h : fs.find path = .ok (.file content))
    (hname : path.fileName? = some name) :
    discoverAt fs extensions path = if namedFixture extensions name then [path] else [] := by
  have hfile : fs.isFile path = true := by rw [Files.isFile, h]; rfl
  have hextension : path.extension? = (Path.nameExtension? name.bytes).map .mk := by
    obtain ⟨last, hlast, rfl⟩ := Option.map_eq_some_iff.mp hname
    rw [extension?, Path.extension?, hlast, Option.bind_some]
  rw [discoverAt, hfile, if_pos rfl, hasExtension_of_name hextension]

theorem fixtureNames_reordered {others : List (FileName × FileTree)}
    (hr : (FileTree.dir entries).Reordered (.dir others)) (hproper : (FileTree.dir entries).Proper) :
    fixtureNames extensions path entries = fixtureNames extensions path others := by
  have hsorted := pairwise_fixtureNames extensions path hproper
  have hsorted' := pairwise_fixtureNames extensions path (hproper.reordered hr)
  have hmem (names : List FileName) : names ∈ fixtureNames extensions path entries ↔
      names ∈ fixtureNames extensions path others := by
    rw [mem_fixtureNames, mem_fixtureNames]
    exact and_congr_left fun _ => ⟨fun h => h.reordered hr, fun h => h.reordered hr.symm⟩
  have hperm := (List.perm_ext_iff_of_nodup (hsorted.imp ne_of_lt) (hsorted'.imp ne_of_lt)).mpr hmem
  exact hperm.eq_of_pairwise (fun a b _ _ hab hba => absurd hba hab.asymm) hsorted hsorted'

theorem find_error_reordered (hproper : fs.root.Proper) (hr : fs.Reordered fs') {e : FileFault}
    (h : fs.find path = .error e) : ∃ e', fs'.find path = .error e' := by
  cases h' : fs'.find path with
  | error e' => exact ⟨e', rfl⟩
  | ok tree =>
      obtain ⟨tree', htree', -⟩ := Files.find_reordered (hproper.reordered hr.root) hr.symm h'
      rw [htree'] at h
      cases h

theorem discover_reordered (hproper : fs.root.Proper) (hr : fs.Reordered fs') :
    discover fs extensions path = discover fs' extensions path ∧
      discoverAt fs extensions path = discoverAt fs' extensions path := by
  cases h : fs.find path with
  | error e =>
      obtain ⟨e', h'⟩ := find_error_reordered hproper hr h
      rw [discover_error h, discover_error h', discoverAt_error h, discoverAt_error h']
      exact ⟨rfl, rfl⟩
  | ok tree =>
      obtain ⟨tree', h', hr'⟩ := Files.find_reordered hproper hr h
      have htree := Files.find_proper hproper h
      cases tree with
      | file content =>
          obtain rfl := hr'.eq_file rfl
          obtain ⟨name, hname⟩ := Files.exists_fileName hproper h
          rw [discoverAt_file h hname, discoverAt_file h' hname, discover, discover, h, h']
          exact ⟨rfl, rfl⟩
      | dir entries =>
          obtain ⟨others, rfl, -⟩ := hr'.exists_entries rfl
          rw [discoverAt_dir h, discoverAt_dir h', discover_eq h htree,
            discover_eq h' (htree.reordered hr'), fixtureNames_reordered hr' htree]
          exact ⟨rfl, rfl⟩

/-- Below a directory the fixtures are found, each one once and in the order of the names that lead to it;
these need not be in the order of paths as texts. A name that starts with a dot hides only if it is text,
and what has too long a path is taken for a file; elsewhere the files are found that have an extension
asked for and nothing hidden on the way. A file is found if its name has such an extension. Nothing of
this depends on the order of the entries of directories. -/
theorem discover_finds (hproper : fs.root.Proper) (extensions : List String) (path : FilePath) :
    (∀ entries, fs.find path = .ok (.dir entries) →
      ∃ found : List (List FileName),
        (∀ names, names ∈ found ↔
          TakenForFile path (.dir entries) names ∧ IsFixture DottedText extensions names) ∧
        (∀ names, (∀ n ∈ names, n.text? ≠ none) → (path.below names).size < Files.pathLimit →
          (names ∈ found ↔ (FileTree.dir entries).HasFile names ∧ IsFixture Dotted extensions names)) ∧
        found.Pairwise (· < ·) ∧
        discover fs extensions path = found.map path.below ∧
        (discover fs extensions path).Pairwise (fun a b => a.lt b = true) ∧
        discoverAt fs extensions path = discover fs extensions path) ∧
    (∀ content, fs.find path = .ok (.file content) →
      ∃ name, path.fileName? = some name ∧
        ((∃ e ∈ extensions, HasExtension name e) → discoverAt fs extensions path = [path]) ∧
        ((¬ ∃ e ∈ extensions, HasExtension name e) → discoverAt fs extensions path = [])) ∧
    (∀ fault, fs.find path = .error fault →
      discover fs extensions path = [] ∧ discoverAt fs extensions path = []) ∧
    (∀ fs' : Files, fs.Reordered fs' →
      discover fs' extensions path = discover fs extensions path ∧
        discoverAt fs' extensions path = discoverAt fs extensions path) := by
  refine ⟨fun entries h => ?_, fun content h => ?_, fun fault h => ?_, fun fs' hr => ?_⟩
  · have hdir := Files.find_proper hproper h
    refine ⟨fixtureNames extensions path entries, fun names => mem_fixtureNames, fun names htext hshort => ?_,
      pairwise_fixtureNames extensions path hdir, discover_eq h hdir, pairwise_lt_discover h hdir,
      discoverAt_dir h⟩
    rw [mem_fixtureNames, takenForFile_iff_hasFile hdir hshort, isFixture_iff_of_text htext]
  · obtain ⟨name, hname⟩ := Files.exists_fileName hproper h
    exact ⟨name, hname, fun hasked => by rw [discoverAt_file h hname, if_pos (namedFixture_iff.mpr hasked)],
      fun hasked => by rw [discoverAt_file h hname, if_neg (mt namedFixture_iff.mp hasked)]⟩
  · exact ⟨discover_error h, discoverAt_error h⟩
  · obtain ⟨hdiscover, hdiscoverAt⟩ := discover_reordered hproper hr
    exact ⟨hdiscover.symm, hdiscoverAt.symm⟩

def buildEntries : List (FileName × FileTree) :=
  [("a.cs", .file .empty), ("a", .dir [("target", .dir [("b.cs", .file .empty)]), ("b.cs", .file .empty)]),
    (".c.cs", .file .empty), ("d.md", .file .empty)]

/-- The path that comes first is behind the other one as a text. -/
theorem discover_finds_buildEntries :
    let fs : Files := ⟨.dir [("target", .dir buildEntries)], []⟩
    fs.root.Proper ∧ discover fs ["cs"] "target" = ([("target/a/b.cs" : FilePath), "target/a.cs"] : List FilePath) ∧
      (discover fs ["cs"] "target").Pairwise (fun a b => a.lt b = true) ∧
      "target/a.cs" < "target/a/b.cs" := by
  intro fs
  have hproper : fs.root.Proper := by decide +kernel
  have hfind : fs.find "target" = .ok (.dir buildEntries) := by rfl
  obtain ⟨_, -, -, -, -, hsorted, -⟩ := (discover_finds hproper ["cs"] "target").1 buildEntries hfind
  have hdir : fs.isDir (join "target" "a") = true := by decide +kernel
  have hdir' : fs.isDir (join (join "target" "a") "target") = true := by decide +kernel
  have ha : hasExtension ["cs"] (join "target" "a.cs") = true :=
    hasExtension_iff.mpr ⟨"cs", by decide, by decide +kernel⟩
  have hb : hasExtension ["cs"] (join (join "target" "a") "b.cs") = true :=
    hasExtension_iff.mpr ⟨"cs", by decide, by decide +kernel⟩
  have hd : ¬ hasExtension ["cs"] (join "target" "d.md") = true :=
    fun h => absurd (hasExtension_iff.mp h) (by decide +kernel)
  have hlisted : fixturesBelow fs ["cs"] "target" buildEntries =
      [join "target" "a.cs", join (join "target" "a") "b.cs"] := by
    simp [buildEntries, fixturesBelow, fixturesAt, isHidden_ofString, isSkipped_ofString, hdir, hdir', ha,
      hb, hd]
  have hlt : lt (join (join "target" "a") "b.cs") (join "target" "a.cs") = true := by decide +kernel
  have hpaths : [join (join "target" "a") "b.cs", join "target" "a.cs"] =
      (["target/a/b.cs", "target/a.cs"] : List FilePath) := by decide +kernel
  refine ⟨hproper, ?_, hsorted, by decide⟩
  rw [discover, hfind, ← hpaths]
  dsimp only
  rw [hlisted]
  simp [List.mergeSort, hlt]

def rawName : FileName := ⟨[0x2E, 0xFF]⟩

def rawEntries : List (FileName × FileTree) := [(rawName, .dir [("a.cs", .file .empty)])]

def rawFiles : Files := ⟨.dir [("t", .dir rawEntries)], []⟩

def longName : FileName := ⟨List.replicate 248 0x64 ++ [0x2E, 0x63, 0x73]⟩

def longFiles : Files := ⟨.dir [(longName, .dir [])], []⟩

def heres (count : Nat) : FilePath := ⟨(List.replicate count [Path.dot, Path.slash]).flatten⟩

theorem size_heres (count : Nat) : (heres count).size = 2 * count := by
  simp [heres, FilePath.size, Nat.mul_comm]

theorem cut_heres (count : Nat) :
    Text.cut Path.slash (heres count).bytes = List.replicate count [Path.dot] ++ [[]] := by
  induction count with
  | zero => rfl
  | succ count ih =>
      have hcut : (heres (count + 1)).bytes = [Path.dot] ++ Path.slash :: (heres count).bytes := rfl
      rw [hcut, Text.cut_append_sep, ih, List.replicate_succ]
      rfl

theorem find_heres {fs : Files} {place : Place} {count : Nat} (h : fs.here = .ok place) (hdir : place.tree = .dir entries)
    (hcount : 0 < count) (hshort : 2 * count < Files.pathLimit) :
    fs.find (heres count) = .ok (.dir entries) := by
  obtain ⟨count, rfl⟩ := Nat.exists_eq_add_one_of_ne_zero hcount.ne'
  have hleads : Files.Leads (heres (count + 1)) := ⟨by
    simp [heres, Path.dot, Path.slash], by rwa [size_heres], rfl⟩
  refine Files.find_eq_ok_iff.mpr ⟨hleads, place, place, h, ?_, hdir⟩
  rw [cut_heres]
  refine Place.walk_idle hdir fun piece hpiece => ?_
  rcases List.mem_append.mp hpiece with hpiece | hpiece
  · rw [List.eq_of_mem_replicate hpiece]
    rfl
  · rw [List.mem_singleton.mp hpiece]
    rfl

theorem discover_rawFiles : discover rawFiles ["cs"] "t" = [FilePath.below "t" [rawName, "a.cs"]] := by
  have hfind : rawFiles.find "t" = .ok (.dir rawEntries) := by rfl
  have hraw : rawName.text? = none := text?_eq_none_iff.mpr (by decide +kernel)
  have hdir : rawFiles.isDir (join "t" rawName) = true := by decide +kernel
  have ha : hasExtension ["cs"] (join (join "t" rawName) "a.cs") = true :=
    hasExtension_iff.mpr ⟨"cs", by decide, by decide +kernel⟩
  have hlisted : fixturesBelow rawFiles ["cs"] "t" rawEntries = [join (join "t" rawName) "a.cs"] := by
    simp [rawEntries, fixturesBelow, fixturesAt, isHidden, isSkipped, nameText, hraw, hdir, ha]
  rw [discover, hfind]
  dsimp only
  rw [hlisted, List.mergeSort_singleton]
  rfl

theorem discover_longFiles : longFiles.find (heres 1950) = .ok longFiles.root ∧
    discover longFiles ["cs"] (heres 1950) = [(heres 1950).join longName] := by
  have hfind : longFiles.find (heres 1950) = .ok longFiles.root :=
    find_heres rfl rfl (by decide) (by decide)
  have hname : IsName longName := by decide +kernel
  have hlong : Files.pathLimit ≤ ((heres 1950).join longName).size := by
    have hsize := add_size_le_join hname (heres 1950)
    have hlength : longName.size = 251 := by decide +kernel
    rw [size_heres, hlength] at hsize
    exact le_trans (by decide) hsize
  have ha : hasExtension ["cs"] ((heres 1950).join longName) = true := by
    rw [hasExtension_join hname]
    decide +kernel
  have htext : ¬ isHidden longName = true := fun h => absurd (isHidden_iff.mp h).1 (by decide +kernel)
  have hlisted : fixturesBelow longFiles ["cs"] (heres 1950) [(longName, .dir [])] =
      [(heres 1950).join longName] := by
    simp [fixturesBelow, fixturesAt, htext, Files.isDir_of_long hlong, ha]
  refine ⟨hfind, ?_⟩
  rw [discover, hfind]
  dsimp only [longFiles]
  rw [← longFiles, hlisted, List.mergeSort_singleton]

/-- What is hidden is found, and so is a directory. -/
theorem finds_hidden_and_directory :
    (rawFiles.root.Proper ∧ Dotted rawName ∧
      discover rawFiles ["cs"] "t" = [FilePath.below "t" [rawName, "a.cs"]]) ∧
    (longFiles.root.Proper ∧ longFiles.find (heres 1950) = .ok (.dir [(longName, .dir [])]) ∧
      discover longFiles ["cs"] (heres 1950) = [(heres 1950).join longName]) :=
  ⟨⟨by decide +kernel, by decide, discover_rawFiles⟩, by decide +kernel, discover_longFiles⟩

end Scopemark.Check
