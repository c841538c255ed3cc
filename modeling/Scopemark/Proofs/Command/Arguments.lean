import Mathlib.Data.List.Basic
import Mathlib.Data.List.Induction
import Mathlib.Data.String.Basic
import Mathlib.Tactic.Tauto
import Scopemark.Command.Basic

namespace Scopemark

open Argument

inductive ArgumentKind
  | grammar
  | filter
  | extension
  | verbose
  | sequential
  | exact
  | path
  | unknown
deriving DecidableEq

variable {arg name other v : String} {args others : List String} {a : TestArgument}
  {k : ArgumentKind} {o : TestOptions}

namespace Argument

theorem value?_eq_some_iff : value? name arg = some v ↔ arg = name ++ v := by
  unfold value?
  rw [Option.map_eq_some_iff]
  constructor
  · rintro ⟨rest, hrest, rfl⟩
    rw [← String.toList_inj, String.toList_append, String.toList_ofList]
    exact (List.isPrefixOf?_eq_some_iff_append_eq.mp hrest).symm
  · rintro rfl
    exact ⟨v.toList, List.isPrefixOf?_eq_some_iff_append_eq.mpr String.toList_append.symm,
      String.ofList_toList⟩

theorem value?_append (name v : String) : value? name (name ++ v) = some v :=
  value?_eq_some_iff.mpr rfl

theorem value?_eq_none_iff : value? name arg = none ↔ ∀ v, arg ≠ name ++ v := by
  rw [Option.eq_none_iff_forall_ne_some]
  exact forall_congr' fun v => not_congr value?_eq_some_iff

/-- Neither of the options is the other one with something behind it. -/
def Apart (name other : String) : Prop :=
  ¬ name.toList <+: other.toList ∧ ¬ other.toList <+: name.toList

instance : Decidable (Apart name other) := inferInstanceAs (Decidable (_ ∧ _))

theorem Apart.value?_eq_none (h : Apart name other) (v : String) : value? name (other ++ v) = none := by
  rw [value?_eq_none_iff]
  intro w heq
  have hname : name.toList <+: (other ++ v).toList := by
    rw [heq, String.toList_append]
    exact List.prefix_append _ _
  have hother : other.toList <+: (other ++ v).toList := by
    rw [String.toList_append]
    exact List.prefix_append _ _
  exact (List.prefix_or_prefix_of_prefix hname hother).elim h.1 h.2

theorem isOption_append (h : isOption name = true) (v : String) : isOption (name ++ v) = true := by
  unfold isOption at h ⊢
  rw [beq_iff_eq] at h ⊢
  rw [String.toList_append, List.head?_append, h, Option.some_or]

theorem value?_eq_none_of_plain (h : isOption arg = false) (hname : isOption name = true) :
    value? name arg = none := by
  rw [value?_eq_none_iff]
  rintro v rfl
  rw [isOption_append hname] at h
  cases h

def valued : List String := ["--grammar=", "--filter=", "--ext="]

def flags : List String := ["--verbose", "-v", "--no-parallel", "--exact"]

def isUnknown (arg : String) : Bool :=
  isOption arg && valued.all (fun name => (value? name arg).isNone) && !flags.contains arg

theorem isUnknown_iff : isUnknown arg = true ↔
    isOption arg = true ∧ (∀ name ∈ valued, value? name arg = none) ∧ arg ∉ flags := by
  simp [isUnknown, and_assoc]

end Argument

namespace ArgumentKind

/-- What an argument says if it is of this kind, whatever the other kinds are. -/
def value? : ArgumentKind → String → Option String
  | grammar, arg => Argument.value? "--grammar=" arg
  | filter, arg => Argument.value? "--filter=" arg
  | extension, arg => (Argument.value? "--ext=" arg).map withoutDots
  | verbose, arg => if arg = "--verbose" ∨ arg = "-v" then some "" else none
  | sequential, arg => if arg = "--no-parallel" then some "" else none
  | exact, arg => if arg = "--exact" then some "" else none
  | path, arg => if isOption arg then none else some arg
  | unknown, arg => if isUnknown arg then some arg else none

def admits (k : ArgumentKind) (arg : String) : Bool := (k.value? arg).isSome

end ArgumentKind

namespace TestArgument

def kind : TestArgument → ArgumentKind
  | grammar _ => .grammar
  | filter _ => .filter
  | extension _ => .extension
  | verbose => .verbose
  | sequential => .sequential
  | exact => .exact
  | path _ => .path
  | unknown _ => .unknown

def text : TestArgument → String
  | grammar v | filter v | extension v | path v | unknown v => v
  | verbose | sequential | exact => ""

def value? (k : ArgumentKind) (a : TestArgument) : Option String :=
  if a.kind = k then some a.text else none

theorem value?_kind_of (arg : String) : (of arg).kind.value? arg = some (of arg).text := by
  unfold of
  cases hgrammar : Argument.value? "--grammar=" arg with
  | some v => exact hgrammar
  | none =>
      cases hfilter : Argument.value? "--filter=" arg with
      | some v => exact hfilter
      | none =>
          cases hext : Argument.value? "--ext=" arg with
          | some v => exact congrArg (Option.map withoutDots) hext
          | none =>
              simp only [Bool.or_eq_true, beq_iff_eq]
              split_ifs with hverbose hsequential hexact hoption
              · exact if_pos hverbose
              · exact if_pos hsequential
              · exact if_pos hexact
              · have hvalued : ∀ name ∈ valued, Argument.value? name arg = none := by
                  simp only [valued, List.forall_mem_cons]
                  exact ⟨hgrammar, hfilter, hext, nofun⟩
                have hflags : arg ∉ flags := by
                  simpa [flags, hsequential, hexact] using hverbose
                exact if_pos (isUnknown_iff.mpr ⟨hoption, hvalued, hflags⟩)
              · exact if_neg hoption

theorem of_eq_of_none (hvalued : ∀ name ∈ valued, Argument.value? name arg = none)
    (hflags : arg ∉ flags) : of arg = if isOption arg then .unknown arg else .path arg := by
  simp only [valued, List.forall_mem_cons] at hvalued
  obtain ⟨hgrammar, hfilter, hext, -⟩ := hvalued
  simp only [flags, List.mem_cons, not_or] at hflags
  obtain ⟨hverbose, hshort, hsequential, hexact, -⟩ := hflags
  simp [of, hgrammar, hfilter, hext, hverbose, hshort, hsequential, hexact]

theorem of_of_plain (h : isOption arg = false) : of arg = .path arg := by
  have hvalued : ∀ name ∈ valued, isOption name = true := by decide
  have hflags : ∀ flag ∈ flags, isOption flag = true := by decide
  rw [of_eq_of_none (fun name hname => value?_eq_none_of_plain h (hvalued name hname)), h]
  · rfl
  · intro hmem
    rw [hflags arg hmem] at h
    cases h

/-- No kind gets in the way of another one. -/
theorem kind_of (h : k.value? arg = some v) : (of arg).kind = k ∧ (of arg).text = v := by
  cases k with
  | grammar =>
      obtain rfl := value?_eq_some_iff.mp h
      rw [of, value?_append]
      exact ⟨rfl, rfl⟩
  | filter =>
      obtain rfl := value?_eq_some_iff.mp h
      rw [of, Apart.value?_eq_none (by decide), value?_append]
      exact ⟨rfl, rfl⟩
  | extension =>
      obtain ⟨w, hw, rfl⟩ := Option.map_eq_some_iff.mp h
      obtain rfl := value?_eq_some_iff.mp hw
      rw [of, Apart.value?_eq_none (by decide), Apart.value?_eq_none (by decide), value?_append]
      exact ⟨rfl, rfl⟩
  | verbose =>
      obtain ⟨rfl | rfl, ⟨⟩⟩ := Option.ite_none_right_eq_some.mp h
      all_goals decide
  | sequential =>
      obtain ⟨rfl, ⟨⟩⟩ := Option.ite_none_right_eq_some.mp h
      decide
  | exact =>
      obtain ⟨rfl, ⟨⟩⟩ := Option.ite_none_right_eq_some.mp h
      decide
  | path =>
      obtain ⟨hplain, ⟨⟩⟩ := Option.ite_none_left_eq_some.mp h
      rw [of_of_plain (eq_false_of_ne_true hplain)]
      exact ⟨rfl, rfl⟩
  | unknown =>
      obtain ⟨hunknown, ⟨⟩⟩ := Option.ite_none_right_eq_some.mp h
      obtain ⟨hoption, hvalued, hflags⟩ := isUnknown_iff.mp hunknown
      rw [of_eq_of_none hvalued hflags, if_pos hoption]
      exact ⟨rfl, rfl⟩

theorem value?_of (k : ArgumentKind) (arg : String) : (of arg).value? k = k.value? arg := by
  ext v
  rw [value?, Option.ite_none_right_eq_some]
  constructor
  · rintro ⟨rfl, ⟨⟩⟩
    exact value?_kind_of arg
  · intro h
    obtain ⟨hkind, htext⟩ := kind_of h
    exact ⟨hkind, congrArg some htext⟩

theorem exists_unique_kind (arg : String) : ∃! k : ArgumentKind, k.admits arg = true := by
  refine ⟨(of arg).kind, by simp [ArgumentKind.admits, value?_kind_of], fun k h => ?_⟩
  obtain ⟨v, hv⟩ := Option.isSome_iff_exists.mp h
  exact (kind_of hv).1.symm

end TestArgument

theorem lastValue?_concat (name : String) (args : List String) (arg : String) :
    lastValue? name (args ++ [arg]) = (value? name arg).or (lastValue? name args) := by
  rw [lastValue?, List.filterMap_append, List.getLast?_append, lastValue?]
  cases h : value? name arg <;> simp [h]

theorem firstFile?_concat (args : List String) (arg : String) :
    firstFile? (args ++ [arg]) = (firstFile? args).or (ArgumentKind.path.value? arg) := by
  rw [firstFile?, List.find?_append, firstFile?]
  cases h : isOption arg <;> simp [ArgumentKind.value?, h]

theorem isSome_firstFile? (args : List String) :
    (firstFile? args).isSome = args.any fun arg => !isOption arg := List.isSome_find?

namespace TestOptions

def ignoredIn (args : List String) : List String :=
  (args.eraseP fun arg => !isOption arg).filter fun arg => !isOption arg || isUnknown arg

theorem ignoredIn_concat (args : List String) (arg : String) : ignoredIn (args ++ [arg]) =
    ignoredIn args ++ (ArgumentKind.unknown.value? arg).toList ++
      if (firstFile? args).isSome then (ArgumentKind.path.value? arg).toList else [] := by
  rw [ignoredIn, List.eraseP_append, ← isSome_firstFile?]
  -- Whether there is a file name before it decides what another one is for.
  cases hfile : (firstFile? args).isSome with
  | true =>
      rw [if_pos rfl, List.filter_append, ignoredIn]
      cases hoption : isOption arg with
      | true => cases h : isUnknown arg <;> simp [ArgumentKind.value?, hoption, h]
      | false => simp [ArgumentKind.value?, hoption, isUnknown]
  | false =>
      have hnone := List.any_eq_false.mp ((isSome_firstFile? args).symm.trans hfile)
      rw [if_neg Bool.false_ne_true, List.filter_append, ignoredIn, List.eraseP_of_forall_not hnone]
      cases hoption : isOption arg with
      | true => cases h : isUnknown arg <;> simp [ArgumentKind.value?, hoption, h]
      | false => simp [ArgumentKind.value?, hoption, isUnknown]

def lookup (args : List String) : TestOptions where
  grammar := (lastValue? "--grammar=" args).getD defaultGrammar
  filter := lastValue? "--filter=" args
  extensions := (args.filterMap (value? "--ext=")).map withoutDots
  verbose := args.contains "--verbose" || args.contains "-v"
  sequential := args.contains "--no-parallel"
  exact := args.contains "--exact"
  path := firstFile? args
  ignored := ignoredIn args

/-- An argument adds what it says to the setting of its kind, and nothing to any other one. -/
theorem take_eq (o : TestOptions) (a : TestArgument) : o.take a =
    { grammar := (a.value? .grammar).getD o.grammar
      filter := (a.value? .filter).or o.filter
      extensions := o.extensions ++ (a.value? .extension).toList
      verbose := o.verbose || (a.value? .verbose).isSome
      sequential := o.sequential || (a.value? .sequential).isSome
      exact := o.exact || (a.value? .exact).isSome
      path := o.path.or (a.value? .path)
      ignored := o.ignored ++ (a.value? .unknown).toList ++
        if o.path.isSome then (a.value? .path).toList else [] } := by
  cases a with
  | path path =>
      cases h : o.path <;> simp [take, h, TestArgument.value?, TestArgument.kind, TestArgument.text]
  | _ => simp [take, TestArgument.value?, TestArgument.kind, TestArgument.text]

theorem lookup_concat (args : List String) (arg : String) :
    lookup (args ++ [arg]) = (lookup args).take (TestArgument.of arg) := by
  simp only [take_eq, TestArgument.value?_of, lookup, mk.injEq]
  refine ⟨?grammar, lastValue?_concat _ args arg, ?extensions, ?verbose, ?sequential, ?exact,
    firstFile?_concat args arg, ignoredIn_concat args arg⟩
  case grammar => rw [lastValue?_concat, Option.getD_or]; rfl
  case extensions =>
    rw [List.filterMap_append, List.map_append]
    cases h : value? "--ext=" arg <;> simp [ArgumentKind.value?, h]
  case verbose =>
    rw [Bool.eq_iff_iff]
    simp [ArgumentKind.value?, eq_comm (a := arg)]
    tauto
  case sequential | exact =>
    rw [Bool.eq_iff_iff]
    simp [ArgumentKind.value?, eq_comm (a := arg)]

theorem ofArgs_eq_lookup (args : List String) : ofArgs args = lookup args := by
  -- From the last argument, which is taken after all others were read.
  induction args using List.reverseRecOn with
  | nil => rfl
  | append_singleton args arg ih =>
      rw [lookup_concat, ← ih, ofArgs, List.map_append, List.foldl_append]
      rfl

theorem filterMap_value?_filter (k : ArgumentKind) (args : List String) :
    (args.filter k.admits).filterMap k.value? = args.filterMap k.value? := by
  rw [List.filterMap_filter]
  refine List.filterMap_congr fun arg _ => ?_
  cases h : k.value? arg <;> simp [ArgumentKind.admits, h]

theorem extensions_lookup (args : List String) :
    (lookup args).extensions = args.filterMap ArgumentKind.extension.value? :=
  List.map_filterMap

theorem firstFile?_eq_head? (args : List String) :
    firstFile? args = (args.filterMap ArgumentKind.path.value?).head? := by
  rw [firstFile?, ← List.head?_filter, ← List.filterMap_eq_filter]
  refine congrArg List.head? (List.filterMap_congr fun arg _ => ?_)
  cases h : isOption arg <;> simp [ArgumentKind.value?, Option.guard, h]

/-- The arguments in another order, which is the same within each kind that has something to tell apart. -/
structure Reorders (others args : List String) : Prop where
  perm : others.Perm args
  grammar : others.filter ArgumentKind.grammar.admits = args.filter ArgumentKind.grammar.admits
  filter : others.filter ArgumentKind.filter.admits = args.filter ArgumentKind.filter.admits
  extension : others.filter ArgumentKind.extension.admits = args.filter ArgumentKind.extension.admits
  path : others.filter ArgumentKind.path.admits = args.filter ArgumentKind.path.admits

theorem lookup_of_reorders (h : Reorders others args) :
    lookup others = { lookup args with ignored := ignoredIn others } := by
  have hvalues (k : ArgumentKind) (hk : others.filter k.admits = args.filter k.admits) :
      others.filterMap k.value? = args.filterMap k.value? := by
    rw [← filterMap_value?_filter, hk, filterMap_value?_filter]
  have hflag (flag : String) : others.contains flag = args.contains flag := h.perm.contains_eq
  simp only [lookup, mk.injEq]
  refine ⟨?grammar, ?filter, ?extensions, ?verbose, hflag _, hflag _, ?path, trivial⟩
  case grammar => exact congrArg (·.getLast?.getD defaultGrammar) (hvalues .grammar h.grammar)
  case filter => exact congrArg List.getLast? (hvalues .filter h.filter)
  case extensions =>
    have hextensions := hvalues .extension h.extension
    rwa [← extensions_lookup, ← extensions_lookup] at hextensions
  case verbose => rw [hflag, hflag]
  case path => rw [firstFile?_eq_head?, hvalues .path h.path, ← firstFile?_eq_head?]

/-- Every argument is of one kind, and the run starts with the last grammar and filter, all extensions, the
options that are there at all and the first file name. It complains about the rest, each argument once, and
goes on as it does for the same arguments in another order. -/
theorem test_settings (fs : Files) (args : List String) :
    let path := (firstFile? args).getD (if fs.isDir defaultFixtures then defaultFixtures else ".")
    let grammar := (lastValue? "--grammar=" args).getD defaultGrammar
    let extensions := (args.filterMap (value? "--ext=")).map withoutDots
    let config : Check.Config :=
      { filter := lastValue? "--filter=" args
        verbose := args.contains "--verbose" || args.contains "-v"
        parallel := !args.contains "--no-parallel"
        mode := if args.contains "--exact" then .exact else .superset
        extensions := if extensions.isEmpty then ["cs"] else extensions }
    (∀ arg, ∃! k : ArgumentKind, k.admits arg = true) ∧
    (Command.ofArgs ("test" :: args)).run fs = (Command.runTest fs path grammar config).after
      ((ignoredIn args).map fun arg => "warning: ignoring unknown option '" ++ arg ++ "'") ∧
    ∀ others, Reorders others args → ∃ o, Command.ofArgs ("test" :: others) = .test o ∧
      o.pathIn fs = path ∧ o.grammar = grammar ∧ o.config = config ∧ o.ignored = ignoredIn others := by
  intro path grammar extensions config
  obtain ⟨hpath, hgrammar, hconfig⟩ : (lookup args).pathIn fs = path ∧
      (lookup args).grammar = grammar ∧ (lookup args).config = config := ⟨rfl, rfl, rfl⟩
  refine ⟨TestArgument.exists_unique_kind, ?_, fun others h => ?_⟩
  · change (Command.test (ofArgs args)).run fs = _
    rw [ofArgs_eq_lookup, Command.run, hpath, hgrammar, hconfig]
    rfl
  · refine ⟨ofArgs others, rfl, ?_⟩
    rw [ofArgs_eq_lookup, lookup_of_reorders h]
    exact ⟨hpath, hgrammar, hconfig, rfl⟩

/-- One of the grammars, the extension and the file names are moved, each past arguments of other kinds. -/
theorem test_settings_moved :
    let args := ["a.cs", "--grammar=g", "-x", "--ext=..x", "b", "--grammar=h", "-v"]
    let others := ["-v", "--ext=..x", "--grammar=g", "a.cs", "--grammar=h", "b", "-x"]
    Reorders others args ∧ ignoredIn args = ["-x", "b"] ∧
    ∃ o, Command.ofArgs ("test" :: others) = .test o ∧ o.pathIn ⟨.dir [], []⟩ = "a.cs" ∧
      o.grammar = "h" ∧ o.config = { verbose := true, extensions := ["x"] } ∧
      o.ignored = ["b", "-x"] := by
  intro args others
  have h : Reorders others args := ⟨by decide, by decide, by decide, by decide, by decide⟩
  obtain ⟨o, ho, hpath, hgrammar, hconfig, hignored⟩ :=
    (test_settings ⟨.dir [], []⟩ args).2.2 others h
  exact ⟨h, by decide, o, ho, hpath, hgrammar, hconfig, hignored⟩

end TestOptions

end Scopemark
