import Scopemark.Proofs.Grammar.Compile
import Scopemark.Proofs.Text.Lines
import Scopemark.Proofs.Tokenizer.Scan

namespace Scopemark.Grammar

variable {g : Grammar} {line : Array Char}

/-- The scans are the same but for what they noted, and what they noted is right. -/
structure Scan.Same (g : Grammar) (s s' : Scan) : Prop where
  eq : s' = { s with memo := s'.memo }
  left : g.Noted s.memo
  right : g.Noted s'.memo

theorem Scan.Same.tokens {s s' : Scan} (h : s.Same g s') : s'.tokens = s.tokens := by rw [h.eq]

theorem Scan.Same.regions {s s' : Scan} (h : s.Same g s') : s'.regions = s.regions := by rw [h.eq]

inductive Round.Same (g : Grammar) : Round → Round → Prop
  | more {s s' : Scan} (h : s.Same g s') : Round.Same g (.more s) (.more s')
  | done {s s' : Scan} (h : s.Same g s') : Round.Same g (.done s) (.done s')

theorem takeMatch_same {s s' : Scan} (h : s.Same g s') (c : Candidate) (m : Pattern.Match) :
    (g.takeMatch line s c m).Same g (g.takeMatch line s' c m) := by
  obtain ⟨heq, hleft, hright⟩ := h
  rw [heq]
  unfold takeMatch
  dsimp only
  by_cases hagain : m.start = m.stop ∧ s.emptyAt = some m.start
  · rw [if_pos hagain, if_pos hagain]
    by_cases hlt : m.start < line.size
    · rw [if_pos hlt, if_pos hlt]
      exact .more ⟨rfl, hleft, hright⟩
    · rw [if_neg hlt, if_neg hlt]
      exact .done ⟨rfl, hleft, hright⟩
  · rw [if_neg hagain, if_neg hagain]
    exact .more ⟨rfl, hleft, hright⟩

theorem round_same {s s' : Scan} (h : s.Same g s') :
    (g.round line s).Same g (g.round line s') := by
  obtain ⟨heq, hleft, hright⟩ := h
  have hids : (g.remember s'.memo s.regions.top.rule).1 =
      (g.remember s.memo s.regions.top.rule).1 :=
    (remember_fst hright _).trans (remember_fst hleft _).symm
  have hleft' := remember_noted hleft s.regions.top.rule
  have hright' := remember_noted hright s.regions.top.rule
  rw [heq]
  unfold round
  dsimp only
  rw [hids]
  cases bestMatch line s.pos none (g.contest s.regions.top.rule
      (g.remember s.memo s.regions.top.rule).1) with
  | none => exact .done ⟨rfl, hleft', hright'⟩
  | some found => exact takeMatch_same ⟨rfl, hleft', hright'⟩ found.1 found.2

theorem scanFrom_same {s s' : Scan} (h : s.Same g s') (line : Array Char) (fuel : Nat) :
    (g.scanFrom line fuel s).Same g (g.scanFrom line fuel s') := by
  induction fuel generalizing s s' with
  | zero => exact h
  | succ fuel ih =>
      have hround : (g.round line s).Same g (g.round line s') := round_same h
      rw [scanFrom, scanFrom]
      generalize g.round line s = r at hround
      generalize g.round line s' = r' at hround
      cases hround with
      | more h => exact ih h
      | done h => exact h

structure Carry.Same (g : Grammar) (carry carry' : Carry) : Prop where
  regions : carry'.regions = carry.regions
  left : g.Noted carry.memo
  right : g.Noted carry'.memo

theorem tokenizeLine_same {carry carry' : Carry} (h : carry.Same g carry') (line : List Char) :
    (g.tokenizeLine carry' line).1 = (g.tokenizeLine carry line).1 ∧
      (g.tokenizeLine carry line).2.Same g (g.tokenizeLine carry' line).2 := by
  have hstart : Scan.Same g ⟨0, none, carry.regions, [], carry.memo⟩
      ⟨0, none, carry'.regions, [], carry'.memo⟩ := ⟨by rw [h.regions], h.left, h.right⟩
  have hscan := scanFrom_same hstart line.toArray (2 * (line.toArray.size + 1))
  exact ⟨congrArg List.reverse hscan.tokens, hscan.regions, hscan.left, hscan.right⟩

def carryAfter (g : Grammar) (carry : Carry) : List (List Char) → Carry
  | [] => carry
  | line :: rest => carryAfter g (g.tokenizeLine carry line).2 rest

theorem tokenizeLines_same {carry carry' : Carry} (h : carry.Same g carry') (lines : List (List Char)) :
    g.tokenizeLines carry' lines = g.tokenizeLines carry lines ∧
      (g.carryAfter carry lines).Same g (g.carryAfter carry' lines) := by
  induction lines generalizing carry carry' with
  | nil => exact ⟨rfl, h⟩
  | cons line rest ih =>
      obtain ⟨htokens, hcarry⟩ := tokenizeLine_same h line
      obtain ⟨hrest, hafter⟩ := ih hcarry
      refine ⟨?_, hafter⟩
      rw [tokenizeLines, tokenizeLines]
      exact congrArg₂ List.cons htokens hrest

theorem tokenizeLines_append (carry : Carry) (before behind : List (List Char)) :
    g.tokenizeLines carry (before ++ behind) =
        g.tokenizeLines carry before ++ g.tokenizeLines (g.carryAfter carry before) behind ∧
      g.carryAfter carry (before ++ behind) =
        g.carryAfter (g.carryAfter carry before) behind := by
  induction before generalizing carry with
  | nil => exact ⟨rfl, rfl⟩
  | cons line before ih =>
      obtain ⟨htokens, hafter⟩ := ih (g.tokenizeLine carry line).2
      exact ⟨congrArg (_ :: ·) htokens, hafter⟩

theorem carryAfter_nested {carry : Carry} (h : g.Nested carry.regions.top carry.regions.below)
    (lines : List (List Char)) : g.Nested (g.carryAfter carry lines).regions.top
      (g.carryAfter carry lines).regions.below := by
  induction lines generalizing carry with
  | nil => exact h
  | cons line rest ih => exact ih (tokenizeLine_sound h line).2

def tokenizeFrom (g : Grammar) (regions : Regions) (text : String) : List LineTokens :=
  g.tokenizeLines ⟨regions, []⟩ (Text.lines text.toList)

def regionsAfter (g : Grammar) (regions : Regions) (text : String) : Regions :=
  (g.carryAfter ⟨regions, []⟩ (Text.lines text.toList)).regions

variable {before : String}

/-- What was noted in front makes no difference. -/
theorem tokenizeFrom_carryAfter (regions : Regions) (before behind : String) :
    g.tokenizeFrom (g.regionsAfter regions before) behind =
        g.tokenizeLines (g.carryAfter ⟨regions, []⟩ (Text.lines before.toList))
          (Text.lines behind.toList) ∧
      g.regionsAfter (g.regionsAfter regions before) behind =
        (g.carryAfter (g.carryAfter ⟨regions, []⟩ (Text.lines before.toList))
          (Text.lines behind.toList)).regions := by
  have hstart : Carry.Same g ⟨regions, []⟩ ⟨regions, []⟩ := ⟨rfl, noted_nil, noted_nil⟩
  obtain ⟨_, hbefore⟩ := tokenizeLines_same hstart (Text.lines before.toList)
  have hforget : Carry.Same g (g.carryAfter ⟨regions, []⟩ (Text.lines before.toList))
      ⟨g.regionsAfter regions before, []⟩ := ⟨rfl, hbefore.left, noted_nil⟩
  obtain ⟨htokens, hafter⟩ := tokenizeLines_same hforget (Text.lines behind.toList)
  exact ⟨htokens, hafter.regions⟩

theorem tokenizeFrom_append (regions : Regions)
    (h : before = "" ∨ before.toList.getLast? = some '\n') (behind : String) :
    g.tokenizeFrom regions (before ++ behind) =
        g.tokenizeFrom regions before ++ g.tokenizeFrom (g.regionsAfter regions before) behind ∧
      g.regionsAfter regions (before ++ behind) =
        g.regionsAfter (g.regionsAfter regions before) behind := by
  have hlines : Text.lines (before ++ behind).toList =
      Text.lines before.toList ++ Text.lines behind.toList := by
    rw [String.toList_append]
    exact Text.lines_append (h.imp_left fun hnil => by rw [hnil]; rfl)
  obtain ⟨htokens, hafter⟩ := tokenizeFrom_carryAfter (g := g) regions before behind
  obtain ⟨happend, hcarry⟩ := tokenizeLines_append (g := g) ⟨regions, []⟩ (Text.lines before.toList)
    (Text.lines behind.toList)
  constructor
  · rw [htokens, tokenizeFrom, hlines, happend]
    rfl
  · rw [hafter, regionsAfter, hlines, hcarry]

theorem regionsAfter_eq_outermost (h : (g.regionsAfter g.outermost before).below = []) :
    g.regionsAfter g.outermost before = g.outermost := by
  have hnested : g.Nested (g.regionsAfter g.outermost before).top
      (g.regionsAfter g.outermost before).below :=
    carryAfter_nested .root (Text.lines before.toList)
  generalize g.regionsAfter g.outermost before = regions at h hnested
  obtain ⟨top, below⟩ := regions
  obtain rfl : below = [] := h
  cases hnested
  rfl

/-- Lines are tokenized without regard to what is behind them, and the lines behind a whole number of
lines depend on these only in the regions that they leave open. -/
theorem tokenize_append (g : Grammar) (h : before = "" ∨ before.toList.getLast? = some '\n')
    (behind : String) :
    (g.tokenize (before ++ behind)).lines =
      (g.tokenize before).lines ++
        g.tokenizeFrom (g.regionsAfter g.outermost before) behind ∧
    g.regionsAfter g.outermost (before ++ behind) =
      g.regionsAfter (g.regionsAfter g.outermost before) behind ∧
    ((g.regionsAfter g.outermost before).below = [] →
      (g.tokenize (before ++ behind)).lines = (g.tokenize before).lines ++ (g.tokenize behind).lines) ∧
    g.tokenizeLines (g.carryAfter ⟨g.outermost, []⟩ (Text.lines before.toList))
        (Text.lines behind.toList) =
      g.tokenizeFrom (g.regionsAfter g.outermost before) behind := by
  obtain ⟨htokens, hregions⟩ := tokenizeFrom_append g.outermost h behind
  refine ⟨htokens, hregions, fun hbelow => ?_, (tokenizeFrom_carryAfter g.outermost before behind).1.symm⟩
  have hclosed : g.tokenizeFrom (g.regionsAfter g.outermost before) behind =
      (g.tokenize behind).lines := by
    rw [regionsAfter_eq_outermost hbelow]
    rfl
  rw [← hclosed]
  exact htokens

/-- A line may leave a region open, or open one and close it. -/
theorem tokenize_append_nestedText : ∃ G, compile? nestedText = .ok G ∧
    (G.regionsAfter G.outermost "<\n").below ≠ [] ∧
    (G.tokenize ("<\n" ++ "x>x")).lines =
      (G.tokenize "<\n").lines ++ G.tokenizeFrom (G.regionsAfter G.outermost "<\n") "x>x" ∧
    (G.regionsAfter G.outermost "<>\n").below = [] ∧
    (G.tokenize ("<>\n" ++ "x>x")).lines = (G.tokenize "<>\n").lines ++ (G.tokenize "x>x").lines := by
  have hbelow : (compile? nestedText).toOption.map (fun G =>
      ((G.regionsAfter G.outermost "<\n").below.isEmpty,
        (G.regionsAfter G.outermost "<>\n").below.isEmpty)) = some (false, true) := by
    decide +kernel
  obtain ⟨G, hG, hbelow⟩ := Option.map_eq_some_iff.mp hbelow
  obtain ⟨hopen, hclosed⟩ := Prod.mk.inj hbelow
  have hcompile := eq_ok_of_toOption hG
  have hclosed : (G.regionsAfter G.outermost "<>\n").below = [] := List.isEmpty_iff.mp hclosed
  have hfeed : "<\n" = "" ∨ "<\n".toList.getLast? = some '\n' := .inr (by decide)
  have hfeed' : "<>\n" = "" ∨ "<>\n".toList.getLast? = some '\n' := .inr (by decide)
  obtain ⟨hresume, _⟩ := G.tokenize_append hfeed "x>x"
  obtain ⟨_, _, hstart, _⟩ := G.tokenize_append hfeed' "x>x"
  exact ⟨G, hcompile, List.isEmpty_eq_false_iff.mp hopen, hresume, hclosed, hstart hclosed⟩

end Scopemark.Grammar
