import Scopemark.Grammar.Compile
import Scopemark.Proofs.Except
import Scopemark.Proofs.KeyList
import Scopemark.Proofs.Tokenizer.Pieces

namespace Scopemark.Grammar

structure Entry where
  key : String
  group : Nat
  scopes : List Scope

namespace Entry

structure Reads (written : String × Capture) (e : Entry) : Prop where
  key : written.1 = e.key
  group : groupNumber? written.1 = some e.group
  scopes : scopesOf written.2.name = .ok e.scopes

/-- The order of groups. Keys of one and the same group are in the order of the map. -/
def Precedes (e f : Entry) : Prop := e.group < f.group ∨ e.group = f.group ∧ e.key < f.key

def added (e : Entry) : CaptureScopes := ⟨e.group, e.scopes⟩

theorem Precedes.asymm {e f : Entry} (h : e.Precedes f) : ¬ f.Precedes e := by
  rintro (hlt | ⟨heq, hkey⟩)
  · rcases h with h | ⟨h, _⟩ <;> omega
  · rcases h with h | ⟨_, h⟩
    · omega
    · exact String.lt_asymm h hkey

def Listed (entries : List Entry) : Prop := entries.Pairwise fun e f => e.key < f.key

variable {entries : List Entry}

theorem le_trans (e f k : Entry) (hef : decide (e.group ≤ f.group)) (hfk : decide (f.group ≤ k.group)) :
    decide (e.group ≤ k.group) := by
  simp only [decide_eq_true_eq] at *
  omega

theorem le_total (e f : Entry) : decide (e.group ≤ f.group) || decide (f.group ≤ e.group) := by
  simp only [Bool.or_eq_true, decide_eq_true_eq]
  omega

end Entry

open Entry

theorem exists_entries {captures : Captures} {list : List CaptureScopes}
    (h : capturesFrom captures = .ok list) : ∃ entries, List.Forall₂ Reads captures entries ∧
      list = (entries.filter fun e => !e.scopes.isEmpty).map added := by
  induction captures generalizing list with
  | nil => exact ⟨[], .nil, (Except.ok.inj h).symm⟩
  | cons written rest ih =>
      obtain ⟨key, capture⟩ := written
      rw [capturesFrom] at h
      cases hgroup : groupNumber? key with
      | none => simp [hgroup] at h
      | some group =>
          simp only [hgroup] at h
          obtain ⟨scopes, hscopes, h⟩ := bind_eq_ok.mp h
          obtain ⟨others, hothers, h⟩ := bind_eq_ok.mp h
          obtain ⟨entries, hentries, rfl⟩ := ih hothers
          refine ⟨⟨key, group, scopes⟩ :: entries, .cons ⟨rfl, hgroup, hscopes⟩ hentries, ?_⟩
          cases Except.ok.inj h
          cases scopes <;> rfl

def covers (m : Pattern.Match) (column group : Nat) : Bool :=
  (m.group? group).any fun (a, b) => a ≤ column && column < b

variable {m : Pattern.Match} {captures : List CaptureScopes} {a b column : Nat}

end Scopemark.Grammar
