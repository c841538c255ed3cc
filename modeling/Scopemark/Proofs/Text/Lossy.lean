import Scopemark.Text.Lossy

namespace Scopemark.Text

variable {code low high v : Nat} {more : List (Nat × Nat)} {rest : List UInt8}

theorem lossyFrom_lead (hv : v < 256) (h : lead? v = some (code, more)) :
    lossyFrom none (.ofNat v :: rest) = (goOn code more).1 ++ lossyFrom (goOn code more).2 rest := by
  have hbyte : (UInt8.ofNat v).toNat = v := by simp [Nat.mod_eq_of_lt hv]
  rw [lossyFrom, hbyte, decodeNext, decodeLead, h]

theorem lossyFrom_inner (hlow : low ≤ v % 64 + 128) (hhigh : v % 64 + 128 ≤ high) :
    lossyFrom (some ⟨code, low, high, more⟩) (.ofNat (v % 64 + 128) :: rest) =
      (goOn (code * 64 + v % 64) more).1 ++ lossyFrom (goOn (code * 64 + v % 64) more).2 rest := by
  have hbyte : (UInt8.ofNat (v % 64 + 128)).toNat = v % 64 + 128 := by
    rw [UInt8.toNat_ofNat']
    omega
  have hbits : v % 64 + 128 - 128 = v % 64 := Nat.add_sub_cancel ..
  rw [lossyFrom, hbyte, decodeNext, if_pos ⟨hlow, hhigh⟩, hbits]

theorem lead?_two (h : 0x80 ≤ v) (h' : v < 0x800) :
    lead? (v / 64 % 32 + 192) = some (v / 64, [innerBytes]) := by
  simp only [lead?]
  grind

/-- The second byte of three tells neither a code point of two bytes nor half a pair. -/
theorem lead?_three (h : 0x800 ≤ v) (h' : v < 0x10000) (hpair : v < 0xD800 ∨ 0xDFFF < v) :
    ∃ low high, lead? (v / 4096 % 16 + 224) = some (v / 4096, [(low, high), innerBytes]) ∧
      low ≤ v / 64 % 64 + 128 ∧ v / 64 % 64 + 128 ≤ high := by
  simp only [lead?]
  by_cases hfirst : v / 4096 = 0
  · refine ⟨0xA0, 0xBF, ?_⟩
    grind
  by_cases hpairs : v / 4096 = 13
  · refine ⟨0x80, 0x9F, ?_⟩
    grind
  · refine ⟨0x80, 0xBF, ?_⟩
    grind [innerBytes]

theorem lead?_four (h : 0x10000 ≤ v) (h' : v < 0x110000) :
    ∃ low high, lead? (v / 262144 % 8 + 240) = some (v / 262144, [(low, high), innerBytes, innerBytes]) ∧
      low ≤ v / 4096 % 64 + 128 ∧ v / 4096 % 64 + 128 ≤ high := by
  simp only [lead?]
  by_cases hfirst : v / 262144 = 0
  · refine ⟨0x90, 0xBF, ?_⟩
    grind
  by_cases hlast : v / 262144 = 4
  · refine ⟨0x80, 0x8F, ?_⟩
    grind
  · refine ⟨0x80, 0xBF, ?_⟩
    grind [innerBytes]

theorem lossyFrom_utf8EncodeChar (c : Char) (rest : List UInt8) :
    lossyFrom none (String.utf8EncodeChar c ++ rest) = c :: lossyFrom none rest := by
  have hvalid : c.val.toNat < 0xD800 ∨ 0xDFFF < c.val.toNat ∧ c.val.toNat < 0x110000 := c.valid
  have hc : Char.ofNat c.val.toNat = c := Char.ofNat_toNat c
  unfold String.utf8EncodeChar
  generalize c.val.toNat = v at *
  dsimp only
  split
  · rw [List.singleton_append, lossyFrom_lead (by omega) (if_pos (by omega)), goOn, hc]
    rfl
  split
  next h h' =>
    have hcode : v / 64 * 64 + v % 64 = v := Nat.div_add_mod' v 64
    rw [List.cons_append, lossyFrom_lead (by omega) (lead?_two (by omega) (by omega)), goOn, innerBytes,
      List.nil_append, List.singleton_append, lossyFrom_inner (by omega) (by omega), goOn, hcode, hc]
    rfl
  split
  next h h' h'' =>
    obtain ⟨low, high, hlead, hlow, hhigh⟩ := lead?_three (v := v) (by omega) (by omega) (by omega)
    have hcode : (v / 4096 * 64 + v / 64 % 64) * 64 + v % 64 = v := by omega
    rw [List.cons_append, lossyFrom_lead (by omega) hlead, goOn, innerBytes, List.nil_append,
      List.cons_append, lossyFrom_inner hlow hhigh, goOn, List.nil_append, List.singleton_append,
      lossyFrom_inner (by omega) (by omega), goOn, hcode, hc]
    rfl
  next h h' h'' =>
    obtain ⟨low, high, hlead, hlow, hhigh⟩ := lead?_four (v := v) (by omega) (by omega)
    have hcode : ((v / 262144 * 64 + v / 4096 % 64) * 64 + v / 64 % 64) * 64 + v % 64 = v := by omega
    rw [List.cons_append, lossyFrom_lead (by omega) hlead, goOn, innerBytes, List.nil_append,
      List.cons_append, lossyFrom_inner hlow hhigh, goOn, List.nil_append, List.cons_append,
      lossyFrom_inner (by omega) (by omega), goOn, List.nil_append, List.singleton_append,
      lossyFrom_inner (by omega) (by omega), goOn, hcode, hc]
    rfl

/-- Bytes of a text are shown as the text. -/
theorem lossy_utf8 (cs : List Char) : lossy (cs.flatMap String.utf8EncodeChar) = cs := by
  induction cs with
  | nil => rfl
  | cons c cs ih => rw [lossy, List.flatMap_cons, lossyFrom_utf8EncodeChar, ← lossy, ih]

example : lossy [0x2E, 0xFF, 0xE2, 0x82, 0x41] = ['.', replacement, replacement, 'A'] := by decide

end Scopemark.Text
