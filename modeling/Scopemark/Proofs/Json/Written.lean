import Scopemark.Json.Reader
import Scopemark.Json.Writer
import Scopemark.Proofs.Text.Blank

namespace Scopemark.Json

variable {cs rest : List Char} {indent : Option Nat} {value : Json} {elements : List Json}
  {fields : List (Option String × Json)}

theorem readHex_append {n : Nat} (h : readHex cs = some (n, [])) :
    readHex (cs ++ rest) = some (n, rest) := by
  unfold readHex at h
  split at h
  next a b c d left =>
    split at h
    next hdigits =>
      cases h
      exact if_pos hdigits
    next => cases h
  next => cases h

theorem readHex_control : ∀ n < 0x20, readHex ('0' :: '0' :: hexPair n) = some (n, []) := by
  decide

theorem readCodes_hex {fuel n : Nat} (h : readHex cs = some (n, rest)) :
    readCodes (fuel + 1) ('\\' :: 'u' :: cs) =
      (readCodes fuel rest).map fun (codes, rest) => (n :: codes, rest) := by
  rw [readCodes.eq_def]
  simp only [h]
  rfl

theorem readCodes_escapeChar (fuel : Nat) (c : Char) (rest : List Char) :
    readCodes (fuel + 1) (escapeChar c ++ rest) =
      (readCodes fuel rest).map fun (codes, rest) => (c.toNat :: codes, rest) := by
  unfold escapeChar
  split
  · rfl
  · rfl
  · rfl
  · rfl
  · rfl
  · rfl
  · rfl
  next hquote hslash _ _ _ _ _ =>
    split
    next hcontrol =>
      have hhex : readHex ('0' :: '0' :: hexPair c.toNat ++ rest) = some (c.toNat, rest) :=
        readHex_append (readHex_control _ hcontrol)
      exact readCodes_hex hhex
    next hcontrol =>
      rw [List.singleton_append, readCodes.eq_def]
      dsimp only
      rw [if_neg (by simpa using hquote), if_neg hcontrol, if_pos (by simpa using hslash)]

theorem readCodes_flatMap {fuel : Nat} (h : cs.length < fuel) (rest : List Char) :
    readCodes fuel (cs.flatMap escapeChar ++ '\x22' :: rest) = some (cs.map Char.toNat, rest) := by
  induction cs generalizing fuel with
  | nil =>
      obtain ⟨fuel, rfl⟩ := Nat.exists_eq_succ_of_ne_zero (Nat.ne_of_gt h)
      rfl
  | cons c cs ih =>
      obtain ⟨fuel, rfl⟩ := Nat.exists_eq_succ_of_ne_zero (Nat.ne_zero_of_lt h)
      have hcs := ih (Nat.lt_of_succ_lt_succ h)
      rw [List.flatMap_cons, List.append_assoc, readCodes_escapeChar, hcs]
      rfl

theorem joinSurrogates_cons (c : Char) (codes : List Nat) :
    joinSurrogates (c.toNat :: codes) = (joinSurrogates codes).map (c :: ·) := by
  have hvalid : c.toNat.isValidChar := c.valid
  cases codes with
  | nil =>
      have halone : joinSurrogates [c.toNat] = some [Char.ofNat c.toNat] := if_pos hvalid
      rw [halone, Char.ofNat_toNat]
      rfl
  | cons m codes =>
      have hhalf : ¬ (0xD800 ≤ c.toNat ∧ c.toNat < 0xDC00 ∧ 0xDC00 ≤ m ∧ m < 0xE000) := by
        rcases hvalid with h | h <;> omega
      rw [joinSurrogates, if_neg hhalf, if_pos hvalid, Char.ofNat_toNat]

theorem joinSurrogates_map_toNat (cs : List Char) : joinSurrogates (cs.map Char.toNat) = some cs := by
  induction cs with
  | nil => rfl
  | cons c cs ih => rw [List.map_cons, joinSurrogates_cons, ih]; rfl

theorem length_le_flatMap_escapeChar (cs : List Char) : cs.length ≤ (cs.flatMap escapeChar).length := by
  have hpos (c : Char) : 1 ≤ (escapeChar c).length := by
    unfold escapeChar
    repeat' split
    all_goals simp
  induction cs with
  | nil => exact Nat.le_refl _
  | cons c cs ih =>
      have := hpos c
      rw [List.flatMap_cons, List.length_append, List.length_cons]
      omega

/-- A string is read from behind its first quotation mark. -/
theorem readString_writeString (s : Option String) : ∃ body, writeString s = '\x22' :: body ∧
    ∀ rest, readString (body ++ rest) = some (s, rest) := by
  cases s with
  | none => exact ⟨"\\ud800\"".toList, rfl, fun rest => rfl⟩
  | some s =>
      refine ⟨s.toList.flatMap escapeChar ++ ['\x22'], rfl, fun rest => ?_⟩
      have hfuel : s.toList.length < (s.toList.flatMap escapeChar ++ '\x22' :: rest).length + 1 := by
        have := length_le_flatMap_escapeChar s.toList
        rw [List.length_append]
        omega
      have hjoin : (joinSurrogates (s.toList.map Char.toNat)).map String.ofList = some s := by
        rw [joinSurrogates_map_toNat, Option.map_some, String.ofList_toList]
      rw [List.append_assoc, List.singleton_append, readString, readCodes_flatMap hfuel, Option.map_some]
      exact congrArg (fun s => some (s, rest)) hjoin

inductive Numberless : Json → Prop
  | null : Numberless .null
  | bool (b : Bool) : Numberless (.bool b)
  | string (s : Option String) : Numberless (.string s)
  | array {elements : List Json} (h : ∀ e ∈ elements, Numberless e) : Numberless (.array elements)
  | object {fields : List (Option String × Json)} (h : ∀ f ∈ fields, Numberless f.2) :
      Numberless (.object fields)

theorem skipSpace_of_head? (h : ∀ c ∈ cs.head?, isSpace c = false) : skipSpace cs = cs :=
  Text.dropWhile_append_of_stop (g := []) nofun h

theorem skipSpace_newline (indent : Option Nat) (h : ∀ c ∈ cs.head?, isSpace c = false) :
    skipSpace (newline indent ++ cs) = cs := by
  refine Text.dropWhile_append_of_stop (fun c hc => ?_) h
  cases indent with
  | none => cases hc
  | some n =>
      rcases List.mem_cons.mp hc with rfl | hc
      · rfl
      · rw [List.eq_of_mem_replicate hc]
        rfl

theorem enclose_head (opening closing : Char) (indent : Option Nat) (members : List (List Char)) :
    ∃ cs, enclose opening closing indent members = opening :: cs := by
  unfold enclose
  split
  · exact ⟨_, rfl⟩
  · exact ⟨_, rfl⟩

/-- No space is in front of a value, nor can it be taken for the end of an array. -/
theorem write_head (h : Numberless value) (indent : Option Nat) :
    ∃ c cs, write indent value = c :: cs ∧ isSpace c = false ∧ c ≠ ']' := by
  cases h with
  | null => exact ⟨'n', _, rfl, rfl, by decide⟩
  | bool b =>
      cases b with
      | false => exact ⟨'f', _, rfl, rfl, by decide⟩
      | true => exact ⟨'t', _, rfl, rfl, by decide⟩
  | string s =>
      obtain ⟨body, hbody, _⟩ := readString_writeString s
      exact ⟨'\x22', body, hbody, rfl, by decide⟩
  | array h =>
      obtain ⟨cs, hcs⟩ := enclose_head '[' ']' indent (writeElements (indent.map (· + 1)) _)
      exact ⟨'[', cs, hcs, rfl, by decide⟩
  | object h =>
      obtain ⟨cs, hcs⟩ := enclose_head '\x7b' '\x7d' indent (writeFields (indent.map (· + 1)) _)
      exact ⟨'\x7b', cs, hcs, rfl, by decide⟩

theorem writeElements_cons {first : Json} (h : Numberless first) (indent : Option Nat)
    (elements : List Json) : ∃ c cs,
      writeElements indent (first :: elements) = (c :: cs) :: writeElements indent elements ∧
        isSpace c = false ∧ c ≠ ']' := by
  obtain ⟨c, cs, hwrite, hc⟩ := write_head h indent
  exact ⟨c, cs, by rw [writeElements, hwrite], hc⟩

def Reads (indent : Option Nat) (value : Json) : Prop :=
  ∀ fuel rest, (write indent value).length ≤ fuel →
    readValue fuel (write indent value ++ rest) = some (value, rest)

theorem Reads.readElements_last (h : Reads indent value) {fuel : Nat}
    (hfuel : (write indent value).length ≤ fuel) {rest tail : List Char}
    (hend : skipSpace rest = ']' :: tail) :
    readElements (fuel + 1) (write indent value ++ rest) = some ([value], tail) := by
  simp only [readElements, h fuel rest hfuel, hend]

theorem Reads.readElements_more (h : Reads indent value) {fuel : Nat}
    (hfuel : (write indent value).length ≤ fuel) {rest tail : List Char}
    (hcomma : skipSpace rest = ',' :: tail) :
    readElements (fuel + 1) (write indent value ++ rest) =
      (readElements fuel (skipSpace tail)).map fun (values, rest) => (value :: values, rest) := by
  simp only [readElements, h fuel rest hfuel, hcomma]

def member (indent : Option Nat) (key : Option String) (value : Json) : List Char :=
  writeString key ++ colon indent ++ write indent value

theorem length_write_le_member (indent : Option Nat) (key : Option String) (value : Json) :
    (write indent value).length ≤ (member indent key value).length := by
  rw [member, List.length_append]
  exact Nat.le_add_left _ _

theorem member_eq (hvalue : Numberless value) (indent : Option Nat) (key : Option String) :
    ∃ body behind, member indent key value = '\x22' :: (body ++ ':' :: behind) ∧
      (∀ rest, readString (body ++ rest) = some (key, rest)) ∧
      ∀ rest, skipSpace (behind ++ rest) = write indent value ++ rest := by
  obtain ⟨body, hbody, hread⟩ := readString_writeString key
  obtain ⟨c, cs, hwrite, hc, _⟩ := write_head hvalue indent
  have hskip (rest : List Char) : skipSpace (write indent value ++ rest) = write indent value ++ rest := by
    rw [hwrite]
    exact skipSpace_of_head? (by rintro _ ⟨⟩; exact hc)
  cases indent with
  | none => exact ⟨body, write none value, by rw [member, hbody]; simp [colon], hread, hskip⟩
  | some n =>
      exact ⟨body, ' ' :: write (some n) value, by rw [member, hbody]; simp [colon], hread, hskip⟩

theorem writeFields_cons {first : Option String × Json} (h : Numberless first.2) (indent : Option Nat)
    (fields : List (Option String × Json)) : ∃ cs,
      writeFields indent (first :: fields) = ('\x22' :: cs) :: writeFields indent fields := by
  obtain ⟨body, behind, hmember, _⟩ := member_eq h indent first.1
  exact ⟨body ++ ':' :: behind, congrArg (· :: writeFields indent fields) hmember⟩

theorem Reads.readFields_last (h : Reads indent value) (hvalue : Numberless value)
    (key : Option String) {fuel : Nat} (hfuel : (write indent value).length ≤ fuel)
    {rest tail : List Char} (hend : skipSpace rest = '\x7d' :: tail) :
    readFields (fuel + 1) (member indent key value ++ rest) = some ([(key, value)], tail) := by
  obtain ⟨body, behind, hmember, hread, hskip⟩ := member_eq hvalue indent key
  have hcolon (cs : List Char) : skipSpace (':' :: cs) = ':' :: cs := rfl
  rw [hmember, List.cons_append, List.append_assoc, List.cons_append]
  simp only [readFields, hread, hcolon, hskip, h fuel rest hfuel, hend]

theorem Reads.readFields_more (h : Reads indent value) (hvalue : Numberless value)
    (key : Option String) {fuel : Nat} (hfuel : (write indent value).length ≤ fuel)
    {rest tail : List Char} (hcomma : skipSpace rest = ',' :: tail) :
    readFields (fuel + 1) (member indent key value ++ rest) =
      (readFields fuel (skipSpace tail)).map fun (fields, rest) => ((key, value) :: fields, rest) := by
  obtain ⟨body, behind, hmember, hread, hskip⟩ := member_eq hvalue indent key
  have hcolon (cs : List Char) : skipSpace (':' :: cs) = ':' :: cs := rfl
  rw [hmember, List.cons_append, List.append_assoc, List.cons_append]
  simp only [readFields, hread, hcolon, hskip, h fuel rest hfuel, hcomma]

theorem separate_cons_cons (sep first second : List Char) (members : List (List Char)) :
    separate sep (first :: second :: members) =
      first ++ (sep ++ separate sep (second :: members)) := by
  rw [separate, List.append_assoc]
  exact List.cons_ne_nil _ _

theorem separate_head (c : Char) (sep first : List Char) (members : List (List Char))
    (rest : List Char) : ∃ tail, separate sep ((c :: first) :: members) ++ rest = c :: tail := by
  cases members with
  | nil => exact ⟨_, rfl⟩
  | cons second members => exact ⟨_, by rw [separate_cons_cons]; rfl⟩

/-- The white space in front of members that do not begin with any. -/
theorem skipSpace_separate {c : Char} (hc : isSpace c = false) (indent : Option Nat)
    (sep first : List Char) (members : List (List Char)) (rest : List Char) :
    skipSpace (newline indent ++ (separate sep ((c :: first) :: members) ++ rest)) =
      separate sep ((c :: first) :: members) ++ rest := by
  obtain ⟨tail, htail⟩ := separate_head c sep first members rest
  rw [htail]
  exact skipSpace_newline indent (by rintro _ ⟨⟩; exact hc)

theorem skipSpace_comma (indent : Option Nat) (cs rest : List Char) :
    skipSpace (',' :: newline indent ++ cs ++ rest) = ',' :: (newline indent ++ (cs ++ rest)) := by
  rw [List.append_assoc]
  rfl

theorem readElements_separate {inner : Option Nat} {first : Json} (indent : Option Nat)
    (h : ∀ e ∈ first :: elements, Numberless e) (hreads : ∀ e ∈ first :: elements, Reads inner e)
    {fuel : Nat} (hfuel : (separate (',' :: newline inner)
      (writeElements inner (first :: elements))).length < fuel) (rest : List Char) :
    readElements fuel (separate (',' :: newline inner) (writeElements inner (first :: elements)) ++
      (newline indent ++ ']' :: rest)) = some (first :: elements, rest) := by
  obtain ⟨fuel, rfl⟩ := Nat.exists_eq_succ_of_ne_zero (Nat.ne_zero_of_lt hfuel)
  induction elements generalizing first fuel with
  | nil =>
      have hend : skipSpace (newline indent ++ ']' :: rest) = ']' :: rest :=
        skipSpace_newline indent (by rintro _ ⟨⟩; rfl)
      exact (hreads first List.mem_cons_self).readElements_last (Nat.le_of_lt_succ hfuel) hend
  | cons second elements ih =>
      obtain ⟨hfirst, hreads⟩ := List.forall_mem_cons.mp hreads
      obtain ⟨_, h⟩ := List.forall_mem_cons.mp h
      obtain ⟨c, cs, hmembers, hc, _⟩ := writeElements_cons (h second List.mem_cons_self) inner elements
      have hsplit := separate_cons_cons (',' :: newline inner) (write inner first) (c :: cs)
        (writeElements inner elements)
      rw [writeElements, hmembers, hsplit, ← hmembers] at hfuel ⊢
      simp only [List.length_append, List.length_cons] at hfuel
      obtain ⟨fuel, rfl⟩ := Nat.exists_eq_succ_of_ne_zero (n := fuel) (by omega)
      have hrest := ih h hreads fuel (by omega)
      rw [List.append_assoc, hfirst.readElements_more (by omega) (skipSpace_comma inner _ _), hmembers,
        skipSpace_separate hc, ← hmembers, hrest]
      rfl

theorem readFields_separate {inner : Option Nat} {first : Option String × Json} (indent : Option Nat)
    (h : ∀ f ∈ first :: fields, Numberless f.2) (hreads : ∀ f ∈ first :: fields, Reads inner f.2)
    {fuel : Nat} (hfuel : (separate (',' :: newline inner)
      (writeFields inner (first :: fields))).length < fuel) (rest : List Char) :
    readFields fuel (separate (',' :: newline inner) (writeFields inner (first :: fields)) ++
      (newline indent ++ '\x7d' :: rest)) = some (first :: fields, rest) := by
  obtain ⟨fuel, rfl⟩ := Nat.exists_eq_succ_of_ne_zero (Nat.ne_zero_of_lt hfuel)
  induction fields generalizing first fuel with
  | nil =>
      obtain ⟨key, value⟩ := first
      have hend : skipSpace (newline indent ++ '\x7d' :: rest) = '\x7d' :: rest :=
        skipSpace_newline indent (by rintro _ ⟨⟩; rfl)
      have hlength := (length_write_le_member inner key value).trans (Nat.le_of_lt_succ hfuel)
      exact (hreads _ List.mem_cons_self).readFields_last (h _ List.mem_cons_self) key hlength hend
  | cons second fields ih =>
      obtain ⟨key, value⟩ := first
      obtain ⟨hfirst, hreads⟩ := List.forall_mem_cons.mp hreads
      obtain ⟨hvalue, h⟩ := List.forall_mem_cons.mp h
      obtain ⟨cs, hmembers⟩ := writeFields_cons (h second List.mem_cons_self) inner fields
      have hsplit := separate_cons_cons (',' :: newline inner) (member inner key value)
        ('\x22' :: cs) (writeFields inner fields)
      rw [writeFields, hmembers, ← member, hsplit, ← hmembers] at hfuel ⊢
      simp only [List.length_append, List.length_cons] at hfuel
      obtain ⟨fuel, rfl⟩ := Nat.exists_eq_succ_of_ne_zero (n := fuel) (by omega)
      have hrest := ih h hreads fuel (by omega)
      have hlength : (write inner value).length ≤ fuel.succ := by
        have := length_write_le_member inner key value
        omega
      rw [List.append_assoc, hfirst.readFields_more hvalue key hlength (skipSpace_comma inner _ _), hmembers,
        skipSpace_separate rfl, ← hmembers, hrest]
      rfl

theorem enclose_append (opening closing : Char) (indent : Option Nat) (first : List Char)
    (members : List (List Char)) (rest : List Char) :
    enclose opening closing indent (first :: members) ++ rest =
      opening :: (newline (indent.map (· + 1)) ++
        (separate (',' :: newline (indent.map (· + 1))) (first :: members) ++
          (newline indent ++ closing :: rest))) := by
  simp [enclose]

theorem length_separate_lt (opening closing : Char) (indent : Option Nat) (first : List Char)
    (members : List (List Char)) :
    (separate (',' :: newline (indent.map (· + 1))) (first :: members)).length + 1 <
      (enclose opening closing indent (first :: members)).length := by
  have henclose := enclose_append opening closing indent first members []
  rw [List.append_nil] at henclose
  rw [henclose]
  simp only [List.length_cons, List.length_append]
  omega

theorem readValue_array {fuel : Nat} {c : Char} {tail : List Char} (hc : c ≠ ']')
    (h : skipSpace cs = c :: tail) : readValue (fuel + 1) ('[' :: cs) =
      (readElements fuel (c :: tail)).map fun (elements, rest) => (.array elements, rest) := by
  simp only [readValue, h]
  split
  next heq => exact absurd (List.head_eq_of_cons_eq heq) hc
  next => rfl

theorem readValue_object {fuel : Nat} {c : Char} {tail : List Char} (hc : c ≠ '\x7d')
    (h : skipSpace cs = c :: tail) : readValue (fuel + 1) ('\x7b' :: cs) =
      (readFields fuel (c :: tail)).map fun (fields, rest) => (.object fields, rest) := by
  simp only [readValue, h]
  split
  next heq => exact absurd (List.head_eq_of_cons_eq heq) hc
  next => rfl

theorem reads_array (h : ∀ e ∈ elements, Numberless e)
    (hreads : ∀ e ∈ elements, ∀ indent, Reads indent e) (indent : Option Nat) :
    Reads indent (.array elements) := by
  intro fuel rest hfuel
  cases elements with
  | nil =>
      obtain ⟨fuel, rfl⟩ := Nat.exists_eq_succ_of_ne_zero (Nat.ne_zero_of_lt hfuel)
      rfl
  | cons first elements =>
      obtain ⟨c, cs, hmembers, hc, hend⟩ :=
        writeElements_cons (h first List.mem_cons_self) (indent.map (· + 1)) elements
      have hlength := length_separate_lt '[' ']' indent (c :: cs)
        (writeElements (indent.map (· + 1)) elements)
      rw [write, hmembers] at hfuel ⊢
      obtain ⟨fuel, rfl⟩ := Nat.exists_eq_succ_of_ne_zero (n := fuel) (by omega)
      have hfuel : (separate (',' :: newline (indent.map (· + 1)))
          (writeElements (indent.map (· + 1)) (first :: elements))).length < fuel := by
        rw [hmembers]
        omega
      have helements := readElements_separate indent h (fun e he => hreads e he _) hfuel rest
      obtain ⟨tail, htail⟩ := separate_head c (',' :: newline (indent.map (· + 1))) cs
        (writeElements (indent.map (· + 1)) elements) (newline indent ++ ']' :: rest)
      rw [hmembers, htail] at helements
      rw [enclose_append, readValue_array hend ((skipSpace_separate hc ..).trans htail), helements]
      rfl

theorem reads_object (h : ∀ f ∈ fields, Numberless f.2)
    (hreads : ∀ f ∈ fields, ∀ indent, Reads indent f.2) (indent : Option Nat) :
    Reads indent (.object fields) := by
  intro fuel rest hfuel
  cases fields with
  | nil =>
      obtain ⟨fuel, rfl⟩ := Nat.exists_eq_succ_of_ne_zero (Nat.ne_zero_of_lt hfuel)
      rfl
  | cons first fields =>
      obtain ⟨cs, hmembers⟩ :=
        writeFields_cons (h first List.mem_cons_self) (indent.map (· + 1)) fields
      have hlength := length_separate_lt '\x7b' '\x7d' indent ('\x22' :: cs)
        (writeFields (indent.map (· + 1)) fields)
      rw [write, hmembers] at hfuel ⊢
      obtain ⟨fuel, rfl⟩ := Nat.exists_eq_succ_of_ne_zero (n := fuel) (by omega)
      have hfuel : (separate (',' :: newline (indent.map (· + 1)))
          (writeFields (indent.map (· + 1)) (first :: fields))).length < fuel := by
        rw [hmembers]
        omega
      have hfields := readFields_separate indent h (fun f hf => hreads f hf _) hfuel rest
      obtain ⟨tail, htail⟩ := separate_head '\x22' (',' :: newline (indent.map (· + 1))) cs
        (writeFields (indent.map (· + 1)) fields) (newline indent ++ '\x7d' :: rest)
      rw [hmembers, htail] at hfields
      rw [enclose_append, readValue_object (by decide) ((skipSpace_separate rfl ..).trans htail),
        hfields]
      rfl

theorem Numberless.reads (h : Numberless value) (indent : Option Nat) : Reads indent value := by
  induction h generalizing indent with
  | null =>
      intro fuel rest hfuel
      obtain ⟨fuel, rfl⟩ := Nat.exists_eq_succ_of_ne_zero (Nat.ne_zero_of_lt hfuel)
      rfl
  | bool b =>
      intro fuel rest hfuel
      cases b with
      | false =>
          obtain ⟨fuel, rfl⟩ := Nat.exists_eq_succ_of_ne_zero (Nat.ne_zero_of_lt hfuel)
          rfl
      | true =>
          obtain ⟨fuel, rfl⟩ := Nat.exists_eq_succ_of_ne_zero (Nat.ne_zero_of_lt hfuel)
          rfl
  | string s =>
      intro fuel rest hfuel
      obtain ⟨body, hbody, hread⟩ := readString_writeString s
      rw [write, hbody] at hfuel ⊢
      obtain ⟨fuel, rfl⟩ := Nat.exists_eq_succ_of_ne_zero (Nat.ne_zero_of_lt hfuel)
      change (readString (body ++ rest)).map _ = _
      rw [hread]
      rfl
  | array h ih => exact reads_array h ih indent
  | object h ih => exact reads_object h ih indent

/-- A document that holds no number is read from its text. -/
theorem Numberless.reads_back (h : Numberless value) (indent : Option Nat) :
    read? (write indent value) = some value := by
  obtain ⟨c, cs, hwrite, hc, _⟩ := write_head h indent
  have hskip : skipSpace (write indent value) = write indent value := by
    rw [hwrite]
    exact skipSpace_of_head? (by rintro _ ⟨⟩; exact hc)
  have hread := h.reads indent (2 * (write indent value).length + 2) [] (by omega)
  rw [List.append_nil] at hread
  rw [read?, hskip, hread]
  rfl

end Scopemark.Json
