import Mathlib
import Scopemark.Grammar.Compile
import Scopemark.Proofs.Json.Records

namespace Scopemark

variable {depth : Nat} {value : Json} {P : Json → Prop}

structure Captures.Fits (depth : Nat) (cs : Captures) : Prop where
  ascending : KeyList.Ascending cs
  room : 0 < depth
  inner : cs ≠ [] → 1 < depth

theorem Capture.ofJson_toJson (hdepth : 0 < depth) (c : Capture) : Capture.ofJson depth c.toJson = .ok c := by
  obtain ⟨depth, rfl⟩ := Nat.exists_eq_succ_of_ne_zero (Nat.ne_of_gt hdepth)
  obtain ⟨name⟩ := c
  obtain ⟨all, hall, hlookup⟩ := Json.fieldsOf_record (List.nodup_singleton "name")
    (Json.keys_optional "name" (name.map .text))
  have hname : Json.optionalText all "name" = .ok name := by
    apply Json.optionalText_of_lookup
    rw [hlookup "name" List.mem_cons_self, Json.lookup_optional, if_pos rfl]
  simp only [Capture.ofJson, Capture.toJson, Json.enter, hall, hname, ok_bind]
  rfl

theorem Capture.room_of_ofJson {c : Capture} (h : Capture.ofJson depth value = .ok c) : 0 < depth := by
  cases depth with
  | zero => cases h
  | succ depth => exact Nat.succ_pos _

theorem Capture.plain (hdepth : 0 < depth) (c : Capture) : c.toJson.Plain depth := by
  obtain ⟨depth, rfl⟩ := Nat.exists_eq_succ_of_ne_zero (Nat.ne_of_gt hdepth)
  exact .record (Json.plain_optionalText "name" c.name)

namespace Captures

theorem fits_of_ofJson {cs : Captures} (h : Captures.ofJson depth value = .ok cs) : cs.Fits depth := by
  cases depth with
  | zero => cases h
  | succ depth =>
      obtain ⟨hascending, hread⟩ := Json.read_of_toTable h
      refine ⟨hascending, Nat.succ_pos _, fun hne => ?_⟩
      obtain ⟨entry, hentry⟩ := List.exists_mem_of_ne_nil cs hne
      obtain ⟨v, hv⟩ := hread entry hentry
      exact Nat.succ_lt_succ (Capture.room_of_ofJson hv)

theorem Fits.ofJson_toJson {cs : Captures} (h : cs.Fits depth) : Captures.ofJson depth cs.toJson = .ok cs := by
  obtain ⟨depth, rfl⟩ := Nat.exists_eq_succ_of_ne_zero (Nat.ne_of_gt h.room)
  refine Json.toTable_map h.ascending fun entry hentry => ?_
  exact Capture.ofJson_toJson (Nat.lt_of_succ_lt_succ (h.inner (List.ne_nil_of_mem hentry))) entry.2

theorem Fits.plain {cs : Captures} (h : cs.Fits depth) : cs.toJson.Plain depth := by
  obtain ⟨depth, rfl⟩ := Nat.exists_eq_succ_of_ne_zero (Nat.ne_of_gt h.room)
  refine .record (List.forall_mem_map.mpr fun entry hentry => ?_)
  exact Capture.plain (Nat.lt_of_succ_lt_succ (h.inner (List.ne_nil_of_mem hentry))) entry.2

theorem field_of_lookup {fields : Json.Fields} {name : String} {captures : Option Captures}
    (hfits : ∀ cs ∈ captures, cs.Fits depth) (h : fields.lookup name = captures.map toJson) :
    Captures.field depth fields name = .ok captures := by
  rw [Captures.field, Json.withDefault, h]
  cases captures with
  | none => rfl
  | some cs =>
      have hread : Captures.ofJson depth cs.toJson = .ok cs := (hfits cs rfl).ofJson_toJson
      exact map_eq_ok.mpr ⟨cs, hread, rfl⟩

theorem plain_optional (name : String) {captures : Option Captures}
    (hfits : ∀ cs ∈ captures, cs.Fits depth) :
    ∀ f ∈ Json.optional name (captures.map toJson), f.2.Plain depth := by
  rw [Json.forall_mem_optional]
  intro v hv
  obtain ⟨cs, hcs, rfl⟩ := Option.map_eq_some_iff.mp hv
  exact (hfits cs hcs).plain

theorem fits_of_field {fields : Json.Fields} {name : String} {captures : Option Captures}
    (h : Captures.field depth fields name = .ok captures) : ∀ cs ∈ captures, cs.Fits depth := by
  rcases Json.withDefault_eq_ok.mp h with ⟨_, rfl⟩ | ⟨v, _, hv⟩
  · exact nofun
  · exact fun cs hcs => fits_of_ofJson (Json.read_of_toOption hv cs hcs)

end Captures

namespace RuleText

variable {r : RuleText}

def tables (r : RuleText) : List Captures :=
  r.captures.toList ++ (r.openingCaptures.toList ++ r.closingCaptures.toList)

theorem forall_mem_tables {Q : Captures → Prop} : (∀ cs ∈ r.tables, Q cs) ↔
    (∀ cs ∈ r.captures, Q cs) ∧ (∀ cs ∈ r.openingCaptures, Q cs) ∧ ∀ cs ∈ r.closingCaptures, Q cs := by
  simp only [tables, List.forall_mem_append, Option.mem_toList]
  exact Iff.rfl

def fields (r : RuleText) : Json.Fields :=
  [Json.optional "include" (r.includes.map .text), Json.optional "name" (r.name.map .text),
    Json.optional "contentName" (r.contentName.map .text),
    Json.optional "match" (r.pattern.map .text), Json.optional "begin" (r.opening.map .text),
    Json.optional "end" (r.closing.map .text),
    Json.optional "captures" (r.captures.map Captures.toJson),
    Json.optional "beginCaptures" (r.openingCaptures.map Captures.toJson),
    Json.optional "endCaptures" (r.closingCaptures.map Captures.toJson),
    Json.unlessEmpty "patterns" r.rules (.array (r.rules.map toJson)),
    Json.optional "comment" (r.comment.map .text)].flatten

theorem listToJson_eq (rs : List RuleText) : listToJson rs = rs.map toJson := by
  induction rs with
  | nil => rw [listToJson, List.map_nil]
  | cons r rs ih => rw [listToJson, List.map_cons, ih]

theorem toJson_eq (r : RuleText) : r.toJson = .record r.fields := by
  cases r
  simp only [toJson, fields, listToJson_eq, List.flatten_cons, List.flatten_nil, List.append_nil,
    List.append_assoc]

theorem keys_fields (r : RuleText) : (r.fields.map Prod.fst).Sublist fieldNames := by
  apply Json.keys_flatten
  iterate 9 refine .cons (Json.keys_optional _ _) ?_
  exact .cons (Json.keys_unlessEmpty _ _ _) (.cons (Json.keys_optional _ _) .nil)

theorem ofFields_toJson {nested : Json → Except Json.Fault (List RuleText)} {r : RuleText}
    (htables : ∀ cs ∈ r.tables, Captures.Fits depth cs)
    (hnested : r.rules ≠ [] → nested (.array (r.rules.map toJson)) = .ok r.rules) :
    ofFields depth nested r.toJson = .ok r := by
  obtain ⟨htable, hopeningTable, hclosingTable⟩ := forall_mem_tables.mp htables
  obtain ⟨all, hall, hlookup⟩ := Json.fieldsOf_record (by decide) r.keys_fields
  simp only [fields, List.flatten_cons, List.flatten_nil, List.lookup_append, Json.lookup_optional,
    Json.lookup_unlessEmpty] at hlookup
  have hincludes : Json.optionalText all "include" = .ok r.includes :=
    Json.optionalText_of_lookup (by simp [hlookup "include" (by decide)])
  have hname : Json.optionalText all "name" = .ok r.name :=
    Json.optionalText_of_lookup (by simp [hlookup "name" (by decide)])
  have hcontentName : Json.optionalText all "contentName" = .ok r.contentName :=
    Json.optionalText_of_lookup (by simp [hlookup "contentName" (by decide)])
  have hpattern : Json.optionalText all "match" = .ok r.pattern :=
    Json.optionalText_of_lookup (by simp [hlookup "match" (by decide)])
  have hopening : Json.optionalText all "begin" = .ok r.opening :=
    Json.optionalText_of_lookup (by simp [hlookup "begin" (by decide)])
  have hclosing : Json.optionalText all "end" = .ok r.closing :=
    Json.optionalText_of_lookup (by simp [hlookup "end" (by decide)])
  have hcaptures : Captures.field depth all "captures" = .ok r.captures :=
    Captures.field_of_lookup htable (by simp [hlookup "captures" (by decide)])
  have hopeningCaptures : Captures.field depth all "beginCaptures" = .ok r.openingCaptures :=
    Captures.field_of_lookup hopeningTable (by simp [hlookup "beginCaptures" (by decide)])
  have hclosingCaptures : Captures.field depth all "endCaptures" = .ok r.closingCaptures :=
    Captures.field_of_lookup hclosingTable (by simp [hlookup "endCaptures" (by decide)])
  have hrules : Json.withDefault all "patterns" [] nested = .ok r.rules :=
    Json.withDefault_unlessEmpty hnested (by simp [hlookup "patterns" (by decide)])
  have hcomment : Json.optionalText all "comment" = .ok r.comment :=
    Json.optionalText_of_lookup (by simp [hlookup "comment" (by decide)])
  rw [toJson_eq]
  simp only [ofFields, hall, hincludes, hname, hcontentName, hpattern, hopening, hclosing, hcaptures,
    hopeningCaptures, hclosingCaptures, hrules, hcomment, ok_bind]
  cases r
  rfl

theorem of_ofFields {nested : Json → Except Json.Fault (List RuleText)} {r : RuleText}
    (h : ofFields depth nested value = .ok r) :
    (∀ cs ∈ r.tables, Captures.Fits depth cs) ∧ (r.rules = [] ∨ ∃ v, nested v = .ok r.rules) := by
  obtain ⟨fields, _, h⟩ := bind_eq_ok.mp h
  obtain ⟨includes, _, h⟩ := bind_eq_ok.mp h
  obtain ⟨name, _, h⟩ := bind_eq_ok.mp h
  obtain ⟨contentName, _, h⟩ := bind_eq_ok.mp h
  obtain ⟨pattern, _, h⟩ := bind_eq_ok.mp h
  obtain ⟨opening, _, h⟩ := bind_eq_ok.mp h
  obtain ⟨closing, _, h⟩ := bind_eq_ok.mp h
  obtain ⟨captures, hcaptures, h⟩ := bind_eq_ok.mp h
  obtain ⟨openingCaptures, hopening, h⟩ := bind_eq_ok.mp h
  obtain ⟨closingCaptures, hclosing, h⟩ := bind_eq_ok.mp h
  obtain ⟨rules, hrules, h⟩ := bind_eq_ok.mp h
  obtain ⟨comment, _, h⟩ := bind_eq_ok.mp h
  cases h
  constructor
  · exact forall_mem_tables.mpr ⟨Captures.fits_of_field hcaptures, Captures.fits_of_field hopening,
      Captures.fits_of_field hclosing⟩
  · exact (Json.withDefault_eq_ok.mp hrules).imp And.right fun ⟨v, _, hv⟩ => ⟨v, hv⟩

/-- A rule as it is read where values may be nested `depth` deep. The list of the rules in it takes
one level of its own. -/
inductive Fits : Nat → RuleText → Prop
  | leaf {depth : Nat} {r : RuleText} (tables : ∀ cs ∈ r.tables, Captures.Fits depth cs)
      (rules : r.rules = []) : Fits (depth + 1) r
  | node {depth : Nat} {r : RuleText} (tables : ∀ cs ∈ r.tables, Captures.Fits (depth + 1) cs)
      (rules : ∀ r' ∈ r.rules, Fits depth r') : Fits (depth + 2) r

theorem fits_of_ofJson {r : RuleText} (h : ofJson depth value = .ok r) : r.Fits depth := by
  induction depth using Nat.twoStepInduction generalizing value r with
  | zero => cases h
  | one =>
      obtain ⟨htables, hrules | ⟨v, hv⟩⟩ := of_ofFields h
      · exact .leaf htables hrules
      · cases hv
  | more depth ih _ =>
      obtain ⟨htables, hrules | ⟨v, hv⟩⟩ := of_ofFields h
      · exact .leaf htables hrules
      · refine .node htables fun r' hr' => ?_
        obtain ⟨v', hv'⟩ := Json.read_of_toList hv r' hr'
        exact ih hv'

theorem Fits.ofJson_toJson {r : RuleText} (h : r.Fits depth) : ofJson depth r.toJson = .ok r := by
  induction h with
  | @leaf depth r htables hrules =>
      cases depth with
      | zero => exact ofFields_toJson htables fun hne => absurd hrules hne
      | succ depth => exact ofFields_toJson htables fun hne => absurd hrules hne
  | node htables hrules ih => exact ofFields_toJson htables fun _ => Json.toList_map ih

theorem plain_fields (htables : ∀ cs ∈ r.tables, Captures.Fits depth cs)
    (hrules : r.rules ≠ [] → (Json.array (r.rules.map toJson)).Plain depth) :
    ∀ f ∈ r.fields, f.2.Plain depth := by
  obtain ⟨htable, hopeningTable, hclosingTable⟩ := forall_mem_tables.mp htables
  simp only [fields, List.flatten_cons, List.flatten_nil, List.append_nil, List.forall_mem_append]
  refine ⟨Json.plain_optionalText _ _, Json.plain_optionalText _ _, Json.plain_optionalText _ _,
    Json.plain_optionalText _ _, Json.plain_optionalText _ _, Json.plain_optionalText _ _,
    Captures.plain_optional _ htable, Captures.plain_optional _ hopeningTable,
    Captures.plain_optional _ hclosingTable, Json.forall_mem_unlessEmpty.mpr hrules,
    Json.plain_optionalText _ _⟩

theorem Fits.plain (h : r.Fits depth) : r.toJson.Plain depth := by
  induction h with
  | leaf htables hrules =>
      rw [toJson_eq]
      exact .record (plain_fields htables fun hne => absurd hrules hne)
  | node htables _ ih =>
      rw [toJson_eq]
      exact .record (plain_fields htables fun _ => .array (List.forall_mem_map.mpr ih))

end RuleText

namespace GrammarText

variable {g : GrammarText}

structure Fits (depth : Nat) (g : GrammarText) : Prop where
  rules : ∀ r ∈ g.rules, r.Fits depth
  ascending : KeyList.Ascending g.repository
  entries : ∀ e ∈ g.repository, e.2.Fits depth

def fields (g : GrammarText) : Json.Fields :=
  [[("name", .text g.name)], [("scopeName", .text g.scopeName)],
    Json.unlessEmpty "fileTypes" g.fileTypes (.array (g.fileTypes.map .text)),
    [("patterns", .array (g.rules.map RuleText.toJson))],
    Json.unlessEmpty "repository" g.repository
      (.record (g.repository.map fun (key, r) => (key, r.toJson)))].flatten

theorem toJson_eq (g : GrammarText) : g.toJson = .record g.fields := by
  simp only [toJson, fields, Json.texts, RuleText.listToJson_eq, List.flatten_cons, List.flatten_nil,
    List.append_nil, List.append_assoc, List.cons_append, List.nil_append]

theorem keys_fields (g : GrammarText) : (g.fields.map Prod.fst).Sublist fieldNames := by
  apply Json.keys_flatten
  refine .cons (List.Sublist.refl _) (.cons (List.Sublist.refl _) ?_)
  refine .cons (Json.keys_unlessEmpty _ _ _) (.cons (List.Sublist.refl _) ?_)
  exact .cons (Json.keys_unlessEmpty _ _ _) .nil

theorem Fits.ofJson_toJson (h : g.Fits depth) : ofJson (depth + 2) g.toJson = .ok g := by
  obtain ⟨all, hall, hlookup⟩ := Json.fieldsOf_record (by decide) g.keys_fields
  simp only [fields, List.flatten_cons, List.flatten_nil, List.lookup_append, Json.lookup_singleton,
    Json.lookup_unlessEmpty] at hlookup
  have hname : Json.required all "name" Json.toText = .ok g.name :=
    Json.required_of_lookup (Json.toText_text _) (by simp [hlookup "name" (by decide)])
  have hscopeName : Json.required all "scopeName" Json.toText = .ok g.scopeName :=
    Json.required_of_lookup (Json.toText_text _) (by simp [hlookup "scopeName" (by decide)])
  have hfileTypes : Json.withDefault all "fileTypes" [] (textsOfJson (depth + 1)) = .ok g.fileTypes := by
    have hread : textsOfJson (depth + 1) (.array (g.fileTypes.map .text)) = .ok g.fileTypes :=
      Json.toList_map fun s _ => Json.toText_text s
    exact Json.withDefault_unlessEmpty (fun _ => hread) (by simp [hlookup "fileTypes" (by decide)])
  have hrules : Json.withDefault all "patterns" [] (RuleText.listOfJson (depth + 1)) = .ok g.rules := by
    have hread : RuleText.listOfJson (depth + 1) (.array (g.rules.map RuleText.toJson)) = .ok g.rules :=
      Json.toList_map fun r hr => (h.rules r hr).ofJson_toJson
    exact Json.withDefault_of_lookup hread (by simp [hlookup "patterns" (by decide)])
  have hrepository : Json.withDefault all "repository" [] (RuleText.tableOfJson (depth + 1)) =
      .ok g.repository := by
    have hread : RuleText.tableOfJson (depth + 1)
        (.record (g.repository.map fun (key, r) => (key, r.toJson))) = .ok g.repository :=
      Json.toTable_map h.ascending fun e he => (h.entries e he).ofJson_toJson
    exact Json.withDefault_unlessEmpty (fun _ => hread) (by simp [hlookup "repository" (by decide)])
  rw [toJson_eq]
  simp only [ofJson, Json.enter, hall, hname, hscopeName, hfileTypes, hrules, hrepository, ok_bind]
  rfl

theorem fits_of_ofJson (h : ofJson (depth + 2) value = .ok g) : g.Fits depth := by
  obtain ⟨_, hdepth, h⟩ := bind_eq_ok.mp h
  cases hdepth
  obtain ⟨fields, _, h⟩ := bind_eq_ok.mp h
  obtain ⟨name, _, h⟩ := bind_eq_ok.mp h
  obtain ⟨scopeName, _, h⟩ := bind_eq_ok.mp h
  obtain ⟨fileTypes, _, h⟩ := bind_eq_ok.mp h
  obtain ⟨rules, hrules, h⟩ := bind_eq_ok.mp h
  obtain ⟨repository, hrepository, h⟩ := bind_eq_ok.mp h
  cases h
  have hfits : ∀ r ∈ rules, r.Fits depth := by
    rcases Json.withDefault_eq_ok.mp hrules with ⟨_, rfl⟩ | ⟨v, _, hv⟩
    · exact List.forall_mem_nil _
    · intro r hr
      obtain ⟨v', hv'⟩ := Json.read_of_toList hv r hr
      exact RuleText.fits_of_ofJson hv'
  rcases Json.withDefault_eq_ok.mp hrepository with ⟨_, rfl⟩ | ⟨v, _, hv⟩
  · exact ⟨hfits, .nil, List.forall_mem_nil _⟩
  · obtain ⟨hascending, hentries⟩ := Json.read_of_toTable hv
    refine ⟨hfits, hascending, fun e he => ?_⟩
    obtain ⟨v', hv'⟩ := hentries e he
    exact RuleText.fits_of_ofJson hv'

theorem Fits.plain (h : g.Fits depth) : g.toJson.Plain (depth + 2) := by
  rw [toJson_eq]
  refine .record ?_
  simp only [fields, List.flatten_cons, List.flatten_nil, List.append_nil, List.forall_mem_append,
    List.forall_mem_singleton, Json.forall_mem_unlessEmpty]
  refine ⟨.text _, .text _, fun _ => .array (List.forall_mem_map.mpr fun s _ => .text s),
    .array (List.forall_mem_map.mpr fun r hr => (h.rules r hr).plain), fun _ => .record ?_⟩
  exact List.forall_mem_map.mpr fun e he => (h.entries e he).plain

structure Named (g : GrammarText) : Prop where
  name : Text.allBlank g.name.toList = false
  scopeName : Text.allBlank g.scopeName.toList = false

theorem read?_eq_ok {text : String} :
    read? text = .ok g ↔ Json.decode (ofJson Json.depthLimit) text = .ok g ∧ g.Named := by
  unfold read?
  rw [bind_eq_ok]
  constructor
  · rintro ⟨g', hdecode, h⟩
    by_cases hname : Text.allBlank g'.name.toList
    · rw [if_pos hname] at h
      cases h
    · by_cases hscopeName : Text.allBlank g'.scopeName.toList
      · rw [if_neg hname, if_pos hscopeName] at h
        cases h
      · rw [if_neg hname, if_neg hscopeName] at h
        cases h
        exact ⟨mapError_eq_ok.mp hdecode, eq_false_of_ne_true hname, eq_false_of_ne_true hscopeName⟩
  · rintro ⟨hdecode, hname, hscopeName⟩
    refine ⟨g, mapError_eq_ok.mpr hdecode, ?_⟩
    rw [hname, hscopeName]
    rfl

/-- A document takes two levels for the rules in it. -/
theorem fits_of_decode {text : String} (h : Json.decode (ofJson Json.depthLimit) text = .ok g) :
    g.Fits (Json.depthLimit - 2) := by
  obtain ⟨v, _, hv⟩ := Json.decode_eq_ok.mp h
  exact fits_of_ofJson hv

theorem Fits.reads_back (h : g.Fits (Json.depthLimit - 2)) (hnamed : g.Named) (indent : Option Nat) :
    read? (.ofList (Json.write indent g.toJson)) = .ok g := by
  have hdecode : Json.decode (ofJson Json.depthLimit) (.ofList (Json.write indent g.toJson)) =
      ofJson Json.depthLimit g.toJson := h.plain.decode_write indent
  exact read?_eq_ok.mpr ⟨hdecode.trans h.ofJson_toJson, hnamed⟩

/-- Which grammars are read from some text. -/
theorem exists_read?_iff :
    (∃ text, read? text = .ok g) ↔ g.Named ∧ g.Fits (Json.depthLimit - 2) := by
  constructor
  · rintro ⟨text, h⟩
    obtain ⟨hdecode, hnamed⟩ := read?_eq_ok.mp h
    exact ⟨hnamed, fits_of_decode hdecode⟩
  · rintro ⟨hnamed, hfits⟩
    exact ⟨_, hfits.reads_back hnamed none⟩

/-- A grammar that was read is kept by writing it, on one line or indented, and so is its text. -/
theorem read?_written {text : String} (h : read? text = .ok g) (indent : Option Nat) :
    read? (.ofList (Json.write indent g.toJson)) = .ok g ∧
      (read? (.ofList (Json.write indent g.toJson))).map (fun g' => .ofList (Json.write indent g'.toJson)) =
        .ok (String.ofList (Json.write indent g.toJson)) := by
  obtain ⟨hnamed, hfits⟩ := exists_read?_iff.mp ⟨text, h⟩
  have hread := hfits.reads_back hnamed indent
  exact ⟨hread, map_eq_ok.mpr ⟨g, hread, rfl⟩⟩

def pairText : String :=
  "\x7b\x22scopeName\x22:\x22a.b\x22,\x22name\x22:\x22P\x22,\x22repository\x22:\x7b\x22q\x22:[null,\x22\\u00e9\x22]\x7d," ++
  "\x22patterns\x22:[\x7b\x22match\x22:\x22x\x22,\x22captures\x22:\x7b\x7d\x7d]\x7d"

def pair : GrammarText where
  name := "P"
  scopeName := "a.b"
  rules := [{ pattern := some "x", captures := some [] }]
  repository := [("q", { name := some "é" })]

set_option maxRecDepth 4000 in
theorem read?_written_pair : read? pairText = .ok pair ∧
    read? (.ofList (Json.write none pair.toJson)) = .ok pair := by
  have hread : read? pairText = .ok pair := by cbv
  exact ⟨hread, (read?_written hread none).1⟩

end GrammarText

end Scopemark
