import Mathlib.Data.List.Nodup
import Scopemark.Json.Decode
import Scopemark.Proofs.Except
import Scopemark.Proofs.Json.Written
import Scopemark.Proofs.KeyList

namespace Scopemark.Json

variable {α : Type} {read : Json → Except Fault α} {toJson : α → Json} {fields found : Fields}
  {names : List String} {name : String} {value : Json} {a default : α} {depth : Nat}

theorem lookup_cons_eq_ite {κ : Type} [BEq κ] [LawfulBEq κ] [DecidableEq κ] (key name : κ)
    (value : Json) (fields : List (κ × Json)) :
    List.lookup key ((name, value) :: fields) = if key = name then some value else fields.lookup key := by
  rw [List.lookup_cons]
  by_cases h : key = name
  · rw [if_pos h, beq_iff_eq.mpr h]
  · rw [if_neg h, beq_false_of_ne h]

theorem lookup_singleton (key name : String) (value : Json) :
    List.lookup key [(name, value)] = if key = name then some value else none :=
  lookup_cons_eq_ite key name value []

theorem lookup_optional (key name : String) (value : Option Json) :
    (optional name value).lookup key = if key = name then value else none := by
  cases value with
  | none => simp [optional]
  | some v => exact lookup_singleton key name v

theorem lookup_unlessEmpty {items : List α} (key name : String) (value : Json) :
    (unlessEmpty name items value).lookup key =
      if key = name ∧ items ≠ [] then some value else none := by
  cases items with
  | nil => simp [unlessEmpty]
  | cons item items => simp [unlessEmpty, lookup_cons_eq_ite]

theorem keys_optional (name : String) (value : Option Json) :
    ((optional name value).map Prod.fst).Sublist [name] := by
  cases value with
  | none => exact List.nil_sublist _
  | some v => exact List.Sublist.refl _

theorem keys_unlessEmpty (name : String) (items : List α) (value : Json) :
    ((unlessEmpty name items value).map Prod.fst).Sublist [name] := by
  cases items with
  | nil => exact List.nil_sublist _
  | cons item items => exact List.Sublist.refl _

/-- Each part has its own name. -/
theorem keys_flatten {parts : List Fields}
    (h : List.Forall₂ (fun part name => (part.map Prod.fst).Sublist [name]) parts names) :
    (parts.flatten.map Prod.fst).Sublist names := by
  induction h with
  | nil => exact List.Sublist.refl _
  | cons hpart _ ih =>
      rw [List.flatten_cons, List.map_append]
      exact hpart.append ih

def field? (names : List String) (name : String) : Json → Option Json
  | .object fields => fields.lookup (some name)
  | .array elements => elements[names.idxOf name]?
  | _ => none

theorem lookup_of_knownFields {entries : List (Option String × Json)} {all : Fields}
    (h : knownFields names entries found = .ok all) (hname : name ∈ names) :
    all.lookup name = (found.lookup name).or (entries.lookup (some name)) := by
  induction entries generalizing found with
  | nil =>
      cases h
      rw [List.lookup_nil, Option.or_none]
  | cons entry entries ih =>
      obtain ⟨key, value⟩ := entry
      cases key with
      | none => cases h
      | some key =>
          have hentry : List.lookup (some name) ((some key, value) :: entries) =
              if name = key then some value else entries.lookup (some name) := by
            simp [lookup_cons_eq_ite]
          rw [knownFields] at h
          split at h
          next hunknown =>
            have hne : name ≠ key := by
              rintro rfl
              simp [hname] at hunknown
            rw [ih h, hentry, if_neg hne]
          next hknown =>
            split at h
            · cases h
            next hnew =>
              rw [ih h, hentry, lookup_cons_eq_ite]
              by_cases he : name = key
              · subst he
                rw [Option.not_isSome_iff_eq_none.mp hnew]
                simp
              · rw [if_neg he, if_neg he]

theorem lookup_zip {elements : List Json} (hname : name ∈ names) :
    (names.zip elements).lookup name = elements[names.idxOf name]? := by
  induction names generalizing elements with
  | nil => cases hname
  | cons first names ih =>
      cases elements with
      | nil => simp
      | cons e elements =>
          rw [List.zip_cons_cons, lookup_cons_eq_ite, List.idxOf_cons]
          by_cases he : name = first
          · subst he
            simp
          · have hrest := List.mem_of_ne_of_mem he hname
            rw [if_neg he, ih hrest, beq_false_of_ne (Ne.symm he)]
            rfl

theorem lookup_of_fieldsOf (h : fieldsOf names value = .ok fields) (hname : name ∈ names) :
    fields.lookup name = field? names name value := by
  cases value with
  | object entries => exact (lookup_of_knownFields h hname).trans (Option.none_or ..)
  | array elements =>
      rw [fieldsOf] at h
      split at h
      · cases h
      · cases h
        exact lookup_zip hname
  | _ => cases h

theorem exists_knownFields (hnodup : (fields.map Prod.fst).Nodup)
    (hnew : ∀ key ∈ fields.map Prod.fst, found.lookup key = none) :
    ∃ all, knownFields names (fields.map fun (key, value) => (some key, value)) found = .ok all := by
  induction fields generalizing found with
  | nil => exact ⟨found, rfl⟩
  | cons field fields ih =>
      obtain ⟨key, value⟩ := field
      obtain ⟨hkey, hnodup⟩ := List.nodup_cons.mp hnodup
      obtain ⟨hfirst, hnew⟩ := List.forall_mem_cons.mp hnew
      rw [List.map_cons, knownFields]
      split
      · exact ih hnodup hnew
      · have hlater : ∀ k ∈ fields.map Prod.fst, List.lookup k ((key, value) :: found) = none := by
          intro k hk
          have hne : k ≠ key := ne_of_mem_of_not_mem hk hkey
          rw [lookup_cons_eq_ite, if_neg hne]
          exact hnew k hk
        rw [hfirst]
        exact ih hnodup hlater

theorem lookup_map_some (fields : Fields) (name : String) :
    (fields.map fun (key, value) => (some key, value)).lookup (some name) = fields.lookup name := by
  induction fields with
  | nil => rfl
  | cons field fields ih =>
      rw [List.map_cons, List.lookup_cons, List.lookup_cons, ih]
      rfl

/-- Fields that are written in the order of their names are found by them. -/
theorem fieldsOf_record (hnames : names.Nodup) (h : (fields.map Prod.fst).Sublist names) :
    ∃ all, fieldsOf names (.record fields) = .ok all ∧
      ∀ key ∈ names, all.lookup key = fields.lookup key := by
  have hnew : ∀ key ∈ fields.map Prod.fst, List.lookup key ([] : Fields) = none := fun _ _ => rfl
  obtain ⟨all, hall⟩ := exists_knownFields (h.nodup hnames) hnew
  have hfields : fieldsOf names (.record fields) = .ok all := hall
  refine ⟨all, hfields, fun key hkey => ?_⟩
  rw [lookup_of_fieldsOf hfields hkey]
  exact lookup_map_some fields key

@[simp]
theorem toText_text (s : String) : toText (.text s) = .ok s := rfl

@[simp]
theorem toBool_bool (b : Bool) : toBool (.bool b) = .ok b := rfl

theorem eq_text_of_toText {text : String} (h : toText value = .ok text) : value = .text text := by
  unfold toText at h
  split at h
  · cases h
    rfl
  · cases h

theorem eq_bool_of_toBool {b : Bool} (h : toBool value = .ok b) : value = .bool b := by
  unfold toBool at h
  split at h
  · cases h
    rfl
  · cases h

theorem required_of_lookup (hread : read value = .ok a) (h : fields.lookup name = some value) :
    required fields name read = .ok a := by
  rw [required, h]
  exact hread

theorem required_eq_ok : required fields name read = .ok a ↔
    ∃ v, fields.lookup name = some v ∧ read v = .ok a := by
  unfold required
  cases fields.lookup name with
  | none => simp
  | some v => simp

theorem withDefault_of_lookup (hread : read value = .ok a) (h : fields.lookup name = some value) :
    withDefault fields name default read = .ok a := by
  rw [withDefault, h]
  exact hread

theorem withDefault_unlessEmpty {items : List α} {read : Json → Except Fault (List α)}
    (hread : items ≠ [] → read value = .ok items)
    (h : fields.lookup name = if items ≠ [] then some value else none) :
    withDefault fields name [] read = .ok items := by
  by_cases hempty : items = []
  · rw [if_neg (not_not.mpr hempty)] at h
    rw [withDefault, h, hempty]
  · rw [if_pos hempty] at h
    exact withDefault_of_lookup (hread hempty) h

theorem withDefault_eq_ok : withDefault fields name default read = .ok a ↔
    fields.lookup name = none ∧ a = default ∨ ∃ v, fields.lookup name = some v ∧ read v = .ok a := by
  unfold withDefault
  cases fields.lookup name with
  | none => simp [eq_comm]
  | some v => simp

theorem toOption_eq_map (h : value ≠ .null) : toOption read value = (read value).map some := by
  cases value with
  | null => exact absurd rfl h
  | _ => rfl

theorem toOption_of_ne_null (hread : read value = .ok a) (h : value ≠ .null) :
    toOption read value = .ok (some a) := by
  rw [toOption_eq_map h, hread]
  rfl

theorem read_of_toOption {x : Option α} (h : toOption read value = .ok x) :
    ∀ a ∈ x, read value = .ok a := by
  rintro a rfl
  by_cases hnull : value = .null
  · subst hnull
    cases h
  · rw [toOption_eq_map hnull] at h
    obtain ⟨b, hb, he⟩ := map_eq_ok.mp h
    cases he
    exact hb

theorem optionalText_of_lookup {text : Option String} (h : fields.lookup name = text.map .text) :
    optionalText fields name = .ok text := by
  rw [optionalText, withDefault, h]
  cases text with
  | none => rfl
  | some s => rfl

theorem decode_eq_ok {text : String} :
    decode read text = .ok a ↔ ∃ v, read? text.toList = some v ∧ read v = .ok a := by
  unfold decode
  cases read? text.toList with
  | none => simp
  | some v => simp

theorem toList_map {as : List α} (h : ∀ a ∈ as, read (toJson a) = .ok a) :
    toList read (.array (as.map toJson)) = .ok as :=
  mapM_map_eq_ok h

theorem read_of_toList {as : List α} (h : toList read value = .ok as) :
    ∀ a ∈ as, ∃ v, read v = .ok a := by
  cases value with
  | array elements =>
      intro a ha
      obtain ⟨v, _, hv⟩ := exists_of_mem_mapM h a ha
      exact ⟨v, hv⟩
  | _ => cases h

theorem toTable_map {table : List (String × α)} (hascending : KeyList.Ascending table)
    (h : ∀ e ∈ table, read (toJson e.2) = .ok e.2) :
    toTable read (.record (table.map fun e => (e.1, toJson e.2))) = .ok table := by
  refine bind_eq_ok.mpr ⟨table, ?_, congrArg Except.ok (KeyList.ofList_of_ascending hascending)⟩
  rw [List.map_map]
  refine mapM_map_eq_ok fun e he => ?_
  exact map_eq_ok.mpr ⟨e.2, h e he, rfl⟩

theorem read_of_toTable {table : List (String × α)} (h : toTable read value = .ok table) :
    KeyList.Ascending table ∧ ∀ e ∈ table, ∃ v, read v = .ok e.2 := by
  cases value with
  | object fields =>
      obtain ⟨entries, hentries, he⟩ := bind_eq_ok.mp h
      cases he
      refine ⟨KeyList.ascending_ofList entries, fun e he => ?_⟩
      obtain ⟨⟨key, v⟩, _, hv⟩ := exists_of_mem_mapM hentries e (KeyList.mem_of_mem_ofList he)
      cases key with
      | none => cases hv
      | some key =>
          obtain ⟨a, ha, hae⟩ := map_eq_ok.mp hv
          exact ⟨v, hae ▸ ha⟩
  | _ => cases h

theorem forall_mem_optional {x : Option Json} {P : Json → Prop} :
    (∀ f ∈ optional name x, P f.2) ↔ ∀ v ∈ x, P v := by
  cases x with
  | none => exact iff_of_true nofun nofun
  | some v => simp [optional]

theorem forall_mem_unlessEmpty {items : List α} {P : Json → Prop} :
    (∀ f ∈ unlessEmpty name items value, P f.2) ↔ (items ≠ [] → P value) := by
  cases items with
  | nil => exact iff_of_true nofun fun h => absurd rfl h
  | cons item items => simp [unlessEmpty]

/-- A value without numbers that is nested at most `depth` deep. -/
inductive Plain : Nat → Json → Prop
  | null {depth : Nat} : Plain depth .null
  | bool {depth : Nat} (b : Bool) : Plain depth (.bool b)
  | text {depth : Nat} (s : String) : Plain depth (.text s)
  | array {depth : Nat} {elements : List Json} (h : ∀ e ∈ elements, Plain depth e) :
      Plain (depth + 1) (.array elements)
  | record {depth : Nat} {fields : Fields} (h : ∀ f ∈ fields, Plain depth f.2) :
      Plain (depth + 1) (.record fields)

theorem plain_optionalText (name : String) (text : Option String) :
    ∀ f ∈ optional name (text.map .text), f.2.Plain depth := by
  rw [forall_mem_optional]
  intro v hv
  obtain ⟨s, _, rfl⟩ := Option.map_eq_some_iff.mp hv
  exact .text s

theorem Plain.numberless (h : Plain depth value) : Numberless value := by
  induction h with
  | null => exact .null
  | bool b => exact .bool b
  | text s => exact .string (some s)
  | array _ ih => exact .array ih
  | record _ ih => exact .object (List.forall_mem_map.mpr ih)

theorem Plain.isWhole (h : Plain depth value) : value.isWhole depth = true := by
  induction h with
  | null => rw [Json.isWhole]
  | bool b => rw [Json.isWhole]
  | text s => rw [Json.text, Json.isWhole, Option.isSome_some]
  | array _ ih => rw [Json.isWhole, List.all_eq_true]; exact ih
  | record _ ih => rw [Json.record, Json.isWhole, List.all_map, List.all_eq_true]; exact ih

theorem Plain.decode_write (h : Plain depth value) (indent : Option Nat) :
    decode read (.ofList (write indent value)) = read value := by
  rw [decode, String.toList_ofList, h.numberless.reads_back]

end Scopemark.Json
