import Mathlib.Data.List.Basic
import Mathlib.Data.String.Basic
import Scopemark.Proofs.Scope.Basic
import Scopemark.Proofs.Text.Cut

namespace Scopemark.Scope

open Text

variable {name : String} {segments pieces : List String} {error : ScopeError} {a b c : Scope}

def dotted (pieces : List String) : String := String.intercalate "." pieces

structure IsSegment (segment : String) : Prop where
  ne_empty : segment ≠ ""
  noDot : '.' ∉ segment.toList
  noBlank : ∀ c ∈ segment.toList, isBlank c = false

theorem dotted_cut (name : String) : dotted ((cut '.' name.toList).map String.ofList) = name := by
  have hmap : ((cut '.' name.toList).map String.ofList).map String.toList = cut '.' name.toList := by
    simp [Function.comp_def]
  rw [← String.toList_inj, dotted, String.toList_intercalate, hmap]
  exact intercalate_cut '.' name.toList

theorem cut_dotted (h : ∀ p ∈ pieces, '.' ∉ p.toList) (hne : pieces ≠ []) :
    cut '.' (dotted pieces).toList = pieces.map String.toList := by
  rw [dotted, String.toList_intercalate]
  exact cut_intercalate (List.forall_mem_map.mpr h) (by simpa using hne)

theorem any_isBlank_eq_false_iff {cs : List Char} :
    cs.any isBlank = false ↔ ∀ c ∈ cs, isBlank c = false := by
  simp

theorem dotted_segments (s : Scope) : dotted s.segments = s.name := dotted_cut s.name

theorem segments_ne_nil (s : Scope) : s.segments ≠ [] := by
  unfold Scope.segments
  rw [ne_eq, List.map_eq_nil_iff]
  exact cut_ne_nil '.' s.name.toList

theorem isSegment_of_mem (s : Scope) : ∀ x ∈ s.segments, IsSegment x := by
  unfold Scope.segments
  rw [List.forall_mem_map]
  intro p hp
  have hgap := List.any_eq_false.mp s.noGap p hp
  have hchar (c : Char) (hc : c ∈ p) : c ∈ s.name.toList ∧ c ≠ '.' :=
    exists_mem_cut_iff.mp ⟨p, hp, hc⟩
  refine ⟨by simpa using hgap, ?_, ?_⟩
  · rw [String.toList_ofList]
    exact fun hdot => (hchar '.' hdot).2 rfl
  · rw [String.toList_ofList]
    exact fun c hc => any_isBlank_eq_false_iff.mp s.noBlank c (hchar c hc).1

/-- Segments that are joined make a scope that has them. -/
theorem exists_of_isSegment (h : ∀ x ∈ segments, IsSegment x) (hne : segments ≠ []) :
    ∃ s : Scope, s.name = dotted segments ∧ s.segments = segments := by
  have hcut : cut '.' (dotted segments).toList = segments.map String.toList :=
    cut_dotted (fun x hx => (h x hx).noDot) hne
  have hblank : (dotted segments).toList.any isBlank = false := by
    rw [any_isBlank_eq_false_iff]
    intro c hc
    by_cases hdot : c = '.'
    · subst hdot
      decide
    · obtain ⟨p, hp, hcp⟩ := exists_mem_cut_iff.mpr ⟨hc, hdot⟩
      rw [hcut, List.mem_map] at hp
      obtain ⟨x, hx, rfl⟩ := hp
      exact (h x hx).noBlank c hcp
  have hgap : (cut '.' (dotted segments).toList).any List.isEmpty = false := by
    rw [hcut, List.any_eq_false, List.forall_mem_map]
    exact fun x hx => by simpa using (h x hx).ne_empty
  refine ⟨⟨dotted segments, hblank, hgap⟩, rfl, ?_⟩
  unfold Scope.segments
  simp [hcut, Function.comp_def]

theorem exists_segments_iff : (∃ s, ofString? name = .ok s ∧ s.segments = segments) ↔
    segments ≠ [] ∧ (∀ x ∈ segments, IsSegment x) ∧ dotted segments = name := by
  constructor
  · rintro ⟨s, hs, rfl⟩
    exact ⟨s.segments_ne_nil, s.isSegment_of_mem, s.dotted_segments.trans (name_of_ofString? hs)⟩
  · rintro ⟨hne, hsegments, rfl⟩
    obtain ⟨s, hname, hs⟩ := exists_of_isSegment hsegments hne
    exact ⟨s, hname ▸ ofString?_name s, hs⟩

def HasBlank (name : String) : Prop := ∃ c ∈ name.toList, isBlank c = true

def HasGap (name : String) : Prop :=
  ∃ pieces, dotted pieces = name ∧ (∀ p ∈ pieces, '.' ∉ p.toList) ∧ "" ∈ pieces

theorem any_isEmpty_iff_hasGap : (cut '.' name.toList).any List.isEmpty = true ↔ HasGap name := by
  rw [List.any_eq_true]
  constructor
  · rintro ⟨p, hp, hempty⟩
    obtain rfl := List.isEmpty_iff.mp hempty
    refine ⟨_, dotted_cut name, List.forall_mem_map.mpr fun p hp hdot => ?_, List.mem_map_of_mem hp⟩
    rw [String.toList_ofList] at hdot
    exact (exists_mem_cut_iff.mp ⟨p, hp, hdot⟩).2 rfl
  · rintro ⟨pieces, rfl, hdots, hempty⟩
    rw [cut_dotted hdots (List.ne_nil_of_mem hempty)]
    exact ⟨_, List.mem_map_of_mem hempty, rfl⟩

/-- Why a text is no scope. Of several reasons the first one here is given. -/
inductive Refused (name : String) : ScopeError → Prop
  | empty (none : name = "") : Refused name .empty
  | whitespace (blank : HasBlank name) : Refused name (.whitespace name)
  | emptySegment (some : name ≠ "") (solid : ¬ HasBlank name) (gap : HasGap name) :
      Refused name (.emptySegment name)

theorem ofString?_eq_error_iff : ofString? name = .error error ↔ Refused name error := by
  have hempty : name.toList.isEmpty = true ↔ name = "" := by simp
  have hblank : name.toList.any isBlank = true ↔ HasBlank name := List.any_eq_true
  unfold ofString?
  constructor
  · intro h
    split at h
    next hnone =>
      cases h
      exact .empty (hempty.mp hnone)
    next hsome =>
      split at h
      next hany =>
        cases h
        exact .whitespace (hblank.mp hany)
      next hsolid =>
        split at h
        next hany =>
          cases h
          exact .emptySegment (mt hempty.mpr hsome) (mt hblank.mpr hsolid)
            (any_isEmpty_iff_hasGap.mp hany)
        next => cases h
  · intro h
    cases h with
    | empty hnone => rw [if_pos (hempty.mpr hnone)]
    | whitespace hany =>
        have hsome : name ≠ "" := by
          rintro rfl
          obtain ⟨c, hc, -⟩ := hany
          exact List.not_mem_nil hc
        rw [if_neg (mt hempty.mp hsome), dif_pos (hblank.mpr hany)]
    | emptySegment hsome hsolid hgap =>
        rw [if_neg (mt hempty.mp hsome), dif_neg (mt hblank.mp hsolid),
          dif_pos (any_isEmpty_iff_hasGap.mpr hgap)]

theorem isPrefixOf_iff_name : a.isPrefixOf b = true ↔
    b.name = a.name ∨ ∃ rest, b.name.toList = a.name.toList ++ '.' :: rest := by
  unfold isPrefixOf
  rw [Bool.and_eq_true, List.isPrefixOf_iff_prefix]
  constructor
  · rintro ⟨⟨rest, hrest⟩, hstop⟩
    rw [← hrest, List.drop_left] at hstop
    cases rest with
    | nil => exact .inl (String.toList_inj.mp (by rw [← hrest, List.append_nil]))
    | cons c rest =>
        obtain rfl : c = '.' := beq_iff_eq.mp hstop
        exact .inr ⟨rest, hrest.symm⟩
  · rintro (hname | ⟨rest, hrest⟩)
    · rw [hname, List.drop_length]
      exact ⟨List.prefix_rfl, rfl⟩
    · rw [hrest, List.drop_left]
      exact ⟨List.prefix_append _ _, rfl⟩

/-- Where the name goes on behind a dot, the segments go on, and the other way round. -/
theorem isPrefixOf_iff : a.isPrefixOf b = true ↔ a.segments <+: b.segments := by
  rw [isPrefixOf_iff_name]
  constructor
  · rintro (hname | ⟨rest, hrest⟩)
    · obtain rfl := ext_name hname
      exact List.prefix_rfl
    · unfold Scope.segments
      rw [hrest, cut_append_sep, List.map_append]
      exact List.prefix_append _ _
  · rintro ⟨rest, hrest⟩
    have hname : dotted (a.segments ++ rest) = b.name := by rw [hrest, b.dotted_segments]
    by_cases hnil : rest = []
    · rw [hnil, List.append_nil, a.dotted_segments] at hname
      exact .inl hname.symm
    · rw [dotted, String.intercalate_append_of_ne_nil a.segments_ne_nil hnil] at hname
      change dotted a.segments ++ "." ++ dotted rest = b.name at hname
      rw [a.dotted_segments] at hname
      exact .inr ⟨(dotted rest).toList, by simp [← hname]⟩

theorem segments_inj : a.segments = b.segments ↔ a = b := by
  refine ⟨fun h => ext_name ?_, congrArg Scope.segments⟩
  rw [← a.dotted_segments, h, b.dotted_segments]

theorem isPrefixOf_refl (a : Scope) : a.isPrefixOf a = true := isPrefixOf_iff.mpr List.prefix_rfl

theorem isPrefixOf_antisymm (h : a.isPrefixOf b = true) (k : b.isPrefixOf a = true) : a = b := by
  rw [isPrefixOf_iff] at h k
  exact segments_inj.mp (h.eq_of_length_le k.length_le)

theorem isPrefixOf_trans (h : a.isPrefixOf b = true) (k : b.isPrefixOf c = true) :
    a.isPrefixOf c = true := by
  rw [isPrefixOf_iff] at h k ⊢
  exact h.trans k

theorem eq_or_lt_of_isPrefixOf (h : a.isPrefixOf b = true) : a = b ∨ a < b := by
  have hprefix : a.name.toList <+: b.name.toList := by
    rcases isPrefixOf_iff_name.mp h with hname | ⟨rest, hrest⟩
    · exact hname ▸ List.prefix_rfl
    · rw [hrest]
      exact List.prefix_append _ _
  have hnot : ¬ b < a := fun hlt => hprefix.le (String.lt_iff_toList_lt.mp hlt)
  by_cases hlt : a < b
  · exact .inr hlt
  · exact .inl (eq_of_not_lt hlt hnot)

/-- Scopes are their segments: a text is a scope if it joins a list of segments, which are then its own,
and to be a prefix is to have a prefix of the segments. That is a partial order, and the order of the names
goes on from it. -/
theorem segments_faithful (name : String) (segments : List String) (error : ScopeError)
    (a b c : Scope) :
    ((∃ s, ofString? name = .ok s ∧ s.segments = segments) ↔
      segments ≠ [] ∧ (∀ x ∈ segments, IsSegment x) ∧ dotted segments = name) ∧
    (ofString? name = .error error ↔ Refused name error) ∧
    (a.segments = b.segments ↔ a = b) ∧
    (a.isPrefixOf b = true ↔ a.segments <+: b.segments) ∧
    (a.isPrefixOf b = true ∧ b.isPrefixOf a = true ↔ a = b) ∧
    (a.isPrefixOf b = true → b.isPrefixOf c = true → a.isPrefixOf c = true) ∧
    (a.isPrefixOf b = true → a = b ∨ a < b) := by
  refine ⟨exists_segments_iff, ofString?_eq_error_iff, segments_inj, isPrefixOf_iff, ?_,
    isPrefixOf_trans, eq_or_lt_of_isPrefixOf⟩
  constructor
  · rintro ⟨h, k⟩
    exact isPrefixOf_antisymm h k
  · rintro rfl
    exact ⟨a.isPrefixOf_refl, a.isPrefixOf_refl⟩

/-- The character behind the first name is neither a dot nor of one byte, so that the first scope is a
prefix of the third one but not of the second. -/
theorem segments_faithful_umlaut :
    let a : Scope := ⟨"gr", by decide, by decide⟩
    let b : Scope := ⟨"größe", by decide, by decide⟩
    let c : Scope := ⟨"gr.öße", by decide, by decide⟩
    let d : Scope := ⟨"gr.öße.日本", by decide, by decide⟩
    (∃ s, ofString? "gr.öße" = .ok s ∧ s.segments = ["gr", "öße"]) ∧
    ofString? "gr..öße" = .error (.emptySegment "gr..öße") ∧
    ¬ a.isPrefixOf b = true ∧ a.isPrefixOf d = true ∧ (c = d ∨ c < d) := by
  intro a b c d
  have hac : a.isPrefixOf c = true := by decide
  have hcd : c.isPrefixOf d = true := by decide
  have hgap : Refused "gr..öße" (.emptySegment "gr..öße") := by
    refine .emptySegment (by decide) ?_ ⟨["gr", "", "öße"], by decide, by decide, by decide⟩
    rintro ⟨x, hx, hblank⟩
    rw [any_isBlank_eq_false_iff.mp (by decide) x hx] at hblank
    cases hblank
  have hsegment : ∀ x ∈ ["gr", "öße"], IsSegment x := by
    simp only [List.forall_mem_cons]
    exact ⟨⟨by decide, by decide, any_isBlank_eq_false_iff.mp (by decide)⟩,
      ⟨by decide, by decide, any_isBlank_eq_false_iff.mp (by decide)⟩, nofun⟩
  have herror := (segments_faithful "gr..öße" [] (.emptySegment "gr..öße") a b c).2.1.mpr hgap
  obtain ⟨hparts, -, -, -, -, htrans, -⟩ :=
    segments_faithful "gr.öße" ["gr", "öße"] .empty a c d
  have hle := (segments_faithful "" [] .empty c d d).2.2.2.2.2.2 hcd
  exact ⟨hparts.mpr ⟨by decide, hsegment, by decide⟩, herror, by decide, htrans hac hcd, hle⟩

end Scopemark.Scope
