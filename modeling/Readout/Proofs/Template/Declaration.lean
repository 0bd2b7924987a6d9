/-
  The parts of declarations.

  * `declaration`, `Parts`: a declaration is put together from its parts, `Parts.parse_iff`: and read back;
  * `exists_parts`: every declaration that is accepted is put together so;
  * `Value.parseOptions_joinWith_iff`: which options are read, `parseOptions_addKey`, `parseOptions_removeKey`: they are
    still read with Key, or without it;
  * `AddsKey`: a declaration with the option Key added to its options, `exists_addsKey`, `exists_removesKey`: Key can be
    added to every declaration that is accepted without it, and taken from every other one.
-/
import Readout.Proofs.Template.Description
import Readout.Proofs.Template.Printing
import Readout.Proofs.Text.Words

namespace Readout.Template

open Text (IsSolid EndsSolid)

/-! ## Declarations -/

/-- A declaration: its keyword, its options if there are any, its name and its pattern, with white space in front of
    each part. -/
def declaration (b₀ b₁ b₂ options name pattern : Text) : Text :=
  "Value ".toList ++ (b₀ ++ ((if options = [] then [] else options ++ b₁) ++ (name ++ (b₂ ++ pattern))))

/-- White space, of which there is some. -/
def IsGap (b : Text) : Prop := b ≠ [] ∧ ∀ c ∈ b, Unicode.isSpace c

theorem isGap_blank : IsGap [' '] := ⟨by decide, by decide⟩

/-- Can the parts be put together to a declaration? -/
structure Parts (b₀ b₁ b₂ name pattern : Text) : Prop where
  blank : ∀ c ∈ b₀, Unicode.isSpace c
  first : IsGap b₁
  second : IsGap b₂
  name : isName name
  opens : pattern.head? = some '('
  ends : EndsSolid pattern

theorem splitWord_gap {t b u : Text} (ht : IsSolid t) (hb : IsGap b) (hu : Text.startsBlank u = false)
    (hend : EndsSolid u) : Text.splitWord (t ++ (b ++ u)) = (t, u) := by
  obtain ⟨hne, hspace⟩ := hb
  obtain ⟨c, b, rfl⟩ := List.exists_cons_of_ne_nil hne
  rw [List.forall_mem_cons] at hspace
  rw [List.cons_append, Text.splitWord_append ht hspace.1, Text.trim, Text.trimStart_gap hspace.2 hu,
    Text.trimEnd_eq_self hend]

namespace Parts

variable {b₀ b₁ b₂ name pattern : Text} (h : Parts b₀ b₁ b₂ name pattern)
include h

theorem name_ne_nil : name ≠ [] := (isName_iff.1 h.name).ne_nil

theorem pattern_ne_nil : pattern ≠ [] := by
  rintro rfl
  cases h.opens

theorem isSolid_name : IsSolid name := isSolid_of_isNameChar (isName_iff.1 h.name).chars

theorem startsBlank_pattern : Text.startsBlank pattern = false := by
  rw [Text.startsBlank, h.opens]; decide

theorem startsBlank_name (u : Text) : Text.startsBlank (name ++ u) = false := by
  rw [Text.startsBlank_append h.name_ne_nil]; exact h.isSolid_name.startsBlank

theorem endsSolid (u : Text) : EndsSolid (u ++ (name ++ (b₂ ++ pattern))) := by
  rw [← List.append_assoc, ← List.append_assoc]
  exact h.ends.append h.pattern_ne_nil _

/-- The parts of a declaration are told apart. -/
theorem split_body {options : Text} (hoptions : IsSolid options) :
    Value.split ((if options = [] then [] else options ++ b₁) ++ (name ++ (b₂ ++ pattern))) =
      (options, name, pattern) := by
  have hname : Text.splitWord (name ++ (b₂ ++ pattern)) = (name, pattern) :=
    splitWord_gap h.isSolid_name h.second h.startsBlank_pattern h.ends
  split
  · rename_i hnil
    rw [hnil, List.nil_append, Value.split, hname]
    simp only [h.opens, if_true]
  · have hhead : some '(' ≠ (name ++ (b₂ ++ pattern)).head? := by
      rw [List.head?_append_of_ne_nil _ h.name_ne_nil]
      exact fun hhead => notMem_of_isNameChar (isName_iff.1 h.name).chars (by decide)
        (List.mem_of_head? hhead.symm)
    rw [List.append_assoc, Value.split,
      splitWord_gap hoptions h.first (h.startsBlank_name _) (h.endsSolid [])]
    simp only [hhead.symm, if_false, hname]

/-- **What is read in a declaration.** -/
theorem parse_iff {options : Text} (hoptions : IsSolid options) {v : Value} :
    Value.parse (declaration b₀ b₁ b₂ options name pattern) = .ok v ↔
      v.name = name ∧ v.pattern = pattern ∧ Value.parseOptions options = .ok v.options ∧
        pattern.getLast? = some ')' ∧ (Regex.LinePattern.parse? pattern).isSome := by
  have htrim : (declaration b₀ b₁ b₂ options name pattern).trim = declaration b₀ b₁ b₂ options name pattern := by
    refine Text.trim_eq_self rfl ?_
    unfold declaration
    rw [← List.append_assoc, ← List.append_assoc]
    exact h.endsSolid _
  have hrest : "Value".toList.isPrefixOf? (declaration b₀ b₁ b₂ options name pattern).trim =
      some (' ' :: b₀ ++ ((if options = [] then [] else options ++ b₁) ++ (name ++ (b₂ ++ pattern)))) := by
    rw [htrim]; rfl
  have hblank : Text.startsBlank
      (' ' :: b₀ ++ ((if options = [] then [] else options ++ b₁) ++ (name ++ (b₂ ++ pattern)))) = true := rfl
  have hbody :
      Text.startsBlank ((if options = [] then [] else options ++ b₁) ++ (name ++ (b₂ ++ pattern))) = false := by
    split
    · exact h.startsBlank_name _
    · rename_i hne
      rw [List.append_assoc, Text.startsBlank_append hne]
      exact hoptions.startsBlank
  have hstart := Text.trimStart_gap (w := ' ' :: b₀) (List.forall_mem_cons.2 ⟨by decide, h.blank⟩) hbody
  unfold Value.parse
  rw [hrest]
  simp only [hblank, hstart, h.split_body hoptions, Bool.not_true, Bool.false_eq_true, if_false]
  rw [if_neg (by simp [h.name_ne_nil, h.pattern_ne_nil]), if_neg (by simp [h.name])]
  by_cases hlast : pattern.getLast? = some ')'
  · rw [if_neg (by simp [h.opens, hlast])]
    rcases Regex.LinePattern.parse? pattern with _ | p
    · simp
    · obtain ⟨vname, vpattern, voptions⟩ := v
      rcases Value.parseOptions options with e | os
      · simp [Except.map]
      · simp [Except.map, hlast, eq_comm]
  · rw [if_pos (by simp [hlast])]
    simp [hlast]

end Parts

/-- What stands behind the keyword of a declaration is put together from the parts. -/
theorem exists_gaps_of_split {body options name pattern : Text} (hend : EndsSolid body)
    (hstart : Text.startsBlank body = false) (h : Value.split body = (options, name, pattern)) (hname : name ≠ [])
    (hpattern : pattern ≠ []) : IsSolid options ∧ ∃ b₁ b₂, IsGap b₁ ∧ IsGap b₂ ∧
      body = (if options = [] then [] else options ++ b₁) ++ (name ++ (b₂ ++ pattern)) := by
  rcases hfirst : body.splitWord with ⟨first, rest⟩
  obtain ⟨hsolid, hrest, g, hg, hne, rfl⟩ := Text.exists_gap_of_splitWord hend hfirst
  rw [Value.split, hfirst] at h
  simp only at h
  split at h
  · cases h
    exact ⟨fun c hc => absurd hc List.not_mem_nil, [' '], g, isGap_blank, ⟨hne hpattern, hg⟩, rfl⟩
  · rcases hsecond : rest.splitWord with ⟨second, third⟩
    obtain ⟨-, -, g', hg', hne', rfl⟩ := Text.exists_gap_of_splitWord hrest hsecond
    rw [hsecond] at h
    cases h
    have hgap : g ≠ [] := hne (by simp [hname])
    have hoptions : options ≠ [] := by
      rintro rfl
      obtain ⟨c, g, rfl⟩ := List.exists_cons_of_ne_nil hgap
      have hc : Unicode.isSpace c = false := hstart
      rw [hg c List.mem_cons_self] at hc
      cases hc
    exact ⟨hsolid, g, g', ⟨hgap, hg⟩, ⟨hne' hpattern, hg'⟩, by rw [if_neg hoptions, List.append_assoc]⟩

/-- **Every declaration that is accepted is put together from parts.** -/
theorem exists_parts {l : Text} (hl : EndsSolid l) {v : Value} (h : ReadsValue l v) :
    ∃ b₀ b₁ b₂ ps, Parts b₀ b₁ b₂ v.name v.pattern ∧ (∀ p ∈ ps, IsSolid p ∧ ',' ∉ p) ∧
      l = declaration b₀ b₁ b₂ (Text.joinWith [','] ps) v.name v.pattern := by
  obtain ⟨hname, ⟨hopens, hcloses⟩, -, rest, options, hrest, hsplit, -⟩ := Value.checks_of_parse h.2
  obtain ⟨r, rfl⟩ := List.isPrefixOf_iff_prefix.1 h.1
  have htrim : Text.trim ("Value ".toList ++ r) = "Value ".toList ++ r := Text.trim_eq_self rfl hl
  rw [htrim] at hrest
  obtain rfl : ' ' :: r = rest := Option.some.inj hrest
  rw [Text.trimStart_cons_of_isSpace (by decide)] at hsplit
  have hgap : r.takeWhile Unicode.isSpace ++ Text.trimStart r = r := List.takeWhile_append_dropWhile
  have hend : EndsSolid (Text.trimStart r) := by
    rw [← hgap, ← List.append_assoc] at hl
    exact hl.of_append
  obtain ⟨hsolid, b₁, b₂, hb₁, hb₂, hbody⟩ := exists_gaps_of_split hend (Text.startsBlank_trimStart r) hsplit
    (isName_iff.1 hname).ne_nil (by intro hnil; rw [hnil] at hopens; cases hopens)
  refine ⟨r.takeWhile Unicode.isSpace, b₁, b₂, Text.pieces ',' options,
    ⟨fun c hc => List.mem_takeWhile_imp hc, hb₁, hb₂, hname, hopens, ?_⟩, fun p hp => ⟨fun c hc => ?_, ?_⟩, ?_⟩
  · intro c hc
    rw [hcloses] at hc
    cases hc
    decide
  · have hmem := Text.mem_joinWith_of_mem [','] hp hc
    rw [Text.joinWith_pieces] at hmem
    exact hsolid c hmem
  · exact Text.notMem_of_mem_pieces hp
  · rw [Text.joinWith_pieces]
    unfold declaration
    rw [← hbody, hgap]

/-! ## Options -/

namespace Value

theorem ofKeyword?_eq_some_iff {p : Text} {o : ValueOption} : ValueOption.ofKeyword? p = some o ↔ o.keyword = p := by
  constructor
  · intro h
    unfold ValueOption.ofKeyword? at h
    simpa using List.find?_some h
  · rintro rfl
    exact ofKeyword?_keyword o

theorem keyword_injective : Function.Injective ValueOption.keyword := by
  intro o o' h
  have hread := ofKeyword?_keyword o
  rw [h, ofKeyword?_keyword] at hread
  exact (Option.some.inj hread).symm

theorem addOption_eq_ok_iff {os os' : List ValueOption} {p : Text} (hos : os.Nodup) :
    addOption os p = .ok os' ↔ ∃ o, o.keyword = p ∧ (os ++ [o]).Nodup ∧ os' = os ++ [o] := by
  have hnodup : ∀ o, (os ++ [o]).Nodup ↔ o ∉ os := by
    intro o
    rw [← List.concat_eq_append, List.nodup_concat]
    simp [hos]
  unfold addOption
  simp only [← ofKeyword?_eq_some_iff, hnodup]
  rcases ValueOption.ofKeyword? p with _ | o
  · simp
  · by_cases ho : o ∈ os
    · simp [ho]
    · simp [ho, eq_comm]

theorem forall₂_keyword_iff {ps : List Text} {os : List ValueOption} :
    List.Forall₂ (fun p o => o.keyword = p) ps os ↔ ps = os.map (·.keyword) := by
  constructor
  · intro h
    induction h with
    | nil => rfl
    | cons ho _ ih => rw [List.map_cons, ho, ih]
  · rintro rfl
    induction os with
    | nil => exact .nil
    | cons o os ih => exact .cons rfl ih

/-- **Which options are read.**  Pieces that are empty do not count. -/
theorem parseOptions_joinWith_iff {ps : List Text} (hps : ∀ p ∈ ps, ',' ∉ p) {os : List ValueOption} :
    parseOptions (Text.joinWith [','] ps) = .ok os ↔
      ps.filter (!·.isEmpty) = os.map (·.keyword) ∧ os.Nodup := by
  have hpieces : (Text.pieces ',' (Text.joinWith [','] ps)).filter (!·.isEmpty) = ps.filter (!·.isEmpty) := by
    rcases eq_or_ne ps [] with rfl | hne
    · rfl
    · rw [Text.pieces_joinWith hne hps]
  rw [parseOptions_eq, hpieces]
  refine (foldlM_eq_ok_iff (g := id) (R := fun p o => o.keyword = p) (P := List.Nodup)
    (fun bs cs h => h.of_append_left) (fun p _ bs s hbs => addOption_eq_ok_iff hbs) [] List.nodup_nil).trans ?_
  simp only [forall₂_keyword_iff, List.nil_append, id]
  constructor
  · rintro ⟨_, hos, hnodup, rfl⟩
    exact ⟨hos, hnodup⟩
  · rintro ⟨hos, hnodup⟩
    exact ⟨os, hos, hnodup, rfl⟩

/-- Options that differ in Key only. -/
def SameOptions (os os' : List ValueOption) : Prop := ∀ o ≠ ValueOption.key, (o ∈ os ↔ o ∈ os')

section
variable {front behind : List Text}

theorem forall_mem_addKey {P : Text → Prop} (hkey : P ValueOption.key.keyword) (h : ∀ p ∈ front ++ behind, P p) :
    ∀ p ∈ front ++ ValueOption.key.keyword :: behind, P p := by
  rw [List.forall_mem_append] at h ⊢
  exact ⟨h.1, List.forall_mem_cons.2 ⟨hkey, h.2⟩⟩

variable (h : ∀ p ∈ front ++ behind, ',' ∉ p ∧ p ≠ ValueOption.key.keyword)
include h

theorem comma_notMem_addKey : ∀ p ∈ front ++ ValueOption.key.keyword :: behind, ',' ∉ p :=
  forall_mem_addKey (by decide) fun p hp => (h p hp).1

/-- **Key goes with options that do not have it.** -/
theorem parseOptions_addKey {os : List ValueOption}
    (hos : parseOptions (Text.joinWith [','] (front ++ behind)) = .ok os) :
    ∃ os', parseOptions (Text.joinWith [','] (front ++ ValueOption.key.keyword :: behind)) = .ok os' ∧
      SameOptions os os' := by
  obtain ⟨hread, hnodup⟩ := (parseOptions_joinWith_iff fun p hp => (h p hp).1).1 hos
  have hkey : ValueOption.key ∉ os := by
    intro hkey
    have hmem : ValueOption.key.keyword ∈ (front ++ behind).filter (!·.isEmpty) := by
      rw [hread]
      exact List.mem_map_of_mem hkey
    exact (h _ (List.mem_filter.1 hmem).1).2 rfl
  rw [List.filter_append] at hread
  obtain ⟨o₁, o₂, rfl, h₁, h₂⟩ := List.append_eq_map_iff.1 hread
  refine ⟨o₁ ++ .key :: o₂, (parseOptions_joinWith_iff (comma_notMem_addKey h)).2 ⟨?_, ?_⟩, ?_⟩
  · rw [List.filter_append, List.filter_cons_of_pos (by decide), ← h₁, ← h₂, List.map_append, List.map_cons]
  · rw [List.nodup_middle]
    exact List.nodup_cons.2 ⟨hkey, hnodup⟩
  · intro o ho
    simp [ho]

/-- **Key may be taken from options.** -/
theorem parseOptions_removeKey {os' : List ValueOption}
    (hos' : parseOptions (Text.joinWith [','] (front ++ ValueOption.key.keyword :: behind)) = .ok os') :
    ∃ os, parseOptions (Text.joinWith [','] (front ++ behind)) = .ok os ∧ SameOptions os os' := by
  obtain ⟨hread, hnodup⟩ := (parseOptions_joinWith_iff (comma_notMem_addKey h)).1 hos'
  rw [List.filter_append, List.filter_cons_of_pos (by decide)] at hread
  obtain ⟨o₁, os'', rfl, h₁, h''⟩ := List.append_eq_map_iff.1 hread
  obtain ⟨o, o₂, rfl, hkey, h₂⟩ := List.map_eq_cons_iff.1 h''
  obtain rfl := keyword_injective hkey
  refine ⟨o₁ ++ o₂, (parseOptions_joinWith_iff fun p hp => (h p hp).1).2 ⟨?_, ?_⟩, ?_⟩
  · rw [List.filter_append, ← h₁, ← h₂, List.map_append]
  · rw [List.nodup_middle] at hnodup
    exact (List.nodup_cons.1 hnodup).2
  · intro o ho
    simp [ho]

end

end Value

/-! ## Key -/

/-- A declaration, and the same one with Key added to its options, wherever it stands among them. -/
inductive AddsKey : Text → Text → Prop where
  | intro {b₀ b₁ b₂ name pattern : Text} {front behind : List Text} : Parts b₀ b₁ b₂ name pattern →
    (∀ p ∈ front ++ behind, IsSolid p ∧ ',' ∉ p ∧ p ≠ ValueOption.key.keyword) →
    AddsKey (declaration b₀ b₁ b₂ (Text.joinWith [','] (front ++ behind)) name pattern)
      (declaration b₀ b₁ b₂ (Text.joinWith [','] (front ++ ValueOption.key.keyword :: behind)) name pattern)

theorem isSolid_joinWith {ps : List Text} (h : ∀ p ∈ ps, IsSolid p) : IsSolid (Text.joinWith [','] ps) := by
  intro c hc
  rcases Text.mem_joinWith hc with hc | ⟨p, hp, hc⟩
  · rw [List.mem_singleton.1 hc]; decide
  · exact h p hp c hc

section
variable {front behind : List Text} (h : ∀ p ∈ front ++ behind, IsSolid p ∧ ',' ∉ p ∧ p ≠ ValueOption.key.keyword)
include h

theorem isSolid_options : IsSolid (Text.joinWith [','] (front ++ behind)) := isSolid_joinWith fun p hp => (h p hp).1

theorem isSolid_options_key : IsSolid (Text.joinWith [','] (front ++ ValueOption.key.keyword :: behind)) :=
  isSolid_joinWith (Value.forall_mem_addKey (Value.isSolid_keyword .key) fun p hp => (h p hp).1)

end

section
variable {l : Text} (hl : EndsSolid l) {v : Value} (h : ReadsValue l v)
include hl h

/-- The parts of a declaration with the options that are read from them. -/
theorem exists_parts_options : ∃ b₀ b₁ b₂ ps, Parts b₀ b₁ b₂ v.name v.pattern ∧ (∀ p ∈ ps, IsSolid p ∧ ',' ∉ p) ∧
    l = declaration b₀ b₁ b₂ (Text.joinWith [','] ps) v.name v.pattern ∧
    ps.filter (!·.isEmpty) = v.options.map (·.keyword) ∧ v.options.Nodup := by
  obtain ⟨b₀, b₁, b₂, ps, hparts, hps, rfl⟩ := exists_parts hl h
  obtain ⟨-, -, hoptions, -⟩ := (hparts.parse_iff (isSolid_joinWith fun p hp => (hps p hp).1)).1 h.2
  exact ⟨b₀, b₁, b₂, ps, hparts, hps, rfl, (Value.parseOptions_joinWith_iff fun p hp => (hps p hp).2).1 hoptions⟩

/-- **Key can be added to every declaration that is accepted without it.** -/
theorem exists_addsKey (hkey : v.has .key = false) : ∃ l', AddsKey l l' := by
  obtain ⟨b₀, b₁, b₂, ps, hparts, hps, rfl, hfilter, -⟩ := exists_parts_options hl h
  have hadd := @AddsKey.intro b₀ b₁ b₂ v.name v.pattern ps [] hparts
  rw [List.append_nil] at hadd
  refine ⟨_, hadd fun p hp => ⟨(hps p hp).1, (hps p hp).2, ?_⟩⟩
  rintro rfl
  have hmem : ValueOption.key.keyword ∈ v.options.map (·.keyword) := by
    rw [← hfilter]
    exact List.mem_filter.2 ⟨hp, by decide⟩
  obtain ⟨o, ho, hkeyword⟩ := List.mem_map.1 hmem
  rw [Value.keyword_injective hkeyword] at ho
  rw [Value.has, List.contains_iff_mem.2 ho] at hkey
  cases hkey

/-- **Key can be taken from every declaration that is accepted with it.** -/
theorem exists_removesKey (hkey : v.has .key) : ∃ l', AddsKey l' l := by
  obtain ⟨b₀, b₁, b₂, ps, hparts, hps, rfl, hfilter, hnodup⟩ := exists_parts_options hl h
  have hmem : ValueOption.key.keyword ∈ ps.filter (!·.isEmpty) := by
    rw [hfilter]
    exact List.mem_map_of_mem (List.contains_iff_mem.1 hkey)
  obtain ⟨front, behind, rfl⟩ := List.append_of_mem (List.mem_filter.1 hmem).1
  refine ⟨_, .intro hparts fun p hp => ?_⟩
  have hp' : p ∈ front ++ ValueOption.key.keyword :: behind :=
    (List.sublist_append_iff.2 ⟨front, behind, rfl, .refl _, List.sublist_cons_self _ _⟩).subset hp
  refine ⟨(hps p hp').1, (hps p hp').2, ?_⟩
  rintro rfl
  -- Key would be there twice
  have hkept := hnodup.map Value.keyword_injective
  rw [← hfilter, List.filter_append, List.filter_cons_of_pos (by decide), List.nodup_middle,
    ← List.filter_append] at hkept
  exact (List.nodup_cons.1 hkept).1 (List.mem_filter.2 ⟨hp, by decide⟩)

end

end Readout.Template
