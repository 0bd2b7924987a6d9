/-
  Templates that are kept: a cache that is sound changes nothing that a session logs or answers.

  * `FileTree.read_congr`: a cache knows a path under every spelling, and every spelling leads to the same file;
  * `Cache.Sound`: every template that is kept is the one in its file;
  * `Session.plain` is a session without its cache, `plain_parse` and its neighbours compare the two.
-/
import Mathlib.Data.List.Basic
import Readout.Proofs.Index.Selection
import Readout.Session.Basic

namespace Readout

/-! ## Spellings of a path -/

/-- Is the piece of a path a name, or two dots? -/
def Path.isStep (piece : Text) : Bool := piece != [] && piece != ['.']

namespace FileTree

/-- Empty pieces and dots lead nowhere. -/
theorem follow_filter (t : FileTree) : ∀ (pieces : List Text) (names : List Text) {r : List Text},
    t.follow names pieces = some r → t.follow names (pieces.filter Path.isStep) = some r
  | [], _, _, h => h
  | piece :: pieces, names, r, h => by
    unfold follow at h
    split at h
    · rename_i hdir
      split at h
      · rename_i hskip
        have hstep : ¬ Path.isStep piece := by rcases hskip with rfl | rfl <;> decide
        rw [List.filter_cons_of_neg hstep]
        exact follow_filter t pieces names h
      · rename_i hskip
        have hstep : Path.isStep piece := by simpa [Path.isStep, not_or] using hskip
        rw [List.filter_cons_of_pos hstep, follow, if_pos hdir, if_neg hskip]
        split at h
        · rename_i hup
          rw [if_pos hup]; exact follow_filter t pieces _ h
        · rename_i hup
          rw [if_neg hup]
          simp only at h ⊢
          split at h
          · rename_i hsome
            rw [if_pos hsome]; exact follow_filter t pieces _ h
          · cases h
    · cases h

theorem filter_parts (p : Path) : p.parts.filter Path.isStep = (Text.pieces '/' p).filter Path.isStep := by
  unfold Path.parts
  rcases Text.pieces '/' p with _ | ⟨first, rest⟩
  · rfl
  · change ((if first = [] then [] else [first]) ++ rest.filter Path.isStep).filter Path.isStep = _
    have hrest : (rest.filter Path.isStep).filter Path.isStep = rest.filter Path.isStep := by
      rw [List.filter_filter]
      exact List.filter_congr fun piece _ => Bool.and_self _
    by_cases hf : first = []
    · rw [if_pos hf, hf, List.nil_append, hrest]; rfl
    · rw [if_neg hf, List.filter_append, hrest, ← List.filter_append]; rfl

/-- What a path leads to is told by its parts, if it leads to something. -/
theorem find?_eq_parts {t : FileTree} {p : Path} (h : t.has p) :
    t.find? p = (t.follow [] (p.parts.filter Path.isStep)).bind t.item? := by
  unfold has find? at *
  split at h
  · cases h
  · rename_i hp
    rw [if_neg hp, filter_parts]
    rcases hf : t.follow [] (Text.pieces '/' p) with _ | r
    · rw [hf] at h; cases h
    · rw [follow_filter t _ _ hf]

/-- Two spellings of a path that both lead to something lead to the same. -/
theorem read_congr {t : FileTree} {p q : Path} (hp : t.has p) (hq : t.has q)
    (h : Session.Cache.samePlace p q) : t.read p = t.read q := by
  have hkey : p.key = q.key := by simpa [Session.Cache.samePlace] using h
  have hparts : p.parts = q.parts := congrArg Prod.snd hkey
  unfold read
  rw [find?_eq_parts hp, find?_eq_parts hq, hparts]

end FileTree

namespace Session

open FileTree (read_congr)

/-! ## Sound caches -/

/-- Is every template that is kept the one in its file? -/
def Cache.Sound (files : FileTree) (c : Cache) : Prop :=
  ∀ e ∈ c.entries, readTemplate files e.1 = .ok e.2

theorem readTemplate_eq_ok_iff {files : FileTree} {p : Path} {t : Template} :
    readTemplate files p = .ok t ↔ ∃ source, files.read p = .ok source ∧ Template.parse source = .ok t := by
  unfold readTemplate
  rcases files.read p with e | source
  · simp
  · rcases hs : Template.parse source with e | t <;> simp [hs]

/-- Only what leads to something can be read. -/
theorem has_of_readTemplate {files : FileTree} {p : Path} {t : Template}
    (h : readTemplate files p = .ok t) : files.has p := by
  obtain ⟨source, hr, -⟩ := readTemplate_eq_ok_iff.1 h
  rcases hf : files.find? p with _ | i
  · rw [FileTree.read, hf] at hr; cases hr
  · rw [FileTree.has, hf]; rfl

namespace Cache

variable {files : FileTree} {c : Cache}

theorem sound_of_entries_nil (h : c.entries = []) : c.Sound files := by
  intro e he; rw [h] at he; cases he

/-- A template that is found is the one in the file, under any spelling of its path. -/
theorem Sound.get? (hc : c.Sound files) {p : Path} {t : Template} (hp : files.has p)
    (h : c.get? p = some t) : readTemplate files p = .ok t := by
  obtain ⟨e, he, rfl⟩ := Option.map_eq_some_iff.1 h
  have hread := hc e (List.mem_of_find?_eq_some he)
  have hsame : samePlace p e.1 := by simpa using List.find?_some he
  rw [readTemplate_eq_ok_iff] at hread ⊢
  rwa [read_congr hp (has_of_readTemplate (hc e (List.mem_of_find?_eq_some he))) hsame]

theorem mem_entries_touch {p : Path} {e : Path × Template} (h : e ∈ (c.touch p).entries) : e ∈ c.entries := by
  unfold Cache.touch at h
  split at h
  · rename_i e' he'
    rcases List.mem_cons.1 h with rfl | h
    · exact List.mem_of_find?_eq_some he'
    · exact (List.mem_filter.1 h).1
  · exact h

/-- A template that is kept behind an insertion was kept before, or it is the one that has been taken in. -/
theorem mem_entries_insert {capacity generation : Nat} {p : Path} {t : Template} {e : Path × Template}
    (h : e ∈ (c.insert capacity generation p t).entries) : e ∈ c.entries ∨ c.generation = generation ∧ e = (p, t) := by
  unfold Cache.insert at h
  split at h
  · rename_i hgeneration
    rcases List.mem_cons.1 (List.mem_of_mem_take h) with h | h
    · exact .inr ⟨hgeneration, h⟩
    · exact .inl (List.mem_filter.1 h).1
  · exact .inl h

theorem Sound.touch (hc : c.Sound files) (p : Path) : (c.touch p).Sound files :=
  fun e he => hc e (mem_entries_touch he)

theorem Sound.insert (hc : c.Sound files) {p : Path} {t : Template} (h : readTemplate files p = .ok t)
    (capacity generation : Nat) : (c.insert capacity generation p t).Sound files := by
  intro e he
  rcases mem_entries_insert he with he | ⟨-, rfl⟩
  · exact hc e he
  · exact h

theorem touch_generation (p : Path) : (c.touch p).generation = c.generation := by
  unfold Cache.touch; split <;> rfl

theorem insert_generation (capacity generation : Nat) (p : Path) (t : Template) :
    (c.insert capacity generation p t).generation = c.generation := by
  unfold Cache.insert; split <;> rfl

theorem insert_of_ne {generation : Nat} (h : c.generation ≠ generation) (capacity : Nat) (p : Path) (t : Template) :
    c.insert capacity generation p t = c := if_neg h

/-- A template that is taken in is found. -/
theorem get?_insert {capacity generation : Nat} (hcapacity : 0 < capacity) (h : c.generation = generation)
    (p : Path) (t : Template) : (c.insert capacity generation p t).get? p = some t := by
  obtain ⟨capacity, rfl⟩ := Nat.exists_eq_add_of_lt hcapacity
  rw [Cache.insert, if_pos h, Cache.get?]
  simp [samePlace]

end Cache

/-! ## Sessions without a cache -/

/-- The session without its cache. -/
def plain (s : Session) : Session :=
  { s with config := { s.config with cacheSize := 0 }, cache := { generation := s.cache.generation } }

theorem plain_withCache (s : Session) {c : Cache} (h : c.generation = s.cache.generation) :
    ({ s with cache := c } : Session).plain = s.plain := by
  simp only [plain, h]

theorem plain_load (s : Session) (files : FileTree) :
    s.plain.load files = ((s.load files).1.plain, (s.load files).2) := by
  obtain ⟨config, registry, cache⟩ := s
  cases registry with
  | some r => rfl
  | none =>
    have hpath : ({ config with cacheSize := 0 } : Config).indexPath = config.indexPath := rfl
    simp only [load, plain, hpath]
    cases loadIndex files config.indexPath <;> rfl

theorem load_cache (s : Session) (files : FileTree) : (s.load files).1.cache = s.cache := by
  obtain ⟨config, registry, cache⟩ := s
  cases registry with
  | some r => rfl
  | none =>
    simp only [load]
    cases loadIndex files config.indexPath <;> rfl

theorem reload_cache (s : Session) (files : FileTree) :
    (s.reload files).1.cache = if (s.reload files).2.2.isOk then s.cache.invalidate else s.cache := by
  unfold reload
  cases loadIndex files s.config.indexPath <;> rfl

theorem plain_reload (s : Session) (files : FileTree) :
    s.plain.reload files = ((s.reload files).1.plain, (s.reload files).2) := by
  obtain ⟨config, registry, cache⟩ := s
  have hpath : ({ config with cacheSize := 0 } : Config).indexPath = config.indexPath := rfl
  simp only [reload, plain, hpath]
  cases loadIndex files config.indexPath <;> rfl

theorem plain_resolution (s : Session) (files : FileTree) (platform command : Text) :
    s.plain.resolution files platform command = s.resolution files platform command := by
  obtain ⟨config, registry, cache⟩ := s; rfl

theorem plain_resolve (s : Session) (files : FileTree) (platform command : Text) :
    s.plain.resolve files platform command =
      ((s.resolve files platform command).1.plain, (s.resolve files platform command).2) := by
  simp only [resolve, plain_load, plain_resolution]

theorem plain_platforms (s : Session) (files : FileTree) :
    s.plain.platforms files = ((s.platforms files).1.plain, (s.platforms files).2) := by
  simp only [platforms, plain_load]; rfl

theorem plain_commands (s : Session) (files : FileTree) (platform : Text) :
    s.plain.commands files platform = ((s.commands files platform).1.plain, (s.commands files platform).2) := by
  simp only [commands, plain_load]; rfl

theorem parse_session (s : Session) (files : FileTree) (platform command text : Text) :
    (s.parse files platform command text).1 = (s.outcome files platform command text).1 := by
  unfold parse
  rcases s.outcome files platform command text with ⟨s', log, e | o⟩ <;> rfl

theorem report_session (s : Session) (files : FileTree) (platform command text : Text) :
    (s.report files platform command text).1 = (s.outcome files platform command text).1 := by
  rw [← parse_session]
  unfold report
  rcases s.parse files platform command text with ⟨s', log, e | rs⟩ <;> rfl

section
variable {s : Session} {files : FileTree} (hs : s.cache.Sound files)
include hs

/-- **A sound cache gives the template in the file.** -/
theorem plain_template {p : Path} (hp : files.has p) :
    s.plain.template files p = ((s.template files p).1.plain, (s.template files p).2) := by
  rw [show s.plain.template files p = (s.plain, readTemplate files p) from rfl, template]
  split
  · rfl
  · rcases hc : s.cache.get? p with _ | t
    · rcases ht : readTemplate files p with e | t
      · rfl
      · rw [plain_withCache s (Cache.insert_generation ..)]
    · rw [hs.get? hp hc, plain_withCache s (Cache.touch_generation p)]

theorem sound_template (p : Path) : (s.template files p).1.cache.Sound files := by
  unfold template
  split
  · exact hs
  · split
    · exact hs.touch p
    · split
      · exact hs
      · rename_i ht
        exact hs.insert ht _ _

theorem plain_outcome (platform command text : Text) :
    s.plain.outcome files platform command text =
      ((s.outcome files platform command text).1.plain, (s.outcome files platform command text).2) := by
  unfold outcome
  split
  · rfl
  · have hs' : (s.load files).1.cache.Sound files := by rw [load_cache]; exact hs
    simp only [resolve, plain_load, plain_resolution]
    rcases hr : (s.load files).1.resolution files platform command with ref | _ | _
    · have hp : files.has ref.path := by
        unfold resolution at hr
        split at hr
        · exact Index.present_of_find hr
        · cases hr
      simp only [plain_template hs' hp]
      rcases (s.load files).1.template files ref.path with ⟨s', e | t⟩ <;> rfl
    · rfl
    · rfl

theorem sound_outcome (platform command text : Text) :
    (s.outcome files platform command text).1.cache.Sound files := by
  unfold outcome
  split
  · exact hs
  · have hs' : (s.load files).1.cache.Sound files := by rw [load_cache]; exact hs
    simp only [resolve]
    rcases (s.load files).1.resolution files platform command with ref | _ | _
    · have ht := sound_template hs' ref.path
      simp only
      rcases hr : (s.load files).1.template files ref.path with ⟨s', e | t⟩ <;> rw [hr] at ht <;> exact ht
    · exact hs'
    · exact hs'

theorem sound_parse (platform command text : Text) :
    (s.parse files platform command text).1.cache.Sound files := by
  rw [parse_session]; exact sound_outcome hs platform command text

theorem sound_report (platform command text : Text) :
    (s.report files platform command text).1.cache.Sound files := by
  rw [report_session]; exact sound_outcome hs platform command text

theorem sound_reload : (s.reload files).1.cache.Sound files := by
  rw [reload_cache]
  split
  · exact Cache.sound_of_entries_nil rfl
  · exact hs

theorem plain_parse (platform command text : Text) :
    s.plain.parse files platform command text =
      ((s.parse files platform command text).1.plain, (s.parse files platform command text).2) := by
  unfold parse
  rw [plain_outcome hs]
  rcases s.outcome files platform command text with ⟨s', log, e | o⟩ <;> rfl

theorem plain_report (platform command text : Text) :
    s.plain.report files platform command text =
      ((s.report files platform command text).1.plain, (s.report files platform command text).2) := by
  unfold report
  rw [plain_parse hs]
  rcases s.parse files platform command text with ⟨s', log, e | rs⟩ <;> rfl

end

end Session

end Readout
