/-
  What a session tells of its index, and what it finds in it.

  * `Registry.mem_platforms_iff`: the platforms that are told are those with an entry;
  * `Registry.contains_lower_iff`: in a registry that has been read, a text names a platform in lower case if it does
    so when it is trimmed first, and is trimmed;
  * `commands_ne_nil_iff`, `resolve_ne_unsupportedPlatform_iff`: which platforms a session lists and supports;
  * `lists_of_parse`: it lists the commands of the platforms that it tells, and supports them all.

  White space around the name of a platform does not matter where a template is chosen, but does where commands are
  listed: `padded_platform_unlisted`.
-/
import Readout.Proofs.Index.Advertised
import Readout.Session.Basic

namespace Readout

/-! ## Platforms of a registry -/

namespace Index.Registry

variable {r : Registry} {name : Text}

theorem mem_insertSorted {t u : Text} : ∀ {us : List Text}, u ∈ insertSorted t us ↔ u = t ∨ u ∈ us
  | [] => by rw [insertSorted, List.mem_singleton]; simp
  | v :: us => by
    unfold insertSorted
    split
    · rename_i h
      subst h
      simp
    · split
      · exact List.mem_cons
      · rw [List.mem_cons, mem_insertSorted, List.mem_cons]
        exact or_left_comm

/-- **The platforms that are told are those with an entry.** -/
theorem mem_platforms_iff : name ∈ r.platforms ↔ ∃ e ∈ r.entries, e.platform = name := by
  unfold platforms
  induction r.entries with
  | nil => simp
  | cons e es ih => rw [List.foldr_cons, mem_insertSorted, ih, List.exists_mem_cons_iff, eq_comm]

theorem contains_iff : r.contains name ↔ ∃ e ∈ r.entries, e.platform = name := by
  simp [contains, entriesOf]

theorem commands_ne_nil_iff : r.commands name ≠ [] ↔ r.contains name := by
  simp [commands, contains]

/-- A template is looked for unless the platform has no entry. -/
theorem find_ne_unsupportedPlatform_iff {dirs : List Path} {present : Path → Bool} {platform command : Text} :
    r.find dirs present platform command ≠ .unsupportedPlatform ↔ r.contains platform.trim.lower := by
  rw [find_cases, contains]
  split
  · rename_i h
    simp [h]
  · rename_i h
    rw [List.isEmpty_eq_false_iff.2 h]
    split
    · simp
    · split <;> simp

/-- **Where a name is read as it stands**, but for its case: among platforms that are trimmed, only a name that is
trimmed is the one that trimming finds. -/
theorem contains_lower_iff (hr : ∀ e ∈ r.entries, e.Tidy) :
    r.contains name.lower ↔ r.contains name.trim.lower ∧ name.trim = name := by
  constructor
  · intro h
    obtain ⟨e, he, hplatform⟩ := contains_iff.1 h
    have htrim : name.trim = name := Text.trim_lower_iff.1 (by rw [← hplatform]; exact (hr e he).trim_platform)
    exact ⟨by rwa [htrim], htrim⟩
  · rintro ⟨h, htrim⟩
    rwa [htrim] at h

end Index.Registry

/-! ## Questions to a session -/

namespace Session

open Index (Registry)

section
variable {s : Session} {files : FileTree} {r : Registry} (hr : (s.load files).1.registry = some r)
include hr

theorem platforms_eq : (s.platforms files).2.2 = r.platforms := by
  simp [platforms, hr]

theorem commands_eq (platform : Text) : (s.commands files platform).2.2 = r.commands platform.lower := by
  simp [commands, hr]

theorem resolve_eq (platform command : Text) : (s.resolve files platform command).2.2 =
    r.find (s.load files).1.config.templateDirs files.has platform command := by
  simp [resolve, resolution, hr]

theorem commands_ne_nil_iff (platform : Text) :
    (s.commands files platform).2.2 ≠ [] ↔ r.contains platform.lower := by
  rw [commands_eq hr, Registry.commands_ne_nil_iff]

theorem resolve_ne_unsupportedPlatform_iff (platform command : Text) :
    (s.resolve files platform command).2.2 ≠ .unsupportedPlatform ↔ r.contains platform.trim.lower := by
  rw [resolve_eq hr, Registry.find_ne_unsupportedPlatform_iff]

end

/-- **What is told of an index is what is found in it.**  A session that has read it lists commands of just the
platforms that it supports and that are named without white space around them, in whatever case.  Every platform
that it tells is supported, and its commands are listed: one for each row of the platform, in the order of the
lines. -/
theorem lists_of_parse {content : Text} {r : Registry} {notices : List Index.Notice}
    (h : Index.parse content = .ok (r, notices)) {s : Session} {files : FileTree}
    (hr : (s.load files).1.registry = some r) :
    (∀ platform command, (s.commands files platform).2.2 ≠ [] ↔
      (s.resolve files platform command).2.2 ≠ .unsupportedPlatform ∧ platform.trim = platform) ∧
    ∃ cs ls, Index.Columns.Heading cs content ls ∧ ∀ name ∈ (s.platforms files).2.2,
      (∀ command, (s.resolve files name command).2.2 ≠ .unsupportedPlatform) ∧
      (s.commands files name).2.2 ≠ [] ∧
      (s.commands files name).2.2 =
        (ls.filter fun l => cs.isRow l && (cs.entryOf l).platform == name).map
          fun l => Command.core (cs.entryOf l).pattern := by
  obtain ⟨es, hes, htidy⟩ := Index.ofEntries_of_parse h
  have htidy : ∀ e ∈ r.entries, e.Tidy := by rwa [hes, Registry.entries_ofEntries]
  refine ⟨fun platform command => ?_, ?_⟩
  · rw [commands_ne_nil_iff hr, resolve_ne_unsupportedPlatform_iff hr, Registry.contains_lower_iff htidy]
  · obtain ⟨cs, ls, hheading, hrows⟩ := Index.exists_rows_of_parse h
    refine ⟨cs, ls, hheading, fun name hname => ?_⟩
    rw [platforms_eq hr, Registry.mem_platforms_iff] at hname
    obtain ⟨e, he, rfl⟩ := hname
    have hthere : r.contains e.platform := Registry.contains_iff.2 ⟨e, he, rfl⟩
    have hlower := (htidy e he).lower_platform
    refine ⟨fun command => ?_, ?_, ?_⟩
    · rw [resolve_ne_unsupportedPlatform_iff hr, (htidy e he).platform]
      exact hthere
    · rw [commands_ne_nil_iff hr, hlower]
      exact hthere
    · rw [commands_eq hr, hlower, Registry.commands, hrows, Registry.entriesOf_ofEntries, List.filter_map,
        List.filter_filter, List.map_map]
      simp only [Bool.and_comm, Function.comp_def]

/-- Rows of two platforms, one of them with a capital that has two characters in lower case. -/
def mixedIndex : Text := "Template,Platform,Command\na,OS,show a\nb,İos,show b\nc, os ,sh[[ow]] c\n".toList

/-- What is read from them. -/
def mixedEntries : List Index.Entry :=
  [⟨"os".toList, "show a".toList, "a".toList⟩, ⟨"i̇os".toList, "show b".toList, "b".toList⟩,
   ⟨"os".toList, "sh[[ow]] c".toList, "c".toList⟩]

/-- Their file. -/
def mixedFiles : FileTree := ({} : FileTree).write "main/index".toList (.text mixedIndex)

/-- A session that has not read it yet. -/
def mixedSession : Session := { config := { templateDir := "main".toList } }

theorem lists_of_parse_mixed :
    (mixedSession.resolve mixedFiles "İOS".toList "show a".toList).2.2 = .noMatch ∧
      (mixedSession.commands mixedFiles "İOS".toList).2.2 ≠ [] ∧
      "os".toList ∈ (mixedSession.platforms mixedFiles).2.2 ∧
      (mixedSession.commands mixedFiles "os".toList).2.2 ≠ [] := by
  have hparse : Index.parse mixedIndex = .ok (Registry.ofEntries mixedEntries, []) := by decide +kernel
  have hload : (mixedSession.load mixedFiles).1.registry = some (Registry.ofEntries mixedEntries) := by
    decide +kernel
  have hresolve : (mixedSession.resolve mixedFiles "İOS".toList "show a".toList).2.2 = .noMatch := by
    decide +kernel
  have hname : "os".toList ∈ (mixedSession.platforms mixedFiles).2.2 := by decide +kernel
  obtain ⟨hagree, cs, ls, -, htold⟩ := lists_of_parse hparse hload
  refine ⟨hresolve, (hagree _ "show a".toList).2 ⟨by rw [hresolve]; simp, by decide⟩, hname, (htold _ hname).2.1⟩

/-- **White space around the name of a platform** is dropped where a template is chosen, but not where commands are
listed. -/
theorem padded_platform_unlisted :
    (mixedSession.load mixedFiles).1.registry.isSome ∧
      (mixedSession.resolve mixedFiles " os".toList "show a".toList).2.2 ≠ .unsupportedPlatform ∧
      (mixedSession.commands mixedFiles " os".toList).2.2 = [] := by
  decide +kernel

end Session

end Readout
