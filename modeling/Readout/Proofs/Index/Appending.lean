/-
  Indexes that grow at their end.

  * `findBy?_append`: one pass over a longer registry looks at the earlier entries first, and at the later ones
    only if these have nothing;
  * `Registry.Picks`: which entry a choice stands for; `exists_picks`: what a pass finds is one of its entries;
  * `find_append`: an exact match stays what it is, a partial one gives way to exact matches of later entries
    only, and where nothing was found whatever is found now is a later entry.
-/
import Readout.Proofs.Index.Selection

namespace Readout.Index

section
variable {dirs : List Path} {present : Path → Bool} {es added : List Entry} {platform command : Text}
  {kind : MatchKind} {ref : TemplateRef}

/-! ## One pass -/

/-- What an entry contributes does not depend on the other entries. -/
theorem pass_congr {es' : List Entry} {e : Entry} (he : e ∈ es) (he' : e ∈ es') :
    (Registry.ofEntries es).pass dirs present platform command kind e =
      (Registry.ofEntries es').pass dirs present platform command kind e := by
  simp only [Registry.pass, Registry.accepts, Registry.matcher?_ofEntries he, Registry.matcher?_ofEntries he']

theorem findSome?_pass_congr {es' l : List Entry} (hl : ∀ e ∈ l, e ∈ es ∧ e ∈ es') :
    l.findSome? ((Registry.ofEntries es).pass dirs present platform command kind) =
      l.findSome? ((Registry.ofEntries es').pass dirs present platform command kind) := by
  induction l with
  | nil => rfl
  | cons e l ih =>
    rw [List.forall_mem_cons] at hl
    rw [List.findSome?_cons, List.findSome?_cons, pass_congr hl.1.1 hl.1.2, ih hl.2]

/-- **One pass over a longer registry** looks at the earlier entries first. -/
theorem findBy?_append :
    (Registry.ofEntries (es ++ added)).findBy? dirs present platform command kind =
      ((Registry.ofEntries es).findBy? dirs present platform command kind).or
        ((Registry.ofEntries added).findBy? dirs present platform command kind) := by
  simp only [findBy?_ofEntries, List.filter_append, List.findSome?_append]
  congr 1
  · refine findSome?_pass_congr fun e he => ?_
    have hes := List.mem_of_mem_filter he
    exact ⟨List.mem_append_left _ hes, hes⟩
  · refine findSome?_pass_congr fun e he => ?_
    have hadded := List.mem_of_mem_filter he
    exact ⟨List.mem_append_right _ hadded, hadded⟩

/-- Does a choice stand for an entry: for its platform, its pattern, and its template where that is found? -/
structure Picks (dirs : List Path) (present : Path → Bool) (command : Text) (ref : TemplateRef) (e : Entry) :
    Prop where
  platform : ref.platform = e.platform
  pattern : ref.pattern = e.pattern
  template : ref.template = e.template
  located : Located dirs present e.template ref.path
  fits : Fits command e ref.kind

/-- What a pass finds is one of the entries. -/
theorem exists_picks (h : (Registry.ofEntries es).findBy? dirs present platform command kind = some ref) :
    ref.kind = kind ∧ ∃ e ∈ es, Picks dirs present command ref e := by
  obtain ⟨e, path, hfirst, hpath, rfl⟩ := findBy?_eq_some_iff.1 h
  obtain ⟨hes, hplatform⟩ := List.mem_filter.1 hfirst.mem
  exact ⟨rfl, e, hes, (beq_iff_eq.1 hplatform).symm, rfl, rfl, hpath, hfirst.holds.1⟩

end

/-! ## The choice -/

section
variable {dirs : List Path} {present : Path → Bool} {es added : List Entry} {platform command : Text}

/-- What is found is what the exact pass finds, or else the partial one. -/
theorem find_eq_found_iff {r : Registry} {ref : TemplateRef} :
    r.find dirs present platform command = .found ref ↔
      (r.findBy? dirs present platform.trim.lower (Command.normalize command) .exact).or
        (r.findBy? dirs present platform.trim.lower (Command.normalize command) .partly) = some ref := by
  rw [find_cases]
  split
  · rename_i hnone
    simp [Registry.findBy?, hnone]
  · cases r.findBy? dirs present platform.trim.lower (Command.normalize command) .exact with
    | some ref' => simp
    | none =>
      cases r.findBy? dirs present platform.trim.lower (Command.normalize command) .partly with
      | some ref' => simp
      | none => simp

/-- Where nothing is found, both passes find nothing. -/
theorem findBy?_eq_none_of_find {r : Registry} (h : ∀ ref, r.find dirs present platform command ≠ .found ref) :
    r.findBy? dirs present platform.trim.lower (Command.normalize command) .exact = none ∧
      r.findBy? dirs present platform.trim.lower (Command.normalize command) .partly = none := by
  rw [← Option.or_eq_none_iff, Option.eq_none_iff_forall_ne_some]
  intro ref hsome
  exact h ref (find_eq_found_iff.2 hsome)

/-- How the choice for a command may change from `old` to `new` when entries are added behind the others. -/
structure Stable (dirs : List Path) (present : Path → Bool) (command : Text) (added : List Entry)
    (old new : Resolution) : Prop where
  /-- An exact match stays what it is. -/
  exact : ∀ ref, old = .found ref → ref.kind = .exact → new = .found ref
  /-- A partial match stays, or an added entry matches exactly. -/
  partly : ∀ ref, old = .found ref → ref.kind = .partly → new = .found ref ∨
    ∃ ref', new = .found ref' ∧ ref'.kind = .exact ∧ ∃ e ∈ added, Picks dirs present command ref' e
  /-- Where there was nothing, there is an added entry at most. -/
  fresh : ∀ ref, old = .noMatch ∨ old = .unsupportedPlatform → new = .found ref →
    ∃ e ∈ added, Picks dirs present command ref e

/-- **Entries that are added at the end of an index** leave an exact match alone, replace a partial one by an exact
    match only, and are all that can be found where nothing was found before. -/
theorem find_append (es added : List Entry) (dirs : List Path) (present : Path → Bool) (platform command : Text) :
    Stable dirs present (Command.normalize command) added
      ((Registry.ofEntries es).find dirs present platform command)
      ((Registry.ofEntries (es ++ added)).find dirs present platform command) where
  exact := by
    intro ref hfound hkind
    rw [find_eq_found_iff] at hfound ⊢
    rw [findBy?_append, findBy?_append]
    rcases hexact : (Registry.ofEntries es).findBy? dirs present platform.trim.lower (Command.normalize command)
      .exact with _ | ref'
    · rw [hexact, Option.none_or] at hfound
      rw [(exists_picks hfound).1] at hkind
      cases hkind
    · rw [hexact] at hfound
      exact hfound
  partly := by
    intro ref hfound hkind
    rw [find_eq_found_iff] at hfound
    rcases hexact : (Registry.ofEntries es).findBy? dirs present platform.trim.lower (Command.normalize command)
      .exact with _ | ref'
    · rw [hexact, Option.none_or] at hfound
      rcases hadded : (Registry.ofEntries added).findBy? dirs present platform.trim.lower
        (Command.normalize command) .exact with _ | ref'
      · refine Or.inl (find_eq_found_iff.2 ?_)
        rw [findBy?_append, findBy?_append, hexact, hadded, hfound]
        rfl
      · obtain ⟨hexact', hpicks⟩ := exists_picks hadded
        refine Or.inr ⟨ref', find_eq_found_iff.2 ?_, hexact', hpicks⟩
        rw [findBy?_append, hexact, hadded]
        rfl
    · rw [hexact] at hfound
      cases hfound
      rw [(exists_picks hexact).1] at hkind
      cases hkind
  fresh := by
    intro ref hnone hfound
    have hmissing : ∀ ref', (Registry.ofEntries es).find dirs present platform command ≠ .found ref' := by
      intro ref' h
      rcases hnone with hnone | hnone
      · rw [hnone] at h; cases h
      · rw [hnone] at h; cases h
    obtain ⟨hexact, hpartly⟩ := findBy?_eq_none_of_find hmissing
    rw [find_eq_found_iff, findBy?_append, findBy?_append, hexact, hpartly, Option.none_or, Option.none_or] at hfound
    rcases Option.or_eq_some_iff.1 hfound with h | ⟨-, h⟩
    · exact (exists_picks h).2
    · exact (exists_picks h).2

/-- Two entries, of which the first has no file, and one more. -/
theorem find_append_later :
    Stable ["d".toList] (fun p => p == "d/b".toList || p == "d/c".toList) "show ip".toList
      [⟨"os".toList, "show ip".toList, "c".toList⟩]
      (.found ⟨"os".toList, "b".toList, "d/b".toList, "show ip bgp".toList, .partly⟩)
      (.found ⟨"os".toList, "c".toList, "d/c".toList, "show ip".toList, .exact⟩) := by
  have hold : (Registry.ofEntries [⟨"os".toList, "show ip".toList, "a".toList⟩,
      ⟨"os".toList, "show ip bgp".toList, "b".toList⟩]).find ["d".toList]
      (fun p => p == "d/b".toList || p == "d/c".toList) "os".toList "show  IP".toList =
        .found ⟨"os".toList, "b".toList, "d/b".toList, "show ip bgp".toList, .partly⟩ := by decide +kernel
  have hnew : (Registry.ofEntries ([⟨"os".toList, "show ip".toList, "a".toList⟩,
      ⟨"os".toList, "show ip bgp".toList, "b".toList⟩] ++ [⟨"os".toList, "show ip".toList, "c".toList⟩])).find
      ["d".toList] (fun p => p == "d/b".toList || p == "d/c".toList) "os".toList "show  IP".toList =
        .found ⟨"os".toList, "c".toList, "d/c".toList, "show ip".toList, .exact⟩ := by decide +kernel
  have h := find_append [⟨"os".toList, "show ip".toList, "a".toList⟩,
    ⟨"os".toList, "show ip bgp".toList, "b".toList⟩] [⟨"os".toList, "show ip".toList, "c".toList⟩]
    ["d".toList] (fun p => p == "d/b".toList || p == "d/c".toList) "os".toList "show  IP".toList
  rwa [hold, hnew] at h

end

end Readout.Index
