/-
  The choice of a template, declaratively.

  * `entries_ofEntries`, `matcher?_ofEntries`: a registry has its entries in order, and for each of them the
    matcher of its own pattern, however many entries share it;
  * `Chosen`: which template is chosen for a command, said without the two passes over the registry;
  * `find_iff_chosen`: the registry chooses just this template.
-/
import Mathlib.Data.List.Induction
import Mathlib.Data.List.Infix
import Readout.Index.Selection

namespace Readout

theorem Text.hasInfix_iff {p : Text} : ∀ {t : Text}, hasInfix p t ↔ p <:+: t
  | [] => by simp [hasInfix, List.isEmpty_iff]
  | c :: t => by
    rw [hasInfix, Bool.or_eq_true, hasPrefix, List.isPrefixOf_iff_prefix, hasInfix_iff,
      List.infix_cons_iff]

namespace Index

open Command (Matcher)

/-! ## Registries -/

namespace Registry

/-- Is every matcher that of its pattern, and is there one for each entry? -/
structure Matched (r : Registry) : Prop where
  fresh : ∀ m ∈ r.matchers, m = .ofPattern m.pattern
  covers : ∀ e ∈ r.entries, (r.matcher? e.pattern).isSome

theorem Matched.matcher? {r : Registry} (hr : r.Matched) {p : Text} {m : Matcher}
    (h : r.matcher? p = some m) : m = .ofPattern p := by
  have hp : m.pattern = p := by simpa using List.find?_some h
  exact hp ▸ hr.fresh m (List.mem_of_find?_eq_some h)

/-- An entry more keeps the matchers of the others. -/
theorem Matched.insert {r : Registry} (hr : r.Matched) (e : Entry) : (r.insert e).Matched := by
  by_cases hm : (r.matcher? e.pattern).isSome
  · have hsame : (r.insert e).matchers = r.matchers := if_pos hm
    refine ⟨by rw [hsame]; exact hr.fresh, fun e' he' => ?_⟩
    rw [Registry.matcher?, hsame]
    rcases List.mem_append.1 he' with he' | he'
    · exact hr.covers e' he'
    · rw [List.mem_singleton.1 he']; exact hm
  · have hmore : (r.insert e).matchers = r.matchers ++ [.ofPattern e.pattern] := if_neg hm
    refine ⟨fun m h => ?_, fun e' he' => ?_⟩
    · rw [hmore] at h
      rcases List.mem_append.1 h with h | h
      · exact hr.fresh m h
      · rw [List.mem_singleton.1 h]; rfl
    · rw [Registry.matcher?, hmore, List.find?_append, Option.isSome_or, Bool.or_eq_true]
      rcases List.mem_append.1 he' with he' | he'
      · exact Or.inl (hr.covers e' he')
      · rw [List.mem_singleton.1 he']
        exact Or.inr (by simp [Matcher.ofPattern])

theorem ofEntries_concat (es : List Entry) (e : Entry) :
    ofEntries (es ++ [e]) = (ofEntries es).insert e := by
  rw [ofEntries, List.foldl_concat]; rfl

theorem matched_ofEntries (es : List Entry) : (ofEntries es).Matched := by
  induction es using List.reverseRecOn with
  | nil => exact ⟨by simp [ofEntries], by simp [ofEntries]⟩
  | append_singleton es e ih => rw [ofEntries_concat]; exact ih.insert e

theorem entries_ofEntries (es : List Entry) : (ofEntries es).entries = es := by
  induction es using List.reverseRecOn with
  | nil => rfl
  | append_singleton es e ih => rw [ofEntries_concat, insert, ih]

theorem entriesOf_ofEntries (es : List Entry) (platform : Text) :
    (ofEntries es).entriesOf platform = es.filter (·.platform == platform) := by
  rw [entriesOf, entries_ofEntries]

/-- **Sharing is transparent.**  The matcher of an entry is that of its own pattern. -/
theorem matcher?_ofEntries {es : List Entry} {e : Entry} (he : e ∈ es) :
    (ofEntries es).matcher? e.pattern = some (.ofPattern e.pattern) := by
  have hr := matched_ofEntries es
  obtain ⟨m, hm⟩ := Option.isSome_iff_exists.1 (hr.covers e (by rwa [entries_ofEntries]))
  rw [hm, hr.matcher? hm]

end Registry

/-! ## The template for a command -/

/-- Is `a` the first element with a property? -/
def IsFirst {α : Type} (P : α → Prop) (l : List α) (a : α) : Prop :=
  ∃ before after, l = before ++ a :: after ∧ P a ∧ ∀ b ∈ before, ¬ P b

theorem IsFirst.mem {α : Type} {P : α → Prop} {l : List α} {a : α} (h : IsFirst P l a) : a ∈ l := by
  obtain ⟨before, after, rfl, -, -⟩ := h; simp

theorem IsFirst.holds {α : Type} {P : α → Prop} {l : List α} {a : α} (h : IsFirst P l a) : P a := by
  obtain ⟨-, -, -, ha, -⟩ := h; exact ha

theorem isFirst_congr {α : Type} {P Q : α → Prop} {l : List α} {a : α} (hPQ : ∀ b ∈ l, P b ↔ Q b) :
    IsFirst P l a ↔ IsFirst Q l a := by
  constructor
  · rintro ⟨before, after, rfl, ha, hb⟩
    exact ⟨before, after, rfl, (hPQ a (by simp)).1 ha, fun b h hq => hb b h ((hPQ b (by simp [h])).2 hq)⟩
  · rintro ⟨before, after, rfl, ha, hb⟩
    exact ⟨before, after, rfl, (hPQ a (by simp)).2 ha, fun b h hp => hb b h ((hPQ b (by simp [h])).1 hp)⟩

theorem find?_eq_some_iff_isFirst {α : Type} {p : α → Bool} {l : List α} {a : α} :
    l.find? p = some a ↔ IsFirst (fun a => p a) l a := by
  rw [List.find?_eq_some_iff_append]
  constructor
  · rintro ⟨hp, before, after, rfl, hb⟩
    exact ⟨before, after, rfl, hp, fun b h => by simpa using hb b h⟩
  · rintro ⟨before, after, rfl, hp, hb⟩
    exact ⟨hp, before, after, rfl, fun b h => by simpa using hb b h⟩

theorem findSome?_eq_some_iff_isFirst {α β : Type} {f : α → Option β} {l : List α} {b : β} :
    l.findSome? f = some b ↔ ∃ a, IsFirst (fun a => ∃ b, f a = some b) l a ∧ f a = some b := by
  rw [List.findSome?_eq_some_iff]
  constructor
  · rintro ⟨before, a, after, rfl, ha, hb⟩
    exact ⟨a, ⟨before, after, rfl, ⟨b, ha⟩, fun x hx ⟨y, hy⟩ => by rw [hb x hx] at hy; cases hy⟩, ha⟩
  · rintro ⟨a, ⟨before, after, rfl, -, hb⟩, ha⟩
    exact ⟨before, a, after, rfl, ha, fun x hx => Option.eq_none_iff_forall_ne_some.2 fun y hy =>
      hb x hx ⟨y, hy⟩⟩

/-- Is the path that of the template in the first directory that has it? -/
def Located (dirs : List Path) (present : Path → Bool) (template : Text) (path : Path) : Prop :=
  ∃ dir, IsFirst (fun d => present (Path.join d template)) dirs dir ∧ path = Path.join dir template

/-- Does the pattern of an entry match a command?  An exact match is one of the expression of the pattern; for a
    partial one, the core of the pattern and the command are not empty, and one of them contains the other. -/
def Fits (command : Text) (e : Entry) : MatchKind → Prop
  | .exact => (Matcher.ofPattern e.pattern).isExact command
  | .partly => Command.core e.pattern ≠ [] ∧ command ≠ [] ∧
      (Command.core e.pattern <:+: command ∨ command <:+: Command.core e.pattern)

/-- Does an entry match a command, with a template that is in some directory? -/
def Offers (dirs : List Path) (present : Path → Bool) (command : Text) (kind : MatchKind) (e : Entry) :
    Prop :=
  Fits command e kind ∧ ∃ path, Located dirs present e.template path

/-- The template that is chosen from entries for a platform in lower case and a command in normal form. -/
inductive Chosen (es : List Entry) (dirs : List Path) (present : Path → Bool) (platform command : Text) :
    Resolution → Prop
  | unsupported : es = [] → Chosen es dirs present platform command .unsupportedPlatform
  | exact {e path} : IsFirst (Offers dirs present command .exact) es e →
      Located dirs present e.template path →
      Chosen es dirs present platform command
        (.found { platform, template := e.template, path, pattern := e.pattern, kind := .exact })
  | partly {e path} : (∀ e ∈ es, ¬ Offers dirs present command .exact e) →
      IsFirst (Offers dirs present command .partly) es e → Located dirs present e.template path →
      Chosen es dirs present platform command
        (.found { platform, template := e.template, path, pattern := e.pattern, kind := .partly })
  | noMatch : es ≠ [] → (∀ e ∈ es, ∀ kind, ¬ Offers dirs present command kind e) →
      Chosen es dirs present platform command .noMatch

section
variable {dirs : List Path} {present : Path → Bool}

theorem locate?_eq_some_iff {template : Text} {path : Path} :
    locate? dirs present template = some path ↔ Located dirs present template path := by
  rw [locate?, List.find?_map, Option.map_eq_some_iff]
  exact exists_congr fun dir => and_congr find?_eq_some_iff_isFirst eq_comm

theorem accepts_ofEntries {es : List Entry} {e : Entry} (he : e ∈ es) (kind : MatchKind) (command : Text) :
    (Registry.ofEntries es).accepts kind command e ↔ Fits command e kind := by
  rw [Registry.accepts, Registry.matcher?_ofEntries he, Option.any_some]
  cases kind with
  | exact => rfl
  | partly =>
    have hcore : (Matcher.ofPattern e.pattern).core = Command.core e.pattern := rfl
    simp only [Fits, Matcher.isPartial, hcore, Bool.and_eq_true, Bool.or_eq_true, Text.hasInfix_iff,
      Bool.not_eq_true', List.isEmpty_eq_false_iff]
    tauto

/-- What an entry contributes to a pass over the registry. -/
def Registry.pass (r : Registry) (dirs : List Path) (present : Path → Bool) (platform command : Text)
    (kind : MatchKind) (e : Entry) : Option TemplateRef :=
  if r.accepts kind command e then
    (locate? dirs present e.template).map fun path =>
      { platform, template := e.template, path, pattern := e.pattern, kind }
  else none

section
variable {es : List Entry} {platform command : Text} {kind : MatchKind} {ref : TemplateRef}

theorem pass_eq_some_iff {e : Entry} (he : e ∈ es) :
    (Registry.ofEntries es).pass dirs present platform command kind e = some ref ↔
      Fits command e kind ∧ ∃ path, Located dirs present e.template path ∧
        ref = { platform, template := e.template, path, pattern := e.pattern, kind } := by
  unfold Registry.pass
  by_cases hf : Fits command e kind
  · rw [if_pos ((accepts_ofEntries he kind command).2 hf), Option.map_eq_some_iff]
    simp only [hf, true_and, locate?_eq_some_iff]
    exact exists_congr fun _ => and_congr_right fun _ => eq_comm
  · rw [if_neg (mt (accepts_ofEntries he kind command).1 hf)]
    simp [hf]

theorem exists_pass_iff {e : Entry} (he : e ∈ es) :
    (∃ ref, (Registry.ofEntries es).pass dirs present platform command kind e = some ref) ↔
      Offers dirs present command kind e := by
  simp only [pass_eq_some_iff he]
  exact ⟨fun ⟨_, hf, path, hp, _⟩ => ⟨hf, path, hp⟩, fun ⟨hf, path, hp⟩ => ⟨_, hf, path, hp, rfl⟩⟩

theorem findBy?_ofEntries :
    (Registry.ofEntries es).findBy? dirs present platform command kind =
      (es.filter (·.platform == platform)).findSome?
        ((Registry.ofEntries es).pass dirs present platform command kind) := by
  rw [← Registry.entriesOf_ofEntries]; rfl

/-- **One pass over the registry** finds the first entry that matches and has its template somewhere. -/
theorem findBy?_eq_some_iff :
    (Registry.ofEntries es).findBy? dirs present platform command kind = some ref ↔
      ∃ e path, IsFirst (Offers dirs present command kind) (es.filter (·.platform == platform)) e ∧
        Located dirs present e.template path ∧
        ref = { platform, template := e.template, path, pattern := e.pattern, kind } := by
  have hmem : ∀ e ∈ es.filter (·.platform == platform), e ∈ es := fun e he => (List.mem_filter.1 he).1
  have hfirst : ∀ e, IsFirst (fun e => ∃ ref,
        (Registry.ofEntries es).pass dirs present platform command kind e = some ref)
      (es.filter (·.platform == platform)) e ↔
        IsFirst (Offers dirs present command kind) (es.filter (·.platform == platform)) e :=
    fun _ => isFirst_congr fun e he => exists_pass_iff (hmem e he)
  rw [findBy?_ofEntries, findSome?_eq_some_iff_isFirst]
  constructor
  · rintro ⟨e, he, hpass⟩
    obtain ⟨-, path, hpath, rfl⟩ := (pass_eq_some_iff (hmem e he.mem)).1 hpass
    exact ⟨e, path, (hfirst e).1 he, hpath, rfl⟩
  · rintro ⟨e, path, he, hpath, rfl⟩
    exact ⟨e, (hfirst e).2 he, (pass_eq_some_iff (hmem e he.mem)).2 ⟨he.holds.1, path, hpath, rfl⟩⟩

/-- A pass finds nothing if no entry matches that has its template somewhere. -/
theorem findBy?_eq_none_iff :
    (Registry.ofEntries es).findBy? dirs present platform command kind = none ↔
      ∀ e ∈ es.filter (·.platform == platform), ¬ Offers dirs present command kind e := by
  rw [findBy?_ofEntries, List.findSome?_eq_none_iff]
  refine forall₂_congr fun e he => ?_
  rw [← exists_pass_iff (List.mem_filter.1 he).1, Option.eq_none_iff_forall_ne_some, not_exists]

end

end

/-- The two passes, one after the other. -/
theorem find_cases (r : Registry) (dirs : List Path) (present : Path → Bool) (platform command : Text) :
    r.find dirs present platform command =
      if r.entriesOf platform.trim.lower = [] then .unsupportedPlatform
      else
        match r.findBy? dirs present platform.trim.lower (Command.normalize command) .exact with
        | some ref => .found ref
        | none =>
          match r.findBy? dirs present platform.trim.lower (Command.normalize command) .partly with
          | some ref => .found ref
          | none => .noMatch := by
  simp only [Registry.find, Registry.contains]
  by_cases hE : r.entriesOf platform.trim.lower = []
  · simp [hE]
  · simp only [hE, List.isEmpty_eq_false_iff.2 hE, Bool.not_false, if_true, if_false]
    cases r.findBy? dirs present platform.trim.lower (Command.normalize command) .exact <;> rfl

/-- **The choice of a template.**  The registry of some entries chooses what the entries of the platform offer
    for the command, and nothing else; and every entry is matched by its own pattern. -/
theorem find_iff_chosen (es : List Entry) (dirs : List Path) (present : Path → Bool)
    (platform command : Text) :
    (∀ r, (Registry.ofEntries es).find dirs present platform command = r ↔
      Chosen (es.filter (·.platform == platform.trim.lower)) dirs present platform.trim.lower
        (Command.normalize command) r) ∧
    ∀ e ∈ es, (Registry.ofEntries es).matcher? e.pattern = some (.ofPattern e.pattern) := by
  refine ⟨fun r => ?_, fun e he => Registry.matcher?_ofEntries he⟩
  rw [find_cases, Registry.entriesOf_ofEntries]
  constructor
  · rintro rfl
    split
    · rename_i hE; exact .unsupported hE
    · rename_i hE
      rcases h₁ : (Registry.ofEntries es).findBy? dirs present platform.trim.lower
        (Command.normalize command) .exact with _ | ref
      · rcases h₂ : (Registry.ofEntries es).findBy? dirs present platform.trim.lower
          (Command.normalize command) .partly with _ | ref
        · refine .noMatch hE fun e he kind => ?_
          cases kind with
          | exact => exact findBy?_eq_none_iff.1 h₁ e he
          | partly => exact findBy?_eq_none_iff.1 h₂ e he
        · obtain ⟨e, path, he, hp, rfl⟩ := findBy?_eq_some_iff.1 h₂
          exact .partly (findBy?_eq_none_iff.1 h₁) he hp
      · obtain ⟨e, path, he, hp, rfl⟩ := findBy?_eq_some_iff.1 h₁
        exact .exact he hp
  · intro h
    cases h with
    | unsupported hE => rw [if_pos hE]
    | exact he hp =>
      rw [if_neg (List.ne_nil_of_mem he.mem), findBy?_eq_some_iff.2 ⟨_, _, he, hp, rfl⟩]
    | partly hno he hp =>
      rw [if_neg (List.ne_nil_of_mem he.mem), findBy?_eq_none_iff.2 hno,
        findBy?_eq_some_iff.2 ⟨_, _, he, hp, rfl⟩]
    | noMatch hE hno =>
      rw [if_neg hE, findBy?_eq_none_iff.2 fun e he => hno e he .exact,
        findBy?_eq_none_iff.2 fun e he => hno e he .partly]

/-- The template that is found is there. -/
theorem present_of_find {r : Registry} {dirs : List Path} {present : Path → Bool} {platform command : Text}
    {ref : TemplateRef} (h : r.find dirs present platform command = .found ref) : present ref.path := by
  have hpass : ∀ kind, r.findBy? dirs present platform.trim.lower (Command.normalize command) kind = some ref →
      present ref.path := by
    intro kind hk
    obtain ⟨e, -, he⟩ := List.exists_of_findSome?_eq_some hk
    split at he
    · obtain ⟨path, hpath, rfl⟩ := Option.map_eq_some_iff.1 he
      exact List.find?_some hpath
    · cases he
  rw [find_cases] at h
  split at h
  · cases h
  · split at h
    · rename_i hk; cases h; exact hpass .exact hk
    · split at h
      · rename_i hk; cases h; exact hpass .partly hk
      · cases h

end Index

end Readout
