/-
  The ways to have output parsed agree with each other, and with the choice of a template alone.

  * `Session.Reached`: a session that some steps lead to; `Session.Roomed`: without room in the cache nothing is
    kept, which every step preserves;
  * `Session.inForce`: the template of a path, the one that is kept or else the one in the file; `template_eq`: it is
    the one that is run;
  * `Session.outcome_of_found`, `outcome_of_noMatch`, `outcome_of_unsupportedPlatform`: an outcome by what the choice
    of a template comes to;
  * `Session.Composed`: what the outcome, the records and the report of an output are; `composed_of_reached`: they
    are so in every session that can be reached.
-/
import Readout.Proofs.Session.Lifecycle

namespace Readout.Session

open Index (Resolution TemplateRef)

/-! ## Sessions that can be reached -/

/-- Is the session behind some steps from a new one, whatever files there are? -/
def Reached (s : Session) : Prop :=
  ∃ files config steps, ((Desk.start files config).run steps).1.session = s

/-- Does a session without room for templates keep none? -/
def Roomed (s : Session) : Prop := s.config.cacheSize = 0 → s.cache.entries = []

section
variable {s : Session} {files : FileTree}

theorem load_config (s : Session) (files : FileTree) : (s.load files).1.config = s.config := by
  unfold load
  split
  · rfl
  · split <;> rfl

theorem reload_config (s : Session) (files : FileTree) : (s.reload files).1.config = s.config := by
  unfold reload
  split <;> rfl

theorem Roomed.load (hs : s.Roomed) (files : FileTree) : (s.load files).1.Roomed := by
  unfold Roomed
  rw [load_config, load_cache]
  exact hs

theorem Roomed.reload (hs : s.Roomed) : (s.reload files).1.Roomed := by
  intro hsize
  rw [reload_config] at hsize
  rw [reload_cache]
  split
  · rfl
  · exact hs hsize

/-- A template is kept only where there is room. -/
theorem Roomed.template (hs : s.Roomed) (files : FileTree) (p : Path) : (s.template files p).1.Roomed := by
  by_cases hsize : s.config.cacheSize = 0
  · rw [Session.template, if_pos hsize]
    exact hs
  · intro hsize'
    obtain ⟨c, hc⟩ := template_withCache s files p
    rw [hc] at hsize'
    exact absurd hsize' hsize

theorem Roomed.outcome (hs : s.Roomed) (platform command text : Text) :
    (s.outcome files platform command text).1.Roomed := by
  unfold Session.outcome
  split
  · exact hs
  · have hload := hs.load files
    simp only [resolve]
    rcases (s.load files).1.resolution files platform command with ref | _ | _
    · have htemplate := hload.template files ref.path
      rcases h : (s.load files).1.template files ref.path with ⟨s', e | t⟩
      · rw [h] at htemplate
        simpa only [h] using htemplate
      · rw [h] at htemplate
        simpa only [h] using htemplate
    · exact hload
    · exact hload

/-- **Every step keeps to the room that there is.** -/
theorem Roomed.step {d : Desk} (hd : d.session.Roomed) (a : Step) : (d.step a).1.session.Roomed := by
  cases a with
  | write | makeDir | remove | registry | config | describe => exact hd
  | begin => exact fun _ => rfl
  | resolve | platforms | commands => exact hd.load d.files
  | reload => exact hd.reload
  | outcome platform command text => exact hd.outcome platform command text
  | parse platform command text =>
    change (d.session.parse d.files platform command text).1.Roomed
    rw [parse_session]
    exact hd.outcome platform command text
  | report platform command text =>
    change (d.session.report d.files platform command text).1.Roomed
    rw [report_session]
    exact hd.outcome platform command text

theorem Roomed.run {d : Desk} (hd : d.session.Roomed) (steps : List Step) : (d.run steps).1.session.Roomed := by
  induction steps using List.reverseRecOn with
  | nil => exact hd
  | append_singleton steps a ih =>
    rw [Desk.run_concat]
    exact ih.step a

theorem Reached.roomed (hs : s.Reached) : s.Roomed := by
  obtain ⟨files, config, steps, rfl⟩ := hs
  exact Roomed.run (fun _ => rfl) steps

/-! ## The template of a path -/

/-- The template in force for a path: the one that is kept, or else the one in the file. -/
def inForce (s : Session) (files : FileTree) (p : Path) : Except TemplateError Template :=
  match s.cache.get? p with
  | some t => .ok t
  | none => readTemplate files p

/-- **The template in force is the one that is run.** -/
theorem template_eq (hs : s.Roomed) (files : FileTree) (p : Path) : (s.template files p).2 = s.inForce files p := by
  unfold Session.template inForce
  split
  · rename_i hsize
    have hnone : s.cache.get? p = none := by
      unfold Cache.get?
      rw [hs hsize]
      rfl
    rw [hnone]
  · cases s.cache.get? p with
    | some t => rfl
    | none => cases readTemplate files p <;> rfl

/-- Reading the index does not change which template is in force. -/
theorem inForce_load (s : Session) (files : FileTree) : (s.load files).1.inForce files = s.inForce files := by
  funext p
  unfold inForce
  rw [load_cache]

/-! ## Outcomes -/

variable {platform command text : Text}

theorem outcome_nil : (s.outcome files platform command []).2.2 = .error .emptyInput := rfl

section
variable (htext : text ≠ [])
include htext

theorem outcome_of_unsupportedPlatform (h : (s.resolve files platform command).2.2 = .unsupportedPlatform) :
    (s.outcome files platform command text).2.2 = .error (.unsupportedPlatform platform) := by
  have hr : (s.load files).1.resolution files platform command = .unsupportedPlatform := h
  rw [Session.outcome, if_neg (by simpa using htext)]
  simp only [resolve, hr]

theorem outcome_of_noMatch (h : (s.resolve files platform command).2.2 = .noMatch) :
    (s.outcome files platform command text).2.2 = .error (.noTemplate platform command) := by
  have hr : (s.load files).1.resolution files platform command = .noMatch := h
  rw [Session.outcome, if_neg (by simpa using htext)]
  simp only [resolve, hr]

/-- Where a template is found, the one in force for its path is run. -/
theorem outcome_of_found (hs : s.Roomed) {ref : TemplateRef}
    (h : (s.resolve files platform command).2.2 = .found ref) :
    (s.outcome files platform command text).2.2 =
      match s.inForce files ref.path with
      | .error e => .error (.template e)
      | .ok t => (Extraction.extract t text).mapError .failed := by
  have hr : (s.load files).1.resolution files platform command = .found ref := h
  have htemplate := template_eq (hs.load files) files ref.path
  rw [inForce_load] at htemplate
  rw [Session.outcome, if_neg (by simpa using htext), ← htemplate]
  simp only [resolve, hr]
  rcases (s.load files).1.template files ref.path with ⟨s', e | t⟩ <;> rfl

end

theorem parse_eq : (s.parse files platform command text).2.2 =
    (s.outcome files platform command text).2.2.map (·.records) := by
  unfold Session.parse
  rcases s.outcome files platform command text with ⟨s', log, e | o⟩ <;> rfl

theorem report_eq : (s.report files platform command text).2.2 =
    ((s.parse files platform command text).2.2.mapError Error.parse).map Extraction.report := by
  unfold Session.report
  rcases s.parse files platform command text with ⟨s', log, e | rs⟩ <;> rfl

/-! ## Agreement -/

/-- How the outcome, the records and the report of an output go together with the choice of a template. -/
structure Composed (s : Session) (files : FileTree) (platform command text : Text) : Prop where
  emptyInput : (s.outcome files platform command text).2.2 = .error .emptyInput ↔ text = []
  unsupportedPlatform : text ≠ [] → ∀ p, (s.outcome files platform command text).2.2 = .error (.unsupportedPlatform p) ↔
    p = platform ∧ (s.resolve files platform command).2.2 = .unsupportedPlatform
  noTemplate : text ≠ [] → ∀ p c, (s.outcome files platform command text).2.2 = .error (.noTemplate p c) ↔
    (p = platform ∧ c = command) ∧ (s.resolve files platform command).2.2 = .noMatch
  template : text ≠ [] → ∀ e, (s.outcome files platform command text).2.2 = .error (.template e) ↔
    ∃ ref, (s.resolve files platform command).2.2 = .found ref ∧ s.inForce files ref.path = .error e
  extracts : text ≠ [] → ∀ ref t, (s.resolve files platform command).2.2 = .found ref →
    s.inForce files ref.path = .ok t →
    (s.outcome files platform command text).2.2 = (Extraction.extract t text).mapError .failed
  parse : (s.parse files platform command text).2.2 = (s.outcome files platform command text).2.2.map (·.records)
  report : (s.report files platform command text).2.2 =
    ((s.parse files platform command text).2.2.mapError Error.parse).map Extraction.report
  sessions : (s.parse files platform command text).1 = (s.outcome files platform command text).1 ∧
    (s.report files platform command text).1 = (s.outcome files platform command text).1

/-- The outcome of an output that is not empty, told by the choice of a template. -/
theorem outcome_cases (hs : s.Roomed) (files : FileTree) (platform command : Text) (htext : text ≠ []) :
    ((s.resolve files platform command).2.2 = .unsupportedPlatform ∧
      (s.outcome files platform command text).2.2 = .error (.unsupportedPlatform platform)) ∨
    ((s.resolve files platform command).2.2 = .noMatch ∧
      (s.outcome files platform command text).2.2 = .error (.noTemplate platform command)) ∨
    ∃ ref, (s.resolve files platform command).2.2 = .found ref ∧
      ((∃ e, s.inForce files ref.path = .error e ∧
        (s.outcome files platform command text).2.2 = .error (.template e)) ∨
       ∃ t, s.inForce files ref.path = .ok t ∧
        (s.outcome files platform command text).2.2 = (Extraction.extract t text).mapError .failed) := by
  rcases hr : (s.resolve files platform command).2.2 with ref | _ | _
  · have houtcome := outcome_of_found htext hs hr
    refine Or.inr (Or.inr ⟨ref, rfl, ?_⟩)
    rcases hforce : s.inForce files ref.path with e | t
    · rw [hforce] at houtcome
      exact Or.inl ⟨e, rfl, houtcome⟩
    · rw [hforce] at houtcome
      exact Or.inr ⟨t, rfl, houtcome⟩
  · exact Or.inl ⟨rfl, outcome_of_unsupportedPlatform htext hr⟩
  · exact Or.inr (Or.inl ⟨rfl, outcome_of_noMatch htext hr⟩)

/-- What a run comes to is not told as an error of an earlier stage. -/
theorem mapError_failed_ne {α : Type} {r : Except Extraction.Failure α} {e : ParseError}
    (he : ∀ f, e ≠ .failed f) : r.mapError ParseError.failed ≠ .error e := by
  intro h
  cases r with
  | error f => exact he f (Except.error.inj h).symm
  | ok a => cases h

/-- **The ways to have output parsed agree, with each other and with the choice of a template alone.** -/
theorem composed_of_reached (hs : s.Reached) (files : FileTree) (platform command text : Text) :
    Composed s files platform command text where
  emptyInput := by
    constructor
    · intro h
      by_contra htext
      obtain ⟨-, ho⟩ | ⟨-, ho⟩ | ⟨ref, -, ⟨e, -, ho⟩ | ⟨t, -, ho⟩⟩ :=
        outcome_cases hs.roomed files platform command htext
      · rw [ho] at h; cases h
      · rw [ho] at h; cases h
      · rw [ho] at h; cases h
      · rw [ho] at h; exact mapError_failed_ne (by simp) h
    · rintro rfl
      exact outcome_nil
  unsupportedPlatform := by
    intro htext p
    obtain ⟨hr, ho⟩ | ⟨hr, ho⟩ | ⟨ref, hr, ⟨e, -, ho⟩ | ⟨t, -, ho⟩⟩ :=
      outcome_cases hs.roomed files platform command htext
    · simp [hr, ho, eq_comm]
    · simp [hr, ho]
    · simp [hr, ho]
    · simp [hr, ho, mapError_failed_ne]
  noTemplate := by
    intro htext p c
    obtain ⟨hr, ho⟩ | ⟨hr, ho⟩ | ⟨ref, hr, ⟨e, -, ho⟩ | ⟨t, -, ho⟩⟩ :=
      outcome_cases hs.roomed files platform command htext
    · simp [hr, ho]
    · simp [hr, ho, eq_comm]
    · simp [hr, ho]
    · simp [hr, ho, mapError_failed_ne]
  template := by
    intro htext e
    obtain ⟨hr, ho⟩ | ⟨hr, ho⟩ | ⟨ref, hr, ⟨e', hforce, ho⟩ | ⟨t, hforce, ho⟩⟩ :=
      outcome_cases hs.roomed files platform command htext
    · simp [hr, ho]
    · simp [hr, ho]
    · simp [hr, ho, hforce]
    · simp [hr, ho, hforce, mapError_failed_ne]
  extracts := by
    intro htext ref t hr hforce
    have ho := outcome_of_found htext hs.roomed hr
    rw [hforce] at ho
    exact ho
  parse := parse_eq
  report := report_eq
  sessions := ⟨parse_session .., by rw [report_session]⟩

end

/-- A template is kept, and then its file holds another text. -/
def spoiling : List Step :=
  [.write "templates/index".toList (.text "Template, Platform, Command\na, os, show a\n".toList),
   .write "templates/a".toList (.text "Value A (\\S+)\n\nStart\n  ^${A} -> Record\n".toList),
   .parse "os".toList "show a".toList "x 1\n".toList,
   .write "templates/a".toList (.text "Value A\n".toList)]

/-- The template in force is the one that is kept, though the file has none any more. -/
theorem composed_of_reached_spoiling :
    let d := ((Desk.start {} {}).run spoiling).1
    d.session.Reached ∧
      Composed d.session d.files "os".toList "show a".toList "y 2\n".toList ∧
      (d.session.inForce d.files "./templates/a".toList).toOption.isSome ∧
      (readTemplate d.files "./templates/a".toList).toOption = none ∧
      (d.session.outcome d.files "os".toList "show a".toList "y 2\n".toList).2.2.toOption.isSome := by
  have hs : ((Desk.start {} {}).run spoiling).1.session.Reached := ⟨{}, {}, spoiling, rfl⟩
  exact ⟨hs, composed_of_reached hs _ _ _ _, by decide +kernel, by decide +kernel, by decide +kernel⟩

end Readout.Session
