/-
  Nothing behind the stop of a run matters.

  * `Text.prefix_inputLines`: the lines that a text is joined from are the first ones that the rules see;
  * `Stopped`: a run has come to its end by some line of its input;
  * `Course.through_of_stopped`: the other lines change nothing;
  * `extract_of_stopped`: what a run yields is told by the lines up to its stop, whatever stands behind them.
-/
import Mathlib.Data.List.Infix
import Readout.Proofs.Extraction.Lines
import Readout.Proofs.Extraction.Stages

namespace Readout

namespace Text

/-- A line: no line end is in it. -/
def IsLine (l : Text) : Prop := '\n' ∉ l ∧ '\r' ∉ l

instance (l : Text) : Decidable l.IsLine := inferInstanceAs (Decidable (_ ∧ _))

theorem IsLine.dropReturn {l : Text} (h : l.IsLine) : dropReturn l = l := by
  unfold Text.dropReturn
  split
  · rename_i hlast
    exact absurd (List.mem_of_getLast? hlast) h.2
  · rfl

/-- **The lines that a text is joined from are the first that the rules see.**  An empty line at its end is the one
    at the end of the input. -/
theorem prefix_inputLines {ls : List Text} (h : ∀ l ∈ ls, l.IsLine) :
    ls <+: (joinWith ['\n'] ls).inputLines ++ [[]] := by
  rcases ls.eq_nil_or_concat with rfl | ⟨init, last, hls⟩
  · exact List.nil_prefix
  rw [List.concat_eq_append] at hls
  subst hls
  have hpieces : pieces '\n' (joinWith ['\n'] (init ++ [last])) = init ++ [last] :=
    pieces_joinWith (by simp) fun l hl => (h l hl).1
  have hended : ended (joinWith ['\n'] (init ++ [last])) = init := by rw [ended, hpieces, List.dropLast_concat]
  have hunended : unended (joinWith ['\n'] (init ++ [last])) = openLine (some last) := by
    rw [unended, hpieces, List.getLast?_concat]
  have hinit : (init.map fun l => Text.dropReturn (Text.dropReturn l)) = init := by
    refine (List.map_congr_left fun l hl => ?_).trans (List.map_id init)
    have hline := h l (List.mem_append_left _ hl)
    rw [hline.dropReturn, hline.dropReturn, id]
  rw [inputLines_eq, hended, hunended, hinit]
  cases last with
  | nil =>
    rw [openLine, List.map_nil, List.append_nil]
  | cons c last =>
    have hline := h (c :: last) (by simp)
    rw [openLine, List.map_singleton, hline.dropReturn]
    · exact List.prefix_append _ _
    · simp

end Text

namespace Extraction

/-- Has a run come to its end by the end of these lines? -/
inductive Stopped (t : Template) (ls : List Text) : Prop where
  /-- a rule has moved it out of the states -/
  | left {r : Run} : Run.through t ls = .ok r → r.position.isRunning = false → Stopped t ls
  /-- a rule has rejected a line, or could not be tried on it -/
  | failed {e : Failure} : Run.through t ls = .error e → Stopped t ls

/-- **Lines behind the stop of a run change nothing**: no rule is tried on them. -/
theorem Course.through_of_stopped {t : Template} {ls : List Text} (h : Stopped t ls) (more : List Text) :
    through t (ls ++ more) = through t ls := by
  rw [through_append]
  cases h with
  | left hr hp =>
    obtain ⟨c, hc, -, hposition⟩ := Run.exists_course hr
    rw [hc]
    simp only [Except.bind, ofLines_of_stopped (hposition ▸ hp), Except.map]
    simp [prepend]
  | failed he =>
    rw [Run.through_eq] at he
    rcases hc : through t ls with e | c
    · rfl
    · rw [hc] at he; cases he

/-- Behind a stop, the last record is due only where the run was to go on as at the end of its input. -/
theorem Run.close_of_stopped {t : Template} {r : Run} (h : r.position.isRunning = false) :
    r.close t = if r.position = .atEof ∧ t.hasState Template.eofState = false then r.emit t.values else r := by
  unfold Run.close
  rcases hp : r.position with s | _ | _
  · rw [hp] at h; cases h
  · simp
  · cases t.hasState Template.eofState <;> simp

/-- **Nothing behind the stop of a run matters.**  A run that has gone to the end of its template, or has failed, by
    the line behind which `rest` stands yields the same with any other lines in place of `rest`, or with none.  Its
    rules fire in the lines up to there only, not in later ones nor in the empty one at the end; and a last record is
    emitted behind them if the run was to go on as at the end of its input and there is no state for that, but never
    if it was ended. -/
theorem extract_of_stopped {t : Template} {ls : List Text} (hls : ∀ l ∈ ls, l.IsLine) (hstop : Stopped t ls)
    {rest : List Text} (hrest : ∀ l ∈ rest, l.IsLine) :
    (∀ others : List Text, (∀ l ∈ others, l.IsLine) →
      extract t (Text.joinWith ['\n'] (ls ++ others)) = extract t (Text.joinWith ['\n'] (ls ++ rest))) ∧
    Course.ofText t (Text.joinWith ['\n'] (ls ++ rest)) = Course.through t ls ∧
    extract t (Text.joinWith ['\n'] (ls ++ rest)) = (Run.through t ls).map fun r =>
      (if r.position = .atEof ∧ t.hasState Template.eofState = false then r.emit t.values else r).outcome t := by
  have hcourse : ∀ others : List Text, (∀ l ∈ others, l.IsLine) →
      Course.ofText t (Text.joinWith ['\n'] (ls ++ others)) = Course.through t ls := by
    intro others hothers
    obtain ⟨more, hmore⟩ := Text.prefix_inputLines (List.forall_mem_append.2 ⟨hls, hothers⟩)
    rw [Course.ofText_eq_through, ← hmore, List.append_assoc, Course.through_of_stopped hstop]
  have hextract : ∀ others : List Text, (∀ l ∈ others, l.IsLine) →
      extract t (Text.joinWith ['\n'] (ls ++ others)) = (Run.through t ls).map fun r => (r.close t).outcome t := by
    intro others hothers
    rw [extract_eq, hcourse others hothers, Run.through_eq]
    cases Course.through t ls <;> rfl
  refine ⟨fun others hothers => ?_, hcourse rest hrest, ?_⟩
  · rw [hextract others hothers, hextract rest hrest]
  · rw [hextract rest hrest]
    cases hstop with
    | left hr hp =>
      rw [hr]
      simp only [Except.map, Run.close_of_stopped hp]
    | failed he => rw [he]; rfl

/-- A run that goes to `EOF` in its second line emits a last record, and one that goes to `End` there does not; a third
    line and the end of the input are not looked at, though a rule for empty lines rejects them. -/
theorem extract_of_stopped_rest :
    let source := ("Value A (\\d)\n\nStart\n  ^${A}\n  ^- -> EOF\n  ^= -> End\n  ^$$ -> Error\n").toList
    let ls (stop : Char) : List Text := [['1'], [stop]]
    let rest : List Text := [['2'], []]
    ∃ t, Template.parse source = .ok t ∧ (∀ l ∈ rest, l.IsLine) ∧ ∀ stop ∈ ['-', '='],
      (∀ l ∈ ls stop, l.IsLine) ∧ Stopped t (ls stop) ∧
      extract t (Text.joinWith ['\n'] (ls stop ++ rest)) =
        .ok { records := if stop = '-' then [[(['A'], .single ['1'])]] else [] } ∧
      (∀ others : List Text, (∀ l ∈ others, l.IsLine) →
        extract t (Text.joinWith ['\n'] (ls stop ++ others)) = extract t (Text.joinWith ['\n'] (ls stop ++ rest))) ∧
      Course.ofText t (Text.joinWith ['\n'] (ls stop ++ rest)) = Course.through t (ls stop) ∧
      extract t (Text.joinWith ['\n'] (ls stop ++ rest)) = (Run.through t (ls stop)).map fun r =>
        (if r.position = .atEof ∧ t.hasState Template.eofState = false then r.emit t.values else r).outcome t := by
  intro source ls rest
  have h : (Template.parse source).toOption.map (fun t => ['-', '='].map fun stop =>
      ((Run.through t (ls stop)).toOption.map (·.position.isRunning),
        extract t (Text.joinWith ['\n'] (ls stop ++ rest)))) =
      some [(some false, .ok { records := [[(['A'], .single ['1'])]] }), (some false, .ok {})] := by
    decide +kernel
  obtain ⟨t, ht, hruns⟩ := Template.exists_parse h
  obtain ⟨heof, hruns⟩ := List.cons.inj hruns
  obtain ⟨hend, -⟩ := List.cons.inj hruns
  have hrest : ∀ l ∈ rest, l.IsLine := by decide
  have hstop : ∀ stop, (Run.through t (ls stop)).toOption.map (·.position.isRunning) = some false →
      Stopped t (ls stop) := by
    intro stop hstop
    rcases hr : Run.through t (ls stop) with e | r <;> rw [hr] at hstop
    · cases hstop
    · exact .left hr (Option.some.inj hstop)
  refine ⟨t, ht, hrest, ?_⟩
  rw [List.forall_mem_cons, List.forall_mem_singleton]
  constructor
  · have hls : ∀ l ∈ ls '-', l.IsLine := by decide
    have hstopped := hstop '-' (Prod.mk.inj heof).1
    exact ⟨hls, hstopped, (Prod.mk.inj heof).2, extract_of_stopped hls hstopped hrest⟩
  · have hls : ∀ l ∈ ls '=', l.IsLine := by decide
    have hstopped := hstop '=' (Prod.mk.inj hend).1
    exact ⟨hls, hstopped, (Prod.mk.inj hend).2, extract_of_stopped hls hstopped hrest⟩

end Extraction

end Readout
