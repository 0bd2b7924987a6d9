/-
  The reader of patterns over commands, step by step.

  * `Step` is one step of the reader, `Leads` any number of them;
  * `step_literal`, `step_quoted`, `step_open`, `step_close`, `step_repeat`, …: what the reader makes of each
    way to write a part;
  * `leads_group`: a group, from the way its inside is read;
  * `parse_of_leads`: a reading that leads to the end of a text is what the text is accepted or refused for.
-/
import Mathlib.Logic.Relation
import Readout.Proofs.Text.Lines
import Readout.Regex.CommandPattern

namespace Readout.Regex.CommandPattern

/-- A step of the reader, which takes something off the text. -/
structure Step (x y : Reading × Text) : Prop where
  plain : x.1.flags.ignoreSpace = false
  next : readNext? x.1 x.2 = some y
  shorter : y.2.length < x.2.length

/-- Any number of steps. -/
abbrev Leads : Reading × Text → Reading × Text → Prop := Relation.ReflTransGen Step

theorem skipSpace_eq_self {fl : Flags} (h : fl.ignoreSpace = false) (t : Text) : fl.skipSpace t = t := by
  rw [Flags.skipSpace, h]; rfl

theorem readAll_of_leads {r r' : Reading} {t : Text} (h : Leads (r, t) (r', []))
    (hr' : r'.flags.ignoreSpace = false) : ∀ fuel, t.length < fuel → readAll? fuel r t = some r' := by
  generalize hx : (r, t) = x at h
  induction h using Relation.ReflTransGen.head_induction_on generalizing r t with
  | refl =>
    cases hx
    intro fuel hfuel
    obtain ⟨fuel, rfl⟩ := Nat.exists_eq_succ_of_ne_zero (Nat.ne_of_gt hfuel)
    rw [readAll?, skipSpace_eq_self hr']
  | head hstep _ ih =>
    rename_i y
    subst hx
    intro fuel hfuel
    obtain ⟨fuel, rfl⟩ := Nat.exists_eq_succ_of_ne_zero (Nat.ne_of_gt (Nat.zero_lt_of_lt hfuel))
    have hnext := hstep.next
    have hshorter := hstep.shorter
    rw [readAll?, skipSpace_eq_self hstep.plain]
    cases t with
    | nil => cases hnext
    | cons c t =>
      simp only [hnext, Option.bind_some]
      exact ih rfl fuel (by simp only at hshorter hfuel; omega)

/-- **What is read to its end** is accepted if it is within the limits. -/
theorem parse_of_leads {r : Reading} {t : Text} (h : Leads ({}, t) (r, []))
    (hplain : r.flags.ignoreSpace = false) (hclosed : r.openings = []) :
    parse? t = if r.scope.part.isAdmitted then some ⟨r.scope.part.node⟩ else none := by
  simp [parse?, readAll_of_leads h hplain _ (Nat.lt_succ_self _), hclosed]

theorem node_concat (ps : List Part) : (Part.concat ps).node = Node.concat (ps.map (·.node)) := by
  match ps with
  | [] | [_] | _ :: _ :: _ => rfl

/-! ## Steps -/

section
variable {r : Reading} {t : Text} {c : Char}

/-- The characters that are more than themselves where a part can stand. -/
def operators : List Char := ['(', ')', '|', '[', '?', '*', '+', '\x7b', '\\', '.', '^', '$']

theorem step_literal (hr : r.flags.ignoreSpace = false) (hc : c ∉ operators) :
    Step (r, c :: t) (r.push (.leaf (r.flags.char c)), t) := by
  refine ⟨hr, ?_, Nat.lt_succ_self _⟩
  simp only [operators, List.mem_cons, List.not_mem_nil, or_false, not_or] at hc
  simp only [readNext?, hc, false_implies]

/-- A backslash in front of a character that is an operator somewhere makes it stand for itself. -/
theorem read_isMeta (fl : Flags) (t : Text) (hc : Element.isMeta c) :
    Element.read? fl (c :: t) = some (.char c, t) := by
  simp only [Element.isMeta, List.contains_iff_mem, String.reduceToList, List.mem_cons, List.not_mem_nil,
    or_false] at hc
  rcases hc with rfl | rfl | rfl | rfl | rfl | rfl | rfl | rfl | rfl | rfl | rfl | rfl | rfl | rfl | rfl |
    rfl | rfl | rfl <;> rfl

theorem readNext?_backslash (r : Reading) (t : Text) :
    readNext? r ('\\' :: t) =
      (Element.read? r.flags t).map fun (e, t) => (r.push (.leaf (e.node r.flags)), t) := rfl

/-- **A quoted character stands for itself.** -/
theorem step_quoted (hr : r.flags.ignoreSpace = false) (c : Char) (t : Text) :
    Step (r, Element.quoted c ++ t) (r.push (.leaf (r.flags.char c)), t) := by
  unfold Element.quoted
  split
  · rename_i hmeta
    refine ⟨hr, ?_, Nat.lt_succ_of_lt (Nat.lt_succ_self _)⟩
    refine (readNext?_backslash r (c :: t)).trans ?_
    rw [read_isMeta _ _ hmeta]; rfl
  · rename_i hmeta
    refine step_literal hr fun hmem => hmeta ?_
    have hall : ∀ c ∈ operators, Element.isMeta c := by decide
    exact hall c hmem

theorem step_space (hr : r.flags.ignoreSpace = false) (hunicode : r.flags.unicode) :
    Step (r, '\\' :: 's' :: t) (r.push (.leaf (.set .space)), t) := by
  refine ⟨hr, ?_, Nat.lt_succ_of_lt (Nat.lt_succ_self _)⟩
  have hread : Element.read? r.flags ('s' :: t) = some (.set .space, t) := by
    simp [Element.read?, Element.classOf?, hunicode]
  rw [readNext?_backslash, hread]; rfl

theorem step_caret (hr : r.flags.ignoreSpace = false) (hline : r.flags.multiLine = false) :
    Step (r, '^' :: t) (r.push (.leaf (.anchor .textStart)), t) :=
  have hcaret : r.flags.caret = .textStart := by simp [Flags.caret, hline]
  ⟨hr, hcaret ▸ rfl, Nat.lt_succ_self _⟩

theorem step_dollar (hr : r.flags.ignoreSpace = false) (hline : r.flags.multiLine = false) :
    Step (r, '$' :: t) (r.push (.leaf (.anchor .textEnd)), t) :=
  have hdollar : r.flags.dollar = .textEnd := by simp [Flags.dollar, hline]
  ⟨hr, hdollar ▸ rfl, Nat.lt_succ_self _⟩

theorem readNext?_open (r : Reading) (t : Text) : readNext? r ('(' :: t) = readGroup? r t := rfl

/-- The start of a group that captures nothing. -/
theorem step_open (hr : r.flags.ignoreSpace = false) :
    Step (r, '(' :: '?' :: ':' :: t) (r.open_ none r.flags, t) := by
  refine ⟨hr, ?_, by simp only [List.length_cons]; omega⟩
  rw [readNext?_open, readGroup?, skipSpace_eq_self hr]; rfl

/-- The end of a group. -/
theorem step_close (hr : r.flags.ignoreSpace = false) {o : Opening} {os : List Opening}
    (ho : r.openings = o :: os) : Step (r, ')' :: t)
      ({ r with scope := o.outer.push (r.scope.part.enclosed o.index), flags := o.flags, openings := os }, t) := by
  refine ⟨hr, ?_, Nat.lt_succ_self _⟩
  have hnext : readNext? r (')' :: t) = r.close?.map (·, t) := rfl
  rw [hnext, Reading.close?, ho]; rfl

/-- From here on letters stand for both cases. -/
theorem step_fold (hr : r.flags.ignoreSpace = false) :
    Step (r, "(?i)".toList ++ t) ({ r.push .flags with flags := { r.flags with fold := true } }, t) := by
  refine ⟨hr, ?_, by rw [List.length_append]; exact Nat.lt_add_of_pos_left (by decide)⟩
  refine (readNext?_open r ('?' :: 'i' :: ')' :: t)).trans ?_
  rw [readGroup?, skipSpace_eq_self hr]; rfl

theorem readGreedy_eq (ht : t.head? ≠ some '?') : readGreedy t = (true, t) := by
  unfold readGreedy
  split
  · exact absurd rfl ht
  · rfl

/-- A repetition of the last part, if no question mark follows. -/
theorem step_repeat (hr : r.flags.ignoreSpace = false) (hgreed : r.flags.swapGreed = false) {p : Part}
    (hp : p.solid) (ht : t.head? ≠ some '?') :
    Step (r.push p, '?' :: t) (r.push (p.loop 0 (some 1) true), t) ∧
      Step (r.push p, '+' :: t) (r.push (p.loop 1 none true), t) := by
  have hrepeat (min max) : (r.push p).repeat? min max true = some (r.push (p.loop min max true)) := by
    simp [Reading.repeat?, Reading.push, Scope.push, hp, hgreed]
  have hread (c : Char) (min max)
      (hnext : readNext? (r.push p) (c :: t) =
        ((r.push p).repeat? min max (readGreedy t).1).map (·, (readGreedy t).2)) :
      Step (r.push p, c :: t) (r.push (p.loop min max true), t) := by
    refine ⟨hr, ?_, Nat.lt_succ_self _⟩
    rw [hnext, readGreedy_eq ht, hrepeat]; rfl
  exact ⟨hread '?' 0 (some 1) rfl, hread '+' 1 none rfl⟩

/-- The reading with several parts more. -/
def Reading.pushAll (r : Reading) (ps : List Part) : Reading :=
  { r with scope := { r.scope with parts := ps.reverse ++ r.scope.parts } }

theorem Reading.pushAll_nil (r : Reading) : r.pushAll [] = r := rfl

theorem Reading.pushAll_cons (r : Reading) (p : Part) (ps : List Part) :
    r.pushAll (p :: ps) = (r.push p).pushAll ps := by
  simp [pushAll, push, Scope.push]

theorem Reading.pushAll_append (r : Reading) (ps qs : List Part) :
    r.pushAll (ps ++ qs) = (r.pushAll ps).pushAll qs := by
  simp [pushAll]

/-- **A group that captures nothing** is read as its parts, enclosed. -/
theorem leads_group {u : Text} {ps : List Part} (hr : r.flags.ignoreSpace = false)
    (h : Leads (r.open_ none r.flags, u ++ ')' :: t) ((r.open_ none r.flags).pushAll ps, ')' :: t)) :
    Leads (r, "(?:".toList ++ u ++ ')' :: t) (r.push ((Part.concat ps).enclosed none), t) := by
  refine .head (step_open hr) (h.tail ?_)
  have hscope : ((r.open_ none r.flags).pushAll ps).scope.part = Part.concat ps := by
    simp [Reading.pushAll, Reading.open_, Scope.part, Part.choice]
  have hclose := step_close (r := (r.open_ none r.flags).pushAll ps) (t := t) hr rfl
  rwa [hscope] at hclose

end

end Readout.Regex.CommandPattern
