/-
  Lines that no rule matches.

  * `Text.spread`: copies of a line between others, `Text.insertLines`: between the lines of a text;
  * `Text.inputLines_insertLines`: the rules see the lines of the text, with the copies between them;
  * `Noise`: no rule of a template matches a line;
  * `Failure.renumber`, `Course.ofLine_renumber`: the number of a line only matters where it is reported;
  * `Course.ofLines_spread`: a run does not notice noise, but for the numbers of the other lines;
  * `extract_insertLines`: nor does what it yields.
-/
import Mathlib.Algebra.GroupWithZero.Nat
import Readout.Proofs.Extraction.Lines
import Readout.Proofs.Extraction.Stopping

namespace Readout

namespace Text

/-! ## Inserted lines -/

/-- Lines with copies of `l` between them: `c i` in front of line `i`, counted from zero, or behind the last one. -/
def spread (l : Text) (c : Nat → Nat) : List Text → List Text
  | [] => List.replicate (c 0) l
  | x :: xs => List.replicate (c 0) l ++ x :: spread l (fun i => c (i + 1)) xs

/-- The number of copies in front of line `k`, counted from one. -/
def copies (c : Nat → Nat) (k : Nat) : Nat := ((List.range k).map c).sum

theorem copies_succ (c : Nat → Nat) (k : Nat) : copies c (k + 1) = c 0 + copies (fun i => c (i + 1)) k := by
  rw [copies, List.range_succ_eq_map, List.map_cons, List.sum_cons, List.map_map]
  rfl

section
variable {l : Text}

theorem map_spread {f : Text → Text} (hl : f l = l) (xs : List Text) : ∀ c : Nat → Nat,
    (spread l c xs).map f = spread l c (xs.map f) := by
  induction xs with
  | nil => intro c; simp [spread, hl]
  | cons x xs ih => intro c; simp [spread, hl, ih]

theorem mem_spread {y : Text} {xs : List Text} : ∀ {c : Nat → Nat}, y ∈ spread l c xs → y = l ∨ y ∈ xs := by
  induction xs with
  | nil => intro c h; exact .inl (List.eq_of_mem_replicate h)
  | cons x xs ih =>
    intro c h
    rw [spread, List.mem_append, List.mem_cons] at h
    rcases h with h | rfl | h
    · exact .inl (List.eq_of_mem_replicate h)
    · exact .inr List.mem_cons_self
    · exact (ih h).imp_right (List.mem_cons_of_mem x)

/-- Behind the last line. -/
theorem spread_concat (x : Text) (xs : List Text) : ∀ c : Nat → Nat,
    spread l c (xs ++ [x]) = spread l c xs ++ x :: List.replicate (c (xs.length + 1)) l := by
  induction xs with
  | nil => intro c; rfl
  | cons y xs ih =>
    intro c
    rw [List.cons_append, spread, ih, spread, List.length_cons, List.append_assoc, List.cons_append]

end

/-- A text with copies of a line inserted between its lines.  Where some are inserted behind the last line, a line feed
    ends it. -/
def insertLines (t l : Text) (c : Nat → Nat) : Text :=
  let ls := spread l c t.feedPieces
  if t.unended = [] ∨ c t.feedPieces.length ≠ 0 then unlines ls else joinWith ['\n'] ls

theorem length_feedPieces (t : Text) : t.feedPieces.length = t.inputLines.length := by
  rw [inputLines_eq, feedPieces]
  simp

theorem feed_notMem_feedPieces {t p : Text} (h : p ∈ t.feedPieces) : '\n' ∉ p := by
  obtain ⟨last, hpieces, hunended⟩ := exists_pieces t
  refine notMem_of_mem_pieces (t := t) ?_
  rw [hpieces]
  rw [feedPieces, hunended] at h
  rcases List.mem_append.1 h with h | h
  · exact List.mem_append_left _ h
  · refine List.mem_append_right _ ?_
    cases last with
    | nil => cases h
    | cons => rwa [openLine] at h; simp

/-- **The rules see the lines of the text with the copies between them.**  A line that gets a feed, as there are copies
    behind it, must not lose a second carriage return by this. -/
theorem inputLines_insertLines {l : Text} (hl : l.IsLine) {c : Nat → Nat} {t : Text}
    (hlast : c t.inputLines.length = 0 ∨ ¬ "\r\r".toList <:+ t) :
    (t.insertLines l c).inputLines = spread l c t.inputLines := by
  have hdrop : dropReturn l = l := hl.dropReturn
  have hfeed : ∀ p ∈ spread l c t.feedPieces, '\n' ∉ p := by
    intro p hp
    rcases mem_spread hp with rfl | hp
    · exact hl.1
    · exact feed_notMem_feedPieces hp
  rw [← length_feedPieces] at hlast
  unfold insertLines
  simp only
  split
  · -- all lines are ended
    rename_i hended
    have hunended : (t.unended.map fun l => dropReturn (dropReturn l)) = t.unended.map dropReturn := by
      rcases hended with hnil | hne
      · rw [hnil]; rfl
      · refine List.map_congr_left fun p hp => dropReturn_dropReturn fun hsuffix => ?_
        exact (hlast.resolve_left hne) (hsuffix.trans (suffix_of_mem_unended hp))
    rw [inputLines, lines_unlines hfeed, List.map_map, map_spread (by simp [hdrop]), inputLines_eq, ← hunended,
      ← List.map_append]
    rfl
  · -- the last line is not, and nothing is behind it
    rename_i hopen
    rw [not_or, not_not] at hopen
    obtain ⟨hne, hzero⟩ := hopen
    obtain ⟨last, hpieces, hunended⟩ := exists_pieces t
    rw [hunended] at hne
    have hlast' : openLine (some last) = [last] := by
      cases last with
      | nil => exact absurd rfl hne
      | cons => rw [openLine]; simp
    rw [hlast'] at hunended
    have hzero' : c (t.ended.length + 1) = 0 := by rwa [feedPieces, hunended, List.length_append] at hzero
    have hspread : spread l c t.feedPieces = spread l c t.ended ++ [last] := by
      rw [feedPieces, hunended, spread_concat, hzero', List.replicate_zero]
    have hjoin := pieces_joinWith (by rw [hspread]; simp) hfeed
    rw [hspread] at hjoin
    rw [hspread, inputLines_eq, ended, Text.unended, hjoin, List.dropLast_concat, List.getLast?_concat, hlast',
      map_spread (by simp [hdrop]), inputLines_eq, hunended, List.map_singleton, spread_concat, List.length_map, hzero',
      List.replicate_zero]

end Text

namespace Extraction

open Template (State Rule)
open Text (spread copies)

/-! ## Numbers of lines -/

/-- The failure with another number for the line. -/
def Failure.renumber (f : Nat → Nat) : Failure → Failure
  | rejected state rule number line message => rejected state rule (f number) line message
  | exhausted rule number => exhausted rule (f number)
  | noStart => noStart
  | undeclaredState name => undeclaredState name

section
variable {t : Template} (f : Nat → Nat)

theorem Run.goTo_renumber (name : Text) : (Run.goTo t name).mapError (Failure.renumber f) = Run.goTo t name := by
  unfold Run.goTo
  split
  · rfl
  · split
    · rfl
    · split <;> rfl

namespace Course

theorem ofRules_renumber (s : State) (n : Nat) (l : Text) (rules : List Rule) :
    ofRules t s (f n) l rules = (ofRules t s n l rules).mapError (Failure.renumber f) := by
  induction rules with
  | nil => rfl
  | cons rule rules ih =>
    simp only [ofRules]
    rcases rule.regex.search l with _ | _ | m
    · rfl
    · exact ih
    · rcases rule.action.line with _ | _ | message
      · rcases rule.action.target with _ | name
        · rfl
        · simp only
          have hgo := Run.goTo_renumber (t := t) f name
          rcases h : Run.goTo t name with e | p <;> rw [h] at hgo
          · rw [Except.mapError, Except.error.injEq] at hgo
            simp only [Except.map, Except.mapError, hgo]
          · rfl
      · simp only [ih]
        cases ofRules t s n l rules <;> rfl
      · rfl

/-- **The number of a line only matters where it is reported.** -/
theorem ofLine_renumber (n : Nat) (l : Text) (p : Position) :
    ofLine t (f n) l p = (ofLine t n l p).mapError (Failure.renumber f) := by
  cases p with
  | running s => exact ofRules_renumber f s n l s.rules
  | ended => rfl
  | atEof => rfl

end Course

end

/-! ## Noise -/

/-- No rule matches the line, whatever state the run is in. -/
def Noise (t : Template) (l : Text) : Prop := ∀ s ∈ t.states, ∀ rule ∈ s.rules, rule.regex.search l = .ok none

instance (t : Template) (l : Text) : Decidable (Noise t l) :=
  inferInstanceAs (Decidable (∀ s ∈ t.states, ∀ rule ∈ s.rules, rule.regex.search l = .ok none))

section
variable {t : Template} {l : Text}

namespace Course

theorem ofRules_of_noise {s : State} {n : Nat} {rules : List Rule}
    (h : ∀ rule ∈ rules, rule.regex.search l = .ok none) :
    ofRules t s n l rules = .ok ⟨[], .running s⟩ := by
  induction rules with
  | nil => rfl
  | cons rule rules ih =>
    rw [List.forall_mem_cons] at h
    simp only [ofRules, h.1]
    exact ih h.2

/-- Nothing happens in a line of noise. -/
theorem ofLine_of_noise (h : Noise t l) {p : Position} (hp : p.Within t) (n : Nat) : ofLine t n l p = .ok ⟨[], p⟩ := by
  cases p with
  | running s => exact ofRules_of_noise (h s (hp s rfl))
  | ended => rfl
  | atEof => rfl

theorem ofLines_replicate (h : Noise t l) {p : Position} (hp : p.Within t) (ls : List Text) (k : Nat) :
    ∀ n : Nat, ofLines t n p (List.replicate k l ++ ls) = ofLines t (n + k) p ls := by
  induction k with
  | zero => intro n; rfl
  | succ k ih =>
    intro n
    rw [List.replicate_succ, List.cons_append, ofLines, ofLine_of_noise h hp, Nat.add_comm k, ← Nat.add_assoc, ← ih]
    simp only [Except.bind]
    cases ofLines t (n + 1) p (List.replicate k l ++ ls) <;> rfl

/-- **A run does not notice noise**, but for the numbers of the other lines. -/
theorem ofLines_spread (h : Noise t l) {f : Nat → Nat} (ls : List Text) : ∀ {c : Nat → Nat} {m n : Nat} {p : Position},
    p.Within t → (∀ i, f (n + i) = m + i + copies c (i + 1)) →
    ofLines t m p (spread l c ls ++ [[]]) = (ofLines t n p (ls ++ [[]])).mapError (Failure.renumber f) := by
  induction ls with
  | nil =>
    intro c m n p hp hf
    have hn : m + c 0 = f n := by
      have := hf 0
      simp [copies] at this
      omega
    rw [spread, ofLines_replicate h hp, List.nil_append, ofLines_singleton, ofLines_singleton, hn, ofLine_renumber]
  | cons x xs ih =>
    intro c m n p hp hf
    have hn : m + c 0 = f n := by
      have := hf 0
      simp [copies] at this
      omega
    rw [spread, List.append_assoc, List.cons_append, ofLines_replicate h hp, hn, List.cons_append, ofLines, ofLines,
      ofLine_renumber]
    rcases hline : ofLine t n x p with e | d
    · rfl
    · have hrest := @ih (fun i => c (i + 1)) (f n + 1) (n + 1) d.position (within_ofLine hp hline) (by
        intro i
        have := hf (i + 1)
        rw [Text.copies_succ] at this
        rw [show n + 1 + i = n + (i + 1) from by omega]
        omega)
      simp only [Except.mapError, Except.bind, hrest]
      cases ofLines t (n + 1) d.position (xs ++ [[]]) <;> rfl

end Course

/-- **Noise is not noticed.**  Where copies of a line that no rule matches are inserted between the lines of a text, in
    front of the first one or behind the last one, a run yields the same records and warnings; and if it fails, it fails
    in the same way, with the number of the line moved by the number of copies in front of it. -/
theorem extract_insertLines (hl : l.IsLine) (h : Noise t l) (c : Nat → Nat) (text : Text) :
    (∀ text' : Text, text'.inputLines = spread l c text.inputLines →
      extract t text' = (extract t text).mapError (Failure.renumber fun k => k + copies c k)) ∧
    (c text.inputLines.length = 0 ∨ ¬ "\r\r".toList <:+ text →
      extract t (text.insertLines l c) = (extract t text).mapError (Failure.renumber fun k => k + copies c k)) := by
  have hspread : ∀ text' : Text, text'.inputLines = spread l c text.inputLines →
      extract t text' = (extract t text).mapError (Failure.renumber fun k => k + copies c k) := by
    intro text' htext'
    have hthrough : Course.through t (spread l c text.inputLines ++ [[]]) =
        (Course.through t (text.inputLines ++ [[]])).mapError (Failure.renumber fun k => k + copies c k) := by
      unfold Course.through
      rcases hs : t.state? Template.startState with _ | s
      · rfl
      · refine Course.ofLines_spread h text.inputLines (Course.within_start hs) fun i => ?_
        rw [Nat.add_comm 1 i]
    rw [extract_eq, extract_eq, Course.ofText_eq_through, Course.ofText_eq_through, htext', hthrough]
    cases Course.through t (text.inputLines ++ [[]]) <;> rfl
  exact ⟨hspread, fun hlast => hspread _ (Text.inputLines_insertLines hl hlast)⟩

/-- Dashes in front of each line and behind the last one: the digit in the third line is rejected in the eighth. -/
theorem extract_insertLines_dashes :
    let source := "Value A (\\d)\n\nStart\n  ^a${A} -> Record\n  ^\\d -> Error\n".toList
    let text : Text := "a1\r\na2\n3".toList
    let l : Text := "--".toList
    let c : Nat → Nat := fun i => [1, 2, 2, 1].getD i 0
    ∃ t, Template.parse source = .ok t ∧ l.IsLine ∧ Noise t l ∧
      (c text.inputLines.length = 0 ∨ ¬ "\r\r".toList <:+ text) ∧
      text.insertLines l c = "--\na1\r\n--\n--\na2\n--\n--\n3\n--\n".toList ∧
      extract t text = .error (.rejected Template.startState 5 3 ['3'] none) ∧
      extract t (text.insertLines l c) = .error (.rejected Template.startState 5 8 ['3'] none) ∧
      (∀ text' : Text, text'.inputLines = spread l c text.inputLines →
        extract t text' = (extract t text).mapError (Failure.renumber fun k => k + copies c k)) ∧
      (c text.inputLines.length = 0 ∨ ¬ "\r\r".toList <:+ text →
        extract t (text.insertLines l c) =
          (extract t text).mapError (Failure.renumber fun k => k + copies c k)) := by
  intro source text l c
  have h : (Template.parse source).toOption.map (fun t =>
      (decide (Noise t l), extract t text, extract t (text.insertLines l c))) =
      some (true, .error (.rejected Template.startState 5 3 ['3'] none),
        .error (.rejected Template.startState 5 8 ['3'] none)) := by
    decide +kernel
  obtain ⟨t, ht, hruns⟩ := Template.exists_parse h
  obtain ⟨hnoise, hruns⟩ := Prod.mk.inj hruns
  obtain ⟨hplain, hinserted⟩ := Prod.mk.inj hruns
  have hl : l.IsLine := by decide
  have hn : Noise t l := of_decide_eq_true hnoise
  refine ⟨t, ht, hl, hn, ?_, ?_, hplain, hinserted, extract_insertLines hl hn c text⟩
  · right; decide
  · decide

end

end Extraction

end Readout
