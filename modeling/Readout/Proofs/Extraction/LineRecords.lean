/-
  One record for each line.

  * `Run.Emits`: in a place where every line gives rise to a row or to none, and leaves the slots as they were;
  * `Run.Emits.lines`, `Run.Emits.extract`: then the records are the rows of the lines, one for one and in order;
  * `Words.template`: the template whose records are the lines that are words;
  * `record_of_each_word`: what it extracts from a text, from the reading of the template to the last record.
-/
import Readout.Proofs.Extraction.Lines
import Readout.Proofs.Extraction.Stages
import Readout.Proofs.Regex.Walk
import Readout.Proofs.Text.Words

namespace Readout

/-! ## Words -/

instance : DecidablePred Text.IsSolid := fun t => inferInstanceAs (Decidable (∀ c ∈ t, Unicode.isSpace c = false))

instance : DecidablePred Text.IsWord := fun t => inferInstanceAs (Decidable (t ≠ [] ∧ t.IsSolid))

/-- A text without carriage returns is not cut at the ends of its lines. -/
theorem Text.inputLines_of_notMem {t : Text} (h : '\r' ∉ t) : inputLines t = t.feedPieces := by
  have hsame {u : Text} (hu : '\r' ∉ u) : dropReturn u = u :=
    if_neg fun hlast => hu (List.mem_of_getLast? hlast)
  have hended : ∀ l ∈ t.ended, '\r' ∉ l := fun l hl hmem =>
    h ((infix_of_mem_ended hl).subset (List.mem_append_left _ hmem))
  have hunended : ∀ l ∈ t.unended, '\r' ∉ l := fun l hl hmem => h ((suffix_of_mem_unended hl).subset hmem)
  rw [inputLines_eq, feedPieces]
  congr 1
  · refine (List.map_congr_left fun l hl => ?_).trans (List.map_id _)
    rw [hsame (hended l hl), hsame (hended l hl)]
    rfl
  · exact (List.map_congr_left fun l hl => hsame (hunended l hl)).trans (List.map_id _)

/-- The pieces of a text that are not empty are those that count as lines. -/
theorem Text.filter_feedPieces {p : Text → Bool} (hp : p [] = false) (t : Text) :
    t.feedPieces.filter p = (pieces '\n' t).filter p := by
  obtain ⟨last, hpieces, hunended⟩ := exists_pieces t
  rw [feedPieces, hpieces, hunended, List.filter_append, List.filter_append]
  cases last with
  | nil => simp [openLine, hp]
  | cons c last => rfl

namespace Regex.Node

/-- At least one character, and all of them of the set. -/
theorem matches_some {s : CharSet} {greedy : Bool} {t : Text} :
    (loop (set s) 1 none greedy).Matches t 0 t.length ↔ t ≠ [] ∧ ∀ c ∈ t, s.contains c := by
  rw [(denotes_set s).loop 1 none greedy t 0 t.length]
  constructor
  · rintro ⟨u, ⟨k, hk, -, hu⟩, hspans⟩
    obtain rfl := spans_all.1 hspans
    obtain ⟨hlength, hall⟩ := CharSet.mem_language_pow.1 hu
    exact ⟨List.length_pos_iff.1 (by omega), hall⟩
  · rintro ⟨hne, hall⟩
    exact ⟨t, ⟨t.length, List.length_pos_iff.2 hne, nofun, CharSet.mem_language_pow.2 ⟨rfl, hall⟩⟩, spans_all.2 rfl⟩

/-- Nothing between the start and the end of a text: that is the empty text. -/
theorem matches_blank {t : Text} {i j : Nat} :
    (seq (anchor .textStart) (anchor .textEnd)).Matches t i j ↔ i = 0 ∧ j = 0 ∧ t = [] := by
  simp only [Matches, holdsAt_textStart, holdsAt_textEnd]
  constructor
  · rintro ⟨_, ⟨rfl, rfl⟩, rfl, hend⟩
    exact ⟨rfl, rfl, List.length_eq_zero_iff.1 hend.symm⟩
  · rintro ⟨rfl, rfl, rfl⟩
    exact ⟨0, ⟨rfl, rfl⟩, rfl, rfl⟩

end Regex.Node

namespace Extraction

open Template (State Value Rule)

/-! ## Rows of lines -/

/-- In a place and with slots that every line leaves as they are: does a line give rise to the row that `rowOf` tells,
    or to none? -/
def Run.Emits (t : Template) (p : Position) (slots : List Slot) (rowOf : Text → Option Row) : Prop :=
  ∀ n l rows, Run.line t n l ⟨p, slots, rows⟩ = .ok ⟨p, slots, (rowOf l).toList ++ rows⟩

section
variable {t : Template} {p : Position} {slots : List Slot} {rowOf : Text → Option Row}

/-- **The rows of lines**, the last one first. -/
theorem Run.Emits.lines (h : Run.Emits t p slots rowOf) (ls : List Text) : ∀ n rows,
    Run.lines t n ⟨p, slots, rows⟩ ls = .ok ⟨p, slots, (ls.filterMap rowOf).reverse ++ rows⟩ := by
  induction ls with
  | nil => intro n rows; rfl
  | cons l ls ih =>
    intro n rows
    rw [Run.lines, h, Except.bind, ih, List.filterMap_cons]
    cases rowOf l <;> simp

/-- A run that is in such a place from its start yields the rows of its lines; the end of the input adds nothing if an
    empty line has no row and the slots are unset. -/
theorem Run.Emits.extract (h : Run.Emits t p slots rowOf) (hstart : Run.start t = .ok ⟨p, slots, []⟩)
    (hblank : rowOf [] = none) (hunset : slots.all Slot.isUnset) (hrequired : ∀ v ∈ t.values, v.has .required = false)
    (text : Text) : extract t text =
      .ok { records := (text.inputLines.filterMap rowOf).map fun row => t.header.zip row, warnings := [] } := by
  have hlacks (r : Run) : r.lacksRequired t.values = false := by
    rw [lacksRequired, List.any_eq_false]
    rintro ⟨v, s⟩ hv
    simp [hrequired v (List.of_mem_zip hv).1]
  have hclose (rows : List Row) : Run.close t ⟨p, slots, rows⟩ = ⟨p, slots, rows⟩ := by
    rw [close]
    split
    · rfl
    · rw [emit, hlacks, if_neg Bool.false_ne_true, if_pos hunset]
  have hnone (q : Nat → Bool) : (t.values.zipIdx.filter fun x => x.1.has .required && q x.2) = [] := by
    rw [List.filter_eq_nil_iff]
    intro x hx
    simp [hrequired x.1 (List.fst_mem_of_mem_zipIdx hx)]
  have houtcome (rows : List Row) : Run.outcome t ⟨p, slots, rows⟩ =
      { records := rows.reverse.map fun row => t.header.zip row, warnings := [] } := by
    rw [outcome, hnone fun i => rows.all fun row => !row[i]?.any (!·.isEmpty)]
    rfl
  have hrows : (text.inputLines ++ [[]]).filterMap rowOf = text.inputLines.filterMap rowOf := by
    rw [List.filterMap_append, List.filterMap_cons_none hblank, List.filterMap_nil, List.append_nil]
  rw [extract_eq_through, through, hstart, Except.bind, h.lines, hrows, Except.map, hclose, houtcome, List.append_nil,
    List.reverse_reverse]

end

/-! ## A record for each word -/

namespace Words

/-- The lines of a template with one column: a line that is a word is a record. -/
def source : List Text :=
  ["Value NAME (\\S+)".toList, [], "Start".toList, "  ^${NAME}$$ -> Record".toList, "  ^$$ -> Record".toList]

/-- The rule that captures a word. -/
def wordRule : Rule where
  source := "^${NAME}$$".toList
  expanded := "^(?P<NAME>\\S+)$".toList
  regex := ⟨.whole 1 (.loop (.set (.compl .space)) 1 none true), [("NAME".toList, 1)]⟩
  action := { record := .record }
  bindings := [0]
  line := 4

/-- The rule for the empty line. -/
def blankRule : Rule where
  source := "^$$".toList
  expanded := "^$".toList
  regex := ⟨.seq (.anchor .textStart) (.anchor .textEnd), []⟩
  action := { record := .record }
  bindings := []
  line := 5

def start : State := ⟨Template.startState, [wordRule, blankRule]⟩

/-- What these lines are read as. -/
def template : Template := ⟨[{ name := "NAME".toList, pattern := "(\\S+)".toList }], [start]⟩

/-- The row of a line. -/
def row? (l : Text) : Option Row := if l.IsWord then some [.single l] else none

theorem parse_eq {t : Text} (h : t.lines = source) : Template.parse t = .ok template := by
  have hread : ((((source.mapIdx fun i l => (i + 1, l)).map fun x => (x.1, Text.trimEnd x.2)).foldlM
      Template.Reading.readLine {}).bind Template.Reading.finish).bind Template.check = .ok template := by
    decide +kernel
  rw [Template.parse, Text.numberedLines, h]
  exact hread

theorem search_wordRule {l : Text} :
    (l.IsWord → ∃ cs, wordRule.regex.search l = .ok (some ⟨0, ⟨1, 0, l.length⟩ :: cs⟩)) ∧
    (¬ l.IsWord → wordRule.regex.search l = .ok none) := by
  have hmatches : (Regex.Node.loop (.set (.compl .space)) 1 none true).Matches l 0 l.length ↔ l.IsWord := by
    rw [Regex.Node.matches_some]
    simp [Text.IsWord, Text.IsSolid, Regex.CharSet.contains]
  obtain ⟨hword, hnone⟩ := Regex.Node.search_whole l 1 (.loop (.set (.compl .space)) 1 none true)
  have hsearch : wordRule.regex.search l =
      .ok ((Regex.Node.whole 1 (.loop (.set (.compl .space)) 1 none true)).search l) := if_pos rfl
  rw [hmatches] at hword hnone
  rw [hsearch]
  refine ⟨fun h => ?_, fun h => by rw [hnone h]⟩
  obtain ⟨cs, hcs⟩ := hword h
  exact ⟨cs, by rw [hcs]⟩

theorem search_blankRule {l : Text} (h : l ≠ []) : blankRule.regex.search l = .ok none := by
  have hsearch : blankRule.regex.search l =
      .ok ((Regex.Node.seq (.anchor .textStart) (.anchor .textEnd)).search l) := if_pos rfl
  rw [hsearch, Regex.Node.search_eq_none]
  intro hoccurs
  obtain ⟨i, j, hmatch, -⟩ := Regex.Node.occurs_iff.1 hoccurs
  exact h (Regex.Node.matches_blank.1 hmatch).2.2

/-- A line that is a word is emitted; an empty one matches, but there is nothing to emit; any other one is skipped. -/
theorem emits : Run.Emits template (.running start) [.scalar none] row? := by
  intro n l rows
  have hline : Run.line template n l ⟨.running start, [.scalar none], rows⟩ =
      Run.tryRules template start n l ⟨.running start, [.scalar none], rows⟩ [wordRule, blankRule] := rfl
  rw [hline, Run.tryRules]
  by_cases hword : l.IsWord
  · obtain ⟨cs, hcs⟩ := search_wordRule.1 hword
    have hcapture : wordRule.regex.capture? l ⟨0, ⟨1, 0, l.length⟩ :: cs⟩ "NAME".toList = some l :=
      congrArg some (List.take_length : Regex.Capture.text l ⟨1, 0, l.length⟩ = l)
    have hbind (r : Run) : r.bind template.values wordRule l ⟨0, ⟨1, 0, l.length⟩ :: cs⟩ =
        r.assign template.values 0 l := by
      have hone : r.bind template.values wordRule l ⟨0, ⟨1, 0, l.length⟩ :: cs⟩ =
          (wordRule.regex.capture? l ⟨0, ⟨1, 0, l.length⟩ :: cs⟩ "NAME".toList).elim r
            (r.assign template.values 0) := rfl
      rw [hone, hcapture, Option.elim_some]
    have hassign : Run.assign template.values ⟨.running start, [.scalar none], rows⟩ 0 l =
        ⟨.running start, [.scalar (some l)], rows⟩ := by
      rw [Run.assign, if_neg]
      · rfl
      · exact fun h => absurd (Bool.and_eq_true_iff.1 h).2 (by decide)
    rw [hcs, row?, if_pos hword]
    simp only [hbind, hassign]
    rfl
  · rw [search_wordRule.2 hword, row?, if_neg hword]
    simp only [Run.tryRules]
    by_cases hblank : l = []
    · subst hblank
      rfl
    · rw [search_blankRule hblank]
      rfl

theorem records_eq (ls : List Text) : (ls.filterMap row?).map (fun row => template.header.zip row) =
    (ls.filter (·.IsWord)).map fun l => [("NAME".toList, .single l)] := by
  induction ls with
  | nil => rfl
  | cons l ls ih =>
    by_cases hword : l.IsWord
    · have hrow : row? l = some [.single l] := if_pos hword
      rw [List.filterMap_cons_some hrow, List.filter_cons_of_pos (by simpa using hword), List.map_cons, ih]
      rfl
    · have hrow : row? l = none := if_neg hword
      rw [List.filterMap_cons_none hrow, List.filter_cons_of_neg (by simpa using hword), ih]

theorem extract_template (text : Text) : extract template text = .ok
    { records := (text.inputLines.filter (·.IsWord)).map fun l => [("NAME".toList, .single l)], warnings := [] } := by
  rw [emits.extract rfl (by decide) rfl (by decide), records_eq]

/-- **Every line that is a word is a record, and nothing else is.**  The lines are those between the line feeds, if no
    carriage return stands in the text; the empty line at the end of the input and the emission behind it add none. -/
theorem record_of_each_word {written : Text} (h : written.lines = source) :
    ∃ t, Template.parse written = .ok t ∧
      (∀ text, extract t text = .ok
        { records := (text.inputLines.filter (·.IsWord)).map fun l => [("NAME".toList, .single l)], warnings := [] }) ∧
      ∀ text, '\r' ∉ text → extract t text = .ok
        { records := ((text.pieces '\n').filter (·.IsWord)).map fun l => [("NAME".toList, .single l)],
          warnings := [] } := by
  refine ⟨template, parse_eq h, extract_template, fun text hreturn => ?_⟩
  rw [extract_template, Text.inputLines_of_notMem hreturn, Text.filter_feedPieces (by decide)]

/-- Words in lines of their own, a line that is empty and one that has a blank, and no line feed at the end. -/
theorem record_of_each_word_alpha : ∃ t, Template.parse (Text.unlines source) = .ok t ∧
    extract t "alpha\n\nb c\ngamma".toList = .ok
      { records := [[("NAME".toList, .single "alpha".toList)], [("NAME".toList, .single "gamma".toList)]],
        warnings := [] } := by
  obtain ⟨t, ht, -, hrun⟩ := @record_of_each_word (Text.unlines source) (by decide)
  exact ⟨t, ht, (hrun "alpha\n\nb c\ngamma".toList (by decide)).trans (by decide)⟩

end Words

end Extraction

end Readout
