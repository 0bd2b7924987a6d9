/-
  The layout of a template does not matter.

  * `AtLineStart`, `LineEnd`: where a line starts, and where one ends;
  * `Relaid`: one change of the layout, be it a comment, white space at the end of a line, a blank line next to another
    one, a carriage return in front of every line feed, or a line feed at the end;
  * `readPieces`: what counts of the text between line feeds; `readPieces_append`: each line by itself;
  * `parseLines_blanks`, `parseLines_concat_nil`: blank lines in a row are as good as one, and the end of a template is
    as good as a blank line;
  * `unnumber_parse_of_relaid`: a change of the layout changes numbers of lines only, `parse_relaid`: so do several.
-/
import Mathlib.Logic.Relation
import Readout.Proofs.Template.Description

namespace Readout.Template

open Text (pieces trimEnd)
open Unicode (isSpace)

/-! ## Changes of the layout -/

/-- Does a line start behind the text? -/
def AtLineStart (t : Text) : Prop := t = [] ∨ ∃ u, t = u ++ ['\n']

/-- Does a line end in front of the text? -/
inductive LineEnd : Text → Prop
  | last : LineEnd []
  | feed (t : Text) : LineEnd ('\n' :: t)
  | returnFeed (t : Text) : LineEnd ('\r' :: '\n' :: t)

/-- Is the text white space of one line? -/
def IsBlank (t : Text) : Prop := (∀ c ∈ t, isSpace c) ∧ '\n' ∉ t

instance : DecidablePred IsBlank := fun _ => inferInstanceAs (Decidable (_ ∧ _))

/-- The text with a carriage return in front of every line feed. -/
def withReturns (t : Text) : Text := t.flatMap fun c => if c = '\n' then ['\r', '\n'] else [c]

/-- One change of the layout of a source. -/
inductive Relaid : Text → Text → Prop
  /-- a comment, as a line of its own -/
  | comment {before c : Text} (after : Text) (hstart : AtLineStart before) (hc : isComment c) (hfeed : '\n' ∉ c) :
      Relaid (before ++ after) (before ++ (c ++ '\n' :: after))
  /-- a comment that no line feed ends -/
  | lastComment {before c : Text} (hstart : AtLineStart before) (hc : isComment c) (hfeed : '\n' ∉ c) :
      Relaid before (before ++ c)
  /-- a line feed at the end -/
  | feed (source : Text) : Relaid source (source ++ ['\n'])
  /-- white space at the end of a line -/
  | padding (before : Text) {w after : Text} (hw : IsBlank w) (hend : LineEnd after) :
      Relaid (before ++ after) (before ++ (w ++ after))
  /-- two blank lines in place of one -/
  | blank {before l u v after : Text} (hstart : AtLineStart before) (hl : IsBlank l) (hu : IsBlank u)
      (hv : IsBlank v) (hend : LineEnd after) : Relaid (before ++ (l ++ after)) (before ++ (u ++ '\n' :: (v ++ after)))
  /-- a carriage return in front of every line feed -/
  | returns (source : Text) : Relaid source (withReturns source)

/-! ## What counts of a source -/

/-- What counts of the text between line feeds, with that behind the last one. -/
def readPieces (source : Text) : List Text := ((pieces '\n' source).map trimEnd).filter fun l => !isComment l

theorem readPieces_append (u t : Text) : readPieces (u ++ '\n' :: t) = readPieces u ++ readPieces t := by
  rw [readPieces, Text.pieces_append_sep, List.map_append, List.filter_append]; rfl

/-- In front of a line, what counts does not depend on the line. -/
theorem exists_readPieces_append {before : Text} (h : AtLineStart before) :
    ∃ ls, ∀ t, readPieces (before ++ t) = ls ++ readPieces t := by
  rcases h with rfl | ⟨u, rfl⟩
  · exact ⟨[], fun t => rfl⟩
  · refine ⟨readPieces u, fun t => ?_⟩
    rw [List.append_assoc, List.singleton_append, readPieces_append]

theorem isComment_iff {t : Text} : isComment t ↔ ∃ w u, t = w ++ '#' :: u ∧ ∀ c ∈ w, isSpace c := by
  unfold isComment
  rw [beq_iff_eq]
  constructor
  · intro h
    obtain ⟨u, hu⟩ := List.head?_eq_some_iff.1 h
    refine ⟨t.takeWhile isSpace, u, ?_, fun c => List.mem_takeWhile_imp⟩
    rw [← hu, Text.trimStart, List.takeWhile_append_dropWhile]
  · rintro ⟨w, u, rfl, hw⟩
    rw [Text.trimStart_append hw]; rfl

theorem isComment_trimEnd {t : Text} (h : isComment t) : isComment (trimEnd t) := by
  obtain ⟨w, u, rfl, hw⟩ := isComment_iff.1 h
  have hhash : trimEnd ('#' :: u) = '#' :: trimEnd u := Text.trimEnd_cons_of_solid (by decide) u
  rw [Text.trimEnd_append (by rw [hhash]; exact List.cons_ne_nil _ _), hhash]
  exact isComment_iff.2 ⟨w, _, rfl, hw⟩

theorem readPieces_of_isComment {c : Text} (hc : isComment c) (hfeed : '\n' ∉ c) : readPieces c = [] := by
  rw [readPieces, Text.pieces_of_notMem hfeed, List.map_singleton,
    List.filter_cons_of_neg (by simp [isComment_trimEnd hc]), List.filter_nil]

/-- A character in front is put to what counts of the first piece. -/
theorem map_trimEnd_consHead {ps qs : List Text} (h : ps.map trimEnd = qs.map trimEnd) (c : Char) :
    (Text.consHead c ps).map trimEnd = (Text.consHead c qs).map trimEnd := by
  rcases ps with _ | ⟨p, ps⟩ <;> rcases qs with _ | ⟨q, qs⟩
  · rfl
  · cases h
  · cases h
  · obtain ⟨hhead, htail⟩ := List.cons.inj h
    simp only [Text.consHead, List.map_cons, Text.trimEnd_cons, hhead, htail]

/-- White space at the end does not count. -/
theorem readPieces_append_of_isBlank {w : Text} (hw : IsBlank w) (t : Text) :
    readPieces (t ++ w) = readPieces t := by
  have hmap : ∀ t : Text, (pieces '\n' (t ++ w)).map trimEnd = (pieces '\n' t).map trimEnd := by
    intro t
    induction t with
    | nil =>
      rw [List.nil_append, Text.pieces_of_notMem hw.2, List.map_singleton, Text.trimEnd_of_isSpace hw.1]; rfl
    | cons c t ih =>
      rw [List.cons_append, pieces, pieces]
      split
      · rw [List.map_cons, ih]; rfl
      · exact map_trimEnd_consHead ih c
  rw [readPieces, hmap, readPieces]

theorem readPieces_of_isBlank {w : Text} (hw : IsBlank w) : readPieces w = [[]] :=
  readPieces_append_of_isBlank hw []

/-- White space at the end of a line does not count. -/
theorem readPieces_padded {w after : Text} (hw : IsBlank w) (hend : LineEnd after) (before : Text) :
    readPieces (before ++ (w ++ after)) = readPieces (before ++ after) := by
  rw [← List.append_assoc]
  cases hend with
  | last => rw [List.append_nil, List.append_nil, readPieces_append_of_isBlank hw]
  | feed t => rw [readPieces_append, readPieces_append, readPieces_append_of_isBlank hw]
  | returnFeed t =>
    have hreturn : IsBlank ['\r'] := by decide
    rw [List.append_cons _ '\r', List.append_cons before '\r', readPieces_append, readPieces_append,
      readPieces_append_of_isBlank hreturn, readPieces_append_of_isBlank hreturn, readPieces_append_of_isBlank hw]

/-- White space up to the end of a line counts as a blank line. -/
theorem exists_readPieces_blank {after : Text} (hend : LineEnd after) :
    ∃ ls, ∀ w, IsBlank w → readPieces (w ++ after) = [] :: ls := by
  have hpadded {w : Text} (hw : IsBlank w) : readPieces (w ++ after) = readPieces after := readPieces_padded hw hend []
  cases hend with
  | last => exact ⟨[], fun w hw => hpadded hw⟩
  | feed t => exact ⟨readPieces t, fun w hw => (hpadded hw).trans (readPieces_append [] t)⟩
  | returnFeed t => exact ⟨readPieces t, fun w hw => (hpadded hw).trans (readPieces_append ['\r'] t)⟩

theorem readPieces_withReturns (t : Text) : readPieces (withReturns t) = readPieces t := by
  have hmap : (pieces '\n' (withReturns t)).map trimEnd = (pieces '\n' t).map trimEnd := by
    induction t with
    | nil => rfl
    | cons c t ih =>
      rw [withReturns, List.flatMap_cons, ← withReturns, pieces]
      split
      · rename_i hfeed
        rw [show ['\r', '\n'] ++ withReturns t = ['\r'] ++ '\n' :: withReturns t from rfl, Text.pieces_append_sep,
          List.map_append, ih]
        rfl
      · rename_i hfeed
        rw [List.singleton_append, pieces, if_neg hfeed]
        exact map_trimEnd_consHead ih c
  rw [readPieces, hmap, readPieces]

/-! ## Blank lines -/

namespace Reading

section
variable {r q : Reading} {start : Nat} {name : Text} {rules : List Rule}

theorem part_of_addState (h : r.addState start name rules = .ok q) : q.part = .between := by
  unfold addState at h
  split at h <;> cases h
  rfl

/-- A blank line ends a state. -/
theorem read_nil_of_rules (hpart : r.part = .rules start name rules) :
    r.read [] = (r.addState start name rules).bind fun q => .ok { q with last := 0 } := by
  unfold read readLine
  rw [hpart]
  rfl

theorem finish_of_rules (hpart : r.part = .rules start name rules) :
    r.finish = (r.addState start name rules).map fun q => ⟨q.values, q.states⟩ := by
  unfold finish
  rw [hpart]

theorem finish_of_between (hpart : r.part = .between) : r.finish = .ok ⟨r.values, r.states⟩ := by
  unfold finish
  rw [hpart]

/-- Behind a blank line, a state may follow. -/
theorem between_of_read_nil (h : r.read [] = .ok q) : q.part = .between ∧ q.last = 0 := by
  refine ⟨?_, last_of_read h⟩
  rcases hpart : r.part with _ | _ | ⟨start, name, rules⟩
  · obtain ⟨values, states, part, last⟩ := r
    cases hpart
    cases values <;> cases h
    rfl
  · obtain ⟨values, states, part, last⟩ := r
    cases hpart
    cases h
    rfl
  · rw [read_nil_of_rules hpart] at h
    obtain ⟨p, hadd, h⟩ := exists_of_bind h
    have hbetween := part_of_addState hadd
    cases h
    exact hbetween

end

/-- Nothing comes of a blank line between states. -/
theorem read_nil_of_between {r : Reading} (hpart : r.part = .between) (hlast : r.last = 0) : r.read [] = .ok r := by
  obtain ⟨values, states, part, last⟩ := r
  cases hpart
  cases hlast
  rfl

/-- **Blank lines in a row are as good as one.** -/
theorem readTo_blanks (r : Reading) (ls : List Text) : r.readTo ([] :: [] :: ls) = r.readTo ([] :: ls) := by
  rw [readTo_cons, readTo_cons]
  rcases h : r.read [] with e | q
  · rfl
  · obtain ⟨hpart, hlast⟩ := between_of_read_nil h
    have hagain := readTo_cons q [] ls
    rw [read_nil_of_between hpart hlast] at hagain
    exact hagain

/-- **The end of a template is as good as a blank line.** -/
theorem readTo_blank {r : Reading} (hlast : r.last = 0) : r.readTo [[]] = r.finish := by
  rw [readTo_cons]
  rcases hpart : r.part with _ | _ | ⟨start, name, rules⟩
  · obtain ⟨values, states, part, last⟩ := r
    cases hpart
    cases hlast
    cases values <;> rfl
  · rw [read_nil_of_between hpart hlast]; rfl
  · rw [read_nil_of_rules hpart, finish_of_rules hpart]
    rcases hadd : r.addState start name rules with e | p
    · rfl
    · have hbetween := part_of_addState hadd
      exact finish_of_between (r := { p with last := 0 }) hbetween

theorem last_of_foldlM : ∀ {ls : List Text} {r q : Reading}, r.last = 0 → ls.foldlM read r = .ok q → q.last = 0
  | [], _, _, hr, h => by cases h; exact hr
  | l :: ls, r, q, _, h => by
    rw [List.foldlM_cons] at h
    obtain ⟨p, hread, h⟩ := exists_of_bind h
    exact last_of_foldlM (last_of_read hread) h

theorem readTo_append (r : Reading) (ls ls' : List Text) :
    r.readTo (ls ++ ls') = (ls.foldlM read r).bind (readTo · ls') := by
  unfold readTo
  rw [List.foldlM_append]
  cases h : ls.foldlM read r <;> rfl

end Reading

theorem parseLines_eq (ls : List Text) : parseLines ls = (Reading.readTo {} ls).bind check := rfl

theorem parseLines_blanks (ls ls' : List Text) : parseLines (ls ++ [] :: [] :: ls') = parseLines (ls ++ [] :: ls') := by
  simp only [parseLines_eq, Reading.readTo_append, Reading.readTo_blanks]

theorem parseLines_concat_nil (ls : List Text) : parseLines (ls ++ [[]]) = parseLines ls := by
  rw [parseLines_eq, parseLines_eq, Reading.readTo_append, Reading.readTo]
  rcases h : ls.foldlM Reading.read {} with e | q
  · rfl
  · exact congrArg (Except.bind · check) (Reading.readTo_blank (Reading.last_of_foldlM rfl h))

/-! ## Sources -/

/-- **But for the numbers, a source is read as what counts of it**, be its last line ended or not. -/
theorem unnumber_parse_eq (source : Text) : unnumber unnumbered (parse source) = parseLines (readPieces source) := by
  obtain ⟨init, last, hpieces⟩ : ∃ init last, pieces '\n' source = init ++ [last] :=
    ⟨_, _, (List.dropLast_append_getLast (Text.pieces_ne_nil '\n' source)).symm⟩
  have hinit : (init.map Text.dropReturn).map trimEnd = init.map trimEnd := by
    rw [List.map_map]
    exact List.map_congr_left fun l _ => Text.trimEnd_dropReturn l
  rw [unnumber_parse, readLines, readPieces, Text.lines_of_pieces hpieces, hpieces, List.map_append, hinit,
    List.map_append]
  cases last with
  | nil =>
    rw [List.filter_append, List.filter_append]
    exact (congrArg parseLines (List.append_nil _)).trans (parseLines_concat_nil _).symm
  | cons c t => rfl

/-- **A change of the layout changes numbers of lines only.** -/
theorem unnumber_parse_of_relaid {a b : Text} (h : Relaid a b) :
    unnumber unnumbered (parse b) = unnumber unnumbered (parse a) := by
  rw [unnumber_parse_eq, unnumber_parse_eq]
  cases h with
  | comment after hstart hc hfeed =>
    obtain ⟨ls, hls⟩ := exists_readPieces_append hstart
    rw [hls, hls, readPieces_append, readPieces_of_isComment hc hfeed]; rfl
  | lastComment hstart hc hfeed =>
    obtain ⟨ls, hls⟩ := exists_readPieces_append hstart
    have hbefore := hls []
    rw [List.append_nil] at hbefore
    rw [hls, hbefore, readPieces_of_isComment hc hfeed, List.append_nil]
    exact (parseLines_concat_nil ls).symm
  | feed => rw [readPieces_append]; exact parseLines_concat_nil _
  | padding before hw hend => rw [readPieces_padded hw hend]
  | blank hstart hl hu hv hend =>
    obtain ⟨ls, hls⟩ := exists_readPieces_append hstart
    obtain ⟨ls', hls'⟩ := exists_readPieces_blank hend
    rw [hls, hls, readPieces_append, readPieces_of_isBlank hu, hls' _ hl, hls' _ hv]
    exact parseLines_blanks ls ls'
  | returns => rw [readPieces_withReturns]

/-- **The layout of a template does not matter.**  Comments between any two lines, white space at the ends of lines,
carriage returns in front of all line feeds, and blank lines next to others change nothing but numbers of lines, in a
template that is accepted and in the reason to refuse one. -/
theorem parse_relaid {a b : Text} (h : Relation.ReflTransGen Relaid a b) :
    unnumber unnumbered (parse b) = unnumber unnumbered (parse a) := by
  induction h with
  | refl => rfl
  | tail _ hlast ih => rw [unnumber_parse_of_relaid hlast, ih]

/-- The values of a template. -/
def plainValues : Text := "Value A (\\w)\n".toList

/-- The template with a comment in front, two blank lines behind its values, and carriage returns. -/
def roomy (t : Text) : Text :=
  withReturns ("\t# A".toList ++ '\n' :: (plainValues ++ (" ".toList ++ '\n' :: '\n' :: t)))

theorem relaid_roomy (t : Text) : Relation.ReflTransGen Relaid (plainValues ++ '\n' :: t) (roomy t) := by
  have hstart : AtLineStart plainValues := .inr ⟨"Value A (\\w)".toList, by decide⟩
  have hblank : Relaid (plainValues ++ '\n' :: t) (plainValues ++ (" ".toList ++ '\n' :: '\n' :: t)) :=
    .blank (l := []) (v := []) hstart (by decide) (by decide) (by decide) (.feed t)
  have hcomment : Relaid (plainValues ++ (" ".toList ++ '\n' :: '\n' :: t))
      ("\t# A".toList ++ '\n' :: (plainValues ++ (" ".toList ++ '\n' :: '\n' :: t))) :=
    @Relaid.comment [] "\t# A".toList _ (.inl rfl) (by decide) (by decide)
  exact .head hblank (.head hcomment (.single (.returns _)))

/-- A template that is accepted, and one that is refused for a state that is not there: their numbers change. -/
theorem parse_relaid_roomy :
    let rule := "Start\n  ^${A} -> Record".toList
    let lost := "Start\n  ^${A} -> Gone".toList
    unnumber unnumbered (parse (roomy rule)) = unnumber unnumbered (parse (plainValues ++ '\n' :: rule)) ∧
      (parse (roomy rule)).toOption.isSome ∧ parse (roomy rule) ≠ parse (plainValues ++ '\n' :: rule) ∧
    unnumber unnumbered (parse (roomy lost)) = unnumber unnumbered (parse (plainValues ++ '\n' :: lost)) ∧
      parse (roomy lost) = .error (.undefinedState 6 "Start".toList "Gone".toList) ∧
      parse (plainValues ++ '\n' :: lost) = .error (.undefinedState 4 "Start".toList "Gone".toList) :=
  ⟨parse_relaid (relaid_roomy _), by decide +kernel, by decide +kernel, parse_relaid (relaid_roomy _),
    by decide +kernel, by decide +kernel⟩

end Readout.Template
