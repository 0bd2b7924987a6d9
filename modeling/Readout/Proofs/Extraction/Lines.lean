/-
  The lines that the rules of a template see.

  * `Text.ended`, `Text.unended`: the pieces of a text that a line feed ends, and the last one if none does;
  * `inputLines_eq`: a piece that is ended loses up to two carriage returns, the last one no more than one;
  * `extractLines`: a run over given lines;
  * `extract_pieces`: what a run sees is the pieces of its text without a carriage return at their ends, and a line
    feed at the end of the text changes nothing, unless two carriage returns stand in front of it;
  * `second_return_lost`: where they do, the last line depends on the line feed behind it.
-/
import Readout.Proofs.Extraction.Records
import Readout.Proofs.Text.Lines

namespace Readout

namespace Text

variable {t : Text}

/-- The pieces of a text that a line feed ends. -/
def ended (t : Text) : List Text := (pieces '\n' t).dropLast

/-- The piece behind the last line feed, unless it is empty. -/
def unended (t : Text) : List Text := openLine (pieces '\n' t).getLast?

/-- The pieces of a text between its line feeds, without a last one that is empty. -/
def feedPieces (t : Text) : List Text := t.ended ++ t.unended

theorem inputLines_eq (t : Text) :
    inputLines t = (t.ended.map fun l => dropReturn (dropReturn l)) ++ t.unended.map dropReturn := by
  rw [inputLines, lines, List.map_append, List.map_map]
  rfl

/-- The pieces of a text, told apart. -/
theorem exists_pieces (t : Text) :
    ∃ last, pieces '\n' t = t.ended ++ [last] ∧ t.unended = openLine (some last) := by
  have hne := pieces_ne_nil '\n' t
  refine ⟨(pieces '\n' t).getLast hne, (List.dropLast_concat_getLast hne).symm, ?_⟩
  rw [unended, List.getLast?_eq_some_getLast hne]

/-- A piece that is ended stands in the text, with its line feed. -/
theorem infix_of_mem_ended {l : Text} (h : l ∈ t.ended) : l ++ ['\n'] <:+: t := by
  obtain ⟨last, hpieces, -⟩ := exists_pieces t
  have ht := eq_of_pieces hpieces
  obtain ⟨before, after, hsplit⟩ := List.append_of_mem h
  refine ⟨before.flatMap (· ++ ['\n']), after.flatMap (· ++ ['\n']) ++ last, ?_⟩
  rw [ht, hsplit]
  simp

theorem suffix_of_mem_unended {l : Text} (h : l ∈ t.unended) : l <:+ t := by
  obtain ⟨last, hpieces, hlast⟩ := exists_pieces t
  rw [hlast] at h
  have ht := eq_of_pieces hpieces
  cases last with
  | nil => cases h
  | cons c last =>
    rw [openLine, List.mem_singleton] at h
    · rw [h, ht]
      exact List.suffix_append _ _
    · simp

/-- Two carriage returns stand at the end of a text that loses both. -/
theorem dropReturn_dropReturn (h : ¬ ['\r', '\r'] <:+ t) : dropReturn (dropReturn t) = dropReturn t := by
  by_cases hlast : t.getLast? = some '\r'
  · obtain ⟨u, rfl⟩ := List.getLast?_eq_some_iff.1 hlast
    have hu : dropReturn (u ++ ['\r']) = u := by rw [dropReturn, if_pos hlast, List.dropLast_concat]
    rw [hu, dropReturn, if_neg]
    intro hreturn
    obtain ⟨w, rfl⟩ := List.getLast?_eq_some_iff.1 hreturn
    exact h ⟨w, by simp⟩
  · have hsame : dropReturn t = t := if_neg hlast
    rw [hsame, hsame]

/-- A line feed at the end of a text ends its last piece. -/
theorem ended_concat (h : t ≠ []) (hlast : t.getLast? ≠ some '\n') :
    ended (t ++ ['\n']) = t.ended ++ t.unended ∧ unended (t ++ ['\n']) = [] := by
  obtain ⟨last, hpieces, hunended⟩ := exists_pieces t
  have ht := eq_of_pieces hpieces
  have hne : last ≠ [] := by
    rintro rfl
    rw [List.append_nil] at ht
    rcases t.ended.eq_nil_or_concat with hnil | ⟨init, p, hconcat⟩
    · rw [hnil] at ht
      exact h ht
    · rw [hconcat, List.concat_eq_append, List.flatMap_append, List.flatMap_singleton, ← List.append_assoc] at ht
      rw [ht, List.getLast?_concat] at hlast
      exact hlast rfl
  have hopen : openLine (some last) = [last] := by
    rw [openLine]
    simpa using hne
  rw [hunended, hopen, ← hpieces]
  constructor
  · rw [ended, pieces_concat, List.dropLast_concat]
  · rw [unended, pieces_concat, List.getLast?_concat]
    rfl

end Text

namespace Extraction

open Text (dropReturn ended unended feedPieces)

/-- Runs a template over lines; the end of the input counts as one more line. -/
def extractLines (t : Template) (ls : List Text) : Except Failure Outcome := do
  let r ← Run.start t
  let r ← Run.lines t 1 r (ls ++ [[]])
  return (r.close t).outcome t

theorem extract_eq_extractLines (t : Template) (text : Text) : extract t text = extractLines t text.inputLines := rfl

/-- **The lines of a run.**  The rules see the pieces of the text between its line feeds: up to two carriage returns
    are taken off a piece that a feed ends, and up to one off the last.  So it is one off each of them, and a feed at
    the end of the text makes no difference, unless a feed stands behind two carriage returns. -/
theorem extract_pieces (t : Template) (text : Text) :
    extract t text =
      extractLines t ((text.ended.map fun l => dropReturn (dropReturn l)) ++ text.unended.map dropReturn) ∧
    (¬ "\r\r\n".toList <:+: text → extract t text = extractLines t (text.feedPieces.map dropReturn)) ∧
    (text ≠ [] → text.getLast? ≠ some '\n' → ¬ "\r\r".toList <:+ text →
      extract t (text ++ ['\n']) = extract t text) := by
  refine ⟨?_, ?_, ?_⟩
  · rw [extract_eq_extractLines, Text.inputLines_eq]
  · intro hreturns
    have hended : (text.ended.map fun l => dropReturn (dropReturn l)) = text.ended.map dropReturn := by
      refine List.map_congr_left fun l hl => Text.dropReturn_dropReturn fun hsuffix => hreturns ?_
      refine List.IsInfix.trans ?_ (Text.infix_of_mem_ended hl)
      obtain ⟨u, rfl⟩ := hsuffix
      exact ⟨u, [], by simp⟩
    rw [extract_eq_extractLines, Text.inputLines_eq, hended, ← List.map_append, ← feedPieces]
  · intro hne hlast hreturns
    obtain ⟨hended, hunended⟩ := Text.ended_concat hne hlast
    have hmap : (text.unended.map fun l => dropReturn (dropReturn l)) = text.unended.map dropReturn :=
      List.map_congr_left fun l hl => Text.dropReturn_dropReturn fun hsuffix =>
        hreturns (hsuffix.trans (Text.suffix_of_mem_unended hl))
    rw [extract_eq_extractLines, extract_eq_extractLines, Text.inputLines_eq, Text.inputLines_eq, hended, hunended,
      List.map_append, hmap, List.map_nil, List.append_nil]

/-- Two carriage returns in front of a line feed are both lost, but only one of them without the feed. -/
theorem second_return_lost :
    ∃ t, Template.parse "Value A (.+)\n\nStart\n  ^${A} -> Record\n".toList = .ok t ∧
      extract t "a\r\r\n".toList = .ok { records := [[("A".toList, .single "a".toList)]] } ∧
      extractLines t ((feedPieces "a\r\r\n".toList).map dropReturn) =
        .ok { records := [[("A".toList, .single "a\r".toList)]] } ∧
      extract t "a\r\r".toList = .ok { records := [[("A".toList, .single "a\r".toList)]] } := by
  have h : (Template.parse "Value A (.+)\n\nStart\n  ^${A} -> Record\n".toList).toOption.map (fun t =>
      (extract t "a\r\r\n".toList, extractLines t ((feedPieces "a\r\r\n".toList).map dropReturn),
        extract t "a\r\r".toList)) =
      some (.ok { records := [[("A".toList, .single "a".toList)]] },
        .ok { records := [[("A".toList, .single "a\r".toList)]] },
        .ok { records := [[("A".toList, .single "a\r".toList)]] }) := by
    decide +kernel
  obtain ⟨t, ht, hruns⟩ := Template.exists_parse h
  obtain ⟨hfeed, hruns⟩ := Prod.mk.inj hruns
  obtain ⟨hpieces, hplain⟩ := Prod.mk.inj hruns
  exact ⟨t, ht, hfeed, hpieces, hplain⟩

end Extraction

end Readout
