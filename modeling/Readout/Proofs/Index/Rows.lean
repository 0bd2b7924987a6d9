/-
  The rows of an index are independent of each other.

  * `Columns.Fills`: does a line have something in each of the three columns? `entry?_eq`: then it is an entry, and
    otherwise it is malformed;
  * `rowsFrom`: the lines that count, with their numbers, `parse_of_lines`: an index read from its lines;
  * `Read`: what has been read of rows, and which notices there are, `Read.concat`: each row adds to it by itself;
  * `exists_rows_of_parse`: a registry that has been read has the rows behind a header, in order;
  * `rows_independent`: the entries of two blocks of lines are those of either block, in order; only rows with all
    three fields contribute, and what is noticed is told line by line.
-/
import Readout.Proofs.Index.RoundTrip
import Readout.Proofs.Index.Selection

namespace Readout.Index

open Command (Matcher)

/-! ## Rows with all fields -/

/-- What a line has in a column, or nothing if it has too few fields. -/
def Columns.cell (cs : Columns) (line : Text) (c : Column) : Text := (Row.fields line.trim)[cs.place c]?.getD []

/-- Does a line have something in each column? -/
def Columns.Fills (cs : Columns) (line : Text) : Prop := ∀ c, cs.cell line c ≠ []

instance (cs : Columns) : DecidablePred cs.Fills := fun line => inferInstanceAs (Decidable (∀ c, cs.cell line c ≠ []))

/-- The entry of a line. -/
def Columns.entryOf (cs : Columns) (line : Text) : Entry where
  platform := Text.lower (cs.cell line .platform)
  pattern := cs.cell line .command
  template := cs.cell line .template

theorem Columns.entry?_eq (cs : Columns) (line : Text) :
    cs.entry? (Row.fields line.trim) = if cs.Fills line then some (cs.entryOf line) else none := by
  have hfills : cs.Fills line ↔
      cs.cell line .template ≠ [] ∧ cs.cell line .platform ≠ [] ∧ cs.cell line .command ≠ [] :=
    ⟨fun h => ⟨h _, h _, h _⟩, fun ⟨ht, hp, hc⟩ c => by cases c <;> assumption⟩
  have hcell (c : Column) : cs.cell line c = (Row.fields line.trim)[cs.place c]?.getD [] := rfl
  simp only [hfills, entryOf, hcell, place, entry?]
  rcases (Row.fields line.trim)[cs.template]? with _ | template
  · simp
  rcases (Row.fields line.trim)[cs.platform]? with _ | platform
  · simp
  rcases (Row.fields line.trim)[cs.command]? with _ | command
  · simp
  simp only [Option.bind_eq_bind, Option.bind_some, Option.getD_some]
  cases template <;> cases platform <;> cases command <;> rfl

/-! ## Lines that count -/

/-- The lines that count, trimmed and with their numbers, the first line having number `n`. -/
def rowsFrom (n : Nat) (ls : List Text) : List (Nat × Text) :=
  ((ls.zipIdx n).filter fun p => counts p.1).map fun p => (p.2, p.1.trim)

theorem rowsFrom_append (n : Nat) (ls ls' : List Text) :
    rowsFrom n (ls ++ ls') = rowsFrom n ls ++ rowsFrom (n + ls.length) ls' := by
  rw [rowsFrom, List.zipIdx_append, List.filter_append, List.map_append]; rfl

theorem rowsFrom_eq_nil {n : Nat} {ls : List Text} (h : ∀ l ∈ ls, counts l = false) : rowsFrom n ls = [] := by
  rw [rowsFrom, List.map_eq_nil_iff, List.filter_eq_nil_iff]
  intro p hp
  rw [h p.1 (List.fst_mem_of_mem_zipIdx hp)]
  exact Bool.false_ne_true

theorem rowsFrom_cons {n : Nat} {l : Text} (h : counts l) (ls : List Text) :
    rowsFrom n (l :: ls) = (n, l.trim) :: rowsFrom (n + 1) ls := by
  simp [rowsFrom, h]

theorem rowsFrom_cons_of_neg {n : Nat} {l : Text} (h : ¬ counts l) (ls : List Text) :
    rowsFrom n (l :: ls) = rowsFrom (n + 1) ls := by
  simp [rowsFrom, h]

theorem significantLines_eq (content : Text) : significantLines content = rowsFrom 1 content.lines := by
  have hnumbered : content.numberedLines = (content.lines.zipIdx 1).map fun p => (p.2, p.1) := by
    rw [Text.numberedLines, List.mapIdx_eq_zipIdx_map, List.zipIdx_succ, List.map_map]
    rfl
  rw [significantLines, hnumbered, rowsFrom, List.map_map, List.filter_map]
  rfl

theorem significantLines_of_lines {content header : Text} {pre ls : List Text}
    (hlines : content.lines = pre ++ header :: ls) (hpre : ∀ l ∈ pre, counts l = false) (hheader : counts header) :
    significantLines content = (1 + pre.length, header.trim) :: rowsFrom (pre.length + 2) ls := by
  rw [significantLines_eq, hlines, rowsFrom_append, rowsFrom_eq_nil hpre, rowsFrom_cons hheader, List.nil_append,
    show 1 + pre.length + 1 = pre.length + 2 by omega]

/-- **An index read from its lines**: what does not count is passed over, but is numbered. -/
theorem parse_of_lines {content header : Text} {pre ls : List Text} {cs : Columns}
    (hlines : content.lines = pre ++ header :: ls) (hpre : ∀ l ∈ pre, counts l = false) (hheader : counts header)
    (hcs : Columns.ofHeader header.trim = .ok cs) :
    parse content = .ok ((rowsFrom (pre.length + 2) ls).foldl (readRow cs) ({}, [])) := by
  rw [parse, significantLines_of_lines hlines hpre hheader]
  simp only [hcs]
  rfl

/-! ## Notices -/

/-- The line that a notice calls malformed, with its number. -/
def Notice.malformed? : Notice → Option (Nat × Text)
  | malformedRow line row => some (line, row)
  | invalidPattern _ => none

/-- The pattern that a notice calls invalid. -/
def Notice.invalid? : Notice → Option Text
  | malformedRow .. => none
  | invalidPattern pattern => some pattern

/-- A registry has a matcher for the patterns of its entries, and for no other one. -/
theorem Registry.isSome_matcher?_ofEntries {es : List Entry} {p : Text} :
    ((ofEntries es).matcher? p).isSome ↔ ∃ e ∈ es, e.pattern = p := by
  constructor
  · induction es using List.reverseRecOn with
    | nil => intro h; cases h
    | append_singleton es e ih =>
      intro h
      rw [ofEntries_concat, matcher?, insert] at h
      split at h
      · obtain ⟨e', he', hp⟩ := ih h
        exact ⟨e', List.mem_append_left _ he', hp⟩
      · rw [List.find?_append, Option.isSome_or, Bool.or_eq_true] at h
        rcases h with h | h
        · obtain ⟨e', he', hp⟩ := ih h
          exact ⟨e', List.mem_append_left _ he', hp⟩
        · exact ⟨e, List.mem_append_right _ (List.mem_singleton_self e), by simpa [Matcher.ofPattern] using h⟩
  · rintro ⟨e, he, rfl⟩
    rw [matcher?_ofEntries he]
    rfl

/-- The entry in a row. -/
def Columns.entryIn? (cs : Columns) (row : Nat × Text) : Option Entry := cs.entry? (Row.fields row.2)

/-- What has been read of some rows: the registry of the rows that are entries, a notice for each of the others, and
    one for each pattern without an expression. -/
structure Read (cs : Columns) (rows : List (Nat × Text)) (s : Noticing) : Prop where
  registry : s.1 = Registry.ofEntries (rows.filterMap cs.entryIn?)
  malformed : s.2.filterMap Notice.malformed? = rows.filter fun row => (cs.entryIn? row).isNone
  nodup : (s.2.filterMap Notice.invalid?).Nodup
  invalid : ∀ p, p ∈ s.2.filterMap Notice.invalid? ↔
    (∃ e ∈ rows.filterMap cs.entryIn?, e.pattern = p) ∧ (Matcher.ofPattern p).isCompiled = false

section
variable {cs : Columns} {rows : List (Nat × Text)} {row : Nat × Text}

theorem readRow_of_none (h : cs.entryIn? row = none) (s : Noticing) :
    readRow cs s row = (s.1, s.2 ++ [.malformedRow row.1 row.2]) := by
  rw [Columns.entryIn?] at h
  rw [readRow, h]

/-- An entry is taken in; its pattern is noticed where it stands for the first time. -/
theorem readRow_of_some {e : Entry} (h : cs.entryIn? row = some e) (es : List Entry) (notices : List Notice) :
    readRow cs (Registry.ofEntries es, notices) row = (Registry.ofEntries (es ++ [e]),
      if (∃ e' ∈ es, e'.pattern = e.pattern) ∨ (Matcher.ofPattern e.pattern).isCompiled then notices
      else notices ++ [.invalidPattern e.pattern]) := by
  have hmatcher : ((Registry.ofEntries es).insert e).matcher? e.pattern = some (.ofPattern e.pattern) := by
    rw [← Registry.ofEntries_concat]
    exact Registry.matcher?_ofEntries (List.mem_append_right _ (List.mem_singleton_self e))
  rw [Columns.entryIn?] at h
  rw [readRow, h, Registry.ofEntries_concat]
  simp only [hmatcher, Option.any_some, Bool.or_eq_true, Registry.isSome_matcher?_ofEntries]

/-- A row that is malformed leaves the registry as it is. -/
theorem Read.concat_of_none {s : Noticing} (h : Read cs rows s) (hrow : cs.entryIn? row = none) :
    Read cs (rows ++ [row]) (readRow cs s row) := by
  have hentries : (rows ++ [row]).filterMap cs.entryIn? = rows.filterMap cs.entryIn? := by
    rw [List.filterMap_append, List.filterMap_cons_none hrow]
    exact List.append_nil _
  have hmalformed : (s.2 ++ [Notice.malformedRow row.1 row.2]).filterMap Notice.malformed? =
      s.2.filterMap Notice.malformed? ++ [row] := List.filterMap_append
  have hinvalid : (s.2 ++ [Notice.malformedRow row.1 row.2]).filterMap Notice.invalid? =
      s.2.filterMap Notice.invalid? := by
    rw [List.filterMap_append]
    exact List.append_nil _
  rw [readRow_of_none hrow]
  refine ⟨by rw [hentries]; exact h.registry, ?_, by rw [hinvalid]; exact h.nodup, ?_⟩
  · rw [hmalformed, h.malformed, List.filter_append]
    simp [hrow]
  · rw [hinvalid, hentries]
    exact h.invalid

/-- A row that is an entry joins the others. -/
theorem Read.concat_of_some {s : Noticing} (h : Read cs rows s) {e : Entry} (hrow : cs.entryIn? row = some e) :
    Read cs (rows ++ [row]) (readRow cs s row) := by
  obtain ⟨r, notices⟩ := s
  obtain ⟨rfl, hmalformed, hnodup, hinvalid⟩ := h
  have hentries : (rows ++ [row]).filterMap cs.entryIn? = rows.filterMap cs.entryIn? ++ [e] := by
    rw [List.filterMap_append, List.filterMap_cons_some hrow]
    rfl
  have hfilter : (rows ++ [row]).filter (fun row => (cs.entryIn? row).isNone) =
      rows.filter fun row => (cs.entryIn? row).isNone := by
    simp [List.filter_append, hrow]
  rw [readRow_of_some hrow, ← hentries]
  split
  · rename_i hknown
    refine ⟨rfl, hmalformed.trans hfilter.symm, hnodup, fun p => ?_⟩
    rw [hinvalid, hentries]
    refine and_congr_left fun hp => ⟨fun ⟨e', he', hpattern⟩ => ⟨e', List.mem_append_left _ he', hpattern⟩, ?_⟩
    rintro ⟨e', he', rfl⟩
    rcases List.mem_append.1 he' with he' | he'
    · exact ⟨e', he', rfl⟩
    · obtain rfl := List.mem_singleton.1 he'
      exact hknown.resolve_right fun hcompiled => by rw [hcompiled] at hp; cases hp
  · rename_i hnew
    obtain ⟨hfirst, hcompiled⟩ := not_or.1 hnew
    have hmore : (notices ++ [Notice.invalidPattern e.pattern]).filterMap Notice.invalid? =
        notices.filterMap Notice.invalid? ++ [e.pattern] := List.filterMap_append
    refine ⟨rfl, ?_, ?_, fun p => ?_⟩
    · rw [hfilter, ← hmalformed, List.filterMap_append]
      exact List.append_nil _
    · rw [hmore, List.nodup_append]
      refine ⟨hnodup, by simp, ?_⟩
      rintro _ hp _ hq rfl
      obtain rfl := List.mem_singleton.1 hq
      exact hfirst ((hinvalid _).1 hp).1
    · rw [hmore, hentries, List.mem_append, hinvalid, List.mem_singleton]
      constructor
      · rintro (⟨⟨e', he', rfl⟩, hp⟩ | rfl)
        · exact ⟨⟨e', List.mem_append_left _ he', rfl⟩, hp⟩
        · exact ⟨⟨e, List.mem_append_right _ (List.mem_singleton_self e), rfl⟩, Bool.eq_false_iff.2 hcompiled⟩
      · rintro ⟨⟨e', he', rfl⟩, hp⟩
        rcases List.mem_append.1 he' with he' | he'
        · exact .inl ⟨⟨e', he', rfl⟩, hp⟩
        · exact .inr (by rw [List.mem_singleton.1 he'])

/-- **Each row adds to what has been read by itself.** -/
theorem read_foldl (cs : Columns) (rows : List (Nat × Text)) : Read cs rows (rows.foldl (readRow cs) ({}, [])) := by
  induction rows using List.reverseRecOn with
  | nil => exact ⟨rfl, rfl, List.nodup_nil, by simp⟩
  | append_singleton rows row ih =>
    rw [List.foldl_concat]
    rcases hrow : cs.entryIn? row with _ | e
    · exact ih.concat_of_none hrow
    · exact ih.concat_of_some hrow

end

/-! ## Blocks of lines -/

/-- Is the line a row with all three fields? -/
def Columns.isRow (cs : Columns) (line : Text) : Bool := counts line && cs.Fills line

/-- Does the line count, but lack a field? -/
def Columns.isMalformed (cs : Columns) (line : Text) : Bool := counts line && !cs.Fills line

section
variable {cs : Columns}

theorem entries_rowsFrom : ∀ (ls : List Text) (n : Nat),
    (rowsFrom n ls).filterMap cs.entryIn? = (ls.filter cs.isRow).map cs.entryOf
  | [], _ => rfl
  | l :: ls, n => by
    by_cases hcounts : counts l
    · have hentry : cs.entryIn? (n, l.trim) = if cs.Fills l then some (cs.entryOf l) else none := cs.entry?_eq l
      rw [rowsFrom_cons hcounts]
      by_cases hfills : cs.Fills l
      · rw [if_pos hfills] at hentry
        rw [List.filterMap_cons_some hentry, List.filter_cons_of_pos (by simp [Columns.isRow, hcounts, hfills]),
          List.map_cons, entries_rowsFrom ls]
      · rw [if_neg hfills] at hentry
        rw [List.filterMap_cons_none hentry, List.filter_cons_of_neg (by simp [Columns.isRow, hfills]),
          entries_rowsFrom ls]
    · rw [rowsFrom_cons_of_neg hcounts, List.filter_cons_of_neg (by simp [Columns.isRow, hcounts]), entries_rowsFrom ls]

theorem malformed_rowsFrom : ∀ (ls : List Text) (n : Nat),
    ((rowsFrom n ls).filter fun row => (cs.entryIn? row).isNone) =
      ((ls.zipIdx n).filter fun p => cs.isMalformed p.1).map fun p => (p.2, p.1.trim)
  | [], _ => rfl
  | l :: ls, n => by
    rw [List.zipIdx_cons]
    by_cases hcounts : counts l
    · have hentry : cs.entryIn? (n, l.trim) = if cs.Fills l then some (cs.entryOf l) else none := cs.entry?_eq l
      rw [rowsFrom_cons hcounts]
      by_cases hfills : cs.Fills l
      · rw [if_pos hfills] at hentry
        rw [List.filter_cons_of_neg (by simp [hentry]),
          List.filter_cons_of_neg (by simp [Columns.isMalformed, hfills]), malformed_rowsFrom ls]
      · rw [if_neg hfills] at hentry
        rw [List.filter_cons_of_pos (by simp [hentry]),
          List.filter_cons_of_pos (by simp [Columns.isMalformed, hcounts, hfills]), List.map_cons,
          malformed_rowsFrom ls]
    · rw [rowsFrom_cons_of_neg hcounts, List.filter_cons_of_neg (by simp [Columns.isMalformed, hcounts]),
        malformed_rowsFrom ls]

variable {header : Text} {pre : List Text} (hpre : ∀ l ∈ pre, counts l = false) (hheader : counts header)
  (hcs : Columns.ofHeader header.trim = .ok cs)
include hpre hheader hcs

/-- **What an index says**, line by line behind its header. -/
theorem exists_parse_of_lines {content : Text} {ls : List Text} (hlines : content.lines = pre ++ header :: ls) :
    ∃ notices, parse content = .ok (Registry.ofEntries ((ls.filter cs.isRow).map cs.entryOf), notices) ∧
      notices.filterMap Notice.malformed? =
        ((ls.zipIdx (pre.length + 2)).filter fun p => cs.isMalformed p.1).map (fun p => (p.2, p.1.trim)) ∧
      (notices.filterMap Notice.invalid?).Nodup ∧
      ∀ p, p ∈ notices.filterMap Notice.invalid? ↔
        (∃ e ∈ (ls.filter cs.isRow).map cs.entryOf, e.pattern = p) ∧ (Matcher.ofPattern p).isCompiled = false := by
  have hread := read_foldl cs (rowsFrom (pre.length + 2) ls)
  have hregistry := hread.registry
  have hinvalid := hread.invalid
  rw [entries_rowsFrom] at hregistry hinvalid
  refine ⟨((rowsFrom (pre.length + 2) ls).foldl (readRow cs) ({}, [])).2, ?_, ?_, hread.nodup, hinvalid⟩
  · rw [parse_of_lines hlines hpre hheader hcs, ← hregistry]
  · rw [hread.malformed, malformed_rowsFrom]

end

/-- Are these the columns of an index, and these the lines behind its header? -/
def Columns.Heading (cs : Columns) (content : Text) (ls : List Text) : Prop :=
  ∃ pre header, content.lines = pre ++ header :: ls ∧ (∀ l ∈ pre, counts l = false) ∧ counts header ∧
    ofHeader header.trim = .ok cs

/-- **A registry that has been read** has the rows behind a header, in the order of the lines. -/
theorem exists_rows_of_parse {content : Text} {r : Registry} {notices : List Notice}
    (h : parse content = .ok (r, notices)) :
    ∃ cs ls, Columns.Heading cs content ls ∧ r = Registry.ofEntries ((ls.filter cs.isRow).map cs.entryOf) := by
  have hlines := List.takeWhile_append_dropWhile (p := fun l => !counts l) (l := content.lines)
  have hpre : ∀ l ∈ content.lines.takeWhile fun l => !counts l, counts l = false := fun l hl => by
    simpa using List.mem_takeWhile_imp hl
  rcases hrest : content.lines.dropWhile (fun l => !counts l) with _ | ⟨header, ls⟩
  · rw [hrest, List.append_nil] at hlines
    rw [parse, significantLines_eq, ← hlines, rowsFrom_eq_nil hpre] at h
    cases h
  · have hheader : counts header := by
      have hhead := List.head?_dropWhile_not (fun l => !counts l) content.lines
      rw [hrest] at hhead
      simpa using hhead
    rw [hrest] at hlines
    rcases hcs : Columns.ofHeader header.trim with fault | cs
    · rw [parse, significantLines_of_lines hlines.symm hpre hheader] at h
      simp only [hcs] at h
      cases h
    · obtain ⟨others, hparse, -⟩ := exists_parse_of_lines hpre hheader hcs hlines.symm
      rw [hparse] at h
      exact ⟨cs, ls, ⟨_, header, hlines.symm, hpre, hheader, hcs⟩, (congrArg Prod.fst (Except.ok.inj h)).symm⟩

section
variable {cs : Columns} {header : Text} {pre : List Text} (hpre : ∀ l ∈ pre, counts l = false)
  (hheader : counts header) (hcs : Columns.ofHeader header.trim = .ok cs)
include hpre hheader hcs

/-- **Rows are independent of each other.**  Behind a header, the entries of two blocks of lines are those of the first
    block and then those of the second one, for each platform.  Blank lines, comments and malformed rows contribute
    nothing, wherever they stand and whatever quotes are open in them.  Each malformed row is noticed once, with the
    number of its line, and each pattern without an expression once. -/
theorem rows_independent {a b : List Text} {whole first second : Text}
    (hwhole : whole.lines = pre ++ header :: (a ++ b)) (hfirst : first.lines = pre ++ header :: a)
    (hsecond : second.lines = pre ++ header :: b) :
    ∃ r ra rb notices na nb, parse whole = .ok (r, notices) ∧ parse first = .ok (ra, na) ∧
      parse second = .ok (rb, nb) ∧
      (∀ platform, r.entriesOf platform = ra.entriesOf platform ++ rb.entriesOf platform) ∧
      r.entries = ((a ++ b).filter cs.isRow).map cs.entryOf ∧
      (∀ content ls, content.lines = pre ++ header :: ls → ls.filter cs.isRow = (a ++ b).filter cs.isRow →
        ∃ others, parse content = .ok (r, others)) ∧
      notices.filterMap Notice.malformed? =
        (((a ++ b).zipIdx (pre.length + 2)).filter fun p => cs.isMalformed p.1).map (fun p => (p.2, p.1.trim)) ∧
      (notices.filterMap Notice.invalid?).Nodup ∧
      ∀ p, p ∈ notices.filterMap Notice.invalid? ↔
        (∃ e ∈ r.entries, e.pattern = p) ∧ (Matcher.ofPattern p).isCompiled = false := by
  obtain ⟨notices, hparse, hmalformed, hnodup, hinvalid⟩ := exists_parse_of_lines hpre hheader hcs hwhole
  obtain ⟨na, hparsea, -⟩ := exists_parse_of_lines hpre hheader hcs hfirst
  obtain ⟨nb, hparseb, -⟩ := exists_parse_of_lines hpre hheader hcs hsecond
  refine ⟨_, _, _, notices, na, nb, hparse, hparsea, hparseb, fun platform => ?_, Registry.entries_ofEntries _, ?_,
    hmalformed, hnodup, ?_⟩
  · rw [Registry.entriesOf_ofEntries, Registry.entriesOf_ofEntries, Registry.entriesOf_ofEntries, List.filter_append,
      List.map_append, List.filter_append]
  · intro content ls hlines hsame
    obtain ⟨others, hothers, -⟩ := exists_parse_of_lines hpre hheader hcs hlines
    exact ⟨others, by rw [hothers, hsame]⟩
  · rw [Registry.entries_ofEntries]
    exact hinvalid

end

/-- A row with a pattern that has no expression, one with an open quote, a comment, and a row without a command. -/
def openBlock : List Text := ["a,os,show (".toList, "\"b,os,show ip".toList, " #,\"".toList, "c,os, ".toList]

/-- A blank line, a row with the same pattern, and one with a comma in quotes. -/
def quotedBlock : List Text := [" ".toList, "d, OS , show (".toList, "e,ios,\"sh[[ow]] a,b\"".toList]

/-- An index of blocks of lines, behind a comment. -/
def blockIndex (ls : List Text) : Text :=
  Text.unlines ("# Template, Platform".toList :: "template, VENDOR ,Command".toList :: ls)

theorem rows_independent_blocks :
    ∃ r notices, parse (blockIndex (openBlock ++ quotedBlock)) = .ok (r, notices) ∧
      r.entriesOf "os".toList =
        [⟨"os".toList, "show (".toList, "a".toList⟩, ⟨"os".toList, "show (".toList, "d".toList⟩] ∧
      notices.filterMap Notice.malformed? = [(4, "\"b,os,show ip".toList), (6, "c,os,".toList)] ∧
      "show (".toList ∈ notices.filterMap Notice.invalid? := by
  obtain ⟨r, ra, rb, notices, na, nb, hparse, -, -, -, hentries, -, hmalformed, -, hinvalid⟩ :=
    @rows_independent ⟨0, 1, 2⟩ "template, VENDOR ,Command".toList ["# Template, Platform".toList] (by decide +kernel)
      (by decide +kernel) (by decide +kernel) openBlock quotedBlock (blockIndex (openBlock ++ quotedBlock))
      (blockIndex openBlock) (blockIndex quotedBlock) (by decide +kernel) (by decide +kernel) (by decide +kernel)
  refine ⟨r, notices, hparse, ?_, ?_, ?_⟩
  · rw [Registry.entriesOf, hentries]
    decide +kernel
  · rw [hmalformed]
    decide +kernel
  · rw [hinvalid, hentries]
    decide +kernel

end Readout.Index
