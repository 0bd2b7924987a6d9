/-
  An index that is written is read back.

  * `Row.fields_write`: a row in quotes has the fields that it was written from, whatever they contain;
  * `Columns.Heads`, `Columns.Shows`: where a header names the columns, and a row has the fields of an entry;
  * `significantLines_joinWith`: the lines that count are those that are neither blank nor comments;
  * `parse_joinWith`: an index yields the registry of the entries that its rows show, in whatever order its columns
    stand, and whatever stands in other columns and lines.
-/
import Mathlib.Data.List.Forall2
import Readout.Index.Basic
import Readout.Proofs.Text.Lines

namespace Readout.Index

/-! ## Rows -/

namespace Row

/-- The field with its quotes doubled. -/
def escape (field : Text) : Text := field.flatMap fun c => if c = '"' then ['"', '"'] else [c]

/-- Behind an open quote, a field is read up to the quote that closes it. -/
theorem fieldsFrom_escape {rest : Text} (hrest : rest.head? ≠ some '"') : ∀ (field read : Text),
    fieldsFrom true read (escape field ++ '"' :: rest) = fieldsFrom false (read ++ field) rest
  | [], read => by
    rw [List.append_nil]
    rcases rest with _ | ⟨c, t⟩
    · rfl
    · have hc : c ≠ '"' := fun h => hrest (h ▸ rfl)
      change fieldsFrom true read ('"' :: c :: t) = _
      rw [fieldsFrom]
      · rfl
      · rintro _ _ ⟨⟩; exact hc rfl
  | c :: field, read => by
    have ih := fieldsFrom_escape hrest field (read ++ [c])
    rw [List.append_assoc, List.singleton_append] at ih
    by_cases hc : c = '"'
    · subst hc; exact ih
    · rw [← ih, escape, List.flatMap_cons, if_neg hc, List.singleton_append, List.cons_append, fieldsFrom,
        if_neg (by simp)]
      · rfl
      · exact hc

theorem write_singleton (f : Text) : write [f] = quote f := by
  rw [write, List.map_singleton, Text.joinWith, List.intercalate_singleton]

theorem write_cons_cons (f g : Text) (fs : List Text) :
    write (f :: g :: fs) = quote f ++ ',' :: write (g :: fs) := by
  rw [write, List.map_cons, List.map_cons, Text.joinWith, List.intercalate_cons_cons, List.append_assoc]
  rfl

theorem fieldsFrom_quote {rest : Text} (hrest : rest.head? ≠ some '"') (field : Text) :
    fieldsFrom false [] (quote field ++ rest) = fieldsFrom false field rest := by
  have h := fieldsFrom_escape hrest field []
  rw [quote, List.append_assoc]
  exact h

/-- **A row in quotes has the fields that it was written from**, whatever they contain. -/
theorem fields_write : ∀ {fs : List Text}, fs ≠ [] → fields (write fs) = fs.map Text.trim
  | [f], _ => by
    have h : fieldsFrom false [] (quote f ++ []) = fieldsFrom false f [] := fieldsFrom_quote (by simp) f
    rw [List.append_nil] at h
    rw [fields, write_singleton, h]; rfl
  | f :: g :: fs, _ => by
    have ih : fieldsFrom false [] (write (g :: fs)) = (g :: fs).map Text.trim := fields_write (by simp)
    rw [fields, write_cons_cons, fieldsFrom_quote (by simp) f, fieldsFrom, if_pos ⟨rfl, rfl⟩, ih]
    · rfl
    · simp

/-- A row in quotes starts with one. -/
theorem head?_write : ∀ {fs : List Text}, fs ≠ [] → (write fs).head? = some '"'
  | [f], _ => by rw [write_singleton]; rfl
  | f :: g :: fs, _ => by rw [write_cons_cons]; rfl

theorem endsSolid_write : ∀ {fs : List Text}, fs ≠ [] → Text.EndsSolid (write fs)
  | [f], _ => by
    rw [write_singleton]
    exact Text.endsSolid_concat.2 (by decide)
  | f :: g :: fs, _ => by
    have hne : write (g :: fs) ≠ [] := fun h => by simpa [h] using head?_write (List.cons_ne_nil g fs)
    rw [write_cons_cons, List.append_cons]
    exact (endsSolid_write (List.cons_ne_nil g fs)).append hne _

theorem trim_write {fs : List Text} (h : fs ≠ []) : (write fs).trim = write fs :=
  Text.trim_eq_self (by rw [Text.startsBlank, head?_write h]; decide) (endsSolid_write h)

end Row

/-! ## Columns -/

instance {p : Column → Prop} [DecidablePred p] : Decidable (∀ c, p c) :=
  decidable_of_iff (p .template ∧ p .platform ∧ p .command)
    ⟨fun ⟨ht, hp, hc⟩ c => by cases c <;> assumption, fun h => ⟨h _, h _, h _⟩⟩

/-- The place of a column. -/
def Columns.place (cs : Columns) : Column → Nat
  | .template => cs.template
  | .platform => cs.platform
  | .command => cs.command

/-- The field of an entry that stands in a column. -/
def Entry.field (e : Entry) : Column → Text
  | .template => e.template
  | .platform => e.platform
  | .command => e.pattern

/-- Does a header name the columns, each of them once, next to columns with other names? -/
structure Columns.Heads (cs : Columns) (header : List Text) : Prop where
  named : ∀ c : Column, ∃ name ∈ header[cs.place c]?, name.trim.lower ∈ c.accepts
  others : ∀ i (hi : i < header.length), (∀ c, i ≠ cs.place c) →
    ∀ c : Column, header[i].trim.lower ∉ c.accepts

instance (cs : Columns) (header : List Text) : Decidable (cs.Heads header) :=
  decidable_of_iff (_ ∧ _) ⟨fun ⟨h, h'⟩ => ⟨h, h'⟩, fun h => ⟨h.named, h.others⟩⟩

/-- Does a row have the fields of an entry, next to whatever stands in other columns? -/
def Columns.Shows (cs : Columns) (e : Entry) (row : List Text) : Prop :=
  ∀ c, row[cs.place c]? = some (e.field c)

instance (cs : Columns) : DecidableRel cs.Shows := fun _ _ => inferInstanceAs (Decidable (∀ _, _))

/-- Can a row show the entry?  Its fields are not empty, and nothing of them is lost to trimming and lower
    case. -/
structure Entry.Writable (e : Entry) : Prop where
  filled : ∀ c, e.field c ≠ []
  trimmed : ∀ c, (e.field c).trim = e.field c
  lower : e.platform.lower = e.platform

instance (e : Entry) : Decidable e.Writable :=
  decidable_of_iff (_ ∧ _ ∧ _) ⟨fun ⟨h, h', h''⟩ => ⟨h, h', h''⟩, fun h => ⟨h.filled, h.trimmed, h.lower⟩⟩

/-- A name is that of one column only. -/
theorem Column.eq_of_mem_accepts {c d : Column} {name : Text} (hc : name ∈ c.accepts) (hd : name ∈ d.accepts) :
    c = d := by
  have hdisjoint : ∀ n ∈ c.accepts, n ∈ d.accepts → c = d := by cases c <;> cases d <;> decide
  exact hdisjoint name hc hd

section
variable {cs : Columns} {header : List Text}

/-- A name of a column stands at its place only. -/
theorem Columns.Heads.eq_place (h : cs.Heads header) {c : Column} {i : Nat} (hi : i < header.length)
    (hname : header[i].trim.lower ∈ c.accepts) : i = cs.place c := by
  by_contra hne
  refine h.others i hi (fun d hd => ?_) c hname
  obtain ⟨name, hget, hname'⟩ := h.named d
  rw [← hd, List.getElem?_eq_getElem hi, Option.mem_some_iff] at hget
  subst hget
  exact hne (Column.eq_of_mem_accepts hname hname' ▸ hd)

theorem Columns.Heads.findIdx? (h : cs.Heads header) (c : Column) :
    ((header.map Text.trim).map Text.lower).findIdx? c.accepts.contains = some (cs.place c) := by
  obtain ⟨name, hplace, hname⟩ := h.named c
  obtain ⟨hlt, hget⟩ := List.getElem?_eq_some_iff.1 hplace
  rw [List.findIdx?_eq_some_iff_getElem]
  refine ⟨by simpa using hlt, by simpa [hget] using hname, fun j hj hname' => ?_⟩
  have hjlt := hj.trans hlt
  exact hj.ne (h.eq_place hjlt (by simpa using hname'))

theorem Columns.Heads.ne_nil (h : cs.Heads header) : header ≠ [] := by
  obtain ⟨name, hplace, -⟩ := h.named .template
  rintro rfl
  simp at hplace

theorem Columns.Shows.ne_nil {e : Entry} {row : List Text} (h : cs.Shows e row) : row ≠ [] := by
  have hplace := h .template
  rintro rfl
  simp at hplace

/-- **The columns are found by their names**, in whatever order they stand. -/
theorem Columns.ofHeader_write (h : cs.Heads header) : ofHeader (Row.write header) = .ok cs := by
  rw [ofHeader, Row.fields_write h.ne_nil]
  simp only [h.findIdx?]
  rfl

theorem Columns.entry?_write {e : Entry} {row : List Text} (he : e.Writable) (h : cs.Shows e row) :
    cs.entry? (Row.fields (Row.write row)) = some e := by
  have hget : ∀ c, (row.map Text.trim)[cs.place c]? = some (e.field c) := by
    intro c; rw [List.getElem?_map, h c, Option.map_some, he.trimmed c]
  have hempty : ∀ c, (e.field c).isEmpty = false := by
    intro c; simpa using he.filled c
  have ht : (row.map Text.trim)[cs.template]? = some e.template := hget .template
  have hp : (row.map Text.trim)[cs.platform]? = some e.platform := hget .platform
  have hc : (row.map Text.trim)[cs.command]? = some e.pattern := hget .command
  have hfilled : (e.template.isEmpty || e.platform.isEmpty || e.pattern.isEmpty) = false := by
    have ht : e.template.isEmpty = false := hempty .template
    have hp : e.platform.isEmpty = false := hempty .platform
    have hc : e.pattern.isEmpty = false := hempty .command
    rw [ht, hp, hc]; rfl
  rw [Row.fields_write h.ne_nil]
  unfold entry?
  simp only [ht, hp, hc, hfilled, he.lower, Option.bind_eq_bind, Option.bind_some]
  rfl

end

/-! ## Lines -/

/-- Does a line count: is it neither blank nor a comment? -/
def counts (line : Text) : Bool := !line.trim.isEmpty && line.trim.head? != some '#'

theorem map_snd_significantLines (content : Text) :
    (significantLines content).map (·.2) = (content.lines.filter counts).map Text.trim := by
  let solid (l : Text) : Bool := !l.isEmpty && l.head? != some '#'
  have htrim : (content.numberedLines.map fun p => (p.1, Text.trim p.2)).map (·.2) =
      content.lines.map Text.trim := by
    rw [← Text.map_snd_numberedLines, List.map_map, List.map_map]; rfl
  calc (significantLines content).map (·.2)
      = ((content.numberedLines.map fun p => (p.1, Text.trim p.2)).map (·.2)).filter solid := by
        rw [List.filter_map]; rfl
    _ = (content.lines.filter counts).map Text.trim := by
        rw [htrim, List.filter_map]; rfl

theorem counts_dropReturn (l : Text) : counts l.dropReturn = counts l := by
  unfold counts; rw [Text.trim_dropReturn]

/-- A document has the lines that count among the pieces between its line feeds. -/
theorem filter_lines (content : Text) :
    (content.lines.filter counts).map Text.trim = ((content.pieces '\n').filter counts).map Text.trim := by
  have hcounts : counts ∘ Text.dropReturn = counts := funext counts_dropReturn
  have htrim : Text.trim ∘ Text.dropReturn = Text.trim := funext Text.trim_dropReturn
  obtain hnil | ⟨init, last, hps⟩ := (content.pieces '\n').eq_nil_or_concat
  · exact absurd hnil (Text.pieces_ne_nil _ _)
  · have hlast : (Text.openLine (some last)).filter counts = [last].filter counts := by
      cases last <;> rfl
    rw [List.concat_eq_append] at hps
    rw [Text.lines_of_pieces hps, hps, List.filter_append, hlast, List.filter_map, List.map_append,
      List.map_map, hcounts, htrim, List.filter_append, List.map_append]

/-- **The lines that count are those that the document is joined from**, trimmed. -/
theorem significantLines_joinWith {ls : List Text} (hne : ls ≠ []) (hfeed : ∀ l ∈ ls, '\n' ∉ l) :
    (significantLines (Text.joinWith ['\n'] ls)).map (·.2) = (ls.filter counts).map Text.trim := by
  rw [map_snd_significantLines, filter_lines, Text.pieces_joinWith hne hfeed]

/-! ## Reading -/

/-- Entries that rows show are taken in, in order, and no row is passed over. -/
theorem foldl_readRow {cs : Columns} : ∀ {es : List Entry} {rows : List (Nat × Text)},
    List.Forall₂ (fun e row => cs.entry? (Row.fields row.2) = some e) es rows → ∀ s : Noticing,
    ∃ notices, rows.foldl (readRow cs) s = (es.foldl Registry.insert s.1, s.2 ++ notices) ∧
      ∀ n row, .malformedRow n row ∉ notices
  | [], [], .nil, s => ⟨[], by simp, by simp⟩
  | e :: es, row :: rows, .cons h hs, s => by
    obtain ⟨first, hread, hfirst⟩ : ∃ first, readRow cs s row = (s.1.insert e, s.2 ++ first) ∧
        ∀ n row, .malformedRow n row ∉ first := by
      unfold readRow
      rw [h]
      by_cases hknown : (s.1.matcher? e.pattern).isSome ||
          ((s.1.insert e).matcher? e.pattern).any (·.isCompiled)
      · exact ⟨[], by simp [hknown], by simp⟩
      · exact ⟨[.invalidPattern e.pattern], by simp [hknown], by simp⟩
    obtain ⟨notices, hfold, hnotices⟩ := foldl_readRow hs (s.1.insert e, s.2 ++ first)
    refine ⟨first ++ notices, ?_, fun n row => ?_⟩
    · rw [List.foldl_cons, hread, hfold, List.foldl_cons, List.append_assoc]
    · rw [List.mem_append, not_or]; exact ⟨hfirst n row, hnotices n row⟩

/-- **An index that is written is read back**: the columns may stand in any order, next to others with whatever
    they contain, and lines that are blank or comments may stand anywhere. -/
theorem parse_joinWith {cs : Columns} {header : List Text} {es : List Entry} {rows : List (List Text)}
    {ls : List Text} (hheader : cs.Heads header) (hrows : List.Forall₂ cs.Shows es rows)
    (hes : ∀ e ∈ es, e.Writable) (hfeed : ∀ l ∈ ls, '\n' ∉ l)
    (hls : ls.filter counts = (header :: rows).map Row.write) :
    ∃ notices, parse (Text.joinWith ['\n'] ls) = .ok (Registry.ofEntries es, notices) ∧
      ∀ n row, .malformedRow n row ∉ notices := by
  have hne : ls ≠ [] := by rintro rfl; cases hls
  have hlines := significantLines_joinWith hne hfeed
  rw [hls] at hlines
  rcases hsig : significantLines (Text.joinWith ['\n'] ls) with _ | ⟨⟨n, first⟩, numbered⟩
  · rw [hsig] at hlines; cases hlines
  · rw [hsig] at hlines
    obtain ⟨hfirst, hrest⟩ := List.cons.inj hlines
    have hfirst : first = Row.write header := hfirst.trans (Row.trim_write hheader.ne_nil)
    have hshown : List.Forall₂ (fun e row => cs.entry? (Row.fields (Row.write row).trim) = some e) es rows :=
      ((List.forall₂_and_left es rows).2 ⟨hes, hrows⟩).imp fun e row ⟨he, hrow⟩ => by
        rw [Row.trim_write hrow.ne_nil, Columns.entry?_write he hrow]
    have hrows : List.Forall₂ (fun e t => cs.entry? (Row.fields t) = some e) es (numbered.map (·.2)) := by
      rw [hrest, List.map_map, List.forall₂_map_right_iff]
      exact hshown
    have hread : List.Forall₂ (fun e row => cs.entry? (Row.fields row.2) = some e) es numbered :=
      List.forall₂_map_right_iff.1 hrows
    obtain ⟨notices, hfold, hnotices⟩ := foldl_readRow hread ({}, [])
    refine ⟨notices, ?_, hnotices⟩
    unfold parse
    rw [hsig, hfirst]
    simp only [Columns.ofHeader_write hheader]
    exact congrArg Except.ok hfold

/-- Two entries that share a pattern. -/
def sheetEntries : List Entry :=
  [⟨"os".toList, "sh[[ow]] \"a, b\"".toList, "#a".toList⟩, ⟨"ios".toList, "sh[[ow]] \"a, b\"".toList, "b".toList⟩]

/-- Names of columns in mixed case, with one of remarks among them. -/
def sheetHeader : List Text := ["VENDOR".toList, " Note ".toList, "Template".toList, "command".toList]

/-- A row for each entry. -/
def sheetRows : List (List Text) :=
  [["os".toList, "a \"\r".toList, "#a".toList, "sh[[ow]] \"a, b\"".toList],
   ["ios".toList, [], "b".toList, "sh[[ow]] \"a, b\"".toList]]

/-- The rows with blank lines and comments around them. -/
def sheet : List Text :=
  "# Templates, Vendor".toList :: "\r".toList ::
    ((sheetHeader :: sheetRows).map Row.write).intersperse " \t#,\"".toList

theorem parse_joinWith_sheet :
    ∃ notices, parse (Text.joinWith ['\n'] sheet) = .ok (Registry.ofEntries sheetEntries, notices) ∧
      ∀ n row, .malformedRow n row ∉ notices := by
  have hheader : (⟨2, 0, 3⟩ : Columns).Heads sheetHeader := by decide +kernel
  have hrows : List.Forall₂ (⟨2, 0, 3⟩ : Columns).Shows sheetEntries sheetRows := by decide +kernel
  exact parse_joinWith hheader hrows (by decide +kernel) (by decide +kernel) (by decide +kernel)

end Readout.Index
