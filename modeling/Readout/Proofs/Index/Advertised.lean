/-
  The commands that a registry lists for a platform.

  * `Entry.Tidy`: the fields of an entry that has been read from an index are trimmed, and its platform is in lower
    case; `ofEntries_of_parse`: a registry that has been read holds such entries;
  * `find_advertised`: a listed command is answered by an exact match, if its pattern consists of words;
  * `find_advertised_long`: this takes an expression that is compiled, and a pattern can be too long for that.
-/
import Readout.Proofs.Command.Core
import Readout.Proofs.Index.Rows

namespace Readout.Index

open Command (Segment PatternWord Written Matcher)

/-! ## Entries of an index -/

/-- Is the pattern of the entry trimmed, and its platform too, and in lower case? -/
structure Entry.Tidy (e : Entry) : Prop where
  pattern : e.pattern.trim = e.pattern
  platform : e.platform.trim.lower = e.platform

/-- The platform of a tidy entry is left as it is by lower case. -/
theorem Entry.Tidy.lower_platform {e : Entry} (he : e.Tidy) : e.platform.lower = e.platform := by
  rw [← he.platform, Text.lower_lower]

/-- The platform of a tidy entry is trimmed. -/
theorem Entry.Tidy.trim_platform {e : Entry} (he : e.Tidy) : e.platform.trim = e.platform := by
  rw [← he.platform]
  exact Text.trim_lower_iff.2 (Text.trim_trim _)

/-- The fields of a row are trimmed. -/
theorem Row.trim_of_mem_fields {row f : Text} (h : f ∈ fields row) : f.trim = f := by
  have hfrom : ∀ (quoted : Bool) (field t : Text), f ∈ fieldsFrom quoted field t → f.trim = f := by
    intro quoted field t
    fun_induction fieldsFrom quoted field t with
    | case1 => intro h; rw [List.mem_singleton.1 h]; exact Text.trim_trim _
    | case4 =>
      rename_i ih
      intro h
      rcases List.mem_cons.1 h with rfl | h
      · exact Text.trim_trim _
      · exact ih h
    | case2 | case3 | case5 => assumption
  exact hfrom false [] row h

theorem Columns.trim_cell (cs : Columns) (line : Text) (c : Column) : (cs.cell line c).trim = cs.cell line c := by
  unfold cell
  rcases hfield : (Row.fields line.trim)[cs.place c]? with _ | field
  · rfl
  · exact Row.trim_of_mem_fields (List.mem_of_getElem? hfield)

theorem Columns.tidy_entryOf (cs : Columns) (line : Text) : (cs.entryOf line).Tidy where
  pattern := cs.trim_cell line .command
  platform := by
    have hplatform := Text.trim_lower_iff.2 (cs.trim_cell line .platform)
    rw [entryOf, hplatform, Text.lower_lower]

/-- **A registry that has been read** is that of some tidy entries. -/
theorem ofEntries_of_parse {content : Text} {r : Registry} {notices : List Notice}
    (h : parse content = .ok (r, notices)) : ∃ es, r = Registry.ofEntries es ∧ ∀ e ∈ es, e.Tidy := by
  obtain ⟨cs, ls, -, rfl⟩ := exists_rows_of_parse h
  refine ⟨_, rfl, fun e he => ?_⟩
  obtain ⟨line, -, rfl⟩ := List.mem_map.1 he
  exact cs.tidy_entryOf line

/-! ## Listed commands -/

section
variable {dirs : List Path} {present : Path → Bool}

theorem exists_located_iff {template : Text} :
    (∃ path, Located dirs present template path) ↔ ∃ dir ∈ dirs, present (Path.join dir template) := by
  simp only [← locate?_eq_some_iff, ← Option.isSome_iff_exists, locate?, List.find?_isSome, List.mem_map,
    exists_exists_and_eq_and]

/-- Where an entry offers an exact match, the choice is one. -/
theorem exists_exact_of_offers {es : List Entry} {platform command : Text} {e : Entry} (he : e ∈ es)
    (hplatform : e.platform = platform.trim.lower)
    (hoffers : Offers dirs present (Command.normalize command) .exact e) :
    ∃ ref, (Registry.ofEntries es).find dirs present platform command = .found ref ∧
      ref.platform = platform.trim.lower ∧ ref.kind = .exact := by
  have hmem : e ∈ es.filter (·.platform == platform.trim.lower) :=
    List.mem_filter.2 ⟨he, beq_iff_eq.2 hplatform⟩
  rw [find_cases, Registry.entriesOf_ofEntries, if_neg (List.ne_nil_of_mem hmem)]
  rcases hpass : (Registry.ofEntries es).findBy? dirs present platform.trim.lower (Command.normalize command)
    .exact with _ | ref
  · exact absurd hoffers (findBy?_eq_none_iff.1 hpass e hmem)
  · obtain ⟨e', path, -, -, rfl⟩ := findBy?_eq_some_iff.1 hpass
    exact ⟨_, rfl, rfl, rfl⟩

/-- **Listed commands are answered.**  In a registry that has been read from an index, take an entry whose pattern
    consists of words, whose matcher is compiled, and whose template is there: the command that is listed for it is
    answered by an exact match, whatever other entries there are. -/
theorem find_advertised {content : Text} {r : Registry} {notices : List Notice}
    (h : parse content = .ok (r, notices)) {platform : Text} {i : Nat} {e : Entry}
    (he : (r.entriesOf platform)[i]? = some e) {ws : List (List Segment)} (hws : ∀ w ∈ ws, PatternWord w)
    (hpattern : Written ([.blank].intercalate ws) e.pattern)
    (hcompiled : (Matcher.ofPattern e.pattern).isCompiled)
    (hthere : ∃ dir ∈ dirs, present (Path.join dir e.template)) :
    ∃ command, (r.commands platform)[i]? = some command ∧
      ∃ ref, r.find dirs present platform command = .found ref ∧ ref.platform = platform ∧ ref.kind = .exact := by
  obtain ⟨es, rfl, hes⟩ := ofEntries_of_parse h
  have hmem := List.mem_of_getElem? he
  rw [Registry.entriesOf_ofEntries, List.mem_filter, beq_iff_eq] at hmem
  obtain ⟨hmem, rfl⟩ := hmem
  have htidy := hes e hmem
  have hoffers : Offers dirs present (Command.normalize (Command.core e.pattern)) .exact e := by
    refine ⟨?_, exists_located_iff.2 hthere⟩
    rw [Fits, Command.core, Command.normalize_normalize]
    exact Command.isExact_core hws htidy.pattern hpattern hcompiled
  refine ⟨Command.core e.pattern, by rw [Registry.commands, List.getElem?_map, he]; rfl, ?_⟩
  have hfound := exists_exact_of_offers hmem htidy.platform.symm hoffers
  rwa [htidy.platform] at hfound

end

/-- Two entries, the first of which matches the second command in part. -/
def listedEntries : List Entry :=
  [⟨"os".toList, "show".toList, "a".toList⟩, ⟨"os".toList, "sh[[ow]] v[[er]]".toList, "b".toList⟩]

/-- The index that they are read from. -/
def listedIndex : Text := "Template,Platform,Command\na,OS,show\nb, os ,sh[[ow]] v[[er]]\n".toList

/-- The words of the second pattern. -/
def listedWords : List (List Segment) :=
  [[.char 's', .char 'h', .suffix "ow".toList], [.char 'v', .suffix "er".toList]]

theorem find_advertised_listed :
    ∃ command, ((Registry.ofEntries listedEntries).commands "os".toList)[1]? = some command ∧
      ∃ ref, (Registry.ofEntries listedEntries).find ["t".toList] (fun _ => true) "os".toList command =
        .found ref ∧ ref.platform = "os".toList ∧ ref.kind = .exact := by
  have hparse : parse listedIndex = .ok (Registry.ofEntries listedEntries, []) := by decide +kernel
  have hws : ∀ w ∈ listedWords, PatternWord w := by decide
  have he : ((Registry.ofEntries listedEntries).entriesOf "os".toList)[1]? =
      some ⟨"os".toList, "sh[[ow]] v[[er]]".toList, "b".toList⟩ := by decide +kernel
  have hcompiled : (Matcher.ofPattern "sh[[ow]] v[[er]]".toList).isCompiled := by decide +kernel
  exact find_advertised hparse he hws (Command.written_words hws) hcompiled ⟨"t".toList, by simp, rfl⟩

/-! ## Patterns that are too long -/

theorem Row.feed_notMem_write {fs : List Text} (h : ∀ f ∈ fs, '\n' ∉ f) : '\n' ∉ write fs := by
  intro hmem
  rcases Text.mem_joinWith hmem with hsep | ⟨q, hq, hmem⟩
  · revert hsep; decide
  · obtain ⟨f, hf, rfl⟩ := List.mem_map.1 hq
    rcases List.mem_append.1 hmem with hmem | hmem
    · rcases List.mem_cons.1 hmem with hquote | hmem
      · revert hquote; decide
      · obtain ⟨c, hc, hmem⟩ := List.mem_flatMap.1 hmem
        split at hmem
        · revert hmem; decide
        · rw [List.mem_singleton] at hmem
          exact h f hf (hmem ▸ hc)
    · revert hmem; decide

/-- A row in quotes counts. -/
theorem counts_write {fs : List Text} (h : fs ≠ []) : counts (Row.write fs) := by
  have hhead := Row.head?_write h
  rw [counts, Row.trim_write h, hhead]
  cases hrow : Row.write fs with
  | nil => rw [hrow] at hhead; cases hhead
  | cons c t => rfl

/-- The names of the columns. -/
def soleHeader : List Text := ["template".toList, "platform".toList, "command".toList]

/-- The row of an entry. -/
def soleRow (e : Entry) : List Text := [e.template, e.platform, e.pattern]

/-- An index with one entry. -/
def soleIndex (e : Entry) : Text := Text.joinWith ['\n'] [Row.write soleHeader, Row.write (soleRow e)]

theorem parse_soleIndex {e : Entry} (he : e.Writable) (hfeed : ∀ f ∈ soleRow e, '\n' ∉ f) :
    ∃ notices, parse (soleIndex e) = .ok (Registry.ofEntries [e], notices) := by
  have hheader : (⟨0, 1, 2⟩ : Columns).Heads soleHeader := by decide +kernel
  have hrow : (⟨0, 1, 2⟩ : Columns).Shows e (soleRow e)
    | .template | .platform | .command => rfl
  have hne : soleHeader ≠ [] ∧ soleRow e ≠ [] := ⟨List.cons_ne_nil _ _, List.cons_ne_nil _ _⟩
  have hfeeds : ∀ l ∈ [Row.write soleHeader, Row.write (soleRow e)], '\n' ∉ l :=
    List.forall_mem_cons.2 ⟨Row.feed_notMem_write (by decide),
      List.forall_mem_singleton.2 (Row.feed_notMem_write hfeed)⟩
  have hlines := significantLines_joinWith (List.cons_ne_nil _ _) hfeeds
  rw [List.filter_cons_of_pos (counts_write hne.1), List.filter_cons_of_pos (counts_write hne.2), List.filter_nil,
    List.map_cons, List.map_singleton, Row.trim_write hne.1, Row.trim_write hne.2] at hlines
  obtain ⟨header, rows, hsig, hfirst, hrest⟩ := List.map_eq_cons_iff.1 hlines
  obtain ⟨row, rfl, hsecond⟩ := List.map_eq_singleton_iff.1 hrest
  obtain ⟨notices, hfold, -⟩ :=
    foldl_readRow (.cons (hsecond ▸ Columns.entry?_write he hrow) .nil) ({}, [])
  refine ⟨notices, ?_⟩
  unfold parse
  rw [soleIndex, hsig]
  simp only [hfirst, Columns.ofHeader_write hheader]
  exact congrArg Except.ok hfold

/-- An entry whose pattern accepts no command answers the command that is listed for it all the same, but in
    part. -/
theorem exists_partly_of_not_exact {dirs : List Path} {present : Path → Bool} {e : Entry} (he : e.Tidy)
    (hno : ∀ command, (Matcher.ofPattern e.pattern).isExact command = false)
    (hcore : Command.core e.pattern ≠ []) (hthere : ∃ dir ∈ dirs, present (Path.join dir e.template)) :
    ∃ ref, (Registry.ofEntries [e]).find dirs present e.platform (Command.core e.pattern) = .found ref ∧
      ref.kind = .partly := by
  have hentries : [e].filter (·.platform == e.platform) = [e] := by simp
  have hexact : (Registry.ofEntries [e]).findBy? dirs present e.platform (Command.core e.pattern) .exact =
      none := by
    rw [findBy?_eq_none_iff, hentries]
    rintro e' he' ⟨hfits, -⟩
    rw [List.mem_singleton.1 he', Fits, hno] at hfits
    cases hfits
  obtain ⟨path, hpath⟩ := exists_located_iff.2 hthere
  have hoffers : Offers dirs present (Command.core e.pattern) .partly e :=
    ⟨⟨hcore, hcore, .inl (List.infix_refl _)⟩, path, hpath⟩
  have hfirst : IsFirst (Offers dirs present (Command.core e.pattern) .partly)
      ([e].filter (·.platform == e.platform)) e := by
    rw [hentries]
    exact ⟨[], [], rfl, hoffers, fun _ h => absurd h List.not_mem_nil⟩
  have hpartly := findBy?_eq_some_iff.2 ⟨e, path, hfirst, hpath, rfl⟩
  have hnormal : Command.normalize (Command.core e.pattern) = Command.core e.pattern :=
    Command.normalize_normalize _
  rw [find_cases, he.platform, hnormal, Registry.entriesOf_ofEntries, hentries,
    if_neg (List.cons_ne_nil _ _), hexact]
  exact ⟨_, by rw [hpartly], rfl⟩

/-- Many words. -/
def longWords : List (List Segment) := List.replicate 50000 [.char 'a']

/-- An entry with these words for its pattern. -/
def longEntry : Entry := ⟨"os".toList, Text.joinWith [' '] (longWords.map Command.writtenWord), "x".toList⟩

theorem patternWord_longWords : ∀ w ∈ longWords, PatternWord w := by
  intro w hw
  rw [List.eq_of_mem_replicate hw]; decide

theorem longWords_ne_nil : longWords ≠ [] :=
  List.ne_nil_of_length_pos (by rw [longWords, List.length_replicate]; decide)

theorem writtenWord_longWords : longWords.map Command.writtenWord = List.replicate 50000 ['a'] :=
  List.map_replicate

theorem trim_longEntry : longEntry.pattern.trim = longEntry.pattern := by
  refine Text.trim_joinWith fun u hu => ?_
  rw [writtenWord_longWords] at hu
  rw [List.eq_of_mem_replicate hu]
  exact ⟨nofun, by unfold Text.IsSolid; decide⟩

theorem feed_notMem_longEntry : '\n' ∉ longEntry.pattern := by
  intro hmem
  rcases Text.mem_joinWith hmem with h | ⟨u, hu, h⟩
  · revert h; decide
  · rw [writtenWord_longWords] at hu
    rw [List.eq_of_mem_replicate hu] at h
    revert h; decide

theorem pattern_longEntry_ne_nil : longEntry.pattern ≠ [] := by
  have hcons : longWords.map Command.writtenWord = ['a'] :: List.replicate 49999 ['a'] :=
    writtenWord_longWords.trans List.replicate_succ
  rw [longEntry, hcons]
  exact Text.joinWith_ne_nil (by decide) _

theorem writable_longEntry : longEntry.Writable where
  filled
    | .template | .platform => by decide
    | .command => pattern_longEntry_ne_nil
  trimmed
    | .template | .platform => by decide
    | .command => trim_longEntry
  lower := by decide

/-- **The command of a pattern that is too long** is listed, and answered by a partial match. -/
theorem find_advertised_long :
    ∃ r notices, parse (soleIndex longEntry) = .ok (r, notices) ∧
      (r.entriesOf "os".toList)[0]? = some longEntry ∧
      (∀ w ∈ longWords, PatternWord w) ∧ Written ([.blank].intercalate longWords) longEntry.pattern ∧
      ∃ command, (r.commands "os".toList)[0]? = some command ∧
        ∃ ref, r.find ["t".toList] (fun _ => true) "os".toList command = .found ref ∧ ref.kind = .partly := by
  have hfields : ∀ f ∈ soleRow longEntry, '\n' ∉ f := by
    simp only [soleRow, List.forall_mem_cons, List.not_mem_nil, false_implies, implies_true, and_true]
    exact ⟨by decide, by decide, feed_notMem_longEntry⟩
  obtain ⟨notices, hparse⟩ := parse_soleIndex writable_longEntry hfields
  have hwritten := Command.written_words patternWord_longWords
  have hmany : Regex.Node.sizeLimit + 4 < 5 * longWords.length := by
    rw [longWords, List.length_replicate]; decide
  have htidy : longEntry.Tidy := ⟨trim_longEntry, by decide⟩
  have hcore := Command.core_ne_nil patternWord_longWords longWords_ne_nil hwritten
  have hentries : (Registry.ofEntries [longEntry]).entriesOf "os".toList = [longEntry] := by
    rw [Registry.entriesOf_ofEntries]
    exact List.filter_cons_of_pos rfl
  refine ⟨_, notices, hparse, by rw [hentries]; rfl, patternWord_longWords, hwritten,
    Command.core longEntry.pattern, by rw [Registry.commands, hentries]; rfl, ?_⟩
  exact exists_partly_of_not_exact htidy
    (Command.isExact_of_many_words patternWord_longWords trim_longEntry hwritten hmany) hcore
    ⟨"t".toList, List.mem_singleton_self _, rfl⟩

end Readout.Index
