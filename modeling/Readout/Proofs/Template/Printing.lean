/-
  Declarations and rules that are written are read back.  The parts of a line are told apart by white space, by the
  parentheses of a pattern, by the dot between two operations and by the last arrow; what is written in one part is
  never taken for another.

  * `isNameChar_of_isSpace`: a name has no white space;
  * `Value.parse_print`: a declaration is read back, whatever its pattern looks like;
  * `Action.Legible`, `Action.parse_print`: so is an action, with its message or the state to go to;
  * `Rule.splitArrowFrom?_arrow`: the arrow in front of the action is the last one, whatever stands in the pattern;
  * `Rule.parse_print`: a rule is read back.
-/
import Readout.Proofs.Template.Validity
import Readout.Proofs.Text.Lines

namespace Readout.Template

open Text (IsSolid EndsSolid)

/-! ## Names -/

/-- **White space is not in names.** -/
theorem isNameChar_of_isSpace {c : Char} (h : Unicode.isSpace c) : isNameChar c = false := by
  have hall : ∀ r ∈ Unicode.spaceRanges, ∀ i < r.2 + 1 - r.1, isNameChar (Char.ofNat (r.1 + i)) = false := by
    decide +kernel
  obtain ⟨r, hr, hc⟩ := List.any_eq_true.1 h
  simp only [Bool.and_eq_true, decide_eq_true_eq] at hc
  have := hall r hr (c.toNat - r.1) (by omega)
  rwa [Nat.add_sub_cancel' hc.1, Char.ofNat_toNat] at this

theorem isSpace_of_isNameChar {c : Char} (h : isNameChar c) : Unicode.isSpace c = false := by
  by_contra hspace
  have hname := isNameChar_of_isSpace (by simpa using hspace)
  rw [h] at hname; cases hname

theorem isSolid_of_isNameChar {t : Text} (h : ∀ c ∈ t, isNameChar c) : IsSolid t :=
  fun c hc => isSpace_of_isNameChar (h c hc)

/-- Signs are not in names. -/
theorem notMem_of_isNameChar {t : Text} {c : Char} (h : ∀ c ∈ t, isNameChar c) (hc : isNameChar c = false) :
    c ∉ t := by
  intro hmem
  rw [h c hmem] at hc; cases hc

/-! ## Values -/

namespace Value

theorem ofKeyword?_keyword (o : ValueOption) : ValueOption.ofKeyword? o.keyword = some o := by cases o <;> decide

theorem keyword_chars (o : ValueOption) : ∀ c ∈ o.keyword, isNameChar c :=
  List.all_eq_true.1 (by cases o <;> decide)

theorem keyword_ne_nil (o : ValueOption) : o.keyword ≠ [] := by cases o <;> decide

theorem foldlM_addOption : ∀ {new os : List ValueOption}, (os ++ new).Nodup →
    (new.map (·.keyword)).foldlM addOption os = .ok (os ++ new)
  | [], os, _ => by rw [List.append_nil]; rfl
  | o :: new, os, h => by
    have hnew : o ∉ os := by
      rw [List.nodup_append] at h
      exact fun ho => h.2.2 o ho o List.mem_cons_self rfl
    have hstep : addOption os o.keyword = .ok (os ++ [o]) := by
      rw [addOption, ofKeyword?_keyword]
      simp [hnew]
    rw [List.append_cons] at h ⊢
    rw [List.map_cons, List.foldlM_cons, hstep]
    exact foldlM_addOption h

theorem isSolid_keyword (o : ValueOption) : IsSolid o.keyword := isSolid_of_isNameChar (keyword_chars o)

/-- The text of options. -/
def printOptions (os : List ValueOption) : Text := Text.joinWith [','] (os.map (·.keyword))

theorem printOptions_ne_nil {os : List ValueOption} (h : os ≠ []) : printOptions os ≠ [] := by
  obtain ⟨o, os, rfl⟩ := List.exists_cons_of_ne_nil h
  rw [printOptions, List.map_cons]
  exact Text.joinWith_ne_nil (keyword_ne_nil o) _

theorem isSolid_printOptions (os : List ValueOption) : IsSolid (printOptions os) := by
  intro c hc
  rcases Text.mem_joinWith hc with h | ⟨t, ht, h⟩
  · rw [List.mem_singleton.1 h]; decide
  · obtain ⟨o, -, rfl⟩ := List.mem_map.1 ht
    exact isSolid_keyword o c h

/-- **Options that are written are read back.** -/
theorem parseOptions_print {os : List ValueOption} (h : os.Nodup) : parseOptions (printOptions os) = .ok os := by
  rw [parseOptions_eq]
  rcases eq_or_ne os [] with rfl | hne
  · rfl
  · have hcomma : ∀ t ∈ os.map (·.keyword), ',' ∉ t := by
      rintro _ ht
      obtain ⟨o, -, rfl⟩ := List.mem_map.1 ht
      exact notMem_of_isNameChar (keyword_chars o) (by decide)
    have hkeep : (os.map (·.keyword)).filter (!·.isEmpty) = os.map (·.keyword) := by
      refine List.filter_eq_self.2 fun t ht => ?_
      obtain ⟨o, -, rfl⟩ := List.mem_map.1 ht
      simpa using keyword_ne_nil o
    rw [printOptions, Text.pieces_joinWith (by simpa using hne) hcomma, hkeep]
    exact foldlM_addOption h

/-- Can the declaration be written?  Its pattern is in parentheses, and so has no white space around it. -/
structure Printable (v : Value) : Prop where
  name : ProperName v.name
  options : v.options.Nodup
  opens : v.pattern.head? = some '('
  closes : v.pattern.getLast? = some ')'
  feed : '\n' ∉ v.pattern
  compiles : (Regex.LinePattern.parse? v.pattern).isSome

variable {v : Value}

/-- The declaration behind its keyword. -/
def body (v : Value) : Text :=
  (if v.options.isEmpty then [] else printOptions v.options ++ [' ']) ++ v.name ++ ' ' :: v.pattern

theorem print_eq (v : Value) : v.print = "Value".toList ++ ' ' :: v.body := by
  have hkeyword : "Value ".toList = "Value".toList ++ [' '] := by decide
  unfold print body printOptions
  rw [hkeyword]
  simp only [List.append_assoc, List.cons_append, List.nil_append]

namespace Printable

theorem endsSolid_pattern (h : v.Printable) : EndsSolid v.pattern := by
  intro c hc
  rw [h.closes] at hc; cases hc; decide

theorem pattern_ne_nil (h : v.Printable) : v.pattern ≠ [] := by
  intro hnil
  have := h.opens
  rw [hnil] at this; cases this

theorem trim_pattern (h : v.Printable) : v.pattern.trim = v.pattern := by
  refine Text.trim_eq_self ?_ h.endsSolid_pattern
  rw [Text.startsBlank, h.opens]; decide

theorem isSolid_name (h : v.Printable) : IsSolid v.name := isSolid_of_isNameChar h.name.chars

theorem endsSolid_body (h : v.Printable) : EndsSolid v.body := h.endsSolid_pattern.append_cons h.pattern_ne_nil _ _

theorem startsBlank_body (h : v.Printable) : Text.startsBlank v.body = false := by
  unfold body
  split
  · rw [List.nil_append, Text.startsBlank_append h.name.ne_nil]
    exact h.isSolid_name.startsBlank
  · rename_i hos
    rw [List.append_assoc, List.append_assoc, Text.startsBlank_append (printOptions_ne_nil (by simpa using hos))]
    exact (isSolid_printOptions _).startsBlank

/-- **The parts of a declaration are told apart**: a name does not start like a pattern. -/
theorem split_body (h : v.Printable) : split v.body = (printOptions v.options, v.name, v.pattern) := by
  have hname : Text.splitWord (v.name ++ ' ' :: v.pattern) = (v.name, v.pattern) := by
    rw [Text.splitWord_append h.isSolid_name (by decide), h.trim_pattern]
  unfold body
  split
  · rename_i hos
    rw [List.isEmpty_iff.1 hos, List.nil_append, split, hname]
    simp only [h.opens, if_true]
    rfl
  · have htrim : Text.trim (v.name ++ ' ' :: v.pattern) = v.name ++ ' ' :: v.pattern := by
      refine Text.trim_eq_self ?_ ?_
      · rw [Text.startsBlank_append h.name.ne_nil]; exact h.isSolid_name.startsBlank
      · exact h.endsSolid_pattern.append_cons h.pattern_ne_nil _ _
    have hhead : some '(' ≠ (v.name ++ ' ' :: v.pattern).head? := by
      rw [List.head?_append_of_ne_nil _ h.name.ne_nil]
      exact fun hhead => notMem_of_isNameChar h.name.chars (by decide) (List.mem_of_head? hhead.symm)
    rw [List.append_assoc, List.append_assoc, List.singleton_append, split,
      Text.splitWord_append (isSolid_printOptions _) (by decide), htrim]
    simp only [hhead.symm, if_false, hname]

theorem endsSolid_print (h : v.Printable) : EndsSolid v.print := by
  rw [print_eq]
  exact h.endsSolid_body.append_cons (List.append_ne_nil_of_right_ne_nil _ (List.cons_ne_nil _ _)) _ _

theorem feed_notMem_print (h : v.Printable) : '\n' ∉ v.print := by
  have hoptions := (isSolid_printOptions v.options).feed_notMem
  have hname := h.isSolid_name.feed_notMem
  rw [print_eq, body]
  split <;> simp [hoptions, hname, h.feed]

end Printable

/-- **A declaration that is written is read back**, whatever its pattern looks like. -/
theorem parse_print (h : v.Printable) : parse v.print = .ok v := by
  have htrim : v.print.trim = v.print := by
    refine Text.trim_eq_self ?_ h.endsSolid_print
    rw [print_eq]; rfl
  have hrest : "Value".toList.isPrefixOf? v.print.trim = some (' ' :: v.body) := by
    rw [htrim, print_eq]; rfl
  have hstart : Text.trimStart (' ' :: v.body) = v.body := by
    rw [Text.trimStart_cons_of_isSpace (by decide), Text.trimStart_eq_self h.startsBlank_body]
  have hblank : Text.startsBlank (' ' :: v.body) = true := rfl
  have hname : isName v.name := isName_iff.2 h.name
  have hcompiles : (Regex.LinePattern.parse? v.pattern).isNone = false := by
    rw [Option.isNone_eq_false_iff]; exact h.compiles
  unfold parse
  rw [hrest]
  simp only [hblank, hstart, h.split_body]
  rw [if_neg (by decide), if_neg (by simp [h.name.ne_nil, h.pattern_ne_nil]), if_neg (by simp [hname]),
    if_neg (by simp [h.opens, h.closes]), if_neg (by simp [hcompiles]), parseOptions_print h.options]
  rfl

end Value

/-! ## Actions -/

theorem LineOp.keyword_chars (op : LineOp) : ∀ c ∈ op.keyword, isNameChar c :=
  List.all_eq_true.1 (by rcases op with _ | _ | _ <;> rfl)

theorem RecordOp.keyword_chars (op : RecordOp) : ∀ c ∈ op.keyword, isNameChar c :=
  List.all_eq_true.1 (by cases op <;> decide)

theorem isWord_iff {t : Text} : isWord t ↔ t ≠ [] ∧ ∀ c ∈ t, isNameChar c := by simp [isWord]

namespace Action

/-- The text of the operations. -/
def operations (a : Action) : Text := a.line.keyword ++ '.' :: a.record.keyword

/-- The text behind the operations: the message of an error, or else the state to go to. -/
def argument (a : Action) : Text :=
  match a.line, a.target with
  | .error (some message), _ => '"' :: (message ++ ['"'])
  | _, some state => state
  | _, none => []

/-- Is the action one that can be read, with a message that does not look like the end of itself? -/
structure Legible (a : Action) : Prop where
  target : ∀ name, a.target = some name → name ≠ [] ∧ ∀ c ∈ name, isNameChar c
  line : a.line ≠ .next → a.target = none
  message : ∀ message, a.line = .error (some message) → '"' ∉ message

/-- Can the action be written?  Its message must not look like the end of itself, of a line or of a pattern. -/
structure Printable (a : Action) : Prop where
  target : ∀ name, a.target = some name → name ≠ [] ∧ ∀ c ∈ name, isNameChar c
  line : a.line ≠ .next → a.target = none
  message : ∀ message, a.line = .error (some message) →
    '"' ∉ message ∧ '\n' ∉ message ∧ ∀ c, Unicode.isSpace c → ¬ [c, '-', '>'] <:+: message

variable {a : Action}

theorem Printable.legible (h : a.Printable) : a.Legible := ⟨h.target, h.line, fun m hm => (h.message m hm).1⟩

theorem mem_operations {c : Char} (hc : c ∈ a.operations) : isNameChar c ∨ c = '.' := by
  rcases List.mem_append.1 hc with hc | hc
  · exact .inl (LineOp.keyword_chars _ c hc)
  · exact (List.mem_cons.1 hc).symm.imp_left (RecordOp.keyword_chars _ c)

theorem isSolid_operations (a : Action) : IsSolid a.operations := by
  intro c hc
  rcases mem_operations hc with hname | rfl
  · exact isSpace_of_isNameChar hname
  · decide

theorem operations_ne_nil (a : Action) : a.operations ≠ [] :=
  List.append_ne_nil_of_right_ne_nil _ (List.cons_ne_nil _ _)

/-- A message is in quotes, and the name of a state is a word. -/
theorem Legible.argument_cases (h : a.Legible) :
    (∃ message, a.line = .error (some message) ∧ a.target = none ∧ a.argument = '"' :: (message ++ ['"'])) ∨
      (∃ name, a.line = .next ∧ a.target = some name ∧ a.argument = name) ∨
      a.line = a.line.bare ∧ a.target = none ∧ a.argument = [] := by
  rcases a with ⟨_ | _ | _ | message, op, _ | name⟩
  · exact .inr (.inr ⟨rfl, rfl, rfl⟩)
  · exact .inr (.inl ⟨name, rfl, rfl, rfl⟩)
  · exact .inr (.inr ⟨rfl, rfl, rfl⟩)
  · cases h.line nofun
  · exact .inr (.inr ⟨rfl, rfl, rfl⟩)
  · cases h.line nofun
  · exact .inl ⟨message, rfl, rfl, rfl⟩
  · cases h.line nofun

theorem Legible.print_eq (h : a.Legible) :
    a.print = if a.argument.isEmpty then a.operations else a.operations ++ ' ' :: a.argument := by
  have hoperations : a.line.keyword ++ ['.'] ++ a.record.keyword = a.operations := by
    rw [List.append_assoc]; rfl
  unfold print
  rw [hoperations]
  rcases h.argument_cases with ⟨message, hline, htarget, harg⟩ | ⟨name, hline, htarget, harg⟩ | ⟨hline, htarget, harg⟩
  · rw [harg, hline, htarget]; rfl
  · have hname : name.isEmpty = false := by simpa using (h.target name htarget).1
    rw [harg, hline, htarget, hname]; rfl
  · rw [harg, htarget]
    rcases hop : a.line with _ | _ | _ | message <;> rw [hop] at hline
    · exact List.append_nil _
    · exact List.append_nil _
    · exact List.append_nil _
    · cases hline

/-- The argument stays as it is when it is trimmed. -/
theorem Legible.argument_solid (h : a.Legible) :
    Text.startsBlank a.argument = false ∧ EndsSolid a.argument := by
  rcases h.argument_cases with ⟨message, -, -, harg⟩ | ⟨name, -, htarget, harg⟩ | ⟨-, -, harg⟩ <;> rw [harg]
  · exact ⟨by rfl, Text.endsSolid_concat (t := '"' :: message).2 (by decide)⟩
  · have hsolid := isSolid_of_isNameChar (h.target name htarget).2
    exact ⟨hsolid.startsBlank, hsolid.endsSolid⟩
  · exact ⟨rfl, nofun⟩

theorem Legible.endsSolid_print (h : a.Legible) : EndsSolid a.print := by
  rw [h.print_eq]
  split
  · exact (isSolid_operations a).endsSolid
  · rename_i hne
    exact h.argument_solid.2.append_cons (by simpa using hne) _ _

theorem Legible.print_ne_nil (h : a.Legible) : a.print ≠ [] := by
  rw [h.print_eq]
  split
  · exact operations_ne_nil a
  · exact List.append_ne_nil_of_right_ne_nil _ (List.cons_ne_nil _ _)

theorem Legible.startsBlank_print (h : a.Legible) : Text.startsBlank a.print = false := by
  rw [h.print_eq]
  split
  · exact (isSolid_operations a).startsBlank
  · rw [Text.startsBlank_append (operations_ne_nil a)]
    exact (isSolid_operations a).startsBlank

theorem Printable.feed_notMem_print (h : a.Printable) : '\n' ∉ a.print := by
  have hoperations : '\n' ∉ a.operations := (isSolid_operations a).feed_notMem
  have hargument : '\n' ∉ a.argument := by
    rcases h.legible.argument_cases with ⟨message, hline, -, harg⟩ | ⟨name, -, htarget, harg⟩ | ⟨-, -, harg⟩ <;> rw [harg]
    · simp [(h.message message hline).2.1]
    · exact notMem_of_isNameChar (h.target name htarget).2 (by decide)
    · exact List.not_mem_nil
  rw [h.legible.print_eq]
  split
  · exact hoperations
  · simp [hoperations, hargument]

/-- **The operations are told apart from the argument.** -/
theorem Legible.splitWord_print (h : a.Legible) : Text.splitWord a.print = (a.operations, a.argument) := by
  rw [h.print_eq]
  split
  · rename_i hnil
    rw [Text.splitWord_of_isSolid (isSolid_operations a), List.isEmpty_iff.1 hnil]
  · rw [Text.splitWord_append (isSolid_operations a) (by decide),
      Text.trim_eq_self h.argument_solid.1 h.argument_solid.2]

theorem Legible.parseOps_print (h : a.Legible) :
    parseOps a.print = .ok ({ line := a.line.bare, record := a.record }, a.argument) := by
  have hdot : ∀ c ∈ a.line.keyword, (c != '.') = true := fun c hc => by
    refine bne_iff_ne.2 ?_
    rintro rfl
    exact notMem_of_isNameChar (LineOp.keyword_chars _) (by decide) hc
  have hspan : a.operations.span (· != '.') = (a.line.keyword, '.' :: a.record.keyword) :=
    Text.span_append hdot (by decide) _
  unfold parseOps
  simp only [h.splitWord_print, hspan, LineOp.ofKeyword?_keyword, RecordOp.ofKeyword?_keyword]

/-- **An action that has been taken apart is put together again.** -/
theorem Legible.withArgument_argument (h : a.Legible) :
    withArgument { line := a.line.bare, record := a.record } a.argument = .ok a := by
  rcases h.argument_cases with ⟨message, hline, htarget, harg⟩ | ⟨name, hline, htarget, harg⟩ | ⟨hline, htarget, harg⟩
  · have hstrip := Text.stripQuotes_quoted (h.message message hline)
    rcases a with ⟨line, op, target⟩
    obtain rfl : line = _ := hline
    obtain rfl : target = _ := htarget
    rw [harg, withArgument]
    simp only [LineOp.bare, hstrip]
    rfl
  · have hword : isWord name := isWord_iff.2 (h.target name htarget)
    have hne : name.isEmpty = false := by simpa using (h.target name htarget).1
    rcases a with ⟨line, op, target⟩
    obtain rfl : line = _ := hline
    obtain rfl : target = _ := htarget
    rw [harg, withArgument]
    simp only [LineOp.bare, hne, hword, if_true]
    rfl
  · rw [harg, withArgument, ← hline, ← htarget]
    rfl

theorem parse_cons_of_isSpace {c : Char} (hc : Unicode.isSpace c) (t : Text) : parse (c :: t) = parse t := by
  simp only [parse, Text.trim_cons_of_isSpace hc]

/-- **An action that is written is read back.** -/
theorem parse_print (h : a.Legible) : parse a.print = .ok a := by
  have htrim : a.print.trim = a.print := Text.trim_eq_self h.startsBlank_print h.endsSolid_print
  have hne : a.print.isEmpty = false := by simpa using h.print_ne_nil
  unfold parse
  simp only [htrim, hne, h.parseOps_print]
  exact h.withArgument_argument

end Action

/-! ## Rules -/

namespace Rule

/-- A character that starts no arrow goes to the pattern. -/
theorem splitArrowFrom?_cons {c : Char} (hc : c ≠ '-') (blank : Bool) (t : Text) :
    splitArrowFrom? blank (c :: t) = (splitArrowFrom? (Unicode.isSpace c) t).map fun p => (c :: p.1, p.2) := by
  conv => lhs; unfold splitArrowFrom?
  rcases splitArrowFrom? (Unicode.isSpace c) t with _ | ⟨pattern, action⟩
  · simp only [Option.map_none]
    split
    · exact absurd rfl hc
    · rfl
  · rfl

theorem splitArrowFrom?_of_notMem : ∀ {t : Text}, '-' ∉ t → ∀ blank, splitArrowFrom? blank t = none
  | [], _, _ => rfl
  | c :: t, ht, blank => by
    rw [List.mem_cons, not_or] at ht
    rw [splitArrowFrom?_cons (Ne.symm ht.1), splitArrowFrom?_of_notMem ht.2, Option.map_none]

/-- A text without a dash does not matter in front of one without an arrow. -/
theorem splitArrowFrom?_append {c : Char} (hc : c ≠ '-') {t : Text}
    (ht : splitArrowFrom? (Unicode.isSpace c) t = none) : ∀ {u : Text}, '-' ∉ u → ∀ blank,
    splitArrowFrom? blank (u ++ c :: t) = none
  | [], _, blank => by rw [List.nil_append, splitArrowFrom?_cons hc, ht, Option.map_none]
  | d :: u, hu, blank => by
    rw [List.mem_cons, not_or] at hu
    rw [List.cons_append, splitArrowFrom?_cons (Ne.symm hu.1), splitArrowFrom?_append hc ht hu.2, Option.map_none]

/-- In a message there is no arrow behind white space. -/
theorem splitArrowFrom?_message : ∀ {message : Text} {blank : Bool},
    (∀ c, Unicode.isSpace c → ¬ [c, '-', '>'] <:+: message) → (blank → ¬ ['-', '>'] <+: message) →
    splitArrowFrom? blank (message ++ ['"']) = none
  | [], blank, _, _ => by
    rw [List.nil_append, splitArrowFrom?_cons (by decide)]; rfl
  | d :: message, blank, harrow, hfront => by
    have ih : splitArrowFrom? (Unicode.isSpace d) (message ++ ['"']) = none := by
      refine splitArrowFrom?_message (fun c hc h => harrow c hc (h.trans (List.suffix_cons d message).isInfix))
        fun hd h => harrow d hd ?_
      exact ((List.prefix_cons_inj d).2 h).isInfix
    rw [List.cons_append]
    unfold splitArrowFrom?
    rw [ih]
    simp only
    split
    · rename_i action heq
      -- the arrow stands at the front of the message, and so not behind white space
      have hblank : blank = false := by
        rw [Bool.eq_false_iff]
        intro hb
        rcases message with _ | ⟨e, message⟩
        · cases heq
        · obtain ⟨rfl, -⟩ := List.cons.inj heq
          exact hfront hb ⟨message, rfl⟩
      rw [hblank]; rfl
    · rfl

/-- There is no arrow in an action that is written. -/
theorem splitArrowFrom?_print {a : Action} (h : a.Printable) : splitArrowFrom? false (' ' :: a.print) = none := by
  have hoperations : '-' ∉ a.operations := fun hmem => by
    rcases Action.mem_operations hmem with h | h <;> revert h <;> decide
  -- only a message may have a dash in it
  have hplain : '-' ∉ a.argument → splitArrowFrom? false (' ' :: a.print) = none := by
    intro hargument
    refine splitArrowFrom?_of_notMem ?_ _
    rw [h.legible.print_eq]
    split <;> simp [hoperations, hargument]
  rcases h.legible.argument_cases with ⟨message, hline, -, harg⟩ | ⟨name, -, htarget, harg⟩ | ⟨-, -, harg⟩
  · have hmessage : splitArrowFrom? (Unicode.isSpace '"') (message ++ ['"']) = none :=
      splitArrowFrom?_message (h.message message hline).2.2 nofun
    have hprint : ' ' :: a.print = (' ' :: a.operations ++ [' ']) ++ '"' :: (message ++ ['"']) := by
      rw [h.legible.print_eq, harg]
      simp
    rw [hprint]
    exact splitArrowFrom?_append (by decide) hmessage (by simp [hoperations]) _
  · exact hplain (harg ▸ notMem_of_isNameChar (h.target name htarget).2 (by decide))
  · exact hplain (harg ▸ List.not_mem_nil)

/-- **The arrow in front of an action is the last one**, whatever stands in the pattern. -/
theorem splitArrowFrom?_arrow {action : Text} (h : splitArrowFrom? false action = none) :
    ∀ (source : Text) (blank : Bool),
    splitArrowFrom? blank (source ++ ' ' :: '-' :: '>' :: action) = some (source ++ [' '], action)
  | [], blank => by
    have hbehind : splitArrowFrom? (Unicode.isSpace '-') ('>' :: action) = none := by
      rw [splitArrowFrom?_cons (by decide), show Unicode.isSpace '>' = false by decide, h, Option.map_none]
    have harrow : splitArrowFrom? (Unicode.isSpace ' ') ('-' :: '>' :: action) = some ([], action) := by
      unfold splitArrowFrom?
      rw [hbehind]; rfl
    rw [List.nil_append, splitArrowFrom?_cons (by decide), harrow]; rfl
  | c :: source, blank => by
    rw [List.cons_append]
    unfold splitArrowFrom?
    rw [splitArrowFrom?_arrow h source]; rfl

/-- Can the rule be written, in a template that declares `values`? -/
structure Printable (values : List Value) (r : Rule) : Prop where
  caret : r.source.head? = some '^'
  feed : '\n' ∉ r.source
  endsSolid : EndsSolid r.source
  expanded : substitute values r.source = .ok r.expanded
  regex : Regex.LinePattern.parse? r.expanded = some r.regex
  bindings : r.bindings = bindingsOf values r.regex
  action : r.action.Printable

variable {values : List Value} {r : Rule}

theorem print_eq (r : Rule) : r.print = ' ' :: ' ' :: (r.source ++ ' ' :: '-' :: '>' :: ' ' :: r.action.print) := by
  have hindent : "  ".toList = [' ', ' '] := by decide
  have harrow : " -> ".toList = [' ', '-', '>', ' '] := by decide
  unfold print
  rw [hindent, harrow]
  simp only [List.append_assoc, List.cons_append, List.nil_append]

namespace Printable

theorem source_eq (h : r.Printable values) : ∃ u, r.source = '^' :: u := List.head?_eq_some_iff.1 h.caret

theorem endsSolid_body (h : r.Printable values) :
    EndsSolid (r.source ++ ' ' :: '-' :: '>' :: ' ' :: r.action.print) := by
  have haction := h.action.legible.endsSolid_print.append h.action.legible.print_ne_nil (r.source ++ [' ', '-', '>', ' '])
  rwa [List.append_assoc] at haction

theorem endsSolid_print (h : r.Printable values) : EndsSolid r.print := by
  rw [print_eq]
  exact h.endsSolid_body.append (List.append_ne_nil_of_right_ne_nil _ (List.cons_ne_nil _ _)) [' ', ' ']

theorem trim_print (h : r.Printable values) :
    r.print.trim = r.source ++ ' ' :: '-' :: '>' :: ' ' :: r.action.print := by
  rw [print_eq, Text.trim_cons_of_isSpace (by decide), Text.trim_cons_of_isSpace (by decide)]
  refine Text.trim_eq_self ?_ h.endsSolid_body
  obtain ⟨u, hu⟩ := h.source_eq
  rw [hu]; rfl

theorem startsRule_print (h : r.Printable values) : startsRule r.print := by
  obtain ⟨u, hu⟩ := h.source_eq
  rw [print_eq, hu]; rfl

theorem feed_notMem_print (h : r.Printable values) : '\n' ∉ r.print := by
  rw [print_eq]
  simp [h.feed, h.action.feed_notMem_print]

end Printable

/-- **A rule that is written is read back**, with the line that it stands in. -/
theorem parse_print (h : r.Printable values) (n : Nat) : parse values n r.print = .ok { r with line := n } := by
  have hsplit : splitArrow? r.print.trim = some (r.source, ' ' :: r.action.print) := by
    rw [h.trim_print, splitArrow?, splitArrowFrom?_arrow (splitArrowFrom?_print h.action), Option.map_some]
    simp only [Text.trimEnd_concat_of_isSpace (c := ' ') (by decide), Text.trimEnd_eq_self h.endsSolid]
  have haction : Action.parse (' ' :: r.action.print) = .ok r.action :=
    (Action.parse_cons_of_isSpace (by decide) _).trans (Action.parse_print h.action.legible)
  simp only [parse, hsplit, haction, h.expanded, h.regex, bind, Except.bind]
  rw [← h.bindings]

/-- The rule with a pattern and an action. -/
def ofSource (values : List Value) (source : Text) (action : Action) : Rule :=
  let expanded := (substitute values source).toOption.getD []
  let regex := (Regex.LinePattern.parse? expanded).getD ⟨.empty, []⟩
  { source, expanded, regex, action, bindings := bindingsOf values regex, line := 0 }

/-- A pattern that compiles makes a rule. -/
theorem printable_ofSource {source : Text} {action : Action} (hcaret : source.head? = some '^')
    (hfeed : '\n' ∉ source) (hsolid : EndsSolid source)
    (hcompiles : ((substitute values source).toOption.bind Regex.LinePattern.parse?).isSome)
    (haction : action.Printable) : (ofSource values source action).Printable values := by
  obtain ⟨regex, hregex⟩ := Option.isSome_iff_exists.1 hcompiles
  obtain ⟨expanded, hoption, hparse⟩ := Option.bind_eq_some_iff.1 hregex
  rcases hsub : substitute values source with e | t <;> rw [hsub] at hoption
  · cases hoption
  · cases hoption
    refine ⟨hcaret, hfeed, hsolid, ?_, ?_, rfl, haction⟩ <;> simp [ofSource, hsub, hparse, Except.toOption]

end Rule

end Readout.Template
