/-
  The grammar of actions.

  * `Operations`: how the operations of an action are written, `Grammar`: how an action is;
  * `parseOps_eq_ok_iff`, `withArgument_eq_ok_iff`: what is read of the operations, and of the argument behind them;
  * `parse_eq_ok_iff`: the actions that are read are those of the grammar;
  * `parse_iff_grammar`: and each of them is read back when it is written.
-/
import Readout.Proofs.Template.Declaration

namespace Readout.Template

open Text (IsSolid EndsSolid)

/-! ## Keywords -/

theorem LineOp.ofKeyword?_eq_some_iff {t : Text} {l : LineOp} :
    LineOp.ofKeyword? t = some l ↔ t = l.keyword ∧ l.bare = l := by
  constructor
  · intro h
    have hkeyword := List.find?_some h
    have hmem := List.mem_of_find?_eq_some h
    refine ⟨(beq_iff_eq.1 hkeyword).symm, ?_⟩
    simp only [List.mem_cons, List.not_mem_nil, or_false] at hmem
    rcases hmem with rfl | rfl | rfl <;> rfl
  · rintro ⟨rfl, hl⟩
    rw [LineOp.ofKeyword?_keyword, hl]

theorem RecordOp.ofKeyword?_eq_some_iff {t : Text} {r : RecordOp} : RecordOp.ofKeyword? t = some r ↔ t = r.keyword := by
  constructor
  · intro h
    have hkeyword := List.find?_some h
    exact (beq_iff_eq.1 hkeyword).symm
  · rintro rfl
    exact RecordOp.ofKeyword?_keyword r

/-- No keyword is one of both kinds. -/
theorem LineOp.ofKeyword?_recordOp (r : RecordOp) : LineOp.ofKeyword? r.keyword = none := by cases r <;> rfl

theorem LineOp.dot_notMem_keyword (l : LineOp) : '.' ∉ l.keyword :=
  notMem_of_isNameChar l.keyword_chars (by decide)

theorem RecordOp.dot_notMem_keyword (r : RecordOp) : '.' ∉ r.keyword :=
  notMem_of_isNameChar r.keyword_chars (by decide)

namespace Action

/-! ## The grammar -/

/-- The text of operations: a line operation, a record operation, or both with a dot between them. -/
inductive Operations : Text → LineOp → RecordOp → Prop where
  | line (l : LineOp) : Operations l.keyword l.bare .noRecord
  | record (r : RecordOp) : Operations r.keyword .next r
  | both (l : LineOp) (r : RecordOp) : Operations (l.keyword ++ '.' :: r.keyword) l.bare r

/-- The text of an action, without white space around it. -/
inductive Grammar : Text → Action → Prop where
  | nothing : Grammar [] {}
  /-- a state to go to -/
  | state {name : Text} : isWord name → isReserved name = false → Grammar name { target := some name }
  /-- operations alone -/
  | bare {op : Text} {l : LineOp} {r : RecordOp} : Operations op l r → Grammar op { line := l, record := r }
  /-- operations that go on with the next line, and a state to go to -/
  | goTo {op gap name : Text} {r : RecordOp} : Operations op .next r → IsGap gap → isWord name →
    Grammar (op ++ (gap ++ name)) { record := r, target := some name }
  /-- an error, and its message with or without quotes -/
  | message {op gap u m : Text} {r : RecordOp} : Operations op (.error none) r → IsGap gap → u ≠ [] →
    u.trim = u → Text.Unquoted u m → Grammar (op ++ (gap ++ u)) { line := .error (some m), record := r }

/-! ## Operations -/

section
variable {op : Text} {l : LineOp} {r : RecordOp}

theorem Operations.bare_line (h : Operations op l r) : l.bare = l := by
  cases h with
  | line l | both l => cases l <;> rfl
  | record => rfl

theorem Operations.chars (h : Operations op l r) : ∀ c ∈ op, isNameChar c ∨ c = '.' := by
  cases h with
  | line l => exact fun c hc => .inl (l.keyword_chars c hc)
  | record r => exact fun c hc => .inl (r.keyword_chars c hc)
  | both l r => exact fun c hc => mem_operations (a := { line := l, record := r }) hc

theorem Operations.isSolid (h : Operations op l r) : IsSolid op := by
  intro c hc
  rcases h.chars c hc with hname | rfl
  · exact isSpace_of_isNameChar hname
  · decide

theorem Operations.ne_nil (h : Operations op l r) : op ≠ [] := by
  cases h with
  | line l => cases l <;> exact List.cons_ne_nil _ _
  | record r => cases r <;> exact List.cons_ne_nil _ _
  | both l r => exact List.append_ne_nil_of_right_ne_nil _ (List.cons_ne_nil _ _)

theorem span_dot {first : Text} (h : '.' ∉ first) (second : Text) :
    (first ++ '.' :: second).span (· != '.') = (first, '.' :: second) :=
  Text.span_append (fun c hc => bne_iff_ne.2 (ne_of_mem_of_not_mem hc h)) (by decide) second

/-- With a dot, a line operation stands in front of it and a record operation behind it. -/
theorem operations_dot_iff {first second : Text} (h : '.' ∉ first) : Operations (first ++ '.' :: second) l r ↔
    LineOp.ofKeyword? first = some l ∧ RecordOp.ofKeyword? second = some r := by
  rw [LineOp.ofKeyword?_eq_some_iff, RecordOp.ofKeyword?_eq_some_iff]
  constructor
  · intro hop
    have hdot : '.' ∈ first ++ '.' :: second := List.mem_append_right _ List.mem_cons_self
    have hspan := span_dot h second
    have hbare := hop.bare_line
    generalize first ++ '.' :: second = op at hop hdot hspan
    cases hop with
    | line l => exact absurd hdot l.dot_notMem_keyword
    | record r => exact absurd hdot r.dot_notMem_keyword
    | both l r =>
      rw [span_dot l.dot_notMem_keyword] at hspan
      obtain ⟨rfl, hsecond⟩ := Prod.mk.inj hspan
      obtain ⟨-, rfl⟩ := List.cons.inj hsecond
      exact ⟨⟨by cases l <;> rfl, hbare⟩, rfl⟩
  · rintro ⟨⟨rfl, hl⟩, rfl⟩
    have hboth := Operations.both l r
    rwa [hl] at hboth

/-- Without a dot, there is only one operation. -/
theorem operations_iff (h : '.' ∉ op) : Operations op l r ↔
    (LineOp.ofKeyword? op = some l ∧ r = .noRecord) ∨ (RecordOp.ofKeyword? op = some r ∧ l = .next) := by
  rw [LineOp.ofKeyword?_eq_some_iff, RecordOp.ofKeyword?_eq_some_iff]
  constructor
  · intro hop
    have hbare := hop.bare_line
    cases hop with
    | line l => exact .inl ⟨⟨by cases l <;> rfl, hbare⟩, rfl⟩
    | record r => exact .inr ⟨rfl, rfl⟩
    | both l r => exact absurd (List.mem_append_right _ List.mem_cons_self) h
  · rintro (⟨⟨rfl, hl⟩, rfl⟩ | ⟨rfl, rfl⟩)
    · have hline := Operations.line l
      rwa [hl] at hline
    · exact .record r

end

theorem isReserved_iff {t : Text} :
    isReserved t = false ↔ LineOp.ofKeyword? t = none ∧ RecordOp.ofKeyword? t = none := by
  rw [isReserved, Bool.or_eq_false_iff, Option.isSome_eq_false_iff, Option.isSome_eq_false_iff,
    Option.isNone_iff_eq_none, Option.isNone_iff_eq_none]

/-- **What is read of the first word of an action**: operations, or else the name of a state, with nothing behind it. -/
theorem parseOps_eq_ok_iff {t op argument u : Text} (h : Text.splitWord t = (op, argument)) {b : Action} :
    parseOps t = .ok (b, u) ↔
      (∃ l r, Operations op l r ∧ { line := l, record := r } = b ∧ argument = u) ∨
      ('.' ∉ op ∧ isReserved op = false ∧ argument = [] ∧ {} = b ∧ op = u) := by
  unfold parseOps
  simp only [h]
  by_cases hdot : '.' ∈ op
  · obtain ⟨first, second, rfl, hfirst⟩ := List.eq_append_cons_of_mem hdot
    simp only [span_dot hfirst, operations_dot_iff hfirst, hdot, not_true_eq_false, false_and, or_false]
    rcases LineOp.ofKeyword? first with _ | l
    · simp
    · rcases RecordOp.ofKeyword? second with _ | r
      · simp
      · simp
  · have hspan : op.span (· != '.') = (op, []) :=
      Text.span_of_forall fun c hc => bne_iff_ne.2 (ne_of_mem_of_not_mem hc hdot)
    simp only [hspan, operations_iff hdot, isReserved_iff]
    rcases hline : LineOp.ofKeyword? op with _ | l
    · rcases hrecord : RecordOp.ofKeyword? op with _ | r
      · cases argument <;> simp [hdot]
      · simp
    · have hrecord : RecordOp.ofKeyword? op = none := by
        rcases hop : RecordOp.ofKeyword? op with _ | r
        · rfl
        · rw [RecordOp.ofKeyword?_eq_some_iff.1 hop, LineOp.ofKeyword?_recordOp] at hline
          cases hline
      simp [hrecord]

/-! ## Arguments -/

/-- **What is read of an argument**: the message of an error, or else the word for a state, if there is one to go to. -/
theorem withArgument_eq_ok_iff {b a : Action} {u : Text} : b.withArgument u = .ok a ↔
    (u = [] ∧ b = a) ∨
    (u ≠ [] ∧ ((∃ m, b.line = .error m ∧ { b with line := .error (some u.stripQuotes) } = a) ∨
      (b.line = .next ∧ isWord u ∧ { b with target := some u } = a))) := by
  unfold withArgument
  cases u with
  | nil => simp
  | cons c u =>
    rcases hline : b.line with _ | _ | m
    · cases isWord (c :: u) <;> simp
    · cases isWord (c :: u) <;> simp
    · simp

/-! ## Actions -/

/-- A trimmed text is its first word, or a gap and a trimmed argument stand behind that. -/
theorem splitWord_cases {t op argument : Text} (ht : EndsSolid t) (h : Text.splitWord t = (op, argument)) :
    (argument = [] ∧ t = op) ∨
      (argument ≠ [] ∧ Text.trim argument = argument ∧ ∃ gap, IsGap gap ∧ t = op ++ (gap ++ argument)) := by
  obtain ⟨-, -, gap, hspace, hgap, heq⟩ := Text.exists_gap_of_splitWord ht h
  have htrim : Text.trim argument = argument := by
    obtain ⟨-, rfl⟩ := Prod.mk.inj h
    exact Text.trim_trim _
  by_cases hargument : argument = []
  · have hgap : gap = [] := by
      rw [heq, hargument, List.append_nil] at ht
      exact ht.of_append.eq_nil hspace
    rw [hargument, hgap, List.append_nil, List.append_nil] at heq
    exact .inl ⟨hargument, heq⟩
  · exact .inr ⟨hargument, htrim, gap, ⟨hgap hargument, hspace⟩, heq⟩

/-- What is read is in the grammar. -/
theorem grammar_of_parseOps {t u : Text} {b a : Action} (hne : t ≠ []) (ht : EndsSolid t)
    (hops : parseOps t = .ok (b, u)) (harg : b.withArgument u = .ok a) : Grammar t a := by
  rcases hsplit : Text.splitWord t with ⟨op, argument⟩
  rcases (parseOps_eq_ok_iff hsplit).1 hops with ⟨l, r, hop, rfl, rfl⟩ | ⟨-, hreserved, rfl, rfl, rfl⟩
  · rcases splitWord_cases ht hsplit with ⟨rfl, rfl⟩ | ⟨hargument, htrim, gap, hgap, rfl⟩
    · rcases withArgument_eq_ok_iff.1 harg with ⟨-, rfl⟩ | ⟨hargument, -⟩
      · exact .bare hop
      · exact absurd rfl hargument
    · rcases withArgument_eq_ok_iff.1 harg with ⟨hnil, -⟩ | ⟨-, ⟨m, hline, rfl⟩ | ⟨hline, hword, rfl⟩⟩
      · exact absurd hnil hargument
      · obtain rfl : l = .error m := hline
        have hbare := hop.bare_line
        cases hbare
        exact .message hop hgap hargument htrim (Text.stripQuotes_eq_iff.1 rfl)
      · obtain rfl : l = .next := hline
        exact .goTo hop hgap hword
  · obtain ⟨-, rfl⟩ | ⟨hargument, -⟩ := splitWord_cases ht hsplit
    · rcases withArgument_eq_ok_iff.1 harg with ⟨hnil, -⟩ | ⟨-, ⟨m, hline, -⟩ | ⟨-, hword, rfl⟩⟩
      · exact absurd hnil hne
      · cases hline
      · exact .state hword hreserved
    · exact absurd rfl hargument

/-- What is in the grammar is read. -/
theorem Grammar.exists_parseOps {t : Text} {a : Action} (h : Grammar t a) (hne : t ≠ []) :
    ∃ b u, parseOps t = .ok (b, u) ∧ b.withArgument u = .ok a := by
  cases h with
  | nothing => exact absurd rfl hne
  | state hword hreserved =>
    have hchars := (isWord_iff.1 hword).2
    have hsplit := Text.splitWord_of_isSolid (isSolid_of_isNameChar hchars)
    have hdot : '.' ∉ t := notMem_of_isNameChar hchars (by decide)
    exact ⟨_, _, (parseOps_eq_ok_iff hsplit).2 (.inr ⟨hdot, hreserved, rfl, rfl, rfl⟩),
      withArgument_eq_ok_iff.2 (.inr ⟨hne, .inr ⟨rfl, hword, rfl⟩⟩)⟩
  | bare hop =>
    have hsplit := Text.splitWord_of_isSolid hop.isSolid
    exact ⟨_, _, (parseOps_eq_ok_iff hsplit).2 (.inl ⟨_, _, hop, rfl, rfl⟩), withArgument_eq_ok_iff.2 (.inl ⟨rfl, rfl⟩)⟩
  | goTo hop hgap hword =>
    obtain ⟨hname, hchars⟩ := isWord_iff.1 hword
    have hsolid := isSolid_of_isNameChar hchars
    have hsplit := splitWord_gap hop.isSolid hgap hsolid.startsBlank hsolid.endsSolid
    exact ⟨_, _, (parseOps_eq_ok_iff hsplit).2 (.inl ⟨_, _, hop, rfl, rfl⟩),
      withArgument_eq_ok_iff.2 (.inr ⟨hname, .inr ⟨rfl, hword, rfl⟩⟩)⟩
  | message hop hgap hu htrim hm =>
    obtain ⟨hstart, hend⟩ := Text.trim_eq_self_iff.1 htrim
    have hsplit := splitWord_gap hop.isSolid hgap hstart hend
    rw [← Text.stripQuotes_eq_iff.2 hm]
    exact ⟨_, _, (parseOps_eq_ok_iff hsplit).2 (.inl ⟨_, _, hop, rfl, rfl⟩),
      withArgument_eq_ok_iff.2 (.inr ⟨hu, .inl ⟨none, rfl, rfl⟩⟩)⟩

/-- **The actions that are read are those of the grammar.** -/
theorem parse_eq_ok_iff {t : Text} {a : Action} : parse t = .ok a ↔ Grammar t.trim a := by
  unfold parse
  simp only [List.isEmpty_iff]
  split
  · rename_i hnil
    rw [hnil]
    constructor
    · rintro ⟨⟩
      exact .nothing
    · intro h
      generalize hu : ([] : Text) = u at h
      cases h with
      | nothing => rfl
      | state hword => exact absurd hu.symm (isWord_iff.1 hword).1
      | bare hop => exact absurd hu.symm hop.ne_nil
      | goTo hop | message hop => exact absurd hu.symm (List.append_ne_nil_of_left_ne_nil hop.ne_nil _)
  · rename_i hne
    constructor
    · intro h
      obtain ⟨⟨b, u⟩, hops, harg⟩ := exists_of_bind h
      exact grammar_of_parseOps hne (Text.endsSolid_trimEnd _) hops harg
    · intro h
      obtain ⟨b, u, hops, harg⟩ := h.exists_parseOps hne
      rw [hops]
      exact harg

/-- An action of the grammar can be written, unless there is a quote in its message. -/
theorem Grammar.legible {t : Text} {a : Action} (h : Grammar t a)
    (hmessage : ∀ m, a.line = .error (some m) → '"' ∉ m) : a.Legible := by
  refine ⟨?_, ?_, hmessage⟩
  · intro name hname
    cases h with
    | nothing | bare | message => cases hname
    | state hword | goTo _ _ hword =>
      cases hname
      exact isWord_iff.1 hword
  · intro hline
    cases h with
    | nothing | bare | message => rfl
    | state | goTo => exact absurd rfl hline

/-- **The grammar of actions.**  A text is read as an action if the grammar says so of it without the white space
    around it, and refused otherwise.  An action that is read goes to another state only if it goes on with the next
    line; and it is read back when it is written, unless there is a quote in its message. -/
theorem parse_iff_grammar (t : Text) (a : Action) :
    (parse t = .ok a ↔ Grammar t.trim a) ∧
      (parse t = .ok a → (a.line ≠ .next → a.target = none) ∧
        ((∀ m, a.line = .error (some m) → '"' ∉ m) → parse a.print = .ok a)) := by
  refine ⟨parse_eq_ok_iff, fun h => ⟨target_of_parse h, fun hmessage => ?_⟩⟩
  exact parse_print ((parse_eq_ok_iff.1 h).legible hmessage)

/-- A message with an arrow in it, and with two quotes at one end. -/
theorem parse_iff_grammar_message :
    let a : Action := { line := .error (some "x -> y".toList), record := .clear }
    parse "  Error.Clear\t\"\"x -> y\" ".toList = .ok a ∧ Grammar "Error.Clear\t\"\"x -> y\"".toList a ∧
      '"' ∉ "x -> y".toList ∧ a.print = "Error.Clear \"x -> y\"".toList ∧ parse a.print = .ok a := by
  intro a
  have hread : parse "  Error.Clear\t\"\"x -> y\" ".toList = .ok a := by decide +kernel
  have hquote : ∀ m, a.line = .error (some m) → '"' ∉ m := by rintro _ ⟨⟩; decide
  obtain ⟨hgrammar, hback⟩ := parse_iff_grammar "  Error.Clear\t\"\"x -> y\" ".toList a
  exact ⟨hread, hgrammar.1 hread, by decide, by decide, (hback hread).2 hquote⟩

/-- Operations come first: with a dot there is no state, and a keyword behind one is the name of a state. -/
example : parse "Next.".toList = .error (.unknownRecordOp []) ∧
    parse "a.b".toList = .error (.unknownLineOp ['a']) ∧
    parse "Continue End".toList = .error (.continueToState "End".toList) ∧
    parse "Next Record".toList = .ok { target := some "Record".toList } := by decide +kernel

end Action

end Readout.Template
