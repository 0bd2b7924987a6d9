/-
  Messages of errors.  A rule may reject its line with a message in quotes.  The quotes do not protect the message: a
  line is cut into pattern and action at its last arrow behind white space before anything is known of quotes.

  * `HasArrow`: is there an arrow behind white space in a text?
  * `Rule.splitArrowFrom?_behind`: a line is cut at such an arrow, or further behind;
  * `Rule.parse_errorLine_iff`: so a message is read back if it has no such arrow, and only then.
-/
import Mathlib.Data.List.Infix
import Readout.Proofs.Template.Accepted
import Readout.Proofs.Template.Grammar

namespace Readout.Template

open Text (IsSolid EndsSolid)

/-- Is there an arrow behind white space in the text? -/
def HasArrow (t : Text) : Prop := ∃ c, Unicode.isSpace c ∧ [c, '-', '>'] <:+: t

/-- Only a character of the text can stand in front of an arrow in it. -/
instance (t : Text) : Decidable (HasArrow t) :=
  decidable_of_iff (t.any fun c => Unicode.isSpace c && decide ([c, '-', '>'] <:+: t)) <| by
    simp only [List.any_eq_true, Bool.and_eq_true, decide_eq_true_eq]
    exact ⟨fun ⟨c, _, h⟩ => ⟨c, h⟩, fun ⟨c, hc, h⟩ => ⟨c, h.subset List.mem_cons_self, hc, h⟩⟩

theorem not_hasArrow_iff {t : Text} : ¬ HasArrow t ↔ ∀ c, Unicode.isSpace c → ¬ [c, '-', '>'] <:+: t := by
  simp only [HasArrow, not_exists, not_and]

/-- The action of an error with a message. -/
def Action.ofMessage (message : Text) : Action := { line := .error (some message) }

/-- **A message in quotes is read back**, whatever white space and arrows there are in it. -/
theorem Action.parse_quoted {message : Text} (h : '"' ∉ message) :
    parse (" Error ".toList ++ '"' :: (message ++ ['"'])) = .ok (ofMessage message) := by
  have hquoted : EndsSolid ('"' :: (message ++ ['"'])) := Text.endsSolid_concat (t := '"' :: message).2 (by decide)
  have hargument : Text.trim ('"' :: (message ++ ['"'])) = '"' :: (message ++ ['"']) := Text.trim_eq_self rfl hquoted
  have hgrammar : Grammar ((LineOp.error none).keyword ++ ([' '] ++ '"' :: (message ++ ['"']))) (ofMessage message) :=
    .message (.line _) isGap_blank (List.cons_ne_nil _ _) hargument (Text.stripQuotes_eq_iff.1 (Text.stripQuotes_quoted h))
  have htrim := Text.trim_eq_self (t := (LineOp.error none).keyword ++ ([' '] ++ '"' :: (message ++ ['"']))) rfl
    ((hquoted.append (List.cons_ne_nil _ _) [' ']).append (by simp) _)
  refine (parse_cons_of_isSpace (c := ' ') (by decide) _).trans (parse_eq_ok_iff.2 ?_)
  rw [← htrim] at hgrammar
  exact hgrammar

namespace Rule

/-- The line of a rule with a pattern, and an error with a message in quotes. -/
def errorLine (source message : Text) : Text := source ++ " -> Error \"".toList ++ message ++ ['"']

/-- **A line is cut at an arrow behind white space, or further behind.** -/
theorem splitArrowFrom?_behind {c : Char} (hc : Unicode.isSpace c) (u : Text) : ∀ (t : Text) (blank : Bool),
    ∃ pattern action, splitArrowFrom? blank (t ++ c :: '-' :: '>' :: u) = some (t ++ c :: pattern, action)
  | [], blank => by
    have harrow : ∃ pattern action, splitArrowFrom? (Unicode.isSpace c) ('-' :: '>' :: u) = some (pattern, action) := by
      unfold splitArrowFrom?
      rw [hc]
      rcases splitArrowFrom? (Unicode.isSpace '-') ('>' :: u) with _ | ⟨pattern, action⟩
      · exact ⟨[], u, rfl⟩
      · exact ⟨'-' :: pattern, action, rfl⟩
    obtain ⟨pattern, action, h⟩ := harrow
    refine ⟨pattern, action, ?_⟩
    rw [List.nil_append]
    unfold splitArrowFrom?
    rw [h]
    rfl
  | d :: t, blank => by
    obtain ⟨pattern, action, h⟩ := splitArrowFrom?_behind hc u t (Unicode.isSpace d)
    refine ⟨pattern, action, ?_⟩
    rw [List.cons_append]
    unfold splitArrowFrom?
    rw [h]
    rfl

variable {values : List Value} {source message : Text}

theorem errorLine_eq (source message : Text) :
    errorLine source message = source ++ ' ' :: '-' :: '>' :: (" Error ".toList ++ '"' :: (message ++ ['"'])) := by
  have harrow : " -> Error \"".toList = ' ' :: '-' :: '>' :: (" Error ".toList ++ ['"']) := by decide
  rw [errorLine, harrow]
  simp only [List.append_assoc, List.cons_append, List.nil_append]

theorem trim_errorLine (hcaret : source.head? = some '^') : (errorLine source message).trim = errorLine source message := by
  obtain ⟨u, rfl⟩ := List.head?_eq_some_iff.1 hcaret
  exact Text.trim_eq_self rfl (Text.endsSolid_concat.2 (by decide))

/-- Without an arrow in the message, the line is cut in front of the error. -/
theorem splitArrow?_errorLine (hend : EndsSolid source) (h : ¬ HasArrow message) :
    splitArrow? (errorLine source message) = some (source, " Error ".toList ++ '"' :: (message ++ ['"'])) := by
  have hmessage : splitArrowFrom? (Unicode.isSpace '"') (message ++ ['"']) = none :=
    splitArrowFrom?_message (not_hasArrow_iff.1 h) nofun
  have haction : splitArrowFrom? false (" Error ".toList ++ '"' :: (message ++ ['"'])) = none :=
    splitArrowFrom?_append (by decide) hmessage (by decide) _
  rw [errorLine_eq, splitArrow?, splitArrowFrom?_arrow haction, Option.map_some]
  simp only [Text.trimEnd_concat_of_isSpace (c := ' ') (by decide), Text.trimEnd_eq_self hend]

/-- With an arrow in the message, the front of the message goes to the pattern. -/
theorem prefix_of_hasArrow {n : Nat} {r : Rule} (hcaret : source.head? = some '^') (h : HasArrow message)
    (hr : parse values n (errorLine source message) = .ok r) : source ++ " -> Error \"".toList <+: r.source := by
  obtain ⟨c, hc, u, v, rfl⟩ := h
  have hline : errorLine source (u ++ [c, '-', '>'] ++ v) =
      (source ++ " -> Error \"".toList ++ u) ++ c :: '-' :: '>' :: (v ++ ['"']) := by
    simp only [errorLine, List.append_assoc, List.cons_append, List.nil_append]
  obtain ⟨pattern, action, hsplit⟩ := splitArrowFrom?_behind hc (v ++ ['"']) (source ++ " -> Error \"".toList ++ u) false
  have hcut : splitArrow? (errorLine source (u ++ [c, '-', '>'] ++ v)).trim =
      some (Text.trimEnd (source ++ " -> Error \"".toList ++ u ++ c :: pattern), action) := by
    rw [trim_errorLine hcaret, hline, splitArrow?, hsplit]
    rfl
  -- the quote in front of the message keeps what is in front of it from being trimmed
  have hkeep : Text.trimEnd (source ++ " -> Error \"".toList ++ u ++ c :: pattern) =
      source ++ " -> Error \"".toList ++ Text.trimEnd (u ++ c :: pattern) := by
    have hquote : " -> Error \"".toList = " -> Error ".toList ++ ['"'] := by decide
    have htrim := Text.trimEnd_append_cons (c := '"') (by decide) (source ++ " -> Error ".toList) (u ++ c :: pattern)
    rw [hquote]
    simpa only [List.append_assoc, List.cons_append, List.nil_append] using htrim
  rw [hkeep] at hcut
  rcases (written_of_parse hr).parts with ⟨text, hparts, -⟩ | ⟨hparts, -, -⟩ <;> rw [hcut] at hparts
  · obtain ⟨hsource, -⟩ := Prod.mk.inj (Option.some.inj hparts)
    rw [← hsource]
    exact List.prefix_append _ _
  · cases hparts

/-- **Messages of errors.**  Take a pattern with a caret in front and no white space at its end, whose references can be
    replaced and which compiles then.  A line of this pattern and an error with a message in quotes is read back as
    such, whatever stands in the pattern, if and only if there is no arrow behind white space in the message. -/
theorem parse_errorLine_iff {expanded : Text} {regex : Regex.LinePattern} (hcaret : source.head? = some '^')
    (hend : EndsSolid source) (hexpanded : substitute values source = .ok expanded)
    (hregex : Regex.LinePattern.parse? expanded = some regex) (hquote : '"' ∉ message) (n : Nat) :
    parse values n (errorLine source message) =
        .ok { source, expanded, regex, action := .ofMessage message, bindings := bindingsOf values regex, line := n } ↔
      ¬ HasArrow message := by
  constructor
  · intro hr harrow
    obtain ⟨u, hu⟩ := prefix_of_hasArrow hcaret harrow hr
    have hlength := congrArg List.length hu
    simp at hlength
  · intro harrow
    simp only [parse, trim_errorLine hcaret, splitArrow?_errorLine hend harrow, Action.parse_quoted hquote, hexpanded,
      hregex, bind, Except.bind]

/-- Arrows in the pattern, and arrows in the message that are not behind white space. -/
theorem parse_errorLine_iff_arrows :
    ∃ regex, "^${A} -> x".toList.head? = some '^' ∧ EndsSolid "^${A} -> x".toList ∧
      substitute [⟨['A'], "(\\d)".toList, []⟩] "^${A} -> x".toList = .ok "^(?P<A>\\d) -> x".toList ∧
      Regex.LinePattern.parse? "^(?P<A>\\d) -> x".toList = some regex ∧ '"' ∉ "->a->  ".toList ∧
      ¬ HasArrow "->a->  ".toList ∧
      parse [⟨['A'], "(\\d)".toList, []⟩] 3 (errorLine "^${A} -> x".toList "->a->  ".toList) =
        .ok { source := "^${A} -> x".toList, expanded := "^(?P<A>\\d) -> x".toList, regex,
              action := .ofMessage "->a->  ".toList,
              bindings := bindingsOf [⟨['A'], "(\\d)".toList, []⟩] regex, line := 3 } := by
  obtain ⟨regex, hregex⟩ : ∃ regex, Regex.LinePattern.parse? "^(?P<A>\\d) -> x".toList = some regex :=
    Option.isSome_iff_exists.1 (by decide +kernel)
  have hcaret : "^${A} -> x".toList.head? = some '^' := by decide
  have hend : EndsSolid "^${A} -> x".toList := by decide
  have hexpanded : substitute [⟨['A'], "(\\d)".toList, []⟩] "^${A} -> x".toList = .ok "^(?P<A>\\d) -> x".toList := by
    decide +kernel
  have hquote : '"' ∉ "->a->  ".toList := by decide
  have harrow : ¬ HasArrow "->a->  ".toList := by decide +kernel
  exact ⟨regex, hcaret, hend, hexpanded, hregex, hquote, harrow,
    (parse_errorLine_iff hcaret hend hexpanded hregex hquote 3).2 harrow⟩

/-- A message with an arrow behind white space is cut, and the line is refused: the end of the message is no name of a
    state. -/
theorem errorLine_cut :
    "^x".toList.head? = some '^' ∧ '\n' ∉ "^x".toList ∧ EndsSolid "^x".toList ∧
      substitute [⟨['A'], "(\\d)".toList, []⟩] "^x".toList = .ok "^x".toList ∧
      (Regex.LinePattern.parse? "^x".toList).isSome ∧ '"' ∉ "a -> b".toList ∧ '\n' ∉ "a -> b".toList ∧
      parse [⟨['A'], "(\\d)".toList, []⟩] 4 (errorLine "^x".toList "a -> b".toList) =
        .error (.action (.badStateName "b\"".toList)) := by
  decide +kernel

end Rule

end Readout.Template
