/-
  A step of the reader of patterns over commands, in two halves: what is read off the text, and what is done with it.

  * `Bracket.Item` is what stands in a bracket expression, `Bracket.readNext?` reads one, `Bracket.follow` does what it
    says; `readFrom?_succ`: a bracket expression is read item by item;
  * `Act` is what a step of the reader does, `readAct?` finds the one that a text starts with: it looks at the flags
    only; `Reading.perform` carries it out, and does not look at the text;
  * `readAct_cases` tells which characters close a group and which repeat what stands in front of them;
  * `readNext?_eq`: a step reads an act and carries it out.
-/
import Readout.Proofs.Regex.Reading

namespace Readout.Regex

/-! ## Bracket expressions -/

namespace Bracket

/-- What stands in a bracket expression. -/
inductive Item where
  /-- characters, a range or a named class, or all other characters -/
  | add (s : CharSet) (negated : Bool)
  /-- the start of a nested bracket expression, with what it starts with -/
  | open_ (negated : Bool) (first : Items)
  | close
  | op (o : Op)

/-- Reads a named class behind a bracket, if there is one, and whether it is negated. -/
def named? : Text → Option (CharSet × Bool × Text)
  | ':' :: t => readNamed? t
  | _ => none

/-- Reads the start of a nested bracket expression behind its bracket. -/
def readNested (fl : Flags) (t : Text) : Item × Text :=
  (.open_ (readOpen fl t).1 (readOpen fl t).2.1, (readOpen fl t).2.2)

/-- Reads the item that a text starts with. -/
def readNext? (fl : Flags) : Text → Option (Item × Text)
  | [] => none
  | '[' :: t => ((named? t).map fun (s, negated, t) => (.add s negated, t)).or (some (readNested fl t))
  | ']' :: t => some (.close, t)
  | '&' :: '&' :: t => some (.op .inter, t)
  | '-' :: '-' :: t => some (.op .diff, t)
  | '~' :: '~' :: t => some (.op .either, t)
  | t => (readRange? fl t).map fun (s, t) => (.add s false, t)

/-- Where an item leads to: the whole bracket expression, or what is open and what has been read. -/
abbrev Course := Class ⊕ (List Level × Items)

/-- Does what an item says. -/
def follow (fl : Flags) (ls : List Level) (u : Items) : Item → Option Course
  | .add s negated => (fl.negate? negated (fl.close s)).map fun s => .inr (ls, u.add ⟨s, 0⟩)
  | .open_ negated first => some (.inr (.bracket u negated :: ls, first))
  | .op o => some (.inr (.op o (finishOp u.whole ls).1 :: (finishOp u.whole ls).2, {}))
  | .close =>
    match finishOp u.whole ls with
    | (c, .bracket outer negated :: ls) =>
      (fl.negate? negated c.set).map fun s =>
        match ls with
        | [] => .inl ⟨s, c.depth + 1⟩
        | _ :: _ => .inr (ls, outer.add ⟨s, c.depth + 1⟩)
    | _ => none

/-- **A bracket expression is read item by item.** -/
theorem readFrom?_succ (fl : Flags) (fuel : Nat) (ls : List Level) (u : Items) (t : Text) :
    readFrom? fl (fuel + 1) ls u t = (readNext? fl (fl.skipSpace t)).bind fun (item, t) =>
      (follow fl ls u item).bind fun
        | .inl c => some (c, t)
        | .inr (ls, u) => readFrom? fl fuel ls u t := by
  conv_lhs => unfold readFrom?
  generalize fl.skipSpace t = w
  dsimp only
  split
  · rfl
  · rename_i t
    rw [readNext?]
    by_cases hcolon : ∃ w, t = ':' :: w
    · obtain ⟨w, rfl⟩ := hcolon
      simp only [named?]
      rcases readNamed? w with _ | ⟨s, negated, t⟩
      · rfl
      · simp only [Option.map_some, Option.some_or, Option.bind_some, follow]
        cases fl.negate? negated (fl.close s) <;> rfl
    · have hplain : ∀ w, t = ':' :: w → False := fun w hw => hcolon ⟨w, hw⟩
      have hnamed : named? t = none := by simp only [named?]
      simp only [hnamed, Option.map_none, Option.none_or, Option.bind_some, readNested, follow]
  · rename_i t
    rw [readNext?, Option.bind_some, follow]
    rcases finishOp u.whole ls with ⟨c, _ | ⟨⟨outer, negated⟩ | ⟨o, left⟩, ls⟩⟩
    · rfl
    · dsimp only
      rcases fl.negate? negated c.set with _ | s
      · rfl
      · cases ls <;> rfl
    · rfl
  · rfl
  · rfl
  · rfl
  · simp only [readNext?]
    rcases readRange? fl w with _ | ⟨s, t⟩
    · rfl
    · simp [follow, Flags.negate?, CharSet.complIf]

end Bracket

namespace CommandPattern

/-! ## Acts -/

/-- What a step of the reader does. -/
inductive Act where
  /-- add a part -/
  | push (p : Part)
  /-- go on to the next alternative -/
  | bar
  /-- close the last group -/
  | close
  /-- repeat the last part -/
  | again (min : Nat) (max : Option Nat) (greedy : Bool)
  /-- open a group that captures nothing, with flags of its own -/
  | group (fl : Flags)
  /-- open a capture group -/
  | capture (name : Option Text)
  /-- change the flags -/
  | switch (fl : Flags)

/-- Carries out an act. -/
def Reading.perform (r : Reading) : Act → Option Reading
  | .push p => some (r.push p)
  | .bar => some r.bar
  | .close => r.close?
  | .again min max greedy => r.repeat? min max greedy
  | .group fl => some (r.open_ none fl)
  | .capture none => some (r.openCapture r.names)
  | .capture (some name) => if r.names.contains name then none else some (r.openCapture (name :: r.names))
  | .switch fl => some { r.push .flags with flags := fl }

/-- Reads the name of a group up to its angle. -/
def readName? (t : Text) : Option (Act × Text) :=
  match t.span (· != '>') with
  | (name, _ :: rest) => if isName name then some (.capture (some name), rest) else none
  | _ => none

/-- Reads the start of a group behind its parenthesis and question mark. -/
def readMarked? (fl : Flags) : Text → Option (Act × Text)
  | '=' :: _ | '!' :: _ | '<' :: '=' :: _ | '<' :: '!' :: _ => none
  | 'P' :: '<' :: t => readName? t
  | '<' :: t => readName? t
  | t => (readFlags? fl true [] t).map fun (fl, c, t) => (if c = ')' then .switch fl else .group fl, t)

/-- Reads the start of a group behind its parenthesis. -/
def readOpening? (fl : Flags) (t : Text) : Option (Act × Text) :=
  match fl.skipSpace t with
  | '?' :: t => readMarked? fl t
  | t => some (.capture none, t)

/-- A repetition, and whether a question mark turns its greed round. -/
def readAgain (min : Nat) (max : Option Nat) (t : Text) : Act × Text :=
  (.again min max (readGreedy t).1, (readGreedy t).2)

/-- Reads the act that a text starts with. -/
def readAct? (fl : Flags) : Text → Option (Act × Text)
  | [] => none
  | c :: t =>
    match c with
    | '(' => readOpening? fl t
    | ')' => some (.close, t)
    | '|' => some (.bar, t)
    | '[' => (Bracket.read? fl t).map fun (c, t) => (.push ⟨.set c.set, c.depth, true⟩, t)
    | '?' => some (readAgain 0 (some 1) t)
    | '*' => some (readAgain 0 none t)
    | '+' => some (readAgain 1 none t)
    | '{' => (readCounts? fl t).map fun (min, max, t) => readAgain min max (fl.skipSpace t)
    | '\\' => (Element.read? fl t).map fun (e, t) => (.push (.leaf (e.node fl)), t)
    | '.' => if fl.unicode then some (.push (.leaf (.set fl.dot)), t) else none
    | '^' => some (.push (.leaf (.anchor fl.caret)), t)
    | '$' => some (.push (.leaf (.anchor fl.dollar)), t)
    | c => some (.push (.leaf (fl.char c)), t)

theorem readAct_literal (fl : Flags) {c : Char} (hc : c ∉ operators) (t : Text) :
    readAct? fl (c :: t) = some (.push (.leaf (fl.char c)), t) := by
  simp only [operators, List.mem_cons, List.not_mem_nil, or_false, not_or] at hc
  simp only [readAct?, hc, false_implies]

/-- A parenthesis opens a group, or changes the flags. -/
theorem readOpening_cases {fl : Flags} {t u : Text} {a : Act} (h : readOpening? fl t = some (a, u)) :
    (∃ fl', a = .group fl') ∨ (∃ name, a = .capture name) ∨ ∃ fl', a = .switch fl' := by
  have hname {t : Text} (h : readName? t = some (a, u)) : ∃ name, a = .capture name := by
    unfold readName? at h
    split at h
    · split at h
      · cases h
        exact ⟨_, rfl⟩
      · cases h
    · cases h
  unfold readOpening? at h
  split at h
  · unfold readMarked? at h
    split at h
    · cases h
    · cases h
    · cases h
    · cases h
    · exact .inr (.inl (hname h))
    · exact .inr (.inl (hname h))
    · obtain ⟨⟨fl', c, w⟩, -, heq⟩ := Option.map_eq_some_iff.1 h
      obtain ⟨rfl, -⟩ := Prod.mk.inj heq
      split
      · exact .inr (.inr ⟨_, rfl⟩)
      · exact .inl ⟨_, rfl⟩
  · cases h
    exact .inr (.inl ⟨_, rfl⟩)

/-- The characters that repeat what stands in front of them. -/
def quantifiers : List Char := ['?', '*', '+', '\x7b']

/-- A parenthesis closes a group, a quantifier repeats what stands in front of it, and nothing else does either. -/
theorem readAct_cases {fl : Flags} {t u : Text} {a : Act} (h : readAct? fl t = some (a, u)) :
    (a = .close ∧ t = ')' :: u) ∨ ((∃ c ∈ t.head?, c ∈ quantifiers) ∧ ∃ min max greedy, a = .again min max greedy) ∨
      a ≠ .close ∧ ∀ min max greedy, a ≠ .again min max greedy := by
  rcases t with _ | ⟨c, t⟩
  · cases h
  have hagain {min : Nat} {max : Option Nat} {w : Text} (hc : c ∈ quantifiers) (h : readAgain min max w = (a, u)) :
      (∃ d ∈ (c :: t).head?, d ∈ quantifiers) ∧ ∃ min max greedy, a = .again min max greedy :=
    ⟨⟨c, rfl, hc⟩, ⟨min, max, _, (congrArg Prod.fst h).symm⟩⟩
  have hpush {p : Part} (h : Act.push p = a) : a ≠ .close ∧ ∀ min max greedy, a ≠ .again min max greedy := by
    subst h
    simp
  by_cases hc : c ∈ operators
  · simp only [operators, List.mem_cons, List.not_mem_nil, or_false] at hc
    rcases hc with rfl | rfl | rfl | rfl | rfl | rfl | rfl | rfl | rfl | rfl | rfl | rfl
    · refine .inr (.inr ?_)
      rcases readOpening_cases h with ⟨_, rfl⟩ | ⟨_, rfl⟩ | ⟨_, rfl⟩ <;> simp
    · cases h
      exact .inl ⟨rfl, rfl⟩
    · cases h
      exact .inr (.inr (by simp))
    · obtain ⟨x, -, hx⟩ := Option.map_eq_some_iff.1 h
      exact .inr (.inr (hpush (congrArg Prod.fst hx)))
    · exact .inr (.inl (hagain (by decide) (Option.some.inj h)))
    · exact .inr (.inl (hagain (by decide) (Option.some.inj h)))
    · exact .inr (.inl (hagain (by decide) (Option.some.inj h)))
    · obtain ⟨x, -, hx⟩ := Option.map_eq_some_iff.1 h
      exact .inr (.inl (hagain (by decide) hx))
    · obtain ⟨x, -, hx⟩ := Option.map_eq_some_iff.1 h
      exact .inr (.inr (hpush (congrArg Prod.fst hx)))
    · obtain ⟨-, hdot⟩ := Option.ite_none_right_eq_some.1 h
      exact .inr (.inr (hpush (congrArg Prod.fst (Option.some.inj hdot))))
    · exact .inr (.inr (hpush (congrArg Prod.fst (Option.some.inj h))))
    · exact .inr (.inr (hpush (congrArg Prod.fst (Option.some.inj h))))
  · rw [readAct_literal fl hc] at h
    exact .inr (.inr (hpush (congrArg Prod.fst (Option.some.inj h))))

/-- The act that is read is carried out. -/
def Reading.performed (r : Reading) (x : Act × Text) : Option (Reading × Text) := (r.perform x.1).map (·, x.2)

theorem readName_bind (r : Reading) (t : Text) : (readName? t).bind r.performed =
    match t.span (· != '>') with
    | (name, _ :: rest) =>
      if isName name && !r.names.contains name then some (r.openCapture (name :: r.names), rest) else none
    | _ => none := by
  unfold readName?
  split
  · rename_i name c rest _
    by_cases hc : name ∈ r.names <;> cases hn : isName name <;> simp [Reading.performed, Reading.perform, hc]
  · rfl

theorem readGroup?_eq (r : Reading) (t : Text) : readGroup? r t = (readOpening? r.flags t).bind r.performed := by
  unfold readGroup? readOpening?
  generalize r.flags.skipSpace t = u
  dsimp only
  split
  · rfl
  · rfl
  · rfl
  · rfl
  · exact (readName_bind r _).symm
  · rename_i t hequal hmark
    have hread : readMarked? r.flags ('<' :: t) = readName? t := by simp only [readMarked?]
    change _ = (readMarked? r.flags ('<' :: t)).bind r.performed
    rw [hread]
    exact (readName_bind r t).symm
  · simp only [readMarked?]
    rename_i t _ _ _ _ _ _
    rcases readFlags? r.flags true [] t with _ | ⟨fl, c, t⟩
    · rfl
    · by_cases hc : c = ')'
      · subst hc; rfl
      · simp only [hc, Option.map_some, if_false]
        rfl
  · rename_i hmark
    split
    · exact absurd rfl (hmark _)
    · rfl

/-- **A step reads an act and carries it out.** -/
theorem readNext?_eq (r : Reading) (t : Text) : readNext? r t = (readAct? r.flags t).bind r.performed := by
  cases t with
  | nil => rfl
  | cons c t =>
    by_cases hc : c ∈ operators
    · simp only [operators, List.mem_cons, List.not_mem_nil, or_false] at hc
      rcases hc with rfl | rfl | rfl | rfl | rfl | rfl | rfl | rfl | rfl | rfl | rfl | rfl
      · exact readGroup?_eq r t
      · rfl
      · rfl
      · change (Bracket.read? r.flags t).map _ = ((Bracket.read? r.flags t).map _).bind r.performed
        cases Bracket.read? r.flags t <;> rfl
      · rfl
      · rfl
      · rfl
      · simp only [readNext?, readAct?]
        rcases readCounts? r.flags t with _ | ⟨min, max, t⟩
        · cases r.scope.parts <;> rfl
        · rcases hparts : r.scope.parts with _ | ⟨p, ps⟩
          · simp [Reading.performed, Reading.perform, readAgain, Reading.repeat?, hparts]
          · rfl
      · change (Element.read? r.flags t).map _ = ((Element.read? r.flags t).map _).bind r.performed
        cases Element.read? r.flags t <;> rfl
      · change (if _ then _ else _) = Option.bind (if _ then _ else _) r.performed
        split <;> rfl
      · rfl
      · rfl
    · simp only [operators, List.mem_cons, List.not_mem_nil, or_false, not_or] at hc
      simp only [readNext?, readAct?, hc, false_implies]
      rfl

end CommandPattern

end Readout.Regex
