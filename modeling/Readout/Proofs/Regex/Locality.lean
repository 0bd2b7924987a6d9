/-
  What the reader of line patterns makes of a text is decided by the part that it takes off.

  * `Cut`: what is left could be the start of a comment in parentheses, so that more text may change it;
  * `skip_append`: what is skipped does not depend on the text behind;
  * `Reading.alias`: the same state, with one name of a group more;
  * `Steady`: a reader has taken something off a text, would do so with one name more, and takes off nothing else
    where more text stands behind;
  * `steady_readEscape`, `steady_readBracket`, …: so it is for the readers of single parts.
-/
import Mathlib.Data.List.Infix
import Mathlib.Data.List.TakeDrop
import Mathlib.Data.List.TakeWhile
import Readout.Proofs.Regex.Lookahead.Escapes
import Readout.Regex.LinePattern

namespace Readout.Regex.LinePattern

/-! ## Text that is skipped -/

/-- Could the text be the start of a comment in parentheses? -/
def Cut (t : Text) : Prop := t <:+: ['(', '?']

section
variable {t u w y : Text} {c : Char}

theorem cut_nil : Cut [] := List.nil_infix

theorem not_cut_of_suffix (hu : ¬ Cut u) (h : u <:+ t) : ¬ Cut t :=
  fun ht => hu (h.isInfix.trans ht)

theorem ne_nil_of_not_cut (h : ¬ Cut t) : t ≠ [] := by
  rintro rfl
  exact h cut_nil

theorem not_cut_of_mem (h : c ∈ t) (hc : c ∉ ['(', '?']) : ¬ Cut t :=
  fun ht => hc (ht.subset h)

theorem suffix_of_skipRemark : ∀ {t u : Text}, skipRemark? t = some u → u <:+ t := by
  intro t u h
  fun_induction skipRemark? t with
  | case1 => cases h
  | case2 t => cases h; exact List.suffix_cons _ _
  | case3 c t ih => exact (ih h).trans ((List.suffix_cons _ _).trans (List.suffix_cons _ _))
  | case4 c t _ _ ih => exact (ih h).trans (List.suffix_cons _ _)

theorem skipRemark_append (h : skipRemark? t = some u) : skipRemark? (t ++ y) = some (u ++ y) := by
  fun_induction skipRemark? t with
  | case1 => cases h
  | case2 t => cases h; rfl
  | case3 c t ih => exact ih h
  | case4 c t hclose hquote ih =>
    rw [List.cons_append, skipRemark?]
    · exact ih h
    · exact hclose
    · intro d t' hc ht
      cases t with
      | nil => cases h
      | cons d' t => exact hquote _ _ hc rfl

theorem suffix_of_skip {fl : Flags} : ∀ {fuel : Nat} {t u : Text}, skip? fl fuel t = some u → u <:+ t := by
  intro fuel
  induction fuel with
  | zero => intro t u h; cases h; exact List.suffix_refl _
  | succ fuel ih =>
    intro t u h
    unfold skip? at h
    split at h
    · rename_i r
      obtain ⟨w, hw, h⟩ := Option.bind_eq_some_iff.1 h
      have hr : r <:+ '(' :: '?' :: '#' :: r := ⟨['(', '?', '#'], rfl⟩
      exact ((ih h).trans (suffix_of_skipRemark hw)).trans hr
    · rename_i c r _
      split at h
      · cases h; exact List.suffix_refl _
      · split at h
        · refine (ih h).trans (((List.drop_suffix _ _).trans (List.dropWhile_suffix _)).trans (List.suffix_cons _ _))
        · split at h
          · exact (ih h).trans (List.suffix_cons _ _)
          · cases h; exact List.suffix_refl _
    · cases h; exact List.suffix_refl _

theorem Reading.suffix_of_skip {r : Reading} (h : r.skip? t = some u) : u <:+ t :=
  LinePattern.suffix_of_skip h

/-- A line behind which there is more text ends where it did. -/
theorem drop_line_append (h : (t.dropWhile (· != '\n')).drop 1 ≠ []) :
    ((t ++ y).dropWhile (· != '\n')).drop 1 = (t.dropWhile (· != '\n')).drop 1 ++ y := by
  have hbreak : t.dropWhile (· != '\n') ≠ [] := by
    intro hnil
    rw [hnil] at h
    exact h rfl
  rw [List.dropWhile_append, if_neg (by simpa using hbreak), List.drop_append_of_le_length]
  exact List.length_pos_iff.2 hbreak

/-- Is there a comment in parentheses at the start of the text? -/
def StartsRemark (t : Text) : Prop := ∃ t', t = '(' :: '?' :: '#' :: t'

theorem startsRemark_of_append (ht : ¬ Cut t) (h : StartsRemark (t ++ y)) : StartsRemark t := by
  obtain ⟨t', h⟩ := h
  rcases t with _ | ⟨c, _ | ⟨d, _ | ⟨e, t⟩⟩⟩
  · exact absurd cut_nil ht
  · cases h; exact absurd ⟨[], ['?'], rfl⟩ ht
  · cases h; exact absurd ⟨[], [], rfl⟩ ht
  · cases h; exact ⟨t, rfl⟩

theorem skip_of_not_startsRemark {fl : Flags} {fuel : Nat} (h : ¬ StartsRemark (c :: t)) :
    skip? fl (fuel + 1) (c :: t) =
      if !fl.ignoreSpace then some (c :: t)
      else if c = '#' then skip? fl fuel ((t.dropWhile (· != '\n')).drop 1)
      else if c = ' ' ∨ c = '\t' ∨ c = '\r' ∨ c = '\n' then skip? fl fuel t
      else some (c :: t) := by
  rw [skip?]
  rintro t' rfl rfl
  exact h ⟨t', rfl⟩

theorem skip_append_of_lt {fl fl' : Flags} (hfl : fl'.ignoreSpace = fl.ignoreSpace) :
    ∀ {fuel fuel' : Nat} {t u : Text}, t.length < fuel → (t ++ y).length < fuel' → ¬ Cut u →
      skip? fl fuel t = some u → skip? fl' fuel' (t ++ y) = some (u ++ y) := by
  intro fuel
  induction fuel with
  | zero => intro fuel' t u hfuel; exact absurd hfuel (Nat.not_lt_zero _)
  | succ fuel ih =>
    intro fuel' t u hfuel hfuel' hu h
    obtain ⟨fuel', rfl⟩ := Nat.exists_eq_succ_of_ne_zero (Nat.ne_of_gt (Nat.zero_lt_of_lt hfuel'))
    have hcut := not_cut_of_suffix hu (suffix_of_skip h)
    by_cases hremark : StartsRemark t
    · obtain ⟨t, rfl⟩ := hremark
      obtain ⟨w, hw, h⟩ := Option.bind_eq_some_iff.1 h
      have hlength := (suffix_of_skipRemark hw).length_le
      refine Option.bind_eq_some_iff.2 ⟨w ++ y, skipRemark_append hw, ih ?_ ?_ hu h⟩
      · simp only [List.length_cons] at hfuel; omega
      · simp only [List.length_append, List.length_cons] at hfuel' ⊢; omega
    · have hremark' : ¬ StartsRemark (t ++ y) := mt (startsRemark_of_append hcut) hremark
      obtain ⟨c, t, rfl⟩ := List.exists_cons_of_ne_nil (ne_nil_of_not_cut hcut)
      rw [skip_of_not_startsRemark hremark] at h
      rw [List.cons_append] at hremark' ⊢
      rw [skip_of_not_startsRemark hremark', hfl]
      simp only [List.cons_append, List.length_cons, List.length_append] at hfuel hfuel'
      split at h
      · rename_i hplain
        cases h; rw [if_pos hplain, List.cons_append]
      · rename_i hplain
        rw [if_neg hplain]
        split at h
        · rename_i hline
          have hne := ne_nil_of_not_cut (not_cut_of_suffix hu (suffix_of_skip h))
          have hlength := ((List.drop_suffix 1 _).trans (t.dropWhile_suffix (· != '\n'))).length_le
          rw [if_pos hline, drop_line_append hne]
          refine ih (by omega) ?_ hu h
          rw [List.length_append]; omega
        · rename_i hline
          rw [if_neg hline]
          split at h
          · rename_i hspace
            rw [if_pos hspace]
            exact ih (by omega) (by rw [List.length_append]; omega) hu h
          · rename_i hspace
            cases h; rw [if_neg hspace, List.cons_append]

/-- **What is skipped does not depend on the text behind.** -/
theorem skip_append {r q : Reading} (hq : q.flags.ignoreSpace = r.flags.ignoreSpace) (hu : ¬ Cut u)
    (h : r.skip? t = some u) : q.skip? (t ++ y) = some (u ++ y) :=
  skip_append_of_lt hq (Nat.lt_succ_self _) (Nat.lt_succ_self _) hu h

theorem skip_nil (r : Reading) : r.skip? [] = some [] := rfl

/-- Where nothing is skipped any more, nothing is skipped. -/
theorem skip_skip_of_lt {fl : Flags} : ∀ {fuel fuel' : Nat} {t u : Text}, t.length < fuel → skip? fl fuel t = some u →
    skip? fl (fuel' + 1) u = some u := by
  intro fuel
  induction fuel with
  | zero => intro fuel' t u hfuel; exact absurd hfuel (Nat.not_lt_zero _)
  | succ fuel ih =>
    intro fuel' t u hfuel h
    by_cases hremark : StartsRemark t
    · obtain ⟨t, rfl⟩ := hremark
      obtain ⟨w, hw, h⟩ := Option.bind_eq_some_iff.1 h
      have hlength := (suffix_of_skipRemark hw).length_le
      refine ih ?_ h
      simp only [List.length_cons] at hfuel; omega
    · cases t with
      | nil => cases h; rfl
      | cons c t =>
        rw [skip_of_not_startsRemark hremark] at h
        rw [List.length_cons] at hfuel
        split at h
        · rename_i hplain
          cases h; rw [skip_of_not_startsRemark hremark, if_pos hplain]
        · rename_i hplain
          split at h
          · have hlength := ((List.drop_suffix 1 _).trans (t.dropWhile_suffix (· != '\n'))).length_le
            exact ih (by omega) h
          · rename_i hline
            split at h
            · exact ih (by omega) h
            · rename_i hspace
              cases h
              rw [skip_of_not_startsRemark hremark, if_neg hplain, if_neg hline, if_neg hspace]

theorem skip_skip {r : Reading} (h : r.skip? t = some u) : r.skip? u = some u :=
  skip_skip_of_lt (Nat.lt_succ_self _) h

/-- A character that is neither white space nor the start of a comment is not skipped. -/
theorem skip_cons {r : Reading} (hc : c ∉ ['(', '#', ' ', '\t', '\r', '\n']) : r.skip? (c :: t) = some (c :: t) := by
  simp only [List.mem_cons, List.not_mem_nil, or_false, not_or] at hc
  obtain ⟨hopen, hline, hspaces⟩ := hc
  have hremark : ¬ StartsRemark (c :: t) := by
    rintro ⟨t', h⟩
    exact hopen (List.cons.inj h).1
  rw [Reading.skip?, skip_of_not_startsRemark hremark]
  simp [hline, hspaces]

end

/-! ## States -/

/-- Do both states skip the same? -/
def Reading.Alike (r q : Reading) : Prop := q.flags.ignoreSpace = r.flags.ignoreSpace

/-- The state with one name more, which is older than the others, and another bound. -/
def Reading.alias (r : Reading) (e : Text × Nat) (bound : Nat) : Reading :=
  { r with names := r.names ++ [e], bound }

section
variable (r : Reading) (e : Text × Nat) (bound : Nat)

@[simp] theorem alias_flags : (r.alias e bound).flags = r.flags := rfl

@[simp] theorem alias_names : (r.alias e bound).names = r.names ++ [e] := rfl

@[simp] theorem alias_skip (t : Text) : (r.alias e bound).skip? t = r.skip? t := rfl

end

/-- A reader that goes on while there is fuel, inside of open groups. -/
abbrev Reader (α : Type) := Nat → Nat → Reading → Text → Result α

/-- A reader that needs neither. -/
abbrev Reader.plain {α : Type} (read : Reading → Text → Result α) : Reader α := fun _ _ => read

/-- What a reader has done: it has read `a` and left `u`. -/
structure Steady {α : Type} (read : Reader α) (fuel depth : Nat) (r : Reading) (t : Text) (a : α) (r' : Reading)
    (u : Text) : Prop where
  /-- Something is taken off the front. -/
  rest : u <:+ t
  /-- A reference by number is not forgotten. -/
  numbered : r.numbered → r'.numbered
  /-- One name more does not matter to names and numbers that are there, -/
  named : ¬ Cut u → r'.numbered = false → ∀ fuel', fuel ≤ fuel' → ∀ e bound,
    read fuel' depth (r.alias e bound) t = some (a, r'.alias e bound, u)
  /-- and more text does not matter to the part that is taken off. -/
  behind : ∀ fuel' depth', ¬ Cut u → ∀ {q y x q' z}, r.Alike q → read fuel' depth' q (t ++ y) = some (x, q', z) →
    z = u ++ y ∧ r'.Alike q'

namespace Steady

variable {α : Type} {read : Reader α} {fuel depth : Nat} {r r' : Reading} {t u : Text} {a : α}

theorem not_numbered (h : Steady read fuel depth r t a r' u) (hr : r'.numbered = false) : r.numbered = false := by
  rw [Bool.eq_false_iff]
  intro hn
  rw [h.numbered hn] at hr
  cases hr

theorem not_cut (h : Steady read fuel depth r t a r' u) (hu : ¬ Cut u) : ¬ Cut t := not_cut_of_suffix hu h.rest

/-- A reader that leaves the state alone, and reads the same where more text stands behind. -/
theorem of_append {f : Text → Option (α × Text)} (h : f t = some (a, u)) (hrest : u <:+ t)
    (happend : ¬ Cut u → ∀ y, f (t ++ y) = some (a, u ++ y)) :
    Steady (.plain fun r t => (f t).map fun x => (x.1, r, x.2)) fuel depth r t a r u := by
  refine ⟨hrest, id, ?_, ?_⟩
  · intro _ _ _ _ e bound
    rw [Reader.plain, h]; rfl
  · intro _ _ hu q y x q' z hq h
    rw [Reader.plain, happend hu] at h
    cases h
    exact ⟨rfl, hq⟩

theorem of_takes {f : Text → Option (α × Text)} {used : Text} (h : Takes f used a) :
    Steady (.plain fun r t => (f t).map fun x => (x.1, r, x.2)) fuel depth r (used ++ u) a r u :=
  of_append (h u) (List.suffix_append used u) fun _ y => by rw [List.append_assoc, h]

/-- What is made of a part does not depend on names. -/
theorem map {β : Type} {read' : Reader β} {s : Text} (k : α → Flags → β)
    (hread : ¬ Cut u → ∀ fuel depth q y, read' fuel depth q (s ++ (t ++ y)) =
      (read fuel depth q (t ++ y)).map fun x => (k x.1 x.2.1.flags, x.2.1, x.2.2))
    (h : Steady read fuel depth r t a r' u) : Steady read' fuel depth r (s ++ t) (k a r'.flags) r' u := by
  refine ⟨h.rest.trans (List.suffix_append s t), h.numbered, ?_, ?_⟩
  · intro hu hr fuel' hfuel e bound
    have hnamed := h.named hu hr fuel' hfuel e bound
    have hmap := hread hu fuel' depth (r.alias e bound) []
    rw [List.append_nil, hnamed] at hmap
    exact hmap
  · intro fuel' depth' hu q y x q' z hq hread'
    rw [List.append_assoc, hread hu] at hread'
    obtain ⟨⟨b, q'', w⟩, hb, hread'⟩ := Option.map_eq_some_iff.1 hread'
    cases hread'
    exact h.behind _ _ hu hq hb

end Steady

/-! ## Numbers and names -/

section
variable {r r' : Reading} {t u y : Text}

theorem suffix_of_span {p : Char → Bool} {c : Char} {ds : Text} (h : t.span p = (ds, c :: u)) : u <:+ t := by
  rw [List.span_eq_takeWhile_dropWhile, Prod.mk.injEq] at h
  exact (List.suffix_cons c u).trans (h.2 ▸ List.dropWhile_suffix _)

theorem span_append {p : Char → Bool} {ds : Text} (h : t.span p = (ds, u)) (hu : u ≠ []) :
    (t ++ y).span p = (ds, u ++ y) := by
  rw [List.span_eq_takeWhile_dropWhile, Prod.mk.injEq] at h ⊢
  obtain ⟨rfl, rfl⟩ := h
  rw [List.dropWhile_append, if_neg (by simpa using hu), List.takeWhile_append, if_neg]
  · exact ⟨rfl, rfl⟩
  · intro hlength
    have hall := List.takeWhile_append_dropWhile (p := p) (l := t)
    rw [List.IsPrefix.eq_of_length (List.takeWhile_prefix p) hlength, List.append_right_eq_self] at hall
    exact hu hall

theorem suffix_of_readDecimal {n : Nat} (h : Text.readDecimal? t = some (n, u)) : u <:+ t := by
  unfold Text.readDecimal? at h
  split at h
  · cases h
  · rename_i hspan
    cases h
    rw [List.span_eq_takeWhile_dropWhile, Prod.mk.injEq] at hspan
    exact hspan.2 ▸ List.dropWhile_suffix _

theorem readDecimal_append {n : Nat} (h : Text.readDecimal? t = some (n, u)) (hu : u ≠ []) :
    Text.readDecimal? (t ++ y) = some (n, u ++ y) := by
  unfold Text.readDecimal? at h
  split at h
  · cases h
  · rename_i hds hspan
    cases h
    rw [Text.readDecimal?, span_append hspan hu]
    simp

theorem suffix_of_readName {close : Char} {name : Text} (h : readName? close t = some (name, u)) : u <:+ t := by
  unfold readName? at h
  split at h
  · cases h
  · rename_i hspan
    split at h
    · cases h; exact suffix_of_span hspan
    · cases h
  · cases h

theorem readName_append {close : Char} {name : Text} (h : readName? close t = some (name, u)) :
    readName? close (t ++ y) = some (name, u ++ y) := by
  unfold readName? at h
  split at h
  · cases h
  · rename_i hname hspan
    split at h
    · rename_i hclose
      cases h
      rw [readName?, span_append hspan (List.cons_ne_nil _ _)]
      simp [hclose]
    · cases h
  · cases h

theorem readNumber_eq_some {g : Nat} (h : readNumber? r t = some (g, r', u)) :
    Text.readDecimal? t = some (g, u) ∧ r' = { r with numbered := true } := by
  unfold readNumber? at h
  split at h
  · rename_i hdecimal
    split at h
    · cases h; exact ⟨hdecimal, rfl⟩
    · cases h
  · cases h

theorem steady_readNumber (fuel depth : Nat) {g : Nat} (h : readNumber? r t = some (g, r', u)) :
    Steady (.plain readNumber?) fuel depth r t g r' u := by
  obtain ⟨hdecimal, rfl⟩ := readNumber_eq_some h
  refine ⟨suffix_of_readDecimal hdecimal, fun _ => rfl, fun _ hr => (nomatch hr), ?_⟩
  intro _ _ hu q y x q' z hq h'
  obtain ⟨hdecimal', rfl⟩ := readNumber_eq_some h'
  rw [readDecimal_append hdecimal (ne_nil_of_not_cut hu)] at hdecimal'
  cases hdecimal'
  exact ⟨rfl, hq⟩

/-- A reference by name is one to a group of the name, or else the name is a number. -/
theorem readReference_eq_some {close : Char} {g : Nat} (h : readReference? r close t = some (g, r', u)) :
    ∃ name, readName? close t = some (name, u) ∧
      ((∃ n, r.names.find? (·.1 == name) = some (n, g) ∧ r' = r) ∨ r' = { r with numbered := true }) := by
  unfold readReference? at h
  split at h
  · cases h
  · rename_i name w hname
    split at h
    · rename_i n g' hfind
      cases h; exact ⟨name, hname, .inl ⟨n, hfind, rfl⟩⟩
    · split at h
      · rename_i hnumber
        cases h; exact ⟨name, hname, .inr (readNumber_eq_some hnumber).2⟩
      · cases h

theorem steady_readReference (fuel depth : Nat) {close : Char} {g : Nat}
    (h : readReference? r close t = some (g, r', u)) :
    Steady (.plain (readReference? · close ·)) fuel depth r t g r' u := by
  obtain ⟨name, hname, hr⟩ := readReference_eq_some h
  have hflags : r'.flags = r.flags := by
    rcases hr with ⟨_, _, rfl⟩ | rfl
    · rfl
    · rfl
  refine ⟨suffix_of_readName hname, ?_, ?_, ?_⟩
  · rcases hr with ⟨_, _, rfl⟩ | rfl
    · exact id
    · exact fun _ => rfl
  · intro _ hnumbered _ _ e bound
    obtain ⟨n, hfind, rfl⟩ | rfl := hr
    · rw [Reader.plain, readReference?, hname]
      simp [List.find?_append, hfind]
    · cases hnumbered
  · intro _ _ _ q y x q' z hq h'
    obtain ⟨name', hname', hr'⟩ := readReference_eq_some h'
    rw [readName_append hname] at hname'
    cases hname'
    refine ⟨rfl, ?_⟩
    rw [Reading.Alike, hflags]
    rcases hr' with ⟨_, _, rfl⟩ | rfl
    · exact hq
    · exact hq

/-! ## Escapes -/

theorem readProperty_takes {a : CharSet × Text} (h : readProperty? t = some (a, u)) :
    ∃ used, t = used ++ u ∧ Takes readProperty? used a := by
  obtain ⟨⟨braces, name, w⟩, hname, h⟩ := Option.bind_eq_some_iff.1 h
  obtain ⟨s, hs, h⟩ := Option.map_eq_some_iff.1 h
  cases h
  obtain ⟨used, rfl, hv⟩ := argument_takes Nat.one_pos hname
  exact ⟨used, rfl, fun v => by simp only [readProperty?, hv v, Option.bind_some, hs, Option.map_some]⟩

/-- A condition on words that is named in braces, behind the first of them. -/
def readEdgeName? (t : Text) : Option (Edge × Text) :=
  match t.span (· != '}') with
  | (name, _ :: t) => (Element.edge? name).map (·, t)
  | _ => none

/-- What may follow a backslash, told by the character behind it and by the one behind that. -/
inductive EscapeForm (inBrackets : Bool) (c : Char) (next : Option Char) : Prop where
  | hex (width : Nat) (hwidth : 0 < width) (h : ∀ q t, readEscape? q inBrackets (c :: t) =
      (readHex? {} width (some 8) t).map fun x => (.char x.1, q, x.2))
  | property (h : ∀ q t, readEscape? q inBrackets (c :: t) =
      (readProperty? t).map fun x => (propertyEscape c q.flags.fold x.1.1 x.1.2, q, x.2))
  | number (h : ∀ q t, readEscape? q inBrackets (c :: t) =
      (readNumber? q (c :: t)).map fun x => (.node (.backref x.1 x.2.1.flags.fold), x.2.1, x.2.2))
  | reference (d close : Char) (hd : next = some d) (h : ∀ q t, readEscape? q inBrackets (c :: d :: t) =
      (readReference? q close t).map fun x => (.node (.backref x.1 x.2.1.flags.fold), x.2.1, x.2.2))
  | edge (d : Char) (hd : next = some d) (h : ∀ q t, readEscape? q inBrackets (c :: d :: t) =
      (readEdgeName? t).map fun x => (.node (.anchor (.word true x.1)), q, x.2))
  | fixed (e : Option Escape) (h : ∀ q t, t.head? = next → readEscape? q inBrackets (c :: t) = e.map (·, q, t))

theorem escapeForm (inBrackets : Bool) (c : Char) (next : Option Char) : EscapeForm inBrackets c next := by
  by_cases hx : c = 'x'
  · subst hx; exact .hex 2 (by decide) fun _ _ => rfl
  by_cases hu : c = 'u'
  · subst hu; exact .hex 4 (by decide) fun _ _ => rfl
  by_cases hU : c = 'U'
  · subst hU; exact .hex 8 (by decide) fun _ _ => rfl
  by_cases hp : c = 'p'
  · subst hp; exact .property fun _ _ => rfl
  by_cases hP : c = 'P'
  · subst hP; exact .property fun _ _ => rfl
  by_cases hdigit : c.isDigit
  · cases inBrackets with
    | false => refine .number fun q t => ?_; simp only [readEscape?, hdigit]; simp
    | true => refine .fixed none fun q t _ => ?_; simp [readEscape?, hdigit]
  cases inBrackets with
  | true =>
    by_cases hb : c = 'b'
    · subst hb; exact .fixed (some (.char '\x08')) fun _ _ _ => rfl
    · refine .fixed (escapeLetter? c) fun q t _ => ?_; simp [readEscape?, hdigit, hb]
  | false =>
    by_cases hk : c = 'k'
    · subst hk
      by_cases hquote : next = some '\''
      · subst hquote; exact .reference '\'' '\'' rfl fun _ _ => rfl
      by_cases hangle : next = some '<'
      · subst hangle; exact .reference '<' '>' rfl fun _ _ => rfl
      refine .fixed none fun q t ht => ?_
      rcases t with _ | ⟨d, t⟩
      · rfl
      · rw [← ht] at hquote hangle
        simp only [List.head?_cons, Option.some.injEq] at hquote hangle
        simp [readEscape?, hquote, hangle]
    by_cases hb : c = 'b'
    · subst hb
      by_cases hbrace : next = some '{'
      · subst hbrace
        refine .edge '{' rfl fun q t => ?_
        simp only [readEscape?, readEdgeName?, List.span_eq_takeWhile_dropWhile]
        rcases t.dropWhile (· != '}') with _ | ⟨d, w⟩
        · rfl
        · simp [Function.comp_def]
      refine .fixed (some (.node (.anchor (.word true .edge)))) fun q t ht => ?_
      rcases t with _ | ⟨d, t⟩
      · rfl
      · rw [← ht] at hbrace
        simp only [List.head?_cons, Option.some.injEq] at hbrace
        simp [readEscape?, hbrace]
    by_cases hfixed : c ∈ ['A', 'z', 'Z', 'B', '<', '>', 'K', 'G', 'O', 'N', 'R']
    · simp only [List.mem_cons, List.not_mem_nil, or_false] at hfixed
      rcases hfixed with rfl | rfl | rfl | rfl | rfl | rfl | rfl | rfl | rfl | rfl | rfl
      all_goals exact .fixed (some _) fun _ _ _ => rfl
    · refine .fixed (escapeLetter? c) fun q t _ => ?_
      simp only [List.mem_cons, List.not_mem_nil, or_false, not_or] at hfixed
      simp [readEscape?, hdigit, hfixed]

theorem suffix_of_readEdgeName {a : Edge} (h : readEdgeName? t = some (a, u)) : u <:+ t := by
  unfold readEdgeName? at h
  split at h
  · rename_i hspan
    obtain ⟨_, -, h⟩ := Option.map_eq_some_iff.1 h
    cases h
    exact suffix_of_span hspan
  · cases h

theorem readEdgeName_append {a : Edge} (h : readEdgeName? t = some (a, u)) :
    readEdgeName? (t ++ y) = some (a, u ++ y) := by
  unfold readEdgeName? at h
  split at h
  · rename_i hspan
    obtain ⟨_, hedge, h⟩ := Option.map_eq_some_iff.1 h
    cases h
    rw [readEdgeName?, span_append hspan (List.cons_ne_nil _ _)]
    simp [hedge]
  · cases h

theorem head?_append_of_not_cut (ht : ¬ Cut t) : (t ++ y).head? = t.head? := by
  cases t with
  | nil => exact absurd cut_nil ht
  | cons c t => rfl

theorem steady_readEscape (fuel depth : Nat) {inBrackets : Bool} {e : Escape}
    (h : readEscape? r inBrackets t = some (e, r', u)) :
    Steady (.plain (readEscape? · inBrackets ·)) fuel depth r t e r' u := by
  rcases t with _ | ⟨c, t⟩
  · cases h
  rcases escapeForm inBrackets c t.head? with ⟨width, hwidth, hread⟩ | ⟨hread⟩ | ⟨hread⟩ |
    ⟨d, close, hd, hread⟩ | ⟨d, hd, hread⟩ | ⟨e?, hread⟩
  · rw [hread] at h
    obtain ⟨⟨d, w⟩, hhex, h⟩ := Option.map_eq_some_iff.1 h
    cases h
    obtain ⟨used, rfl, htakes⟩ := readHex_takes hwidth hhex
    refine (Steady.of_takes htakes).map (s := [c]) (fun d _ => Escape.char d) fun _ _ _ q y => ?_
    exact (hread q (used ++ w ++ y)).trans (by simp [Function.comp_def])
  · rw [hread] at h
    obtain ⟨⟨x, w⟩, hproperty, h⟩ := Option.map_eq_some_iff.1 h
    cases h
    obtain ⟨used, rfl, htakes⟩ := readProperty_takes hproperty
    refine (Steady.of_takes htakes).map (s := [c]) (fun x fl => propertyEscape c fl.fold x.1 x.2)
      fun _ _ _ q y => ?_
    exact (hread q (used ++ w ++ y)).trans (by simp [Function.comp_def])
  · rw [hread] at h
    obtain ⟨⟨g, q, w⟩, hnumber, h⟩ := Option.map_eq_some_iff.1 h
    cases h
    exact (steady_readNumber fuel depth hnumber).map (s := []) (fun g fl => Escape.node (.backref g fl.fold))
      fun _ _ _ q y => hread q (t ++ y)
  · obtain ⟨t, rfl⟩ := List.head?_eq_some_iff.1 hd
    rw [hread] at h
    obtain ⟨⟨g, q, w⟩, hreference, h⟩ := Option.map_eq_some_iff.1 h
    cases h
    exact (steady_readReference fuel depth hreference).map (s := [c, d]) (fun g fl => Escape.node (.backref g fl.fold))
      fun _ _ _ q y => hread q (t ++ y)
  · obtain ⟨t, rfl⟩ := List.head?_eq_some_iff.1 hd
    rw [hread] at h
    obtain ⟨⟨a, w⟩, hedge, h⟩ := Option.map_eq_some_iff.1 h
    cases h
    refine (Steady.of_append hedge (suffix_of_readEdgeName hedge) fun _ _ => readEdgeName_append hedge).map
      (s := [c, d]) (fun e _ => Escape.node (.anchor (.word true e))) fun _ _ _ q y => ?_
    exact (hread q (t ++ y)).trans (by simp [Function.comp_def])
  · rw [hread r t rfl] at h
    obtain ⟨e, rfl, h⟩ := Option.map_eq_some_iff.1 h
    cases h
    refine (Steady.of_append (f := fun t => some (e, t)) rfl (List.suffix_refl _) fun _ _ => rfl).map
      (s := [c]) (fun e _ => e) fun hu _ _ q y => ?_
    exact hread q (_ ++ y) (head?_append_of_not_cut hu)

/-! ## Bracket expressions -/

/-- Inside of brackets an escape leaves the state alone, and does not depend on names. -/
theorem readEscape_alias_true (e : Text × Nat) (bound : Nat) : ∀ t : Text, readEscape? (r.alias e bound) true t =
    (readEscape? r true t).map fun x => (x.1, x.2.1.alias e bound, x.2.2)
  | [] => rfl
  | c :: t => by
    by_cases hx : c ∈ ['x', 'u', 'U', 'p', 'P']
    · simp only [List.mem_cons, List.not_mem_nil, or_false] at hx
      rcases hx with rfl | rfl | rfl | rfl | rfl
      all_goals simp [readEscape?, Function.comp_def]
    · simp only [List.mem_cons, List.not_mem_nil, or_false, not_or] at hx
      obtain ⟨hx, hu, hU, hp, hP⟩ := hx
      by_cases hdigit : c.isDigit
      · simp [readEscape?, hdigit]
      · by_cases hb : c = 'b'
        · subst hb; rfl
        · simp [readEscape?, hdigit, hb, Function.comp_def]

/-- The next piece of a bracket expression, and how many brackets are open behind it, unless it is the last. -/
def collectNext? (r : Reading) (nested : Nat) (t : Text) : Option (Text × Option Nat × Text) :=
  match r.skip? t with
  | none | some [] => none
  | some ('\\' :: t) =>
    match readEscape? r true t with
    | some (.char c, _, t) => some (Element.quoted c, some nested, t)
    | some (.set _ s, _, t) => some (s, some nested, t)
    | _ => none
  | some ('[' :: t) => some (['['], some (nested + 1), t)
  | some (']' :: t) =>
    match nested with
    | 0 => some ([']'], none, t)
    | n + 1 => some ([']'], some n, t)
  | some (c :: t) => some ([c], some nested, t)

theorem collectBracket_succ (r : Reading) (fuel nested : Nat) (t : Text) :
    collectBracket? r (fuel + 1) nested t = (collectNext? r nested t).bind fun x =>
      match x.2.1 with
      | none => some (x.1, x.2.2)
      | some n => (collectBracket? r fuel n x.2.2).map fun y => (x.1 ++ y.1, y.2) := by
  rw [collectBracket?, collectNext?]
  rcases r.skip? t with _ | _ | ⟨c, w⟩
  · rfl
  · rfl
  · by_cases hquote : c = '\\'
    · subst hquote
      simp only
      rcases readEscape? r true w with _ | ⟨_ | _ | _, q, v⟩
      all_goals rfl
    by_cases hopen : c = '['
    · subst hopen; rfl
    by_cases hclose : c = ']'
    · subst hclose
      cases nested with
      | zero => rfl
      | succ n => rfl
    · simp

/-- How many brackets are open behind a character, unless it closes the last one. -/
def openBehind (nested : Nat) (c : Char) : Option Nat :=
  if c = '[' then some (nested + 1)
  else if c = ']' then
    match nested with
    | 0 => none
    | n + 1 => some n
  else some nested

/-- A piece is an escape or a character. -/
theorem collectNext_eq_some {nested : Nat} {s : Text} {n : Option Nat} (h : collectNext? r nested t = some (s, n, u)) :
    ∃ c w, r.skip? t = some (c :: w) ∧
      ((c = '\\' ∧ n = some nested ∧ ∃ e q, readEscape? r true w = some (e, q, u)) ∨
        (c ≠ '\\' ∧ n = openBehind nested c ∧ u = w)) := by
  unfold collectNext? at h
  rcases hskip : r.skip? t with _ | _ | ⟨c, w⟩
  · rw [hskip] at h; cases h
  · rw [hskip] at h; cases h
  · rw [hskip] at h
    refine ⟨c, w, rfl, ?_⟩
    by_cases hquote : c = '\\'
    · subst hquote
      refine .inl ⟨rfl, ?_⟩
      simp only at h
      rcases hescape : readEscape? r true w with _ | ⟨e, q, v⟩
      · rw [hescape] at h; cases h
      · rw [hescape] at h
        cases e with
        | char => cases h; exact ⟨rfl, _, _, rfl⟩
        | set => cases h; exact ⟨rfl, _, _, rfl⟩
        | node => cases h
    · refine .inr ⟨hquote, ?_⟩
      by_cases hopen : c = '['
      · subst hopen; cases h; exact ⟨rfl, rfl⟩
      by_cases hclose : c = ']'
      · subst hclose
        cases nested with
        | zero => cases h; exact ⟨rfl, rfl⟩
        | succ n => cases h; exact ⟨rfl, rfl⟩
      · simp at h
        obtain ⟨-, rfl, rfl⟩ := h
        simp [openBehind, hopen, hclose]

theorem suffix_of_collectNext {nested : Nat} {s : Text} {n : Option Nat}
    (h : collectNext? r nested t = some (s, n, u)) : u <:+ t := by
  obtain ⟨c, w, hskip, ⟨-, -, e, q, hescape⟩ | ⟨-, -, rfl⟩⟩ := collectNext_eq_some h
  · exact ((steady_readEscape 0 0 hescape).rest.trans (List.suffix_cons c w)).trans
      (Reading.suffix_of_skip hskip)
  · exact (List.suffix_cons c u).trans (Reading.suffix_of_skip hskip)

theorem collectNext_alias (e : Text × Nat) (bound nested : Nat) (t : Text) :
    collectNext? (r.alias e bound) nested t = collectNext? r nested t := by
  rw [collectNext?, collectNext?, alias_skip]
  rcases r.skip? t with _ | _ | ⟨c, w⟩
  · rfl
  · rfl
  · by_cases hquote : c = '\\'
    · subst hquote
      simp only
      rw [readEscape_alias_true]
      rcases readEscape? r true w with _ | ⟨_ | _ | _, q, v⟩
      all_goals rfl
    by_cases hopen : c = '['
    · subst hopen; rfl
    by_cases hclose : c = ']'
    · subst hclose; rfl
    · simp

/-- More text does not change where a piece ends. -/
theorem collectNext_append {q : Reading} {nested : Nat} {s s' z : Text} {n n' : Option Nat} (hu : ¬ Cut u)
    (hq : r.Alike q) (h : collectNext? r nested t = some (s, n, u))
    (h' : collectNext? q nested (t ++ y) = some (s', n', z)) : n' = n ∧ z = u ++ y := by
  obtain ⟨c, w, hskip, hnext⟩ := collectNext_eq_some h
  obtain ⟨c', w', hskip', hnext'⟩ := collectNext_eq_some h'
  have hrest : u <:+ c :: w := by
    rcases hnext with ⟨-, -, e, q, hescape⟩ | ⟨-, -, rfl⟩
    · exact (steady_readEscape 0 0 hescape).rest.trans (List.suffix_cons c w)
    · exact List.suffix_cons c u
  rw [skip_append hq (not_cut_of_suffix hu hrest) hskip] at hskip'
  cases hskip'
  rcases hnext with ⟨hc, rfl, e, q, hescape⟩ | ⟨hc, rfl, rfl⟩
  · rcases hnext' with ⟨-, rfl, e', q', hescape'⟩ | ⟨hc', -, -⟩
    · exact ⟨rfl, ((steady_readEscape 0 0 hescape).behind 0 0 hu hq hescape').1⟩
    · exact absurd hc hc'
  · rcases hnext' with ⟨hc', -⟩ | ⟨-, rfl, rfl⟩
    · exact absurd hc' hc
    · exact ⟨rfl, rfl⟩

/-- What is collected is a piece, and what is collected behind it unless it is the last one. -/
theorem collectBracket_eq_some {fuel nested : Nat} {s : Text}
    (h : collectBracket? r fuel nested t = some (s, u)) :
    ∃ fuel' s₁ n w, fuel = fuel' + 1 ∧ collectNext? r nested t = some (s₁, n, w) ∧
      (n = none ∧ u = w ∨ ∃ m s₂, n = some m ∧ collectBracket? r fuel' m w = some (s₂, u)) := by
  cases fuel with
  | zero => cases h
  | succ fuel =>
    rw [collectBracket_succ] at h
    obtain ⟨⟨s₁, n, w⟩, hnext, h⟩ := Option.bind_eq_some_iff.1 h
    refine ⟨fuel, s₁, n, w, rfl, hnext, ?_⟩
    cases n with
    | none => cases h; exact .inl ⟨rfl, rfl⟩
    | some m =>
      obtain ⟨⟨s₂, v⟩, hrec, h⟩ := Option.map_eq_some_iff.1 h
      cases h; exact .inr ⟨m, s₂, rfl, hrec⟩

theorem suffix_of_collectBracket : ∀ {fuel nested : Nat} {t s u : Text},
    collectBracket? r fuel nested t = some (s, u) → u <:+ t := by
  intro fuel
  induction fuel with
  | zero => intro nested t s u h; cases h
  | succ fuel ih =>
    intro nested t s u h
    obtain ⟨_, s₁, n, w, hfuel, hnext, ⟨-, rfl⟩ | ⟨m, s₂, -, hrec⟩⟩ := collectBracket_eq_some h
    · exact suffix_of_collectNext hnext
    · cases hfuel
      exact (ih hrec).trans (suffix_of_collectNext hnext)

theorem collectBracket_alias (e : Text × Nat) (bound : Nat) : ∀ (fuel nested : Nat) (t : Text),
    collectBracket? (r.alias e bound) fuel nested t = collectBracket? r fuel nested t := by
  intro fuel
  induction fuel with
  | zero => intro nested t; rfl
  | succ fuel ih =>
    intro nested t
    simp only [collectBracket_succ, collectNext_alias, ih]

/-- More text does not change where a bracket expression ends. -/
theorem collectBracket_append {q : Reading} (hq : r.Alike q) {u : Text} (hu : ¬ Cut u) :
    ∀ {fuel fuel' nested : Nat} {t s s' z : Text}, collectBracket? r fuel nested t = some (s, u) →
      collectBracket? q fuel' nested (t ++ y) = some (s', z) → z = u ++ y := by
  intro fuel
  induction fuel with
  | zero => intro fuel' nested t s s' z h; cases h
  | succ fuel ih =>
    intro fuel' nested t s s' z h h'
    obtain ⟨_, s₁, n, w, hfuel, hnext, hrec⟩ := collectBracket_eq_some h
    obtain ⟨fuel', s₁', n', w', -, hnext', hrec'⟩ := collectBracket_eq_some h'
    cases hfuel
    rcases hrec with ⟨rfl, rfl⟩ | ⟨m, s₂, rfl, hrec⟩
    · obtain ⟨rfl, rfl⟩ := collectNext_append hu hq hnext hnext'
      rcases hrec' with ⟨-, rfl⟩ | ⟨_, _, hm, -⟩
      · rfl
      · cases hm
    · have hw := not_cut_of_suffix hu (suffix_of_collectBracket hrec)
      obtain ⟨rfl, rfl⟩ := collectNext_append hw hq hnext hnext'
      rcases hrec' with ⟨hm, -⟩ | ⟨_, s₂', hm, hrec'⟩
      · cases hm
      · cases hm
        exact ih hrec hrec'

/-- A caret and a literal bracket at the start of a bracket expression, and what is left. -/
def bracketFirst : Text → Text × Text
  | '^' :: ']' :: t => ("^]".toList, t)
  | '^' :: t => (['^'], t)
  | ']' :: t => ([']'], t)
  | t => ([], t)

theorem suffix_bracketFirst (t : Text) : (bracketFirst t).2 <:+ t := by
  unfold bracketFirst
  split
  · exact ⟨"^]".toList, rfl⟩
  · exact List.suffix_cons _ _
  · exact List.suffix_cons _ _
  · exact List.suffix_refl _

theorem bracketFirst_append (h : (bracketFirst t).2 ≠ []) :
    bracketFirst (t ++ y) = ((bracketFirst t).1, (bracketFirst t).2 ++ y) := by
  rcases t with _ | ⟨c, t⟩
  · exact absurd rfl h
  by_cases hcaret : c = '^'
  · subst hcaret
    rcases t with _ | ⟨d, t⟩
    · exact absurd rfl h
    by_cases hclose : d = ']'
    · subst hclose; rfl
    · simp [bracketFirst, hclose]
  · by_cases hclose : c = ']'
    · subst hclose; rfl
    · simp [bracketFirst, hcaret, hclose]

/-- The part that a bracket expression stands for, by what has been collected. -/
def bracketAtom? (r : Reading) (first : Text) : Option (Text × Text) → Result Node
  | some (s, w) =>
    match Bracket.read? { fold := r.flags.fold } (first ++ s) with
    | some (c, []) => some (.set c.set, r, w)
    | _ => none
  | none => none

/-- A bracket expression is collected first and read then. -/
theorem readBracket_eq (r : Reading) (t : Text) : readBracket? r t =
    bracketAtom? r (bracketFirst t).1 (collectBracket? r ((bracketFirst t).2.length + 1) 0 (bracketFirst t).2) := rfl

theorem readBracket_eq_some {a : Node} (h : readBracket? r t = some (a, r', u)) :
    r' = r ∧ ∃ s, collectBracket? r ((bracketFirst t).2.length + 1) 0 (bracketFirst t).2 = some (s, u) := by
  rw [readBracket_eq] at h
  unfold bracketAtom? at h
  split at h
  · rename_i hcollect
    split at h
    · cases h; exact ⟨rfl, _, hcollect⟩
    · cases h
  · cases h

theorem bracketAtom_alias (e : Text × Nat) (bound : Nat) (first : Text) (x : Option (Text × Text)) :
    bracketAtom? (r.alias e bound) first x =
      (bracketAtom? r first x).map fun x => (x.1, x.2.1.alias e bound, x.2.2) := by
  rcases x with _ | ⟨s, w⟩
  · rfl
  · rw [bracketAtom?, bracketAtom?, alias_flags]
    rcases Bracket.read? _ _ with _ | ⟨s, _ | ⟨c, w⟩⟩
    all_goals rfl

theorem readBracket_alias (e : Text × Nat) (bound : Nat) (t : Text) : readBracket? (r.alias e bound) t =
    (readBracket? r t).map fun x => (x.1, x.2.1.alias e bound, x.2.2) := by
  rw [readBracket_eq, readBracket_eq, collectBracket_alias, bracketAtom_alias]

theorem steady_readBracket (fuel depth : Nat) {a : Node} (h : readBracket? r t = some (a, r', u)) :
    Steady (.plain readBracket?) fuel depth r t a r' u := by
  obtain ⟨rfl, s, hcollect⟩ := readBracket_eq_some h
  have hrest := suffix_of_collectBracket hcollect
  refine ⟨hrest.trans (suffix_bracketFirst t), id, ?_, ?_⟩
  · intro _ _ _ _ e bound
    rw [Reader.plain, readBracket_alias, h]; rfl
  · intro _ _ hu q y x q' z hq h'
    obtain ⟨rfl, s', hcollect'⟩ := readBracket_eq_some h'
    rw [bracketFirst_append (ne_nil_of_not_cut (not_cut_of_suffix hu hrest))] at hcollect'
    exact ⟨collectBracket_append hq hu hcollect hcollect', hq⟩

/-! ## Flags -/

/-- A letter of a flag is no operator, and does the same to what is skipped. -/
theorem turn_eq_some {fl fl' : Flags} {c : Char} {on : Bool} (h : turn? fl c on = some fl') :
    c ∉ ['(', '?'] ∧ ∀ {gl gl' : Flags}, gl.ignoreSpace = fl.ignoreSpace → turn? gl c on = some gl' →
      gl'.ignoreSpace = fl'.ignoreSpace := by
  unfold turn? at h
  split at h
  · cases h; exact ⟨by decide, fun hgl h' => by cases h'; exact hgl⟩
  · cases h; exact ⟨by decide, fun hgl h' => by cases h'; exact hgl⟩
  · cases h; exact ⟨by decide, fun hgl h' => by cases h'; exact hgl⟩
  · cases h; exact ⟨by decide, fun hgl h' => by cases h'; exact hgl⟩
  · cases h; exact ⟨by decide, fun _ h' => by cases h'; rfl⟩
  · split at h
    · rename_i hon
      cases h
      refine ⟨by decide, fun hgl h' => ?_⟩
      simp only [turn?, hon, if_true] at h'
      cases h'; exact hgl
    · cases h
  · cases h

theorem readFlags_eq_some {on : Bool} {last : Option Char} {fuel : Nat} {fl : Flags} {d : Char}
    (h : readFlags? r on last fuel t = some (fl, d, u)) :
    ∃ fuel' c w, fuel = fuel' + 1 ∧ r.skip? t = some (c :: w) ∧
      ((c = ')' ∨ c = ':') ∧ fl = r.flags ∧ d = c ∧ u = w ∨
        c ≠ ')' ∧ c ≠ ':' ∧ c = '-' ∧ readFlags? r false (some c) fuel' w = some (fl, d, u) ∨
        c ≠ ')' ∧ c ≠ ':' ∧ c ≠ '-' ∧ ∃ fl', turn? r.flags c on = some fl' ∧
          readFlags? { r with flags := fl' } on (some c) fuel' w = some (fl, d, u)) := by
  cases fuel with
  | zero => cases h
  | succ fuel =>
    rw [readFlags?] at h
    split at h
    · cases h
    · cases h
    · rename_i c w hskip
      refine ⟨fuel, c, w, rfl, hskip, ?_⟩
      split at h
      · rename_i hend
        split at h
        · cases h
        · cases h; exact .inl ⟨hend, rfl, rfl, rfl⟩
      · rename_i hend
        obtain ⟨hclose, hcolon⟩ := not_or.1 hend
        split at h
        · rename_i hdash
          split at h
          · exact .inr (.inl ⟨hclose, hcolon, hdash, h⟩)
          · cases h
        · rename_i hdash
          exact .inr (.inr ⟨hclose, hcolon, hdash, Option.bind_eq_some_iff.1 h⟩)

theorem suffix_of_readFlags : ∀ {fuel : Nat} {r : Reading} {on : Bool} {last : Option Char} {t u : Text} {fl : Flags}
    {d : Char}, readFlags? r on last fuel t = some (fl, d, u) → u <:+ t := by
  intro fuel
  induction fuel with
  | zero => intro r on last t u fl d h; cases h
  | succ fuel ih =>
    intro r on last t u fl d h
    obtain ⟨_, c, w, hfuel, hskip, hnext⟩ := readFlags_eq_some h
    cases hfuel
    have hw := (List.suffix_cons c w).trans (Reading.suffix_of_skip hskip)
    rcases hnext with ⟨-, -, -, rfl⟩ | ⟨-, -, -, hrec⟩ | ⟨-, -, -, fl', -, hrec⟩
    · exact hw
    · exact (ih hrec).trans hw
    · exact (ih hrec).trans hw

theorem readFlags_alias (e : Text × Nat) (bound : Nat) : ∀ (fuel : Nat) (r : Reading) (on : Bool)
    (last : Option Char) (t : Text), readFlags? (r.alias e bound) on last fuel t = readFlags? r on last fuel t := by
  intro fuel
  induction fuel with
  | zero => intros; rfl
  | succ fuel ih =>
    intro r on last t
    rw [readFlags?, readFlags?, alias_skip, alias_flags]
    rcases r.skip? t with _ | _ | ⟨c, w⟩
    · rfl
    · rfl
    · have hflags (fl : Flags) : ({ r.alias e bound with flags := fl } : Reading) =
          ({ r with flags := fl } : Reading).alias e bound := rfl
      simp only [hflags, ih]

/-- More text does not change which flags are read. -/
theorem readFlags_append : ∀ {fuel fuel' : Nat} {r q : Reading} {on : Bool} {last : Option Char} {t u z : Text}
    {fl fl' : Flags} {d d' : Char}, r.Alike q → readFlags? r on last fuel t = some (fl, d, u) →
      readFlags? q on last fuel' (t ++ y) = some (fl', d', z) →
      d' = d ∧ z = u ++ y ∧ fl'.ignoreSpace = fl.ignoreSpace := by
  intro fuel
  induction fuel with
  | zero => intro fuel' r q on last t u z fl fl' d d' hq h; cases h
  | succ fuel ih =>
    intro fuel' r q on last t u z fl fl' d d' hq h h'
    obtain ⟨_, c, w, hfuel, hskip, hnext⟩ := readFlags_eq_some h
    obtain ⟨fuel', c', w', -, hskip', hnext'⟩ := readFlags_eq_some h'
    cases hfuel
    have hc : c ∉ ['(', '?'] := by
      rcases hnext with ⟨rfl | rfl, -⟩ | ⟨-, -, rfl, -⟩ | ⟨-, -, -, fl', hturn, -⟩
      · decide
      · decide
      · decide
      · exact (turn_eq_some hturn).1
    rw [skip_append hq (not_cut_of_mem List.mem_cons_self hc) hskip] at hskip'
    cases hskip'
    rcases hnext with ⟨hend, rfl, rfl, rfl⟩ | ⟨hclose, hcolon, hdash, hrec⟩ | ⟨hclose, hcolon, hdash, fl₁, hturn, hrec⟩
    · rcases hnext' with ⟨-, rfl, rfl, rfl⟩ | ⟨hclose, hcolon, -⟩ | ⟨hclose, hcolon, -⟩
      · exact ⟨rfl, rfl, hq⟩
      · exact absurd hend (not_or.2 ⟨hclose, hcolon⟩)
      · exact absurd hend (not_or.2 ⟨hclose, hcolon⟩)
    · rcases hnext' with ⟨hend, -⟩ | ⟨-, -, -, hrec'⟩ | ⟨-, -, hdash', -⟩
      · exact absurd hend (not_or.2 ⟨hclose, hcolon⟩)
      · exact ih hq hrec hrec'
      · exact absurd hdash hdash'
    · rcases hnext' with ⟨hend, -⟩ | ⟨-, -, hdash', -⟩ | ⟨-, -, -, fl₁', hturn', hrec'⟩
      · exact absurd hend (not_or.2 ⟨hclose, hcolon⟩)
      · exact absurd hdash' hdash
      · have hq' : Reading.Alike { r with flags := fl₁ } { q with flags := fl₁' } := (turn_eq_some hturn).2 hq hturn'
        exact ih hq' hrec hrec'

end

end Readout.Regex.LinePattern
