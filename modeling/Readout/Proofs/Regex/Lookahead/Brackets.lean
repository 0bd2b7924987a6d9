/-
  How far the reader of patterns over commands looks: bracket expressions.

  * `readOpen_takes`, `readRange_takes`, `readNext_takes`: what the parts of a bracket expression take off, if a closing
    bracket follows somewhere;
  * `readFrom_takes`, `readBracket_takes`: a bracket expression goes up to a bracket that closes it.
-/
import Readout.Proofs.Regex.Acts
import Readout.Proofs.Regex.Lookahead.Escapes

namespace Readout.Regex

namespace Bracket

/-! ## The start of a bracket expression -/

section
variable {fl : Flags} {t u : Text} {c : Char}

/-- What is skipped in front of a text that goes on in the same way. -/
theorem skipSpace_append {x : Text} (h : fl.skipSpace t = x ++ c :: u) :
    ∃ skipped, t = skipped ++ (x ++ c :: u) ∧ ∀ v, fl.skipSpace (skipped ++ (x ++ c :: v)) = x ++ c :: v := by
  cases x with
  | nil =>
    obtain ⟨skipped, ht, hv⟩ := skipSpace_takes h
    exact ⟨skipped, ht, hv⟩
  | cons d x =>
    obtain ⟨skipped, ht, hv⟩ := skipSpace_takes h
    exact ⟨skipped, ht, fun v => hv (x ++ c :: v)⟩

theorem leadingDashes_takes : ∀ {n : Nat} {first first' : Items} {t : Text},
    leadingDashes fl first n t = (first', c :: u) → t.length ≤ n → ∃ used, t = used ++ c :: u ∧
      ∀ v m, used.length < m → leadingDashes fl first m (used ++ c :: v) = (first', c :: v) := by
  intro n
  induction n with
  | zero =>
    intro first first' t h hlength
    obtain rfl := List.length_eq_zero_iff.1 (Nat.le_zero.1 hlength)
    cases h
  | succ n ih =>
    intro first first' t h hlength
    by_cases hdash : ∃ t', t = '-' :: t'
    · obtain ⟨t, rfl⟩ := hdash
      rw [leadingDashes] at h
      have hskip : (fl.skipSpace t).length ≤ t.length := (suffix_skipSpace t).length_le
      obtain ⟨used, hused, hv⟩ := ih h (hskip.trans (Nat.le_of_succ_le_succ hlength))
      obtain ⟨skipped, rfl, hskipped⟩ := skipSpace_append hused
      refine ⟨'-' :: (skipped ++ used), by simp, fun v m hm => ?_⟩
      obtain ⟨m, rfl⟩ := Nat.exists_eq_succ_of_ne_zero (Nat.ne_of_gt (Nat.zero_lt_of_lt hm))
      rw [List.cons_append, List.append_assoc, leadingDashes, hskipped]
      refine hv v m ?_
      simp only [List.length_cons, List.length_append] at hm
      omega
    · have hstop {w : Text} {m : Nat} (hw : ∀ w', w ≠ '-' :: w') :
          leadingDashes fl first (m + 1) w = (first, w) := by
        rw [leadingDashes]
        exact fun _ w' _ hw' => hw w' hw'
      rw [hstop fun t' ht => hdash ⟨t', ht⟩] at h
      cases h
      refine ⟨[], rfl, fun v m hm => ?_⟩
      obtain ⟨m, rfl⟩ := Nat.exists_eq_succ_of_ne_zero (Nat.ne_of_gt (Nat.zero_lt_of_lt hm))
      refine hstop fun w' hw => hdash ⟨u, ?_⟩
      rw [(List.cons.inj hw).1]

/-- What a bracket expression starts with: dashes, or else a closing bracket. -/
def finishOpen (fl : Flags) (x : Items × Text) : Items × Text :=
  match x.1.count, x.2 with
  | 0, ']' :: t => (Items.add {} ⟨.single ']', 0⟩, fl.skipSpace t)
  | _, _ => x

/-- The dashes or the bracket that a bracket expression starts with, behind its negation. -/
def readFirst (fl : Flags) (t : Text) : Items × Text := finishOpen fl (leadingDashes fl {} t.length t)

theorem finishOpen_of_ne {x : Items × Text} (h : ∀ w, x.1.count = 0 → x.2 = ']' :: w → False) :
    finishOpen fl x = x := by
  unfold finishOpen
  split
  · rename_i hcount hrest
    exact (h _ hcount hrest).elim
  · rfl

theorem finishOpen_bracket {x : Items × Text} {w : Text} (hcount : x.1.count = 0) (hrest : x.2 = ']' :: w) :
    finishOpen fl x = (Items.add {} ⟨.single ']', 0⟩, fl.skipSpace w) := by
  simp only [finishOpen, hcount, hrest]

theorem readOpen_eq (fl : Flags) (t : Text) : readOpen fl t =
    match fl.skipSpace t with
    | '^' :: t => (true, readFirst fl (fl.skipSpace t))
    | t => (false, readFirst fl t) := by
  unfold readOpen readFirst
  generalize fl.skipSpace t = w
  by_cases hw : ∃ w', w = '^' :: w'
  · obtain ⟨w, rfl⟩ := hw
    dsimp only
    split
    · rename_i hcount hrest
      exact congrArg (Prod.mk true) (finishOpen_bracket hcount hrest).symm
    · rename_i hne
      exact congrArg (Prod.mk true) (finishOpen_of_ne hne).symm
  · have hplain : ∀ w', w = '^' :: w' → False := fun w' hw' => hw ⟨w', hw'⟩
    simp only
    split
    · rename_i hcount hrest
      rw [finishOpen_bracket hcount hrest]
    · rename_i hne
      rw [finishOpen_of_ne hne]

theorem finishOpen_takes {x : Items × Text} {first : Items} (h : finishOpen fl x = (first, c :: u)) :
    ∃ d w used, x = (x.1, d :: w) ∧ d :: w = used ++ c :: u ∧
      ∀ v, finishOpen fl (x.1, used ++ c :: v) = (first, c :: v) := by
  by_cases hbracket : ∃ t, x.1.count = 0 ∧ x.2 = ']' :: t
  · obtain ⟨t, hcount, hrest⟩ := hbracket
    rw [finishOpen_bracket hcount hrest] at h
    obtain ⟨hfirst, hskip⟩ := Prod.mk.inj h
    obtain ⟨skipped, rfl, hv⟩ := skipSpace_takes hskip
    refine ⟨']', skipped ++ c :: u, ']' :: skipped, Prod.ext rfl hrest, rfl, fun v => ?_⟩
    have hread : finishOpen fl _ = _ := finishOpen_bracket (x := (x.1, ']' :: (skipped ++ c :: v))) hcount rfl
    rw [List.cons_append, hread, hv, ← hfirst]
  · rw [finishOpen_of_ne fun w hcount hrest => hbracket ⟨w, hcount, hrest⟩] at h
    subst h
    refine ⟨c, u, [], rfl, rfl, fun v => finishOpen_of_ne fun w hcount hrest => hbracket ⟨u, hcount, ?_⟩⟩
    obtain ⟨rfl, -⟩ := List.cons.inj hrest
    rfl

/-- A text that goes on in another way starts with the same character. -/
theorem exists_cons_of_append {d : Char} {w x : Text} (h : d :: w = x ++ c :: u) (v : Text) :
    ∃ w', x ++ c :: v = d :: w' := by
  cases x with
  | nil => exact ⟨v, by rw [(List.cons.inj h).1]; rfl⟩
  | cons e x => exact ⟨x ++ c :: v, by rw [(List.cons.inj h).1]; rfl⟩

theorem readFirst_takes {first : Items} (h : readFirst fl t = (first, c :: u)) :
    ∃ used, t = used ++ c :: u ∧ ∀ v, readFirst fl (used ++ c :: v) = (first, c :: v) := by
  obtain ⟨d, w, rest, hx, hw, hrest⟩ := finishOpen_takes h
  obtain ⟨dashes, ht, hdashes⟩ := leadingDashes_takes hx (Nat.le_refl _)
  refine ⟨dashes ++ rest, by rw [ht, hw, List.append_assoc], fun v => ?_⟩
  obtain ⟨w', hw'⟩ := exists_cons_of_append hw v
  have hread := hdashes w' (dashes ++ d :: w').length (by rw [List.length_append, List.length_cons]; omega)
  rw [List.append_assoc, readFirst, hw', hread, ← hw', hrest]

theorem readOpen_takes {negated : Bool} {first : Items} (h : readOpen fl t = (negated, first, c :: u)) :
    ∃ used, t = used ++ c :: u ∧ ∀ v, readOpen fl (used ++ c :: v) = (negated, first, c :: v) := by
  rw [readOpen_eq] at h
  split at h
  · rename_i w hw
    obtain ⟨rfl, hfirst⟩ := Prod.mk.inj h
    obtain ⟨used, hused, hv⟩ := readFirst_takes hfirst
    obtain ⟨skipped, ht, hskipped⟩ := skipSpace_takes hw
    obtain ⟨skipped', rfl, hskipped'⟩ := skipSpace_append hused
    refine ⟨skipped ++ '^' :: (skipped' ++ used), by rw [ht]; simp, fun v => ?_⟩
    have happend :
        skipped ++ '^' :: (skipped' ++ used) ++ c :: v = skipped ++ '^' :: (skipped' ++ (used ++ c :: v)) := by
      simp
    rw [happend, readOpen_eq, hskipped]
    simp only [hskipped', hv]
  · rename_i w hw
    obtain ⟨rfl, hfirst⟩ := Prod.mk.inj h
    obtain ⟨used, hused, hv⟩ := readFirst_takes hfirst
    obtain ⟨skipped, rfl, hskipped⟩ := skipSpace_append hused
    refine ⟨skipped ++ used, by rw [List.append_assoc], fun v => ?_⟩
    rw [List.append_assoc, readOpen_eq, hskipped]
    split
    · rename_i w' hw'
      obtain ⟨w'', hw''⟩ := exists_cons_of_append hw'.symm u
      exact absurd (hused.trans hw'') fun heq => hw _ heq
    · rw [hv]

/-- As `readOpen_takes`, where what is left goes on in the same way. -/
theorem readOpen_append {negated : Bool} {first : Items} {x : Text}
    (h : readOpen fl t = (negated, first, x ++ c :: u)) :
    ∃ used, t = used ++ (x ++ c :: u) ∧ ∀ v, readOpen fl (used ++ (x ++ c :: v)) = (negated, first, x ++ c :: v) := by
  cases x with
  | nil => exact readOpen_takes h
  | cons d x =>
    obtain ⟨used, ht, hv⟩ := readOpen_takes h
    exact ⟨used, ht, fun v => hv (x ++ c :: v)⟩

/-! ## Items -/

/-- A named class has no bracket in its name. -/
theorem notMem_of_ascii {name : Text} {s : CharSet} (h : CharSet.ascii? (Text.str name) = some s) : ']' ∉ name := by
  have hname {n : String} (hn : Text.str name = n) : name = n.toList := by
    rw [← hn, Text.str, String.toList_ofList]
  unfold CharSet.ascii? at h
  split at h
  case h_15 => cases h
  all_goals
    rename_i hn
    rw [hname hn]
    decide

/-- Reads a named class behind its negation. -/
def readClass? (negated : Bool) (t : Text) : Option (CharSet × Bool × Text) :=
  match t.span (· != ':') with
  | (name, ':' :: ']' :: rest) => (CharSet.ascii? (Text.str name)).map (·, negated, rest)
  | _ => none

theorem readClass_takes {negated negated' : Bool} {s : CharSet}
    (h : readClass? negated t = some (s, negated', u)) :
    ∃ name, t = name ++ ':' :: ']' :: u ∧ ']' ∉ name ∧
      ∀ v, readClass? negated (name ++ ':' :: ']' :: v) = some (s, negated', v) := by
  unfold readClass? at h
  split at h
  · rename_i name rest hspan
    obtain ⟨rfl, -, hv⟩ := eq_of_span hspan
    obtain ⟨a, ha, h⟩ := Option.map_eq_some_iff.1 h
    cases h
    refine ⟨name, rfl, notMem_of_ascii ha, fun v => ?_⟩
    rw [readClass?, hv]
    simp only [ha]
    rfl
  · cases h

theorem readNamed_eq (t : Text) : readNamed? t =
    match t with
    | '^' :: t => readClass? true t
    | t => readClass? false t := by
  by_cases hnegated : ∃ t', t = '^' :: t'
  · obtain ⟨t, rfl⟩ := hnegated
    rfl
  · have hplain : ∀ t', t = '^' :: t' → False := fun t' ht' => hnegated ⟨t', ht'⟩
    simp only [readNamed?]
    rfl

/-- **A named class goes up to the first bracket that closes.** -/
theorem named_takes {s : CharSet} {negated : Bool} (h : named? t = some (s, negated, u)) :
    ∃ name, t = name ++ ']' :: u ∧ ']' ∉ name ∧ ∀ v, named? (name ++ ']' :: v) = some (s, negated, v) := by
  unfold named? at h
  split at h
  · rename_i t
    rw [readNamed_eq] at h
    split at h
    · rename_i t
      obtain ⟨name, rfl, hname, hv⟩ := readClass_takes h
      refine ⟨':' :: '^' :: (name ++ [':']), by simp, by simp [hname], fun v => ?_⟩
      have happend : ':' :: '^' :: (name ++ [':']) ++ ']' :: v = ':' :: '^' :: (name ++ ':' :: ']' :: v) := by simp
      rw [happend, named?, readNamed_eq]
      exact hv v
    · rename_i t hplain
      obtain ⟨name, rfl, hname, hv⟩ := readClass_takes h
      refine ⟨':' :: (name ++ [':']), by simp, by simp [hname], fun v => ?_⟩
      have happend : ':' :: (name ++ [':']) ++ ']' :: v = ':' :: (name ++ ':' :: ']' :: v) := by simp
      rw [happend, named?, readNamed_eq]
      split
      · rename_i w hw
        obtain ⟨w', hw'⟩ := exists_cons_of_append hw.symm (']' :: u)
        exact absurd hw' fun heq => hplain _ heq
      · exact hv v
  · cases h

/-- Where there is no named class in front of a closing bracket, there is none with other text behind the bracket. -/
theorem named_eq_none {x : Text} (h : named? (x ++ ']' :: u) = none) (v : Text) : named? (x ++ ']' :: v) = none := by
  rcases hv : named? (x ++ ']' :: v) with _ | ⟨s, negated, w⟩
  · rfl
  · obtain ⟨name, hx, hname, hread⟩ := named_takes hv
    -- the name ends in `x`, or with it
    rcases List.append_eq_append_iff.1 hx with ⟨y, rfl, hy⟩ | ⟨y, rfl, hy⟩
    · obtain rfl : y = [] := by
        cases y with
        | nil => rfl
        | cons c y =>
          rw [← (List.cons.inj hy).1] at hname
          exact absurd (by simp) hname
      rw [List.append_nil] at hread
      exact absurd (hread u) (by rw [h]; exact nofun)
    · obtain ⟨w', hw'⟩ := exists_cons_of_append hy u
      have hsome := hread w'
      rw [← hw', ← List.append_assoc] at hsome
      exact absurd hsome (by rw [h]; exact nofun)

theorem readItem_takes {e : Element} (h : readItem? fl t = some (e, u))
    (he : e ≠ .anchor (.word fl.unicode .edge)) :
    ∃ used, t = used ++ u ∧ used ≠ [] ∧ Takes (readItem? fl) used e := by
  cases t with
  | nil => cases h
  | cons c t =>
    by_cases hc : c = '\\'
    · subst hc
      obtain ⟨used, rfl, -, -, hv⟩ := readElement_takes (t := t) h
      exact ⟨'\\' :: used, rfl, List.cons_ne_nil _ _, fun v => hv v fun heq => absurd heq he⟩
    · have hread (w : Text) : readItem? fl (c :: w) = some (.char c, w) := by
        rw [readItem?]
        rintro rfl
        exact hc rfl
      rw [hread] at h
      cases h
      exact ⟨[c], rfl, List.cons_ne_nil _ _, hread⟩

/-- Reads on behind the first element of what could be a range. -/
def readRest? (fl : Flags) (e : Element) : Text → Option (CharSet × Text)
  | [] => none
  | '-' :: t =>
    match fl.skipSpace t with
    | [] => none
    | ']' :: _ | '-' :: _ => (e.alone? fl).map (·, '-' :: t)
    | t => (readItem? fl t).bind fun (e', t) => (e.between? fl e').map (·, t)
  | t => (e.alone? fl).map (·, t)

theorem readRange_eq (fl : Flags) (t : Text) :
    readRange? fl t = (readItem? fl t).bind fun (e, t) => readRest? fl e (fl.skipSpace t) := by
  unfold readRange?
  rcases readItem? fl t with _ | ⟨e, t⟩
  · rfl
  · dsimp only [Option.bind_eq_bind, Option.bind_some]
    generalize fl.skipSpace t = w
    unfold readRest?
    by_cases hdash : ∃ r, w = '-' :: r
    · obtain ⟨r, rfl⟩ := hdash
      rcases hskip : fl.skipSpace r with _ | ⟨d, r'⟩
      · simp only [hskip]
      · by_cases hd : d = ']' ∨ d = '-'
        · rcases hd with rfl | rfl <;> simp only [hskip]
        · obtain ⟨hclose, hagain⟩ := not_or.1 hd
          simp only [hskip, List.cons.injEq, hclose, hagain, false_and, false_implies, implies_true]
    · rcases w with _ | ⟨d, r⟩
      · rfl
      · have hd : d ≠ '-' := by rintro rfl; exact hdash ⟨r, rfl⟩
        simp only [List.cons.injEq, hd, false_and, false_implies, implies_true]

theorem readRest_alone {e : Element} (hc : c ≠ '-') : readRest? fl e (c :: t) = (e.alone? fl).map (·, c :: t) := by
  simp only [readRest?, List.cons.injEq, hc, false_and, false_implies, implies_true]

theorem readRest_dash {e : Element} (h : fl.skipSpace t = c :: u) : readRest? fl e ('-' :: t) =
    if c = ']' ∨ c = '-' then (e.alone? fl).map (·, '-' :: t)
    else (readItem? fl (c :: u)).bind fun (e', t) => (e.between? fl e').map (·, t) := by
  unfold readRest?
  by_cases hc : c = ']' ∨ c = '-'
  · rw [if_pos hc]
    rcases hc with rfl | rfl <;> simp only [h]
  · rw [if_neg hc]
    obtain ⟨hclose, hagain⟩ := not_or.1 hc
    simp only [h, List.cons.injEq, hclose, hagain, false_and, false_implies, implies_true]

theorem exists_alone_of_between {e e' : Element} {s : CharSet} (h : e.between? fl e' = some s) :
    (∃ s, e.alone? fl = some s) ∧ e' ≠ .anchor (.word fl.unicode .edge) := by
  unfold Element.between? at h
  split at h
  · rename_i lo hi
    obtain ⟨hbounds, -⟩ := Option.ite_none_right_eq_some.1 h
    obtain ⟨hle, hhi⟩ := Bool.and_eq_true_iff.1 hbounds
    refine ⟨⟨.single lo, if_pos ?_⟩, nofun⟩
    -- within ASCII if the greater one is
    have hlo : lo.toNat ≤ hi.toNat := of_decide_eq_true hle
    simp only [Bool.or_eq_true, decide_eq_true_eq] at hhi ⊢
    exact hhi.imp_right hlo.trans_lt
  · cases h

/-- What is looked at behind a dash stays the same in front of a closing bracket that is not skipped. -/
theorem skipSpace_close {x : Text} (h : fl.skipSpace (x ++ [']']) ≠ []) :
    ∃ c, ∀ v, ∃ w, fl.skipSpace (x ++ ']' :: v) = c :: w := by
  obtain ⟨c, w, hc⟩ := List.exists_cons_of_ne_nil h
  obtain ⟨used, hx, hv⟩ := skipSpace_takes hc
  refine ⟨c, fun v => ⟨w ++ v, ?_⟩⟩
  have happend : x ++ ']' :: v = used ++ c :: (w ++ v) := by
    rw [← List.singleton_append, ← List.append_assoc, hx, List.append_assoc, List.cons_append]
  rw [happend, hv]

theorem readRest_takes {e : Element} {s : CharSet} {x : Text} (h : readRest? fl e t = some (s, x ++ ']' :: u))
    (hdash : ∀ r, x = '-' :: r → fl.skipSpace (r ++ [']']) ≠ []) : (∃ s, e.alone? fl = some s) ∧
      ∃ used, t = used ++ (x ++ ']' :: u) ∧
        ∀ v, readRest? fl e (used ++ (x ++ ']' :: v)) = some (s, x ++ ']' :: v) := by
  rcases t with _ | ⟨c, r⟩
  · cases h
  · by_cases hc : c = '-'
    · subst hc
      rcases hskip : fl.skipSpace r with _ | ⟨d, r'⟩
      · simp [readRest?, hskip] at h
      · rw [readRest_dash hskip] at h
        split at h
        · -- the dash is left
          rename_i hd
          obtain ⟨a, ha, heq⟩ := Option.map_eq_some_iff.1 h
          obtain ⟨rfl, hx⟩ := Prod.mk.inj heq
          rcases x with _ | ⟨c', x⟩
          · exact absurd (List.cons.inj hx).1 (by decide)
          · obtain ⟨rfl, rfl⟩ := List.cons.inj hx
            obtain ⟨c, hc⟩ := skipSpace_close (hdash x rfl)
            refine ⟨⟨a, ha⟩, [], rfl, fun v => ?_⟩
            obtain ⟨w, hw⟩ := hc u
            obtain ⟨w', hw'⟩ := hc v
            obtain rfl : d = c := (List.cons.inj (hskip.symm.trans hw)).1
            rw [List.nil_append, List.cons_append, readRest_dash hw', if_pos hd, ha]
            rfl
        · -- a range
          rename_i hd
          obtain ⟨⟨e', w⟩, he', heq⟩ := Option.bind_eq_some_iff.1 h
          obtain ⟨a, ha, heq⟩ := Option.map_eq_some_iff.1 heq
          obtain ⟨rfl, rfl⟩ := Prod.mk.inj heq
          obtain ⟨halone, hne⟩ := exists_alone_of_between ha
          obtain ⟨used, hused, hne, hv⟩ := readItem_takes he' hne
          obtain ⟨d', used, rfl⟩ := List.exists_cons_of_ne_nil hne
          obtain rfl : d = d' := (List.cons.inj hused).1
          rw [hused, ← List.append_assoc] at hskip
          obtain ⟨skipped, rfl, hskipped⟩ := skipSpace_append hskip
          refine ⟨halone, '-' :: (skipped ++ (d :: used)), by simp, fun v => ?_⟩
          have hread : readItem? fl (d :: (used ++ x ++ ']' :: v)) = some (e', x ++ ']' :: v) := by
            rw [← hv, List.cons_append, List.append_assoc]
          have hskip' : fl.skipSpace (skipped ++ (d :: used) ++ (x ++ ']' :: v)) = d :: (used ++ x ++ ']' :: v) := by
            rw [List.append_assoc, ← List.append_assoc (d :: used), hskipped, List.cons_append, List.cons_append]
          rw [List.cons_append, readRest_dash hskip', if_neg hd, hread, Option.bind_some]
          dsimp only
          rw [ha]
          rfl
    · rw [readRest_alone hc] at h
      obtain ⟨a, ha, heq⟩ := Option.map_eq_some_iff.1 h
      obtain ⟨rfl, hx⟩ := Prod.mk.inj heq
      refine ⟨⟨a, ha⟩, [], hx, fun v => ?_⟩
      obtain ⟨w, hw⟩ := exists_cons_of_append hx v
      rw [List.nil_append, hw, readRest_alone hc, ha]
      rfl

/-- **What an element or a range takes off**, where a closing bracket follows somewhere. -/
theorem readRange_takes {s : CharSet} {x : Text} (h : readRange? fl t = some (s, x ++ ']' :: u))
    (hdash : ∀ r, x = '-' :: r → fl.skipSpace (r ++ [']']) ≠ []) : ∃ used, t = used ++ (x ++ ']' :: u) ∧ used ≠ [] ∧
      ∀ v, readRange? fl (used ++ (x ++ ']' :: v)) = some (s, x ++ ']' :: v) := by
  rw [readRange_eq] at h
  obtain ⟨⟨e, t'⟩, he, h⟩ := Option.bind_eq_some_iff.1 h
  obtain ⟨⟨a, ha⟩, rest, hrest, hv⟩ := readRest_takes h hdash
  obtain ⟨used, rfl, hused, hitem⟩ := readItem_takes he (by rintro rfl; cases ha)
  rw [← List.append_assoc] at hrest
  obtain ⟨skipped, rfl, hskipped⟩ := skipSpace_append hrest
  refine ⟨used ++ (skipped ++ rest), by simp, by simp [hused], fun v => ?_⟩
  have happend : used ++ (skipped ++ rest) ++ (x ++ ']' :: v) = used ++ (skipped ++ (rest ++ x ++ ']' :: v)) := by simp
  rw [happend, readRange_eq, hitem, Option.bind_some]
  dsimp only
  rw [hskipped, List.append_assoc, hv]

/-- The characters that are an operator when they are doubled. -/
def doubled : List Char := ['&', '-', '~']

theorem readNext_range (hopen : c ≠ '[') (hclose : c ≠ ']') (hop : c ∈ doubled → t.head? ≠ some c) :
    readNext? fl (c :: t) = (readRange? fl (c :: t)).map fun (s, t) => (.add s false, t) := by
  have hne (d : Char) (hd : d ∈ doubled) (w : Text) : c :: t ≠ d :: d :: w := by
    rintro heq
    obtain ⟨rfl, rfl⟩ := List.cons.inj heq
    exact hop hd rfl
  have hand := hne '&' (by decide)
  have hminus := hne '-' (by decide)
  have htilde := hne '~' (by decide)
  rw [readNext?]
  · exact List.cons_ne_nil c t
  · intro w hw
    exact hopen (List.cons.inj hw).1
  · intro w hw
    exact hclose (List.cons.inj hw).1
  · exact hand
  · exact hminus
  · exact htilde

theorem exists_op (fl : Flags) (hc : c ∈ doubled) : ∃ o, ∀ t, readNext? fl (c :: c :: t) = some (.op o, t) := by
  simp only [doubled, List.mem_cons, List.not_mem_nil, or_false] at hc
  rcases hc with rfl | rfl | rfl
  · exact ⟨.inter, fun _ => rfl⟩
  · exact ⟨.diff, fun _ => rfl⟩
  · exact ⟨.either, fun _ => rfl⟩

/-- **What an item takes off**, where a closing bracket follows somewhere. -/
theorem readNext_takes {item : Item} {x : Text} (h : readNext? fl t = some (item, x ++ ']' :: u))
    (hdash : ∀ r, x = '-' :: r → fl.skipSpace (r ++ [']']) ≠ []) : ∃ used, t = used ++ (x ++ ']' :: u) ∧ used ≠ [] ∧
      ∀ v, readNext? fl (used ++ (x ++ ']' :: v)) = some (item, x ++ ']' :: v) := by
  rcases t with _ | ⟨c, t⟩
  · cases h
  by_cases hopen : c = '['
  · subst hopen
    rw [readNext?] at h
    rcases hnamed : named? t with _ | ⟨s, negated, w⟩
    · rw [hnamed] at h
      obtain ⟨hitem, hrest⟩ := Prod.mk.inj (Option.some.inj h)
      subst hitem
      have hread : readOpen fl t = ((readOpen fl t).1, (readOpen fl t).2.1, x ++ ']' :: u) := by rw [← hrest]
      obtain ⟨used, ht, hv⟩ := readOpen_append hread
      refine ⟨'[' :: used, by rw [ht]; rfl, List.cons_ne_nil _ _, fun v => ?_⟩
      rw [ht, ← List.append_assoc] at hnamed
      have hnone := named_eq_none hnamed v
      rw [List.append_assoc] at hnone
      rw [List.cons_append, readNext?, hnone, readNested, hv]
      rfl
    · rw [hnamed] at h
      cases h
      obtain ⟨name, rfl, -, hv⟩ := named_takes hnamed
      refine ⟨'[' :: (name ++ [']']), by simp, by simp, fun v => ?_⟩
      have happend : '[' :: (name ++ [']']) ++ (x ++ ']' :: v) = '[' :: (name ++ ']' :: (x ++ ']' :: v)) := by simp
      rw [happend, readNext?, hv]
      rfl
  by_cases hclose : c = ']'
  · subst hclose
    cases h
    exact ⟨[']'], rfl, List.cons_ne_nil _ _, fun _ => rfl⟩
  by_cases hop : c ∈ doubled ∧ t.head? = some c
  · obtain ⟨hc, hhead⟩ := hop
    obtain ⟨t, rfl⟩ := List.head?_eq_some_iff.1 hhead
    obtain ⟨o, ho⟩ := exists_op fl hc
    rw [ho] at h
    cases h
    exact ⟨[c, c], rfl, List.cons_ne_nil _ _, fun v => ho _⟩
  · have hop' : c ∈ doubled → t.head? ≠ some c := fun hc hhead => hop ⟨hc, hhead⟩
    rw [readNext_range hopen hclose hop'] at h
    obtain ⟨⟨s, w⟩, hs, heq⟩ := Option.map_eq_some_iff.1 h
    cases heq
    obtain ⟨used, hused, hne, hv⟩ := readRange_takes hs hdash
    obtain ⟨d, used, rfl⟩ := List.exists_cons_of_ne_nil hne
    obtain ⟨rfl, rfl⟩ := List.cons.inj hused
    refine ⟨c :: used, rfl, hne, fun v => ?_⟩
    have hhead : (used ++ (x ++ ']' :: v)).head? = (used ++ (x ++ ']' :: u)).head? := by
      cases used <;> cases x <;> rfl
    rw [List.cons_append, readNext_range hopen hclose (by rwa [hhead]), ← List.cons_append, hv]
    rfl

/-- A dash that is read is not the last character, but for what is skipped. -/
theorem skipSpace_of_readFrom {fuel : Nat} {ls : List Level} {a : Items} {s : Class}
    (h : readFrom? fl fuel ls a ('-' :: t) = some (s, u)) : fl.skipSpace t ≠ [] := by
  intro hskip
  cases fuel with
  | zero => cases h
  | succ fuel =>
    have hdash (t : Text) : fl.skipSpace ('-' :: t) = '-' :: t := skipSpace_cons (by decide) rfl t
    have hhead : t.head? ≠ some '-' := by
      rintro hhead
      obtain ⟨t, rfl⟩ := List.head?_eq_some_iff.1 hhead
      rw [hdash] at hskip
      cases hskip
    have hread : readRange? fl ('-' :: t) = none := by
      rw [readRange_eq]
      change readRest? fl (.char '-') (fl.skipSpace t) = none
      rw [hskip]
      rfl
    rw [readFrom?_succ, hdash, readNext_range (by decide) (by decide) fun _ => hhead, hread] at h
    cases h

theorem eq_close_of_follow {ls : List Level} {a : Items} {item : Item} {c : Class}
    (h : follow fl ls a item = some (.inl c)) : item = .close := by
  cases item with
  | close => rfl
  | add =>
    obtain ⟨s, -, hs⟩ := Option.map_eq_some_iff.1 h
    cases hs
  | open_ | op => cases h

theorem eq_of_readNext_close (h : readNext? fl t = some (.close, u)) : t = ']' :: u := by
  unfold readNext? at h
  split at h
  · cases h
  · rename_i t
    cases hnamed : named? t <;> rw [hnamed] at h <;> cases h
  · cases h
    rfl
  · cases h
  · cases h
  · cases h
  · obtain ⟨x, -, hx⟩ := Option.map_eq_some_iff.1 h
    cases hx

/-- **A bracket expression goes up to a bracket that closes it**, whatever stands behind. -/
theorem readFrom_takes : ∀ {fuel : Nat} {ls : List Level} {a : Items} {t : Text} {s : Class},
    readFrom? fl fuel ls a t = some (s, u) → ∃ x, t = x ++ ']' :: u ∧
      ∀ v m, x.length < m → readFrom? fl m ls a (x ++ ']' :: v) = some (s, v) := by
  intro fuel
  induction fuel with
  | zero => exact nofun
  | succ fuel ih =>
    intro ls a t s h
    rw [readFrom?_succ] at h
    obtain ⟨⟨item, w⟩, hitem, h⟩ := Option.bind_eq_some_iff.1 h
    obtain ⟨course, hcourse, h⟩ := Option.bind_eq_some_iff.1 h
    rcases course with s' | ⟨ls', a'⟩
    · -- the last bracket
      cases h
      obtain rfl := eq_close_of_follow hcourse
      obtain ⟨skipped, rfl, hskipped⟩ := skipSpace_takes (eq_of_readNext_close hitem)
      refine ⟨skipped, rfl, fun v m hm => ?_⟩
      obtain ⟨m, rfl⟩ := Nat.exists_eq_succ_of_ne_zero (Nat.ne_of_gt (Nat.zero_lt_of_lt hm))
      rw [readFrom?_succ, hskipped]
      change (follow fl ls a .close).bind _ = _
      rw [hcourse]
      rfl
    · obtain ⟨x, rfl, hx⟩ := ih h
      have hdash (r : Text) (hr : x = '-' :: r) : fl.skipSpace (r ++ [']']) ≠ [] := by
        subst hr
        exact skipSpace_of_readFrom (hx [] _ (Nat.lt_succ_self _))
      obtain ⟨used, hused, hne, hv⟩ := readNext_takes hitem hdash
      rw [← List.append_assoc] at hused
      obtain ⟨skipped, rfl, hskipped⟩ := skipSpace_append hused
      refine ⟨skipped ++ (used ++ x), by simp, fun v m hm => ?_⟩
      obtain ⟨m, rfl⟩ := Nat.exists_eq_succ_of_ne_zero (Nat.ne_of_gt (Nat.zero_lt_of_lt hm))
      have hpos : 0 < used.length := List.length_pos_iff.2 hne
      simp only [List.length_append] at hm
      rw [List.append_assoc, readFrom?_succ, hskipped, List.append_assoc, hv, Option.bind_some]
      dsimp only
      rw [hcourse, Option.bind_some]
      exact hx v m (by omega)

/-- **What a bracket expression takes off.** -/
theorem readBracket_takes {s : Class} (h : read? fl t = some (s, u)) :
    ∃ used, t = used ++ u ∧ used ≠ [] ∧ Takes (read? fl) used s := by
  rcases hopen : readOpen fl t with ⟨negated, first, w⟩
  rw [read?, hopen] at h
  obtain ⟨x, rfl, hread⟩ := readFrom_takes h
  obtain ⟨used, ht, hv⟩ := readOpen_append hopen
  refine ⟨used ++ x ++ [']'], by rw [ht]; simp, by simp, fun v => ?_⟩
  have happend : used ++ x ++ [']'] ++ v = used ++ (x ++ ']' :: v) := by simp
  rw [read?, happend, hv]
  exact hread v _ (by rw [List.length_append, List.length_cons]; omega)

end

end Bracket

end Readout.Regex
