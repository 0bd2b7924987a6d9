/-
  How far the reader of patterns over commands looks: a step.

  * `readCounts_takes`, `readFlags_takes`, `readName_takes`, …: what the readers of the parts of an act take off;
  * `Front`: may one text stand in place of another behind a step?
  * `readAct_takes`, `readNext_takes`: a step reads the same act in front of each text that may stand there, unless it
    ends in a comment.
-/
import Readout.Proofs.Regex.Lookahead.Brackets

namespace Readout.Regex.CommandPattern

section
variable {fl : Flags} {t u : Text} {c : Char}

/-! ## Counted repetitions -/

theorem dropWhile_takes {p : Char → Bool} {x : Text} (h : t.dropWhile p = x ++ c :: u) :
    ∃ gap, t = gap ++ (x ++ c :: u) ∧ ∀ v, (gap ++ (x ++ c :: v)).dropWhile p = x ++ c :: v := by
  have hhead {d : Char} {w : Text} (h : t.dropWhile p = d :: w) :
      ∃ gap, t = gap ++ d :: w ∧ ∀ v, (gap ++ d :: v).dropWhile p = d :: v := by
    have hspan : t.span p = (t.takeWhile p, d :: w) := by rw [List.span_eq_takeWhile_dropWhile, h]
    obtain ⟨ht, -, hv⟩ := eq_of_span hspan
    refine ⟨_, ht, fun v => ?_⟩
    have hsnd := congrArg Prod.snd (hv v)
    rwa [List.span_eq_takeWhile_dropWhile] at hsnd
  cases x with
  | nil => exact hhead h
  | cons d x =>
    obtain ⟨gap, ht, hv⟩ := hhead h
    exact ⟨gap, ht, fun v => hv (x ++ c :: v)⟩

theorem readDecimal_takes {n : Nat} {x : Text} (h : Text.readDecimal? t = some (n, x ++ c :: u)) :
    ∃ ds, t = ds ++ (x ++ c :: u) ∧ ∀ v, Text.readDecimal? (ds ++ (x ++ c :: v)) = some (n, x ++ c :: v) := by
  have hhead {d : Char} {w : Text} (h : Text.readDecimal? t = some (n, d :: w)) :
      ∃ ds, t = ds ++ d :: w ∧ ∀ v, Text.readDecimal? (ds ++ d :: v) = some (n, d :: v) := by
    unfold Text.readDecimal? at h
    split at h
    · cases h
    · rename_i ds rest hne hspan
      cases h
      obtain ⟨ht, -, hv⟩ := eq_of_span hspan
      refine ⟨ds, ht, fun v => ?_⟩
      rw [Text.readDecimal?, hv]
      split
      · rename_i heq
        exact absurd (congrArg Prod.fst heq) (fun hds => hne hds)
      · rename_i heq
        cases heq
        rfl
  cases x with
  | nil => exact hhead h
  | cons d x =>
    obtain ⟨ds, ht, hv⟩ := hhead h
    exact ⟨ds, ht, fun v => hv (x ++ c :: v)⟩

theorem readDecimal_eq_none (h : Text.readDecimal? (c :: u) = none) (v : Text) :
    Text.readDecimal? (c :: v) = none := by
  by_cases hc : c.isDigit
  · simp [Text.readDecimal?, List.span_eq_takeWhile_dropWhile, hc] at h
  · simp [Text.readDecimal?, List.span_eq_takeWhile_dropWhile, hc]

theorem readCount_takes {n : Option Nat} (h : readCount? t = some (n, c :: u)) :
    ∃ used, t = used ++ c :: u ∧ ∀ v, readCount? (used ++ c :: v) = some (n, c :: v) := by
  unfold readCount? at h
  dsimp only at h
  split at h
  · rename_i k w hdecimal
    split at h
    · rename_i hk
      obtain ⟨rfl, hw⟩ := Prod.mk.inj (Option.some.inj h)
      obtain ⟨gap, rfl, hgap⟩ := dropWhile_takes (x := []) hw
      obtain ⟨ds, hds, hread⟩ := readDecimal_takes hdecimal
      rw [← List.append_assoc] at hds
      obtain ⟨gap', rfl, hgap'⟩ := dropWhile_takes hds
      refine ⟨gap' ++ (ds ++ gap), by simp, fun v => ?_⟩
      have happend : gap' ++ (ds ++ gap) ++ c :: v = gap' ++ (ds ++ gap ++ c :: v) := by simp
      have hread' := hread v
      have hgap'' := hgap v
      rw [List.nil_append] at hgap''
      rw [happend, readCount?, hgap', List.append_assoc, hread']
      dsimp only
      rw [if_pos hk, hgap'']
    · cases h
  · rename_i hdecimal
    obtain ⟨rfl, hw⟩ := Prod.mk.inj (Option.some.inj h)
    obtain ⟨gap, rfl, hgap⟩ := dropWhile_takes (x := []) hw
    rw [hw] at hdecimal
    refine ⟨gap, rfl, fun v => ?_⟩
    have hgap' := hgap v
    rw [List.nil_append] at hgap'
    rw [readCount?, hgap', readDecimal_eq_none hdecimal]

theorem readCounts_takes {min : Nat} {max : Option Nat} (h : readCounts? fl t = some (min, max, u)) :
    ∃ used, t = used ++ u ∧ ∀ v, readCounts? fl (used ++ v) = some (min, max, v) := by
  unfold readCounts? at h
  split at h
  · -- `{n}`
    rename_i n w hcount
    cases h
    obtain ⟨digits, hdigits, hread⟩ := readCount_takes hcount
    obtain ⟨skipped, rfl, hskipped⟩ := Bracket.skipSpace_append hdigits
    refine ⟨skipped ++ (digits ++ ['\x7d']), by simp, fun v => ?_⟩
    have happend : skipped ++ (digits ++ ['\x7d']) ++ v = skipped ++ (digits ++ '\x7d' :: v) := by simp
    rw [happend, readCounts?, hskipped, hread]
    rfl
  · rename_i n w hcount
    obtain ⟨digits, hdigits, hread⟩ := readCount_takes hcount
    obtain ⟨skipped, rfl, hskipped⟩ := Bracket.skipSpace_append hdigits
    split at h
    · -- `{n,}`
      rename_i w' hw'
      cases h
      obtain ⟨skipped', rfl, hskipped'⟩ := skipSpace_takes hw'
      refine ⟨skipped ++ (digits ++ ',' :: (skipped' ++ ['\x7d'])), by simp, fun v => ?_⟩
      have happend : skipped ++ (digits ++ ',' :: (skipped' ++ ['\x7d'])) ++ v =
          skipped ++ (digits ++ ',' :: (skipped' ++ '\x7d' :: v)) := by simp
      rw [happend, readCounts?, hskipped, hread]
      simp only [hskipped']
    · -- `{n,m}`
      rename_i hbrace
      split at h
      · rename_i m w' hcount'
        split at h
        · rename_i hle
          cases h
          obtain ⟨digits', hdigits', hread'⟩ := readCount_takes hcount'
          obtain ⟨skipped', rfl, hskipped'⟩ := Bracket.skipSpace_append hdigits'
          refine ⟨skipped ++ (digits ++ ',' :: (skipped' ++ (digits' ++ ['\x7d']))), by simp, fun v => ?_⟩
          have happend : skipped ++ (digits ++ ',' :: (skipped' ++ (digits' ++ ['\x7d']))) ++ v =
              skipped ++ (digits ++ ',' :: (skipped' ++ (digits' ++ '\x7d' :: v))) := by simp
          rw [happend, readCounts?, hskipped, hread]
          simp only [hskipped']
          split
          · -- the second number does not start with the brace
            rename_i w'' hw''
            obtain ⟨w, hw⟩ := Bracket.exists_cons_of_append hw''.symm u
            exact absurd (hdigits'.trans hw) fun heq => hbrace _ heq
          · simp only [hread', if_pos hle]
        · cases h
      · cases h
  · cases h

/-! ## The start of a group -/

theorem readFlags_takes : ∀ {fl fl' : Flags} {on : Bool} {seen : List Char} {t : Text},
    readFlags? fl on seen t = some (fl', c, u) →
      ∃ used, t = used ++ u ∧ used ≠ [] ∧ ∀ v, readFlags? fl on seen (used ++ v) = some (fl', c, v) := by
  intro fl fl' on seen t
  induction t generalizing fl on seen with
  | nil => exact nofun
  | cons d t ih =>
    intro h
    rw [readFlags?] at h
    split at h
    · rename_i hd
      split at h
      · cases h
      · rename_i hempty
        cases h
        exact ⟨[c], rfl, List.cons_ne_nil _ _, fun v => by
          rw [List.cons_append, readFlags?, if_pos hd, if_neg hempty, List.nil_append]⟩
    · rename_i hd
      split at h
      · cases h
      · rename_i hseen
        split at h
        · rename_i hdash
          obtain ⟨used, rfl, -, hv⟩ := ih h
          exact ⟨d :: used, rfl, List.cons_ne_nil _ _, fun v => by
            rw [List.cons_append, readFlags?, if_neg hd, if_neg hseen, if_pos hdash, hv]⟩
        · rename_i hdash
          obtain ⟨fl₁, hturn, h⟩ := Option.bind_eq_some_iff.1 h
          obtain ⟨used, rfl, -, hv⟩ := ih h
          exact ⟨d :: used, rfl, List.cons_ne_nil _ _, fun v => by
            rw [List.cons_append, readFlags?, if_neg hd, if_neg hseen, if_neg hdash, hturn, Option.bind_some, hv]⟩

theorem readName_takes {a : Act} (h : readName? t = some (a, u)) :
    ∃ name, t = name ++ '>' :: u ∧ isName name ∧ ∀ v, readName? (name ++ '>' :: v) = some (a, v) := by
  unfold readName? at h
  split at h
  · rename_i name d rest hspan
    obtain ⟨rfl, hd, hv⟩ := eq_of_span hspan
    obtain rfl : d = '>' := by simpa using hd
    split at h
    · rename_i hname
      cases h
      exact ⟨name, rfl, hname, fun v => by rw [readName?, hv]; simp only [hname, if_true]⟩
    · cases h
  · cases h

/-- The flags of a group start neither with an angle nor with what opens a look-around. -/
theorem readMarked_eq (hc : c ∉ ['=', '!', '<', 'P']) : readMarked? fl (c :: t) =
    (readFlags? fl true [] (c :: t)).map fun (fl, c, t) => (if c = ')' then .switch fl else .group fl, t) := by
  simp only [List.mem_cons, List.not_mem_nil, or_false, not_or] at hc
  obtain ⟨hequal, hmark, hangle, hP⟩ := hc
  simp only [readMarked?, List.cons.injEq, hequal, hmark, hangle, hP, false_and, false_implies, implies_true]

theorem readFlags_P : readFlags? fl true [] ('P' :: t) = none := rfl

theorem readMarked_named (h : isName t) (u : Text) : readMarked? fl ('<' :: (t ++ u)) = readName? (t ++ u) := by
  rcases t with _ | ⟨c, t⟩
  · cases h
  · have hne (d : Char) (hd : isName [d] = false) : c ≠ d := by
      rintro rfl
      simp_all [isName]
    have hequal := hne '=' (by decide +kernel)
    have hmark := hne '!' (by decide +kernel)
    simp only [List.cons_append, readMarked?, List.cons.injEq, hequal, hmark, false_and, false_implies,
      implies_true]

theorem readMarked_takes {a : Act} (h : readMarked? fl t = some (a, u)) :
    ∃ used, t = used ++ u ∧ ∀ v, readMarked? fl (used ++ v) = some (a, v) := by
  rcases t with _ | ⟨c, t⟩
  · cases h
  by_cases hc : c ∈ ['=', '!', '<', 'P']
  · have hangle {t : Text} (h : readName? t = some (a, u)) : ∃ name, '<' :: t = '<' :: name ++ u ∧
        ∀ v, readMarked? fl ('<' :: name ++ v) = some (a, v) ∧
          readMarked? fl ('P' :: '<' :: name ++ v) = some (a, v) := by
      obtain ⟨name, rfl, hname, hv⟩ := readName_takes h
      refine ⟨name ++ ['>'], by simp, fun v => ?_⟩
      have happend : '<' :: (name ++ ['>']) ++ v = '<' :: (name ++ '>' :: v) := by simp
      have happend' : 'P' :: '<' :: (name ++ ['>']) ++ v = 'P' :: '<' :: (name ++ '>' :: v) := by simp
      rw [happend, happend', readMarked_named hname]
      exact ⟨hv v, hv v⟩
    simp only [List.mem_cons, List.not_mem_nil, or_false] at hc
    rcases hc with rfl | rfl | rfl | rfl
    · cases h
    · cases h
    · have hname : readName? t = some (a, u) := by
        unfold readMarked? at h
        split at h <;> simp_all
      obtain ⟨name, ht, hv⟩ := hangle hname
      exact ⟨'<' :: name, ht, fun v => (hv v).1⟩
    · by_cases hmark : ∃ t', t = '<' :: t'
      · obtain ⟨t, rfl⟩ := hmark
        obtain ⟨name, ht, hv⟩ := hangle h
        exact ⟨'P' :: '<' :: name, congrArg ('P' :: ·) ht, fun v => (hv v).2⟩
      · have hflags : readMarked? fl ('P' :: t) = none := by
          unfold readMarked?
          split <;> simp_all [readFlags_P]
        rw [hflags] at h
        cases h
  · rw [readMarked_eq hc] at h
    obtain ⟨⟨fl', d, w⟩, hflags, heq⟩ := Option.map_eq_some_iff.1 h
    cases heq
    obtain ⟨used, hused, hne, hv⟩ := readFlags_takes hflags
    obtain ⟨c', used, rfl⟩ := List.exists_cons_of_ne_nil hne
    obtain ⟨rfl, rfl⟩ := List.cons.inj hused
    refine ⟨c :: used, rfl, fun v => ?_⟩
    rw [List.cons_append, readMarked_eq hc, ← List.cons_append, hv]
    rfl

/-! ## Acts -/

/-- May `v` stand in place of `u` behind an act? -/
structure Front (fl : Flags) (u v : Text) : Prop where
  lazy : u.head? ≠ some '?' → v.head? ≠ some '?'
  name : opensName u = false → opensName v = false
  skip : fl.skipSpace u = u → fl.skipSpace v = v

/-- Does a reader read `a` off `used`, in front of each text that may stand in place of `u`?  At the end of a text, it
    may have read a comment that goes on. -/
def TakesBefore (fl : Flags) (u : Text) (read : Text → Option (Act × Text)) (used : Text) (a : Act) : Prop :=
  (∀ v, Front fl u v → read (used ++ v) = some (a, v)) ∨ u = [] ∧ ∀ v, '\n' ∉ v → read (used ++ v) = some (a, [])

theorem readAgain_takes {min : Nat} {max : Option Nat} {a : Act} (h : readAgain min max t = (a, u)) :
    ∃ used, t = used ++ u ∧
      ∀ v, (u.head? ≠ some '?' → v.head? ≠ some '?') → readAgain min max (used ++ v) = (a, v) := by
  by_cases ht : t.head? = some '?'
  · obtain ⟨t, rfl⟩ := List.head?_eq_some_iff.1 ht
    cases h
    exact ⟨['?'], rfl, fun _ _ => rfl⟩
  · rw [readAgain, readGreedy_eq ht] at h
    cases h
    exact ⟨[], rfl, fun v hv => by rw [List.nil_append, readAgain, readGreedy_eq (hv ht)]⟩

/-- What is read behind white space and comments. -/
theorem takesBefore_skip {f : Text → Option (Act × Text)} {a : Act} (h : f (fl.skipSpace t) = some (a, u))
    (htakes : ∃ used, fl.skipSpace t = used ++ u ∧ ∀ v, (u.head? ≠ some '?' → v.head? ≠ some '?') →
      f (used ++ v) = some (a, v)) :
    ∃ used, t = used ++ u ∧ TakesBefore fl u (fun t => f (fl.skipSpace t)) used a := by
  obtain ⟨used, hused, hv⟩ := htakes
  rcases hskip : fl.skipSpace t with _ | ⟨c, w⟩
  · obtain ⟨rfl, rfl⟩ := List.append_eq_nil_iff.1 (hused.symm.trans hskip)
    refine ⟨t, (List.append_nil t).symm, ?_⟩
    rcases skipSpace_nil hskip with hgo | hcomment
    · refine .inl fun v hfront => ?_
      have hself : fl.skipSpace v = v := hfront.skip (skipSpace_empty fl)
      dsimp only
      rw [hgo, hself]
      exact hv v hfront.lazy
    · refine .inr ⟨rfl, fun v hnl => ?_⟩
      dsimp only
      rw [hcomment v hnl]
      exact hv [] id
  · obtain ⟨skipped, ht, hthrough, hstop⟩ := skipSpace_through hskip
    refine ⟨skipped ++ used, by rw [ht, ← hskip, hused, List.append_assoc], .inl fun v hfront => ?_⟩
    dsimp only
    rw [List.append_assoc, hthrough]
    rw [hused] at hskip
    rcases used with _ | ⟨d, used⟩
    · rw [List.nil_append] at hskip ⊢
      have hself : fl.skipSpace u = u := by rw [hskip, hstop]
      rw [hfront.skip hself]
      exact hv v hfront.lazy
    · obtain ⟨rfl, -⟩ := List.cons.inj hskip
      rw [List.cons_append, hstop, ← List.cons_append]
      exact hv v hfront.lazy

/-- Reads the start of a group behind its parenthesis and white space. -/
def readHead? (fl : Flags) : Text → Option (Act × Text)
  | '?' :: t => readMarked? fl t
  | t => some (.capture none, t)

theorem readHead_of_ne (ht : t.head? ≠ some '?') : readHead? fl t = some (.capture none, t) := by
  unfold readHead?
  split
  · exact absurd rfl ht
  · rfl

theorem readOpening_takes {a : Act} (h : readOpening? fl t = some (a, u)) :
    ∃ used, t = used ++ u ∧ TakesBefore fl u (readOpening? fl) used a := by
  refine takesBefore_skip (f := readHead? fl) h ?_
  have hhead : readHead? fl (fl.skipSpace t) = some (a, u) := h
  by_cases hmark : (fl.skipSpace t).head? = some '?'
  · obtain ⟨w, hw⟩ := List.head?_eq_some_iff.1 hmark
    rw [hw] at hhead ⊢
    obtain ⟨used, rfl, hv⟩ := readMarked_takes hhead
    exact ⟨'?' :: used, rfl, fun v _ => hv v⟩
  · rw [readHead_of_ne hmark] at hhead
    obtain ⟨rfl, hw⟩ := Prod.mk.inj (Option.some.inj hhead)
    rw [hw] at hmark ⊢
    exact ⟨[], rfl, fun v hv => readHead_of_ne (hv hmark)⟩

theorem readCounted_takes {a : Act}
    (h : (readCounts? fl t).map (fun (min, max, t) => readAgain min max (fl.skipSpace t)) = some (a, u)) :
    ∃ used, t = used ++ u ∧ TakesBefore fl u
      (fun t => (readCounts? fl t).map fun (min, max, t) => readAgain min max (fl.skipSpace t)) used a := by
  obtain ⟨⟨min, max, w⟩, hread, hagain⟩ := Option.map_eq_some_iff.1 h
  obtain ⟨counts, rfl, hcounts⟩ := readCounts_takes hread
  obtain ⟨again, hused, hv⟩ := readAgain_takes hagain
  obtain ⟨used, rfl, htakes⟩ := takesBefore_skip (f := fun t => some (readAgain min max t))
    (congrArg some hagain) ⟨again, hused, fun v hlazy => congrArg some (hv v hlazy)⟩
  refine ⟨counts ++ used, by rw [List.append_assoc],
    htakes.imp (fun h v hfront => ?_) fun ⟨hu, h⟩ => ⟨hu, fun v hnl => ?_⟩⟩
  · dsimp only
    rw [List.append_assoc, hcounts]
    exact h v hfront
  · dsimp only
    rw [List.append_assoc, hcounts]
    exact h v hnl

/-- **A step reads the same act in front of each text that may stand there**, or it ends in a comment. -/
theorem readAct_takes {a : Act} (h : readAct? fl t = some (a, u)) :
    ∃ used, t = used ++ u ∧ used ≠ [] ∧ TakesBefore fl u (readAct? fl) used a := by
  rcases t with _ | ⟨c, t⟩
  · cases h
  have hbehind {read : Text → Option (Act × Text)} (hread : ∀ w, readAct? fl (c :: w) = read w)
      (htakes : ∃ used, t = used ++ u ∧ TakesBefore fl u read used a) :
      ∃ used, c :: t = used ++ u ∧ used ≠ [] ∧ TakesBefore fl u (readAct? fl) used a := by
    obtain ⟨used, ht, htakes⟩ := htakes
    refine ⟨c :: used, by rw [ht, List.cons_append], List.cons_ne_nil _ _,
      htakes.imp (fun h v hfront => ?_) fun h => ?_⟩
    · rw [List.cons_append, hread]
      exact h v hfront
    · refine ⟨h.1, fun v hnl => ?_⟩
      rw [List.cons_append, hread]
      exact h.2 v hnl
  -- a single character
  have hone {b : Act} (hread : ∀ w, readAct? fl (c :: w) = some (b, w)) :
      ∃ used, c :: t = used ++ u ∧ used ≠ [] ∧ TakesBefore fl u (readAct? fl) used a := by
    rw [hread] at h
    cases h
    exact hbehind hread ⟨[], rfl, .inl fun _ _ => rfl⟩
  have hagain {min : Nat} {max : Option Nat} (hread : ∀ w, readAct? fl (c :: w) = some (readAgain min max w)) :
      ∃ used, c :: t = used ++ u ∧ used ≠ [] ∧ TakesBefore fl u (readAct? fl) used a := by
    rw [hread] at h
    obtain ⟨used, ht, hv⟩ := readAgain_takes (Option.some.inj h)
    exact hbehind hread ⟨used, ht, .inl fun v hfront => congrArg some (hv v hfront.lazy)⟩
  by_cases hc : c ∈ operators
  · simp only [operators, List.mem_cons, List.not_mem_nil, or_false] at hc
    rcases hc with rfl | rfl | rfl | rfl | rfl | rfl | rfl | rfl | rfl | rfl | rfl | rfl
    · exact hbehind (fun _ => rfl) (readOpening_takes h)
    · exact hone fun _ => rfl
    · exact hone fun _ => rfl
    · obtain ⟨⟨s, w⟩, hs, heq⟩ := Option.map_eq_some_iff.1 h
      cases heq
      obtain ⟨used, ht, -, hv⟩ := Bracket.readBracket_takes hs
      have hread (w : Text) : readAct? fl ('[' :: w) =
          (Bracket.read? fl w).map fun x => (.push ⟨.set x.1.set, x.1.depth, true⟩, x.2) := rfl
      exact hbehind hread ⟨used, ht, .inl fun v _ => by dsimp only; rw [hv v]; rfl⟩
    · exact hagain fun _ => rfl
    · exact hagain fun _ => rfl
    · exact hagain fun _ => rfl
    · exact hbehind (fun _ => rfl) (readCounted_takes h)
    · obtain ⟨⟨e, w⟩, he, heq⟩ := Option.map_eq_some_iff.1 h
      cases heq
      obtain ⟨used, ht, -, hname, hv⟩ := readElement_takes he
      have hread (w : Text) : readAct? fl ('\\' :: w) =
          (Element.read? fl w).map fun x => (.push (.leaf (x.1.node fl)), x.2) := rfl
      refine hbehind hread ⟨used, ht, .inl fun v hfront => ?_⟩
      dsimp only
      rw [hv v fun h => hfront.name (hname h)]
      rfl
    · cases hunicode : fl.unicode
      · simp [readAct?, hunicode] at h
      · exact hone (b := .push (.leaf (.set fl.dot))) fun _ => if_pos hunicode
    · exact hone fun _ => rfl
    · exact hone fun _ => rfl
  · exact hone (readAct_literal fl hc)

/-- **What a step takes off**, white space in front of it included. -/
theorem readNext_takes {a : Act} (h : readAct? fl (fl.skipSpace t) = some (a, u)) :
    ∃ used, t = used ++ u ∧ used ≠ [] ∧ TakesBefore fl u (fun t => readAct? fl (fl.skipSpace t)) used a := by
  obtain ⟨used, hused, hne, htakes⟩ := readAct_takes h
  obtain ⟨c, rest, rfl⟩ := List.exists_cons_of_ne_nil hne
  obtain ⟨skipped, ht, hskipped⟩ := skipSpace_takes hused
  have happend (v : Text) : skipped ++ c :: rest ++ v = skipped ++ c :: (rest ++ v) := by simp
  refine ⟨skipped ++ c :: rest, ht.trans (happend u).symm, by simp,
    htakes.imp (fun h v hfront => ?_) fun h => ⟨h.1, fun v hnl => ?_⟩⟩
  · dsimp only
    rw [happend, hskipped]
    exact h v hfront
  · dsimp only
    rw [happend, hskipped]
    exact h.2 v hnl

end

end Readout.Regex.CommandPattern
