/-
  The readers of line patterns that call each other: alternatives, sequences, parts and groups.

  * `Steady.closed`: what a parenthesis closes is read the same way whatever stands behind it;
  * `cut_of_trailing`: numbers and commas behind a literal brace lead to the end of the text;
  * `Going`: all these readers are steady with a given fuel; `going_succ` is one step, `going` the induction.
-/
import Readout.Proofs.Regex.Repetition

namespace Readout.Regex.LinePattern

section
variable {fuel depth : Nat} {r r' q q' : Reading} {t u v w y z : Text} {a : Node}

/-! ## Closed parts -/

theorem closed_eq_some {α : Type} {x : Result α} {a : α} :
    closed? x = some (a, r', u) ↔ ∃ v, x = some (a, r', v) ∧ r'.skip? v = some (')' :: u) := by
  unfold closed?
  constructor
  · intro h
    split at h
    · split at h
      · rename_i hskip
        cases h; exact ⟨_, rfl, hskip⟩
      · cases h
    · cases h
  · rintro ⟨v, rfl, hskip⟩
    simp only [hskip]

theorem not_cut_of_close (h : r.skip? v = some (')' :: u)) : ¬ Cut v :=
  not_cut_of_suffix (not_cut_of_mem List.mem_cons_self (by decide)) (Reading.suffix_of_skip h)

/-- **What a parenthesis closes is read the same way whatever stands behind it.** -/
theorem Steady.behind_closed {α : Type} {read : Reader α} {a x : α} (h : Steady read fuel depth r t a r' v)
    (hclose : r'.skip? v = some (')' :: u)) {fuel' depth' : Nat} (hq : r.Alike q)
    (h' : closed? (read fuel' depth' q (t ++ y)) = some (x, q', z)) : z = u ++ y ∧ r'.Alike q' := by
  obtain ⟨v', hread', hclose'⟩ := closed_eq_some.1 h'
  obtain ⟨rfl, hq'⟩ := h.behind fuel' depth' (not_cut_of_close hclose) hq hread'
  rw [skip_append hq' (not_cut_of_mem List.mem_cons_self (by decide)) hclose] at hclose'
  cases hclose'
  exact ⟨rfl, hq'⟩

theorem Steady.closed {α : Type} {read : Reader α} {a : α} (h : Steady read fuel depth r t a r' v)
    (hclose : r'.skip? v = some (')' :: u)) :
    Steady (fun fuel depth r t => closed? (read fuel depth r t)) fuel depth r t a r' u := by
  refine ⟨((List.suffix_cons _ _).trans (Reading.suffix_of_skip hclose)).trans h.rest, h.numbered, ?_, ?_⟩
  · intro _ hr fuel' hfuel e bound
    exact closed_eq_some.2 ⟨v, h.named (not_cut_of_close hclose) hr fuel' hfuel e bound, hclose⟩
  · intro fuel' depth' _ q y x q' z hq h'
    exact h.behind_closed hclose hq h'

/-- What is steady behind the text that is skipped is steady in front of it. -/
theorem Steady.of_skip {α : Type} {read read' : Reader α} {a : α} (hzero : ∀ depth q t, read' 0 depth q t = none)
    (hsucc : ∀ fuel depth q t, read' (fuel + 1) depth q t = (q.skip? t).bind (read fuel depth q))
    (hskip : r.skip? t = some w) (h : Steady read fuel depth r w a r' u) :
    Steady read' (fuel + 1) depth r t a r' u := by
  refine ⟨h.rest.trans (Reading.suffix_of_skip hskip), h.numbered, ?_, ?_⟩
  · intro hu hr fuel' hfuel e bound
    obtain ⟨fuel', rfl⟩ := Nat.exists_eq_add_of_le' (Nat.lt_of_lt_of_le (Nat.succ_pos fuel) hfuel)
    rw [hsucc, alias_skip, hskip]
    exact h.named hu hr fuel' (Nat.le_of_succ_le_succ hfuel) e bound
  · intro fuel' depth' hu q y x q' z hq h'
    cases fuel' with
    | zero => rw [hzero] at h'; cases h'
    | succ fuel' =>
      rw [hsucc, skip_append hq (h.not_cut hu) hskip] at h'
      exact h.behind fuel' depth' hu hq h'

/-! ## Parts behind a literal brace -/

/-- The part that a character stands for, if it is neither an operator nor the start of something longer. -/
def plainAtom (fl : Flags) : Char → Node
  | '.' => .set fl.dot
  | '^' => .anchor fl.caret
  | '$' => .anchor fl.dollar
  | c => .char fl.fold c

/-- The part that an escape stands for. -/
def escapedAtom (fl : Flags) : Escape → Node
  | .char c => .char fl.fold c
  | .set s _ => .set s
  | .node a => a

/-- Reads a part where nothing is to be skipped. -/
def atomAt? (fuel depth : Nat) (r : Reading) (t : Text) : Result Node :=
  match t with
  | [] => some (.empty, r, [])
  | c :: t =>
    if c = '(' then if depth + 1 < depthLimit then readGroup? fuel (depth + 1) r t else none
    else if c = '\\' then (readEscape? r false t).map fun x => (escapedAtom x.2.1.flags x.1, x.2.1, x.2.2)
    else if c = '[' then readBracket? r t
    else if c ∈ ['+', '*', '?', '|', ')'] then some (.empty, r, c :: t)
    else some (plainAtom r.flags c, r, t)

theorem readAtom_succ (fuel depth : Nat) (r : Reading) (t : Text) :
    readAtom? (fuel + 1) depth r t = (r.skip? t).bind (atomAt? fuel depth r) := by
  rw [readAtom?]
  rcases r.skip? t with _ | _ | ⟨c, w⟩
  · rfl
  · rfl
  by_cases hopen : c = '('
  · subst hopen; rfl
  by_cases hquote : c = '\\'
  · subst hquote
    simp only [bind, Option.bind_some, atomAt?]
    rcases readEscape? r false w with _ | ⟨_ | _ | _, q, v⟩
    all_goals rfl
  by_cases hbracket : c = '['
  · subst hbracket; rfl
  by_cases hoperator : c ∈ ['+', '*', '?', '|', ')']
  · simp only [List.mem_cons, List.not_mem_nil, or_false] at hoperator
    rcases hoperator with rfl | rfl | rfl | rfl | rfl
    all_goals rfl
  · simp only [bind, Option.bind_some, atomAt?, if_neg hopen, if_neg hquote, if_neg hbracket, if_neg hoperator]
    simp only [List.mem_cons, List.not_mem_nil, or_false, not_or] at hoperator
    by_cases hplain : c ∈ ['.', '^', '$']
    · simp only [List.mem_cons, List.not_mem_nil, or_false] at hplain
      rcases hplain with rfl | rfl | rfl
      all_goals rfl
    · simp only [List.mem_cons, List.not_mem_nil, or_false, not_or] at hplain
      simp [plainAtom, hplain, hoperator]

theorem atomAt_plain {c : Char} (hc : c ∉ ['(', '\\', '[', '+', '*', '?', '|', ')']) (fuel depth : Nat) (r : Reading)
    (t : Text) : atomAt? fuel depth r (c :: t) = some (plainAtom r.flags c, r, t) := by
  simp only [List.mem_cons, List.not_mem_nil, or_false, not_or] at hc
  simp [atomAt?, hc]

theorem atomAt_operator {c : Char} (hc : c ∈ ['+', '*', '?', '|', ')']) (fuel depth : Nat) (r : Reading) (t : Text) :
    atomAt? fuel depth r (c :: t) = some (.empty, r, c :: t) := by
  simp only [List.mem_cons, List.not_mem_nil, or_false] at hc
  rcases hc with rfl | rfl | rfl | rfl | rfl
  all_goals rfl

/-- The readers that call each other are steady. -/
structure Going (fuel : Nat) : Prop where
  choice : ∀ {depth r t a r' u}, readChoice? fuel depth r t = some (a, r', u) →
    Steady readChoice? fuel depth r t a r' u
  branches : ∀ {depth r t as r' u}, readBranches? fuel depth r t = some (as, r', u) →
    Steady readBranches? fuel depth r t as r' u
  parts : ∀ {depth r t as r' u}, readParts? fuel depth r t = some (as, r', u) →
    Steady readParts? fuel depth r t as r' u
  atom : ∀ {depth r t a r' u}, readAtom? fuel depth r t = some (a, r', u) → Steady readAtom? fuel depth r t a r' u
  group : ∀ {depth r t a r' u}, readGroup? fuel depth r t = some (a, r', u) → Steady readGroup? fuel depth r t a r' u
  branch : ∀ {depth r t a r' u}, readBranch? fuel depth r t = some (a, r', u) →
    Steady readBranch? fuel depth r t a r' u

/-! ## Sequences -/

theorem readParts_of_atom {r₁ : Reading} {t₁ t₂ : Text} {b : Node} (ht : t ≠ [])
    (hatom : readAtom? fuel depth r t = some (a, r₁, t₁)) (hsuffix : readSuffix? a r₁ t₁ = some (b, r₁, t₂)) :
    readParts? (fuel + 1) depth r t =
      if t₂.length = t.length then some ([], r₁, t)
      else (readParts? fuel depth r₁ t₂).map fun x => (if b = .empty then x.1 else b :: x.1, x.2) := by
  rw [readParts?, if_neg (by simpa using ht), hatom]
  simp only [bind, Option.bind_some, hsuffix]
  split
  · rfl
  · rcases readParts? fuel depth r₁ t₂ with _ | x
    · rfl
    · rfl

theorem readParts_eq_some {as : List Node} (h : readParts? (fuel + 1) depth r t = some (as, r', u)) :
    t = [] ∧ u = [] ∧ r' = r ∨ t ≠ [] ∧ ∃ a r₁ t₁ b t₂, readAtom? fuel depth r t = some (a, r₁, t₁) ∧
      readSuffix? a r₁ t₁ = some (b, r₁, t₂) ∧
      (t₂.length = t.length ∧ as = [] ∧ r' = r₁ ∧ u = t ∨ t₂.length ≠ t.length ∧ ∃ as',
        readParts? fuel depth r₁ t₂ = some (as', r', u) ∧ as = if b = .empty then as' else b :: as') := by
  by_cases ht : t = []
  · subst ht
    rw [readParts?] at h
    cases h; exact .inl ⟨rfl, rfl, rfl⟩
  · refine .inr ⟨ht, ?_⟩
    have h' := h
    rw [readParts?, if_neg (by simpa using ht)] at h'
    obtain ⟨⟨a, r₁, t₁⟩, hatom, h'⟩ := Option.bind_eq_some_iff.1 h'
    obtain ⟨⟨b, r₂, t₂⟩, hsuffix, -⟩ := Option.bind_eq_some_iff.1 h'
    obtain ⟨rfl, -⟩ := readSuffix_eq_some hsuffix
    refine ⟨a, _, t₁, b, t₂, hatom, hsuffix, ?_⟩
    rw [readParts_of_atom ht hatom hsuffix] at h
    split at h
    · rename_i hlength
      cases h; exact .inl ⟨hlength, rfl, rfl, rfl⟩
    · rename_i hlength
      obtain ⟨⟨as', q, v⟩, hparts, h⟩ := Option.map_eq_some_iff.1 h
      cases h; exact .inr ⟨hlength, as', hparts, rfl⟩

theorem readAtom_plain {c : Char} (hskip : r.skip? (c :: w) = some (c :: w))
    (hc : c ∉ ['(', '\\', '[', '+', '*', '?', '|', ')']) :
    readAtom? (fuel + 1) depth r (c :: w) = some (plainAtom r.flags c, r, w) := by
  rw [readAtom_succ, hskip]
  exact atomAt_plain hc fuel depth r w

/-- A character that stands for itself is followed by what is read behind it. -/
theorem exists_of_readParts_plain {c : Char} {as : List Node} (hskip : r.skip? (c :: w) = some (c :: w))
    (hc : c ∉ ['(', '\\', '[', '+', '*', '?', '|', ')'])
    (h : readParts? fuel depth r (c :: w) = some (as, r', u)) : ∃ f < fuel, ∃ a b t₂ as',
      readSuffix? a r w = some (b, r, t₂) ∧ readParts? f depth r t₂ = some (as', r', u) := by
  cases fuel with
  | zero => rw [readParts?] at h; cases h
  | succ fuel =>
    obtain ⟨ht, -⟩ | ⟨-, a, r₁, t₁, b, t₂, hatom, hsuffix, hrest⟩ := readParts_eq_some h
    · cases ht
    cases fuel with
    | zero => rw [readAtom?] at hatom; cases hatom
    | succ fuel =>
      rw [readAtom_plain hskip hc] at hatom
      cases hatom
      have hlength := (suffix_of_readSuffix hsuffix).length_le
      rcases hrest with ⟨hstop, -⟩ | ⟨-, as', hparts, -⟩
      · rw [List.length_cons] at hstop; omega
      · exact ⟨_, Nat.lt_succ_self _, _, b, t₂, as', hsuffix, hparts⟩

/-- Numbers and commas behind a part lead to the end of the text. -/
theorem cut_of_trailing (ht : Trailing r t) : ∀ {fuel : Nat}, (∀ f ≤ fuel, Going f) →
    ∀ {a b : Node} {as : List Node} {r₁ : Reading} {t₁ : Text}, readSuffix? a r t = some (b, r₁, t₁) →
      readParts? fuel depth r₁ t₁ = some (as, r', u) → Cut u := by
  induction ht with
  | refused hnone =>
    intro fuel _ a b as r₁ t₁ hsuffix _
    obtain ⟨-, w, hskip, -⟩ := readSuffix_eq_some hsuffix
    rw [hnone] at hskip; cases hskip
  | cut hskip hw =>
    intro fuel hgoing a b as r₁ t₁ hsuffix hparts
    obtain ⟨-, w', hskip', hend⟩ := readSuffix_eq_some hsuffix
    rw [hskip] at hskip'
    cases hskip'
    refine cut_of_suffix hw (((hgoing fuel le_rfl).parts hparts).rest.trans ?_)
    rcases hend with ⟨-, -, rfl⟩ | ⟨-, min, max, v, v', hbounds, hskip', rfl⟩
    · exact List.suffix_refl _
    · exact (((suffix_dropMark _ _).trans (suffix_dropMark _ _)).trans (Reading.suffix_of_skip hskip')).trans
        (suffix_of_bounds hbounds)
  | next hskip hc hw ih =>
    intro fuel hgoing a b as r₁ t₁ hsuffix hparts
    rename_i t w c
    have hplain : c ∉ ['(', '\\', '[', '+', '*', '?', '|', ')', '{'] := by
      intro hmem
      simp only [List.mem_cons, List.not_mem_nil, or_false] at hmem
      rcases hmem with rfl | rfl | rfl | rfl | rfl | rfl | rfl | rfl | rfl
      all_goals exact absurd hc (by decide)
    have hbounds : bounds? r (c :: w) = none := by
      simp only [List.mem_cons, List.not_mem_nil, or_false, not_or] at hplain
      simp [bounds?, hplain]
    obtain ⟨rfl, w', hskip', ⟨-, -, rfl⟩ | ⟨-, min, max, v, v', hbounds', -⟩⟩ := readSuffix_eq_some hsuffix
    · rw [hskip] at hskip'
      cases hskip'
      have hself : c ∉ ['(', '\\', '[', '+', '*', '?', '|', ')'] := fun hmem => hplain (by simp_all)
      obtain ⟨f, hf, a', b', t₂, as', hsuffix', hparts'⟩ :=
        exists_of_readParts_plain (skip_count hc) hself hparts
      exact ih (fun f' hf' => hgoing f' (hf'.trans hf.le)) hsuffix' hparts'
    · rw [hskip] at hskip'
      cases hskip'
      rw [hbounds] at hbounds'; cases hbounds'

/-- A literal brace with nothing but numbers and commas behind it leads to the end of the text, too. -/
theorem cut_of_brace {as : List Node} (hgoing : ∀ f ≤ fuel, Going f) (hv : Trailing r v)
    (h : readParts? fuel depth r ('{' :: v) = some (as, r', u)) : Cut u := by
  obtain ⟨f, hf, a, b, t₂, as', hsuffix, hparts⟩ :=
    exists_of_readParts_plain (skip_cons (by decide)) (by decide) h
  exact cut_of_trailing hv (fun f' hf' => hgoing f' (hf'.trans hf.le)) hsuffix hparts

/-- An atom takes off a literal brace. -/
theorem readAtom_brace (h : readAtom? fuel depth r ('{' :: w) = some (a, r', u)) : u = w := by
  cases fuel with
  | zero => rw [readAtom?] at h; cases h
  | succ fuel =>
    rw [readAtom_plain (skip_cons (by decide)) (by decide)] at h
    cases h; rfl

/-- The first part of a longer text: it ends where it did, unless what follows a brace is trailing. -/
theorem readParts_append {r₁ : Reading} {t₁ t₂ : Text} {b : Node} {as : List Node}
    (hatom : Steady readAtom? fuel depth r t a r₁ t₁) (hsuffix : readSuffix? a r₁ t₁ = some (b, r₁, t₂))
    (ht₂ : ¬ Cut t₂) (hq : r.Alike q) {fuel' depth' : Nat}
    (h : readParts? fuel' depth' q (t ++ y) = some (as, q', z)) :
    (∃ w, t₂ = '{' :: w ∧ Trailing r₁ w) ∨ ∃ q₁, r₁.Alike q₁ ∧
      (t₂.length = t.length ∧ q' = q₁ ∧ z = t ++ y ∨
        t₂.length ≠ t.length ∧ ∃ f as', readParts? f depth' q₁ (t₂ ++ y) = some (as', q', z)) := by
  have ht₁ := not_cut_of_suffix ht₂ (suffix_of_readSuffix hsuffix)
  cases fuel' with
  | zero => rw [readParts?] at h; cases h
  | succ fuel' =>
    obtain ⟨hnil, -⟩ | ⟨-, a', q₁, z₁, b', z₂, hatom', hsuffix', hrest⟩ := readParts_eq_some h
    · exact absurd (List.append_eq_nil_iff.1 hnil).1 (ne_nil_of_not_cut (hatom.not_cut ht₁))
    obtain ⟨rfl, hq₁⟩ := hatom.behind _ _ ht₁ hq hatom'
    rcases readSuffix_append hq₁ ht₂ hsuffix hsuffix' with rfl | htrailing
    · refine .inr ⟨q₁, hq₁, ?_⟩
      simp only [List.length_append, Nat.add_right_cancel_iff, ne_eq] at hrest
      rcases hrest with ⟨hstop, -, rfl, rfl⟩ | ⟨hgo, as', hparts, -⟩
      · exact .inl ⟨hstop, rfl, rfl⟩
      · exact .inr ⟨hgo, fuel', as', hparts⟩
    · exact .inl htrailing

theorem steady_readParts {as : List Node} (hgoing : ∀ f ≤ fuel, Going f)
    (h : readParts? (fuel + 1) depth r t = some (as, r', u)) : Steady readParts? (fuel + 1) depth r t as r' u := by
  obtain ⟨rfl, rfl, rfl⟩ | ⟨ht, a, r₁, t₁, b, t₂, hatom, hsuffix, hrest⟩ := readParts_eq_some h
  · exact ⟨List.suffix_refl _, id, fun hu => absurd cut_nil hu, fun _ _ hu => absurd cut_nil hu⟩
  have hsteady := (hgoing fuel le_rfl).atom hatom
  have ht₂ := suffix_of_readSuffix hsuffix
  -- the first part, read with one name more
  have hnamed (hu : ¬ Cut t₂) (hr : r₁.numbered = false) {fuel' : Nat} (hfuel : fuel ≤ fuel') (e bound) :
      readParts? (fuel' + 1) depth (r.alias e bound) t = if t₂.length = t.length then some ([], r₁.alias e bound, t)
        else (readParts? fuel' depth (r₁.alias e bound) t₂).map fun x => (if b = .empty then x.1 else b :: x.1, x.2) :=
    readParts_of_atom ht (hsteady.named (not_cut_of_suffix hu ht₂) hr fuel' hfuel e bound)
      (by rw [readSuffix_alias, hsuffix]; rfl)
  rcases hrest with ⟨hstop, rfl, rfl, rfl⟩ | ⟨hgo, as', hparts, rfl⟩
  · have hsame : t₂ = u := (ht₂.trans hsteady.rest).eq_of_length hstop
    refine ⟨List.suffix_refl _, hsteady.numbered, ?_, ?_⟩
    · intro hu hr fuel' hfuel e bound
      obtain ⟨fuel', rfl⟩ := Nat.exists_eq_add_of_le' (Nat.lt_of_lt_of_le (Nat.succ_pos fuel) hfuel)
      rw [hnamed (hsame ▸ hu) hr (Nat.le_of_succ_le_succ hfuel), if_pos hstop]
    · intro fuel' depth' hu q y x q' z hq h'
      rcases readParts_append hsteady hsuffix (hsame ▸ hu) hq h' with ⟨w, hw, -⟩ | ⟨q₁, hq₁, ⟨-, rfl, rfl⟩ | ⟨hgo, -⟩⟩
      · -- a brace would have been taken off
        rw [← hsame, hw] at hatom
        have hlength := ht₂.length_le
        rw [hw, readAtom_brace hatom, List.length_cons] at hlength
        omega
      · exact ⟨rfl, hq₁⟩
      · exact absurd hstop hgo
  · have hsteady' := (hgoing fuel le_rfl).parts hparts
    refine ⟨(hsteady'.rest.trans ht₂).trans hsteady.rest, fun hr => hsteady'.numbered (hsteady.numbered hr), ?_, ?_⟩
    · intro hu hr fuel' hfuel e bound
      obtain ⟨fuel', rfl⟩ := Nat.exists_eq_add_of_le' (Nat.lt_of_lt_of_le (Nat.succ_pos fuel) hfuel)
      have hfuel := Nat.le_of_succ_le_succ hfuel
      rw [hnamed (hsteady'.not_cut hu) (hsteady'.not_numbered hr) hfuel, if_neg hgo,
        hsteady'.named hu hr fuel' hfuel e bound]
      rfl
    · intro fuel' depth' hu q y x q' z hq h'
      rcases readParts_append hsteady hsuffix (hsteady'.not_cut hu) hq h' with ⟨w, rfl, hw⟩ |
        ⟨q₁, hq₁, ⟨hstop, -⟩ | ⟨-, f, as'', hparts'⟩⟩
      · exact absurd (cut_of_brace hgoing hw hparts) hu
      · exact absurd hstop hgo
      · exact hsteady'.behind f depth' hu hq₁ hparts'

/-! ## Alternatives -/

theorem readBranches_bar {r₁ : Reading} {t₁ : Text} {as : List Node}
    (hparts : readParts? fuel depth r t = some (as, r₁, t₁)) (hskip : r₁.skip? t₁ = some ('|' :: v)) :
    readBranches? (fuel + 1) depth r t =
      (readBranches? fuel depth r₁ v).map fun x => (.concat as :: x.1, x.2) := by
  rw [readBranches?, hparts]
  simp only [bind, Option.bind_some, hskip]
  rcases readBranches? fuel depth r₁ v with _ | x
  · rfl
  · rfl

theorem readBranches_last {r₁ : Reading} {t₁ : Text} {as : List Node}
    (hparts : readParts? fuel depth r t = some (as, r₁, t₁)) (hskip : r₁.skip? t₁ = some w)
    (hw : w.head? ≠ some '|') : readBranches? (fuel + 1) depth r t = some ([.concat as], r₁, w) := by
  rw [readBranches?, hparts]
  simp only [bind, Option.bind_some, hskip]
  split
  · exact absurd rfl hw
  · rfl

theorem readBranches_eq_some {bs : List Node} (h : readBranches? (fuel + 1) depth r t = some (bs, r', u)) :
    ∃ as r₁ t₁ w, readParts? fuel depth r t = some (as, r₁, t₁) ∧ r₁.skip? t₁ = some w ∧
      (w.head? ≠ some '|' ∧ r' = r₁ ∧ u = w ∧ bs = [.concat as] ∨
        ∃ v bs', w = '|' :: v ∧ readBranches? fuel depth r₁ v = some (bs', r', u) ∧ bs = .concat as :: bs') := by
  have h' := h
  rw [readBranches?] at h'
  obtain ⟨⟨as, r₁, t₁⟩, hparts, h'⟩ := Option.bind_eq_some_iff.1 h'
  obtain ⟨w, hskip, -⟩ := Option.bind_eq_some_iff.1 h'
  refine ⟨as, r₁, t₁, w, hparts, hskip, ?_⟩
  by_cases hw : w.head? = some '|'
  · obtain ⟨v, rfl⟩ := List.head?_eq_some_iff.1 hw
    rw [readBranches_bar hparts hskip] at h
    obtain ⟨⟨bs', q, z⟩, hrec, h⟩ := Option.map_eq_some_iff.1 h
    cases h; exact .inr ⟨v, bs', rfl, hrec, rfl⟩
  · rw [readBranches_last hparts hskip hw] at h
    cases h; exact .inl ⟨hw, rfl, rfl, rfl⟩

theorem steady_readBranches {bs : List Node} (hgoing : Going fuel)
    (h : readBranches? (fuel + 1) depth r t = some (bs, r', u)) :
    Steady readBranches? (fuel + 1) depth r t bs r' u := by
  obtain ⟨as, r₁, t₁, w, hparts, hskip, hend⟩ := readBranches_eq_some h
  have hsteady := hgoing.parts hparts
  have hw := Reading.suffix_of_skip hskip
  -- another run reads the first alternative the same way
  have hfirst {fuel' depth' q y bs' q' z} (hcut : ¬ Cut w) (hq : r.Alike q)
      (h' : readBranches? fuel' depth' q (t ++ y) = some (bs', q', z)) : ∃ q₁, r₁.Alike q₁ ∧
        (w.head? ≠ some '|' ∧ q' = q₁ ∧ z = w ++ y ∨
          ∃ v f bs'', w = '|' :: v ∧ readBranches? f depth' q₁ (v ++ y) = some (bs'', q', z)) := by
    cases fuel' with
    | zero => rw [readBranches?] at h'; cases h'
    | succ fuel' =>
      obtain ⟨as', q₁, z₁, w', hparts', hskip', hend'⟩ := readBranches_eq_some h'
      obtain ⟨rfl, hq₁⟩ := hsteady.behind _ _ (not_cut_of_suffix hcut hw) hq hparts'
      rw [skip_append hq₁ hcut hskip] at hskip'
      cases hskip'
      refine ⟨q₁, hq₁, ?_⟩
      rw [head?_append_of_not_cut hcut] at hend'
      rcases hend' with ⟨hhead, rfl, rfl, -⟩ | ⟨v', bs'', hv', hrec, -⟩
      · exact .inl ⟨hhead, rfl, rfl⟩
      · obtain ⟨c, w, rfl⟩ := List.exists_cons_of_ne_nil (ne_nil_of_not_cut hcut)
        cases hv'
        exact .inr ⟨w, fuel', bs'', rfl, hrec⟩
  rcases hend with ⟨hhead, rfl, rfl, rfl⟩ | ⟨v, bs', rfl, hrec, rfl⟩
  · refine ⟨hw.trans hsteady.rest, hsteady.numbered, ?_, ?_⟩
    · intro hu hr fuel' hfuel e bound
      obtain ⟨fuel', rfl⟩ := Nat.exists_eq_add_of_le' (Nat.lt_of_lt_of_le (Nat.succ_pos fuel) hfuel)
      exact readBranches_last (hsteady.named (not_cut_of_suffix hu hw) hr fuel' (Nat.le_of_succ_le_succ hfuel) e bound)
        hskip hhead
    · intro fuel' depth' hu q y x q' z hq h'
      obtain ⟨q₁, hq₁, ⟨-, rfl, rfl⟩ | ⟨v, f, bs'', rfl, -⟩⟩ := hfirst hu hq h'
      · exact ⟨rfl, hq₁⟩
      · exact absurd rfl hhead
  · have hsteady' := hgoing.branches hrec
    have hbar : ¬ Cut ('|' :: v) := not_cut_of_mem List.mem_cons_self (by decide)
    refine ⟨((hsteady'.rest.trans (List.suffix_cons _ _)).trans hw).trans hsteady.rest,
      fun hr => hsteady'.numbered (hsteady.numbered hr), ?_, ?_⟩
    · intro hu hr fuel' hfuel e bound
      obtain ⟨fuel', rfl⟩ := Nat.exists_eq_add_of_le' (Nat.lt_of_lt_of_le (Nat.succ_pos fuel) hfuel)
      have hfuel := Nat.le_of_succ_le_succ hfuel
      have hnamed := hsteady.named (not_cut_of_suffix hbar hw) (hsteady'.not_numbered hr) fuel' hfuel e bound
      rw [readBranches_bar hnamed hskip, hsteady'.named hu hr fuel' hfuel e bound]
      rfl
    · intro fuel' depth' hu q y x q' z hq h'
      obtain ⟨q₁, hq₁, ⟨hhead, -⟩ | ⟨v', f, bs'', hv', hrec'⟩⟩ := hfirst hbar hq h'
      · exact absurd rfl hhead
      · cases hv'
        exact hsteady'.behind f depth' hu hq₁ hrec'

/-- A choice is refused only for references by number next to names. -/
theorem readChoice_of_branches {bs : List Node} (hr : r'.numbered = false)
    (hbranches : readBranches? fuel depth r t = some (bs, r', u)) :
    readChoice? (fuel + 1) depth r t = some (.choice bs, r', u) := by
  rw [readChoice?, hbranches]
  simp only [bind, Option.bind_some]
  split
  · rw [hr]; rfl
  · rfl

theorem readChoice_eq_some (h : readChoice? (fuel + 1) depth r t = some (a, r', u)) :
    ∃ bs, readBranches? fuel depth r t = some (bs, r', u) ∧ a = .choice bs := by
  rw [readChoice?] at h
  obtain ⟨⟨bs, q, z⟩, hbranches, h⟩ := Option.bind_eq_some_iff.1 h
  refine ⟨bs, ?_⟩
  simp only at h
  split at h
  · split at h
    · cases h
    · cases h; exact ⟨hbranches, rfl⟩
  · cases h; exact ⟨hbranches, rfl⟩

theorem steady_readChoice (hgoing : Going fuel) (h : readChoice? (fuel + 1) depth r t = some (a, r', u)) :
    Steady readChoice? (fuel + 1) depth r t a r' u := by
  obtain ⟨bs, hbranches, rfl⟩ := readChoice_eq_some h
  have hsteady := hgoing.branches hbranches
  refine ⟨hsteady.rest, hsteady.numbered, ?_, ?_⟩
  · intro hu hr fuel' hfuel e bound
    obtain ⟨fuel', rfl⟩ := Nat.exists_eq_add_of_le' (Nat.lt_of_lt_of_le (Nat.succ_pos fuel) hfuel)
    exact readChoice_of_branches hr (hsteady.named hu hr fuel' (Nat.le_of_succ_le_succ hfuel) e bound)
  · intro fuel' depth' hu q y x q' z hq h'
    cases fuel' with
    | zero => rw [readChoice?] at h'; cases h'
    | succ fuel' =>
      obtain ⟨bs', hbranches', -⟩ := readChoice_eq_some h'
      exact hsteady.behind fuel' depth' hu hq hbranches'

/-! ## Parts -/

theorem steady_nil {α : Type} {read : Reader α} {a : α} (h : r.numbered → r'.numbered) :
    Steady read fuel depth r t a r' [] :=
  ⟨List.nil_suffix, h, fun hu => absurd cut_nil hu, fun _ _ hu => absurd cut_nil hu⟩

theorem steady_atomAt (hgoing : Going fuel) (h : atomAt? fuel depth r w = some (a, r', u)) :
    Steady atomAt? fuel depth r w a r' u := by
  rcases w with _ | ⟨c, w⟩
  · cases h; exact steady_nil id
  by_cases hopen : c = '('
  · subst hopen
    rw [atomAt?, if_pos rfl] at h
    split at h
    · rename_i hdepth
      have hsteady := hgoing.group h
      refine ⟨hsteady.rest.trans (List.suffix_cons _ _), hsteady.numbered, ?_, ?_⟩
      · intro hu hr fuel' hfuel e bound
        rw [atomAt?, if_pos rfl, if_pos hdepth]
        exact hsteady.named hu hr fuel' hfuel e bound
      · intro fuel' depth' hu q y x q' z hq h'
        rw [List.cons_append, atomAt?, if_pos rfl] at h'
        split at h'
        · exact hsteady.behind fuel' (depth' + 1) hu hq h'
        · cases h'
    · cases h
  by_cases hquote : c = '\\'
  · subst hquote
    obtain ⟨⟨e, q, z⟩, hescape, h⟩ := Option.map_eq_some_iff.1 h
    cases h
    exact (steady_readEscape fuel depth hescape).map (s := ['\\']) (fun e fl => escapedAtom fl e) fun _ _ _ _ _ => rfl
  by_cases hbracket : c = '['
  · subst hbracket
    refine (steady_readBracket fuel depth h).map (s := ['[']) (fun a _ => a) fun _ _ _ q y => ?_
    exact (Option.map_id' (x := readBracket? q (w ++ y))).symm
  by_cases hoperator : c ∈ ['+', '*', '?', '|', ')']
  · rw [atomAt_operator hoperator] at h
    cases h
    refine ⟨List.suffix_refl _, id, fun _ _ _ _ _ _ => atomAt_operator hoperator _ _ _ _, ?_⟩
    intro fuel' depth' hu q y x q' z hq h'
    rw [List.cons_append, atomAt_operator hoperator] at h'
    cases h'
    exact ⟨rfl, hq⟩
  · have hplain : c ∉ ['(', '\\', '[', '+', '*', '?', '|', ')'] := by
      simp only [List.mem_cons, not_or] at hoperator ⊢
      exact ⟨hopen, hquote, hbracket, hoperator⟩
    rw [atomAt_plain hplain] at h
    cases h
    refine ⟨List.suffix_cons _ _, id, fun _ _ _ _ _ _ => atomAt_plain hplain _ _ _ _, ?_⟩
    intro fuel' depth' hu q y x q' z hq h'
    rw [List.cons_append, atomAt_plain hplain] at h'
    cases h'
    exact ⟨rfl, hq⟩

theorem steady_readAtom (hgoing : Going fuel) (h : readAtom? (fuel + 1) depth r t = some (a, r', u)) :
    Steady readAtom? (fuel + 1) depth r t a r' u := by
  rw [readAtom_succ] at h
  obtain ⟨w, hskip, h⟩ := Option.bind_eq_some_iff.1 h
  exact .of_skip (fun _ _ _ => by rw [readAtom?]) readAtom_succ hskip (steady_atomAt hgoing h)

/-! ## Conditions -/

/-- Reads a condition behind its parenthesis: a group that has taken part, or an expression. -/
def condition? (fuel depth : Nat) (r : Reading) (t : Text) : Result Node :=
  match t with
  | '<' :: t => (readReference? r '>' t).map fun x => (.captured x.1, x.2)
  | '\'' :: t => (readReference? r '\'' t).map fun x => (.captured x.1, x.2)
  | c :: _ => if c.isDigit then (readNumber? r t).map fun x => (.captured x.1, x.2) else readChoice? fuel depth r t
  | [] => none

/-- A condition with the expressions that depend on it. -/
def branchNode? (cond : Node) : List Node → Option Node
  | [.empty] => some cond
  | yes :: rest => some (.branch cond yes (.choice rest))
  | [] => none

theorem readBranch_succ (fuel depth : Nat) (r : Reading) (t : Text) : readBranch? (fuel + 1) depth r t =
    (closed? (condition? fuel depth r t)).bind fun x =>
      (closed? (readBranches? fuel depth x.2.1 x.2.2)).bind fun z => (branchNode? x.1 z.1).map (·, z.2) := by
  unfold readBranch?
  change (closed? (condition? fuel depth r t)).bind _ = _
  rcases closed? (condition? fuel depth r t) with _ | ⟨cond, r₁, t₁⟩
  · rfl
  change (closed? (readBranches? fuel depth r₁ t₁)).bind _ = (closed? (readBranches? fuel depth r₁ t₁)).bind _
  rcases closed? (readBranches? fuel depth r₁ t₁) with _ | ⟨bs, r₂, t₂⟩
  · rfl
  rcases bs with _ | ⟨b, _ | ⟨b', bs⟩⟩
  · rfl
  · cases b <;> rfl
  · cases b <;> rfl

theorem steady_condition (hgoing : Going fuel) (h : condition? fuel depth r t = some (a, r', u)) :
    Steady condition? fuel depth r t a r' u := by
  rcases t with _ | ⟨c, t⟩
  · cases h
  by_cases hangle : c = '<'
  · subst hangle
    obtain ⟨⟨g, q, z⟩, hreference, h⟩ := Option.map_eq_some_iff.1 h
    cases h
    exact (steady_readReference fuel depth hreference).map (s := ['<']) (fun g _ => Node.captured g)
      fun _ _ _ _ _ => rfl
  by_cases hquote : c = '\''
  · subst hquote
    obtain ⟨⟨g, q, z⟩, hreference, h⟩ := Option.map_eq_some_iff.1 h
    cases h
    exact (steady_readReference fuel depth hreference).map (s := ['\'']) (fun g _ => Node.captured g)
      fun _ _ _ _ _ => rfl
  have hread (fuel depth : Nat) (r : Reading) (t : Text) : condition? fuel depth r (c :: t) =
      if c.isDigit then (readNumber? r (c :: t)).map fun x => (.captured x.1, x.2)
      else readChoice? fuel depth r (c :: t) := by
    simp [condition?]
  rw [hread] at h
  split at h
  · rename_i hdigit
    obtain ⟨⟨g, q, z⟩, hnumber, h⟩ := Option.map_eq_some_iff.1 h
    cases h
    exact (steady_readNumber fuel depth hnumber).map (s := []) (fun g _ => Node.captured g) fun _ fuel depth q y =>
      (hread fuel depth q (t ++ y)).trans (if_pos hdigit)
  · rename_i hdigit
    refine (hgoing.choice h).map (s := []) (fun a _ => a) fun _ fuel depth q y => ?_
    exact ((hread fuel depth q (t ++ y)).trans (if_neg hdigit)).trans
      (Option.map_id' (x := readChoice? fuel depth q (c :: t ++ y))).symm

theorem steady_readBranch (hgoing : Going fuel) (h : readBranch? (fuel + 1) depth r t = some (a, r', u)) :
    Steady readBranch? (fuel + 1) depth r t a r' u := by
  rw [readBranch_succ] at h
  obtain ⟨⟨cond, r₁, t₁⟩, hcond, h⟩ := Option.bind_eq_some_iff.1 h
  obtain ⟨⟨bs, r₂, t₂⟩, hbranches, h⟩ := Option.bind_eq_some_iff.1 h
  obtain ⟨b, hb, h⟩ := Option.map_eq_some_iff.1 h
  cases h
  obtain ⟨v₁, hcond, hclose₁⟩ := closed_eq_some.1 hcond
  obtain ⟨v₂, hbranches, hclose₂⟩ := closed_eq_some.1 hbranches
  have hsteady₁ := steady_condition hgoing hcond
  have hsteady₂ := hgoing.branches hbranches
  refine ⟨(hsteady₂.closed hclose₂).rest.trans (hsteady₁.closed hclose₁).rest,
    fun hr => hsteady₂.numbered (hsteady₁.numbered hr), ?_, ?_⟩
  · intro hu hr fuel' hfuel e bound
    obtain ⟨fuel', rfl⟩ := Nat.exists_eq_add_of_le' (Nat.lt_of_lt_of_le (Nat.succ_pos fuel) hfuel)
    have hfuel := Nat.le_of_succ_le_succ hfuel
    have hnamed₂ := (hsteady₂.closed hclose₂).named hu hr fuel' hfuel e bound
    have hu₁ := (hsteady₂.closed hclose₂).not_cut hu
    have hnamed₁ := (hsteady₁.closed hclose₁).named hu₁ (hsteady₂.not_numbered hr) fuel' hfuel e bound
    rw [readBranch_succ, hnamed₁, Option.bind_some, hnamed₂, Option.bind_some, hb]
    rfl
  · intro fuel' depth' hu q y x q' z hq h'
    cases fuel' with
    | zero => rw [readBranch?] at h'; cases h'
    | succ fuel' =>
      rw [readBranch_succ] at h'
      obtain ⟨⟨cond', q₁, z₁⟩, hcond', h'⟩ := Option.bind_eq_some_iff.1 h'
      obtain ⟨⟨bs', q₂, z₂⟩, hbranches', h'⟩ := Option.bind_eq_some_iff.1 h'
      obtain ⟨b', -, h'⟩ := Option.map_eq_some_iff.1 h'
      cases h'
      obtain ⟨rfl, hq₁⟩ := hsteady₁.behind_closed hclose₁ hq hcond'
      exact hsteady₂.behind_closed hclose₂ hq₁ hbranches'

/-! ## Groups -/

/-- Reads an expression up to the parenthesis that closes it. -/
def inside? (fuel depth : Nat) (wrap : Node → Node) (r : Reading) (t : Text) : Result Node :=
  (closed? (readChoice? fuel depth r t)).map fun x => (wrap x.1, x.2)

/-- The state inside of a new group. -/
def Reading.enter (r : Reading) : Reading := { r with groups := r.groups + 1 }

/-- The state inside of a new group with a name. -/
def Reading.enterNamed (r : Reading) (name : Text) : Reading :=
  { r with groups := r.groups + 1, names := (name, r.groups + 1) :: r.names }

/-- Reads a group with a name. -/
def named? (fuel depth : Nat) (close : Char) (r : Reading) (t : Text) : Result Node :=
  match readName? close t with
  | some (name, t) => inside? fuel depth (.group (r.groups + 1)) (r.enterNamed name) t
  | none => none

/-- Reads flags, for what follows or for the expression in the parentheses. -/
def flagged? (fuel depth : Nat) (r : Reading) (t : Text) : Result Node :=
  (readFlags? r true none (t.length + 1) t).bind fun x =>
    if x.2.1 = ')' then some (.empty, { r with flags := x.1 }, x.2.2)
    else (closed? (readChoice? fuel depth { r with flags := x.1 } x.2.2)).map fun z =>
      (z.1, { z.2.1 with flags := r.flags }, z.2.2)

/-- Reads a group behind its opening parenthesis, where nothing is to be skipped. -/
def groupAt? (fuel depth : Nat) (r : Reading) (t : Text) : Result Node :=
  match t with
  | '?' :: '=' :: t => inside? fuel depth (.look false false) r t
  | '?' :: '!' :: t => inside? fuel depth (.look false true) r t
  | '?' :: '<' :: '=' :: t => inside? fuel depth (behind false) r t
  | '?' :: '<' :: '!' :: t => inside? fuel depth (behind true) r t
  | '?' :: '<' :: t => named? fuel depth '>' r t
  | '?' :: '\'' :: t => named? fuel depth '\'' r t
  | '?' :: 'P' :: '<' :: t => named? fuel depth '>' r t
  | '?' :: 'P' :: '=' :: t => (readReference? r ')' t).map fun x => (.backref x.1 x.2.1.flags.fold, x.2)
  | '?' :: '>' :: t => inside? fuel depth .atomic r t
  | '?' :: '(' :: t => readBranch? fuel depth r t
  | '?' :: t => flagged? fuel depth r t
  | t => inside? fuel depth (.group (r.groups + 1)) r.enter t

theorem readGroup_succ (fuel depth : Nat) (r : Reading) (t : Text) :
    readGroup? (fuel + 1) depth r t = (r.skip? t).bind (groupAt? fuel depth r) := by
  unfold readGroup?
  rcases r.skip? t with _ | w
  · rfl
  simp only [bind, Option.bind_some]
  split
  · rfl
  · rfl
  · rfl
  · rfl
  · rename_i v _ _
    rw [groupAt?]
    · rfl
    all_goals assumption
  · rfl
  · rfl
  · rfl
  · rfl
  · rfl
  · rename_i v _ _ _ _ _ _ _ _ _ _
    rw [groupAt?]
    · unfold flagged?
      rcases readFlags? r true none (v.length + 1) v with _ | ⟨fl, c, w⟩
      · rfl
      by_cases hc : c = ')'
      · subst hc; rfl
      · simp [hc]
    all_goals assumption
  · rename_i v _ _ _ _ _ _ _ _ _ _ _
    rw [groupAt?]
    · rfl
    all_goals assumption

theorem steady_inside (hgoing : Going fuel) {read : Reader Node} (f : Reading → Reading)
    (wrap : Reading → Node → Node) {s : Text} (hf : ∀ q e bound, f (q.alias e bound) = (f q).alias e bound)
    (hwrap : ∀ q e bound, wrap (q.alias e bound) = wrap q) (hnumbered : ∀ q, (f q).numbered = q.numbered)
    (hflags : ∀ q, (f q).flags = q.flags)
    (hread : ∀ fuel depth q y, read fuel depth q (s ++ (v ++ y)) = inside? fuel depth (wrap q) (f q) (v ++ y))
    (h : inside? fuel depth (wrap r) (f r) v = some (a, r', u)) : Steady read fuel depth r (s ++ v) a r' u := by
  obtain ⟨⟨b, q, z⟩, hclosed, h⟩ := Option.map_eq_some_iff.1 h
  cases h
  obtain ⟨v', hchoice, hclose⟩ := closed_eq_some.1 hclosed
  have hsteady := hgoing.choice hchoice
  refine ⟨(hsteady.closed hclose).rest.trans (List.suffix_append s v), fun hr => hsteady.numbered (by rwa [hnumbered]),
    ?_, ?_⟩
  · intro hu hr fuel' hfuel e bound
    have hinside := hread fuel' depth (r.alias e bound) []
    rw [List.append_nil] at hinside
    rw [hinside, hf, hwrap, inside?, (hsteady.closed hclose).named hu hr fuel' hfuel e bound]
    rfl
  · intro fuel' depth' hu q y x q' z hq h'
    rw [List.append_assoc, hread] at h'
    obtain ⟨⟨b', q'', z'⟩, hclosed', h'⟩ := Option.map_eq_some_iff.1 h'
    cases h'
    refine hsteady.behind_closed hclose ?_ hclosed'
    rw [Reading.Alike, hflags, hflags]; exact hq

theorem readName_eq {close : Char} {name : Text} (h : readName? close t = some (name, u)) : t = name ++ close :: u := by
  unfold readName? at h
  split at h
  · cases h
  · rename_i hspan
    split at h
    · rename_i hclose
      cases h
      rw [List.span_eq_takeWhile_dropWhile, Prod.mk.injEq] at hspan
      rw [← hclose, ← hspan.1, ← hspan.2, List.takeWhile_append_dropWhile]
    · cases h
  · cases h

theorem steady_named (hgoing : Going fuel) {read : Reader Node} {close : Char} {s : Text}
    (hread : ∀ fuel depth q y, read fuel depth q (s ++ (v ++ y)) = named? fuel depth close q (v ++ y))
    (h : named? fuel depth close r v = some (a, r', u)) : Steady read fuel depth r (s ++ v) a r' u := by
  unfold named? at h
  split at h
  · rename_i name w hname
    obtain rfl := readName_eq hname
    have hsplit : s ++ (name ++ close :: w) = (s ++ name ++ [close]) ++ w := by simp
    rw [hsplit]
    refine steady_inside hgoing (·.enterNamed name) (fun q => .group (q.groups + 1)) (fun _ _ _ => rfl)
      (fun _ _ _ => rfl) (fun _ => rfl) (fun _ => rfl) (fun fuel depth q y => ?_) h
    have hread := hread fuel depth q y
    rw [named?, readName_append hname] at hread
    simpa using hread
  · cases h

theorem steady_flagged (hgoing : Going fuel) (h : flagged? fuel depth r t = some (a, r', u)) :
    Steady flagged? fuel depth r t a r' u := by
  obtain ⟨⟨fl, c, w⟩, hflags, h⟩ := Option.bind_eq_some_iff.1 h
  have hw := suffix_of_readFlags hflags
  have halias (e bound) : readFlags? (r.alias e bound) true none (t.length + 1) t = some (fl, c, w) := by
    rw [readFlags_alias]; exact hflags
  by_cases hc : c = ')'
  · subst hc
    cases h
    refine ⟨hw, id, ?_, ?_⟩
    · intro _ _ fuel' _ e bound
      rw [flagged?, halias]; rfl
    · intro fuel' depth' _ q y x q' z hq h'
      obtain ⟨⟨fl', c', w'⟩, hflags', h'⟩ := Option.bind_eq_some_iff.1 h'
      obtain ⟨rfl, rfl, hfl⟩ := readFlags_append hq hflags hflags'
      cases h'
      exact ⟨rfl, hfl⟩
  · simp only [if_neg hc] at h
    obtain ⟨⟨b, r₁, z⟩, hclosed, h⟩ := Option.map_eq_some_iff.1 h
    cases h
    obtain ⟨v', hchoice, hclose⟩ := closed_eq_some.1 hclosed
    have hsteady := hgoing.choice hchoice
    refine ⟨(hsteady.closed hclose).rest.trans hw, hsteady.numbered, ?_, ?_⟩
    · intro hu hr fuel' hfuel e bound
      have hnamed := (hsteady.closed hclose).named hu hr fuel' hfuel e bound
      rw [flagged?, halias, Option.bind_some]
      simp only [if_neg hc]
      exact Option.map_eq_some_iff.2 ⟨_, hnamed, rfl⟩
    · intro fuel' depth' _ q y x q' z hq h'
      obtain ⟨⟨fl', c', w'⟩, hflags', h'⟩ := Option.bind_eq_some_iff.1 h'
      obtain ⟨rfl, rfl, hfl⟩ := readFlags_append hq hflags hflags'
      simp only [if_neg hc] at h'
      obtain ⟨⟨b', q₁, z'⟩, hclosed', h'⟩ := Option.map_eq_some_iff.1 h'
      cases h'
      have hq' : Reading.Alike { r with flags := fl } { q with flags := fl' } := hfl
      exact ⟨(hsteady.behind_closed hclose hq' hclosed').1, hq⟩

section
variable {c : Char}

theorem groupAt_angle (hc : c ≠ '=') (hc' : c ≠ '!') (fuel depth : Nat) (r : Reading) (t : Text) :
    groupAt? fuel depth r ('?' :: '<' :: c :: t) = named? fuel depth '>' r (c :: t) := by
  simp [groupAt?, hc, hc']

theorem groupAt_flags (hc : c ∉ ['=', '!', '<', '\'', 'P', '>', '(']) (fuel depth : Nat) (r : Reading) (t : Text) :
    groupAt? fuel depth r ('?' :: c :: t) = flagged? fuel depth r (c :: t) := by
  simp only [List.mem_cons, List.not_mem_nil, or_false, not_or] at hc
  simp [groupAt?, hc]

theorem groupAt_plain (hc : c ≠ '?') (fuel depth : Nat) (r : Reading) (t : Text) :
    groupAt? fuel depth r (c :: t) = inside? fuel depth (.group (r.groups + 1)) r.enter (c :: t) := by
  simp [groupAt?, hc]

/-- There is no flag of this letter. -/
theorem flagged_P (fuel depth : Nat) (r : Reading) (t : Text) : flagged? fuel depth r ('P' :: t) = none := by
  have hskip : r.skip? ('P' :: t) = some ('P' :: t) := skip_cons (by decide)
  simp [flagged?, readFlags?, hskip, turn?]

end

/-- An expression that is closed is not at the end of the text. -/
theorem inside_nil (hgoing : Going fuel) {wrap : Node → Node} : inside? fuel depth wrap r [] ≠ some (a, r', u) := by
  intro h
  obtain ⟨⟨b, q, z⟩, hclosed, -⟩ := Option.map_eq_some_iff.1 h
  obtain ⟨v', hchoice, hclose⟩ := closed_eq_some.1 hclosed
  have hnil : v' = [] := List.suffix_nil.1 (hgoing.choice hchoice).rest
  rw [hnil, skip_nil] at hclose
  cases hclose

theorem steady_groupAt (hgoing : Going fuel) (h : groupAt? fuel depth r w = some (a, r', u)) :
    Steady groupAt? fuel depth r w a r' u := by
  have hkeep {wrap : Node → Node} {s v : Text}
      (hread : ∀ fuel depth q y, groupAt? fuel depth q (s ++ (v ++ y)) = inside? fuel depth wrap q (v ++ y))
      (h : inside? fuel depth wrap r v = some (a, r', u)) : Steady groupAt? fuel depth r (s ++ v) a r' u :=
    steady_inside hgoing id (fun _ => wrap) (fun _ _ _ => rfl) (fun _ _ _ => rfl) (fun _ => rfl) (fun _ => rfl)
      hread h
  unfold groupAt? at h
  split at h
  · exact hkeep (s := ['?', '=']) (fun _ _ _ _ => rfl) h
  · exact hkeep (s := ['?', '!']) (fun _ _ _ _ => rfl) h
  · exact hkeep (s := ['?', '<', '=']) (fun _ _ _ _ => rfl) h
  · exact hkeep (s := ['?', '<', '!']) (fun _ _ _ _ => rfl) h
  · rename_i v hequal hnot
    cases v with
    | nil => cases h
    | cons c v =>
      have hc : c ≠ '=' := by rintro rfl; exact hequal v rfl
      have hc' : c ≠ '!' := by rintro rfl; exact hnot v rfl
      exact steady_named hgoing (s := ['?', '<']) (fun _ _ _ _ => groupAt_angle hc hc' _ _ _ _) h
  · exact steady_named hgoing (s := ['?', '\'']) (fun _ _ _ _ => rfl) h
  · exact steady_named hgoing (s := ['?', 'P', '<']) (fun _ _ _ _ => rfl) h
  · obtain ⟨⟨g, q, z⟩, hreference, h⟩ := Option.map_eq_some_iff.1 h
    cases h
    exact (steady_readReference fuel depth hreference).map (s := ['?', 'P', '='])
      (fun g fl => Node.backref g fl.fold) fun _ _ _ _ _ => rfl
  · exact hkeep (s := ['?', '>']) (fun _ _ _ _ => rfl) h
  · refine (hgoing.branch h).map (s := ['?', '(']) (fun a _ => a) fun _ fuel depth q y => ?_
    exact Option.map_id'.symm
  · rename_i v hequal hnot _ _ hangle hquote hname hreference hatomic hopen
    cases v with
    | nil => cases h
    | cons c v =>
      by_cases hP : c = 'P'
      · subst hP
        rw [flagged_P] at h; cases h
      · have hc : c ∉ ['=', '!', '<', '\'', 'P', '>', '('] := by
          intro hmem
          simp only [List.mem_cons, List.not_mem_nil, or_false] at hmem
          rcases hmem with rfl | rfl | rfl | rfl | rfl | rfl | rfl
          · exact hequal v rfl
          · exact hnot v rfl
          · exact hangle v rfl
          · exact hquote v rfl
          · exact hP rfl
          · exact hatomic v rfl
          · exact hopen v rfl
        refine (steady_flagged hgoing h).map (s := ['?']) (fun a _ => a) fun _ fuel depth q y => ?_
        exact (groupAt_flags hc fuel depth q (v ++ y)).trans Option.map_id'.symm
  · rename_i hquestion
    cases w with
    | nil => exact absurd h (inside_nil hgoing)
    | cons c w =>
      have hc : c ≠ '?' := by rintro rfl; exact hquestion w rfl
      exact steady_inside hgoing Reading.enter (fun q => .group (q.groups + 1)) (fun _ _ _ => rfl) (fun _ _ _ => rfl)
        (fun _ => rfl) (fun _ => rfl) (s := []) (fun _ _ _ y => groupAt_plain hc _ _ _ (w ++ y)) h

theorem steady_readGroup (hgoing : Going fuel) (h : readGroup? (fuel + 1) depth r t = some (a, r', u)) :
    Steady readGroup? (fuel + 1) depth r t a r' u := by
  rw [readGroup_succ] at h
  obtain ⟨w, hskip, h⟩ := Option.bind_eq_some_iff.1 h
  exact .of_skip (fun _ _ _ => by rw [readGroup?]) readGroup_succ hskip (steady_groupAt hgoing h)

/-! ## All of them -/

theorem going_zero : Going 0 where
  choice h := by rw [readChoice?] at h; cases h
  branches h := by rw [readBranches?] at h; cases h
  parts h := by rw [readParts?] at h; cases h
  atom h := by rw [readAtom?] at h; cases h
  group h := by rw [readGroup?] at h; cases h
  branch h := by rw [readBranch?] at h; cases h

/-- One step of the readers. -/
theorem going_succ (h : ∀ f ≤ fuel, Going f) : Going (fuel + 1) where
  choice := steady_readChoice (h fuel le_rfl)
  branches := steady_readBranches (h fuel le_rfl)
  parts := steady_readParts h
  atom := steady_readAtom (h fuel le_rfl)
  group := steady_readGroup (h fuel le_rfl)
  branch := steady_readBranch (h fuel le_rfl)

/-- **The readers are steady, with any fuel.** -/
theorem going (fuel : Nat) : Going fuel := by
  induction fuel using Nat.strong_induction_on with
  | h fuel ih =>
    cases fuel with
    | zero => exact going_zero
    | succ fuel => exact going_succ fun f hf => ih f (Nat.lt_succ_of_le hf)

end

end Readout.Regex.LinePattern
