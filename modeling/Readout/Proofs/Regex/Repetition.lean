/-
  How the reader of line patterns repeats a part, and what decides whether a brace is a repetition.

  * `Trailing`: numbers and commas, and nothing else up to the end of the text.  Behind a brace, more text could
    still make them the bounds of a repetition;
  * `settled_readCounts`: but for these, the bounds do not depend on the text behind;
  * `readSuffix_append`: neither does the end of a repetition.
-/
import Readout.Proofs.Regex.Locality

namespace Readout.Regex.LinePattern

section
variable {r q : Reading} {t u w y : Text}

/-! ## Numbers up to the end of the text -/

/-- Are there only numbers and commas left, besides what is skipped? -/
inductive Trailing (r : Reading) : Text → Prop where
  | refused {t : Text} (h : r.skip? t = none) : Trailing r t
  | cut {t w : Text} (h : r.skip? t = some w) (hw : Cut w) : Trailing r t
  | next {t w : Text} {c : Char} (h : r.skip? t = some (c :: w)) (hc : c.isDigit ∨ c = ',') (hw : Trailing r w) :
    Trailing r t

theorem skip_count {c : Char} (hc : c.isDigit ∨ c = ',') : r.skip? (c :: t) = some (c :: t) := by
  refine skip_cons ?_
  rintro hmem
  simp only [List.mem_cons, List.not_mem_nil, or_false] at hmem
  rcases hmem with rfl | rfl | rfl | rfl | rfl | rfl
  all_goals exact absurd hc (by decide)

theorem Trailing.of_skip (h : r.skip? t = some w) (hw : Trailing r w) : Trailing r t := by
  have hskip := skip_skip h
  cases hw with
  | refused hw => rw [hskip] at hw; cases hw
  | cut hw hcut => rw [hskip] at hw; cases hw; exact .cut h hcut
  | next hw hc hrest => rw [hskip] at hw; cases hw; exact .next h hc hrest

theorem Trailing.of_digits : ∀ {ds : Text}, (∀ c ∈ ds, c.isDigit) → Trailing r w → Trailing r (ds ++ w)
  | [], _, hw => hw
  | c :: _, hds, hw => .next (skip_count (.inl (hds c List.mem_cons_self))) (.inl (hds c List.mem_cons_self))
      (of_digits (fun d hd => hds d (List.mem_cons_of_mem c hd)) hw)

theorem trailing_nil : Trailing r [] := .cut (skip_nil r) cut_nil

/-- A number that can be a bound. -/
def count? (t : Text) : Option (Nat × Text) := (Text.readDecimal? t).filter (·.1 < UInt64.size)

theorem readDecimal_eq (t : Text) : Text.readDecimal? t =
    if t.takeWhile Char.isDigit = [] then none
    else some (Text.decimal (t.takeWhile Char.isDigit), t.dropWhile Char.isDigit) := by
  rw [Text.readDecimal?, List.span_eq_takeWhile_dropWhile]
  rcases t.takeWhile Char.isDigit with _ | ⟨d, ds⟩
  · rfl
  · rfl

theorem Trailing.of_count {n : Nat} (h : count? t = some (n, w)) (hw : Trailing r w) : Trailing r t := by
  obtain ⟨h, -⟩ := Option.filter_eq_some_iff.1 h
  rw [readDecimal_eq] at h
  split at h
  · cases h
  · cases h
    rw [← List.takeWhile_append_dropWhile (p := Char.isDigit) (l := t)]
    exact .of_digits (fun c hc => List.mem_takeWhile_imp hc) hw

/-- Digits up to the end of the text go on if more text does; otherwise the number ends where it did. -/
theorem count_append (t : Text) : (∀ c ∈ t, c.isDigit) ∨
    ∀ y, count? (t ++ y) = (count? t).map fun x => (x.1, x.2 ++ y) := by
  by_cases hall : t.dropWhile Char.isDigit = []
  · exact .inl (List.dropWhile_eq_nil_iff.1 hall)
  · refine .inr fun y => ?_
    have hspan := span_append (y := y) (List.span_eq_takeWhile_dropWhile _ t) hall
    rw [List.span_eq_takeWhile_dropWhile, Prod.mk.injEq] at hspan
    rw [count?, count?, readDecimal_eq, readDecimal_eq, hspan.1, hspan.2]
    split
    · rfl
    · simp only [Option.filter_some]
      split
      · rfl
      · rfl

/-! ## Bounds -/

/-- The bounds of a repetition, and what is left. -/
abbrev Counts := Option (Nat × Option Nat × Text)

/-- The end of the bounds. -/
def closeCounts? (min : Nat) (max : Option Nat) (t : Text) : Counts :=
  match t with
  | '}' :: t => some (min, max, t)
  | _ => none

/-- The upper bound, if there is one, and the end. -/
def maxCounts? (r : Reading) (min : Nat) (t : Text) : Counts := do
  let (max, t) :=
    match count? t with
    | some (max, t) => (some max, t)
    | none => (none, t)
  closeCounts? min max (← r.skip? t)

/-- What follows the lower bound. -/
def restCounts? (r : Reading) (min : Nat) (t : Text) : Counts :=
  match t with
  | '}' :: t => some (min, some min, t)
  | ',' :: t => do maxCounts? r min (← r.skip? t)
  | _ => none

/-- The lower bound, which may be left out, and what follows it. -/
def minCounts? (r : Reading) (t : Text) : Counts := do
  let (min, t) ←
    match t with
    | ',' :: _ => some (0, t)
    | _ => count? t
  restCounts? r min (← r.skip? t)

theorem readCounts_eq (r : Reading) (t : Text) : readCounts? r t = (r.skip? t).bind (minCounts? r) := rfl

/-- The bounds `x` at the start of `t` are refused, though more text could make them acceptable, or they are the same
    bounds `x'` where `y` stands behind. -/
def Settled (r : Reading) (t y : Text) (x x' : Counts) : Prop :=
  x = none ∧ Trailing r t ∨ x' = x.map fun c => (c.1, c.2.1, c.2.2 ++ y)

theorem mem_of_cut {c : Char} (h : Cut (c :: t)) : c = '(' ∨ c = '?' := by
  simpa using h.subset List.mem_cons_self

theorem cut_of_suffix (ht : Cut t) (h : u <:+ t) : Cut u := h.isInfix.trans ht

section
variable {f : Reading → Text → Counts}

theorem bind_skip_of_cut (hcut : ∀ w, Cut w → f r w = none) (hw : Cut w) : (r.skip? w).bind (f r) = none := by
  rcases hskip : r.skip? w with _ | v
  · rfl
  · exact hcut v (cut_of_suffix hw (Reading.suffix_of_skip hskip))

/-- What is settled behind the text that is skipped is settled in front of it. -/
theorem settled_skip (hq : r.Alike q) (hcut : ∀ w, Cut w → f r w = none)
    (h : ∀ w, ¬ Cut w → Settled r w y (f r w) (f q (w ++ y))) (t : Text) :
    Settled r t y ((r.skip? t).bind (f r)) ((q.skip? (t ++ y)).bind (f q)) := by
  rcases hskip : r.skip? t with _ | w
  · exact .inl ⟨rfl, .refused hskip⟩
  · by_cases hw : Cut w
    · exact .inl ⟨hcut w hw, .cut hskip hw⟩
    · rw [skip_append hq hw hskip]
      rcases h w hw with ⟨hnone, htrailing⟩ | heq
      · exact .inl ⟨hnone, .of_skip hskip htrailing⟩
      · exact .inr heq

end

theorem count_of_digits (h : ∀ c ∈ t, c.isDigit) : count? t = none ∨ ∃ n, count? t = some (n, []) := by
  rw [count?, readDecimal_eq, List.dropWhile_eq_nil_iff.2 h]
  split
  · exact .inl rfl
  · rw [Option.filter_some]
    split
    · exact .inr ⟨_, rfl⟩
    · exact .inl rfl

theorem trailing_of_digits (h : ∀ c ∈ t, c.isDigit) : Trailing r t := by
  rw [← List.append_nil t]
  exact .of_digits h trailing_nil

theorem count_of_cut (h : Cut t) : count? t = none := by
  cases t with
  | nil => rfl
  | cons c t => rcases mem_of_cut h with rfl | rfl <;> rfl

/-! The stages, from the last one to the first. -/

theorem closeCounts_of_cut (min : Nat) (max : Option Nat) (hw : Cut w) : closeCounts? min max w = none := by
  cases w with
  | nil => rfl
  | cons c w => rcases mem_of_cut hw with rfl | rfl <;> rfl

theorem settled_closeCounts (min : Nat) (max : Option Nat) (hw : ¬ Cut w) :
    Settled r w y (closeCounts? min max w) (closeCounts? min max (w ++ y)) := by
  refine .inr ?_
  obtain ⟨c, w, rfl⟩ := List.exists_cons_of_ne_nil (ne_nil_of_not_cut hw)
  by_cases hc : c = '}'
  · subst hc; rfl
  · simp [closeCounts?, hc]

theorem maxCounts_of_count {min max : Nat} (h : count? t = some (max, w)) :
    maxCounts? r min t = (r.skip? w).bind (closeCounts? min (some max)) := by
  simp only [maxCounts?, h]; rfl

theorem maxCounts_of_not_count {min : Nat} (h : count? t = none) :
    maxCounts? r min t = (r.skip? t).bind (closeCounts? min none) := by
  simp only [maxCounts?, h]; rfl

theorem maxCounts_of_cut (min : Nat) (hw : Cut w) : maxCounts? r min w = none := by
  rw [maxCounts_of_not_count (count_of_cut hw)]
  exact bind_skip_of_cut (f := fun _ => closeCounts? min none) (fun _ => closeCounts_of_cut min none) hw

theorem settled_maxCounts (hq : r.Alike q) (min : Nat) (hw : ¬ Cut w) :
    Settled r w y (maxCounts? r min w) (maxCounts? q min (w ++ y)) := by
  have hsettled (max : Option Nat) (t : Text) := settled_skip (f := fun _ => closeCounts? min max) (y := y) hq
    (fun _ => closeCounts_of_cut min max) (fun _ => settled_closeCounts min max) t
  rcases count_append w with hdigits | happend
  · refine .inl ⟨?_, trailing_of_digits hdigits⟩
    rcases count_of_digits hdigits with hcount | ⟨n, hcount⟩
    · obtain ⟨c, w, rfl⟩ := List.exists_cons_of_ne_nil (ne_nil_of_not_cut hw)
      have hc : c.isDigit := hdigits c List.mem_cons_self
      have hend : c ≠ '}' := by rintro rfl; cases hc
      simp [maxCounts_of_not_count hcount, skip_count (.inl hc), closeCounts?, hend]
    · simp [maxCounts_of_count hcount, skip_nil, closeCounts?]
  · have happend := happend y
    rcases hcount : count? w with _ | ⟨max, v⟩
    · rw [hcount] at happend
      rw [maxCounts_of_not_count hcount, maxCounts_of_not_count happend]
      exact hsettled none w
    · rw [hcount] at happend
      rw [maxCounts_of_count hcount, maxCounts_of_count happend]
      exact (hsettled (some max) v).imp_left fun ⟨hnone, htrailing⟩ => ⟨hnone, .of_count hcount htrailing⟩

theorem restCounts_of_cut (min : Nat) (hw : Cut w) : restCounts? r min w = none := by
  cases w with
  | nil => rfl
  | cons c w => rcases mem_of_cut hw with rfl | rfl <;> rfl

theorem settled_restCounts (hq : r.Alike q) (min : Nat) (hw : ¬ Cut w) :
    Settled r w y (restCounts? r min w) (restCounts? q min (w ++ y)) := by
  obtain ⟨c, w, rfl⟩ := List.exists_cons_of_ne_nil (ne_nil_of_not_cut hw)
  by_cases hend : c = '}'
  · subst hend; exact .inr rfl
  by_cases hcomma : c = ','
  · subst hcomma
    exact (settled_skip (f := (maxCounts? · min ·)) hq (fun _ => maxCounts_of_cut min)
      (fun _ => settled_maxCounts hq min) w).imp_left fun ⟨hnone, htrailing⟩ =>
        ⟨hnone, .next (skip_count (.inr rfl)) (.inr rfl) htrailing⟩
  · exact .inr (by simp [restCounts?, hend, hcomma])

theorem minCounts_of_ne_comma {c : Char} (hc : c ≠ ',') : minCounts? r (c :: t) =
    (count? (c :: t)).bind fun x => (r.skip? x.2).bind (restCounts? r x.1) := by
  unfold minCounts?
  split
  · rename_i h
    exact absurd (List.cons.inj h).1 hc
  · rfl

theorem minCounts_of_cut (hw : Cut w) : minCounts? r w = none := by
  cases w with
  | nil => rfl
  | cons c w => rcases mem_of_cut hw with rfl | rfl <;> rfl

theorem settled_minCounts (hq : r.Alike q) (hw : ¬ Cut w) :
    Settled r w y (minCounts? r w) (minCounts? q (w ++ y)) := by
  have hsettled (min : Nat) (t : Text) := settled_skip (f := (restCounts? · min ·)) (y := y) hq
    (fun _ => restCounts_of_cut min) (fun _ => settled_restCounts hq min) t
  obtain ⟨c, w, rfl⟩ := List.exists_cons_of_ne_nil (ne_nil_of_not_cut hw)
  by_cases hcomma : c = ','
  · subst hcomma; exact hsettled 0 (',' :: w)
  · rw [List.cons_append, minCounts_of_ne_comma hcomma, minCounts_of_ne_comma hcomma, ← List.cons_append]
    rcases count_append (c :: w) with hdigits | happend
    · refine .inl ⟨?_, trailing_of_digits hdigits⟩
      rcases count_of_digits hdigits with hcount | ⟨n, hcount⟩
      · rw [hcount]; rfl
      · rw [hcount]; rfl
    · rw [happend y]
      rcases hcount : count? (c :: w) with _ | ⟨min, v⟩
      · exact .inr rfl
      · exact (hsettled min v).imp_left fun ⟨hnone, htrailing⟩ => ⟨hnone, .of_count hcount htrailing⟩

/-- **The bounds of a repetition do not depend on the text behind**, unless all the text that is left could belong
    to them. -/
theorem settled_readCounts (hq : r.Alike q) (t y : Text) :
    Settled r t y (readCounts? r t) (readCounts? q (t ++ y)) := by
  rw [readCounts_eq, readCounts_eq]
  exact settled_skip hq (fun _ => minCounts_of_cut) (fun _ => settled_minCounts hq) t

theorem suffix_of_count {n : Nat} (h : count? t = some (n, u)) : u <:+ t :=
  suffix_of_readDecimal (Option.filter_eq_some_iff.1 h).1

theorem suffix_of_bind_skip {min : Nat} {max : Option Nat} {f : Text → Counts}
    (hf : ∀ w, f w = some (min, max, u) → u <:+ w) (h : (r.skip? t).bind f = some (min, max, u)) : u <:+ t := by
  obtain ⟨w, hskip, h⟩ := Option.bind_eq_some_iff.1 h
  exact (hf w h).trans (Reading.suffix_of_skip hskip)

theorem suffix_of_readCounts {min : Nat} {max : Option Nat} (h : readCounts? r t = some (min, max, u)) : u <:+ t := by
  have hclose (min' : Nat) (max' : Option Nat) (w : Text) (h : closeCounts? min' max' w = some (min, max, u)) :
      u <:+ w := by
    unfold closeCounts? at h
    split at h
    · cases h; exact List.suffix_cons _ _
    · cases h
  have hmax (min' : Nat) (w : Text) (h : maxCounts? r min' w = some (min, max, u)) : u <:+ w := by
    rcases hcount : count? w with _ | ⟨n, v⟩
    · rw [maxCounts_of_not_count hcount] at h
      exact suffix_of_bind_skip (hclose min' none) h
    · rw [maxCounts_of_count hcount] at h
      exact (suffix_of_bind_skip (hclose min' (some n)) h).trans (suffix_of_count hcount)
  have hrest (min' : Nat) (w : Text) (h : restCounts? r min' w = some (min, max, u)) : u <:+ w := by
    unfold restCounts? at h
    split at h
    · cases h; exact List.suffix_cons _ _
    · exact (suffix_of_bind_skip (hmax min') h).trans (List.suffix_cons _ _)
    · cases h
  rw [readCounts_eq] at h
  refine suffix_of_bind_skip (fun w h => ?_) h
  unfold minCounts? at h
  split at h
  · exact suffix_of_bind_skip (hrest 0) h
  · obtain ⟨⟨n, v⟩, hcount, h⟩ := Option.bind_eq_some_iff.1 h
    exact (suffix_of_bind_skip (hrest n) h).trans (suffix_of_count hcount)

/-! ## Repeated parts -/

/-- The bounds that an operator stands for. -/
def bounds? (r : Reading) (t : Text) : Counts :=
  match t with
  | '?' :: t => some (0, some 1, t)
  | '*' :: t => some (0, none, t)
  | '+' :: t => some (1, none, t)
  | '{' :: t => readCounts? r t
  | _ => none

/-- The text without a given mark in front. -/
def dropMark (c : Char) (t : Text) : Text := if t.head? = some c then t.tail else t

theorem suffix_of_bounds {min : Nat} {max : Option Nat} (h : bounds? r t = some (min, max, u)) : u <:+ t := by
  unfold bounds? at h
  split at h
  · cases h; exact List.suffix_cons _ _
  · cases h; exact List.suffix_cons _ _
  · cases h; exact List.suffix_cons _ _
  · exact (suffix_of_readCounts h).trans (List.suffix_cons _ _)
  · cases h

theorem suffix_dropMark (c : Char) (t : Text) : dropMark c t <:+ t := by
  unfold dropMark
  split
  · exact List.tail_suffix t
  · exact List.suffix_refl t

theorem dropMark_append (c : Char) (h : t ≠ []) : dropMark c (t ++ y) = dropMark c t ++ y := by
  obtain ⟨d, t, rfl⟩ := List.exists_cons_of_ne_nil h
  unfold dropMark
  by_cases hd : d = c
  · subst hd; simp
  · simp [hd]

/-- The repetition of a part, lazy or possessive if its marks say so. -/
def repeat? (a : Node) (r : Reading) (min : Nat) (max : Option Nat) (t : Text) : Result Node :=
  let (greedy, t) :=
    match t with
    | '?' :: t => (false, t)
    | t => (true, t)
  let loop : Node := .loop a min max (greedy != r.flags.swapGreed)
  match t with
  | '+' :: t => some (.atomic loop, r, t)
  | t => some (loop, r, t)

theorem readSuffix_eq (a : Node) (r : Reading) (t : Text) : readSuffix? a r t = (r.skip? t).bind fun w =>
    match bounds? r w with
    | none => some (a, r, w)
    | some (min, max, v) =>
      if a = .empty ∨ max.any (· < min) then none else (r.skip? v).bind (repeat? a r min max) := rfl

theorem dropMark_of_ne {c d : Char} (h : d ≠ c) (t : Text) : dropMark c (d :: t) = d :: t := by simp [dropMark, h]

theorem exists_repeat (a : Node) (fl : Flags) (min : Nat) (max : Option Nat) (t : Text) : ∃ b, ∀ r : Reading,
    r.flags = fl → repeat? a r min max t = some (b, r, dropMark '+' (dropMark '?' t)) := by
  rcases t with _ | ⟨c, t⟩
  · exact ⟨.loop a min max (true != fl.swapGreed), fun r hr => by rw [← hr]; rfl⟩
  by_cases hc : c = '?'
  · subst hc
    rcases t with _ | ⟨d, t⟩
    · exact ⟨.loop a min max (false != fl.swapGreed), fun r hr => by rw [← hr]; rfl⟩
    by_cases hd : d = '+'
    · subst hd
      exact ⟨.atomic (.loop a min max (false != fl.swapGreed)), fun r hr => by rw [← hr]; rfl⟩
    · refine ⟨.loop a min max (false != fl.swapGreed), fun r hr => ?_⟩
      have hmarks : dropMark '+' (dropMark '?' ('?' :: d :: t)) = d :: t := dropMark_of_ne hd t
      simp [repeat?, hmarks, hr, hd]
  · by_cases hc' : c = '+'
    · subst hc'
      exact ⟨.atomic (.loop a min max (true != fl.swapGreed)), fun r hr => by rw [← hr]; rfl⟩
    · refine ⟨.loop a min max (true != fl.swapGreed), fun r hr => ?_⟩
      rw [dropMark_of_ne hc, dropMark_of_ne hc']
      simp [repeat?, hr, hc, hc']

/-- A part is left as it is, or else it is not empty and there are bounds. -/
theorem readSuffix_eq_some {a b : Node} {r' : Reading} (h : readSuffix? a r t = some (b, r', u)) :
    r' = r ∧ ∃ w, r.skip? t = some w ∧
      (bounds? r w = none ∧ b = a ∧ u = w ∨ a ≠ .empty ∧ ∃ min max v v', bounds? r w = some (min, max, v) ∧
        r.skip? v = some v' ∧ u = dropMark '+' (dropMark '?' v')) := by
  rw [readSuffix_eq] at h
  obtain ⟨w, hskip, h⟩ := Option.bind_eq_some_iff.1 h
  rcases hbounds : bounds? r w with _ | ⟨min, max, v⟩
  · rw [hbounds] at h
    cases h
    exact ⟨rfl, _, hskip, .inl ⟨hbounds, rfl, rfl⟩⟩
  · rw [hbounds] at h
    simp only at h
    split at h
    · cases h
    · rename_i hempty
      obtain ⟨v', hskip', h⟩ := Option.bind_eq_some_iff.1 h
      obtain ⟨b', hb'⟩ := exists_repeat a r.flags min max v'
      rw [hb' r rfl] at h
      cases h
      exact ⟨rfl, w, hskip, .inr ⟨fun ha => hempty (.inl ha), min, max, v, v', hbounds, hskip', rfl⟩⟩

theorem suffix_of_readSuffix {a b : Node} {r' : Reading} (h : readSuffix? a r t = some (b, r', u)) : u <:+ t := by
  obtain ⟨-, w, hskip, ⟨-, -, rfl⟩ | ⟨-, min, max, v, v', hbounds, hskip', rfl⟩⟩ := readSuffix_eq_some h
  · exact Reading.suffix_of_skip hskip
  · exact (((suffix_dropMark _ _).trans (suffix_dropMark _ _)).trans (Reading.suffix_of_skip hskip')).trans
      ((suffix_of_bounds hbounds).trans (Reading.suffix_of_skip hskip))

theorem readSuffix_alias (e : Text × Nat) (bound : Nat) (a : Node) (t : Text) : readSuffix? a (r.alias e bound) t =
    (readSuffix? a r t).map fun x => (x.1, x.2.1.alias e bound, x.2.2) := by
  rw [readSuffix_eq, readSuffix_eq, alias_skip, Option.map_bind]
  congr 1
  funext w
  have hbounds : bounds? (r.alias e bound) w = bounds? r w := rfl
  rw [Function.comp_apply, hbounds]
  rcases bounds? r w with _ | ⟨min, max, v⟩
  · rfl
  simp only [alias_skip]
  split
  · rfl
  rcases r.skip? v with _ | v
  · rfl
  · obtain ⟨b, hb⟩ := exists_repeat a r.flags min max v
    rw [Option.bind_some, Option.bind_some, hb r rfl, hb (r.alias e bound) rfl]; rfl

/-- The bounds do not depend on the text behind, unless what follows a brace is trailing. -/
theorem settled_bounds (hq : r.Alike q) (hw : ¬ Cut w) :
    bounds? q (w ++ y) = (bounds? r w).map (fun c => (c.1, c.2.1, c.2.2 ++ y)) ∨
      bounds? r w = none ∧ ∃ v, w = '{' :: v ∧ Trailing r v := by
  obtain ⟨c, w, rfl⟩ := List.exists_cons_of_ne_nil (ne_nil_of_not_cut hw)
  by_cases hbrace : c = '{'
  · subst hbrace
    rcases settled_readCounts hq w y with ⟨hnone, htrailing⟩ | heq
    · exact .inr ⟨hnone, w, rfl, htrailing⟩
    · exact .inl heq
  by_cases hmark : c ∈ ['?', '*', '+']
  · simp only [List.mem_cons, List.not_mem_nil, or_false] at hmark
    rcases hmark with rfl | rfl | rfl
    all_goals exact .inl rfl
  · simp only [List.mem_cons, List.not_mem_nil, or_false, not_or] at hmark
    simp [bounds?, hbrace, hmark]

/-- **The end of a repetition does not depend on the text behind**, unless what follows a brace is trailing. -/
theorem readSuffix_append {a a' b b' : Node} {r' q' : Reading} {z : Text} (hq : r.Alike q) (hu : ¬ Cut u)
    (h : readSuffix? a r t = some (b, r', u)) (h' : readSuffix? a' q (t ++ y) = some (b', q', z)) :
    z = u ++ y ∨ ∃ w, u = '{' :: w ∧ Trailing r w := by
  obtain ⟨-, w, hskip, hread⟩ := readSuffix_eq_some h
  obtain ⟨-, w', hskip', hread'⟩ := readSuffix_eq_some h'
  have hw : u <:+ w := by
    rcases hread with ⟨-, -, rfl⟩ | ⟨-, min, max, v, v', hbounds, hskip', rfl⟩
    · exact List.suffix_refl _
    · exact (((suffix_dropMark _ _).trans (suffix_dropMark _ _)).trans (Reading.suffix_of_skip hskip')).trans
        (suffix_of_bounds hbounds)
  rw [skip_append hq (not_cut_of_suffix hu hw) hskip] at hskip'
  cases hskip'
  rcases settled_bounds (y := y) hq (not_cut_of_suffix hu hw) with heq | ⟨hnone, v, rfl, htrailing⟩
  · refine .inl ?_
    rcases hread with ⟨hnone, -, rfl⟩ | ⟨-, min, max, v, v', hbounds, hskip, rfl⟩
    · rw [hnone] at heq
      rcases hread' with ⟨-, -, rfl⟩ | ⟨-, min', max', v', v'', hbounds', -⟩
      · rfl
      · rw [heq] at hbounds'; cases hbounds'
    · rw [hbounds] at heq
      rcases hread' with ⟨hnone', -⟩ | ⟨-, min', max', _, v'', hbounds', hskip', rfl⟩
      · rw [heq] at hnone'; cases hnone'
      · rw [heq] at hbounds'
        cases hbounds'
        have hmark := ne_nil_of_not_cut (not_cut_of_suffix hu (suffix_dropMark _ _))
        have hv' := not_cut_of_suffix hu ((suffix_dropMark _ _).trans (suffix_dropMark _ _))
        rw [skip_append hq hv' hskip] at hskip'
        cases hskip'
        rw [dropMark_append _ (ne_nil_of_not_cut hv'), dropMark_append _ hmark]
  · rcases hread with ⟨-, -, rfl⟩ | ⟨-, min, max, v', v'', hbounds, -⟩
    · exact .inr ⟨v, rfl, htrailing⟩
    · rw [hnone] at hbounds; cases hbounds

end

end Readout.Regex.LinePattern
