/-
  What is read inside a group.

  * `Reads` tells how the reader of patterns over commands goes to the end of a text, act by act;
    `readAll_eq_some_iff`: it is what the reader computes;
  * `Reading.over`: a reading with more groups open around it;
  * `Reads.close`: what can be read by itself can be read in front of a parenthesis, inside of groups, unless it ends
    in a comment;
  * `Reads.of_over`: if a group is closed in the end, what stands in front of its parenthesis can be read by itself.
-/
import Readout.Proofs.Regex.Lookahead.Acts

namespace Readout.Regex.CommandPattern

/-! ## Reading to the end -/

/-- Does the reader come from `r` to `r'` at the end of the text? -/
inductive Reads : Reading → Text → Reading → Prop where
  | done {r : Reading} {t : Text} (h : r.flags.skipSpace t = []) : Reads r t r
  | act {r r₁ r' : Reading} {t u : Text} {a : Act} (hread : readAct? r.flags (r.flags.skipSpace t) = some (a, u))
      (hperform : r.perform a = some r₁) (hrest : Reads r₁ u r') : Reads r t r'

section
variable {r r₁ r' : Reading} {fl : Flags} {t u : Text} {a : Act}

theorem reads_iff_of_act (hread : readAct? r.flags (r.flags.skipSpace t) = some (a, u))
    (hperform : r.perform a = some r₁) : Reads r t r' ↔ Reads r₁ u r' := by
  constructor
  · rintro (hskip | ⟨hread', hperform', hrest⟩)
    · rw [hskip] at hread
      cases hread
    · cases hread'.symm.trans hread
      cases hperform'.symm.trans hperform
      exact hrest
  · exact .act hread hperform

theorem Reads.of_skip (hskip : r.flags.skipSpace t = r.flags.skipSpace u) (h : Reads r t r') : Reads r u r' := by
  cases h with
  | done h => exact .done (hskip ▸ h)
  | act hread hperform hrest => exact .act (hskip ▸ hread) hperform hrest

theorem reads_nil_iff : Reads r [] r' ↔ r' = r := by
  constructor
  · rintro (_ | ⟨hread, -, -⟩)
    · rfl
    · rw [skipSpace_empty] at hread
      cases hread
  · rintro rfl
    exact .done (skipSpace_empty _)

theorem readAll_succ (fuel : Nat) (r : Reading) (t : Text) : readAll? (fuel + 1) r t =
    if r.flags.skipSpace t = [] then some r
    else (readAct? r.flags (r.flags.skipSpace t)).bind fun (a, u) => (r.perform a).bind (readAll? fuel · u) := by
  rw [readAll?]
  rcases r.flags.skipSpace t with _ | ⟨c, w⟩
  · rfl
  · simp only [if_neg (List.cons_ne_nil c w), readNext?_eq]
    rcases readAct? r.flags (c :: w) with _ | ⟨a, u⟩
    · rfl
    · change ((r.perform a).map (·, u)).bind _ = (r.perform a).bind _
      cases r.perform a <;> rfl

/-- **The reader goes from act to act**, as far as the text does. -/
theorem readAll_eq_some_iff {fuel : Nat} (hfuel : t.length < fuel) : readAll? fuel r t = some r' ↔ Reads r t r' := by
  induction fuel generalizing r t with
  | zero => cases hfuel
  | succ fuel ih =>
    rw [readAll_succ]
    split
    · rename_i hskip
      constructor
      · intro h
        cases h
        exact .done hskip
      · rintro (_ | ⟨hread, -, -⟩)
        · rfl
        · rw [hskip] at hread
          cases hread
    · rename_i hskip
      simp only [Option.bind_eq_some_iff]
      have hshorter {a : Act} {u : Text} (hread : readAct? r.flags (r.flags.skipSpace t) = some (a, u)) :
          u.length < fuel := by
        obtain ⟨used, rfl, hne, -⟩ := readNext_takes hread
        have hpos : 0 < used.length := List.length_pos_iff.2 hne
        rw [List.length_append] at hfuel
        omega
      constructor
      · rintro ⟨⟨a, u⟩, hread, r₁, hperform, hrest⟩
        exact .act hread hperform ((ih (hshorter hread)).1 hrest)
      · rintro (h | ⟨hread, hperform, hrest⟩)
        · exact absurd h hskip
        · exact ⟨_, hread, _, hperform, (ih (hshorter hread)).2 hrest⟩

/-- Reads a text as a part, by itself and under some flags. -/
def read? (fl : Flags) (t : Text) : Option Part :=
  (readAll? (t.length + 1) { flags := fl } t).bind fun r => if r.openings.isEmpty then some r.scope.part else none

theorem read_eq_some_iff {p : Part} :
    read? fl t = some p ↔ ∃ r, Reads { flags := fl } t r ∧ r.openings = [] ∧ r.scope.part = p := by
  simp only [read?, Option.bind_eq_some_iff, readAll_eq_some_iff (Nat.lt_succ_self _), List.isEmpty_iff,
    Option.ite_none_right_eq_some, Option.some.injEq]

/-- **An expression is read by itself**, and accepted within the limits. -/
theorem parse_eq_some_iff {p : CommandPattern} : parse? t = some p ↔
    ∃ q, read? {} t = some q ∧ q.isAdmitted ∧ ⟨q.node⟩ = p := by
  have hparse : parse? t = (readAll? (t.length + 1) {} t).bind fun r =>
      if r.openings.isEmpty && r.scope.part.isAdmitted then some ⟨r.scope.part.node⟩ else none := rfl
  rw [hparse, read?]
  rcases readAll? (t.length + 1) {} t with _ | r
  · simp
  · rcases r.openings with _ | ⟨o, os⟩ <;> simp [and_assoc]

/-! ## Groups around a reading -/

/-- The reading with groups open around it. -/
def Reading.over (r : Reading) (os : List Opening) : Reading := { r with openings := r.openings ++ os }

theorem Reading.over_nil (r : Reading) : r.over [] = r := by rw [Reading.over, List.append_nil]

/-- Groups around a reading only matter to an act that closes a group there. -/
theorem perform_over (h : a = .close → r.openings ≠ []) (os : List Opening) :
    (r.over os).perform a = (r.perform a).map (·.over os) := by
  cases a with
  | push | bar | group | switch => rfl
  | close =>
    obtain ⟨o, os', ho⟩ := List.exists_cons_of_ne_nil (h rfl)
    simp [Reading.perform, Reading.close?, Reading.over, ho]
  | again min max greedy =>
    simp only [Reading.perform, Reading.repeat?, Reading.over]
    rcases r.scope.parts with _ | ⟨p, ps⟩
    · rfl
    · dsimp only
      split <;> rfl
  | capture name =>
    cases name with
    | none => rfl
    | some name =>
      have hnames : (r.over os).names = r.names := rfl
      simp only [Reading.perform, hnames]
      split <;> rfl

end

/-! ## In front of a parenthesis -/

/-- Does the text end, or close a group? -/
def Closing (v : Text) : Prop := ∀ c ∈ v.head?, c = ')'

theorem closing_nil : Closing [] := fun _ hc => by cases hc

theorem closing_cons (v : Text) : Closing (')' :: v) := fun _ hc => (Option.some.inj hc).symm

section
variable {r r₁ r' : Reading} {fl : Flags} {t u v w : Text} {a : Act}

theorem opensName_singleton (c : Char) : opensName [c] = false := by
  unfold opensName
  split
  · rename_i heq
    cases heq
  · rfl

theorem opensName_cons_cons (c d : Char) (t : Text) :
    opensName (c :: d :: t) = (decide (c = '\x7b') && (d.isAlpha || d = '-')) := by
  unfold opensName
  split
  · rename_i heq
    cases heq
    rfl
  · rename_i hne
    by_cases hc : c = '\x7b'
    · exact absurd (by rw [hc]) (hne d t)
    · simp [hc]

theorem front_closing (hw : Closing w) (u : Text) : Front fl (u ++ v) (u ++ w) := by
  have hcases {v : Text} (hv : Closing v) : v = [] ∨ ∃ v', v = ')' :: v' := by
    rcases v with _ | ⟨c, v⟩
    · exact .inl rfl
    · exact .inr ⟨v, by rw [hv c rfl]⟩
  have hskip {v : Text} (hv : Closing v) : fl.skipSpace v = v := by
    rcases hcases hv with rfl | ⟨v, rfl⟩
    · exact skipSpace_empty fl
    · exact skipSpace_cons (by decide) rfl v
  rcases u with _ | ⟨c, u⟩
  · refine ⟨fun _ => ?_, fun _ => ?_, fun _ => hskip hw⟩ <;> rcases hcases hw with rfl | ⟨w, rfl⟩ <;>
      first | rfl | nofun
  · refine ⟨id, ?_, fun h => ?_⟩
    · rcases u with _ | ⟨d, u⟩
      · intro _
        rcases hcases hw with rfl | ⟨w, rfl⟩
        · exact opensName_singleton c
        · exact (opensName_cons_cons c ')' w).trans (Bool.and_false _)
      · exact fun h => (opensName_cons_cons c d _).trans ((opensName_cons_cons c d _).symm.trans h)
    · obtain ⟨-, -, -, hstop⟩ := skipSpace_through h
      exact hstop _

/-- **What can be read by itself can be read in front of a parenthesis**, inside of groups, unless it ends in a
    comment. -/
theorem Reads.close (h : Reads r t r') :
    (∀ os v r'', Reads (r'.over os) (')' :: v) r'' → Reads (r.over os) (t ++ ')' :: v) r'') ∨
      ∀ os v, '\n' ∉ v → Reads (r.over os) (t ++ ')' :: v) (r'.over os) := by
  induction h with
  | done hskip =>
    rcases skipSpace_nil hskip with hgo | hcomment
    · exact .inl fun os v r'' h => h.of_skip (r := Reading.over _ os) (hgo (')' :: v)).symm
    · exact .inr fun os v hnl => .done (r := Reading.over _ os) (hcomment _ (by simpa using hnl))
  | @act r r₁ r' t u a hread hperform hrest ih =>
    have hover (os : List Opening) : (r.over os).perform a = some (r₁.over os) := by
      have hclose : a = .close → r.openings ≠ [] := by
        rintro rfl hnil
        simp [Reading.perform, Reading.close?, hnil] at hperform
      rw [perform_over hclose, hperform]
      rfl
    obtain ⟨used, rfl, -, htakes | ⟨rfl, hcomment⟩⟩ := readNext_takes hread
    · have hstep (v : Text) :
          readAct? r.flags (r.flags.skipSpace (used ++ u ++ ')' :: v)) = some (a, u ++ ')' :: v) := by
        rw [List.append_assoc]
        refine htakes _ ?_
        have hfront : Front r.flags (u ++ []) (u ++ ')' :: v) := front_closing (closing_cons v) u
        rwa [List.append_nil] at hfront
      refine ih.imp (fun h os v r'' hr => ?_) fun h os v hnl => ?_
      · exact .act (r := r.over os) (hstep v) (hover os) (h os v r'' hr)
      · exact .act (r := r.over os) (hstep v) (hover os) (h os v hnl)
    · -- the act ends in a comment
      refine .inr fun os v hnl => ?_
      obtain rfl := reads_nil_iff.1 hrest
      rw [List.append_nil]
      exact .act (r := r.over os) (hcomment _ (by simpa using hnl)) (hover os) (reads_nil_iff.2 rfl)

/-- Only a parenthesis closes a group. -/
theorem eq_of_readAct_close (h : readAct? fl t = some (.close, u)) : t = ')' :: u := by
  rcases readAct_cases h with ⟨-, ht⟩ | ⟨-, _, _, _, ha⟩ | ⟨hne, -⟩
  · exact ht
  · cases ha
  · exact absurd rfl hne

/-- **If a group is closed in the end, what stands in front of its parenthesis can be read by itself**, but not together
    with the parenthesis. -/
theorem Reads.of_over {o : Opening} (h : Reads (r.over [o]) t r') (hclosed : r'.openings = []) :
    ∃ u v r₁, t = u ++ ')' :: v ∧ Reads r u r₁ ∧ r₁.openings = [] ∧ Reads (r₁.over [o]) (')' :: v) r' ∧
      ∀ r₂, ¬ Reads r (u ++ [')']) r₂ := by
  generalize hover : r.over [o] = ro at h
  induction h generalizing r with
  | done hskip =>
    subst hover
    exact absurd hclosed (by simp [Reading.over])
  | @act ro r₁ r' t u a hread hperform hrest ih =>
    subst hover
    have hflags : (r.over [o]).flags = r.flags := rfl
    rw [hflags] at hread
    by_cases hclose : a = .close ∧ r.openings = []
    · obtain ⟨rfl, hopenings⟩ := hclose
      -- the parenthesis closes the group
      obtain ⟨skipped, rfl, hgo, hstop⟩ := skipSpace_through (eq_of_readAct_close hread)
      have hskip (v : Text) : r.flags.skipSpace (skipped ++ ')' :: v) = ')' :: v := by rw [hgo, hstop]
      refine ⟨skipped, u, r, rfl, .done ?_, hopenings, ?_, fun r₂ h => ?_⟩
      · have hnil := hgo []
        rw [List.append_nil] at hnil
        rw [hnil, skipSpace_empty]
      · have hread' : readAct? (r.over [o]).flags ((r.over [o]).flags.skipSpace (')' :: u)) = some (.close, u) := by
          rw [hflags, hstop]
          rfl
        exact .act hread' hperform hrest
      · rcases h with h | ⟨hread', hperform', -⟩
        · rw [hskip] at h
          cases h
        · rw [hskip] at hread'
          cases hread'
          simp [Reading.perform, Reading.close?, hopenings] at hperform'
    · rw [perform_over (by tauto)] at hperform
      obtain ⟨r₂, hperform₂, rfl⟩ := Option.map_eq_some_iff.1 hperform
      obtain ⟨w, v, r₃, rfl, hread₃, hopenings, hrest₃, hnot⟩ := ih hclosed rfl
      obtain ⟨used, rfl, -, htakes | ⟨hnil, -⟩⟩ := readNext_takes hread
      · have hstep (v' : Text) (hv' : Closing v') : readAct? r.flags (r.flags.skipSpace (used ++ (w ++ v'))) =
            some (a, w ++ v') := htakes _ (front_closing hv' w)
        have hself := hstep [] closing_nil
        rw [List.append_nil] at hself
        refine ⟨used ++ w, v, r₃, by simp, .act hself hperform₂ hread₃, hopenings, hrest₃, fun r₄ h => ?_⟩
        rw [List.append_assoc] at h
        exact hnot r₄ ((reads_iff_of_act (hstep _ (closing_cons [])) hperform₂).1 h)
      · exact absurd hnil (by simp)

end

end Readout.Regex.CommandPattern
