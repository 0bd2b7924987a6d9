/-
  How far the reader of patterns over commands looks: white space and escapes.

  What a reader takes off a text is read in the same way whatever stands behind it, but for a few things.  Where white
  space is skipped, a comment goes on up to the end of its line, and a name in braces belongs to the `\b` in front
  of it.

  * `Takes`: a reader takes a text off, whatever stands behind it;
  * `skipSpace_takes`, `skipSpace_nil`: what is skipped;
  * `readElement_takes`: what an escape takes off.
-/
import Readout.Proofs.Text.Lines
import Readout.Regex.CommandPattern

namespace Readout.Regex

/-- Does a reader take `used` off a text and read `a`, whatever stands behind? -/
def Takes {α : Type} (read : Text → Option (α × Text)) (used : Text) (a : α) : Prop :=
  ∀ v, read (used ++ v) = some (a, v)

section
variable {t u : Text} {c : Char}

theorem eq_of_span {p : Char → Bool} {ds : Text} (h : t.span p = (ds, c :: u)) :
    t = ds ++ c :: u ∧ p c = false ∧ ∀ v, (ds ++ c :: v).span p = (ds, c :: v) := by
  rw [List.span_eq_takeWhile_dropWhile, Prod.mk.injEq] at h
  obtain ⟨rfl, hdrop⟩ := h
  have hc : p c = false := by
    have hhead := List.head?_dropWhile_not p t
    rw [hdrop] at hhead
    simpa using hhead
  refine ⟨by rw [← hdrop, List.takeWhile_append_dropWhile], hc, Text.span_append ?_ hc⟩
  exact fun d hd => List.mem_takeWhile_imp hd

/-! ## White space -/

theorem skipSpaceFrom_takes : ∀ {b : Bool} {t : Text}, skipSpaceFrom b t = c :: u → ∃ used, t = used ++ c :: u ∧
    (∀ v, skipSpaceFrom b (used ++ v) = skipSpaceFrom false v) ∧ ∀ v, skipSpaceFrom false (c :: v) = c :: v
  | true, d :: t, h => by
    obtain ⟨used, rfl, hv⟩ := skipSpaceFrom_takes (b := d != '\n') (t := t) h
    exact ⟨d :: used, rfl, hv⟩
  | false, d :: t, h => by
    rw [skipSpaceFrom] at h
    split at h
    · rename_i hd
      obtain ⟨used, rfl, hv, hstop⟩ := skipSpaceFrom_takes h
      exact ⟨d :: used, rfl, fun v => by rw [List.cons_append, skipSpaceFrom, if_pos hd, hv], hstop⟩
    · rename_i hd
      split at h
      · rename_i hspace
        obtain ⟨used, rfl, hv, hstop⟩ := skipSpaceFrom_takes h
        refine ⟨d :: used, rfl, fun v => ?_, hstop⟩
        rw [List.cons_append, skipSpaceFrom, if_neg hd, if_pos hspace, hv]
      · rename_i hspace
        cases h
        exact ⟨[], rfl, fun _ => rfl, fun v => by rw [skipSpaceFrom, if_neg hd, if_neg hspace]⟩

/-- Where all is skipped, the text behind is skipped as well, or belongs to a comment up to the end of its line. -/
theorem skipSpaceFrom_nil : ∀ {b : Bool} {t : Text}, skipSpaceFrom b t = [] →
    (∀ v, skipSpaceFrom b (t ++ v) = skipSpaceFrom false v) ∨ ∀ v, '\n' ∉ v → skipSpaceFrom b (t ++ v) = []
  | true, [], _ => .inr fun v hv => by
    induction v with
    | nil => rfl
    | cons c v ih =>
      obtain ⟨hc, hv⟩ := not_or.1 (mt List.mem_cons.2 hv)
      have hgo : (c != '\n') = true := by simpa using Ne.symm hc
      rw [List.nil_append, skipSpaceFrom, hgo]
      exact ih hv
  | false, [], _ => .inl fun _ => rfl
  | true, c :: t, h => by
    exact skipSpaceFrom_nil (b := c != '\n') (t := t) h
  | false, c :: t, h => by
    rw [skipSpaceFrom] at h
    split at h
    · rename_i hc
      simp only [List.cons_append, skipSpaceFrom, if_pos hc]
      exact skipSpaceFrom_nil h
    · rename_i hc
      split at h
      · rename_i hspace
        simp only [List.cons_append, skipSpaceFrom, if_neg hc, if_pos hspace]
        exact skipSpaceFrom_nil h
      · cases h

variable {fl : Flags}

theorem skipSpace_empty (fl : Flags) : fl.skipSpace [] = [] := by
  unfold Flags.skipSpace
  split <;> rfl

theorem skipSpace_cons (hc : c ≠ '#') (hsolid : Unicode.isSpace c = false) (t : Text) :
    fl.skipSpace (c :: t) = c :: t := by
  unfold Flags.skipSpace
  split
  · rw [skipSpaceFrom, if_neg hc, if_neg (by rw [hsolid]; exact Bool.false_ne_true)]
  · rfl

/-- What is skipped in front of a character is skipped in front of any text. -/
theorem skipSpace_through (h : fl.skipSpace t = c :: u) : ∃ used, t = used ++ c :: u ∧
    (∀ v, fl.skipSpace (used ++ v) = fl.skipSpace v) ∧ ∀ v, fl.skipSpace (c :: v) = c :: v := by
  unfold Flags.skipSpace at h ⊢
  split
  · rw [if_pos ‹_›] at h
    exact skipSpaceFrom_takes h
  · rw [if_neg ‹_›] at h
    subst h
    exact ⟨[], rfl, fun _ => rfl, fun _ => rfl⟩

theorem skipSpace_takes (h : fl.skipSpace t = c :: u) :
    ∃ used, t = used ++ c :: u ∧ ∀ v, fl.skipSpace (used ++ c :: v) = c :: v := by
  obtain ⟨used, ht, hv, hstop⟩ := skipSpace_through h
  exact ⟨used, ht, fun v => (hv _).trans (hstop v)⟩

theorem skipSpace_nil (h : fl.skipSpace t = []) :
    (∀ v, fl.skipSpace (t ++ v) = fl.skipSpace v) ∨ ∀ v, '\n' ∉ v → fl.skipSpace (t ++ v) = [] := by
  unfold Flags.skipSpace at h ⊢
  split
  · rw [if_pos ‹_›] at h
    exact skipSpaceFrom_nil h
  · rw [if_neg ‹_›] at h
    subst h
    exact .inl fun _ => rfl

theorem suffix_skipSpace (t : Text) : fl.skipSpace t <:+ t := by
  rcases h : fl.skipSpace t with _ | ⟨c, u⟩
  · exact List.nil_suffix
  · obtain ⟨used, rfl, -⟩ := skipSpace_takes h
    exact List.suffix_append _ _

end

/-! ## Escapes -/

section
variable {t u : Text} {fl : Flags}

theorem braced_takes : ∀ {comment : Bool} {t ds : Text}, fl.braced? comment t = some (ds, u) →
    ∃ used, t = used ++ u ∧ Takes (fl.braced? comment) used ds
  | true, c :: t, ds, h => by
    have hrest : fl.braced? (c != '\n') t = some (ds, u) := h
    obtain ⟨used, rfl, hv⟩ := braced_takes hrest
    exact ⟨c :: used, rfl, hv⟩
  | false, c :: t, ds, h => by
    rw [Flags.braced?] at h
    split at h
    · rename_i hc
      cases h
      exact ⟨[c], rfl, fun v => if_pos hc⟩
    · rename_i hc
      split at h
      · rename_i hcomment
        obtain ⟨used, rfl, hv⟩ := braced_takes h
        refine ⟨c :: used, rfl, fun v => ?_⟩
        rw [List.cons_append, Flags.braced?, if_neg hc, if_pos hcomment, hv]
      · rename_i hcomment
        split at h
        · rename_i hspace
          obtain ⟨used, rfl, hv⟩ := braced_takes h
          refine ⟨c :: used, rfl, fun v => ?_⟩
          rw [List.cons_append, Flags.braced?, if_neg hc, if_neg hcomment, if_pos hspace, hv]
        · rename_i hspace
          obtain ⟨⟨ds', u'⟩, hds, h⟩ := Option.map_eq_some_iff.1 h
          cases h
          obtain ⟨used, rfl, hv⟩ := braced_takes hds
          refine ⟨c :: used, rfl, fun v => ?_⟩
          rw [List.cons_append, Flags.braced?, if_neg hc, if_neg hcomment, if_neg hspace, hv]
          rfl

theorem take_takes : ∀ {n : Nat} {t ds : Text}, fl.take? n t = some (ds, u) →
    ∃ used, t = used ++ u ∧ (0 < n → used ≠ []) ∧ Takes (fl.take? n) used ds
  | 0, _, _, h => by
    cases h
    exact ⟨[], rfl, fun hn => absurd hn (Nat.lt_irrefl _), fun _ => rfl⟩
  | n + 1, t, ds, h => by
    rw [Flags.take?] at h
    split at h
    · cases h
    · rename_i c t' hskip
      obtain ⟨skipped, rfl, hskipped⟩ := skipSpace_takes hskip
      obtain ⟨⟨ds', u'⟩, hds, h⟩ := Option.map_eq_some_iff.1 h
      cases h
      obtain ⟨used, rfl, -, hv⟩ := take_takes hds
      refine ⟨skipped ++ c :: used, by simp, fun _ => by simp, fun v => ?_⟩
      rw [List.append_assoc, List.cons_append, Flags.take?, hskipped]
      simp only [hv v, Option.map_some]

/-- What belongs to an escape does not depend on what stands behind it. -/
theorem argument_takes {width : Nat} (hwidth : 0 < width) {braces : Bool} {s : Text}
    (h : fl.argument? width t = some (braces, s, u)) :
    ∃ used, t = used ++ u ∧ ∀ v, fl.argument? width (used ++ v) = some (braces, s, v) := by
  unfold Flags.argument? at h
  split at h
  · rename_i t' hskip
    obtain ⟨skipped, rfl, hskipped⟩ := skipSpace_takes hskip
    obtain ⟨⟨ds, u'⟩, hds, h⟩ := Option.map_eq_some_iff.1 h
    cases h
    obtain ⟨used, rfl, hv⟩ := braced_takes hds
    refine ⟨skipped ++ '\x7b' :: used, by simp, fun v => ?_⟩
    rw [Flags.argument?, List.append_assoc, List.cons_append, hskipped]
    simp only [hv v, Option.map_some]
  · rename_i hbrace
    obtain ⟨⟨ds, u'⟩, hds, h⟩ := Option.map_eq_some_iff.1 h
    cases h
    obtain ⟨used, hused, hne, hv⟩ := take_takes hds
    obtain ⟨c, used', rfl⟩ := List.exists_cons_of_ne_nil (hne hwidth)
    obtain ⟨skipped, rfl, hskipped⟩ := skipSpace_takes hused
    refine ⟨skipped ++ c :: used', by simp, fun v => ?_⟩
    rw [Flags.argument?, List.append_assoc, List.cons_append, hskipped]
    split
    · rename_i heq
      obtain ⟨rfl, -⟩ := List.cons.inj heq
      exact absurd hused (hbrace _)
    · rename_i heq
      rw [← List.cons_append, hv v]
      rfl

theorem readHex_takes {width : Nat} (hwidth : 0 < width) {most : Option Nat} {c : Char}
    (h : readHex? fl width most t = some (c, u)) :
    ∃ used, t = used ++ u ∧ Takes (readHex? fl width most) used c := by
  obtain ⟨⟨braces, ds, u'⟩, harg, h⟩ := Option.bind_eq_some_iff.1 h
  obtain ⟨d, hd, h⟩ := Option.map_eq_some_iff.1 h
  cases h
  obtain ⟨used, rfl, hv⟩ := argument_takes hwidth harg
  exact ⟨used, rfl, fun v => by simp only [readHex?, hv v, Option.bind_some, hd, Option.map_some]⟩

theorem readProperty_takes {s : CharSet} (h : Element.readProperty? fl t = some (s, u)) :
    ∃ used, t = used ++ u ∧ Takes (Element.readProperty? fl) used s := by
  unfold Element.readProperty? at h
  split at h
  · rename_i hunicode
    obtain ⟨⟨braces, name, u'⟩, harg, h⟩ := Option.bind_eq_some_iff.1 h
    obtain ⟨s', hs, h⟩ := Option.map_eq_some_iff.1 h
    cases h
    obtain ⟨used, rfl, hv⟩ := argument_takes Nat.one_pos harg
    refine ⟨used, rfl, fun v => ?_⟩
    simp only [Element.readProperty?, if_pos hunicode, hv v, Option.bind_some, hs, Option.map_some]
  · cases h

/-- Does the text go on with a name in braces? -/
def opensName : Text → Bool
  | '{' :: c :: _ => c.isAlpha || c = '-'
  | _ => false

theorem readEdge_of_not_opensName {v : Text} (h : opensName v = false) :
    Element.readEdge? v = some (.edge, v) := by
  unfold Element.readEdge?
  split
  · rename_i c rest
    rw [if_neg]
    simpa [opensName] using h
  · rfl

theorem edge_ne_edge {name : Text} {e : Edge} (h : Element.edge? name = some e) : e ≠ .edge := by
  rintro rfl
  unfold Element.edge? at h
  split_ifs at h
  all_goals cases h

/-- Behind `\b`, a name in braces is taken off, or nothing. -/
theorem readEdge_takes {e : Edge} (h : Element.readEdge? t = some (e, u)) :
    (∃ used, t = used ++ u ∧ e ≠ .edge ∧ Takes Element.readEdge? used e) ∨
      t = u ∧ e = .edge ∧ opensName t = false := by
  cases hname : opensName t
  · rw [readEdge_of_not_opensName hname] at h
    cases h
    exact .inr ⟨rfl, rfl, rfl⟩
  · refine .inl ?_
    unfold opensName at hname
    split at hname
    · rename_i c rest
      rw [Element.readEdge?, if_pos (by simpa using hname)] at h
      split at h
      · rename_i name rest' hspan
        obtain ⟨hrest, -, hv⟩ := eq_of_span hspan
        obtain ⟨a, ha, h⟩ := Option.map_eq_some_iff.1 h
        cases h
        refine ⟨'{' :: name ++ ['}'], ?_, edge_ne_edge ha, fun v => ?_⟩
        · simp [hrest]
        · -- the name starts with the character that opens it
          rcases name with _ | ⟨d, name⟩
          · cases ha
          · obtain ⟨rfl, -⟩ := List.cons.inj hrest
            have happend : '{' :: (c :: name) ++ ['}'] ++ v = '{' :: c :: (name ++ '}' :: v) := by simp
            have hspan' := hv v
            rw [List.cons_append] at hspan'
            rw [happend, Element.readEdge?, if_pos (by simpa using hname), hspan']
            simp only [ha]
            rfl
      · cases h
    · cases hname

/-- Does an escape that starts with `c` take off a text in front of `u`, whatever else stands there?  Only behind `\b`
    there must not be a name. -/
def EscapeTakes (fl : Flags) (c : Char) (t : Text) (e : Element) (u : Text) : Prop :=
  ∃ used, t = used ++ u ∧ (e = .anchor (.word fl.unicode .edge) → opensName u = false) ∧
    ∀ v, (e = .anchor (.word fl.unicode .edge) → opensName v = false) → Element.read? fl (c :: (used ++ v)) = some (e, v)

variable {c : Char} {e : Element}

theorem escapeTakes_one {e' : Element} (hread : ∀ w, Element.read? fl (c :: w) = some (e', w))
    (hne : e' ≠ .anchor (.word fl.unicode .edge)) (h : Element.read? fl (c :: t) = some (e, u)) :
    EscapeTakes fl c t e u := by
  rw [hread] at h
  cases h
  exact ⟨[], rfl, fun he => absurd he hne, fun v _ => hread v⟩

theorem escapeTakes_of_takes {α : Type} {read : Text → Option (α × Text)} {f : α → Element}
    (hread : ∀ w, Element.read? fl (c :: w) = (read w).map fun (a, r) => (f a, r))
    (htakes : ∀ {a : α}, read t = some (a, u) → ∃ used, t = used ++ u ∧ Takes read used a)
    (hne : ∀ a, f a ≠ .anchor (.word fl.unicode .edge)) (h : Element.read? fl (c :: t) = some (e, u)) :
    EscapeTakes fl c t e u := by
  rw [hread] at h
  obtain ⟨⟨a, r⟩, ha, h⟩ := Option.map_eq_some_iff.1 h
  cases h
  obtain ⟨used, rfl, hv⟩ := htakes ha
  refine ⟨used, rfl, fun he => absurd he (hne a), fun v _ => ?_⟩
  rw [hread, hv]
  rfl

theorem escapeTakes_numbered {width : Nat} (hwidth : 0 < width)
    (hread : ∀ w, Element.read? fl (c :: w) = (readHex? fl width none w).map fun (d, r) => (.char d, r))
    (h : Element.read? fl (c :: t) = some (e, u)) : EscapeTakes fl c t e u :=
  escapeTakes_of_takes hread (readHex_takes hwidth) nofun h

theorem escapeTakes_property {negated : Bool}
    (hread : ∀ w, Element.read? fl (c :: w) =
      (Element.readProperty? fl w).map fun (s, r) => (.property s negated, r))
    (h : Element.read? fl (c :: t) = some (e, u)) : EscapeTakes fl c t e u :=
  escapeTakes_of_takes (f := fun s => .property s negated) hread readProperty_takes nofun h

theorem escapeTakes_edge (h : Element.read? fl ('b' :: t) = some (e, u)) : EscapeTakes fl 'b' t e u := by
  have hread (w : Text) : Element.read? fl ('b' :: w) =
      (Element.readEdge? w).map fun x => (.anchor (.word fl.unicode x.1), x.2) := rfl
  rw [hread] at h
  obtain ⟨⟨e', r⟩, hedge, h⟩ := Option.map_eq_some_iff.1 h
  cases h
  rcases readEdge_takes hedge with ⟨used, rfl, hne, hv⟩ | ⟨rfl, rfl, hname⟩
  · exact ⟨used, rfl, fun he => absurd (by injection he with he; injection he) hne,
      fun v _ => by rw [hread, hv]; rfl⟩
  · exact ⟨[], rfl, fun _ => hname, fun v hv => by
      rw [List.nil_append, hread, readEdge_of_not_opensName (hv rfl)]; rfl⟩

theorem escapeTakes (h : Element.read? fl (c :: t) = some (e, u)) : EscapeTakes fl c t e u := by
  rcases hclass : Element.classOf? fl.unicode c with _ | s
  · rcases hcontrol : Element.control? c with _ | d
    · by_cases hletter : c ∈ ['x', 'u', 'U', 'p', 'P', 'A', 'z', 'b', 'B', '<', '>']
      · simp only [List.mem_cons, List.not_mem_nil, or_false] at hletter
        rcases hletter with rfl | rfl | rfl | rfl | rfl | rfl | rfl | rfl | rfl | rfl | rfl
        · exact escapeTakes_numbered (by decide) (fun _ => rfl) h
        · exact escapeTakes_numbered (by decide) (fun _ => rfl) h
        · exact escapeTakes_numbered (by decide) (fun _ => rfl) h
        · exact escapeTakes_property (fun _ => rfl) h
        · exact escapeTakes_property (fun _ => rfl) h
        · exact escapeTakes_one (fun _ => rfl) nofun h
        · exact escapeTakes_one (fun _ => rfl) nofun h
        · exact escapeTakes_edge h
        · exact escapeTakes_one (fun _ => rfl) nofun h
        · exact escapeTakes_one (fun _ => rfl) nofun h
        · exact escapeTakes_one (fun _ => rfl) nofun h
      · simp only [List.mem_cons, List.not_mem_nil, or_false, not_or] at hletter
        have hread (w : Text) : Element.read? fl (c :: w) =
            if Element.isEscapable c then some (.char c, w) else none := by
          simp only [Element.read?, hclass, hcontrol, hletter, false_implies]
        by_cases hescapable : Element.isEscapable c
        · exact escapeTakes_one (fun w => (hread w).trans (if_pos hescapable)) nofun h
        · rw [hread, if_neg hescapable] at h
          cases h
    · have hread (w : Text) : Element.read? fl (c :: w) = some (.char d, w) := by
        simp only [Element.read?, hclass, hcontrol]
      exact escapeTakes_one hread nofun h
  · have hread (w : Text) : Element.read? fl (c :: w) = some (.set s, w) := by
      simp only [Element.read?, hclass]
    exact escapeTakes_one hread nofun h

/-- **What an escape takes off.** -/
theorem readElement_takes (h : Element.read? fl t = some (e, u)) :
    ∃ used, t = used ++ u ∧ used ≠ [] ∧ (e = .anchor (.word fl.unicode .edge) → opensName u = false) ∧
      ∀ v, (e = .anchor (.word fl.unicode .edge) → opensName v = false) → Element.read? fl (used ++ v) = some (e, v) := by
  cases t with
  | nil => cases h
  | cons c t =>
    obtain ⟨used, rfl, hu, hv⟩ := escapeTakes h
    exact ⟨c :: used, rfl, List.cons_ne_nil _ _, hu, hv⟩

end

end Readout.Regex
