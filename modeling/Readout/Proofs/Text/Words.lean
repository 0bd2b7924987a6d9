/-
  Words of a text.

  * `IsWord` is what a word can be, `isWord_of_mem_words`: the words of a text are so;
  * `words_append_of_startsBlank`, `words_of_isSpace`: words end at white space, which does not matter otherwise;
  * `words_joinWith`: words with a blank between them are read back;
  * `joinWith_pieces`: a text is its pieces with separators between them;
  * `SingleSpaced`: white space stands in between only, as single blanks.
-/
import Mathlib.Data.List.Chain
import Readout.Proofs.Text.Lines

namespace Readout.Text

/-- Is the text a word: not empty, and without white space? -/
def IsWord (t : Text) : Prop := t ≠ [] ∧ IsSolid t

theorem words_ne_nil {c : Char} : ∀ {t : Text}, c ∈ t → Unicode.isSpace c = false → words t ≠ []
  | d :: t, h, hc => by
    unfold words
    split
    · rename_i hd
      rcases List.mem_cons.1 h with rfl | h
      · rw [hc] at hd; cases hd
      · exact words_ne_nil h hc
    · split
      · exact List.cons_ne_nil _ _
      · cases words t <;> exact List.cons_ne_nil _ _

/-- **White space separates the words in front of it from those behind it.** -/
theorem words_append_of_startsBlank {t : Text} (ht : t = [] ∨ startsBlank t) :
    ∀ u : Text, words (u ++ t) = words u ++ words t
  | [] => rfl
  | c :: u => by
    have ih := words_append_of_startsBlank ht u
    rw [List.cons_append, words, words]
    split
    · exact ih
    · cases u with
      | nil =>
        have hend : (t.isEmpty || startsBlank t) = true := by simpa using ht
        rw [List.nil_append, hend]; rfl
      | cons d u =>
        have hsame : ((d :: u ++ t).isEmpty || startsBlank (d :: u ++ t)) =
          ((d :: u).isEmpty || startsBlank (d :: u)) := rfl
        rw [hsame, ih]
        split
        · rfl
        · -- the first word goes on, and ends in front of the white space
          rename_i hd
          have hd : Unicode.isSpace d = false := by simpa [startsBlank] using hd
          obtain ⟨v, vs, hvs⟩ := List.exists_cons_of_ne_nil (words_ne_nil (List.mem_cons_self (l := u)) hd)
          rw [hvs]; rfl

theorem words_of_isWord : ∀ {u : Text}, IsWord u → words u = [u]
  | [], h => absurd rfl h.1
  | [c], h => by
    have hc : Unicode.isSpace c = false := h.2 c List.mem_cons_self
    simp [words, hc]
  | c :: d :: u, h => by
    obtain ⟨hc, hrest⟩ := List.forall_mem_cons.1 h.2
    have hd : ((d :: u).isEmpty || startsBlank (d :: u)) = false := hrest d List.mem_cons_self
    rw [words, if_neg (by simp [hc]), hd, words_of_isWord ⟨List.cons_ne_nil d u, hrest⟩]; rfl

theorem words_append {u t : Text} (hu : IsWord u) (ht : t = [] ∨ startsBlank t) : words (u ++ t) = u :: words t := by
  rw [words_append_of_startsBlank ht, words_of_isWord hu]; rfl

theorem words_of_isSpace {w : Text} (hw : ∀ c ∈ w, Unicode.isSpace c) (t : Text) : words (w ++ t) = words t := by
  induction w with
  | nil => rfl
  | cons c w ih =>
    obtain ⟨hc, hw⟩ := List.forall_mem_cons.1 hw
    rw [List.cons_append, words, if_pos hc, ih hw]

theorem isWord_of_mem_words : ∀ {t : Text}, ∀ u ∈ words t, IsWord u
  | [], _, h => nomatch h
  | c :: t, u, h => by
    have ih : ∀ u ∈ words t, IsWord u := isWord_of_mem_words
    unfold words at h
    split at h
    · exact ih u h
    · rename_i hc
      have hsingle : IsWord [c] := ⟨List.cons_ne_nil _ _, by simpa [IsSolid] using hc⟩
      split at h
      · rcases List.mem_cons.1 h with rfl | h
        · exact hsingle
        · exact ih u h
      · rcases hwords : words t with _ | ⟨v, vs⟩
        · rw [hwords] at h
          rw [List.mem_singleton.1 h]; exact hsingle
        · rw [hwords] at h ih
          obtain ⟨hv, hvs⟩ := List.forall_mem_cons.1 ih
          rcases List.mem_cons.1 h with rfl | h
          · exact ⟨List.cons_ne_nil _ _, List.forall_mem_cons.2 ⟨by simpa using hc, hv.2⟩⟩
          · exact hvs u h

theorem joinWith_cons_cons (sep u v : Text) (us : List Text) :
    joinWith sep (u :: v :: us) = u ++ (sep ++ joinWith sep (v :: us)) := by
  rw [joinWith, List.intercalate_cons_cons, List.append_assoc]; rfl

theorem joinWith_singleton (sep u : Text) : joinWith sep [u] = u := List.intercalate_singleton

theorem joinWith_consHead (sep : Text) (c : Char) {ps : List Text} (h : ps ≠ []) :
    joinWith sep (consHead c ps) = c :: joinWith sep ps := by
  rcases ps with _ | ⟨p, _ | ⟨q, ps⟩⟩
  · exact absurd rfl h
  · rw [consHead, joinWith_singleton, joinWith_singleton]
  · rw [consHead, joinWith_cons_cons, joinWith_cons_cons]; rfl

/-- A text is its pieces with separators between them. -/
theorem joinWith_pieces (sep : Char) (t : Text) : joinWith [sep] (pieces sep t) = t := by
  induction t with
  | nil => rfl
  | cons c t ih =>
    unfold pieces
    split
    · rename_i hsep
      obtain ⟨p, ps, hps⟩ := List.exists_cons_of_ne_nil (pieces_ne_nil sep t)
      rw [hps, joinWith_cons_cons, ← hps, ih, hsep]; rfl
    · rw [joinWith_consHead _ _ (pieces_ne_nil sep t), ih]

theorem joinWith_append {sep : Text} : ∀ {us vs : List Text}, us ≠ [] → vs ≠ [] →
    joinWith sep (us ++ vs) = joinWith sep us ++ (sep ++ joinWith sep vs)
  | [], _, hus, _ => absurd rfl hus
  | [u], v :: vs, _, _ => by rw [List.singleton_append, joinWith_cons_cons, joinWith_singleton]
  | u :: u' :: us, vs, _, hvs => by
    rw [List.cons_append, List.cons_append, joinWith_cons_cons, ← List.cons_append,
      joinWith_append (List.cons_ne_nil u' us) hvs, joinWith_cons_cons]
    simp only [List.append_assoc]

theorem mem_joinWith_of_mem (sep : Text) {c : Char} {u : Text} : ∀ {us : List Text}, u ∈ us → c ∈ u →
    c ∈ joinWith sep us
  | [], hu, _ => nomatch hu
  | [v], hu, hc => by
    rw [joinWith_singleton, ← List.mem_singleton.1 hu]
    exact hc
  | v :: w :: us, hu, hc => by
    rw [joinWith_cons_cons, List.mem_append, List.mem_append]
    rcases List.mem_cons.1 hu with rfl | hu
    · exact .inl hc
    · exact .inr (.inr (mem_joinWith_of_mem sep hu hc))

/-- **Words with a blank between them are read back.** -/
theorem words_joinWith : ∀ {us : List Text}, (∀ u ∈ us, IsWord u) → words (joinWith [' '] us) = us
  | [], _ => rfl
  | [u], h => by rw [joinWith_singleton, words_of_isWord (h u List.mem_cons_self)]
  | u :: v :: us, h => by
    obtain ⟨hu, hvs⟩ := List.forall_mem_cons.1 h
    rw [joinWith_cons_cons, words_append hu (.inr rfl), words_of_isSpace (by decide), words_joinWith hvs]

theorem startsBlank_joinWith {sep u : Text} (hu : u ≠ []) (us : List Text) :
    startsBlank (joinWith sep (u :: us)) = startsBlank u := by
  cases us with
  | nil => rw [joinWith_singleton]
  | cons v us => rw [joinWith_cons_cons, startsBlank_append hu]

theorem startsBlank_joinWith_of_isWord (sep : Text) : ∀ {us : List Text}, (∀ u ∈ us, IsWord u) →
    startsBlank (joinWith sep us) = false
  | [], _ => rfl
  | u :: us, h => by
    have hu := h u List.mem_cons_self
    rw [startsBlank_joinWith hu.1]; exact hu.2.startsBlank

theorem endsSolid_joinWith (sep : Text) : ∀ {us : List Text}, (∀ u ∈ us, IsWord u) → EndsSolid (joinWith sep us)
  | [], _ => nofun
  | [u], h => by
    rw [joinWith_singleton]
    exact (h u List.mem_cons_self).2.endsSolid
  | u :: v :: us, h => by
    obtain ⟨-, hus⟩ := List.forall_mem_cons.1 h
    rw [joinWith_cons_cons, ← List.append_assoc]
    exact (endsSolid_joinWith sep hus).append (joinWith_ne_nil (hus v List.mem_cons_self).1 us) _

/-- Words with something between them have no white space at their ends. -/
theorem trim_joinWith {sep : Text} {us : List Text} (h : ∀ u ∈ us, IsWord u) :
    trim (joinWith sep us) = joinWith sep us :=
  trim_eq_self (startsBlank_joinWith_of_isWord sep h) (endsSolid_joinWith sep h)

theorem map_joinWith (f : Char → Char) (sep : Text) : ∀ us : List Text,
    (joinWith sep us).map f = joinWith (sep.map f) (us.map (List.map f))
  | [] => rfl
  | [u] => by simp [joinWith_singleton]
  | u :: v :: us => by
    rw [joinWith_cons_cons, List.map_append, List.map_append, map_joinWith f sep (v :: us)]
    exact (joinWith_cons_cons ..).symm

/-! ## Single blanks -/

section
open Unicode (isSpace)

/-- Do no two characters of white space stand side by side? -/
def Separated (t : Text) : Prop := t.IsChain fun c d => ¬ (isSpace c ∧ isSpace d)

/-- Does white space stand in between only, as single blanks? -/
structure SingleSpaced (t : Text) : Prop where
  starts : startsBlank t = false
  ends : EndsSolid t
  blank : ∀ c ∈ t, isSpace c → c = ' '
  single : Separated t

theorem Separated.cons {c : Char} {t : Text} (ht : Separated t)
    (hc : isSpace c = false ∨ startsBlank t = false) : Separated (c :: t) := by
  refine List.isChain_cons.2 ⟨fun d hd hspace => ?_, ht⟩
  rcases hc with hc | hc
  · exact Bool.eq_false_iff.1 hc hspace.1
  · have hblank : startsBlank t = isSpace d := by simp [startsBlank, Option.mem_def.1 hd]
    exact Bool.eq_false_iff.1 (hblank ▸ hc) hspace.2

theorem Separated.append {u t : Text} (hu : IsSolid u) (ht : Separated t) : Separated (u ++ t) := by
  induction u with
  | nil => exact ht
  | cons c u ih =>
    obtain ⟨hc, hu⟩ := List.forall_mem_cons.1 hu
    exact (ih hu).cons (.inl hc)

theorem separated_joinWith : ∀ {us : List Text}, (∀ u ∈ us, IsWord u) → Separated (joinWith [' '] us)
  | [], _ => List.isChain_nil
  | [u], h => by
    rw [joinWith_singleton, ← List.append_nil u]
    exact .append (h u List.mem_cons_self).2 List.isChain_nil
  | u :: v :: us, h => by
    obtain ⟨hu, hvs⟩ := List.forall_mem_cons.1 h
    rw [joinWith_cons_cons]
    exact .append hu.2 ((separated_joinWith hvs).cons (.inr (startsBlank_joinWith_of_isWord [' '] hvs)))

/-- **Words with blanks between them are spaced by single blanks.** -/
theorem singleSpaced_joinWith {us : List Text} (h : ∀ u ∈ us, IsWord u) : SingleSpaced (joinWith [' '] us) where
  starts := startsBlank_joinWith_of_isWord [' '] h
  ends := endsSolid_joinWith [' '] h
  blank := by
    intro c hc hspace
    rcases mem_joinWith hc with hsep | ⟨u, hu, hcu⟩
    · exact List.mem_singleton.1 hsep
    · exact absurd hspace (Bool.eq_false_iff.1 ((h u hu).2 c hcu))
  single := separated_joinWith h

end

end Readout.Text
