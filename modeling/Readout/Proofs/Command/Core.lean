/-
  The command that a pattern spells out.

  * `PatternWord`, `wordText`: a word of a pattern, and the word that it spells out;
  * `words_bare`: without its brackets, a pattern of such words has the words that they spell out;
  * `isExact_core`: the core of the pattern is accepted by its own expression;
  * `isExact_of_many_words`: with too many words, no command is.
-/
import Readout.Proofs.Command.Completion
import Readout.Proofs.Command.Normal

namespace Readout.Command

open Unicode (fold isSpace)
open Text (IsWord)

/-! ## Words of patterns -/

/-- Is the segment an ordinary character, or a suffix of 60 of them at most? -/
def Segment.Lettered : Segment → Prop
  | char c => c ∈ plainChars
  | suffix s => s.length ≤ 60 ∧ ∀ c ∈ s, c ∈ plainChars
  | blank => False

/-- Is it a word of a pattern: an ordinary character, with more of them and suffixes behind it? -/
def PatternWord : List Segment → Prop
  | .char c :: w => c ∈ plainChars ∧ ∀ s ∈ w, s.Lettered
  | _ => False

instance : DecidablePred Segment.Lettered
  | .char _ => inferInstanceAs (Decidable (_ ∈ _))
  | .suffix _ => inferInstanceAs (Decidable (_ ∧ _))
  | .blank => inferInstanceAs (Decidable False)

instance : DecidablePred PatternWord
  | .char _ :: _ => inferInstanceAs (Decidable (_ ∧ _))
  | [] | .suffix _ :: _ | .blank :: _ => inferInstanceAs (Decidable False)

/-- What a segment without white space spells out. -/
def Segment.text : Segment → Text
  | char c => [c]
  | suffix s => s
  | blank => []

/-- The word that a word of a pattern spells out. -/
def wordText (w : List Segment) : Text := w.flatMap Segment.text

/-- What a segment without white space is written as. -/
def Segment.written : Segment → Text
  | char c => [c]
  | suffix s => "[[".toList ++ s ++ "]]".toList
  | blank => []

/-- What a word of a pattern is written as. -/
def writtenWord (w : List Segment) : Text := w.flatMap Segment.written

theorem written_word {w ss : List Segment} (hw : ∀ s ∈ w, s.Lettered) {t : Text} (h : Written ss t) :
    Written (w ++ ss) (writtenWord w ++ t) := by
  induction w with
  | nil => exact h
  | cons s w ih =>
    obtain ⟨hs, hrest⟩ := List.forall_mem_cons.1 hw
    have hmore := ih hrest
    rw [writtenWord, List.flatMap_cons, List.append_assoc]
    cases s with
    | char c => exact .char hmore
    | suffix s => exact .suffix hmore
    | blank => exact hs.elim

/-! ## Brackets -/

theorem dropPairs_append {b : Char} : ∀ {u : Text}, b ∉ u → ∀ t, dropPairs b (u ++ t) = u ++ dropPairs b t
  | [], _, _ => rfl
  | c :: u, h, t => by
    obtain ⟨hc, hu⟩ := not_or.1 (mt List.mem_cons.2 h)
    rw [List.cons_append, List.cons_append, ← dropPairs_append hu t]
    rcases u ++ t with _ | ⟨d, v⟩
    · rfl
    · rw [dropPairs, if_neg fun heq => hc heq.1.symm]

theorem dropPairs_pair (b : Char) (t : Text) : dropPairs b (b :: b :: t) = dropPairs b t := by
  rw [dropPairs, if_pos ⟨rfl, rfl⟩]

/-- The text without its pairs of brackets. -/
def bare (t : Text) : Text := dropPairs ']' (dropPairs '[' t)

theorem bare_append {u : Text} (hopen : '[' ∉ u) (hclose : ']' ∉ u) (t : Text) : bare (u ++ t) = u ++ bare t := by
  rw [bare, dropPairs_append hopen, dropPairs_append hclose]; rfl

theorem bare_suffix {s : Text} (hopen : '[' ∉ s) (hclose : ']' ∉ s) (t : Text) :
    bare ("[[".toList ++ s ++ "]]".toList ++ t) = s ++ bare t := by
  have hinner : dropPairs '[' ("[[".toList ++ s ++ "]]".toList ++ t) = s ++ (']' :: ']' :: dropPairs '[' t) := by
    have hends : dropPairs '[' ("]]".toList ++ t) = "]]".toList ++ dropPairs '[' t :=
      dropPairs_append (by decide) t
    calc dropPairs '[' ("[[".toList ++ s ++ "]]".toList ++ t)
        = dropPairs '[' ('[' :: '[' :: (s ++ ("]]".toList ++ t))) := by simp
      _ = s ++ (']' :: ']' :: dropPairs '[' t) := by
        rw [dropPairs_pair, dropPairs_append hopen, hends]; rfl
  rw [bare, hinner, dropPairs_append hclose, dropPairs_pair]; rfl

theorem notMem_of_plain {t : Text} (h : ∀ c ∈ t, c ∈ plainChars) : '[' ∉ t ∧ ']' ∉ t :=
  ⟨fun hmem => absurd (h _ hmem) (by decide), fun hmem => absurd (h _ hmem) (by decide)⟩

theorem Segment.Lettered.plain_text {s : Segment} (hs : s.Lettered) : ∀ c ∈ s.text, c ∈ plainChars := by
  cases s with
  | char c =>
    intro d hd
    rw [List.mem_singleton.1 hd]; exact hs
  | suffix s => exact hs.2
  | blank => exact hs.elim

/-- A word of a pattern without its brackets. -/
theorem bare_word {w ss : List Segment} (hw : ∀ s ∈ w, s.Lettered) {t : Text} (h : Written (w ++ ss) t) :
    ∃ u, Written ss u ∧ bare t = wordText w ++ bare u := by
  induction w generalizing t with
  | nil => exact ⟨t, h, rfl⟩
  | cons s w ih =>
    obtain ⟨hs, hrest⟩ := List.forall_mem_cons.1 hw
    obtain ⟨hopen, hclose⟩ := notMem_of_plain hs.plain_text
    cases s with
    | char c =>
      cases h with
      | char h =>
        obtain ⟨u, hu, hbare⟩ := ih hrest h
        exact ⟨u, hu, (bare_append (u := [c]) hopen hclose _).trans (congrArg (c :: ·) hbare)⟩
    | suffix s =>
      cases h with
      | suffix h =>
        obtain ⟨u, hu, hbare⟩ := ih hrest h
        refine ⟨u, hu, (bare_suffix hopen hclose _).trans ?_⟩
        rw [hbare]
        exact (List.append_assoc ..).symm
    | blank => exact hs.elim

theorem PatternWord.lettered {w : List Segment} (hw : PatternWord w) : ∀ s ∈ w, s.Lettered :=
  match w, hw with
  | .char _ :: _, ⟨hc, hrest⟩ => List.forall_mem_cons.2 ⟨hc, hrest⟩

theorem plain_wordText {w : List Segment} (hw : ∀ s ∈ w, s.Lettered) : ∀ c ∈ wordText w, c ∈ plainChars := by
  intro c hc
  obtain ⟨s, hs, hc⟩ := List.mem_flatMap.1 hc
  exact (hw s hs).plain_text c hc

theorem PatternWord.isWord {w : List Segment} (hw : PatternWord w) : IsWord (wordText w) := by
  refine ⟨?_, fun c hc => isSolid_plainChars c (plain_wordText hw.lettered c hc)⟩
  match w, hw with
  | .char _ :: _, _ => exact List.cons_ne_nil _ _

/-- A pattern may be written with single blanks between its words. -/
theorem written_words : ∀ {ws : List (List Segment)}, (∀ w ∈ ws, PatternWord w) →
    Written ([.blank].intercalate ws) (Text.joinWith [' '] (ws.map writtenWord))
  | [], _ => .nil
  | [w], hws => by
    have h := written_word (hws w List.mem_cons_self).lettered Written.nil
    rw [List.append_nil, List.append_nil] at h
    rwa [List.intercalate_singleton, List.map_singleton, Text.joinWith_singleton]
  | w :: w' :: ws, hws => by
    obtain ⟨hw, hrest⟩ := List.forall_mem_cons.1 hws
    have hstart : Text.startsBlank (Text.joinWith [' '] ((w' :: ws).map writtenWord)) = false := by
      match w', hrest w' List.mem_cons_self with
      | .char c :: _, ⟨hc, _⟩ =>
        exact (Text.startsBlank_joinWith (List.cons_ne_nil _ _) _).trans (isSolid_plainChars c hc)
    rw [List.intercalate_cons_cons, List.append_assoc, List.map_cons, List.map_cons, Text.joinWith_cons_cons]
    exact written_word hw.lettered (.blank nofun (by decide) hstart (written_words hrest))

/-- **Without its brackets, a pattern has the words that its words spell out.** -/
theorem words_bare : ∀ {ws : List (List Segment)}, (∀ w ∈ ws, PatternWord w) → ∀ {t : Text},
    Written ([.blank].intercalate ws) t → (bare t).words = ws.map wordText
  | [], _, _, .nil => rfl
  | [w], hws, t, h => by
    have hw := hws w List.mem_cons_self
    rw [List.intercalate_singleton, ← List.append_nil w] at h
    obtain ⟨_, ⟨⟩, hbare⟩ := bare_word hw.lettered h
    rw [hbare]
    exact Text.words_append hw.isWord (.inl rfl)
  | w :: w' :: ws, hws, t, h => by
    obtain ⟨hw, hrest⟩ := List.forall_mem_cons.1 hws
    rw [List.intercalate_cons_cons, List.append_assoc] at h
    obtain ⟨_, hu, hbare⟩ := bare_word hw.lettered h
    cases hu with
    | @blank run _ v hne hrun _ hv =>
      have hfree : '[' ∉ run ∧ ']' ∉ run :=
        ⟨fun hmem => absurd (hrun _ hmem) (by decide), fun hmem => absurd (hrun _ hmem) (by decide)⟩
      have hblank : Text.startsBlank (run ++ bare v) := by
        cases run with
        | nil => exact absurd rfl hne
        | cons c run => exact hrun c List.mem_cons_self
      rw [hbare, bare_append hfree.1 hfree.2, Text.words_append hw.isWord (.inr hblank),
        Text.words_of_isSpace hrun, words_bare hrest hv]; rfl

/-- The core of a pattern has the words that its words spell out, in lower case. -/
theorem core_of_written {ws : List (List Segment)} (hws : ∀ w ∈ ws, PatternWord w) {pattern : Text}
    (h : Written ([.blank].intercalate ws) pattern) :
    core pattern = Text.joinWith [' '] (ws.map fun w => (wordText w).lower) := by
  have hwords := words_bare hws h
  rw [bare] at hwords
  rw [core, normalize, hwords, List.map_map]; rfl

theorem core_ne_nil {ws : List (List Segment)} (hws : ∀ w ∈ ws, PatternWord w) (hne : ws ≠ []) {pattern : Text}
    (h : Written ([.blank].intercalate ws) pattern) : core pattern ≠ [] := by
  rw [core_of_written hws h]
  obtain ⟨w, ws, rfl⟩ := List.exists_cons_of_ne_nil hne
  exact Text.joinWith_ne_nil (isWord_lower (hws w List.mem_cons_self).isWord).1 _

/-! ## The core as a command -/

theorem Spells.append {ss ss' : List Segment} {u v : Text} (hu : Spells ss u) (hv : Spells ss' v) :
    Spells (ss ++ ss') (u ++ v) := by
  induction ss generalizing u with
  | nil => rw [show u = [] from hu]; exact hv
  | cons s ss ih =>
    obtain ⟨u₁, u₂, h₁, h₂, rfl⟩ := hu
    exact ⟨u₁, u₂ ++ v, h₁, ih h₂, (List.append_assoc ..).symm⟩

theorem spells_wordText {w : List Segment} (hw : ∀ s ∈ w, s.Lettered) : Spells w (wordText w) := by
  induction w with
  | nil => exact rfl
  | cons s w ih =>
    obtain ⟨hs, hrest⟩ := List.forall_mem_cons.1 hw
    refine ⟨s.text, wordText w, ?_, ih hrest, rfl⟩
    cases s with
    | char c => exact rfl
    | suffix s => exact List.prefix_rfl
    | blank => exact hs.elim

/-- Words with a blank between them are spelled by a pattern of such words. -/
theorem spells_words : ∀ {ws : List (List Segment)}, (∀ w ∈ ws, PatternWord w) →
    Spells ([.blank].intercalate ws) (Text.joinWith [' '] (ws.map wordText))
  | [], _ => rfl
  | [w], hws => by
    rw [List.intercalate_singleton, List.map_singleton, Text.joinWith_singleton]
    exact spells_wordText (hws w List.mem_cons_self).lettered
  | w :: w' :: ws, hws => by
    obtain ⟨hw, hrest⟩ := List.forall_mem_cons.1 hws
    have hblank : Spells [.blank] [' '] := ⟨[' '], [], ⟨nofun, by decide⟩, rfl, rfl⟩
    rw [List.intercalate_cons_cons, List.append_assoc, List.map_cons, List.map_cons, Text.joinWith_cons_cons]
    exact (spells_wordText hw.lettered).append (hblank.append (spells_words hrest))

/-- Lower case keeps ordinary characters the same up to case. -/
theorem map_fold_lower {t : Text} (h : ∀ c ∈ t, c ∈ plainChars) : t.lower.map fold = t.map fold := by
  have hchars : ∀ c ∈ plainChars, c ≠ '\u03a3' ∧ (Unicode.lowerChar c).map fold = [fold c] := by decide +kernel
  have hfrom : ∀ (t before : Text), (∀ c ∈ t, c ∈ plainChars) →
      (Unicode.lowerFrom before t).map fold = t.map fold := by
    intro t
    induction t with
    | nil => exact fun _ _ => rfl
    | cons c t ih =>
      intro before h
      obtain ⟨hc, ht⟩ := List.forall_mem_cons.1 h
      obtain ⟨hsigma, hfold⟩ := hchars c hc
      rw [Unicode.lowerFrom, if_neg hsigma, List.map_append, hfold, ih _ ht]; rfl
  exact hfrom t [] h

theorem plain_of_patternWords {ws : List (List Segment)} (hws : ∀ w ∈ ws, PatternWord w) :
    ∀ s ∈ [Segment.blank].intercalate ws, s.Plain := by
  intro s hs
  rcases Text.mem_intercalate hs with hs | ⟨w, hw, hs⟩
  · rw [List.mem_singleton.1 hs]; exact trivial
  · have hlettered := (hws w hw).lettered s hs
    cases s with
    | char c => exact hlettered
    | suffix s =>
      exact ⟨hlettered.1, fun c hc => isSolid_plainChars c (hlettered.2 c hc), (notMem_of_plain hlettered.2).2⟩
    | blank => exact hlettered.elim

/-- **The core of a pattern is accepted by its own expression**, if that is compiled. -/
theorem isExact_core {ws : List (List Segment)} (hws : ∀ w ∈ ws, PatternWord w) {pattern : Text}
    (htrim : pattern.trim = pattern) (h : Written ([.blank].intercalate ws) pattern)
    (hcompiled : (Matcher.ofPattern pattern).isCompiled) : (Matcher.ofPattern pattern).isExact (core pattern) := by
  rw [isExact_iff (plain_of_patternWords hws) (htrim.symm ▸ h)]
  refine ⟨hcompiled, _, spells_words hws, ?_⟩
  have hlower : ∀ w ∈ ws, ((wordText w).lower).map fold = (wordText w).map fold :=
    fun w hw => map_fold_lower (plain_wordText (hws w hw).lettered)
  rw [core_of_written hws h, Text.map_joinWith, Text.map_joinWith, List.map_map, List.map_map]
  congr 1
  exact List.map_congr_left hlower

/-- White space costs as much as four characters, and every word has one. -/
theorem length_le_size : ∀ {ws : List (List Segment)}, (∀ w ∈ ws, PatternWord w) →
    5 * ws.length ≤ size ([.blank].intercalate ws) + 4
  | [], _ => Nat.zero_le _
  | w :: ws, hws => by
    obtain ⟨hw, hrest⟩ := List.forall_mem_cons.1 hws
    have hword : 1 ≤ size w := by
      match w, hw with
      | .char c :: w, _ => exact (size_append [.char c] w).symm ▸ Nat.le_add_right 1 _
    have ih := length_le_size hrest
    cases ws with
    | nil =>
      rw [List.intercalate_singleton, List.length_singleton]
      omega
    | cons w' ws =>
      have hblank : size [.blank] = 4 := rfl
      rw [List.intercalate_cons_cons, size_append, size_append, hblank, List.length_cons]
      omega

/-- **A pattern of too many words is not compiled**, and no command is an exact match of it. -/
theorem isExact_of_many_words {ws : List (List Segment)} (hws : ∀ w ∈ ws, PatternWord w) {pattern : Text}
    (htrim : pattern.trim = pattern) (h : Written ([.blank].intercalate ws) pattern)
    (hmany : Regex.Node.sizeLimit + 4 < 5 * ws.length) (command : Text) :
    (Matcher.ofPattern pattern).isExact command = false := by
  have hsize := length_le_size hws
  have hunfolded := size_le_unfolded ([.blank].intercalate ws)
  have hfits : ¬ (expression ([.blank].intercalate ws)).node.fits := by
    rw [Regex.Node.fits, decide_eq_true_eq]
    omega
  rw [Matcher.isExact, regex_ofPattern (plain_of_patternWords hws) (htrim.symm ▸ h), if_neg hfits]

end Readout.Command
