/-
  Case folding and lower case.

  * `IsCharTable`: a table that maps characters to characters, once and for all, and spares white space;
  * `mem_orbit_iff`: the orbit of a character has the characters that fold as it does;
  * `eq_of_fold_eq`: white space is the same up to case as itself only;
  * `IsLower`: a character that lower case leaves as it is, and `lower_lower`: lower case consists of these;
  * `lowerAt`: what becomes of a character between its neighbours, and `lower_eq`: lower case is told by that;
  * `trim_lower_iff`: a text has white space at its ends if it has some in lower case.
-/
import Readout.Proofs.Text.Lines
import Readout.Proofs.Unicode.Shifts
import Readout.Regex.CharSet
import Readout.Unicode.Fold
import Readout.Unicode.Lower

namespace Readout

namespace Unicode

/-! ## Tables of characters -/

/-- The small letters of ASCII for its capitals. -/
def capitalShift : Shift := ⟨0x41, 0x5a, 1, 0x61⟩

/-- A table for the characters from U+0080 on, with the capitals of ASCII. -/
def withCapitals (ss : List Shift) : List Shift := capitalShift :: ss

/-- Are the numbers from `lo` to `hi` those of characters? -/
def AreChars (lo hi : Nat) : Prop := hi < 0xd800 ∨ 0xdfff < lo ∧ hi < 0x110000

instance : DecidableRel AreChars := fun _ _ => inferInstanceAs (Decidable (_ ∨ _))

theorem AreChars.isValidChar {lo hi n : Nat} (h : AreChars lo hi) (hlo : lo ≤ n) (hhi : n ≤ hi) :
    n.isValidChar := by
  unfold AreChars at h
  unfold Nat.isValidChar
  omega

/-- The code points of white space. -/
def spaces : List Nat := spaceRanges.flatMap fun r => List.range' r.1 (r.2 + 1 - r.1)

theorem mem_spaces {c : Char} (h : isSpace c) : c.toNat ∈ spaces := by
  obtain ⟨r, hr, hc⟩ := List.any_eq_true.1 h
  simp only [Bool.and_eq_true, decide_eq_true_eq] at hc
  exact List.mem_flatMap.2 ⟨r, hr, List.mem_range'_1.2 ⟨hc.1, by omega⟩⟩

/-- A table that maps characters to characters, once and for all, and has nothing to do with white space. -/
structure IsCharTable (ss : List Shift) : Prop where
  high : ∀ s ∈ ss, 128 ≤ s.lo
  sorted : Shift.Sorted (withCapitals ss)
  settled : Shift.Settled (withCapitals ss)
  chars : ∀ s ∈ withCapitals ss, AreChars s.lo s.hi ∧ AreChars s.target (s.target + (s.hi - s.lo))
  spares : ∀ s ∈ withCapitals ss, ∀ n, s.moves n → n ∉ spaces ∧ s.apply n ∉ spaces

/-- How a table is checked: all conditions come together, so that the code points that it moves are collected
only once. -/
theorem isCharTable_of_bits {ss : List Shift}
    (h : (∀ s ∈ ss, 128 ≤ s.lo) ∧ (∀ s ∈ withCapitals ss, s.lo ≤ s.hi) ∧
      (withCapitals ss).IsChain (fun s s' => s.hi < s'.lo) ∧
      (∀ s ∈ withCapitals ss, AreChars s.lo s.hi ∧ AreChars s.target (s.target + (s.hi - s.lo))) ∧
      Shift.bits (Shift.images (withCapitals ss)) &&& Shift.bits (Shift.moved (withCapitals ss)) = 0 ∧
      Shift.bits (Shift.images (withCapitals ss)) &&& Shift.bits spaces = 0 ∧
      Shift.bits (Shift.moved (withCapitals ss)) &&& Shift.bits spaces = 0) : IsCharTable ss := by
  obtain ⟨hhigh, hrange, hchain, hchars, hsettled, himages, hmoved⟩ := h
  refine ⟨hhigh, Shift.sorted_of_isChain hrange hchain, Shift.settled_of_bits hsettled, hchars, ?_⟩
  exact fun s hs n hn => ⟨Shift.disjoint_of_bits hmoved (Shift.mem_moved hs hn),
    Shift.disjoint_of_bits himages (Shift.mem_images hs hn)⟩

theorem isCharTable_foldShifts : IsCharTable foldShifts := isCharTable_of_bits (by decide +kernel)

theorem isCharTable_lowerShifts : IsCharTable lowerShifts := isCharTable_of_bits (by decide +kernel)

theorem toNat_ofNat {n : Nat} (h : n.isValidChar) : (Char.ofNat n).toNat = n := by
  rw [Char.ofNat, dif_pos h]; rfl

/-- What holds of the first 128 characters holds of ASCII. -/
theorem forall_ascii {p : Char → Prop} (h : ∀ n < 128, p (Char.ofNat n)) {c : Char} (hc : c.toNat < 128) : p c :=
  Char.ofNat_toNat c ▸ h c.toNat hc

/-- The character to which a table takes another one. -/
def image (ss : List Shift) (c : Char) : Char := Char.ofNat (Shift.map (withCapitals ss) c.toNat)

section
variable {ss : List Shift} {c : Char}

theorem toNat_image (hss : IsCharTable ss) (c : Char) :
    (image ss c).toNat = Shift.map (withCapitals ss) c.toNat := by
  refine toNat_ofNat ?_
  rcases Shift.map_cases (withCapitals ss) c.toNat with h | ⟨s, hs, hmoves, h⟩
  · rw [h]; exact c.valid
  · obtain ⟨hlo, hhi, -⟩ := Shift.moves_iff.1 hmoves
    rw [h]
    exact (hss.chars s hs).2.isValidChar (Nat.le_add_right ..) (by unfold Shift.apply; omega)

theorem image_image (hss : IsCharTable ss) (c : Char) : image ss (image ss c) = image ss c := by
  rw [image, toNat_image hss, Shift.map_map hss.settled, ← image]

theorem image_eq_iff (hss : IsCharTable ss) {d : Char} :
    image ss c = image ss d ↔ Shift.map (withCapitals ss) c.toNat = Shift.map (withCapitals ss) d.toNat := by
  rw [← toNat_image hss, ← toNat_image hss, Char.toNat_inj]

/-- A character stays, or is moved by a shift. -/
theorem image_cases (hss : IsCharTable ss) (c : Char) :
    image ss c = c ∨ ∃ s ∈ withCapitals ss, s.moves c.toNat ∧ (image ss c).toNat = s.apply c.toNat := by
  rw [← Char.toNat_inj, toNat_image hss]
  exact Shift.map_cases (withCapitals ss) c.toNat

theorem image_of_isSpace (hss : IsCharTable ss) (h : isSpace c) : image ss c = c := by
  rcases image_cases hss c with hc | ⟨s, hs, hmoves, -⟩
  · exact hc
  · exact absurd (mem_spaces h) (hss.spares s hs _ hmoves).1

theorem image_of_isSpace_image (hss : IsCharTable ss) (h : isSpace (image ss c)) : image ss c = c := by
  rcases image_cases hss c with hc | ⟨s, hs, hmoves, hc⟩
  · exact hc
  · exact absurd (hc ▸ mem_spaces h) (hss.spares s hs _ hmoves).2

/-- In ASCII, only capitals are moved. -/
theorem image_of_lt (hss : IsCharTable ss) (hc : c.toNat < 128) : image ss c = c.toLower := by
  have hrest : ss.find? (·.moves c.toNat) = none := by
    rw [List.find?_eq_none]
    intro s hs hmoves
    have := hss.high s hs
    have := (Shift.moves_iff.1 hmoves).1
    omega
  have hcapital : Shift.map (withCapitals ss) c.toNat = Shift.map [capitalShift] c.toNat := by
    rw [withCapitals, Shift.map, Shift.map, List.find?_cons, List.find?_cons, hrest, List.find?_nil]
  rw [image, hcapital]
  exact forall_ascii (p := fun c => Char.ofNat (Shift.map [capitalShift] c.toNat) = c.toLower) (by decide) hc

theorem image_of_not_lt (hc : ¬ c.toNat < 128) : image ss c = Char.ofNat (Shift.map ss c.toNat) := by
  have hstays : capitalShift.moves c.toNat = false := by
    rw [Bool.eq_false_iff, ne_eq, Shift.moves_iff]
    simp only [capitalShift]
    omega
  rw [image, withCapitals, Shift.map, List.find?_cons, hstays, ← Shift.map]

end

/-! ## Folding -/

theorem fold_eq (c : Char) : fold c = image foldShifts c := by
  unfold fold
  split
  · rw [image_of_lt isCharTable_foldShifts ‹_›]
  · rw [image_of_not_lt ‹_›]

theorem capitals_eq (c : Char) : capitals c = (Shift.sources [capitalShift] c.toNat).map Char.ofNat := by
  by_cases hc : c.toNat < 128
  · exact forall_ascii (p := fun c => capitals c = (Shift.sources [capitalShift] c.toNat).map Char.ofNat)
      (by decide) hc
  · have hback : capitalShift.inverse.moves c.toNat = false := by
      rw [Bool.eq_false_iff, ne_eq, Shift.moves_iff]
      simp only [capitalShift, Shift.inverse]
      omega
    have hle : ¬ c ≤ 'z' := fun hle => hc (Nat.lt_of_le_of_lt (UInt32.le_iff_toNat_le.1 hle) (by decide))
    simp [capitals, hle, Shift.sources, hback]

theorem orbit_eq (c : Char) :
    orbit c = fold c :: (Shift.sources (withCapitals foldShifts) (fold c).toNat).map Char.ofNat := by
  have hsources (n : Nat) : Shift.sources (withCapitals foldShifts) n =
      Shift.sources [capitalShift] n ++ Shift.sources foldShifts n := List.filterMap_append (l := [capitalShift])
  rw [hsources, List.map_append, ← capitals_eq]; rfl

/-- **The orbit of a character** has the characters that fold as it does. -/
theorem mem_orbit_iff {c d : Char} : c ∈ orbit d ↔ fold c = fold d := by
  have htable := isCharTable_foldShifts
  rw [orbit_eq, List.mem_cons, fold_eq, fold_eq, image_eq_iff htable,
    Shift.map_eq_iff_mem htable.sorted htable.settled, ← toNat_image htable, Char.toNat_inj]
  refine or_congr_right ⟨fun h => ?_, fun h => List.mem_map.2 ⟨_, h, Char.ofNat_toNat c⟩⟩
  obtain ⟨n, hn, rfl⟩ := List.mem_map.1 h
  obtain ⟨s, hs, hback, rfl⟩ := Shift.mem_sources.1 hn
  obtain ⟨hmoves, -⟩ := Shift.moves_of_inverse (htable.sorted.1 s hs) hback
  obtain ⟨hlo, hhi, -⟩ := Shift.moves_iff.1 hmoves
  rwa [toNat_ofNat ((htable.chars s hs).1.isValidChar hlo hhi)]

/-- **White space is the same up to case as itself only.** -/
theorem eq_of_fold_eq {c d : Char} (hc : isSpace c) (h : fold d = fold c) : d = c := by
  rw [fold_eq, fold_eq, image_of_isSpace isCharTable_foldShifts hc] at h
  rw [← h, image_of_isSpace_image isCharTable_foldShifts (h ▸ hc)]

/-! ## Lower case of characters -/

/-- Does lower case leave the character as it is? -/
def IsLower (c : Char) : Prop := c ≠ '\u03a3' ∧ lowerChar c = [c]

instance : DecidablePred IsLower := fun _ => inferInstanceAs (Decidable (_ ∧ _))

/-- The characters that the capital I with a dot and the capital sigma become. -/
theorem isLower_and_isSolid : ∀ c ∈ ['i', '\u0307', '\u03c2', '\u03c3'], IsLower c ∧ isSpace c = false := by
  decide +kernel

/-- No character becomes one of these two. -/
theorem lowerShifts_capitals : (∀ s ∈ withCapitals lowerShifts, ¬ s.inverse.moves ('\u0130').toNat) ∧
    image lowerShifts '\u03a3' ≠ '\u03a3' := by decide +kernel

theorem lowerChar_dot : lowerChar '\u0130' = ['i', '\u0307'] := by decide

theorem lowerChar_eq {c : Char} (hc : c ≠ '\u0130') : lowerChar c = [image lowerShifts c] := by
  unfold lowerChar
  split
  · rw [image_of_lt isCharTable_lowerShifts ‹_›]
  · rw [image_of_not_lt ‹_›]

theorem isLower_image {c : Char} (hc : c ≠ '\u0130') : IsLower (image lowerShifts c) := by
  have hstays := image_image isCharTable_lowerShifts c
  refine ⟨fun hsigma => ?_, ?_⟩
  · rw [hsigma] at hstays
    exact lowerShifts_capitals.2 hstays
  · have hdot : image lowerShifts c ≠ '\u0130' := by
      rcases image_cases isCharTable_lowerShifts c with h | ⟨s, hs, hmoves, h⟩
      · rwa [h]
      · intro hdot
        rw [hdot] at h
        exact lowerShifts_capitals.1 s hs (h ▸ (Shift.inverse_of_moves hmoves).1)
    rw [lowerChar_eq hdot, hstays]

theorem isLower_of_mem {c d : Char} (h : d ∈ lowerChar c) : IsLower d := by
  by_cases hc : c = '\u0130'
  · rw [hc, lowerChar_dot] at h
    exact (isLower_and_isSolid d (List.mem_append_left _ h)).1
  · rw [lowerChar_eq hc, List.mem_singleton] at h
    rw [h]; exact isLower_image hc

theorem isSpace_of_mem {c d : Char} (hc : isSpace c = false) (h : d ∈ lowerChar c) : isSpace d = false := by
  by_cases hdot : c = '\u0130'
  · rw [hdot, lowerChar_dot] at h
    exact (isLower_and_isSolid d (List.mem_append_left _ h)).2
  · rw [lowerChar_eq hdot, List.mem_singleton] at h
    rw [h, Bool.eq_false_iff]
    intro hspace
    rw [image_of_isSpace_image isCharTable_lowerShifts hspace, hc] at hspace
    cases hspace

/-! ## Lower case of texts -/

/-- A character in front, in lower case. -/
theorem lowerFrom_cons (before : Text) (c : Char) (t : Text) :
    ∃ u, lowerFrom before (c :: t) = u ++ lowerFrom (c :: before) t ∧ u ≠ [] ∧ (∀ d ∈ u, IsLower d) ∧
      (isSpace c = false → Text.IsSolid u) := by
  rw [lowerFrom]
  by_cases hsigma : c = '\u03a3'
  · obtain ⟨d, hd, heq⟩ : ∃ d ∈ ['i', '\u0307', '\u03c2', '\u03c3'],
        d = if meetsCased before && !meetsCased t then '\u03c2' else '\u03c3' := by
      split <;> exact ⟨_, by decide, rfl⟩
    obtain ⟨hlower, hsolid⟩ := isLower_and_isSolid d hd
    refine ⟨[d], by rw [if_pos hsigma, heq], nofun, ?_, fun _ => ?_⟩
    · rwa [List.forall_mem_singleton]
    · rwa [Text.IsSolid, List.forall_mem_singleton]
  · refine ⟨lowerChar c, by rw [if_neg hsigma], ?_, fun d => isLower_of_mem, fun hc d => isSpace_of_mem hc⟩
    unfold lowerChar
    split
    · nofun
    · split <;> nofun

theorem isLower_lowerFrom : ∀ (t before : Text), ∀ c ∈ lowerFrom before t, IsLower c
  | [], _ => nofun
  | c :: t, before => by
    obtain ⟨u, hu, -, hlower, -⟩ := lowerFrom_cons before c t
    rw [hu, List.forall_mem_append]
    exact ⟨hlower, isLower_lowerFrom t (c :: before)⟩

theorem lowerFrom_ne_nil {t : Text} (h : t ≠ []) (before : Text) : lowerFrom before t ≠ [] := by
  cases t with
  | nil => exact absurd rfl h
  | cons c t =>
    obtain ⟨u, hu, hne, -, -⟩ := lowerFrom_cons before c t
    rw [hu]; exact List.append_ne_nil_of_left_ne_nil hne _

theorem isSolid_lowerFrom : ∀ {t : Text} (before : Text), Text.IsSolid t → Text.IsSolid (lowerFrom before t)
  | [], _, _ => nofun
  | c :: t, before, h => by
    obtain ⟨hc, ht⟩ := List.forall_mem_cons.1 h
    obtain ⟨u, hu, -, -, hsolid⟩ := lowerFrom_cons before c t
    rw [hu, Text.IsSolid, List.forall_mem_append]
    exact ⟨hsolid hc, isSolid_lowerFrom (c :: before) ht⟩

theorem lowerFrom_eq_self : ∀ {t : Text} (before : Text), (∀ c ∈ t, IsLower c) → lowerFrom before t = t
  | [], _, _ => rfl
  | c :: t, before, h => by
    obtain ⟨⟨hsigma, hc⟩, ht⟩ := List.forall_mem_cons.1 h
    rw [lowerFrom, if_neg hsigma, hc, lowerFrom_eq_self _ ht]; rfl

/-- White space stays where it is. -/
theorem lowerFrom_cons_of_isSpace {c : Char} (hc : isSpace c) (before t : Text) :
    lowerFrom before (c :: t) = c :: lowerFrom (c :: before) t := by
  have hother : ∀ d ∈ ['\u03a3', '\u0130'], c ≠ d := by
    rintro d hd rfl
    revert hc
    revert c
    decide
  rw [lowerFrom, if_neg (hother _ (by decide)), lowerChar_eq (hother _ (by decide)),
    image_of_isSpace isCharTable_lowerShifts hc]
  rfl

theorem endsSolid_lowerFrom_iff : ∀ {t : Text} (before : Text),
    Text.EndsSolid (lowerFrom before t) ↔ Text.EndsSolid t
  | [], _ => Iff.rfl
  | [c], before => by
    rcases hc : isSpace c with _ | _
    · obtain ⟨u, hu, -, -, hsolid⟩ := lowerFrom_cons before c []
      rw [hu, lowerFrom, List.append_nil]
      exact ⟨fun _ => Text.endsSolid_concat (t := []).2 hc, fun _ => (hsolid hc).endsSolid⟩
    · rw [lowerFrom_cons_of_isSpace hc, lowerFrom]
  | c :: d :: t, before => by
    obtain ⟨u, hu, -, -, -⟩ := lowerFrom_cons before c (d :: t)
    have hne := lowerFrom_ne_nil (List.cons_ne_nil d t) (c :: before)
    have hend : Text.EndsSolid (u ++ lowerFrom (c :: before) (d :: t)) ↔
        Text.EndsSolid (lowerFrom (c :: before) (d :: t)) := ⟨fun h => h.of_append, fun h => h.append hne u⟩
    rw [hu]
    exact hend.trans (endsSolid_lowerFrom_iff (c :: before))

/-! ## Lower case by position -/

/-- Does the text start with a cased character, but for case-ignorable ones in front of it? -/
def StartsCased (t : Text) : Prop :=
  ∃ a c b, t = a ++ c :: b ∧ (∀ d ∈ a, isCaseIgnorable d) ∧ isCaseIgnorable c = false ∧ isCased c

/-- Does the text end in a cased character, but for case-ignorable ones behind it? -/
def EndsCased (t : Text) : Prop :=
  ∃ a c b, t = a ++ c :: b ∧ isCased c ∧ isCaseIgnorable c = false ∧ ∀ d ∈ b, isCaseIgnorable d

theorem meetsCased_iff {t : Text} : meetsCased t ↔ StartsCased t := by
  unfold meetsCased
  constructor
  · intro h
    rcases hrest : t.dropWhile isCaseIgnorable with _ | ⟨c, b⟩
    · rw [hrest] at h; cases h
    · have hhead := List.head?_dropWhile_not isCaseIgnorable t
      rw [hrest] at h hhead
      refine ⟨t.takeWhile isCaseIgnorable, c, b, ?_, fun d => List.mem_takeWhile_imp, by simpa using hhead, h⟩
      rw [← hrest, List.takeWhile_append_dropWhile]
  · rintro ⟨a, c, b, rfl, ha, hc, hcased⟩
    rw [List.dropWhile_append_of_pos ha, List.dropWhile_cons_of_neg (by simp [hc])]
    exact hcased

/-- Read backwards, a text starts as it ends. -/
theorem meetsCased_reverse_iff {t : Text} : meetsCased t.reverse ↔ EndsCased t := by
  rw [meetsCased_iff]
  constructor
  · rintro ⟨a, c, b, h, ha, hc, hcased⟩
    refine ⟨b.reverse, c, a.reverse, ?_, hcased, hc, fun d hd => ha d (List.mem_reverse.1 hd)⟩
    rw [← List.reverse_reverse t, h]
    simp
  · rintro ⟨a, c, b, rfl, hcased, hc, hb⟩
    exact ⟨b.reverse, c, a.reverse, by simp, fun d hd => hb d (List.mem_reverse.1 hd), hc, hcased⟩

/-- Is a sigma the last letter of a word, between the text in front of it and the text behind it? -/
def IsFinal (before after : Text) : Prop := EndsCased before ∧ ¬ StartsCased after

instance (before after : Text) : Decidable (IsFinal before after) :=
  decidable_of_iff (meetsCased before.reverse ∧ ¬ meetsCased after)
    (and_congr meetsCased_reverse_iff (not_congr meetsCased_iff))

/-- The lower case of a character between the text in front of it and the text behind it. -/
def lowerAt (before : Text) (c : Char) (after : Text) : Text :=
  if c = '\u03a3' then [if IsFinal before after then '\u03c2' else '\u03c3']
  else if c = '\u0130' then ['i', '\u0307']
  else [image lowerShifts c]

/-- Each character of a text in lower case by itself. -/
def lowered (t : Text) : Text := (t.mapIdx fun i c => lowerAt (t.take i) c (t.drop (i + 1))).flatten

theorem lowerFrom_eq (t : Text) : ∀ before : Text, lowerFrom before t =
    (t.mapIdx fun i c => lowerAt (before.reverse ++ t.take i) c (t.drop (i + 1))).flatten := by
  induction t with
  | nil => exact fun _ => rfl
  | cons c t ih =>
    intro before
    have hfinal : (meetsCased before && !meetsCased t) = decide (IsFinal before.reverse t) := by
      rw [Bool.eq_iff_iff, decide_eq_true_eq, IsFinal, ← meetsCased_reverse_iff, ← meetsCased_iff,
        List.reverse_reverse]
      simp
    have hhead : (if c = '\u03a3' then [if meetsCased before && !meetsCased t then '\u03c2' else '\u03c3']
        else lowerChar c) = lowerAt before.reverse c t := by
      unfold lowerAt
      rw [hfinal]
      simp only [decide_eq_true_eq]
      split
      · rfl
      · split
        · rename_i hdot
          rw [hdot, lowerChar_dot]
        · exact lowerChar_eq ‹_›
    rw [lowerFrom, hhead, ih, List.mapIdx_cons, List.flatten_cons]
    simp

end Unicode

namespace Text

open Unicode (IsLower)

/-- **Lower case is told character by character**: all of them but the capital sigma and the capital I with a dot
become one other character, wherever they stand. -/
theorem lower_eq (t : Text) : t.lower = Unicode.lowered t := Unicode.lowerFrom_eq t []

/-- **Lower case is left as it is by lower case.** -/
theorem lower_lower (t : Text) : t.lower.lower = t.lower :=
  Unicode.lowerFrom_eq_self [] (Unicode.isLower_lowerFrom t [])

theorem startsBlank_lower (t : Text) : startsBlank t.lower = startsBlank t := by
  cases t with
  | nil => rfl
  | cons c t =>
    rcases hc : Unicode.isSpace c with _ | _
    · obtain ⟨u, hu, hne, -, hsolid⟩ := Unicode.lowerFrom_cons [] c t
      rw [lower, hu, startsBlank_append hne, (hsolid hc).startsBlank]
      exact hc.symm
    · rw [lower, Unicode.lowerFrom_cons_of_isSpace hc]; rfl

/-- **A text is trimmed if it is so in lower case.** -/
theorem trim_lower_iff {t : Text} : t.lower.trim = t.lower ↔ t.trim = t := by
  rw [trim_eq_self_iff, trim_eq_self_iff, startsBlank_lower, lower, Unicode.endsSolid_lowerFrom_iff]

end Text

end Readout
