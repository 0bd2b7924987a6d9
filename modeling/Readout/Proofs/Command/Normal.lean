/-
  The normal form of a command.

  * `singleSpaced_normalize`: its words are separated by single blanks;
  * `normalize_normalize`: a command in normal form is its own normal form;
  * `normalize_gap`: white space between two commands is one blank between their normal forms;
  * `normalize_canonical`: all of it, with what becomes of the letters.
-/
import Readout.Index.Selection
import Readout.Proofs.Text.Words
import Readout.Proofs.Unicode.Case

namespace Readout.Command

open Unicode (isSpace)
open Text (IsWord)

/-- Lower case makes words of words. -/
theorem isWord_lower {t : Text} (h : IsWord t) : IsWord t.lower :=
  ⟨Unicode.lowerFrom_ne_nil h.1 [], Unicode.isSolid_lowerFrom [] h.2⟩

theorem isWord_of_mem_lower (t : Text) : ∀ u ∈ t.words.map Text.lower, IsWord u := by
  intro u hu
  obtain ⟨v, hv, rfl⟩ := List.mem_map.1 hu
  exact isWord_lower (Text.isWord_of_mem_words v hv)

theorem singleSpaced_normalize (t : Text) : (normalize t).SingleSpaced :=
  Text.singleSpaced_joinWith (isWord_of_mem_lower t)

/-- **A command in normal form is its own normal form.** -/
theorem normalize_normalize (t : Text) : normalize (normalize t) = normalize t := by
  rw [normalize, normalize, Text.words_joinWith (isWord_of_mem_lower t), List.map_map]
  congr 1
  exact List.map_congr_left fun u _ => Text.lower_lower u

/-- **White space between two commands is one blank between their normal forms.** -/
theorem normalize_gap {x y w : Text} (hx : ∃ c ∈ x, isSpace c = false) (hne : w ≠ [])
    (hw : ∀ c ∈ w, isSpace c) (hy : ∃ c ∈ y, isSpace c = false) :
    normalize (x ++ (w ++ y)) = normalize x ++ ' ' :: normalize y := by
  obtain ⟨c, hcx, hc⟩ := hx
  obtain ⟨d, hdy, hd⟩ := hy
  have hblank : Text.startsBlank (w ++ y) := by
    obtain ⟨b, w, rfl⟩ := List.exists_cons_of_ne_nil hne
    exact hw b List.mem_cons_self
  rw [normalize, Text.words_append_of_startsBlank (.inr hblank), Text.words_of_isSpace hw, List.map_append,
    Text.joinWith_append]
  · rfl
  · exact mt List.map_eq_nil_iff.1 (Text.words_ne_nil hcx hc)
  · exact mt List.map_eq_nil_iff.1 (Text.words_ne_nil hdy hd)

open Index in
/-- **The normal form is canonical.**  It is its own normal form, and its words are those of the command, in lower
case by their characters.  White space stands in it as single blanks between words, however the words of the
command are spaced.  A command and its normal form are served by the same template. -/
theorem normalize_canonical (x : Text) :
    normalize (normalize x) = normalize x ∧ (normalize x).SingleSpaced ∧
      (∀ w y : Text, (∃ c ∈ x, isSpace c = false) → w ≠ [] → (∀ c ∈ w, isSpace c) →
        (∃ c ∈ y, isSpace c = false) → normalize (x ++ (w ++ y)) = normalize x ++ ' ' :: normalize y) ∧
      (∀ (r : Registry) (dirs : List Path) (present : Path → Bool) (platform : Text),
        r.find dirs present platform (normalize x) = r.find dirs present platform x) ∧
      normalize x = Text.joinWith [' '] (x.words.map Unicode.lowered) := by
  refine ⟨normalize_normalize x, singleSpaced_normalize x, fun w y hx hne hw hy => normalize_gap hx hne hw hy,
    fun r dirs present platform => ?_, ?_⟩
  · rw [Registry.find, normalize_normalize, Registry.find]
  · exact congrArg (Text.joinWith [' ']) (List.map_congr_left fun u _ => Text.lower_eq u)

theorem normalize_canonical_sigma :
    normalize (" ΟΔΟΣ\tΣΑΣ.".toList ++ ("\r\n".toList ++ "İOS ".toList)) =
        normalize " ΟΔΟΣ\tΣΑΣ.".toList ++ ' ' :: normalize "İOS ".toList ∧
      normalize " ΟΔΟΣ\tΣΑΣ.".toList = "οδος σας.".toList ∧ normalize "İOS ".toList = "i̇os".toList :=
  ⟨(normalize_canonical " ΟΔΟΣ\tΣΑΣ.".toList).2.2.1 "\r\n".toList "İOS ".toList ⟨'Ο', by decide, by decide⟩
    (by decide) (by decide) ⟨'O', by decide, by decide⟩, by decide +kernel, by decide +kernel⟩

end Readout.Command
