/-
  JSON that is written is read back.

  * `readString?_flatMap_escape`: so is a text in quotes, whatever characters there are in it;
  * `IsPlain`: is the value made of texts, without numbers?
  * `ReadsBack`: a value is read back wherever it stands, `ReadsBack.array`, `ReadsBack.object`: if its parts are;
  * `parse?_pretty`: a plain value that is written is read back.
-/
import Mathlib.Data.List.Basic
import Mathlib.Data.List.TakeWhile
import Readout.Json.Reader

namespace Readout

theorem Text.hexValue?_hexDigit : ∀ {n : Nat}, n < 16 → hexValue? (hexDigit n) = some n := by decide

namespace Json

/-! ## Texts -/

/-- The number of a control character is read back. -/
theorem readEscape?_unit {n : Nat} (h : n < 32) (t : Text) :
    readEscape? ('u' :: '0' :: '0' :: Text.hexDigit (n / 16) :: Text.hexDigit (n % 16) :: t) =
      some (some (Char.ofNat n), t) := by
  have hzero : Text.hexValue? '0' = some 0 := by decide
  have hhigh : Text.hexValue? (Text.hexDigit (n / 16)) = some (n / 16) := Text.hexValue?_hexDigit (by omega)
  have hlow : Text.hexValue? (Text.hexDigit (n % 16)) = some (n % 16) := Text.hexValue?_hexDigit (by omega)
  have hunit : readUnit? ('0' :: '0' :: Text.hexDigit (n / 16) :: Text.hexDigit (n % 16) :: t) = some (n, t) := by
    simp only [readUnit?, hzero, hhigh, hlow, Option.bind_eq_bind, Option.bind_some, Option.some.injEq, Prod.mk.injEq,
      and_true]
    omega
  rw [readEscape?, readCodePoint?, hunit]
  simp [show n < 55296 by omega]

theorem readString?_backslash {t rest : Text} {c : Char} (h : readEscape? t = some (some c, rest)) (fuel : Nat) :
    readString? (fuel + 1) ('\\' :: t) = (readString? fuel rest).map fun p => (p.1.map (c :: ·), p.2) := by
  simp only [readString?, h, Option.bind_eq_bind, Option.bind_some]
  rcases readString? fuel rest with _ | ⟨s, rest⟩ <;> rfl

theorem readString?_plain {c : Char} (hquote : c ≠ '"') (hbackslash : c ≠ '\\') (h : 32 ≤ c.toNat) (fuel : Nat)
    (t : Text) : readString? (fuel + 1) (c :: t) = (readString? fuel t).map fun p => (p.1.map (c :: ·), p.2) := by
  rw [readString?, if_neg (by omega)]
  · rcases readString? fuel t with _ | ⟨s, rest⟩ <;> rfl
  · exact hquote
  · exact hbackslash

/-- **A character that is written is read back.** -/
theorem readString?_escape (c : Char) (fuel : Nat) (t : Text) :
    readString? (fuel + 1) (escape c ++ t) = (readString? fuel t).map fun p => (p.1.map (c :: ·), p.2) := by
  unfold escape
  split
  iterate 7 exact readString?_backslash (by rfl) fuel
  rename_i hquote hbackslash _ _ _ _ _
  split
  · rename_i h
    have hunit := readEscape?_unit h t
    rw [Char.ofNat_toNat] at hunit
    exact readString?_backslash hunit fuel
  · rename_i h
    exact readString?_plain hquote hbackslash (by omega) fuel t

theorem length_escape_pos (c : Char) : 0 < (escape c).length := by
  unfold escape
  split
  iterate 7 exact Nat.succ_pos _
  split <;> exact Nat.succ_pos _

theorem length_le_flatMap_escape (s : Text) : s.length ≤ (s.flatMap escape).length := by
  induction s with
  | nil => exact Nat.le_refl _
  | cons c s ih =>
    have hc := length_escape_pos c
    simp only [List.flatMap_cons, List.length_cons, List.length_append]
    omega

/-- **A text that is written is read back**, whatever characters there are in it. -/
theorem readString?_flatMap_escape : ∀ {s : Text} {fuel : Nat}, s.length < fuel → ∀ rest,
    readString? fuel (s.flatMap escape ++ '"' :: rest) = some (some s, rest)
  | [], _ + 1, _, _ => rfl
  | c :: s, fuel + 1, h, rest => by
    rw [List.flatMap_cons, List.append_assoc, readString?_escape,
      readString?_flatMap_escape (Nat.lt_of_succ_lt_succ h)]
    rfl

/-! ## Blanks -/

theorem skipBlank_cons {c : Char} (h : isBlank c = false) (t : Text) : skipBlank (c :: t) = c :: t :=
  List.dropWhile_cons_of_neg (by simp [h])

/-- The white space at the start of a line is skipped. -/
theorem skipBlank_newline (level : Nat) (t : Text) : skipBlank (newline level ++ t) = skipBlank t := by
  refine List.dropWhile_append_of_pos fun c hc => ?_
  rcases List.mem_cons.1 hc with rfl | hc
  · rfl
  · rw [List.eq_of_mem_replicate hc]; rfl

theorem length_skipBlank_le (t : Text) : (skipBlank t).length ≤ t.length := List.length_dropWhile_le _ t

/-! ## Values -/

/-- Is the value made of texts, arrays and objects, without numbers? -/
inductive IsPlain : Json → Prop
  | null : IsPlain null
  | bool (b : Bool) : IsPlain (bool b)
  | string (t : Text) : IsPlain (string t)
  | array {js : List Json} : (∀ j ∈ js, IsPlain j) → IsPlain (array js)
  | object {ms : List (Text × Json)} : (∀ m ∈ ms, IsPlain m.2) → IsPlain (object ms)

/-- A value starts with a character that is not blank, and does not look like the end of an array. -/
theorem IsPlain.exists_cons {j : Json} (h : j.IsPlain) (level : Nat) :
    ∃ c t, prettyAt level j = c :: t ∧ isBlank c = false ∧ c ≠ ']' := by
  cases h with
  | null => exact ⟨'n', "ull".toList, rfl, by decide, by decide⟩
  | bool b =>
    cases b with
    | false => exact ⟨'f', "alse".toList, rfl, by decide, by decide⟩
    | true => exact ⟨'t', "rue".toList, rfl, by decide, by decide⟩
  | string t => exact ⟨'"', _, rfl, by decide, by decide⟩
  | @array js _ => cases js <;> exact ⟨'[', _, rfl, by decide, by decide⟩
  | @object ms _ => cases ms <;> exact ⟨'\x7b', _, rfl, by decide, by decide⟩

/-- Is the value read back wherever it stands, with white space in front of it, and with fuel for the characters that
    are there to be read? -/
def ReadsBack (j : Json) : Prop := ∀ (level fuel : Nat) (t rest : Text), skipBlank t = prettyAt level j ++ rest →
  2 * t.length + 1 ≤ fuel → readValue? fuel t = some (j, rest)

/-- There is always fuel for a first step. -/
theorem readsBack_of_succ {j : Json} (h : ∀ (level fuel : Nat) (t rest : Text), skipBlank t = prettyAt level j ++ rest →
    2 * t.length ≤ fuel → readValue? (fuel + 1) t = some (j, rest)) : ReadsBack j := by
  intro level fuel t rest ht hfuel
  obtain ⟨fuel, rfl⟩ := Nat.exists_eq_add_of_le' (Nat.le_of_add_left_le hfuel)
  exact h level fuel t rest ht (Nat.le_of_succ_le_succ hfuel)

/-- Of a value in front of other text, that text is left. -/
theorem IsPlain.length_lt {j : Json} (h : j.IsPlain) {level : Nat} {t rest : Text}
    (ht : skipBlank t = prettyAt level j ++ rest) : rest.length < t.length := by
  obtain ⟨c, u, hu, -⟩ := h.exists_cons level
  have hlength := length_skipBlank_le t
  rw [ht, hu, List.cons_append, List.length_cons, List.length_append] at hlength
  omega

theorem IsPlain.skipBlank_prettyAt {j : Json} (h : j.IsPlain) (level : Nat) (rest : Text) :
    skipBlank (prettyAt level j ++ rest) = prettyAt level j ++ rest := by
  obtain ⟨c, u, hu, hc, -⟩ := h.exists_cons level
  rw [hu, List.cons_append, skipBlank_cons hc]

theorem readsBack_null : ReadsBack null := by
  refine readsBack_of_succ fun level fuel t rest h hfuel => ?_
  have htext : skipBlank t = 'n' :: 'u' :: 'l' :: 'l' :: rest := h
  rw [readValue?, htext]; rfl

theorem readsBack_bool (b : Bool) : ReadsBack (bool b) := by
  refine readsBack_of_succ fun level fuel t rest h hfuel => ?_
  cases b with
  | false =>
    have htext : skipBlank t = 'f' :: 'a' :: 'l' :: 's' :: 'e' :: rest := h
    rw [readValue?, htext]; rfl
  | true =>
    have htext : skipBlank t = 't' :: 'r' :: 'u' :: 'e' :: rest := h
    rw [readValue?, htext]; rfl

theorem readString?_quote (s rest : Text) {fuel : Nat} (h : (s.flatMap escape ++ '"' :: rest).length < fuel) :
    readString? fuel (s.flatMap escape ++ '"' :: rest) = some (some s, rest) := by
  refine readString?_flatMap_escape ?_ rest
  have hlength := length_le_flatMap_escape s
  rw [List.length_append] at h
  omega

theorem readsBack_string (s : Text) : ReadsBack (.string s) := by
  refine readsBack_of_succ fun level fuel t rest h hfuel => ?_
  have htext : skipBlank t = '"' :: (s.flatMap escape ++ '"' :: rest) := by
    rw [h, prettyAt, quote]
    simp
  rw [readValue?, htext]
  simp only [readString?_quote s rest (Nat.lt_succ_self _)]
  rfl

/-! ## Arrays -/

/-- The text from the first item of an array on. -/
def fromItem (level outer : Nat) (j : Json) (js : List Json) (rest : Text) : Text :=
  prettyAt level j ++ (prettyItems level js ++ (newline outer ++ ']' :: rest))

theorem prettyItems_cons_append (level outer : Nat) (j : Json) (js : List Json) (rest : Text) :
    prettyItems level (j :: js) ++ (newline outer ++ ']' :: rest) =
      ',' :: (newline level ++ fromItem level outer j js rest) := by
  rw [prettyItems, fromItem]
  simp only [List.append_assoc, List.cons_append]

theorem prettyAt_array_append (level : Nat) (j : Json) (js : List Json) (rest : Text) :
    prettyAt level (array (j :: js)) ++ rest =
      '[' :: (newline (level + 1) ++ fromItem (level + 1) level j js rest) := by
  rw [prettyAt, fromItem]
  simp only [List.append_assoc, List.cons_append, List.nil_append]

/-- The items of an array are read back up to its bracket. -/
theorem readItems?_fromItem {level outer : Nat} : ∀ {js : List Json} {j : Json}, (∀ k ∈ j :: js, IsPlain k) →
    (∀ k ∈ j :: js, ReadsBack k) → ∀ {fuel : Nat} {t rest : Text}, skipBlank t = fromItem level outer j js rest →
    2 * t.length + 2 ≤ fuel → readItems? fuel t = some (j :: js, rest)
  | js, j, _, _, 0, t, rest, _, hfuel => by omega
  | [], j, hplain, hback, fuel + 1, t, rest, ht, hfuel => by
    have hj := hback j List.mem_cons_self level fuel t _ ht (by omega)
    have hend : skipBlank (prettyItems level [] ++ (newline outer ++ ']' :: rest)) = ']' :: rest := by
      rw [prettyItems, List.nil_append, skipBlank_newline, skipBlank_cons (by decide)]
    rw [readItems?, hj]
    simp only [Option.bind_eq_bind, Option.bind_some, hend]
  | k :: js, j, hplain, hback, fuel + 1, t, rest, ht, hfuel => by
    have hj := hback j List.mem_cons_self level fuel t _ ht (by omega)
    have hlength := (hplain j List.mem_cons_self).length_lt ht
    rw [prettyItems_cons_append] at hj hlength
    have hskip : skipBlank (newline level ++ fromItem level outer k js rest) = fromItem level outer k js rest :=
      (skipBlank_newline _ _).trans ((hplain k (by simp)).skipBlank_prettyAt _ _)
    have hroom : 2 * (newline level ++ fromItem level outer k js rest).length + 2 ≤ fuel := by
      rw [List.length_cons] at hlength; omega
    have hitems := readItems?_fromItem (fun k hk => hplain k (List.mem_cons_of_mem _ hk))
      (fun k hk => hback k (List.mem_cons_of_mem _ hk)) hskip hroom
    rw [readItems?, hj]
    simp only [Option.bind_eq_bind, Option.bind_some, skipBlank_cons (c := ',') (by decide), hitems]

/-- Behind a bracket there are items, unless the array ends there. -/
theorem readValue?_bracket {fuel : Nat} {t u v : Text} {c : Char} (ht : skipBlank t = '[' :: u)
    (hu : skipBlank u = c :: v) (hc : c ≠ ']') :
    readValue? (fuel + 1) t = (readItems? fuel (c :: v)).map fun p => (array p.1, p.2) := by
  rw [readValue?, ht]
  simp only [hu]
  split
  · rename_i heq
    exact absurd (List.cons.inj heq).1 hc
  · rfl

/-- **An array is read back if its items are.** -/
theorem readsBack_array {js : List Json} (hplain : ∀ j ∈ js, IsPlain j) (hback : ∀ j ∈ js, ReadsBack j) :
    ReadsBack (array js) := by
  refine readsBack_of_succ fun level fuel t rest h hfuel => ?_
  cases js with
  | nil =>
    have htext : skipBlank t = '[' :: ']' :: rest := h
    rw [readValue?, htext]
    simp only [skipBlank_cons (c := ']') (by decide)]
  | cons j js =>
    rw [prettyAt_array_append] at h
    have hj := hplain j List.mem_cons_self
    have hskip : skipBlank (fromItem (level + 1) level j js rest) = fromItem (level + 1) level j js rest :=
      hj.skipBlank_prettyAt _ _
    have hlength := length_skipBlank_le t
    rw [h, List.length_cons, List.length_append] at hlength
    have hroom : 2 * (fromItem (level + 1) level j js rest).length + 2 ≤ fuel := by omega
    have hitems := readItems?_fromItem hplain hback hskip hroom
    obtain ⟨c, u, hu, -, hc⟩ := hj.exists_cons (level + 1)
    have hhead : fromItem (level + 1) level j js rest =
        c :: (u ++ (prettyItems (level + 1) js ++ (newline level ++ ']' :: rest))) := by rw [fromItem, hu]; rfl
    have hbehind := (skipBlank_newline (level + 1) (fromItem (level + 1) level j js rest)).trans (hskip.trans hhead)
    rw [readValue?_bracket h hbehind hc, ← hhead, hitems]
    rfl

/-! ## Objects -/

/-- The text from the first member of an object on. -/
def fromMember (level outer : Nat) (k : Text) (j : Json) (ms : List (Text × Json)) (rest : Text) : Text :=
  quote k ++ (": ".toList ++ (prettyAt level j ++ (prettyMembers level ms ++ (newline outer ++ '\x7d' :: rest))))

theorem prettyMembers_cons_append (level outer : Nat) (k : Text) (j : Json) (ms : List (Text × Json)) (rest : Text) :
    prettyMembers level ((k, j) :: ms) ++ (newline outer ++ '\x7d' :: rest) =
      ',' :: (newline level ++ fromMember level outer k j ms rest) := by
  rw [prettyMembers, fromMember]
  simp only [List.append_assoc, List.cons_append]

theorem prettyAt_object_append (level : Nat) (k : Text) (j : Json) (ms : List (Text × Json)) (rest : Text) :
    prettyAt level (object ((k, j) :: ms)) ++ rest =
      '\x7b' :: (newline (level + 1) ++ fromMember (level + 1) level k j ms rest) := by
  rw [prettyAt, fromMember]
  simp only [List.append_assoc, List.cons_append, List.nil_append]

theorem skipBlank_newline_fromMember (level outer : Nat) (k : Text) (j : Json) (ms : List (Text × Json)) (rest : Text) :
    skipBlank (newline level ++ fromMember level outer k j ms rest) = fromMember level outer k j ms rest :=
  (skipBlank_newline _ _).trans (skipBlank_cons (by decide) _)

/-- A member starts with its name in quotes, and its value stands behind a colon. -/
theorem fromMember_eq (level outer : Nat) (k : Text) (j : Json) (ms : List (Text × Json)) (rest : Text) :
    fromMember level outer k j ms rest = '"' :: (k.flatMap escape ++ '"' :: ':' :: ' ' ::
      (prettyAt level j ++ (prettyMembers level ms ++ (newline outer ++ '\x7d' :: rest)))) := by
  rw [fromMember, quote, show ": ".toList = [':', ' '] by decide]
  simp only [List.append_assoc, List.cons_append, List.nil_append]

/-- The members of an object are read back up to its brace. -/
theorem readMembers?_fromMember {level outer : Nat} : ∀ {ms : List (Text × Json)} {k : Text} {j : Json},
    (∀ m ∈ (k, j) :: ms, IsPlain m.2) → (∀ m ∈ (k, j) :: ms, ReadsBack m.2) → ∀ {fuel : Nat} {t rest : Text},
    skipBlank t = fromMember level outer k j ms rest → 2 * t.length + 2 ≤ fuel →
    readMembers? fuel t = some (some ((k, j) :: ms), rest)
  | ms, k, j, _, _, 0, t, rest, _, hfuel => by omega
  | ms, k, j, hplain, hback, fuel + 1, t, rest, ht, hfuel => by
    rw [fromMember_eq] at ht
    generalize hrest : prettyMembers level ms ++ (newline outer ++ '\x7d' :: rest) = u at ht
    have hname := readString?_quote k (':' :: ' ' :: (prettyAt level j ++ u)) (Nat.lt_succ_self _)
    have hblank : skipBlank (' ' :: (prettyAt level j ++ u)) = prettyAt level j ++ u :=
      (List.dropWhile_cons_of_pos (by decide)).trans ((hplain _ List.mem_cons_self).skipBlank_prettyAt level u)
    have hlength := length_skipBlank_le t
    rw [ht] at hlength
    simp only [List.length_cons, List.length_append] at hlength
    have hvalue := hback _ List.mem_cons_self level fuel _ u hblank (by
      simp only [List.length_cons, List.length_append]; omega)
    rw [readMembers?, ht]
    simp only [hname, Option.bind_eq_bind, Option.bind_some, skipBlank_cons (c := ':') (by decide), hvalue]
    cases ms with
    | nil =>
      have hend : skipBlank u = '\x7d' :: rest := by
        rw [← hrest, prettyMembers, List.nil_append, skipBlank_newline, skipBlank_cons (by decide)]
      simp only [hend, Option.map_some]
    | cons m ms =>
      rw [prettyMembers_cons_append] at hrest
      rw [← hrest, List.length_cons] at hlength
      have hroom : 2 * (newline level ++ fromMember level outer m.1 m.2 ms rest).length + 2 ≤ fuel := by omega
      have hmembers := readMembers?_fromMember (fun m hm => hplain m (List.mem_cons_of_mem _ hm))
        (fun m hm => hback m (List.mem_cons_of_mem _ hm)) (skipBlank_newline_fromMember level outer _ _ ms rest) hroom
      simp only [← hrest, skipBlank_cons (c := ',') (by decide), hmembers, Option.bind_some, Option.map_some]

/-- Behind a brace there are members, if there is a quote. -/
theorem readValue?_brace {fuel : Nat} {t u v : Text} (ht : skipBlank t = '\x7b' :: u) (hu : skipBlank u = '"' :: v) :
    readValue? (fuel + 1) t =
      (readMembers? fuel u).map fun p => orRaw ('\x7b' :: u) (p.1.map object) p.2 := by
  rw [readValue?, ht]
  simp only [hu]
  rfl

/-- **An object is read back if its members are.** -/
theorem readsBack_object {ms : List (Text × Json)} (hplain : ∀ m ∈ ms, IsPlain m.2)
    (hback : ∀ m ∈ ms, ReadsBack m.2) : ReadsBack (object ms) := by
  refine readsBack_of_succ fun level fuel t rest h hfuel => ?_
  cases ms with
  | nil =>
    have htext : skipBlank t = '\x7b' :: '\x7d' :: rest := h
    rw [readValue?, htext]
    simp only [skipBlank_cons (c := '\x7d') (by decide)]
  | cons m ms =>
    rw [prettyAt_object_append] at h
    have hskip := skipBlank_newline_fromMember (level + 1) level m.1 m.2 ms rest
    have hlength := length_skipBlank_le t
    rw [h, List.length_cons] at hlength
    have hroom : 2 * (newline (level + 1) ++ fromMember (level + 1) level m.1 m.2 ms rest).length + 2 ≤ fuel := by omega
    have hmembers := readMembers?_fromMember hplain hback hskip hroom
    rw [readValue?_brace h (hskip.trans (fromMember_eq ..)), hmembers]
    rfl

/-! ## The whole text -/

/-- **A plain value is read back wherever it stands.** -/
theorem IsPlain.readsBack {j : Json} (h : j.IsPlain) : ReadsBack j := by
  induction h with
  | null => exact readsBack_null
  | bool b => exact readsBack_bool b
  | string t => exact readsBack_string t
  | array hplain ih => exact readsBack_array hplain ih
  | object hplain ih => exact readsBack_object hplain ih

/-- **A plain value that is written is read back.** -/
theorem parse?_pretty {j : Json} (h : j.IsPlain) : parse? j.pretty = some j := by
  have hskip := h.skipBlank_prettyAt 0 []
  rw [parse?, pretty, ← List.append_nil (prettyAt 0 j), h.readsBack 0 _ _ [] hskip (Nat.le_succ _)]
  rfl

end Json

end Readout
