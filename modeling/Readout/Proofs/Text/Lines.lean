/-
  Texts that are written and read again: white space and quotes at the ends, pieces, and lines.

  * `trim_eq_self`: a text that starts and ends in other characters than white space is its own trimming;
  * `splitWord_append`: the first word ends at the first white space;
  * `pieces_append_sep`, `pieces_of_notMem`: a text falls apart where a separator stands, and nowhere else;
  * `stripQuotes_eq_iff`: which double quotes are taken off a text;
  * `lines_unlines`: the lines of a document are those that it is written from, but for carriage returns at
    their ends; `trim_dropReturn`: trimming takes these off anyway.
-/
import Mathlib.Data.List.Basic
import Mathlib.Data.List.Induction
import Mathlib.Data.List.TakeDrop
import Mathlib.Data.List.TakeWhile
import Readout.Text.Lines

namespace Readout.Text

variable {c : Char} {t : Text}

/-- What is said of the characters of a text is decided on the text, not on all the characters there are. -/
instance (t : Text) (p : Char → Prop) [DecidablePred p] : Decidable (∀ c ∈ t, p c) := List.decidableBAll ..

/-! ## White space -/

/-- Is there no white space at the end of a text? -/
def EndsSolid (t : Text) : Prop := ∀ c ∈ t.getLast?, Unicode.isSpace c = false

instance (t : Text) : Decidable (EndsSolid t) :=
  decidable_of_iff (t.getLast?.all fun c => !Unicode.isSpace c) (by simp [EndsSolid, Option.all_eq_true])

theorem endsSolid_concat : EndsSolid (t ++ [c]) ↔ Unicode.isSpace c = false := by
  simp [EndsSolid]

/-- The end of a text is the end of its last part. -/
theorem EndsSolid.append {u : Text} (hu : EndsSolid u) (hne : u ≠ []) (t : Text) : EndsSolid (t ++ u) := by
  unfold EndsSolid; rwa [List.getLast?_append_of_ne_nil _ hne]

/-- A part at the end of a text ends as the text does. -/
theorem EndsSolid.of_append {u : Text} (h : EndsSolid (u ++ t)) : EndsSolid t := by
  rcases eq_or_ne t [] with rfl | hne
  · exact nofun
  · unfold EndsSolid at h
    rwa [List.getLast?_append_of_ne_nil _ hne] at h

theorem EndsSolid.append_cons {u : Text} (hu : EndsSolid u) (hne : u ≠ []) (t : Text) (c : Char) :
    EndsSolid (t ++ c :: u) :=
  (hu.append hne [c]).append (List.cons_ne_nil _ _) t

/-- Only an empty text is white space and has none at its end. -/
theorem EndsSolid.eq_nil (h : EndsSolid t) (hspace : ∀ c ∈ t, Unicode.isSpace c) : t = [] := by
  rcases t.eq_nil_or_concat with rfl | ⟨t, c, rfl⟩
  · rfl
  · rw [List.concat_eq_append] at h hspace
    have hc := endsSolid_concat.1 h
    rw [hspace c (List.mem_append_right _ (List.mem_singleton_self c))] at hc
    cases hc

theorem trimEnd_cons (c : Char) (t : Text) :
    trimEnd (c :: t) = if (trimEnd t).isEmpty && Unicode.isSpace c then [] else c :: trimEnd t := rfl

theorem trimEnd_cons_of_solid (h : Unicode.isSpace c = false) (t : Text) : trimEnd (c :: t) = c :: trimEnd t := by
  rw [trimEnd_cons, h, Bool.and_false]; rfl

theorem trimEnd_of_isSpace : ∀ {t : Text}, (∀ c ∈ t, Unicode.isSpace c) → trimEnd t = []
  | [], _ => rfl
  | c :: t, h => by
    obtain ⟨hc, ht⟩ := List.forall_mem_cons.1 h
    rw [trimEnd_cons, trimEnd_of_isSpace ht, hc]; rfl

/-- Where something is left of the end of a text, nothing is taken off in front of it. -/
theorem trimEnd_append {u : Text} (h : trimEnd u ≠ []) : ∀ t : Text, trimEnd (t ++ u) = t ++ trimEnd u
  | [] => rfl
  | c :: t => by
    have hne : t ++ trimEnd u ≠ [] := List.append_ne_nil_of_right_ne_nil t h
    rw [List.cons_append, trimEnd_cons, trimEnd_append h t, List.isEmpty_eq_false_iff.2 hne]; rfl

/-- White space is not taken off in front of another character. -/
theorem trimEnd_append_cons (h : Unicode.isSpace c = false) (t u : Text) :
    trimEnd (t ++ c :: u) = t ++ c :: trimEnd u := by
  have hc : trimEnd (c :: u) = c :: trimEnd u := trimEnd_cons_of_solid h u
  rw [trimEnd_append (by rw [hc]; exact List.cons_ne_nil _ _), hc]

theorem trimEnd_concat_of_isSpace (h : Unicode.isSpace c) (t : Text) : trimEnd (t ++ [c]) = trimEnd t := by
  simp [trimEnd, h]

theorem trimEnd_concat (h : Unicode.isSpace c = false) (t : Text) : trimEnd (t ++ [c]) = t ++ [c] := by
  have hc : trimEnd [c] = [c] := by simp [trimEnd, h]
  rw [trimEnd_append (by rw [hc]; exact List.cons_ne_nil c []), hc]

theorem trimEnd_eq_self (h : EndsSolid t) : trimEnd t = t := by
  rcases t.eq_nil_or_concat with rfl | ⟨t, c, rfl⟩
  · rfl
  · rw [List.concat_eq_append] at h ⊢
    exact trimEnd_concat (endsSolid_concat.1 h) t

theorem trimStart_cons_of_isSpace (h : Unicode.isSpace c) (t : Text) : trimStart (c :: t) = trimStart t := by
  rw [trimStart, List.dropWhile_cons_of_pos h, ← trimStart]

theorem trim_cons (h : Unicode.isSpace c = false) (hend : EndsSolid (c :: t)) : trim (c :: t) = c :: t := by
  rw [trim, trimStart, List.dropWhile_cons_of_neg (by simp [h]), trimEnd_eq_self hend]

theorem trim_cons_of_isSpace (h : Unicode.isSpace c) (t : Text) : trim (c :: t) = trim t := by
  rw [trim, trimStart_cons_of_isSpace h, ← trim]

theorem trim_concat_of_isSpace (h : Unicode.isSpace c) (t : Text) : trim (t ++ [c]) = trim t := by
  rw [trim, trimStart, List.dropWhile_append]
  split
  · rename_i hall
    rw [trim, trimStart, List.isEmpty_iff.1 hall, List.dropWhile_cons_of_pos h]; rfl
  · exact trimEnd_concat_of_isSpace h _

theorem startsBlank_append (h : t ≠ []) (u : Text) : startsBlank (t ++ u) = startsBlank t := by
  cases t with
  | nil => exact absurd rfl h
  | cons c t => rfl

theorem trimStart_eq_self (h : startsBlank t = false) : trimStart t = t := by
  cases t with
  | nil => rfl
  | cons c t =>
    have hc : Unicode.isSpace c = false := h
    rw [trimStart, List.dropWhile_cons_of_neg (by simp [hc])]

theorem trimStart_append {w : Text} (hw : ∀ c ∈ w, Unicode.isSpace c) (t : Text) :
    trimStart (w ++ t) = trimStart t := by
  rw [trimStart, List.dropWhile_append_of_pos hw, ← trimStart]

/-- White space in front of a text is taken off, and nothing else. -/
theorem trimStart_gap {w : Text} (hw : ∀ c ∈ w, Unicode.isSpace c) (ht : startsBlank t = false) :
    trimStart (w ++ t) = t := by
  rw [trimStart_append hw, trimStart_eq_self ht]

/-- **A text that starts and ends in other characters than white space is its own trimming.** -/
theorem trim_eq_self (hstart : startsBlank t = false) (hend : EndsSolid t) : trim t = t := by
  cases t with
  | nil => rfl
  | cons c t => exact trim_cons hstart hend

theorem endsSolid_trimEnd (t : Text) : EndsSolid (trimEnd t) := by
  induction t with
  | nil => exact nofun
  | cons c t ih =>
    rw [trimEnd_cons]
    split
    · exact nofun
    · rename_i hkept
      by_cases hne : trimEnd t = []
      · have hc : Unicode.isSpace c = false := by simpa [hne] using hkept
        rw [hne]
        exact endsSolid_concat (t := []) |>.2 hc
      · exact ih.append hne [c]

theorem startsBlank_trimStart (t : Text) : startsBlank (trimStart t) = false := by
  have hhead := List.head?_dropWhile_not Unicode.isSpace t
  rw [← trimStart] at hhead
  rcases h : trimStart t with _ | ⟨c, u⟩
  · rfl
  · rw [h] at hhead
    exact hhead

theorem startsBlank_trim (t : Text) : startsBlank (trim t) = false := by
  have hstart := startsBlank_trimStart t
  rw [trim]
  rcases h : trimStart t with _ | ⟨c, u⟩
  · rfl
  · have hc : Unicode.isSpace c = false := by
      rw [h] at hstart
      exact hstart
    rw [trimEnd, List.foldr_cons, hc, Bool.and_false]
    exact hc

theorem trim_eq_self_iff : trim t = t ↔ startsBlank t = false ∧ EndsSolid t := by
  constructor
  · intro h
    rw [← h]
    exact ⟨startsBlank_trim t, endsSolid_trimEnd _⟩
  · rintro ⟨hstart, hend⟩
    exact trim_eq_self hstart hend

theorem trim_trim (t : Text) : trim (trim t) = trim t :=
  trim_eq_self (startsBlank_trim t) (endsSolid_trimEnd _)

theorem length_trimEnd_le (t : Text) : (trimEnd t).length ≤ t.length := by
  induction t with
  | nil => exact Nat.le_refl _
  | cons c t ih =>
    rw [trimEnd_cons]
    split
    · exact Nat.zero_le _
    · exact Nat.succ_le_succ ih

theorem length_trim_le (t : Text) : (trim t).length ≤ t.length :=
  (length_trimEnd_le _).trans (List.length_dropWhile_le _ t)

/-! ## Words -/

/-- Has a text no white space? -/
def IsSolid (t : Text) : Prop := ∀ c ∈ t, Unicode.isSpace c = false

theorem IsSolid.endsSolid (h : IsSolid t) : EndsSolid t := fun c hc => h c (List.mem_of_getLast? hc)

theorem IsSolid.startsBlank (h : IsSolid t) : startsBlank t = false := by
  cases t with
  | nil => rfl
  | cons c t => exact h c List.mem_cons_self

theorem IsSolid.feed_notMem (h : IsSolid t) : '\n' ∉ t := fun hmem => by
  have hfeed := h _ hmem
  revert hfeed; decide

theorem span_of_forall {p : Char → Bool} (h : ∀ c ∈ t, p c) : t.span p = (t, []) := by
  rw [List.span_eq_takeWhile_dropWhile, List.takeWhile_eq_self_iff.2 h, List.dropWhile_eq_nil_iff.2 h]

theorem span_append {p : Char → Bool} (h : ∀ c ∈ t, p c) (hc : p c = false) (u : Text) :
    (t ++ c :: u).span p = (t, c :: u) := by
  have hc' : ¬ p c := by simp [hc]
  rw [List.span_eq_takeWhile_dropWhile, List.takeWhile_append_of_pos h, List.dropWhile_append_of_pos h,
    List.takeWhile_cons_of_neg hc', List.dropWhile_cons_of_neg hc', List.append_nil]

/-- A text is cut in front of the first character that does not belong. -/
theorem span_eq_iff {p : Char → Bool} {u w : Text} :
    t.span p = (u, w) ↔ t = u ++ w ∧ (∀ c ∈ u, p c) ∧ ∀ c ∈ w.head?, p c = false := by
  constructor
  · intro h
    rw [List.span_eq_takeWhile_dropWhile] at h
    obtain ⟨rfl, rfl⟩ := Prod.mk.inj h
    refine ⟨List.takeWhile_append_dropWhile.symm, fun c hc => List.mem_takeWhile_imp hc, fun c hc => ?_⟩
    have hhead := List.head?_dropWhile_not p t
    rw [Option.mem_def.1 hc] at hhead
    simpa using hhead
  · rintro ⟨rfl, hu, hw⟩
    cases w with
    | nil => rw [List.append_nil, span_of_forall hu]
    | cons c w => exact span_append hu (hw c rfl) w

theorem splitWord_of_isSolid (h : IsSolid t) : splitWord t = (t, []) := by
  rw [splitWord, span_of_forall fun c hc => by simp [h c hc]]; rfl

/-- **The first word ends at the first white space.** -/
theorem splitWord_append (h : IsSolid t) (hc : Unicode.isSpace c) (u : Text) :
    splitWord (t ++ c :: u) = (t, trim u) := by
  rw [splitWord, span_append (fun c hc => by simp [h c hc]) (by simp [hc]), trim_cons_of_isSpace hc]

/-- **A text is its first word, the white space behind it, and the rest.** -/
theorem exists_gap_of_splitWord {u w : Text} (ht : EndsSolid t) (h : splitWord t = (u, w)) :
    IsSolid u ∧ EndsSolid w ∧ ∃ g : Text, (∀ c ∈ g, Unicode.isSpace c) ∧ (w ≠ [] → g ≠ []) ∧ t = u ++ (g ++ w) := by
  rw [splitWord, List.span_eq_takeWhile_dropWhile] at h
  obtain ⟨rfl, rfl⟩ := Prod.mk.inj h
  have hsplit := List.takeWhile_append_dropWhile (p := fun c => !Unicode.isSpace c) (l := t)
  have hspace := List.head?_dropWhile_not (fun c => !Unicode.isSpace c) t
  generalize t.dropWhile (fun c => !Unicode.isSpace c) = d at hsplit hspace
  have hgap : d.takeWhile Unicode.isSpace ++ trimStart d = d := List.takeWhile_append_dropWhile
  have hend : EndsSolid (trimStart d) := by
    rw [← hsplit, ← hgap, ← List.append_assoc] at ht
    exact ht.of_append
  rw [trim, trimEnd_eq_self hend]
  refine ⟨fun c hc => by simpa using List.mem_takeWhile_imp hc, hend, d.takeWhile Unicode.isSpace,
    fun c hc => List.mem_takeWhile_imp hc, fun hne hnil => hne ?_, ?_⟩
  · -- without white space in front, the rest would go on the word
    cases d with
    | nil => rfl
    | cons c d =>
      have hc : Unicode.isSpace c := by simpa using hspace
      rw [List.takeWhile_cons_of_pos hc] at hnil
      cases hnil
  · rw [hgap, hsplit]

/-! ## Pieces -/

theorem pieces_of_notMem {sep : Char} : ∀ {t : Text}, sep ∉ t → pieces sep t = [t]
  | [], _ => rfl
  | c :: t, h => by
    rw [List.mem_cons, not_or] at h
    rw [pieces, if_neg (Ne.symm h.1), pieces_of_notMem h.2, consHead]

theorem pieces_ne_nil (sep : Char) : ∀ t : Text, pieces sep t ≠ []
  | [] => by simp [pieces]
  | c :: t => by
    unfold pieces
    split
    · simp
    · rcases pieces sep t <;> simp [consHead]

/-- **A text falls apart where a separator stands.** -/
theorem pieces_append_sep (sep : Char) (u : Text) : ∀ t : Text,
    pieces sep (t ++ sep :: u) = pieces sep t ++ pieces sep u
  | [] => if_pos rfl
  | c :: t => by
    rw [List.cons_append, pieces, pieces, pieces_append_sep sep u t]
    split
    · rfl
    · obtain ⟨p, ps, hp⟩ := List.exists_cons_of_ne_nil (pieces_ne_nil sep t)
      rw [hp]; rfl

theorem pieces_append {sep : Char} (h : sep ∉ t) (u : Text) : pieces sep (t ++ sep :: u) = t :: pieces sep u := by
  rw [pieces_append_sep, pieces_of_notMem h]; rfl

theorem pieces_concat (sep : Char) (t : Text) : pieces sep (t ++ [sep]) = pieces sep t ++ [[]] :=
  pieces_append_sep sep [] t

/-- No piece contains the separator. -/
theorem notMem_of_mem_pieces {sep : Char} : ∀ {t p : Text}, p ∈ pieces sep t → sep ∉ p
  | [], p, h => by
    rw [pieces, List.mem_singleton] at h
    simp [h]
  | c :: t, p, h => by
    unfold pieces at h
    split at h
    · rcases List.mem_cons.1 h with rfl | h
      · simp
      · exact notMem_of_mem_pieces h
    · rename_i hc
      rcases hp : pieces sep t with _ | ⟨q, qs⟩
      · exact absurd hp (pieces_ne_nil sep t)
      · rw [hp, consHead] at h
        rcases List.mem_cons.1 h with rfl | h
        · rw [List.mem_cons, not_or]
          exact ⟨Ne.symm hc, notMem_of_mem_pieces (hp ▸ List.mem_cons_self)⟩
        · exact notMem_of_mem_pieces (hp ▸ List.mem_cons_of_mem _ h)

theorem pieces_joinWith {sep : Char} : ∀ {ts : List Text}, ts ≠ [] → (∀ t ∈ ts, sep ∉ t) →
    pieces sep (joinWith [sep] ts) = ts
  | [t], _, h => by
    rw [joinWith, List.intercalate_singleton]; exact pieces_of_notMem (h t List.mem_cons_self)
  | t :: u :: ts, _, h => by
    rw [joinWith, List.intercalate_cons_cons, List.append_assoc, List.singleton_append,
      pieces_append (h t List.mem_cons_self), ← joinWith,
      pieces_joinWith (List.cons_ne_nil _ _) fun t ht => h t (List.mem_cons_of_mem _ ht)]

theorem joinWith_ne_nil {sep : Text} (h : t ≠ []) (ts : List Text) : joinWith sep (t :: ts) ≠ [] := by
  cases ts with
  | nil => rwa [joinWith, List.intercalate_singleton]
  | cons u ts => rw [joinWith, List.intercalate_cons_cons, List.append_assoc]; simp [h]

/-- A text from its pieces: a separator stands behind each of them but the last. -/
theorem eq_of_pieces {sep : Char} {init : List Text} {last : Text} (h : pieces sep t = init ++ [last]) :
    t = init.flatMap (· ++ [sep]) ++ last := by
  induction t generalizing init last with
  | nil =>
    cases init with
    | nil => cases h; rfl
    | cons p init => simp [pieces] at h
  | cons c t ih =>
    unfold pieces at h
    split at h
    · rename_i hsep
      subst hsep
      cases init with
      | nil => exact absurd (List.cons.inj h).2 (pieces_ne_nil c t)
      | cons p init =>
        obtain ⟨rfl, htail⟩ := List.cons.inj h
        rw [List.flatMap_cons, List.nil_append, List.singleton_append, List.cons_append, ← ih htail]
    · rcases hp : pieces sep t with _ | ⟨p, ps⟩
      · exact absurd hp (pieces_ne_nil sep t)
      · -- the character belongs to the first piece
        rw [hp, consHead] at h
        cases init with
        | nil =>
          cases h
          exact congrArg (c :: ·) (@ih [] p hp)
        | cons q init =>
          obtain ⟨rfl, rfl⟩ := List.cons.inj h
          have ht := @ih (p :: init) last hp
          rw [List.flatMap_cons] at ht ⊢
          rw [List.cons_append, List.cons_append, List.cons_append, ← ht]

/-- A character of joined texts stands in one of them, or in a separator. -/
theorem mem_intercalate {α : Type} {a : α} {sep : List α} : ∀ {ls : List (List α)}, a ∈ sep.intercalate ls →
    a ∈ sep ∨ ∃ l ∈ ls, a ∈ l
  | [], h => absurd h List.not_mem_nil
  | [l], h => by
    rw [List.intercalate_singleton] at h
    exact .inr ⟨l, List.mem_cons_self, h⟩
  | l :: l' :: ls, h => by
    rw [List.intercalate_cons_cons, List.append_assoc, List.mem_append, List.mem_append] at h
    rcases h with h | h | h
    · exact .inr ⟨l, List.mem_cons_self, h⟩
    · exact .inl h
    · exact (mem_intercalate h).imp_right fun ⟨l, hl, h⟩ => ⟨l, List.mem_cons_of_mem _ hl, h⟩

theorem mem_joinWith {sep : Text} {ts : List Text} (h : c ∈ joinWith sep ts) : c ∈ sep ∨ ∃ t ∈ ts, c ∈ t :=
  mem_intercalate h

/-! ## Quotes -/

/-- Is `u` what is left of `t` without the double quotes at its ends? -/
def Unquoted (t u : Text) : Prop :=
  ∃ q q', t = q ++ (u ++ q') ∧ (∀ c ∈ q, c = '"') ∧ (∀ c ∈ q', c = '"') ∧ u.head? ≠ some '"' ∧ u.getLast? ≠ some '"'

theorem dropWhile_quotes {q u : Text} (hq : ∀ c ∈ q, c = '"') (h : u.head? ≠ some '"') :
    (q ++ u).dropWhile (· == '"') = u := by
  rw [List.dropWhile_append_of_pos fun c hc => beq_iff_eq.2 (hq c hc)]
  cases u with
  | nil => rfl
  | cons c u => exact List.dropWhile_cons_of_neg fun hc => h (by rw [beq_iff_eq.1 hc]; rfl)

theorem head?_dropWhile_quotes (t : Text) : (t.dropWhile (· == '"')).head? ≠ some '"' := by
  intro h
  have hhead := List.head?_dropWhile_not (· == '"') t
  rw [h] at hhead
  exact absurd hhead (by decide)

/-- **The double quotes at both ends are taken off**, however many there are, and no others. -/
theorem stripQuotes_eq_iff {u : Text} : stripQuotes t = u ↔ Unquoted t u := by
  constructor
  · rintro rfl
    have hfront := List.takeWhile_append_dropWhile (p := (· == '"')) (l := t)
    have hback := congrArg List.reverse
      (List.takeWhile_append_dropWhile (p := (· == '"')) (l := (t.dropWhile (· == '"')).reverse))
    rw [List.reverse_append, List.reverse_reverse] at hback
    have hquotes : ∀ u : Text, ∀ c ∈ u.takeWhile (· == '"'), c = '"' :=
      fun u c hc => by simpa using List.mem_takeWhile_imp hc
    refine ⟨t.takeWhile (· == '"'), ((t.dropWhile (· == '"')).reverse.takeWhile (· == '"')).reverse, ?_, hquotes t,
      fun c hc => hquotes _ c (List.mem_reverse.1 hc), ?_, ?_⟩
    · rw [stripQuotes, hback, hfront]
    · -- what is left starts as the text behind the quotes in front does
      intro h
      have hstart := head?_dropWhile_quotes t
      rw [← hback, List.head?_append_of_ne_nil _ fun hnil => ?_] at hstart
      · exact hstart h
      · rw [stripQuotes] at h
        simp only [hnil] at h
        cases h
    · rw [stripQuotes, List.getLast?_reverse]
      exact head?_dropWhile_quotes _
  · rintro ⟨q, q', rfl, hq, hq', hstart, hend⟩
    unfold stripQuotes
    rcases eq_or_ne u [] with rfl | hne
    · have hall : ∀ c ∈ q ++ ([] ++ q'), (c == '"') = true := by
        rw [List.nil_append, List.forall_mem_append]
        exact ⟨fun c hc => beq_iff_eq.2 (hq c hc), fun c hc => beq_iff_eq.2 (hq' c hc)⟩
      rw [List.dropWhile_eq_nil_iff.2 hall]
      rfl
    · have hfront : (u ++ q').head? ≠ some '"' := by rwa [List.head?_append_of_ne_nil _ hne]
      have hback : u.reverse.head? ≠ some '"' := by rwa [List.head?_reverse]
      simp only [dropWhile_quotes hq hfront, List.reverse_append]
      rw [dropWhile_quotes (fun c hc => hq' c (List.mem_reverse.1 hc)) hback, List.reverse_reverse]

/-- A text is taken out of its quotes. -/
theorem stripQuotes_quoted (h : '"' ∉ t) : stripQuotes ('"' :: (t ++ ['"'])) = t :=
  stripQuotes_eq_iff.2 ⟨['"'], ['"'], rfl, by simp, by simp, fun hhead => h (List.mem_of_head? hhead),
    fun hlast => h (List.mem_of_getLast? hlast)⟩

/-! ## Lines -/

/-- The document with the given lines, and a line feed behind each of them. -/
def unlines (ls : List Text) : Text := ls.flatMap (· ++ ['\n'])

theorem pieces_unlines : ∀ {ls : List Text}, (∀ l ∈ ls, '\n' ∉ l) → pieces '\n' (unlines ls) = ls ++ [[]]
  | [], _ => rfl
  | l :: ls, h => by
    rw [unlines, List.flatMap_cons, List.append_assoc, List.singleton_append,
      pieces_append (h l List.mem_cons_self), ← unlines,
      pieces_unlines fun l hl => h l (List.mem_cons_of_mem _ hl), List.cons_append]

theorem lines_of_pieces {init : List Text} {last : Text} (h : pieces '\n' t = init ++ [last]) :
    lines t = init.map dropReturn ++ openLine (some last) := by
  unfold lines
  rw [h]
  simp only [List.dropLast_concat, List.getLast?_concat]

/-- **The lines of a document are those that it is written from.** -/
theorem lines_unlines {ls : List Text} (h : ∀ l ∈ ls, '\n' ∉ l) : lines (unlines ls) = ls.map dropReturn := by
  rw [lines_of_pieces (pieces_unlines h), openLine, List.append_nil]

theorem map_snd_numberedLines (t : Text) : (numberedLines t).map (·.2) = lines t :=
  List.ext_getElem? fun i => by simp [numberedLines, Function.comp_def]

theorem dropReturn_eq_self (h : EndsSolid t) : dropReturn t = t := by
  unfold dropReturn
  split
  · rename_i hlast
    exact absurd (h '\r' hlast) (by decide)
  · rfl

theorem trimEnd_dropReturn (t : Text) : trimEnd (dropReturn t) = trimEnd t := by
  unfold dropReturn
  split
  · rename_i h
    obtain ⟨u, rfl⟩ := List.getLast?_eq_some_iff.1 h
    rw [List.dropLast_concat, trimEnd_concat_of_isSpace (by decide)]
  · rfl

/-- A carriage return at the end is white space. -/
theorem trim_dropReturn (t : Text) : trim (dropReturn t) = trim t := by
  unfold dropReturn
  split
  · rename_i h
    obtain ⟨u, rfl⟩ := List.getLast?_eq_some_iff.1 h
    rw [List.dropLast_concat, trim_concat_of_isSpace (by decide)]
  · rfl

end Readout.Text
