/-
  Back-filling: a value that is filled up puts each of its texts into the earlier records that lack it.

  * `held` is the text that a value has when a record is emitted, `filledUp` the text that the record ends up
    with;
  * `prefix_of_filledUp`: the records that lack a value are the last ones, at every point of a run;
  * `column_after`: the column of a value that is filled up;
  * `extract_filledUp`: the same for the records, and the walk backwards reaches every record that lacks the
    value.
-/
import Readout.Proofs.Extraction.Records

namespace Readout.Extraction

open Template (Value)

/-! ## Texts -/

/-- The first text that is not empty, if there is one. -/
def firstFilled (us : List Text) : Text := (us.find? (!·.isEmpty)).getD []

theorem firstFilled_cons (u : Text) (us : List Text) :
    firstFilled (u :: us) = if u = [] then firstFilled us else u := by
  unfold firstFilled
  cases u <;> simp

theorem firstFilled_eq_nil_iff {us : List Text} : firstFilled us = [] ↔ ∀ u ∈ us, u = [] := by
  induction us with
  | nil => simp [firstFilled]
  | cons u us ih =>
    rw [firstFilled_cons, List.forall_mem_cons]
    by_cases hu : u = [] <;> simp [hu, ih]

theorem firstFilled_concat (us : List Text) (u : Text) :
    firstFilled (us ++ [u]) = if firstFilled us = [] then u else firstFilled us := by
  induction us with
  | nil => rw [List.nil_append, firstFilled_cons]; cases u <;> rfl
  | cons w us ih =>
    rw [List.cons_append, firstFilled_cons, firstFilled_cons, ih]
    by_cases hw : w = [] <;> simp [hw]

/-- The text of value `i` behind a history: the last one that it has captured since its last reset. -/
def held (i : Nat) (v : Value) (h : List Event) : Text := (gathered i v h).getLast?.getD []

/-- The text that a record emitted behind `h` has for value `i` in the end, if `later` happens behind it: the
    one that the value held, or else the first one captured later, leaving out empty texts. -/
def filledUp (i : Nat) (v : Value) (h later : List Event) : Text :=
  firstFilled (held i v h :: later.filterMap (Event.text? i))

section
variable {i : Nat} {v : Value}

theorem fieldAfter_eq_held (hl : v.has .list = false) (h : List Event) :
    fieldAfter i v h = .single (held i v h) := by
  rw [fieldAfter, hl]; rfl

theorem held_concat (h : List Event) (e : Event) :
    held i v (h ++ [e]) = if e.resets v then [] else (e.text? i).getD (held i v h) := by
  unfold held
  rw [gathered_concat]
  split
  · rfl
  · cases e.text? i <;> simp

/-- A value that is empty stays so while it captures nothing but empty texts. -/
theorem held_append {h later : List Event} (hh : held i v h = [])
    (hu : ∀ u ∈ later.filterMap (Event.text? i), u = []) : held i v (h ++ later) = [] := by
  induction later using List.reverseRecOn with
  | nil => rwa [List.append_nil]
  | append_singleton later e ih =>
    rw [List.filterMap_append, List.forall_mem_append] at hu
    rw [← List.append_assoc, held_concat, ih hu.1]
    split
    · rfl
    · rcases he : e.text? i with _ | u
      · rfl
      · exact hu.2 u (by simp [he])

theorem filledUp_nil (h : List Event) : filledUp i v h [] = held i v h := by
  rw [filledUp, List.filterMap_nil, firstFilled_cons]
  split
  · rename_i hnil; rw [hnil]; rfl
  · rfl

theorem filledUp_concat (h later : List Event) (e : Event) :
    filledUp i v h (later ++ [e]) =
      if filledUp i v h later = [] then (e.text? i).getD [] else filledUp i v h later := by
  unfold filledUp
  rw [List.filterMap_append, ← List.cons_append]
  rcases he : e.text? i with _ | u
  · simp [he]
  · rw [List.filterMap_cons_some he, List.filterMap_nil, firstFilled_concat]; rfl

/-- A record behind one that lacks the value lacks it, too: the value was empty for the first of them, and has
    captured nothing but empty texts from there on. -/
theorem filledUp_append {h between later : List Event} (hnil : filledUp i v h (between ++ later) = []) :
    filledUp i v (h ++ between) later = [] := by
  rw [filledUp, firstFilled_eq_nil_iff, List.forall_mem_cons, List.filterMap_append,
    List.forall_mem_append] at hnil
  rw [filledUp, firstFilled_eq_nil_iff, List.forall_mem_cons]
  exact ⟨held_append hnil.1 hnil.2.1, hnil.2.2⟩

end

/-! ## Emissions -/

section
variable {values : List Value} {h : List Event}

theorem prefix_of_mem_emissions {g : List Event} (hg : g ∈ emissions values h) : g <+: h := by
  obtain ⟨k, -, rfl⟩ := List.mem_map.1 hg
  exact List.take_prefix k h

theorem emissions_pairwise : (emissions values h).Pairwise (· <+: ·) := by
  rw [emissions, List.pairwise_map]
  exact (List.pairwise_lt_range.filter _).imp fun hlt => List.take_prefix_take_left hlt.le

/-- **The records that lack a value are the last ones.** -/
theorem prefix_of_filledUp {i : Nat} {v : Value} {g₁ g₂ : List Event} (h₁ : g₁ <+: g₂) (h₂ : g₂ <+: h)
    (hnil : filledUp i v g₁ (h.drop g₁.length) = []) : filledUp i v g₂ (h.drop g₂.length) = [] := by
  obtain ⟨between, rfl⟩ := h₁
  obtain ⟨later, rfl⟩ := h₂
  rw [List.append_assoc, List.drop_left] at hnil
  rw [List.drop_left]
  exact filledUp_append hnil

end

/-! ## The walk -/

/-- Is there something in field `i`? -/
def Row.shows (i : Nat) (row : Row) : Bool := row[i]?.any (!·.isEmpty)

/-- The row with a text in field `i`, unless there is something already. -/
def Row.fill (i : Nat) (u : Text) (row : Row) : Row :=
  if Row.shows i row then row else row.set i (.single u)

theorem fillUp_cons (i : Nat) (u : Text) (row : Row) (rows : List Row) :
    fillUp i u (row :: rows) =
      if Row.shows i row then row :: rows else row.set i (.single u) :: fillUp i u rows := rfl

/-- If the rows that lack the value are the newest ones, then the walk reaches all of them. -/
theorem fillUp_eq_map {i : Nat} {u : Text} {rows : List Row}
    (h : rows.Pairwise fun newer older => Row.shows i newer → Row.shows i older) :
    fillUp i u rows = rows.map (Row.fill i u) := by
  induction rows with
  | nil => rfl
  | cons row rows ih =>
    obtain ⟨hrow, hrows⟩ := List.pairwise_cons.1 h
    rw [List.map_cons, Row.fill]
    by_cases hs : Row.shows i row
    · have hid : ∀ older ∈ rows, Row.fill i u older = older := by
        intro older ho
        rw [Row.fill, if_pos (hrow older ho hs)]
      rw [if_pos hs, List.map_congr_left hid, List.map_id', fillUp_cons, if_pos hs]
    · rw [if_neg hs, fillUp_cons, if_neg hs, ih hrows]

/-- The walk leaves the other columns as they are. -/
theorem map_fillUp_of_ne {i j : Nat} (hij : i ≠ j) (u : Text) (rows : List Row) :
    (fillUp i u rows).map (·[j]?) = rows.map (·[j]?) := by
  induction rows with
  | nil => rfl
  | cons row rows ih =>
    rw [fillUp_cons]
    split
    · rfl
    · rw [List.map_cons, List.map_cons, ih, List.getElem?_set_ne hij]

/-- The field, or a text if there is nothing in it. -/
def Field.orSingle (u : Text) (f : Field) : Field := if f.isEmpty then .single u else f

theorem getElem?_fill (i : Nat) (u : Text) (row : Row) :
    (Row.fill i u row)[i]? = row[i]?.map (Field.orSingle u) := by
  unfold Row.fill Row.shows
  rcases hf : row[i]? with _ | f
  · simp [List.getElem?_eq_none_iff.1 hf]
  · have hi : i < row.length := (List.getElem?_eq_some_iff.1 hf).1
    cases he : f.isEmpty
    · simp [Field.orSingle, he, hf]
    · simp [Field.orSingle, he, List.getElem?_set_self hi]

/-! ## Runs -/

section
variable {values : List Value} {i : Nat} {v : Value} {h : List Event}

/-- What the column of value `i` should hold behind a history, the last record first. -/
def columnAfter (values : List Value) (i : Nat) (v : Value) (h : List Event) : List (Option Field) :=
  (emissions values h).reverse.map fun g => some (.single (filledUp i v g (h.drop g.length)))

theorem columnAfter_concat (e : Event) :
    columnAfter values i v (h ++ [e]) =
      (if e = .act .record ∧ emits values h then [some (.single (held i v h))] else []) ++
        (emissions values h).reverse.map fun g =>
          some (.single (filledUp i v g (h.drop g.length ++ [e]))) := by
  unfold columnAfter
  rw [emissions_concat, List.reverse_append, List.map_append]
  congr 1
  · split
    · rename_i he
      rw [he.1, List.reverse_singleton, List.map_singleton, List.drop_left]
      rw [filledUp, List.filterMap_cons_none rfl, ← filledUp]
      exact congrArg (fun u => [some (Field.single u)]) (filledUp_nil h)
    · rfl
  · refine List.map_congr_left fun g hg => ?_
    rw [List.drop_append_of_le_length (prefix_of_mem_emissions (List.mem_reverse.1 hg)).length_le]

/-- The column after an event in which the value captures no text to see. -/
theorem columnAfter_concat_of_nil {e : Event} (he : (e.text? i).getD [] = []) :
    columnAfter values i v (h ++ [e]) =
      (if e = .act .record ∧ emits values h then [some (.single (held i v h))] else []) ++
        columnAfter values i v h := by
  rw [columnAfter_concat, columnAfter]
  congr 2
  funext g
  rw [filledUp_concat, he]
  split
  · rename_i hnil; rw [hnil]
  · rfl

/-- The column after the value has captured a text: it stands wherever nothing did. -/
theorem columnAfter_capture (u : Text) :
    columnAfter values i v (h ++ [.capture i u]) =
      (columnAfter values i v h).map (Option.map (Field.orSingle u)) := by
  rw [columnAfter_concat, columnAfter, List.map_map]
  refine List.map_congr_left fun g _ => ?_
  rw [filledUp_concat]
  by_cases hnil : filledUp i v g (h.drop g.length) = []
  · simp [hnil, Event.text?, Field.orSingle, Field.isEmpty]
  · simp [hnil, Field.orSingle, Field.isEmpty]

/-- In a column as it should be, the rows that lack the value are the newest ones. -/
theorem pairwise_of_column {rows : List Row} (hc : rows.map (·[i]?) = columnAfter values i v h) :
    rows.Pairwise fun newer older => Row.shows i newer → Row.shows i older := by
  have hcolumn : (columnAfter values i v h).Pairwise fun newer older =>
      newer.any (!·.isEmpty) → older.any (!·.isEmpty) := by
    rw [columnAfter, List.pairwise_map, List.pairwise_reverse]
    refine emissions_pairwise.imp_of_mem fun _ hg₂ hprefix hshows => ?_
    by_contra hnot
    have hnil := prefix_of_filledUp (i := i) (v := v) hprefix (prefix_of_mem_emissions hg₂)
      (by simpa [Field.isEmpty] using hnot)
    simp [hnil, Field.isEmpty] at hshows
  rw [← hc, List.pairwise_map] at hcolumn
  exact hcolumn

/-- The walk turns a column as it should be into the one after the text has been captured. -/
theorem map_fillUp {rows : List Row} (hc : rows.map (·[i]?) = columnAfter values i v h) (u : Text) :
    (fillUp i u rows).map (·[i]?) = columnAfter values i v (h ++ [.capture i u]) := by
  rw [fillUp_eq_map (pairwise_of_column hc), columnAfter_capture, ← hc, List.map_map, List.map_map]
  exact List.map_congr_left fun row _ => getElem?_fill i u row

/-- **The column of a value that is filled up.** -/
theorem column_after (hv : values[i]? = some v) (hf : v.has .fillup) (hl : v.has .list = false)
    (p : Position) (h : List Event) :
    (Run.after values p h).rows.map (·[i]?) = columnAfter values i v h := by
  induction h using List.reverseRecOn with
  | nil => rfl
  | append_singleton h e ih =>
    rw [Run.after_concat]
    cases e with
    | capture j u =>
      by_cases hw : !u.isEmpty && values[j]?.any (·.has .fillup)
      · rw [Run.happen, Run.assign, if_pos hw]
        by_cases hj : j = i
        · rw [hj]; exact map_fillUp ih u
        · rw [map_fillUp_of_ne hj, ih, columnAfter_concat_of_nil (by simp [Event.text?, hj])]
          simp
      · rw [Run.happen, Run.assign, if_neg hw, columnAfter_concat_of_nil]
        · simpa using ih
        · -- nothing is walked for an empty text, or for another value
          by_cases hj : j = i
          · subst hj; simpa [hv, hf, Event.text?] using hw
          · simp [Event.text?, hj]
    | act op =>
      rw [columnAfter_concat_of_nil rfl]
      cases op with
      | record =>
        rw [show Run.happen values _ (.act .record) = Run.emit values _ from rfl,
          (Run.slots_after values p h).emit.2]
        by_cases he : emits values h
        · rw [if_pos he, if_pos ⟨rfl, he⟩, List.map_cons, ih, List.getElem?_mapIdx, hv, Option.map_some,
            fieldAfter_eq_held hl]
          rfl
        · rw [if_neg he, if_neg fun hand => he hand.2, ih]
          rfl
      | _ => exact ih

end

/-! ## Records -/

/-- The column of a value in the records of a course. -/
theorem column_records {t : Template} {i : Nat} {v : Value} (hv : t.values[i]? = some v)
    (hf : v.has .fillup) (hl : v.has .list = false) (c : Course) :
    ((Run.after t.values c.position (c.history t)).outcome t).records.map (·[i]?) =
      (emissions t.values (c.history t)).map fun h =>
        some (v.name, .single (filledUp i v h ((c.history t).drop h.length))) := by
  have hcolumn := congrArg List.reverse (column_after hv hf hl c.position (c.history t))
  rw [columnAfter, List.map_reverse, List.reverse_reverse, ← List.map_reverse] at hcolumn
  calc ((Run.after t.values c.position (c.history t)).outcome t).records.map (·[i]?)
      = ((Run.after t.values c.position (c.history t)).rows.reverse.map (·[i]?)).map
          (Option.map (v.name, ·)) := by
        rw [Run.outcome, List.map_map, List.map_map]
        exact List.map_congr_left fun row _ => getElem?_header_zip hv row
    _ = _ := by rw [hcolumn, List.map_map]; rfl

/-- **Back-filling.**  The field of a value that is filled up is the text that the value held when the record
    was emitted, or else the first text captured later, leaving out empty ones.  So the records that lack the
    value are the last ones, and behind every history the walk backwards reaches each record that lacks it. -/
theorem extract_filledUp {t : Template} {text : Text} {o : Outcome} (ho : extract t text = .ok o) {i : Nat}
    {v : Value} (hv : t.values[i]? = some v) (hf : v.has .fillup) (hl : v.has .list = false) :
    ∃ c, Course.ofText t text = .ok c ∧
      o.records.map (·[i]?) = (emissions t.values (c.history t)).map (fun h =>
        some (v.name, .single (filledUp i v h ((c.history t).drop h.length)))) ∧
      o.records.Pairwise (fun earlier later =>
        earlier[i]? = some (v.name, .single []) → later[i]? = some (v.name, .single [])) ∧
      ∀ h u, fillUp i u (Run.after t.values c.position h).rows =
        (Run.after t.values c.position h).rows.map (Row.fill i u) := by
  obtain ⟨c, hc, rfl⟩ := exists_course ho
  have hcolumn := column_records hv hf hl c
  refine ⟨c, hc, hcolumn, ?_, fun h u =>
    fillUp_eq_map (pairwise_of_column (column_after hv hf hl c.position h))⟩
  have hpairs : (((Run.after t.values c.position (c.history t)).outcome t).records.map (·[i]?)).Pairwise
      fun earlier later => earlier = some (v.name, .single []) → later = some (v.name, .single []) := by
    rw [hcolumn, List.pairwise_map]
    refine emissions_pairwise.imp_of_mem fun _ hg hprefix hnil => ?_
    simp only [Option.some.injEq, Prod.mk.injEq, Field.single.injEq, true_and] at hnil ⊢
    exact prefix_of_filledUp hprefix (prefix_of_mem_emissions hg) hnil
  exact List.pairwise_map.1 hpairs

/-- The first record is filled up from the third line, and the last two records lack the value: of the two
    texts captured in front of them one went with the second record, and the other one is empty. -/
theorem extract_filledUp_lines :
    ∃ t o v, Template.parse
        "Value Fillup A (x*)\nValue B (\\d)\n\nStart\n  ^a${A}\n  ^${B} -> Record\n".toList = .ok t ∧
      extract t "1\nax\n2\na\n3\n4\n".toList = .ok o ∧
      o.records.map (·[0]?) =
        ["x".toList, "x".toList, [], []].map (fun u => some ("A".toList, .single u)) ∧
      t.values[0]? = some v ∧ v.has .fillup ∧ v.has .list = false ∧
      ∃ c, Course.ofText t "1\nax\n2\na\n3\n4\n".toList = .ok c ∧
        o.records.map (·[0]?) = (emissions t.values (c.history t)).map (fun h =>
          some (v.name, .single (filledUp 0 v h ((c.history t).drop h.length)))) ∧
        o.records.Pairwise (fun earlier later =>
          earlier[0]? = some (v.name, .single []) → later[0]? = some (v.name, .single [])) ∧
        ∀ h u, fillUp 0 u (Run.after t.values c.position h).rows =
          (Run.after t.values c.position h).rows.map (Row.fill 0 u) := by
  have h : (Template.parse
      "Value Fillup A (x*)\nValue B (\\d)\n\nStart\n  ^a${A}\n  ^${B} -> Record\n".toList).toOption.map
        (fun t => (t.values[0]?, extract t "1\nax\n2\na\n3\n4\n".toList)) =
      some (some ⟨"A".toList, "(x*)".toList, [.fillup]⟩,
        .ok { records := ["x1", "x2", "3", "4"].map fun s =>
          [("A".toList, .single (s.toList.dropLast)), ("B".toList, .single s.toList.getLast?.toList)] }) := by
    decide +kernel
  obtain ⟨t, ht, hp⟩ := Template.exists_parse h
  obtain ⟨hv, ho⟩ := Prod.mk.inj hp
  exact ⟨t, _, _, ht, ho, rfl, hv, rfl, rfl, extract_filledUp ho hv rfl rfl⟩

end Readout.Extraction
