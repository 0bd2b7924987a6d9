/-
  The records of a run.

  * `extract_history`: the records are those of the history of the run, one for each emission and in order;
  * `blank_record_captured`: a record without anything to see is emitted only for a text that was captured
    and is empty;
  * `required_filled`: no record lacks a required value, and there are warnings only where there are no
    records.
-/
import Readout.Proofs.Extraction.History
import Readout.Proofs.Template.Accepted

namespace Readout.Extraction

open Template (Value)

/-! ## Rows as records -/

theorem getElem?_header_zip {t : Template} {i : Nat} {v : Value} (hv : t.values[i]? = some v) (row : Row) :
    (t.header.zip row)[i]? = row[i]?.map (v.name, ·) := by
  have hname : t.header[i]? = some v.name := by rw [Template.header, List.getElem?_map, hv]; rfl
  rw [List.zip, List.getElem?_zipWith, hname]
  cases row[i]? <;> rfl

/-- Is it the record that is emitted behind a history, up to back-filling? -/
def RecordOf (t : Template) (h : List Event) (record : Record) : Prop :=
  ∃ row, RowOf t.values h row ∧ record = t.header.zip row

theorem RecordOf.length {t : Template} {h : List Event} {record : Record} (hr : RecordOf t h record) :
    record.length = t.values.length := by
  obtain ⟨row, hrow, rfl⟩ := hr
  rw [List.length_zip, hrow.length, Template.header, List.length_map, Nat.min_self]

/-- A field that was not empty when the record was emitted is not back-filled. -/
theorem RecordOf.field {t : Template} {h : List Event} {record : Record} (hr : RecordOf t h record)
    {i : Nat} {v : Value} (hv : t.values[i]? = some v)
    (hf : v.has .fillup = false ∨ (fieldAfter i v h).isEmpty = false) :
    record[i]? = some (v.name, fieldAfter i v h) := by
  obtain ⟨row, hrow, rfl⟩ := hr
  suffices hfield : row[i]? = some (fieldAfter i v h) by rw [getElem?_header_zip hv, hfield]; rfl
  rcases hrow.field i v hv with hfield | ⟨hfill, hempty, -⟩
  · exact hfield
  · rcases hf with hf | hf
    · rw [hf] at hfill; cases hfill
    · rw [hf] at hempty; cases hempty

/-- **The records of a course are those of its emissions**, up to back-filling. -/
theorem records_outcome (t : Template) (c : Course) :
    List.Forall₂ (fun record h => RecordOf t h record)
      ((Run.after t.values c.position (c.history t)).outcome t).records
      (emissions t.values (c.history t)) := by
  have h := @rows_after t.values c.position (c.history t)
  rw [← List.reverse_reverse (Run.rows _), List.forall₂_reverse_iff] at h
  rw [Run.outcome, List.forall₂_map_left_iff]
  exact h.imp fun row _ hrow => ⟨row, hrow, rfl⟩

/-! ## Records and histories -/

/-- **Records are told by the history of the run.**  There is one record for each emission, in the same order.
    A field that is not filled up holds what its value has gathered in the history behind which the record is
    emitted. -/
theorem extract_history (t : Template) (text : Text) :
    match Course.ofText t text with
    | .error e => extract t text = .error e
    | .ok c => ∃ o, extract t text = .ok o ∧
        List.Forall₂ (fun record h => record.length = t.values.length ∧
            ∀ i v, t.values[i]? = some v → v.has .fillup = false →
              record[i]? = some (v.name, fieldAfter i v h))
          o.records (emissions t.values (c.history t)) := by
  rw [extract_eq_after]
  rcases Course.ofText t text with e | c
  · rfl
  · exact ⟨_, rfl, (records_outcome t c).imp fun _ _ hr =>
      ⟨hr.length, fun _ _ hv hf => hr.field hv (.inl hf)⟩⟩

/-! ## Blank records -/

/-- What a template that is accepted yields, from its source. -/
theorem exists_parse_extract {source text : Text} {r : Except Failure Outcome}
    (h : (Template.parse source).toOption.map (extract · text) = some r) :
    ∃ t, Template.parse source = .ok t ∧ extract t text = r := Template.exists_parse h

/-- If nothing is to be seen where a record is emitted, then the last text of some value is empty. -/
theorem exists_empty_text {values : List Value} {h : List Event} (he : emits values h)
    (hempty : ∀ i v, values[i]? = some v → (fieldAfter i v h).isEmpty) :
    ∃ i v, values[i]? = some v ∧ v.has .list = false ∧ (gathered i v h).getLast? = some [] := by
  obtain ⟨i, v, hv, hg⟩ := (emits_iff.1 he).2
  have hf := hempty i v hv
  unfold fieldAfter at hf
  split at hf
  · exact absurd (List.isEmpty_iff.1 hf) hg
  · rename_i hlist
    refine ⟨i, v, hv, by simpa using hlist, ?_⟩
    rw [List.getLast?_eq_some_getLast hg] at hf ⊢
    exact congrArg some (List.isEmpty_iff.1 hf)

/-- A record whose fields are all empty is behind a history in which the last text of some value is empty. -/
theorem RecordOf.blank {t : Template} {h : List Event} {record : Record} (hr : RecordOf t h record)
    (hblank : ∀ f ∈ record, f.2.isEmpty) :
    ∃ i v, t.values[i]? = some v ∧ v.has .list = false ∧ (gathered i v h).getLast? = some [] := by
  obtain ⟨row, hrow, -⟩ := id hr
  refine exists_empty_text hrow.emitted fun i v hv => ?_
  by_contra hf
  have hfield := hr.field hv (.inr (by simpa using hf))
  exact hf (hblank _ (List.mem_of_getElem? hfield))

/-- **A blank record is emitted only for a captured text that is empty.**  Every record has a field that is not
    empty, unless the last text that some value without `List` has captured before the record, and since its
    last reset, is the empty one; where nothing has been captured, no record is emitted. -/
theorem blank_record_captured {t : Template} {text : Text} {o : Outcome} (ho : extract t text = .ok o) :
    ∃ c, Course.ofText t text = .ok c ∧
      List.Forall₂ (fun record h => (∃ f ∈ record, f.2.isEmpty = false) ∨
          ∃ i v, t.values[i]? = some v ∧ v.has .list = false ∧ (gathered i v h).getLast? = some [])
        o.records (emissions t.values (c.history t)) := by
  rw [extract_eq_after] at ho
  rcases hc : Course.ofText t text with e | c
  · rw [hc] at ho; cases ho
  · rw [hc] at ho; cases ho
    refine ⟨c, rfl, (records_outcome t c).imp fun record h hr => ?_⟩
    by_cases hblank : ∀ f ∈ record, f.2.isEmpty
    · exact Or.inr (hr.blank hblank)
    · simp only [not_forall] at hblank
      obtain ⟨f, hf, hne⟩ := hblank
      exact Or.inl ⟨f, hf, by simpa using hne⟩

/-- Two records, the second of which is blank. -/
theorem blank_record_behind_text :
    ∃ t o, Template.parse "Value A (x*)\n\nStart\n  ^a${A} -> Record\n".toList = .ok t ∧
      extract t "ax\na\n".toList = .ok o ∧
      o.records = [[("A".toList, .single ['x'])], [("A".toList, .single [])]] ∧
      ∃ c, Course.ofText t "ax\na\n".toList = .ok c ∧
        List.Forall₂ (fun record h => (∃ f ∈ record, f.2.isEmpty = false) ∨
            ∃ i v, t.values[i]? = some v ∧ v.has .list = false ∧ (gathered i v h).getLast? = some [])
          o.records (emissions t.values (c.history t)) := by
  have h : (Template.parse "Value A (x*)\n\nStart\n  ^a${A} -> Record\n".toList).toOption.map
      (extract · "ax\na\n".toList) =
        some (.ok { records := [[("A".toList, .single ['x'])], [("A".toList, .single [])]] }) := by
    decide +kernel
  obtain ⟨t, ht, ho⟩ := exists_parse_extract h
  exact ⟨t, _, ht, ho, rfl, blank_record_captured ho⟩

/-- A record can be blank: here the only value captures an empty text. -/
theorem blank_record_emitted :
    ∃ t o, Template.parse "Value A (x*)\n\nStart\n  ^a${A} -> Record\n".toList = .ok t ∧
      extract t "a\n".toList = .ok o ∧ ∃ record ∈ o.records, ∀ f ∈ record, f.2.isEmpty := by
  have h : (Template.parse "Value A (x*)\n\nStart\n  ^a${A} -> Record\n".toList).toOption.map
      (extract · "a\n".toList) = some (.ok { records := [[("A".toList, .single [])]] }) := by
    decide +kernel
  obtain ⟨t, ht, ho⟩ := exists_parse_extract h
  exact ⟨t, _, ht, ho, _, List.mem_singleton_self _, by decide⟩

/-! ## Required values -/

/-- A required value is not empty in a row. -/
theorem RowOf.required {values : List Value} {h : List Event} {row : Row} (hr : RowOf values h row)
    {i : Nat} {v : Value} (hv : values[i]? = some v) (hreq : v.has .required) :
    ∃ f, row[i]? = some f ∧ f.isEmpty = false := by
  have hne := (emits_iff.1 hr.emitted).1 i v hv hreq
  rcases hr.field i v hv with hfield | ⟨-, hempty, -⟩
  · exact ⟨_, hfield, hne⟩
  · rw [hne] at hempty; cases hempty

/-- Does no row of a run lack a required value? -/
def Run.Complete (values : List Value) (r : Run) : Prop :=
  ∀ row ∈ r.rows, ∀ (i : Nat) (v : Value), values[i]? = some v → v.has .required →
    ∃ f, row[i]? = some f ∧ f.isEmpty = false

theorem Run.complete_after {values : List Value} {p : Position} {h : List Event} :
    (Run.after values p h).Complete values :=
  ((List.forall₂_and_left _ _).1 ((rows_after p h).imp fun _ _ hr =>
    ⟨fun _ _ hv hreq => hr.required hv hreq, hr⟩)).1

/-- Where no row lacks a required value, a single row is enough to warn of nothing. -/
theorem Run.warnings_outcome {t : Template} {r : Run} (h : r.Complete t.values) :
    (r.outcome t).warnings =
      if r.rows.isEmpty then
        (t.values.filter (·.has .required)).map fun v => .requiredNeverFilled v.name
      else [] := by
  rcases hrows : r.rows with _ | ⟨row, rows⟩
  · have hfst := List.filter_map (l := t.values.zipIdx) (f := Prod.fst)
      (p := fun v : Value => v.has .required)
    rw [List.zipIdx_map_fst] at hfst
    simp only [Run.outcome, hrows, List.all_nil, Bool.and_true, List.isEmpty_nil, if_true, hfst,
      List.map_map]
    rfl
  · have hnone : ∀ p ∈ t.values.zipIdx,
        ¬ (p.1.has .required && r.rows.all fun row => !row[p.2]?.any (!·.isEmpty)) := by
      rintro ⟨v, i⟩ hp hw
      obtain ⟨hreq, hall⟩ := Bool.and_eq_true_iff.1 hw
      have hmem : row ∈ r.rows := by rw [hrows]; exact List.mem_cons_self
      obtain ⟨f, hf, hne⟩ := h row hmem i v (List.mem_zipIdx_iff_getElem?.1 hp) hreq
      have := List.all_eq_true.1 hall row hmem
      simp [hf, hne] at this
    rw [Run.outcome, List.filter_eq_nil_iff.2 hnone]
    rfl

/-- **Required values and warnings.**  No required value is empty in a record; so a run that yields records
    warns of nothing, and one that yields none warns of each required value, in declared order. -/
theorem required_filled {t : Template} {text : Text} {o : Outcome} (ho : extract t text = .ok o) :
    (∀ record ∈ o.records, ∀ (i : Nat) (v : Value), t.values[i]? = some v → v.has .required →
      ∃ f, record[i]? = some (v.name, f) ∧ f.isEmpty = false) ∧
    o.warnings =
      if o.records.isEmpty then
        (t.values.filter (·.has .required)).map fun v => .requiredNeverFilled v.name
      else [] := by
  obtain ⟨c, -, rfl⟩ := exists_course ho
  have hrows := @Run.complete_after t.values c.position (c.history t)
  refine ⟨fun record hrecord i v hv hreq => ?_, ?_⟩
  · obtain ⟨row, hrow, rfl⟩ := List.mem_map.1 hrecord
    obtain ⟨f, hf, hne⟩ := hrows row (List.mem_reverse.1 hrow) i v hv hreq
    exact ⟨f, by rw [getElem?_header_zip hv, hf]; rfl, hne⟩
  · rw [Run.warnings_outcome hrows]
    simp [Run.outcome]

/-- The first line would make a record without the required value, the second one makes a whole one. -/
theorem required_filled_behind_dropped :
    ∃ t o, Template.parse ("Value Required A (\\S+)\nValue Fillup B (\\d+)\n\n".toList ++
        "Start\n  ^${A} ${B} -> Record\n  ^- -> Record\n".toList) = .ok t ∧
      extract t "-\nx 1\n".toList = .ok o ∧
      o.records = [[("A".toList, .single ['x']), ("B".toList, .single ['1'])]] ∧
      (∀ record ∈ o.records, ∀ (i : Nat) (v : Value), t.values[i]? = some v → v.has .required →
        ∃ f, record[i]? = some (v.name, f) ∧ f.isEmpty = false) ∧ o.warnings = [] := by
  have h : (Template.parse ("Value Required A (\\S+)\nValue Fillup B (\\d+)\n\n".toList ++
      "Start\n  ^${A} ${B} -> Record\n  ^- -> Record\n".toList)).toOption.map (extract · "-\nx 1\n".toList) =
      some (.ok { records := [[("A".toList, .single ['x']), ("B".toList, .single ['1'])]] }) := by
    decide +kernel
  obtain ⟨t, ht, ho⟩ := exists_parse_extract h
  exact ⟨t, _, ht, ho, rfl, required_filled ho⟩

end Readout.Extraction
