/-
  The shape of records.

  * `header_nodup_of_parse`: the columns of a template that is accepted have names of their own;
  * `RowOf.shape`: a row has a field for each value, which is a list if the value is one, and a single text
    otherwise; only a text that is filled up into an empty list takes its place;
  * `record_shape`: the same for the records of a run, by position and by name;
  * `list_replaced`: a text that takes the place of a list.
-/
import Readout.Proofs.Extraction.Records
import Readout.Proofs.Template.Validity

namespace Readout

/-- The columns of a template that is accepted have names of their own. -/
theorem Template.header_nodup_of_parse {source : Text} {t : Template} (h : parse source = .ok t) :
    t.header.Nodup := by
  obtain ⟨q, hq, hcheck⟩ := exists_of_bind h
  obtain ⟨r, hread, hfinish⟩ := exists_of_bind hq
  obtain ⟨rfl, -⟩ := check_eq_ok_iff.1 hcheck
  obtain ⟨q, hstep, -, rfl⟩ := Reading.step_of_finish hfinish 0
  exact ((Reading.valuesValid_of_foldlM hread).step hstep).nodup

namespace Extraction

open Template (Value)

/-! ## Fields -/

/-- Is the field a list? -/
def Field.isList : Field → Bool
  | single _ => false
  | list _ => true

theorem isList_fieldAfter (i : Nat) (v : Value) (h : List Event) : (fieldAfter i v h).isList = v.has .list := by
  unfold fieldAfter
  cases v.has .list <;> rfl

/-- Has the field of a value its kind: a list for a value with `List`, a single text for any other one? -/
def Field.Suits (v : Value) (f : Field) : Prop := f.isList = v.has .list

/-- Is it a text that has been filled up in place of an empty list? -/
def Field.Replaces (v : Value) (f : Field) : Prop :=
  v.has .list ∧ v.has .fillup ∧ ∃ u, u ≠ [] ∧ f = .single u

/-- **Every value has a field of its kind in a row**, but for a text in place of an empty list. -/
theorem RowOf.shape {values : List Value} {h : List Event} {row : Row} (hr : RowOf values h row) {i : Nat}
    {v : Value} (hv : values[i]? = some v) : ∃ f, row[i]? = some f ∧ (f.Suits v ∨ f.Replaces v) := by
  rcases hr.field i v hv with hfield | ⟨hfill, -, u, hu, hfield⟩
  · exact ⟨_, hfield, .inl (isList_fieldAfter i v h)⟩
  · refine ⟨_, hfield, ?_⟩
    rcases hl : v.has .list with _ | _
    · exact .inl hl.symm
    · exact .inr ⟨hl, hfill, u, hu, rfl⟩

/-- Every row of a run is that of a history. -/
theorem exists_rowOf {values : List Value} {p : Position} {h : List Event} :
    ∀ row ∈ (Run.after values p h).rows, ∃ g, RowOf values g row :=
  ((List.forall₂_and_left _ _).1 ((rows_after p h).imp fun _ g hr => ⟨⟨g, hr⟩, hr⟩)).1

/-! ## Records -/

/-- In a record with names of their own, a field is found by its name. -/
theorem Record.get?_of_mem {r : Record} (hn : r.names.Nodup) {name : Text} {f : Field} (h : (name, f) ∈ r) :
    r.get? name = some f := by
  unfold get?
  rcases hfind : r.find? (·.1 == name) with _ | p
  · exact absurd (beq_self_eq_true name) (List.find?_eq_none.1 hfind _ h)
  · have hname : p.1 = name := by simpa using List.find?_some hfind
    rw [hfind, List.inj_on_of_nodup_map hn (List.mem_of_find?_eq_some hfind) h hname]; rfl

theorem names_zip {t : Template} {row : Row} (h : row.length = t.values.length) :
    Record.names (t.header.zip row) = t.header := by
  rw [Record.names, List.map_fst_zip]
  rw [Template.header, List.length_map, h]

/-- **The shape of records.**  A record of a template that is accepted has the names of the header, in order and
    each of them once.  The field of a value with `List` is a list, and that of any other value a single text,
    whatever its other options are and whatever has been filled up; only where a value has both `List` and
    `Fillup`, a single text can have taken the place of an empty list. -/
theorem record_shape {source text : Text} {t : Template} {o : Outcome} (h : Template.parse source = .ok t)
    (ho : extract t text = .ok o) {record : Record} (hr : record ∈ o.records) :
    record.names = t.header ∧ t.header.Nodup ∧
      ∀ (i : Nat) (v : Value), t.values[i]? = some v → ∃ f, record[i]? = some (v.name, f) ∧
        record.get? v.name = some f ∧ (f.Suits v ∨ f.Replaces v) := by
  obtain ⟨c, -, rfl⟩ := exists_course ho
  obtain ⟨row, hrow, rfl⟩ := List.mem_map.1 hr
  obtain ⟨g, hrow⟩ := exists_rowOf row (List.mem_reverse.1 hrow)
  have hnodup := Template.header_nodup_of_parse h
  have hnames := names_zip hrow.length
  refine ⟨hnames, hnodup, fun i v hv => ?_⟩
  obtain ⟨f, hf, hshape⟩ := hrow.shape hv
  have hfield : (t.header.zip row)[i]? = some (v.name, f) := by rw [getElem?_header_zip hv, hf]; rfl
  exact ⟨f, hfield, Record.get?_of_mem (by rwa [hnames]) (List.mem_of_getElem? hfield), hshape⟩

/-- A list that keeps its texts, a single text that is filled up, and one that takes the place of a list. -/
theorem record_shape_filled :
    ∃ t o record, Template.parse
      ("Value Required A (\\d)\nValue Fillup B (\\w)\nValue Filldown,List C (\\w)\n".toList ++
        "Value Fillup,List D (\\w)\n\nStart\n  ^c${C}\n  ^${A} -> Record\n  ^b${B}${D}\n".toList) = .ok t ∧
      extract t "cx\n1\nbyz\n".toList = .ok o ∧ record ∈ o.records ∧
      record.map (·.2) = [.single ['1'], .single ['y'], .list [['x']], .single ['z']] ∧
      record.names = t.header ∧ t.header.Nodup ∧
      ∀ (i : Nat) (v : Value), t.values[i]? = some v → ∃ f, record[i]? = some (v.name, f) ∧
        record.get? v.name = some f ∧ (f.Suits v ∨ f.Replaces v) := by
  have h : (Template.parse ("Value Required A (\\d)\nValue Fillup B (\\w)\nValue Filldown,List C (\\w)\n".toList ++
      "Value Fillup,List D (\\w)\n\nStart\n  ^c${C}\n  ^${A} -> Record\n  ^b${B}${D}\n".toList)).toOption.map
        (extract · "cx\n1\nbyz\n".toList) =
      some (.ok { records := [[(['A'], .single ['1']), (['B'], .single ['y']), (['C'], .list [['x']]),
        (['D'], .single ['z'])]] }) := by
    decide +kernel
  obtain ⟨t, ht, ho⟩ := exists_parse_extract h
  exact ⟨t, _, _, ht, ho, List.mem_singleton_self _, rfl, record_shape ht ho (List.mem_singleton_self _)⟩

/-- The field of a value with `List` can be a single text: one that was captured behind the record. -/
theorem list_replaced :
    ∃ t o record v, Template.parse
        "Value Required A (\\d)\nValue Fillup,List B (\\w)\n\nStart\n  ^a${A} -> Record\n  ^b${B}\n".toList =
          .ok t ∧
      extract t "a1\nbx\n".toList = .ok o ∧ record ∈ o.records ∧ v ∈ t.values ∧ v.has .list ∧
      record.get? v.name = some (.single ['x']) := by
  have h : (Template.parse
        "Value Required A (\\d)\nValue Fillup,List B (\\w)\n\nStart\n  ^a${A} -> Record\n  ^b${B}\n".toList
      |>.toOption.map fun t => (t.values[1]?, extract t "a1\nbx\n".toList)) =
      some (some ⟨"B".toList, "(\\w)".toList, [.fillup, .list]⟩,
        .ok { records := [[(['A'], .single ['1']), (['B'], .single ['x'])]] }) := by
    decide +kernel
  obtain ⟨t, ht, hp⟩ := Template.exists_parse h
  obtain ⟨hv, ho⟩ := Prod.mk.inj hp
  exact ⟨t, _, _, _, ht, ho, List.mem_singleton_self _, List.mem_of_getElem? hv, rfl, rfl⟩

end Extraction

end Readout
