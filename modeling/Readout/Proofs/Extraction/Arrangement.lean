/-
  Results of templates that differ in the order of their values and states, and in Key.

  * `Record.Same`: the same fields, in any order, `Twins.records`, `Twins.warnings`: what two runs yield is the same,
    but for the order of fields and of warnings;
  * `SameResult`, `extract_of_alike`: so is what templates that are alike yield;
  * `extract_rearranged`: the order of declarations and the option Key do not matter.
-/
import Readout.Proofs.Extraction.Shape
import Readout.Proofs.Extraction.Twins

namespace Readout.Extraction

open Template (Value SameValues Alike)

/-! ## Records -/

/-- In a record with names of their own, a field is found if it is there. -/
theorem Record.get?_eq_some_iff {r : Record} (hn : r.names.Nodup) {name : Text} {f : Field} :
    r.get? name = some f ↔ (name, f) ∈ r := by
  refine ⟨fun h => ?_, Record.get?_of_mem hn⟩
  obtain ⟨p, hp, rfl⟩ := Option.map_eq_some_iff.1 h
  have hname : p.1 = name := by simpa using List.find?_some hp
  rw [← hname]
  exact List.mem_of_find?_eq_some hp

/-- The same fields, in any order: each name leads to the same field. -/
structure Record.Same (r r' : Record) : Prop where
  perm : r.Perm r'
  get? : ∀ name, r.get? name = r'.get? name

/-- Two rows that hold the same for values of one name. -/
def TwinRows (t t' : Template) (row row' : Row) : Prop :=
  ∀ (i j : Nat) (v w : Value), t.values[i]? = some v → t'.values[j]? = some w → v.name = w.name → row[i]? = row'[j]?

section
variable {t t' : Template}

theorem TwinRows.symm {row row' : Row} (h : TwinRows t t' row row') : TwinRows t' t row' row :=
  fun i j w v hw hv hname => (h j i v w hv hw hname.symm).symm

theorem Run.Twins.rows_twin {r r' : Run} (h : Run.Twins t t' r r') :
    List.Forall₂ (TwinRows t t') r.rows r'.rows := by
  refine List.forall₂_iff_get.2 ⟨h.rows, fun k hk hk' => ?_⟩
  intro i j v w hv hw hname
  have hcolumn : r.rows.map (·[i]?) = r'.rows.map (·[j]?) := congrArg Prod.snd (h.column hv hw hname)
  have hfield := congrArg (·[k]?) hcolumn
  simpa [hk, hk'] using hfield

variable (hvalues : SameValues t.values t'.values)
include hvalues

theorem TwinRows.mem_zip {row row' : Row} (h : TwinRows t t' row row') {p : Text × Field}
    (hp : p ∈ t.header.zip row) : p ∈ t'.header.zip row' := by
  obtain ⟨i, hi⟩ := List.getElem?_of_mem hp
  obtain ⟨hname, hfield⟩ := List.getElem?_zip_eq_some.1 hi
  rw [Template.header, List.getElem?_map] at hname
  obtain ⟨v, hv, hname⟩ := Option.map_eq_some_iff.1 hname
  obtain ⟨j, w, hw, hlike⟩ := exists_twin hvalues hv
  refine List.mem_of_getElem? (i := j) ?_
  rw [getElem?_header_zip hw, ← h i j v w hv hw hlike.name, hfield, Option.map_some, ← hlike.name, hname]

/-- **Rows of twins make the same record.** -/
theorem TwinRows.same {row row' : Row} (h : TwinRows t t' row row') (hrow : row.length = t.values.length)
    (hrow' : row'.length = t'.values.length) : Record.Same (t.header.zip row) (t'.header.zip row') := by
  have hnames : (Record.names (t.header.zip row)).Nodup := by
    rw [names_zip hrow]
    exact hvalues.nodup
  have hnames' : (Record.names (t'.header.zip row')).Nodup := by
    rw [names_zip hrow']
    exact hvalues.symm.nodup
  have hmem : ∀ p, p ∈ t.header.zip row ↔ p ∈ t'.header.zip row' :=
    fun p => ⟨h.mem_zip hvalues, h.symm.mem_zip hvalues.symm⟩
  refine ⟨(List.perm_ext_iff_of_nodup hnames.of_map hnames'.of_map).2 hmem, fun name => Option.ext fun f => ?_⟩
  rw [Record.get?_eq_some_iff hnames, Record.get?_eq_some_iff hnames', hmem]

/-- **Twins yield the same records.** -/
theorem Run.Twins.records {r r' : Run} (h : Run.Twins t t' r r') :
    List.Forall₂ Record.Same (r.outcome t).records (r'.outcome t').records := by
  have hrows := (List.forall₂_and_left _ _).2 ⟨h.fits.rows, h.rows_twin⟩
  have hrows' := (List.forall₂_and_left _ _).2 ⟨h.fits'.rows, hrows.flip⟩
  rw [Run.outcome, Run.outcome, List.forall₂_map_left_iff, List.forall₂_map_right_iff, List.forall₂_reverse_iff]
  exact hrows'.flip.imp fun row row' h => h.2.2.same hvalues h.2.1 h.1

/-! ## Warnings -/

theorem mem_required_of {name : Text} (h : name ∈ (t.values.filter (·.has .required)).map (·.name)) :
    name ∈ (t'.values.filter (·.has .required)).map (·.name) := by
  obtain ⟨v, hv, rfl⟩ := List.mem_map.1 h
  obtain ⟨hv, hrequired⟩ := List.mem_filter.1 hv
  obtain ⟨w, hw, hlike⟩ := hvalues.exists_like hv
  refine List.mem_map.2 ⟨w, List.mem_filter.2 ⟨hw, ?_⟩, hlike.name.symm⟩
  rw [← hlike.has (by decide), hrequired]

/-- The same values are required. -/
theorem required_perm : ((t.values.filter (·.has .required)).map (·.name)).Perm
    ((t'.values.filter (·.has .required)).map (·.name)) := by
  refine (List.perm_ext_iff_of_nodup ?_ ?_).2 fun name => ⟨mem_required_of hvalues, mem_required_of hvalues.symm⟩
  · exact hvalues.nodup.sublist (List.filter_sublist.map _)
  · exact hvalues.symm.nodup.sublist (List.filter_sublist.map _)

/-- **Twins warn of the same**, if none of their rows lacks a required value. -/
theorem Run.Twins.warnings {r r' : Run} (h : Run.Twins t t' r r')
    (hr : r.Complete t.values) (hr' : r'.Complete t'.values) :
    (r.outcome t).warnings.Perm (r'.outcome t').warnings := by
  have hempty : r.rows.isEmpty = r'.rows.isEmpty := by
    rw [Bool.eq_iff_iff, List.isEmpty_iff_length_eq_zero, List.isEmpty_iff_length_eq_zero, h.rows]
  rw [Run.warnings_outcome hr, Run.warnings_outcome hr', hempty]
  split
  · have hperm := (required_perm hvalues).map Warning.requiredNeverFilled
    rwa [List.map_map, List.map_map] at hperm
  · exact .nil

end

/-! ## Results -/

/-- The same result, but for the order of fields in a record and of warnings, and for the line of a rule that fails. -/
inductive SameResult : Except Failure Outcome → Except Failure Outcome → Prop where
  | ok {o o' : Outcome} : List.Forall₂ Record.Same o.records o'.records → o.warnings.Perm o'.warnings →
    SameResult (.ok o) (.ok o')
  | error {e e' : Failure} : e.unruled = e'.unruled → SameResult (.error e) (.error e')

/-- **With templates that are alike, runs come to the same result.** -/
theorem extract_of_alike {t t' : Template} (h : Alike t t') (text : Text) :
    SameResult (extract t text) (extract t' text) := by
  have hcore := Course.ofText_core h.state? text
  rw [extract_eq, extract_eq]
  rcases hc : Course.ofText t text with e | c <;> rcases hc' : Course.ofText t' text with e' | c' <;>
    rw [hc, hc'] at hcore
  · exact .error (Except.error.inj hcore)
  · cases hcore
  · cases hcore
  · have htwins := twins_close h hc hc' (Except.ok.inj hcore)
    have hcomplete : ∀ (t : Template) (c : Course), ((c.run t).close t).Complete t.values := by
      intro t c
      rw [Course.close_run]
      exact Run.complete_after
    exact .ok (htwins.records h.values) (htwins.warnings h.values (hcomplete t c) (hcomplete t' c'))

/-- **The order of declarations and the option Key do not matter.**  If a source is accepted, then so is one with its
    values and its states in another order, and with Key added to values or taken from them.  For every text, the two
    templates yield records with the same fields and the same warnings, or fail in the same way. -/
theorem extract_rearranged {a b : Text} {t : Template} (ht : Template.parse a = .ok t) (h : Template.Rearranged a b) :
    ∃ t', Template.parse b = .ok t' ∧ ∀ text, SameResult (extract t text) (extract t' text) := by
  obtain ⟨t', ht', halike⟩ := Template.exists_alike_of_rearranged ht h
  exact ⟨t', ht', extract_of_alike halike⟩

/-- Interfaces with their addresses. -/
def interfaces : Text :=
  "Value Required,Key NAME (\\S+)\nValue UP (u)\nValue List IP (\\d+)\n\n".toList ++
    "Start\n  ^${NAME} ${UP} -> Addresses\n\n".toList ++
    "Addresses\n  ^\\s${IP} -> Continue\n  ^$$ -> Record Start\n".toList

/-- The same source in another order, and with another key. -/
def interfacesRearranged : Text :=
  "# Interfaces\nValue List IP (\\d+)\nValue Key UP (u)\nValue Required NAME (\\S+)\n\n".toList ++
    "Addresses\n  ^\\s${IP} -> Continue\n  ^$$ -> Record Start\n\n\n".toList ++
    "Start\n  ^${NAME} ${UP} -> Addresses\n".toList

theorem interfaces_rearranged : Template.Rearranged interfaces interfacesRearranged := by
  have hpiece : ∀ p ∈ ["Required".toList] ++ [], Text.IsSolid p ∧ ',' ∉ p ∧ p ≠ Template.ValueOption.key.keyword :=
    List.forall_mem_singleton.2 ⟨Template.Value.isSolid_keyword .required, by decide, by decide⟩
  have hname : Template.AddsKey "Value Required NAME (\\S+)".toList "Value Required,Key NAME (\\S+)".toList :=
    @Template.AddsKey.intro [] [' '] [' '] "NAME".toList "(\\S+)".toList ["Required".toList] []
      ⟨nofun, Template.isGap_blank, Template.isGap_blank, by decide, rfl, by decide⟩ hpiece
  have hup : Template.AddsKey "Value UP (u)".toList "Value Key UP (u)".toList :=
    @Template.AddsKey.intro [] [' '] [' '] "UP".toList "(u)".toList [] []
      ⟨nofun, Template.isGap_blank, Template.isGap_blank, by decide, rfl, by decide⟩ nofun
  have hvalues : Template.valueLines (Template.readLines interfacesRearranged) =
      ["Value List IP (\\d+)".toList, "Value Key UP (u)".toList, "Value Required NAME (\\S+)".toList] := by
    decide +kernel
  refine ⟨⟨["Value List IP (\\d+)".toList, "Value UP (u)".toList, "Value Required,Key NAME (\\S+)".toList],
    by decide +kernel, ?_⟩, by decide +kernel⟩
  rw [hvalues]
  exact .cons (.inl rfl) (.cons (.inr (.inl hup)) (.cons (.inr (.inr hname)) .nil))

/-- The records of the two sources have their fields in different orders. -/
theorem extract_rearranged_interfaces :
    ∃ t t', Template.parse interfaces = .ok t ∧ Template.Rearranged interfaces interfacesRearranged ∧
      Template.parse interfacesRearranged = .ok t' ∧
      (extract t "e0 u\n 1\n 2\n\n".toList).map (·.records) = .ok [[("NAME".toList, .single "e0".toList),
        ("UP".toList, .single ['u']), ("IP".toList, .list [['1'], ['2']])]] ∧
      (extract t' "e0 u\n 1\n 2\n\n".toList).map (·.records) = .ok [[("IP".toList, .list [['1'], ['2']]),
        ("UP".toList, .single ['u']), ("NAME".toList, .single "e0".toList)]] ∧
      ∀ text, SameResult (extract t text) (extract t' text) := by
  have h : (Template.parse interfaces).toOption.map
      (fun t => (extract t "e0 u\n 1\n 2\n\n".toList).map (·.records)) =
      some (.ok [[("NAME".toList, .single "e0".toList), ("UP".toList, .single ['u']),
        ("IP".toList, .list [['1'], ['2']])]]) := by
    decide +kernel
  have h' : (Template.parse interfacesRearranged).toOption.map
      (fun t => (extract t "e0 u\n 1\n 2\n\n".toList).map (·.records)) =
      some (.ok [[("IP".toList, .list [['1'], ['2']]), ("UP".toList, .single ['u']),
        ("NAME".toList, .single "e0".toList)]]) := by
    decide +kernel
  obtain ⟨t, ht, hrecords⟩ := Template.exists_parse h
  obtain ⟨t₁, ht₁, hrecords₁⟩ := Template.exists_parse h'
  obtain ⟨t', ht', hsame⟩ := extract_rearranged ht interfaces_rearranged
  obtain rfl : t₁ = t' := Except.ok.inj (ht₁.symm.trans ht')
  exact ⟨t, t₁, ht, interfaces_rearranged, ht', hrecords, hrecords₁, hsame⟩

end Readout.Extraction
