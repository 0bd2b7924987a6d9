/-
  Two runs side by side, with values that are the same but for their order and for Key.

  * `Column`, `Run.column`: what a run holds for a value, `column_captures`: what the captures of a firing do to it;
  * `Run.Twins`: two runs hold the same for values of one name;
  * `Twins.emit`, `Twins.fire`, `Twins.foldl_fire`: firings keep this, and both runs emit a record or neither does;
  * `twins_close`: with templates that are alike, the two runs hold the same in the end.
-/
import Readout.Proofs.Extraction.Alike
import Readout.Proofs.Extraction.Captures
import Readout.Proofs.Extraction.Safety
import Readout.Proofs.Extraction.Stages

namespace Readout.Extraction

open Template (Value Rule SameValues Alike)

/-! ## Columns -/

/-- What a run holds for a value: its slot, and its field in each of the rows. -/
abbrev Column := Option Slot × List (Option Field)

/-- What the run holds for value `i`. -/
def Run.column (r : Run) (i : Nat) : Column := (r.slots[i]?, r.rows.map (·[i]?))

theorem Run.Keeps.column_eq {i : Nat} {r r' : Run} (h : Run.Keeps i r r') : r'.column i = r.column i :=
  Prod.ext h.1 h.2

/-- Puts a text into the fields, up to one that has something there. -/
def fillColumn (u : Text) : List (Option Field) → List (Option Field)
  | [] => []
  | f :: fs => if f.any (!·.isEmpty) then f :: fs else f.map (fun _ => .single u) :: fillColumn u fs

theorem map_getElem?_fillUp (i : Nat) (u : Text) (rows : List Row) :
    (fillUp i u rows).map (·[i]?) = fillColumn u (rows.map (·[i]?)) := by
  induction rows with
  | nil => rfl
  | cons row rows ih =>
    have hset : (row.set i (.single u))[i]? = row[i]?.map fun _ => .single u := by
      rw [List.getElem?_set_self']
      rfl
    simp only [fillUp, List.map_cons, fillColumn]
    split
    · rfl
    · rw [List.map_cons, hset, ih]

/-- What a text that is captured does to the column of its value. -/
def Column.put (v : Value) (u : Text) (c : Column) : Column :=
  (c.1.map (Slot.put u), if !u.isEmpty && v.has .fillup then fillColumn u c.2 else c.2)

section
variable {values : List Value} {i : Nat} {v : Value} (hv : values[i]? = some v)
include hv

theorem Run.column_assign (r : Run) (u : Text) : (r.assign values i u).column i = (r.column i).put v u := by
  have hslots : (r.assign values i u).slots = r.slots.modify i (Slot.put u) := rfl
  have hrows : (r.assign values i u).rows = if !u.isEmpty && v.has .fillup then fillUp i u r.rows else r.rows := by
    simp only [assign, hv, Option.any_some]
  refine Prod.ext ?_ ?_
  · simp only [column, hslots, List.getElem?_modify_eq, Column.put]
    rfl
  · simp only [column, hrows, Column.put]
    split
    · exact map_getElem?_fillUp i u r.rows
    · rfl

/-- Assignments of which one is to the value, each to another one. -/
theorem Run.column_foldl {cs : List (Nat × Text)} (hcs : cs.Pairwise (·.1 < ·.1)) {u : Text} (hu : (i, u) ∈ cs)
    (r : Run) : (cs.foldl (fun r c => r.assign values c.1 c.2) r).column i = (r.column i).put v u := by
  obtain ⟨q, hq, hrest⟩ := exists_keeps_foldl hcs hu r
  rw [hrest.column_eq, column_assign hv, hq.column_eq]

/-- **What the captures of a firing do to the column of a value** depends on the text that its name stands for. -/
theorem Run.column_captures {f : Firing} (hf : f.rule.bindings = Rule.bindingsOf values f.rule.regex) (r : Run) :
    ((f.captures values).foldl (fun r c => r.assign values c.1 c.2) r).column i =
      match f.rule.regex.capture? f.line f.found v.name with
      | some u => (r.column i).put v u
      | none => r.column i := by
  rcases hu : f.rule.regex.capture? f.line f.found v.name with _ | u
  · refine (keeps_foldl (fun c hc hi => ?_) r).column_eq
    subst hi
    obtain ⟨-, w, hw, hcapture⟩ := Firing.mem_captures.1 hc
    rw [hv, Option.some.injEq] at hw
    rw [← hw, hu] at hcapture
    cases hcapture
  · refine column_foldl hv (Firing.pairwise_captures ?_) (Firing.mem_captures.2 ⟨?_, v, hv, hu⟩) r
    · rw [hf]
      exact List.pairwise_lt_range.filter _
    · rw [hf]
      exact Rule.mem_bindingsOf.2 ⟨v, hv, Regex.LinePattern.mem_names_of_capture? hu⟩

theorem Run.column_clear (r : Run) : (r.clear values).column i =
    ((r.column i).1.map fun s => if v.has .filldown then s else s.reset, (r.column i).2) := by
  have hslots : (r.clear values).slots[i]? = r.slots[i]?.map fun s => if v.has .filldown then s else s.reset := by
    rw [clear, List.getElem?_zipWith, hv]
    cases r.slots[i]? <;> rfl
  exact Prod.ext hslots rfl

end

theorem Run.column_clearAll (r : Run) (i : Nat) :
    r.clearAll.column i = ((r.column i).1.map Slot.reset, (r.column i).2) :=
  Prod.ext List.getElem?_map rfl

/-- The run with its slots as one more row. -/
def Run.addRow (r : Run) : Run := { r with rows := r.slots.map Slot.field :: r.rows }

theorem Run.column_addRow (r : Run) (i : Nat) :
    r.addRow.column i = ((r.column i).1, (r.column i).1.map Slot.field :: (r.column i).2) := by
  simp only [column, addRow, List.map_cons, List.getElem?_map]

/-! ## Twins -/

theorem length_fillUp (i : Nat) (u : Text) (rows : List Row) : (fillUp i u rows).length = rows.length := by
  induction rows with
  | nil => rfl
  | cons row rows ih =>
    unfold fillUp
    split
    · rfl
    · rw [List.length_cons, List.length_cons, ih]

/-- Assignments keep the number of rows. -/
theorem Run.length_rows_foldl (values : List Value) (cs : List (Nat × Text)) (r : Run) :
    (cs.foldl (fun r c => r.assign values c.1 c.2) r).rows.length = r.rows.length := by
  induction cs generalizing r with
  | nil => rfl
  | cons c cs ih =>
    rw [List.foldl_cons, ih, assign]
    split
    · exact length_fillUp _ _ _
    · rfl

theorem Run.Fits.foldl {t : Template} (cs : List (Nat × Text)) {r : Run} (hr : r.Fits t) :
    (cs.foldl (fun r c => r.assign t.values c.1 c.2) r).Fits t := by
  induction cs generalizing r with
  | nil => exact hr
  | cons c cs ih => exact ih (hr.assign c.1 c.2)

/-- Two runs that hold the same for values of one name. -/
structure Run.Twins (t t' : Template) (r r' : Run) : Prop where
  fits : r.Fits t
  fits' : r'.Fits t'
  rows : r.rows.length = r'.rows.length
  column : ∀ {i j v w}, t.values[i]? = some v → t'.values[j]? = some w → v.name = w.name → r.column i = r'.column j

section
variable {t t' : Template} {r r' : Run}

theorem Run.Twins.symm (h : Run.Twins t t' r r') : Run.Twins t' t r' r :=
  ⟨h.fits', h.fits, h.rows.symm, fun hw hv hname => (h.column hv hw hname.symm).symm⟩

theorem Run.Twins.slot (h : Run.Twins t t' r r') {i j : Nat} {v w : Value} (hv : t.values[i]? = some v)
    (hw : t'.values[j]? = some w) (hname : v.name = w.name) : r.slots[i]? = r'.slots[j]? :=
  congrArg Prod.fst (h.column hv hw hname)

variable (hvalues : SameValues t.values t'.values)
include hvalues

/-- Where a value stands in the other list. -/
theorem exists_twin {i : Nat} {v : Value} (hv : t.values[i]? = some v) :
    ∃ (j : Nat) (w : Value), t'.values[j]? = some w ∧ v.Like w := by
  obtain ⟨w, hw, hlike⟩ := hvalues.exists_like (List.mem_of_getElem? hv)
  obtain ⟨j, hj⟩ := List.getElem?_of_mem hw
  exact ⟨j, w, hj, hlike⟩

/-- Values of one name are like each other. -/
theorem like_of_name {i j : Nat} {v w : Value} (hv : t.values[i]? = some v) (hw : t'.values[j]? = some w)
    (hname : v.name = w.name) : v.Like w :=
  hvalues.like v (List.mem_of_getElem? hv) w (List.mem_of_getElem? hw) hname

namespace Run.Twins

theorem lacksRequired_of (h : Twins t t' r r') (hr : r.lacksRequired t.values) : r'.lacksRequired t'.values := by
  obtain ⟨i, v, s, hv, hs, hrequired, hempty⟩ := lacksRequired_iff.1 hr
  obtain ⟨j, w, hw, hlike⟩ := exists_twin hvalues hv
  refine lacksRequired_iff.2 ⟨j, w, s, hw, ?_, ?_, hempty⟩
  · rw [← h.slot hv hw hlike.name, hs]
  · rw [← hlike.has (by decide), hrequired]

theorem lacksRequired_eq (h : Twins t t' r r') : r.lacksRequired t.values = r'.lacksRequired t'.values :=
  Bool.eq_iff_iff.2 ⟨h.lacksRequired_of hvalues, h.symm.lacksRequired_of hvalues.symm⟩

theorem all_isUnset_of (h : Twins t t' r r') (hr : r.slots.all Slot.isUnset) : r'.slots.all Slot.isUnset := by
  refine all_isUnset_iff.2 fun j s hs => ?_
  have hj : j < t'.values.length := by
    rw [← h.fits'.slots]
    exact (List.getElem?_eq_some_iff.1 hs).1
  obtain ⟨i, v, hv, hlike⟩ := exists_twin hvalues.symm (List.getElem?_eq_getElem hj)
  exact all_isUnset_iff.1 hr i s (by rw [h.slot hv (List.getElem?_eq_getElem hj) hlike.name.symm, hs])

theorem all_isUnset_eq (h : Twins t t' r r') : r.slots.all Slot.isUnset = r'.slots.all Slot.isUnset :=
  Bool.eq_iff_iff.2 ⟨h.all_isUnset_of hvalues, h.symm.all_isUnset_of hvalues.symm⟩

theorem clear (h : Twins t t' r r') : Twins t t' (r.clear t.values) (r'.clear t'.values) where
  fits := h.fits.clear
  fits' := h.fits'.clear
  rows := h.rows
  column hv hw hname := by
    have hfilldown := (like_of_name hvalues hv hw hname).has (o := .filldown) (by decide)
    rw [column_clear hv, column_clear hw, h.column hv hw hname]
    simp only [hfilldown]

omit hvalues in
theorem clearAll (h : Twins t t' r r') : Twins t t' r.clearAll r'.clearAll where
  fits := h.fits.act .clearAll
  fits' := h.fits'.act .clearAll
  rows := h.rows
  column hv hw hname := by rw [column_clearAll, column_clearAll, h.column hv hw hname]

omit hvalues in
theorem addRow (h : Twins t t' r r') : Twins t t' r.addRow r'.addRow where
  fits := by
    refine ⟨h.fits.slots, List.forall_mem_cons.2 ⟨?_, h.fits.rows⟩, h.fits.state⟩
    rw [List.length_map, h.fits.slots]
  fits' := by
    refine ⟨h.fits'.slots, List.forall_mem_cons.2 ⟨?_, h.fits'.rows⟩, h.fits'.state⟩
    rw [List.length_map, h.fits'.slots]
  rows := congrArg (· + 1) h.rows
  column hv hw hname := by rw [column_addRow, column_addRow, h.column hv hw hname]

/-- **A record is emitted by both runs or by neither.** -/
theorem emit (h : Twins t t' r r') : Twins t t' (r.emit t.values) (r'.emit t'.values) := by
  unfold Run.emit
  rw [← h.lacksRequired_eq hvalues, ← h.all_isUnset_eq hvalues]
  split
  · exact h.clear hvalues
  · split
    · exact h
    · exact h.addRow.clear hvalues

theorem act (h : Twins t t' r r') (op : Template.RecordOp) : Twins t t' (r.act t.values op) (r'.act t'.values op) := by
  cases op with
  | noRecord => exact h
  | record => exact h.emit hvalues
  | clear => exact h.clear hvalues
  | clearAll => exact h.clearAll

/-- **A firing does the same to both runs.** -/
theorem fire (h : Twins t t' r r') {f f' : Firing} (hcore : f.core = f'.core)
    (hf : f.rule.bindings = Rule.bindingsOf t.values f.rule.regex)
    (hf' : f'.rule.bindings = Rule.bindingsOf t'.values f'.rule.regex) :
    Twins t t' (r.fire t.values f) (r'.fire t'.values f') := by
  have hrule : f.rule.core = f'.rule.core := (congrArg Firing.rule hcore :)
  have hregex : f.rule.regex = f'.rule.regex := (congrArg Rule.regex hrule :)
  have haction : f.rule.action = f'.rule.action := (congrArg Rule.action hrule :)
  have hline : f.line = f'.line := (congrArg Firing.line hcore :)
  have hfound : f.found = f'.found := (congrArg Firing.found hcore :)
  unfold Run.fire
  rw [haction]
  refine act hvalues ⟨h.fits.foldl _, h.fits'.foldl _, ?_, fun {i j v w} hv hw hname => ?_⟩ _
  · rw [length_rows_foldl, length_rows_foldl, h.rows]
  · have hfillup := (like_of_name hvalues hv hw hname).has (o := .fillup) (by decide)
    rw [column_captures hv hf, column_captures hw hf', hregex, hline, hfound, hname, h.column hv hw hname]
    simp only [Column.put, hfillup]

theorem foldl_fire {fs : List Firing} : ∀ {fs' : List Firing} {r r' : Run}, Twins t t' r r' →
    fs.map Firing.core = fs'.map Firing.core →
    (∀ f ∈ fs, f.rule.bindings = Rule.bindingsOf t.values f.rule.regex) →
    (∀ f ∈ fs', f.rule.bindings = Rule.bindingsOf t'.values f.rule.regex) →
    Twins t t' (fs.foldl (Run.fire t.values) r) (fs'.foldl (Run.fire t'.values) r') := by
  induction fs with
  | nil =>
    intro fs' r r' h hcore _ _
    obtain rfl := List.map_eq_nil_iff.1 hcore.symm
    exact h
  | cons f fs ih =>
    intro fs' r r' h hcore hf hf'
    obtain ⟨f', fs', rfl, hfirst, hrest⟩ := List.map_eq_cons_iff.1 hcore.symm
    rw [List.forall_mem_cons] at hf hf'
    have hfire := h.fire hvalues hfirst.symm hf.1 hf'.1
    rw [List.foldl_cons, List.foldl_cons]
    exact ih hfire hrest.symm hf.2 hf'.2

/-- Runs that have not read anything. -/
theorem start {p p' : Position} (hp : p.Within t) (hp' : p'.Within t') :
    Twins t t' ⟨p, t.values.map Slot.fresh, []⟩ ⟨p', t'.values.map Slot.fresh, []⟩ where
  fits := ⟨List.length_map _, nofun, hp⟩
  fits' := ⟨List.length_map _, nofun, hp'⟩
  rows := rfl
  column {i j v w} hv hw hname := by
    have hlist := (like_of_name hvalues hv hw hname).has (o := .list) (by decide)
    simp only [Run.column, List.getElem?_map, hv, hw, Option.map_some, Slot.fresh, hlist, List.map_nil]

end Run.Twins

end

/-! ## Courses side by side -/

/-- **The two runs hold the same in the end.** -/
theorem twins_close {t t' : Template} (h : Alike t t') {ls : List Text} {c c' : Course}
    (hc : Course.through t ls = .ok c) (hc' : Course.through t' ls = .ok c') (hcore : c.core = c'.core) :
    Run.Twins t t' ((c.run t).close t) ((c'.run t').close t') := by
  obtain ⟨hfirings, hposition⟩ := Course.mk.inj hcore
  have hrun : Run.Twins t t' (c.run t) (c'.run t') := by
    have hp := Course.within_through hc
    have hp' := Course.within_through hc'
    have hfold := (Run.Twins.start h.values hp hp').foldl_fire h.values hfirings
      (fun f hf => by
        obtain ⟨s, hs, hrule⟩ := Course.rule_mem_through hc f hf
        exact h.bindings s hs f.rule hrule)
      (fun f hf => by
        obtain ⟨s, hs, hrule⟩ := Course.rule_mem_through hc' f hf
        exact h.bindings' s hs f.rule hrule)
    exact ⟨⟨hfold.fits.slots, hfold.fits.rows, hp⟩, ⟨hfold.fits'.slots, hfold.fits'.rows, hp'⟩, hfold.rows,
      hfold.column⟩
  have hended : (c.position = .ended) = (c'.position = .ended) := by
    revert hposition
    cases c.position <;> cases c'.position <;> simp [Position.core]
  have heof : t.hasState Template.eofState = t'.hasState Template.eofState := by
    have hstate := congrArg Option.isSome (h.state? Template.eofState)
    rwa [Option.isSome_map, Option.isSome_map] at hstate
  unfold Run.close
  rw [show (c.run t).position = c.position from rfl, show (c'.run t').position = c'.position from rfl, heof]
  simp only [hended]
  split
  · exact hrun
  · exact hrun.emit h.values

end Readout.Extraction
