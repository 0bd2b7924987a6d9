/-
  The history of a run: the texts that are captured and the record operations, in order.  What a run holds
  and emits is told by its history alone.

  * `Event.resets` says when a value loses its texts, `gathered` are the texts it has captured since;
  * `emissions` are the histories behind which a record is emitted, `fieldAfter` is a field of that record;
  * `slots_after`: the slots of a run hold what its values have gathered;
  * `rows_after`: the rows of a run are those of its emissions, up to back-filling.
-/
import Mathlib.Data.List.DropRight
import Mathlib.Data.List.Forall2
import Readout.Proofs.Extraction.Course

namespace Readout.Extraction

open Template (Value RecordOp)

/-! ## Events -/

/-- What can happen to slots and rows. -/
inductive Event where
  /-- value `i` captures a text -/
  | capture (i : Nat) (u : Text)
  | act (op : RecordOp)
  deriving DecidableEq

namespace Event

/-- The text that value `i` captures. -/
def text? (i : Nat) : Event → Option Text
  | capture j u => if j = i then some u else none
  | act _ => none

/-- Does the value lose its texts?  One that is filled down loses them only if all values do. -/
def resets (v : Value) : Event → Bool
  | act .clearAll => true
  | act .record | act .clear => !v.has .filldown
  | act .noRecord | capture .. => false

end Event

/-- The events of a firing: all captures come before the record operation. -/
def Firing.events (values : List Value) (f : Firing) : List Event :=
  (f.captures values).map (fun c => .capture c.1 c.2) ++ [.act f.rule.action.record]

/-- The history of a course: its firings, and the last record unless the run was ended or the template has a
    state for the end. -/
def Course.history (t : Template) (c : Course) : List Event :=
  c.firings.flatMap (Firing.events t.values) ++
    if c.position = .ended || t.hasState Template.eofState then [] else [.act .record]

/-! ## What a history tells -/

/-- The texts that value `i` has captured since it was last reset. -/
def gathered (i : Nat) (v : Value) (h : List Event) : List Text :=
  (h.rtakeWhile fun e => !e.resets v).filterMap (Event.text? i)

/-- The field of value `i`: a list of all texts that were captured since the last reset, or else the last of
    them. -/
def fieldAfter (i : Nat) (v : Value) (h : List Event) : Field :=
  if v.has .list then .list (gathered i v h) else .single ((gathered i v h).getLast?.getD [])

/-- Would a record be emitted?  No required value may be empty, and some value must have captured a text
    since it was last reset. -/
def emits (values : List Value) (h : List Event) : Bool :=
  (values.zipIdx.all fun (v, i) => !v.has .required || !(fieldAfter i v h).isEmpty) &&
    values.zipIdx.any fun (v, i) => !(gathered i v h).isEmpty

/-- The histories behind which a record is emitted, in order. -/
def emissions (values : List Value) (h : List Event) : List (List Event) :=
  ((List.range h.length).filter fun k => h[k]? == some (.act .record) && emits values (h.take k)).map
    h.take

section
variable {i : Nat} {v : Value} {values : List Value}

theorem gathered_concat (h : List Event) (e : Event) :
    gathered i v (h ++ [e]) = if e.resets v then [] else gathered i v h ++ (e.text? i).toList := by
  unfold gathered
  rw [List.rtakeWhile_concat]
  cases e.resets v with
  | true => rfl
  | false => cases he : e.text? i <;> simp [he]

theorem emissions_concat (h : List Event) (e : Event) :
    emissions values (h ++ [e]) =
      emissions values h ++ if e = .act .record ∧ emits values h then [h] else [] := by
  unfold emissions
  rw [List.length_append, List.length_singleton, List.range_succ, List.filter_append, List.map_append]
  congr 1
  · have hk : ∀ k ∈ List.range h.length, (h ++ [e])[k]? = h[k]? ∧ (h ++ [e]).take k = h.take k := by
      intro k hk
      rw [List.mem_range] at hk
      exact ⟨List.getElem?_append_left hk, List.take_append_of_le_length hk.le⟩
    rw [List.filter_congr fun k hk' => by rw [(hk k hk').1, (hk k hk').2]]
    exact List.map_congr_left fun k hk' => (hk k (List.mem_filter.1 hk').1).2
  · by_cases he : e = .act .record ∧ emits values h
    · simp [he.1, he.2]
    · rw [if_neg he]
      simpa [List.filter_cons] using he

theorem emits_iff {h : List Event} :
    emits values h ↔
      (∀ i v, values[i]? = some v → v.has .required → (fieldAfter i v h).isEmpty = false) ∧
        ∃ i v, values[i]? = some v ∧ gathered i v h ≠ [] := by
  simp only [emits, Bool.and_eq_true, List.all_eq_true, List.any_eq_true, Prod.forall, Prod.exists,
    List.mem_zipIdx_iff_getElem?]
  refine and_congr ⟨fun H i v hv hr => ?_, fun H v i hv => ?_⟩ ⟨?_, ?_⟩
  · simpa [hr] using H v i hv
  · by_cases hr : v.has .required
    · simp [H i v hv hr]
    · simp [hr]
  · rintro ⟨v, i, hv, hg⟩; exact ⟨i, v, hv, by simpa using hg⟩
  · rintro ⟨i, v, hv, hg⟩; exact ⟨v, i, hv, by simpa using hg⟩

end

/-! ## Slots -/

/-- The slot of value `i` behind a history. -/
def slotAfter (i : Nat) (v : Value) (h : List Event) : Slot :=
  if v.has .list then .list (gathered i v h) else .scalar (gathered i v h).getLast?

section
variable (i : Nat) (v : Value) (h : List Event)

theorem slotAfter_nil : slotAfter i v [] = Slot.fresh v := by
  unfold slotAfter Slot.fresh; split <;> rfl

theorem field_slotAfter : (slotAfter i v h).field = fieldAfter i v h := by
  unfold slotAfter fieldAfter; split <;> rfl

theorem isEmpty_slotAfter : (slotAfter i v h).isEmpty = (fieldAfter i v h).isEmpty := by
  unfold slotAfter fieldAfter; split <;> rfl

theorem isUnset_slotAfter : (slotAfter i v h).isUnset = (gathered i v h).isEmpty := by
  unfold slotAfter
  split
  · rfl
  · cases gathered i v h <;> simp [Slot.isUnset]

theorem slotAfter_capture (j : Nat) (u : Text) :
    slotAfter i v (h ++ [.capture j u]) =
      if j = i then (slotAfter i v h).put u else slotAfter i v h := by
  unfold slotAfter
  rw [gathered_concat]
  by_cases hj : j = i
  · simp only [Event.resets, Event.text?, hj]; split <;> simp [Slot.put]
  · simp [Event.resets, Event.text?, hj]

theorem slotAfter_act (op : RecordOp) :
    slotAfter i v (h ++ [.act op]) =
      if (Event.act op).resets v then (slotAfter i v h).reset else slotAfter i v h := by
  unfold slotAfter
  rw [gathered_concat]
  by_cases hr : (Event.act op).resets v
  · simp only [hr, if_true]; split <;> rfl
  · simp [hr, Event.text?]

end

/-! ## Runs -/

namespace Run

/-- What an event does to slots and rows. -/
def happen (values : List Value) (r : Run) : Event → Run
  | .capture i u => r.assign values i u
  | .act op => r.act values op

theorem fire_eq (values : List Value) (r : Run) (f : Firing) :
    r.fire values f = (f.events values).foldl (happen values) r := by
  rw [fire, Firing.events, List.foldl_append, List.foldl_map]; rfl

theorem lacksRequired_iff {values : List Value} {r : Run} : r.lacksRequired values ↔
    ∃ (i : Nat) (v : Value) (s : Slot), values[i]? = some v ∧ r.slots[i]? = some s ∧ v.has .required ∧ s.isEmpty := by
  simp only [lacksRequired, List.any_eq_true, Prod.exists, List.mem_iff_getElem?, List.getElem?_zip_eq_some,
    Bool.and_eq_true]
  constructor
  · rintro ⟨v, s, ⟨i, hv, hs⟩, hrequired, hempty⟩
    exact ⟨i, v, s, hv, hs, hrequired, hempty⟩
  · rintro ⟨i, v, s, hv, hs, hrequired, hempty⟩
    exact ⟨v, s, ⟨i, hv, hs⟩, hrequired, hempty⟩

theorem all_isUnset_iff {r : Run} :
    r.slots.all Slot.isUnset ↔ ∀ (i : Nat) (s : Slot), r.slots[i]? = some s → s.isUnset := by
  simp only [List.all_eq_true, List.mem_iff_getElem?]
  constructor
  · intro h i s hs
    exact h s ⟨i, hs⟩
  · rintro h s ⟨i, hs⟩
    exact h i s hs

/-- Do the slots hold what the values have gathered in a history? -/
def Holds (values : List Value) (h : List Event) (r : Run) : Prop :=
  r.slots = values.mapIdx fun i v => slotAfter i v h

theorem holds_iff {values : List Value} {h : List Event} {r : Run} :
    r.Holds values h ↔ ∀ i, r.slots[i]? = values[i]?.map fun v => slotAfter i v h := by
  unfold Holds
  simp only [List.ext_getElem?_iff, List.getElem?_mapIdx]

section
variable {values : List Value} {h : List Event} {r : Run} (hs : r.Holds values h)
include hs

theorem Holds.getElem? (i : Nat) : r.slots[i]? = values[i]?.map fun v => slotAfter i v h := holds_iff.1 hs i

/-- An event that changes no slot. -/
theorem Holds.same {e : Event}
    (he : ∀ i v, values[i]? = some v → slotAfter i v (h ++ [e]) = slotAfter i v h) :
    r.Holds values (h ++ [e]) := by
  refine holds_iff.2 fun i => ?_
  rw [hs.getElem?]
  exact Option.map_congr fun v hv => (he i v hv).symm

theorem Holds.lacksRequired_iff :
    r.lacksRequired values ↔
      ∃ i v, values[i]? = some v ∧ v.has .required ∧ (fieldAfter i v h).isEmpty := by
  simp only [Run.lacksRequired_iff, hs.getElem?, Option.map_eq_some_iff]
  constructor
  · rintro ⟨i, v, _, hv, ⟨v', hv', rfl⟩, hr, he⟩
    rw [hv] at hv'; cases hv'
    exact ⟨i, v, hv, hr, isEmpty_slotAfter i v h ▸ he⟩
  · rintro ⟨i, v, hv, hr, he⟩
    exact ⟨i, v, _, hv, ⟨v, hv, rfl⟩, hr, by rwa [isEmpty_slotAfter]⟩

theorem Holds.all_isUnset_iff :
    r.slots.all Slot.isUnset ↔ ∀ i v, values[i]? = some v → gathered i v h = [] := by
  simp only [Run.all_isUnset_iff, hs.getElem?, Option.map_eq_some_iff]
  constructor
  · intro H i v hv
    simpa [isUnset_slotAfter] using H i _ ⟨v, hv, rfl⟩
  · rintro H i _ ⟨v, hv, rfl⟩
    simp [isUnset_slotAfter, H i v hv]

theorem Holds.assign (j : Nat) (u : Text) :
    (r.assign values j u).Holds values (h ++ [.capture j u]) := by
  refine holds_iff.2 fun i => ?_
  rw [show (r.assign values j u).slots = r.slots.modify j (Slot.put u) from rfl, List.getElem?_modify,
    hs.getElem?]
  cases values[i]? with
  | none => rfl
  | some v =>
    simp only [Option.map_some, slotAfter_capture]
    split <;> rfl

theorem Holds.clear {op : RecordOp} (hop : op = .record ∨ op = .clear) :
    (r.clear values).Holds values (h ++ [.act op]) := by
  refine holds_iff.2 fun i => ?_
  rw [Run.clear, List.getElem?_zipWith, hs.getElem?]
  cases values[i]? with
  | none => rfl
  | some v =>
    have hr : (Event.act op).resets v = !v.has .filldown := by rcases hop with rfl | rfl <;> rfl
    simp only [Option.map_some, slotAfter_act, hr]
    cases v.has .filldown <;> rfl

theorem Holds.clearAll : r.clearAll.Holds values (h ++ [.act .clearAll]) := by
  refine holds_iff.2 fun i => ?_
  rw [Run.clearAll, List.getElem?_map, hs.getElem?]
  cases values[i]? with
  | none => rfl
  | some v => simp only [Option.map_some, slotAfter_act]; rfl

/-- A record operation without values that have captured a text changes nothing. -/
theorem Holds.record_unset (hg : ∀ i v, values[i]? = some v → gathered i v h = []) :
    r.Holds values (h ++ [.act .record]) := by
  refine hs.same fun i v hv => ?_
  have hreset : (slotAfter i v h).reset = slotAfter i v h := by
    unfold slotAfter; rw [hg i v hv]; split <;> rfl
  rw [slotAfter_act, hreset, ite_self]

/-- **What `Record` does.**  A row is emitted just where the history says so, and in either case the slots
    lose what is not filled down. -/
theorem Holds.emit :
    (r.emit values).Holds values (h ++ [.act .record]) ∧
      (r.emit values).rows =
        if emits values h then (values.mapIdx fun i v => fieldAfter i v h) :: r.rows else r.rows := by
  by_cases hl : r.lacksRequired values
  · have he : ¬ emits values h := by
      obtain ⟨i, v, hv, hr, hf⟩ := hs.lacksRequired_iff.1 hl
      intro he
      rw [(emits_iff.1 he).1 i v hv hr] at hf; cases hf
    rw [Run.emit, if_pos hl, if_neg he]
    exact ⟨hs.clear (.inl rfl), rfl⟩
  · by_cases hu : r.slots.all Slot.isUnset
    · have hg := hs.all_isUnset_iff.1 hu
      have he : ¬ emits values h := by
        intro he
        obtain ⟨i, v, hv, hne⟩ := (emits_iff.1 he).2
        exact hne (hg i v hv)
      rw [Run.emit, if_neg hl, if_pos hu, if_neg he]
      exact ⟨hs.record_unset hg, rfl⟩
    · have he : emits values h := by
        refine emits_iff.2 ⟨fun i v hv hr => ?_, ?_⟩
        · by_contra hf
          exact hl (hs.lacksRequired_iff.2 ⟨i, v, hv, hr, by simpa using hf⟩)
        · by_contra hg
          exact hu (hs.all_isUnset_iff.2 fun i v hv => by_contra fun hne => hg ⟨i, v, hv, hne⟩)
      have hrow : r.slots.map Slot.field = values.mapIdx fun i v => fieldAfter i v h := by
        refine List.ext_getElem? fun i => ?_
        rw [List.getElem?_map, hs.getElem?, List.getElem?_mapIdx, Option.map_map]
        exact congrArg (Option.map · _) (funext fun v => field_slotAfter i v h)
      rw [Run.emit, if_neg hl, if_neg hu, if_pos he, hrow]
      exact ⟨Holds.clear (r := { r with rows := _ }) hs (.inl rfl), rfl⟩

/-- **An event keeps slots and history in step.** -/
theorem Holds.happen (e : Event) : (r.happen values e).Holds values (h ++ [e]) := by
  cases e with
  | capture j u => exact hs.assign j u
  | act op =>
    cases op with
    | noRecord => exact hs.same fun i v _ => slotAfter_act i v h .noRecord
    | record => exact hs.emit.1
    | clear => exact hs.clear (.inr rfl)
    | clearAll => exact hs.clearAll

end

/-- The run behind a history. -/
def after (values : List Value) (p : Position) (h : List Event) : Run :=
  h.foldl (happen values) { position := p, slots := values.map Slot.fresh }

theorem after_concat (values : List Value) (p : Position) (h : List Event) (e : Event) :
    after values p (h ++ [e]) = (after values p h).happen values e := by
  simp only [after, List.foldl_concat]

/-- **The slots of a run hold what its values have gathered.** -/
theorem slots_after (values : List Value) (p : Position) (h : List Event) :
    (after values p h).Holds values h := by
  induction h using List.reverseRecOn with
  | nil =>
    refine holds_iff.2 fun i => ?_
    rw [after, List.foldl_nil, List.getElem?_map]
    exact Option.map_congr fun v _ => (slotAfter_nil i v).symm
  | append_singleton h e ih => rw [after_concat]; exact ih.happen e

end Run

/-! ## Rows -/

/-- Is it the row that is emitted behind a history?  Back-filling may have put a text where a value that is
    filled up was empty. -/
structure RowOf (values : List Value) (h : List Event) (row : Row) : Prop where
  emitted : emits values h
  length : row.length = values.length
  field : ∀ i v, values[i]? = some v → row[i]? = some (fieldAfter i v h) ∨
    v.has .fillup ∧ (fieldAfter i v h).isEmpty ∧ ∃ u, u ≠ [] ∧ row[i]? = some (.single u)

section
variable {values : List Value}

theorem rowOf_mapIdx {h : List Event} (he : emits values h) :
    RowOf values h (values.mapIdx fun i v => fieldAfter i v h) where
  emitted := he
  length := List.length_mapIdx
  field i v hv := Or.inl (by rw [List.getElem?_mapIdx, hv]; rfl)

/-- A field that is empty may be back-filled. -/
theorem RowOf.set {h : List Event} {row : Row} (hr : RowOf values h row) {i : Nat} {v : Value} {u : Text}
    (hv : values[i]? = some v) (hf : v.has .fillup) (hu : u ≠ [])
    (he : row[i]?.any (!·.isEmpty) = false) : RowOf values h (row.set i (.single u)) where
  emitted := hr.emitted
  length := by rw [List.length_set, hr.length]
  field j w hw := by
    by_cases hj : i = j
    · subst hj
      rw [hv] at hw; cases hw
      have hi : i < row.length := hr.length ▸ (List.getElem?_eq_some_iff.1 hv).1
      refine Or.inr ⟨hf, ?_, u, hu, List.getElem?_set_self hi⟩
      rcases hr.field i v hv with hrow | ⟨-, hempty, -⟩
      · simpa [hrow] using he
      · exact hempty
    · rw [List.getElem?_set_ne hj]; exact hr.field j w hw

/-- Back-filling keeps the rows of their histories. -/
theorem rowOf_fillUp {i : Nat} {v : Value} {u : Text} (hv : values[i]? = some v) (hf : v.has .fillup)
    (hu : u ≠ []) {rows : List Row} {hs : List (List Event)}
    (H : List.Forall₂ (fun row h => RowOf values h row) rows hs) :
    List.Forall₂ (fun row h => RowOf values h row) (fillUp i u rows) hs := by
  induction H with
  | nil => exact .nil
  | @cons row h rows hs hr hrs ih =>
    unfold fillUp
    by_cases he : row[i]?.any (!·.isEmpty)
    · rw [if_pos he]; exact .cons hr hrs
    · rw [if_neg he]; exact .cons (hr.set hv hf hu (by simpa using he)) ih

/-- **The rows of a run are those of its emissions**, up to back-filling. -/
theorem rows_after (p : Position) (h : List Event) :
    List.Forall₂ (fun row h => RowOf values h row) (Run.after values p h).rows
      (emissions values h).reverse := by
  induction h using List.reverseRecOn with
  | nil => exact .nil
  | append_singleton h e ih =>
    rw [Run.after_concat, emissions_concat]
    cases e with
    | capture i u =>
      simp only [reduceCtorEq, false_and, if_false, List.append_nil, Run.happen, Run.assign]
      split
      · rename_i hc
        obtain ⟨hu, hf⟩ := Bool.and_eq_true_iff.1 hc
        obtain ⟨v, hv, hf⟩ := Option.any_eq_true _ _ |>.1 hf
        exact rowOf_fillUp hv hf (by simpa using hu) ih
      · exact ih
    | act op =>
      cases op with
      | record =>
        simp only [true_and]
        rw [show Run.happen values _ (.act .record) = Run.emit values _ from rfl,
          (Run.slots_after values p h).emit.2]
        by_cases he : emits values h
        · rw [if_pos he, if_pos he, List.reverse_append, List.reverse_singleton]
          exact .cons (rowOf_mapIdx he) ih
        · rw [if_neg he, if_neg he, List.append_nil]
          exact ih
      | _ =>
        simp only [Event.act.injEq, reduceCtorEq, false_and, if_false, List.append_nil]
        exact ih

end

/-! ## Courses -/

/-- A course carries out the captures and record operations of its firings. -/
theorem Course.run_eq (t : Template) (c : Course) :
    c.run t = Run.after t.values c.position (c.firings.flatMap (Firing.events t.values)) := by
  rw [Course.run, Run.follow, ← Run.foldl_fire_moveTo, Run.after, List.foldl_flatMap]
  congr 1
  funext r f
  exact Run.fire_eq t.values r f

/-- The end of a course is the last event of its history. -/
theorem Course.close_run (t : Template) (c : Course) :
    (c.run t).close t = Run.after t.values c.position (c.history t) := by
  have hp : (c.run t).position = c.position := rfl
  rw [Run.close, hp, Course.history, Course.run_eq]
  split
  · rw [List.append_nil]
  · rw [Run.after_concat]; rfl

/-- **A run is told by its history.** -/
theorem extract_eq_after (t : Template) (text : Text) :
    extract t text =
      (Course.ofText t text).map fun c => (Run.after t.values c.position (c.history t)).outcome t := by
  simp only [extract_eq, Course.close_run]

/-- The course behind an outcome. -/
theorem exists_course {t : Template} {text : Text} {o : Outcome} (ho : extract t text = .ok o) :
    ∃ c, Course.ofText t text = .ok c ∧ (Run.after t.values c.position (c.history t)).outcome t = o := by
  rw [extract_eq_after] at ho
  rcases hc : Course.ofText t text with e | c
  · rw [hc] at ho; cases ho
  · rw [hc] at ho; exact ⟨c, rfl, Except.ok.inj ho⟩

end Readout.Extraction
