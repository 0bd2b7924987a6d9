/-
  What a rule captures is assigned.

  A rule may have several groups with the name of one value, as in different alternatives.  The name stands
  for the last of them, so a text that another one has captured is lost when the last one takes no part.

  * `LinePattern.groups` are the groups with a name;
  * `slots_bind`: the slots behind the binding of a rule;
  * `captures_assigned`: a value is assigned if a group with its name has taken part, but for this exception,
    and it is left as it is if none has;
  * `capture_lost`: the exception.
-/
import Readout.Proofs.Extraction.FillUp
import Readout.Proofs.Template.Validity

namespace Readout

/-! ## Groups -/

namespace Regex.LinePattern

/-- The numbers of the groups called `name`, the last one first. -/
def groups (p : LinePattern) (name : Text) : List Nat := (p.names.filter (·.1 == name)).map (·.2)

variable {p : LinePattern} {name : Text}

/-- A name stands for the last group that has it. -/
theorem group?_eq_head? : p.group? name = (p.groups name).head? := by
  rw [groups, List.head?_map, List.head?_filter, group?]

theorem capture?_eq_none {m : Match} (h : ∀ g ∈ p.groups name, m.captures.get? g = none) (line : Text) :
    p.capture? line m name = none := by
  rw [capture?, group?_eq_head?]
  rcases hgs : p.groups name with _ | ⟨g, gs⟩
  · rfl
  · rw [List.head?_cons, Option.bind_some, h g (hgs ▸ List.mem_cons_self)]; rfl

theorem capture?_of_groups {g : Nat} {gs : List Nat} (hgs : p.groups name = g :: gs) (m : Match) (line : Text) :
    p.capture? line m name = (m.captures.get? g).map (·.text line) := by
  rw [capture?, group?_eq_head?, hgs]; rfl

/-- A name that stands for a text is the name of a group. -/
theorem mem_names_of_capture? {line u : Text} {m : Match} (h : p.capture? line m name = some u) :
    name ∈ p.names.map (·.1) := by
  obtain ⟨_, hc, -⟩ := Option.map_eq_some_iff.1 h
  obtain ⟨_, hg, -⟩ := Option.bind_eq_some_iff.1 hc
  obtain ⟨q, hq, -⟩ := Option.map_eq_some_iff.1 hg
  have hname : q.1 = name := by simpa using List.find?_some hq
  exact hname ▸ List.mem_map_of_mem (List.mem_of_find?_eq_some hq)

end Regex.LinePattern

namespace Extraction

open Template (State Value Rule)

/-! ## Assignments -/

/-- Is value `i` left as it was, in its slot and in the records so far? -/
def Run.Keeps (i : Nat) (r r' : Run) : Prop :=
  r'.slots[i]? = r.slots[i]? ∧ r'.rows.map (·[i]?) = r.rows.map (·[i]?)

theorem Run.Keeps.trans {i : Nat} {r q p : Run} (h : Keeps i r q) (h' : Keeps i q p) : Keeps i r p :=
  ⟨h'.1.trans h.1, h'.2.trans h.2⟩

section
variable {values : List Value} {i : Nat}

theorem Run.keeps_assign {j : Nat} (hj : j ≠ i) (r : Run) (u : Text) : Keeps i r (r.assign values j u) := by
  have hslots : (r.assign values j u).slots = r.slots.modify j (Slot.put u) := rfl
  refine ⟨by rw [hslots, List.getElem?_modify_ne _ _ hj], ?_⟩
  rw [assign]
  split
  · exact map_fillUp_of_ne hj u r.rows
  · rfl

/-- Assignments to other values. -/
theorem Run.keeps_foldl {cs : List (Nat × Text)} (h : ∀ c ∈ cs, c.1 ≠ i) (r : Run) :
    Keeps i r (cs.foldl (fun r c => r.assign values c.1 c.2) r) := by
  induction cs generalizing r with
  | nil => exact ⟨rfl, rfl⟩
  | cons c cs ih =>
    obtain ⟨hc, hcs⟩ := List.forall_mem_cons.1 h
    exact (keeps_assign hc r c.2).trans (ih hcs (r.assign values c.1 c.2))

/-- Assignments of which one is to the value, each to another one: those in front of it and behind it leave the value
    as it was. -/
theorem Run.exists_keeps_foldl {cs : List (Nat × Text)} (hcs : cs.Pairwise (·.1 < ·.1)) {u : Text} (hu : (i, u) ∈ cs)
    (r : Run) : ∃ q, Keeps i r q ∧ Keeps i (q.assign values i u) (cs.foldl (fun r c => r.assign values c.1 c.2) r) := by
  induction cs generalizing r with
  | nil => cases hu
  | cons c cs ih =>
    obtain ⟨hc, hcs⟩ := List.pairwise_cons.1 hcs
    rw [List.foldl_cons]
    rcases List.mem_cons.1 hu with rfl | hu
    · exact ⟨r, ⟨rfl, rfl⟩, keeps_foldl (fun c hmem => (hc c hmem).ne') _⟩
    · obtain ⟨q, hq, hrest⟩ := ih hcs hu (r.assign values c.1 c.2)
      exact ⟨q, (keeps_assign (hc _ hu).ne r c.2).trans hq, hrest⟩

theorem Run.slots_foldl {cs : List (Nat × Text)} (hcs : cs.Pairwise (·.1 < ·.1)) {u : Text} (hu : (i, u) ∈ cs)
    (r : Run) : (cs.foldl (fun r c => r.assign values c.1 c.2) r).slots[i]? = r.slots[i]?.map (Slot.put u) := by
  obtain ⟨q, hq, hrest⟩ := @exists_keeps_foldl values i cs hcs u hu r
  rw [hrest.1, ← hq.1]
  exact List.getElem?_modify_eq ..

/-- The captures of a firing. -/
theorem Firing.mem_captures {f : Firing} {u : Text} : (i, u) ∈ f.captures values ↔
    i ∈ f.rule.bindings ∧ ∃ v, values[i]? = some v ∧ f.rule.regex.capture? f.line f.found v.name = some u := by
  simp only [captures, List.mem_filterMap, Option.map_eq_some_iff, Option.bind_eq_some_iff, Prod.mk.injEq]
  constructor
  · rintro ⟨_, hi, _, hu, rfl, rfl⟩; exact ⟨hi, hu⟩
  · rintro ⟨hi, hu⟩; exact ⟨i, hi, u, hu, rfl, rfl⟩

theorem Firing.pairwise_captures {f : Firing} (h : f.rule.bindings.Pairwise (· < ·)) :
    (f.captures values).Pairwise (·.1 < ·.1) := by
  rw [captures, List.pairwise_filterMap]
  refine h.imp fun {j k} hjk c hc d hd => ?_
  obtain ⟨_, -, rfl⟩ := Option.map_eq_some_iff.1 hc
  obtain ⟨_, -, rfl⟩ := Option.map_eq_some_iff.1 hd
  exact hjk

/-! ## Rules -/

variable {rule : Rule} (hrule : rule.Valid values) {v : Value} (hv : values[i]? = some v) {line : Text}
  {m : Regex.Match}
include hrule hv

/-- **What the binding of a rule does to a value.**  It assigns the text that the name of the value stands for. -/
theorem Run.slots_bind {u : Text} (hu : rule.regex.capture? line m v.name = some u) (r : Run) :
    (r.bind values rule line m).slots[i]? = r.slots[i]?.map (Slot.put u) := by
  have hbinding := (hrule.bindings i).2 ⟨v, hv, Regex.LinePattern.mem_names_of_capture? hu⟩
  rw [bind_eq]
  exact slots_foldl (Firing.pairwise_captures hrule.ascending)
    (Firing.mem_captures.2 ⟨hbinding, v, hv, hu⟩) r

omit hrule in
/-- A value whose name stands for no text is left as it is. -/
theorem Run.keeps_bind (hu : rule.regex.capture? line m v.name = none) (r : Run) :
    Keeps i r (r.bind values rule line m) := by
  rw [bind_eq]
  refine keeps_foldl (fun c hc hi => ?_) r
  subst hi
  obtain ⟨-, w, hw, hcapture⟩ := Firing.mem_captures.1 hc
  rw [hv] at hw; cases hw
  rw [hu] at hcapture; cases hcapture

end

/-- **What a rule captures is assigned.**  If no group with the name of a value has taken part in a match, then
    the value is left as it is.  If one has, then the value is assigned a text that such a group has captured,
    unless the rule has several groups with the name and the last of them has taken no part: the value is then
    left as it is, too. -/
theorem captures_assigned {source : Text} {t : Template} (h : Template.parse source = .ok t) {s : State}
    (hs : s ∈ t.states) {rule : Rule} (hrule : rule ∈ s.rules) {i : Nat} {v : Value}
    (hv : t.values[i]? = some v) (line : Text) (m : Regex.Match) (r : Run) :
    ((∀ g ∈ rule.regex.groups v.name, m.captures.get? g = none) →
      Run.Keeps i r (r.bind t.values rule line m)) ∧
    ((∃ g ∈ rule.regex.groups v.name, m.captures.get? g ≠ none) →
      (∃ g ∈ rule.regex.groups v.name, ∃ c, m.captures.get? g = some c ∧
        (r.bind t.values rule line m).slots[i]? = r.slots[i]?.map (Slot.put (c.text line))) ∨
      ∃ last others, rule.regex.groups v.name = last :: others ∧ others ≠ [] ∧
        m.captures.get? last = none ∧ Run.Keeps i r (r.bind t.values rule line m)) := by
  obtain ⟨n, l, hl, hwritten⟩ := (Template.accepted_of_parse h).rules s hs rule hrule
  have hvalid := hwritten.valid hl
  refine ⟨fun hnone => Run.keeps_bind hv (Regex.LinePattern.capture?_eq_none hnone line) r, ?_⟩
  rintro ⟨g, hg, hpart⟩
  rcases hgs : rule.regex.groups v.name with _ | ⟨last, others⟩
  · rw [hgs] at hg; cases hg
  · have hcapture := Regex.LinePattern.capture?_of_groups hgs m line
    rcases hlast : m.captures.get? last with _ | c
    · refine .inr ⟨last, others, rfl, ?_, hlast, Run.keeps_bind hv (by rw [hcapture, hlast]; rfl) r⟩
      rintro rfl
      rw [hgs, List.mem_singleton] at hg
      exact hpart (hg ▸ hlast)
    · exact .inl ⟨last, List.mem_cons_self, c, hlast,
        Run.slots_bind hvalid hv (by rw [hcapture, hlast]; rfl) r⟩

/-- Of two lines, the last of two groups takes part in the second one only, and no group in the first one. -/
theorem captures_assigned_last :
    ∃ t s rule v, Template.parse "Value List A (\\d)\n\nStart\n  ^(?:a${A}|b${A}|c)\n".toList = .ok t ∧
      s ∈ t.states ∧ rule ∈ s.rules ∧ t.values[0]? = some v ∧ rule.regex.groups v.name = [2, 1] ∧
      rule.regex.search "c".toList = .ok (some ⟨0, []⟩) ∧
      rule.regex.search "b5".toList = .ok (some ⟨0, [⟨2, 1, 2⟩]⟩) ∧
      ∀ r : Run, Run.Keeps 0 r (r.bind t.values rule "c".toList ⟨0, []⟩) ∧
        ∃ g ∈ rule.regex.groups v.name, ∃ c, Regex.Captures.get? [⟨2, 1, 2⟩] g = some c ∧
          (r.bind t.values rule "b5".toList ⟨0, [⟨2, 1, 2⟩]⟩).slots[0]? =
            r.slots[0]?.map (Slot.put (c.text "b5".toList)) := by
  obtain ⟨t, s, rule, ht, hs, hrule, hv, hgroups, hc, hb⟩ := Template.exists_rule
    "Value List A (\\d)\n\nStart\n  ^(?:a${A}|b${A}|c)\n".toList
    (p := fun t rule => t.values[0]? = some ⟨"A".toList, "(\\d)".toList, [.list]⟩ ∧
      rule.regex.groups "A".toList = [2, 1] ∧ rule.regex.search "c".toList = .ok (some ⟨0, []⟩) ∧
      rule.regex.search "b5".toList = .ok (some ⟨0, [⟨2, 1, 2⟩]⟩)) (by decide +kernel)
  refine ⟨t, s, rule, _, ht, hs, hrule, hv, hgroups, hc, hb, fun r => ⟨?_, ?_⟩⟩
  · exact (captures_assigned ht hs hrule hv _ _ r).1 fun _ _ => rfl
  · refine ((captures_assigned ht hs hrule hv "b5".toList ⟨0, [⟨2, 1, 2⟩]⟩ r).2
      ⟨2, by rw [hgroups]; simp, by decide⟩).resolve_right ?_
    rintro ⟨last, others, hlast, -, hnone, -⟩
    rw [hgroups] at hlast
    cases hlast
    revert hnone; decide

/-- The first of two groups has taken part and the last one has not: the text is lost, and with it the record. -/
theorem capture_lost :
    ∃ t s rule v, Template.parse "Value A (\\d)\n\nStart\n  ^a${A}|^b${A} -> Record\n".toList = .ok t ∧
      s ∈ t.states ∧ rule ∈ s.rules ∧ t.values[0]? = some v ∧
      rule.regex.search "a5".toList = .ok (some ⟨0, [⟨1, 1, 2⟩]⟩) ∧ 1 ∈ rule.regex.groups v.name ∧
      (Run.bind t.values rule "a5".toList ⟨0, [⟨1, 1, 2⟩]⟩ ⟨.ended, [.scalar none], []⟩).slots = [.scalar none] ∧
      extract t "a5\n".toList = .ok {} := by
  obtain ⟨t, s, rule, ht, hs, hrule, hv, hm, hgroups, hslots, ho⟩ := Template.exists_rule
    "Value A (\\d)\n\nStart\n  ^a${A}|^b${A} -> Record\n".toList
    (p := fun t rule => t.values[0]? = some ⟨"A".toList, "(\\d)".toList, []⟩ ∧
      rule.regex.search "a5".toList = .ok (some ⟨0, [⟨1, 1, 2⟩]⟩) ∧ 1 ∈ rule.regex.groups "A".toList ∧
      (Run.bind t.values rule "a5".toList ⟨0, [⟨1, 1, 2⟩]⟩ ⟨.ended, [.scalar none], []⟩).slots = [.scalar none] ∧
      extract t "a5\n".toList = .ok {}) (by decide +kernel)
  exact ⟨t, s, rule, _, ht, hs, hrule, hv, hm, hgroups, hslots, ho⟩

end Extraction

end Readout
