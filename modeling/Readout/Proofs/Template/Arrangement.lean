/-
  The order of values and of states, and the option Key.

  * `Rearranged`: a source with its values and its states in another order, and with Key added to values or taken from
    them;
  * `Value.Like`: values that differ in Key only, `SameValues`: lists of such values, in any order;
  * `substitute_congr`: what references stand for does not depend on the order;
  * `Rule.core`, `Template.core`: rules and templates without numbers of lines and of values;
  * `Alike`: templates that differ in the order of values and states, in Key and in the numbers of their lines only;
  * `exists_alike_of_rearranged`: the source in another order is accepted, too, and the templates are alike.
-/
import Mathlib.Data.List.Perm.Basic
import Readout.Proofs.Template.Declaration

namespace Readout.Template

/-! ## Sources in another order -/

/-- The same line, but for Key in a declaration. -/
def SameButKey (l l' : Text) : Prop := l = l' ∨ AddsKey l l' ∨ AddsKey l' l

/-- A source and the same one in another order: the lines of the values and the blocks of the states are permuted, and
    Key is added to some values and taken from others. -/
structure Rearranged (a b : Text) : Prop where
  values : ∃ ls, (valueLines (readLines a)).Perm ls ∧ List.Forall₂ SameButKey ls (valueLines (readLines b))
  states : (blocks (readLines a)).Perm (blocks (readLines b))

/-- Values that differ in Key only. -/
structure Value.Like (v w : Value) : Prop where
  name : v.name = w.name
  pattern : v.pattern = w.pattern
  options : Value.SameOptions v.options w.options

theorem Value.Like.symm {v w : Value} (h : v.Like w) : w.Like v :=
  ⟨h.name.symm, h.pattern.symm, fun o ho => (h.options o ho).symm⟩

theorem Value.Like.has {v w : Value} (h : v.Like w) {o : ValueOption} (ho : o ≠ .key) : v.has o = w.has o := by
  have := h.options o ho
  rw [Bool.eq_iff_iff, Value.has, Value.has, List.contains_iff_mem, List.contains_iff_mem]
  exact this

/-- A declaration is still read with Key added. -/
theorem AddsKey.reads {l l' : Text} (h : AddsKey l l') {v : Value} (hv : ReadsValue l v) :
    ∃ v', ReadsValue l' v' ∧ v.Like v' := by
  obtain ⟨hparts, hpieces⟩ := h
  obtain ⟨hname, hpattern, hoptions, hrest⟩ := (hparts.parse_iff (isSolid_options hpieces)).1 hv.2
  obtain ⟨os', hos', hsame⟩ := Value.parseOptions_addKey (fun p hp => (hpieces p hp).2) hoptions
  have hread := (hparts.parse_iff (isSolid_options_key hpieces) (v := ⟨_, _, os'⟩)).2 ⟨rfl, rfl, hos', hrest⟩
  exact ⟨_, ⟨rfl, hread⟩, hname, hpattern, hsame⟩

/-- A declaration is still read with Key taken away. -/
theorem AddsKey.reads_without {l l' : Text} (h : AddsKey l l') {v' : Value} (hv' : ReadsValue l' v') :
    ∃ v, ReadsValue l v ∧ v'.Like v := by
  obtain ⟨hparts, hpieces⟩ := h
  obtain ⟨hname, hpattern, hoptions, hrest⟩ := (hparts.parse_iff (isSolid_options_key hpieces)).1 hv'.2
  obtain ⟨os, hos, hsame⟩ := Value.parseOptions_removeKey (fun p hp => (hpieces p hp).2) hoptions
  have hread := (hparts.parse_iff (isSolid_options hpieces) (v := ⟨_, _, os⟩)).2 ⟨rfl, rfl, hos, hrest⟩
  exact ⟨_, ⟨rfl, hread⟩, hname, hpattern, fun o ho => (hsame o ho).symm⟩

/-- **A declaration is still read with Key added or taken away**, and the value is the same but for this. -/
theorem SameButKey.reads {l l' : Text} (h : SameButKey l l') {v : Value} (hv : ReadsValue l v) :
    ∃ v', ReadsValue l' v' ∧ v.Like v' := by
  rcases h with rfl | h | h
  · exact ⟨v, hv, rfl, rfl, fun o _ => Iff.rfl⟩
  · exact h.reads hv
  · exact h.reads_without hv

/-! ## Values -/

/-- The same values but for their order and for Key. -/
structure SameValues (vs ws : List Value) : Prop where
  nodup : (vs.map (·.name)).Nodup
  names : (vs.map (·.name)).Perm (ws.map (·.name))
  like : ∀ v ∈ vs, ∀ w ∈ ws, v.name = w.name → v.Like w

namespace SameValues

variable {vs ws : List Value} (h : SameValues vs ws)
include h

theorem symm : SameValues ws vs :=
  ⟨h.names.nodup_iff.1 h.nodup, h.names.symm, fun w hw v hv hname => (h.like v hv w hw hname.symm).symm⟩

/-- Each value is among the others. -/
theorem exists_like {v : Value} (hv : v ∈ vs) : ∃ w ∈ ws, v.Like w := by
  obtain ⟨w, hw, hname⟩ := List.mem_map.1 (h.names.subset (List.mem_map_of_mem (f := (·.name)) hv))
  exact ⟨w, hw, h.like v hv w hw hname.symm⟩

end SameValues

theorem exists_of_mem_right {α β : Type} {R : α → β → Prop} {as : List α} {bs : List β} (h : List.Forall₂ R as bs)
    {b : β} (hb : b ∈ bs) : ∃ a ∈ as, R a b := by
  induction h with
  | nil => cases hb
  | cons hab _ ih =>
    rcases List.mem_cons.1 hb with rfl | hb
    · exact ⟨_, List.mem_cons_self, hab⟩
    · obtain ⟨a, ha, hab⟩ := ih hb
      exact ⟨a, List.mem_cons_of_mem _ ha, hab⟩

theorem exists_forall₂_like {ms ls : List Text} {us : List Value} (hus : List.Forall₂ ReadsValue ms us)
    (h : List.Forall₂ SameButKey ms ls) :
    ∃ ws, List.Forall₂ ReadsValue ls ws ∧ List.Forall₂ Value.Like us ws := by
  induction h generalizing us with
  | nil => cases hus; exact ⟨[], .nil, .nil⟩
  | cons hl _ ih =>
    obtain ⟨u, us, hu, hrest, rfl⟩ := List.forall₂_cons_left_iff.1 hus
    obtain ⟨w, hw, hlike⟩ := hl.reads hu
    obtain ⟨ws, hws, hlikes⟩ := ih hrest
    exact ⟨w :: ws, .cons hw hws, .cons hlike hlikes⟩

/-- **Values that are read from lines in another order** are the same, but for their order and for Key. -/
theorem exists_sameValues {ls ls' : List Text} {vs : List Value} (hvs : List.Forall₂ ReadsValue ls vs)
    (hnodup : (vs.map (·.name)).Nodup) (h : ∃ ms, ls.Perm ms ∧ List.Forall₂ SameButKey ms ls') :
    ∃ ws, List.Forall₂ ReadsValue ls' ws ∧ SameValues vs ws := by
  obtain ⟨ms, hperm, hsame⟩ := h
  obtain ⟨us, hus, huv⟩ := List.perm_comp_forall₂ hperm.symm hvs
  obtain ⟨ws, hws, hlikes⟩ := exists_forall₂_like hus hsame
  have hnames : us.map (·.name) = ws.map (·.name) := by
    rw [← List.forall₂_eq_eq_eq, List.forall₂_map_left_iff, List.forall₂_map_right_iff]
    exact hlikes.imp fun _ _ hlike => hlike.name
  refine ⟨ws, hws, hnodup, hnames ▸ (huv.map _).symm, fun v hv w hw hname => ?_⟩
  -- the value that the other one comes from has the same name, and so it is this one
  obtain ⟨u, hu, hlike⟩ := exists_of_mem_right hlikes hw
  obtain rfl := List.inj_on_of_nodup_map hnodup hv (huv.subset hu) (hname.trans hlike.name.symm)
  exact hlike

/-! ## Rules -/

section
variable {vs ws : List Value} (h : SameValues vs ws)
include h

/-- A name stands for the same group. -/
theorem group_congr (name : Text) : Substitution.group vs name = Substitution.group ws name := by
  unfold Substitution.group
  rcases hv : vs.find? (·.name == name) with _ | v
  · rcases hw : ws.find? (·.name == name) with _ | w
    · simp only [hv, hw]
    · obtain ⟨v, hmem, hlike⟩ := h.symm.exists_like (List.mem_of_find?_eq_some hw)
      have hname : w.name = name := by simpa using List.find?_some hw
      exact absurd (beq_iff_eq.2 (hlike.name.symm.trans hname)) (List.find?_eq_none.1 hv v hmem)
  · have hname : v.name = name := by simpa using List.find?_some hv
    obtain ⟨u, hu, hlike⟩ := h.exists_like (List.mem_of_find?_eq_some hv)
    rcases hw : ws.find? (·.name == name) with _ | w
    · exact absurd (beq_iff_eq.2 (hlike.name.symm.trans hname)) (List.find?_eq_none.1 hw u hu)
    · have hname' : w.name = name := by simpa using List.find?_some hw
      have hlike := h.like v (List.mem_of_find?_eq_some hv) w (List.mem_of_find?_eq_some hw) (hname.trans hname'.symm)
      simp only [hv, hw, Value.group, hlike.name, hlike.pattern]

theorem reference_congr (t : Text) : Substitution.reference vs t = Substitution.reference ws t := by
  unfold Substitution.reference
  simp only [group_congr h]

/-- **References stand for the same, whatever the order of the values.** -/
theorem substitute_congr (t : Text) : substitute vs t = substitute ws t := by
  have hfrom : ∀ (fuel : Nat) (t : Text),
      Substitution.substituteFrom vs fuel t = Substitution.substituteFrom ws fuel t := by
    intro fuel
    induction fuel with
    | zero => intro t; rfl
    | succ fuel ih =>
      intro t
      cases t with
      | nil => rfl
      | cons c t => simp only [Substitution.substituteFrom, reference_congr h, ih]
  exact hfrom t.length t

end

/-- The rule with the positions of the values in another list. -/
def Rule.rebind (values : List Value) (r : Rule) : Rule := { r with bindings := bindingsOf values r.regex }

/-- The state with the positions of the values in another list. -/
def State.rebind (values : List Value) (s : State) : State := { s with rules := s.rules.map (Rule.rebind values) }

section
variable {vs ws : List Value} (h : SameValues vs ws)
include h

theorem Rule.parse_rebind (n : Nat) (line : Text) :
    Rule.parse ws n line = (Rule.parse vs n line).map (Rule.rebind ws) := by
  simp only [Rule.parse, substitute_congr h, bind, Except.bind]
  split
  · split
    · cases substitute ws _ with
      | error => rfl
      | ok expanded => simp only; cases Regex.LinePattern.parse? expanded <;> rfl
    · rfl
  · cases substitute ws _ with
    | error => rfl
    | ok expanded => simp only; cases Regex.LinePattern.parse? expanded <;> rfl

theorem ReadsState.rebind {b : List Text} {s : State} (hs : ReadsState vs b s) : ReadsState ws b (s.rebind ws) := by
  obtain ⟨hname, hrules⟩ := hs
  refine .intro hname (List.forall₂_map_right_iff.2 (hrules.imp fun l r hr => ⟨hr.1, ?_⟩))
  rw [Rule.parse_rebind h, hr.2]
  rfl

end

/-! ## States -/

/-- The rule without the number of its line and the positions of its values. -/
def Rule.core (r : Rule) : Rule := { r with line := 0, bindings := [] }

/-- The state without the numbers of its lines and the positions of values. -/
def State.core (s : State) : State := { s with rules := s.rules.map Rule.core }

theorem State.core_rebind (ws : List Value) (s : State) : (s.rebind ws).core = s.core := by
  simp only [core, rebind, List.map_map]
  rfl

theorem State.core_unnumbered (s : State) : s.unnumbered.core = s.core := by
  simp only [core, unnumbered, List.map_map]
  rfl

/-- The template without its values and all that depends on their order. -/
def core (t : Template) : Template := ⟨[], t.states.map State.core⟩

theorem state?_core (t : Template) (name : Text) : t.core.state? name = (t.state? name).map State.core := by
  unfold state? core
  rw [List.find?_map]
  rfl

/-- The order of the states does not matter where one is looked up. -/
theorem state?_of_perm {t t' : Template} (hperm : t.states.Perm t'.states) (hnodup : (t.states.map (·.name)).Nodup)
    (name : Text) : t.state? name = t'.state? name := by
  rcases hs : t.state? name with _ | s
  · rcases hs' : t'.state? name with _ | s'
    · rfl
    · have hname := List.find?_some hs'
      exact absurd hname (List.find?_eq_none.1 hs s' (hperm.symm.subset (List.mem_of_find?_eq_some hs')))
  · have hname : s.name = name := by
      unfold state? at hs
      simpa using List.find?_some hs
    have hmem := hperm.subset (List.mem_of_find?_eq_some hs)
    rw [← hname, state?_of_mem ((hperm.map _).nodup_iff.1 hnodup) hmem]

/-- Templates that differ only in the order of their values and states, in Key and in the numbers of their lines. -/
structure Alike (t t' : Template) : Prop where
  values : SameValues t.values t'.values
  states : (t.states.map State.core).Perm (t'.states.map State.core)
  names_nodup : (t.states.map (·.name)).Nodup
  bindings : ∀ s ∈ t.states, ∀ rule ∈ s.rules, rule.bindings = Rule.bindingsOf t.values rule.regex
  bindings' : ∀ s ∈ t'.states, ∀ rule ∈ s.rules, rule.bindings = Rule.bindingsOf t'.values rule.regex

/-- **What is checked at the end does not depend on the order.** -/
theorem check_of_perm {vs ws : List Value} {ss ss' : List State} (hperm : (ss.map (State.rebind ws)).Perm ss')
    (hnodup : (ss.map (·.name)).Nodup) (hcheck : check ⟨vs, ss⟩ = .ok ⟨vs, ss⟩) : check ⟨ws, ss'⟩ = .ok ⟨ws, ss'⟩ := by
  have hnames : (ss'.map (·.name)).Perm (ss.map (·.name)) := by
    have h := (hperm.map (·.name)).symm
    rw [List.map_map] at h
    exact h
  have hmem : ∀ s' ∈ ss', ∃ s ∈ ss, s.rebind ws = s' := fun s' hs' => List.mem_map.1 (hperm.symm.subset hs')
  have hstate : ∀ name, hasState ⟨vs, ss⟩ name → hasState ⟨ws, ss'⟩ name := by
    intro name
    rw [hasState_iff, hasState_iff]
    rintro ⟨s, hs, rfl⟩
    exact ⟨s.rebind ws, hperm.subset (List.mem_map_of_mem hs), rfl⟩
  have hrules : ∀ name, hasRules ⟨vs, ss⟩ name = false → hasRules ⟨ws, ss'⟩ name = false := by
    intro name
    rw [hasRules_eq_false_iff hnodup, hasRules_eq_false_iff (hnames.nodup_iff.2 hnodup)]
    intro h s' hs' hname
    obtain ⟨s, hs, rfl⟩ := hmem s' hs'
    rw [State.rebind, h s hs hname, List.map_nil]
  obtain ⟨-, hstart, hend, heof, hdangling⟩ := check_eq_ok_iff.1 hcheck
  refine check_eq_ok_iff.2 ⟨rfl, hstate _ hstart, hrules _ hend, hrules _ heof, dangling?_eq_none_iff.2 ?_⟩
  intro s' hs' rule' hrule' name htarget
  obtain ⟨s, hs, rfl⟩ := hmem s' hs'
  obtain ⟨rule, hrule, rfl⟩ := List.mem_map.1 hrule'
  have hreaches := reaches_iff.1 (dangling?_eq_none_iff.1 hdangling s hs rule hrule name htarget)
  rw [← hasState_iff] at hreaches
  rw [reaches_iff, ← hasState_iff]
  exact hreaches.imp_right (Or.imp_right (hstate name))

/-- With either template, the state of a name is the same. -/
theorem Alike.state? {t t' : Template} (h : Alike t t') (name : Text) :
    (t.state? name).map State.core = (t'.state? name).map State.core := by
  rw [← state?_core, ← state?_core]
  refine state?_of_perm h.states ?_ name
  rw [core, List.map_map]
  exact h.names_nodup

/-! ## Templates -/

theorem eq_ok_of_unnumber {α : Type} {f : α → α} {x : Except Fault α} {a : α} (h : unnumber f x = .ok a) :
    ∃ b, x = .ok b ∧ f b = a := by
  rcases x with e | b
  · cases h
  · exact ⟨b, rfl, Except.ok.inj h⟩

theorem isComment_of_mem_readLines {source l : Text} (h : l ∈ readLines source) : isComment l = false := by
  simpa using (List.mem_filter.1 h).2

theorem bindings_of_parse {source : Text} {t : Template} (h : parse source = .ok t) {s : State} (hs : s ∈ t.states)
    {rule : Rule} (hrule : rule ∈ s.rules) : rule.bindings = Rule.bindingsOf t.values rule.regex := by
  obtain ⟨n, line, -, hwritten⟩ := (accepted_of_parse h).rules s hs rule hrule
  exact hwritten.bindings

/-- **A source in another order is accepted, too**, and its template is the same but for this. -/
theorem exists_alike_of_rearranged {a b : Text} {t : Template} (ht : parse a = .ok t) (h : Rearranged a b) :
    ∃ t', parse b = .ok t' ∧ Alike t t' := by
  have hlines : parseLines (readLines a) = .ok t.unnumbered := by
    rw [← unnumber_parse, ht]
    rfl
  have hdescribed := (parseLines_eq_ok_iff fun l => isComment_of_mem_readLines).1 hlines
  obtain ⟨ws, hws, hsame⟩ := exists_sameValues hdescribed.values hdescribed.header_nodup h.values
  -- the states are read from the blocks with the other values first, and then from the blocks in the other order
  have hrebound : List.Forall₂ (ReadsState ws) (blocks (readLines a)) (t.unnumbered.states.map (State.rebind ws)) :=
    List.forall₂_map_right_iff.2 (hdescribed.states.imp fun b s hs => hs.rebind hsame)
  obtain ⟨ss, hss, hperm⟩ := List.perm_comp_forall₂ h.states.symm hrebound
  have hnames : (ss.map (·.name)).Perm (t.unnumbered.states.map (·.name)) := by
    have h := hperm.map (·.name)
    rw [List.map_map] at h
    exact h
  have hb : parseLines (readLines b) = .ok ⟨ws, ss⟩ := by
    refine (parseLines_eq_ok_iff fun l => isComment_of_mem_readLines).2 ⟨hws, ?_, hsame.symm.nodup, hss,
      hnames.nodup_iff.2 hdescribed.names_nodup, check_of_perm hperm.symm hdescribed.names_nodup hdescribed.check⟩
    rintro rfl
    exact hdescribed.values_ne_nil (List.map_eq_nil_iff.1 (List.perm_nil.1 hsame.names))
  rw [← unnumber_parse] at hb
  obtain ⟨t', ht', heq⟩ := eq_ok_of_unnumber hb
  obtain ⟨rfl, rfl⟩ := Template.mk.inj heq
  refine ⟨t', ht', hsame, ?_, ?_, fun s hs rule => bindings_of_parse ht hs, fun s hs rule => bindings_of_parse ht' hs⟩
  · have hcore := hperm.map State.core
    simp only [unnumbered, List.map_map, Function.comp_def, State.core_rebind, State.core_unnumbered] at hcore
    exact hcore.symm
  · have hnodup := hdescribed.names_nodup
    rwa [map_name_unnumbered] at hnodup

end Readout.Template
