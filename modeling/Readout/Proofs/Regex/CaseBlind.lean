/-
  Case folding and the reader of patterns over commands: whether an expression is read and how deeply it is nested does
  not depend on it.

  * `Flags.withFold`: the flags with case folding switched;
  * `Bracket.readFrom_withFold`: a bracket expression is read up to the same place, and is nested as deeply;
  * `Part.Alike`, `Act.Alike`, `Reading.Alike`: what differs in sets of characters only;
  * `Reads.alike`, `read_withFold`: an expression is read as parts that are alike.
-/
import Mathlib.Data.List.Forall2
import Readout.Proofs.Regex.Inside

namespace Readout.Regex

/-- The flags with case folding switched. -/
def Flags.withFold (fl : Flags) (fold : Bool) : Flags := { fl with fold }

theorem skipSpace_withFold (fl : Flags) (fold : Bool) (t : Text) : (fl.withFold fold).skipSpace t = fl.skipSpace t :=
  rfl

/-! ## Escapes -/

theorem take_withFold (fl : Flags) (fold : Bool) (n : Nat) (t : Text) : (fl.withFold fold).take? n t = fl.take? n t := by
  induction n generalizing t with
  | zero => rfl
  | succ n ih => simp only [Flags.take?, skipSpace_withFold, ih]

theorem braced_withFold (fl : Flags) (fold comment : Bool) (t : Text) :
    (fl.withFold fold).braced? comment t = fl.braced? comment t := by
  have hspace : (fl.withFold fold).ignoreSpace = fl.ignoreSpace := rfl
  induction t generalizing comment with
  | nil => cases comment <;> rfl
  | cons c t ih => cases comment <;> simp only [Flags.braced?, hspace, ih]

theorem argument_withFold (fl : Flags) (fold : Bool) (width : Nat) (t : Text) :
    (fl.withFold fold).argument? width t = fl.argument? width t := by
  simp only [Flags.argument?, skipSpace_withFold, take_withFold, braced_withFold]

theorem readElement_withFold (fl : Flags) (fold : Bool) (t : Text) :
    Element.read? (fl.withFold fold) t = Element.read? fl t := by
  have hunicode : (fl.withFold fold).unicode = fl.unicode := rfl
  have hhex (width : Nat) (t : Text) : readHex? (fl.withFold fold) width none t = readHex? fl width none t := by
    simp only [readHex?, argument_withFold, hunicode]
  have hproperty (t : Text) : Element.readProperty? (fl.withFold fold) t = Element.readProperty? fl t := by
    simp only [Element.readProperty?, argument_withFold, hunicode]
  cases t with
  | nil => rfl
  | cons c t => simp only [Element.read?, hunicode, hhex, hproperty]

/-! ## Bracket expressions -/

theorem negate_withFold {fl : Flags} {negated : Bool} {s a : CharSet} (h : fl.negate? negated s = some a) (fold : Bool)
    (s' : CharSet) : (fl.withFold fold).negate? negated s' = some (s'.complIf negated) := by
  unfold Flags.negate? at h ⊢
  split at h
  · cases h
  · rename_i hallowed
    exact if_neg hallowed

namespace Bracket

section
variable {fl : Flags} {t u : Text} (fold : Bool)

/-- Are the items the same, but for sets of characters? -/
structure Items.Alike (u u' : Items) : Prop where
  depth : u.depth = u'.depth
  count : u.count = u'.count

theorem Items.Alike.add {u u' : Items} (h : u.Alike u') {c c' : Class} (hc : c.depth = c'.depth) :
    (u.add c).Alike (u'.add c') :=
  ⟨congrArg₂ Nat.max h.depth hc, congrArg (· + 1) h.count⟩

theorem Items.Alike.whole {u u' : Items} (h : u.Alike u') : u.whole.depth = u'.whole.depth := by
  simp only [Items.whole, h.depth, h.count]

/-- Are the levels the same, but for sets of characters and for the operations between them? -/
inductive Level.Alike : Level → Level → Prop where
  | bracket {outer outer' : Items} (h : outer.Alike outer') (negated : Bool) :
      Alike (.bracket outer negated) (.bracket outer' negated)
  | op (o o' : Op) {left left' : Class} (h : left.depth = left'.depth) : Alike (.op o left) (.op o' left')

theorem finishOp_alike {ls ls' : List Level} (h : List.Forall₂ Level.Alike ls ls') {c c' : Class}
    (hc : c.depth = c'.depth) : (finishOp c ls).1.depth = (finishOp c' ls').1.depth ∧
      List.Forall₂ Level.Alike (finishOp c ls).2 (finishOp c' ls').2 := by
  cases h with
  | nil => exact ⟨hc, .nil⟩
  | cons hl hls =>
    cases hl with
    | bracket h negated => exact ⟨hc, .cons (.bracket h negated) hls⟩
    | op o o' h => exact ⟨congrArg (· + 1) (congrArg₂ Nat.max h hc), hls⟩

theorem leadingDashes_withFold (n : Nat) (u : Items) (t : Text) :
    leadingDashes (fl.withFold fold) u n t = leadingDashes fl u n t := by
  induction n generalizing u t with
  | zero => rfl
  | succ n ih =>
    unfold leadingDashes
    split
    · rename_i heq
      cases heq
      exact ih _ _
    · rfl

theorem readOpen_withFold : readOpen (fl.withFold fold) t = readOpen fl t := by
  have hfirst (t : Text) : readFirst (fl.withFold fold) t = readFirst fl t := by
    simp only [readFirst, finishOpen, leadingDashes_withFold, skipSpace_withFold]
  simp only [readOpen_eq, skipSpace_withFold, hfirst]

theorem alone_withFold {e : Element} {s : CharSet} (h : e.alone? fl = some s) :
    ∃ s', e.alone? (fl.withFold fold) = some s' := by
  cases e with
  | char c => exact ⟨s, h⟩
  | set s => exact ⟨s, rfl⟩
  | property s negated => exact ⟨_, rfl⟩
  | anchor a => cases h

theorem readItem_withFold : readItem? (fl.withFold fold) t = readItem? fl t := by
  unfold readItem?
  simp only [readElement_withFold]

theorem readRest_withFold {e : Element} {s : CharSet} (h : readRest? fl e t = some (s, u)) :
    ∃ s', readRest? (fl.withFold fold) e t = some (s', u) := by
  have halone {w : Text} (h : (e.alone? fl).map (·, w) = some (s, u)) :
      ∃ s', (e.alone? (fl.withFold fold)).map (·, w) = some (s', u) := by
    obtain ⟨a, ha, heq⟩ := Option.map_eq_some_iff.1 h
    obtain ⟨s', hs'⟩ := alone_withFold fold ha
    exact ⟨s', by rw [hs', Option.map_some, (Prod.mk.inj heq).2]⟩
  rcases t with _ | ⟨c, r⟩
  · cases h
  by_cases hc : c = '-'
  · subst hc
    rcases hskip : fl.skipSpace r with _ | ⟨d, r'⟩
    · simp [readRest?, hskip] at h
    · rw [readRest_dash hskip] at h
      rw [readRest_dash ((skipSpace_withFold fl fold r).trans hskip), readItem_withFold]
      split at h
      · rename_i hd
        rw [if_pos hd]
        exact halone h
      · rename_i hd
        rw [if_neg hd]
        exact ⟨s, h⟩
  · rw [readRest_alone hc] at h ⊢
    exact halone h

theorem readRange_withFold {s : CharSet} (h : readRange? fl t = some (s, u)) :
    ∃ s', readRange? (fl.withFold fold) t = some (s', u) := by
  rw [readRange_eq] at h ⊢
  rw [readItem_withFold]
  obtain ⟨⟨e, w⟩, he, h⟩ := Option.bind_eq_some_iff.1 h
  rw [he, Option.bind_some]
  exact readRest_withFold fold h

/-- Are the items that are read the same, but for sets of characters? -/
inductive Item.Alike : Item → Item → Prop where
  | add (s s' : CharSet) (negated : Bool) : Alike (.add s negated) (.add s' negated)
  | refl (item : Item) : Alike item item

theorem readNext_withFold {item : Item} (h : readNext? fl t = some (item, u)) :
    ∃ item', readNext? (fl.withFold fold) t = some (item', u) ∧ item.Alike item' := by
  unfold readNext? at h ⊢
  split at h
  · cases h
  · simp only [readNested, readOpen_withFold]
    exact ⟨item, h, .refl _⟩
  · exact ⟨item, h, .refl _⟩
  · exact ⟨item, h, .refl _⟩
  · exact ⟨item, h, .refl _⟩
  · exact ⟨item, h, .refl _⟩
  · obtain ⟨⟨s, w⟩, hs, heq⟩ := Option.map_eq_some_iff.1 h
    cases heq
    obtain ⟨s', hs'⟩ := readRange_withFold fold hs
    exact ⟨_, congrArg (Option.map _) hs', .add s s' false⟩

/-- Do courses lead to the same place, but for sets of characters? -/
inductive Course.Alike : Course → Course → Prop where
  | inl {c c' : Class} (h : c.depth = c'.depth) : Alike (Sum.inl c) (Sum.inl c')
  | inr {ls ls' : List Level} {u u' : Items} (h : List.Forall₂ Level.Alike ls ls') (hu : u.Alike u') :
      Alike (Sum.inr (ls, u)) (Sum.inr (ls', u'))

theorem follow_alike {ls ls' : List Level} {u u' : Items} {item item' : Item} {course : Course}
    (h : follow fl ls u item = some course) (hls : List.Forall₂ Level.Alike ls ls') (hu : u.Alike u')
    (hitem : item.Alike item') :
    ∃ course', follow (fl.withFold fold) ls' u' item' = some course' ∧ Course.Alike course course' := by
  have hadd {s : CharSet} {negated : Bool} (h : follow fl ls u (.add s negated) = some course) (s' : CharSet) :
      ∃ course', follow (fl.withFold fold) ls' u' (.add s' negated) = some course' ∧ Course.Alike course course' := by
    obtain ⟨a, ha, heq⟩ := Option.map_eq_some_iff.1 h
    subst heq
    exact ⟨_, congrArg (Option.map _) (negate_withFold ha fold _), .inr hls (hu.add rfl)⟩
  cases hitem with
  | add s s' negated => exact hadd h s'
  | refl =>
    cases item with
    | add s negated => exact hadd h s
    | open_ negated first =>
      cases h
      exact ⟨_, rfl, .inr (.cons (.bracket hu negated) hls) ⟨rfl, rfl⟩⟩
    | op o =>
      cases h
      obtain ⟨hdepth, hrest⟩ := finishOp_alike hls hu.whole
      exact ⟨_, rfl, .inr (.cons (.op o o hdepth) hrest) ⟨rfl, rfl⟩⟩
    | close =>
      obtain ⟨hdepth, hrest⟩ := finishOp_alike hls hu.whole
      rw [follow] at h ⊢
      generalize finishOp u.whole ls = x at h hdepth hrest
      generalize finishOp u'.whole ls' = x' at hdepth hrest ⊢
      obtain ⟨c, ls₁⟩ := x
      obtain ⟨c', ls₁'⟩ := x'
      cases hrest with
      | nil => cases h
      | cons hl hls =>
        cases hl with
        | op => cases h
        | bracket houter negated =>
          obtain ⟨a, ha, heq⟩ := Option.map_eq_some_iff.1 h
          dsimp only
          rw [negate_withFold ha fold c'.set, Option.map_some]
          cases hls with
          | nil =>
            subst heq
            exact ⟨_, rfl, .inl (congrArg (· + 1) hdepth)⟩
          | cons hl' hls' =>
            subst heq
            exact ⟨_, rfl, .inr (.cons hl' hls') (houter.add (congrArg (· + 1) hdepth))⟩

/-- **A bracket expression is read up to the same place**, and is nested as deeply, whether letters stand for both cases
    or not. -/
theorem readFrom_withFold {fuel : Nat} {ls ls' : List Level} {a a' : Items} {c : Class}
    (h : readFrom? fl fuel ls a t = some (c, u)) (hls : List.Forall₂ Level.Alike ls ls') (ha : a.Alike a') :
    ∃ c', readFrom? (fl.withFold fold) fuel ls' a' t = some (c', u) ∧ c.depth = c'.depth := by
  induction fuel generalizing ls ls' a a' t with
  | zero => cases h
  | succ fuel ih =>
    rw [readFrom?_succ] at h ⊢
    rw [skipSpace_withFold]
    obtain ⟨⟨item, w⟩, hitem, h⟩ := Option.bind_eq_some_iff.1 h
    obtain ⟨course, hcourse, h⟩ := Option.bind_eq_some_iff.1 h
    obtain ⟨item', hitem', halike⟩ := readNext_withFold fold hitem
    obtain ⟨course', hcourse', hcourses⟩ := follow_alike fold hcourse hls ha halike
    rw [hitem', Option.bind_some]
    dsimp only
    rw [hcourse', Option.bind_some]
    cases hcourses with
    | inl hdepth =>
      cases h
      exact ⟨_, rfl, hdepth⟩
    | inr hls' hu' => exact ih h hls' hu'

theorem read_withFold {c : Class} (h : read? fl t = some (c, u)) :
    ∃ c', read? (fl.withFold fold) t = some (c', u) ∧ c.depth = c'.depth := by
  rw [read?] at h ⊢
  rw [readOpen_withFold]
  exact readFrom_withFold fold h (.cons (.bracket ⟨rfl, rfl⟩ _) .nil) ⟨rfl, rfl⟩

end

end Bracket

namespace CommandPattern

/-! ## Parts -/

/-- Are the parts the same, but for sets of characters? -/
structure Part.Alike (p q : Part) : Prop where
  depth : p.depth = q.depth
  solid : p.solid = q.solid

section
variable {ps qs : List Part} {p q : Part}

theorem Part.Alike.refl (p : Part) : p.Alike p := ⟨rfl, rfl⟩

theorem depthOf_alike (h : List.Forall₂ Part.Alike ps qs) : depthOf ps = depthOf qs := by
  induction h with
  | nil => rfl
  | cons hp _ ih => exact congrArg₂ Nat.max hp.depth ih

theorem Part.Alike.concat (h : List.Forall₂ Part.Alike ps qs) : (Part.concat ps).Alike (Part.concat qs) := by
  match h with
  | .nil => exact .refl _
  | .cons hp .nil => exact hp
  | .cons hp (.cons hq hqs) => exact ⟨congrArg (· + 1) (depthOf_alike (.cons hp (.cons hq hqs))), rfl⟩

theorem Part.Alike.choice (h : List.Forall₂ Part.Alike ps qs) : (Part.choice ps).Alike (Part.choice qs) := by
  match h with
  | .nil => exact .refl _
  | .cons hp .nil => exact hp
  | .cons hp (.cons hq hqs) => exact ⟨congrArg (· + 1) (depthOf_alike (.cons hp (.cons hq hqs))), rfl⟩

theorem Part.Alike.enclosed (h : p.Alike q) (index : Option Nat) : (p.enclosed index).Alike (q.enclosed index) :=
  ⟨congrArg (· + 1) h.depth, rfl⟩

theorem Part.Alike.loop (h : p.Alike q) (min : Nat) (max : Option Nat) (greedy greedy' : Bool) :
    (p.loop min max greedy).Alike (q.loop min max greedy') :=
  ⟨congrArg (· + 1) h.depth, rfl⟩

end

/-! ## Acts -/

/-- Are the acts the same, but for sets of characters and for case folding? -/
inductive Act.Alike : Act → Act → Prop where
  | push {p q : Part} (h : p.Alike q) : Alike (.push p) (.push q)
  | bar : Alike .bar .bar
  | close : Alike .close .close
  | again (min : Nat) (max : Option Nat) (greedy : Bool) : Alike (.again min max greedy) (.again min max greedy)
  | group (fl : Flags) (fold : Bool) : Alike (.group fl) (.group (fl.withFold fold))
  | capture (name : Option Text) : Alike (.capture name) (.capture name)
  | switch (fl : Flags) (fold : Bool) : Alike (.switch fl) (.switch (fl.withFold fold))

section
variable {fl fl' : Flags} {t u : Text} {c : Char} {a : Act} (fold : Bool)

theorem turn_withFold {on : Bool} (h : turn? fl c on = some fl') :
    ∃ fold', turn? (fl.withFold fold) c on = some (fl'.withFold fold') := by
  unfold turn? at h ⊢
  split at h
  · cases h; exact ⟨on, rfl⟩
  all_goals first | (cases h; exact ⟨fold, rfl⟩) | cases h

theorem readFlags_withFold {on : Bool} {seen : List Char} (h : readFlags? fl on seen t = some (fl', c, u)) :
    ∃ fold', readFlags? (fl.withFold fold) on seen t = some (fl'.withFold fold', c, u) := by
  induction t generalizing fl on seen fold with
  | nil => cases h
  | cons d t ih =>
    rw [readFlags?] at h ⊢
    split at h
    · rename_i hd
      rw [if_pos hd]
      split at h
      · cases h
      · rename_i hempty
        cases h
        exact ⟨fold, if_neg hempty⟩
    · rename_i hd
      rw [if_neg hd]
      split at h
      · cases h
      · rename_i hseen
        rw [if_neg hseen]
        split at h
        · rename_i hdash
          rw [if_pos hdash]
          exact ih fold h
        · rename_i hdash
          rw [if_neg hdash]
          obtain ⟨fl₁, hturn, h⟩ := Option.bind_eq_some_iff.1 h
          obtain ⟨fold₁, hturn'⟩ := turn_withFold fold hturn
          rw [hturn']
          exact ih fold₁ h

theorem readMarked_withFold (h : readMarked? fl t = some (a, u)) :
    ∃ a', readMarked? (fl.withFold fold) t = some (a', u) ∧ a.Alike a' := by
  have hname {t : Text} (h : readName? t = some (a, u)) : ∃ a', readName? t = some (a', u) ∧ a.Alike a' := by
    refine ⟨a, h, ?_⟩
    unfold readName? at h
    split at h
    · split at h
      · cases h
        exact .capture _
      · cases h
    · cases h
  unfold readMarked? at h ⊢
  split at h
  · cases h
  · cases h
  · cases h
  · cases h
  · exact hname h
  · exact hname h
  · obtain ⟨⟨fl', c, w⟩, hflags, heq⟩ := Option.map_eq_some_iff.1 h
    cases heq
    obtain ⟨fold', hflags'⟩ := readFlags_withFold fold hflags
    simp only [hflags']
    by_cases hc : c = ')'
    · rw [if_pos hc]
      exact ⟨_, rfl, by rw [if_pos hc]; exact .switch _ _⟩
    · rw [if_neg hc]
      exact ⟨_, rfl, by rw [if_neg hc]; exact .group _ _⟩

theorem readOpening_withFold (h : readOpening? fl t = some (a, u)) :
    ∃ a', readOpening? (fl.withFold fold) t = some (a', u) ∧ a.Alike a' := by
  unfold readOpening? at h ⊢
  rw [skipSpace_withFold]
  split at h
  · exact readMarked_withFold fold h
  · cases h
    exact ⟨_, rfl, .capture none⟩

/-- **An act is read in the same way**, whether letters stand for both cases or not. -/
theorem readAct_withFold (h : readAct? fl t = some (a, u)) :
    ∃ a', readAct? (fl.withFold fold) t = some (a', u) ∧ a.Alike a' := by
  rcases t with _ | ⟨c, t⟩
  · cases h
  by_cases hc : c ∈ operators
  · simp only [operators, List.mem_cons, List.not_mem_nil, or_false] at hc
    rcases hc with rfl | rfl | rfl | rfl | rfl | rfl | rfl | rfl | rfl | rfl | rfl | rfl
    · exact readOpening_withFold fold h
    · cases h
      exact ⟨_, rfl, .close⟩
    · cases h
      exact ⟨_, rfl, .bar⟩
    · obtain ⟨⟨s, w⟩, hs, heq⟩ := Option.map_eq_some_iff.1 h
      cases heq
      obtain ⟨s', hs', hdepth⟩ := Bracket.read_withFold fold hs
      refine ⟨.push ⟨.set s'.set, s'.depth, true⟩, ?_, .push ⟨hdepth, rfl⟩⟩
      change (Bracket.read? (fl.withFold fold) t).map _ = _
      rw [hs']
      rfl
    · cases h
      exact ⟨_, rfl, .again _ _ _⟩
    · cases h
      exact ⟨_, rfl, .again _ _ _⟩
    · cases h
      exact ⟨_, rfl, .again _ _ _⟩
    · obtain ⟨⟨min, max, w⟩, hcounts, heq⟩ := Option.map_eq_some_iff.1 h
      cases heq
      refine ⟨_, ?_, .again min max _⟩
      change (readCounts? fl t).map _ = _
      rw [hcounts]
      rfl
    · obtain ⟨⟨e, w⟩, he, heq⟩ := Option.map_eq_some_iff.1 h
      cases heq
      refine ⟨.push (.leaf (e.node (fl.withFold fold))), ?_, .push ⟨rfl, rfl⟩⟩
      change (Element.read? (fl.withFold fold) t).map _ = _
      rw [readElement_withFold, he]
      rfl
    · cases hunicode : fl.unicode
      · simp [readAct?, hunicode] at h
      · have hread (fold : Bool) : readAct? (fl.withFold fold) ('.' :: t) =
            some (.push (.leaf (.set fl.dot)), t) := if_pos hunicode
        cases h.symm.trans (hread fl.fold)
        exact ⟨_, hread fold, .push (.refl _)⟩
    · cases h
      exact ⟨_, rfl, .push (.refl _)⟩
    · cases h
      exact ⟨_, rfl, .push (.refl _)⟩
  · cases h.symm.trans (readAct_literal fl hc t)
    exact ⟨_, readAct_literal _ hc _, .push ⟨rfl, rfl⟩⟩

end

/-! ## Readings -/

/-- Are the scopes the same, but for sets of characters? -/
structure Scope.Alike (s s' : Scope) : Prop where
  parts : List.Forall₂ Part.Alike s.parts s'.parts
  branches : List.Forall₂ Part.Alike s.branches s'.branches

/-- Are the open groups the same, but for sets of characters and for case folding? -/
structure Opening.Alike (o o' : Opening) : Prop where
  index : o.index = o'.index
  outer : o.outer.Alike o'.outer
  flags : ∃ fold, o'.flags = o.flags.withFold fold

/-- Are the readings the same, but for sets of characters and for case folding? -/
structure Reading.Alike (r r' : Reading) : Prop where
  scope : r.scope.Alike r'.scope
  flags : ∃ fold, r'.flags = r.flags.withFold fold
  openings : List.Forall₂ Opening.Alike r.openings r'.openings
  groups : r.groups = r'.groups
  names : r.names = r'.names

section
variable {r r₁ r' : Reading} {t : Text} {a a' : Act}

theorem Scope.Alike.part {s s' : Scope} (h : s.Alike s') : s.part.Alike s'.part :=
  .choice (List.rel_reverse (.cons (.concat (List.rel_reverse h.parts)) h.branches))

theorem Scope.Alike.push {s s' : Scope} {p q : Part} (h : s.Alike s') (hp : p.Alike q) : (s.push p).Alike (s'.push q) :=
  ⟨.cons hp h.parts, h.branches⟩

theorem Reading.Alike.openings_eq_nil (h : r.Alike r') (hnil : r.openings = []) : r'.openings = [] := by
  have hopenings := h.openings
  rw [hnil] at hopenings
  exact List.forall₂_nil_left_iff.1 hopenings

theorem Reading.Alike.openCapture (h : r.Alike r') (names : List Text) :
    (r.openCapture names).Alike (r'.openCapture names) :=
  ⟨⟨.nil, .nil⟩, h.flags, .cons ⟨congrArg (fun n => some (n + 1)) h.groups, h.scope, h.flags⟩ h.openings,
    congrArg (· + 1) h.groups, rfl⟩

theorem close_alike (h : r.close? = some r₁) (hr : r.Alike r') : ∃ r₁', r'.close? = some r₁' ∧ r₁.Alike r₁' := by
  have hopenings := hr.openings
  simp only [Reading.close?] at h ⊢
  generalize r.openings = os at h hopenings
  generalize r'.openings = os' at hopenings ⊢
  cases hopenings with
  | nil => cases h
  | cons ho hos =>
    cases h
    refine ⟨_, rfl, ?_, ho.flags, hos, hr.groups, hr.names⟩
    rw [← ho.index]
    exact ho.outer.push (hr.scope.part.enclosed _)

theorem repeat_alike {min : Nat} {max : Option Nat} {greedy : Bool} (h : r.repeat? min max greedy = some r₁)
    (hr : r.Alike r') : ∃ r₁', r'.repeat? min max greedy = some r₁' ∧ r₁.Alike r₁' := by
  have hparts := hr.scope.parts
  simp only [Reading.repeat?] at h ⊢
  generalize r.scope.parts = ps at h hparts
  generalize r'.scope.parts = ps' at hparts ⊢
  cases hparts with
  | nil => cases h
  | cons hp hps =>
    dsimp only at h ⊢
    split at h
    · rename_i hsolid
      cases h
      rw [if_pos (hp.solid ▸ hsolid)]
      exact ⟨_, rfl, ⟨.cons (hp.loop min max _ _) hps, hr.scope.branches⟩, hr.flags, hr.openings, hr.groups, hr.names⟩
    · cases h

/-- **Acts that are alike do what is alike.** -/
theorem perform_alike (h : r.perform a = some r₁) (hr : r.Alike r') (ha : a.Alike a') :
    ∃ r₁', r'.perform a' = some r₁' ∧ r₁.Alike r₁' := by
  cases ha with
  | push hp =>
    cases h
    exact ⟨_, rfl, hr.scope.push hp, hr.flags, hr.openings, hr.groups, hr.names⟩
  | bar =>
    cases h
    refine ⟨_, rfl, ⟨.nil, .cons (.concat (List.rel_reverse hr.scope.parts)) hr.scope.branches⟩, hr.flags, hr.openings,
      hr.groups, hr.names⟩
  | close => exact close_alike h hr
  | again min max greedy => exact repeat_alike h hr
  | group fl fold =>
    cases h
    exact ⟨_, rfl, ⟨.nil, .nil⟩, ⟨fold, rfl⟩, .cons ⟨rfl, hr.scope, hr.flags⟩ hr.openings, hr.groups, hr.names⟩
  | capture name =>
    cases name with
    | none =>
      cases h
      refine ⟨_, rfl, ?_⟩
      rw [← hr.names]
      exact hr.openCapture _
    | some name =>
      simp only [Reading.perform] at h ⊢
      rw [← hr.names]
      split at h
      · cases h
      · rename_i hnew
        cases h
        rw [if_neg hnew]
        exact ⟨_, rfl, hr.openCapture _⟩
  | switch fl fold =>
    cases h
    exact ⟨_, rfl, hr.scope.push (.refl _), ⟨fold, rfl⟩, hr.openings, hr.groups, hr.names⟩

/-- **Readings that are alike go on alike.** -/
theorem Reads.alike (h : Reads r t r₁) (hr : r.Alike r') : ∃ r₁', Reads r' t r₁' ∧ r₁.Alike r₁' := by
  induction h generalizing r' with
  | done hskip =>
    obtain ⟨fold, hflags⟩ := hr.flags
    refine ⟨r', .done ?_, hr⟩
    rw [hflags, skipSpace_withFold, hskip]
  | act hread hperform _ ih =>
    obtain ⟨fold, hflags⟩ := hr.flags
    obtain ⟨a', hread', ha⟩ := readAct_withFold fold hread
    obtain ⟨r₂', hperform', hr₂⟩ := perform_alike hperform hr ha
    obtain ⟨r₁', hrest, hr₁⟩ := ih hr₂
    refine ⟨r₁', .act ?_ hperform' hrest, hr₁⟩
    rw [hflags, skipSpace_withFold, hread']

end

/-- **Whether letters stand for both cases or not**, an expression is read, and as a part of the same shape. -/
theorem read_withFold {fl : Flags} {t : Text} {p : Part} (h : read? fl t = some p) (fold : Bool) :
    ∃ q, read? (fl.withFold fold) t = some q ∧ p.Alike q := by
  obtain ⟨r, hreads, hclosed, rfl⟩ := read_eq_some_iff.1 h
  have hstart : Reading.Alike { flags := fl } { flags := fl.withFold fold } :=
    ⟨⟨.nil, .nil⟩, ⟨fold, rfl⟩, .nil, rfl, rfl⟩
  obtain ⟨r', hreads', hr⟩ := hreads.alike hstart
  exact ⟨_, read_eq_some_iff.2 ⟨r', hreads', hr.openings_eq_nil hclosed, rfl⟩, hr.scope.part⟩

end CommandPattern

end Readout.Regex
