/-
  The life of a registry.  It is there from the first time on that the index is read, and it changes when the index
  is read again, but not with its file.

  * `Desk.Indexed`: the registry that the index file holds;
  * `step_of_needsRegistry`, `step_of_not_loaded`, `step_of_isIdle`, `step_reload_of_not_isReload`: what the steps of
    a session do to it;
  * `Desk.Publishes`: the registry behind a run, told by the steps that have read the index; `registry_run`: it is
    what the session has;
  * `Lifecycle`: where a registry is there and which one, and which steps leave everything as it is;
    `lifecycle_run`: every run of a session is like that.
-/
import Readout.Proofs.Session.Transparency

namespace Readout.Session

open Index (Registry)

/-! ## Reading the index -/

theorem loadIndex_eq_ok_iff {files : FileTree} {path : Path} {x : Index.Noticing} :
    loadIndex files path = .ok x ↔ ∃ content, files.read path = .ok content ∧ Index.parse content = .ok x := by
  unfold loadIndex
  constructor
  · intro h
    split at h
    · cases h
    · split at h
      · cases h
      · rename_i content hread
        split at h
        · cases h
        · rename_i r hparse
          cases h
          exact ⟨content, hread, hparse⟩
  · rintro ⟨content, hread, hparse⟩
    have hfile : files.hasFile path := by
      unfold FileTree.read at hread
      unfold FileTree.hasFile
      rcases hfind : files.find? path with _ | ⟨_ | _⟩ | _ <;> rw [hfind] at hread <;> first | rfl | cases hread
    simp [hfile, hread, hparse]

/-- Does a step need the registry? -/
def Step.needsRegistry : Step → Bool
  | .parse _ _ text | .outcome _ _ text | .report _ _ text => !text.isEmpty
  | .resolve .. | .platforms | .commands .. => true
  | _ => false

/-- A step that has nothing to read: a question about the session itself, or output that is empty. -/
def Step.isIdle : Step → Bool
  | .registry | .config | .describe => true
  | .parse _ _ text | .outcome _ _ text | .report _ _ text => text.isEmpty
  | _ => false

/-- A step that goes on with the session that is there. -/
def Step.goesOn : Step → Bool
  | .begin .. => false
  | _ => true

/-! ## Sessions -/

theorem template_withCache (s : Session) (files : FileTree) (p : Path) :
    ∃ c, (s.template files p).1 = { s with cache := c } := by
  unfold template
  split
  · exact ⟨s.cache, rfl⟩
  · split
    · exact ⟨_, rfl⟩
    · split
      · exact ⟨s.cache, rfl⟩
      · exact ⟨_, rfl⟩

/-- Output that is not empty is parsed with the registry of the index. -/
theorem outcome_withCache (s : Session) (files : FileTree) (platform command : Text) {text : Text}
    (htext : text.isEmpty = false) :
    ∃ c, (s.outcome files platform command text).1 = { (s.load files).1 with cache := c } := by
  unfold outcome
  rw [htext]
  simp only [Bool.false_eq_true, if_false, resolve]
  split
  · exact ⟨_, rfl⟩
  · exact ⟨_, rfl⟩
  · rename_i ref _
    obtain ⟨c, hc⟩ := template_withCache (s.load files).1 files ref.path
    refine ⟨c, ?_⟩
    rcases ht : (s.load files).1.template files ref.path with ⟨s', e | t⟩ <;> rw [ht] at hc <;> exact hc

/-! ## Steps -/

namespace Desk

variable {d : Desk} {steps : List Step} {a : Step} {r : Registry}

/-- Does the index file hold this registry? -/
def Indexed (d : Desk) (r : Registry) : Prop :=
  ∃ content notices, d.files.read d.session.config.indexPath = .ok content ∧
    Index.parse content = .ok (r, notices)

/-- The registry that the index file holds. -/
def indexed? (d : Desk) : Option Registry :=
  (loadIndex d.files d.session.config.indexPath).toOption.map (·.1)

theorem indexed_iff : d.Indexed r ↔ d.indexed? = some r := by
  unfold Indexed indexed?
  constructor
  · rintro ⟨content, notices, h⟩
    rw [loadIndex_eq_ok_iff.2 ⟨content, h⟩]; rfl
  · intro h
    rcases hload : loadIndex d.files d.session.config.indexPath with e | ⟨r', notices⟩ <;> rw [hload] at h
    · cases h
    · cases h
      obtain ⟨content, h⟩ := loadIndex_eq_ok_iff.1 hload
      exact ⟨content, notices, h⟩

theorem indexed?_eq_none_iff : d.indexed? = none ↔ ∀ r, ¬ d.Indexed r := by
  simp only [indexed_iff, Option.eq_none_iff_forall_ne_some, ne_eq]

/-- **A step that needs the registry loads it**, and may keep a template behind that. -/
theorem step_of_needsRegistry (ha : a.needsRegistry) :
    ∃ c, (d.step a).1 = { d with session := { (d.session.load d.files).1 with cache := c } } := by
  have hload : ∀ platform command {text : Text}, (!text.isEmpty) = true →
      ∃ c, (d.session.outcome d.files platform command text).1 = { (d.session.load d.files).1 with cache := c } :=
    fun platform command text htext => outcome_withCache _ _ platform command (by simpa using htext)
  cases a with
  | write | makeDir | remove | begin | reload | registry | config | describe => cases ha
  | resolve | platforms | commands => exact ⟨(d.session.load d.files).1.cache, rfl⟩
  | outcome platform command text =>
    obtain ⟨c, hc⟩ := hload platform command ha
    exact ⟨c, by simp only [step, answer, hc]⟩
  | parse platform command text =>
    obtain ⟨c, hc⟩ := hload platform command ha
    exact ⟨c, by simp only [step, answer, parse_session, hc]⟩
  | report platform command text =>
    obtain ⟨c, hc⟩ := hload platform command ha
    exact ⟨c, by simp only [step, answer, report_session, hc]⟩

/-- **An index that cannot be read leaves nothing behind**, but a line in the log. -/
theorem step_of_not_loaded {e : LoadError} (ha : a.needsRegistry) (hr : d.session.registry = none)
    (he : loadIndex d.files d.session.config.indexPath = .error e) :
    (d.step a).1 = d ∧ (d.step a).2.1 = [.notLoaded e] := by
  have hload : d.session.load d.files = (d.session, [.notLoaded e]) := by simp only [load, hr, he]
  cases a with
  | write | makeDir | remove | begin | reload | registry | config | describe => cases ha
  | resolve | platforms | commands => simp only [step, answer, resolve, platforms, commands, hload, and_self]
  -- without a registry no platform is known, and so no template is looked for
  | outcome platform command text | parse platform command text | report platform command text =>
    have htext : text.isEmpty = false := by simpa [Step.needsRegistry] using ha
    simp [step, answer, report, parse, outcome, resolve, resolution, htext, hload, hr]

theorem step_of_isIdle (ha : a.isIdle) : (d.step a).1 = d ∧ (d.step a).2.1 = [] := by
  cases a with
  | write | makeDir | remove | begin | reload | resolve | platforms | commands => cases ha
  | registry | config | describe => exact ⟨rfl, rfl⟩
  | parse platform command text | outcome platform command text | report platform command text =>
    obtain rfl : text = [] := List.isEmpty_iff.1 ha
    exact ⟨rfl, rfl⟩

/-- An index that cannot be read again changes nothing. -/
theorem step_reload_of_not_isReload (h : ¬ (d.step .reload).2.2.isReload) : (d.step .reload).1 = d := by
  simp only [step, answer, reload] at h ⊢
  cases hload : loadIndex d.files d.session.config.indexPath with
  | error e => rfl
  | ok x => rw [hload] at h; exact absurd rfl h

theorem isReload_iff : (d.step a).2.2.isReload ↔ a = .reload ∧ ∃ r, d.Indexed r := by
  cases a with
  | reload =>
    simp only [indexed_iff, indexed?, step, answer, reload]
    rcases loadIndex d.files d.session.config.indexPath with e | x
    · simp [Answer.isReload, Except.isOk, Except.toBool, Except.toOption]
    · simp [Answer.isReload, Except.isOk, Except.toBool, Except.toOption]
  | _ => simp [step, answer, Answer.isReload]

/-! ## What a step does to the registry -/

theorem registry_of_isReload (h : (d.step a).2.2.isReload) : (d.step a).1.session.registry = d.indexed? := by
  obtain ⟨rfl, r, hr⟩ := isReload_iff.1 h
  rw [indexed_iff] at hr
  rw [hr]
  unfold indexed? at hr
  simp only [step, answer, reload]
  rcases hload : loadIndex d.files d.session.config.indexPath with e | x <;> rw [hload] at hr
  · cases hr
  · exact hr

theorem load_registry (d : Desk) : (d.session.load d.files).1.registry = d.session.registry.or d.indexed? := by
  unfold load indexed?
  rcases hr : d.session.registry with _ | r
  · rcases loadIndex d.files d.session.config.indexPath with e | x
    · exact hr
    · rfl
  · exact hr

/-- **A registry that is missing is read when it is needed.** -/
theorem registry_of_needsRegistry (ha : a.needsRegistry) :
    (d.step a).1.session.registry = d.session.registry.or d.indexed? := by
  obtain ⟨c, h⟩ := step_of_needsRegistry (d := d) ha
  rw [h]; exact load_registry d

/-- **Other steps leave the registry alone.** -/
theorem registry_of_others (ha : a.goesOn) (hneeds : ¬ a.needsRegistry) (hreload : ¬ (d.step a).2.2.isReload) :
    (d.step a).1.session.registry = d.session.registry := by
  cases a with
  | begin => cases ha
  | write | makeDir | remove | registry | config | describe => rfl
  | resolve | platforms | commands => exact absurd rfl hneeds
  | reload => rw [step_reload_of_not_isReload hreload]
  | parse platform command text | outcome platform command text | report platform command text =>
    have hidle : text.isEmpty := by simpa [Step.needsRegistry] using hneeds
    obtain rfl : text = [] := List.isEmpty_iff.1 hidle
    rfl

/-- A registry that is there stays there. -/
theorem registry_isSome_step (ha : a.goesOn) (hr : d.session.registry.isSome) :
    (d.step a).1.session.registry.isSome := by
  by_cases hreload : (d.step a).2.2.isReload
  · obtain ⟨r, h⟩ := (isReload_iff.1 hreload).2
    rw [registry_of_isReload hreload, indexed_iff.1 h]; rfl
  · by_cases hneeds : a.needsRegistry
    · rw [registry_of_needsRegistry hneeds, Option.isSome_or, hr, Bool.true_or]
    · rwa [registry_of_others ha hneeds hreload]

/-! ## Places of a run -/

/-- The desk in front of a step of a run. -/
def before (d : Desk) (steps : List Step) (k : Nat) : Desk := (d.run (steps.take k)).1

theorem before_of_length_le {k : Nat} (h : steps.length ≤ k) : d.before steps k = (d.run steps).1 := by
  unfold before; rw [List.take_of_length_le h]

theorem before_concat_of_le {k : Nat} (h : k ≤ steps.length) :
    d.before (steps ++ [a]) k = d.before steps k := by
  unfold before; rw [List.take_append_of_le_length h]

theorem before_succ {k : Nat} (h : steps[k]? = some a) :
    d.before steps (k + 1) = ((d.before steps k).step a).1 := by
  unfold before; rw [List.take_add_one, h, Option.toList_some, run_concat]

/-- What a run logs and answers at a place is what the step there does. -/
theorem run_getElem? {k : Nat} (h : steps[k]? = some a) :
    (d.run steps).2[k]? = some ((d.before steps k).step a).2 := by
  induction steps generalizing d k with
  | nil => cases h
  | cons b steps ih =>
    cases k with
    | zero => cases h; rfl
    | succ k => exact ih h

/-- Is the registry needed at a place of the run, where the index file holds one? -/
def LoadsAt (d : Desk) (steps : List Step) (k : Nat) : Prop :=
  passesAt Step.needsRegistry steps k ∧ ∃ r, (d.before steps k).Indexed r

theorem LoadsAt.lt {k : Nat} (h : d.LoadsAt steps k) : k < steps.length := lt_of_passesAt _ h.1

theorem loadsAt_concat_of_lt {k : Nat} (h : k < steps.length) :
    d.LoadsAt (steps ++ [a]) k ↔ d.LoadsAt steps k := by
  unfold LoadsAt; rw [passesAt_concat_of_lt _ h, before_concat_of_le h.le]

theorem loadsAt_concat_length :
    d.LoadsAt (steps ++ [a]) steps.length ↔ a.needsRegistry ∧ ∃ r, (d.run steps).1.Indexed r := by
  unfold LoadsAt; rw [passesAt_concat_length, before_concat_of_le le_rfl, before_of_length_le le_rfl]

/-! ## The registry behind a run -/

/-- No step of the run has read the index. -/
def Unread (d : Desk) (steps : List Step) : Prop := ∀ k, ¬ d.reloadsAt steps k ∧ ¬ d.LoadsAt steps k

/-- **The registry that a run publishes**: the one in the index file when it was read again last, or else when it was
    first needed and could be read. -/
inductive Publishes (d : Desk) (steps : List Step) (r : Registry) : Prop
  | reload {k : Nat} (hk : d.reloadsAt steps k) (hlast : ∀ m > k, ¬ d.reloadsAt steps m)
      (hr : (d.before steps k).Indexed r)
  | load {k : Nat} (hnone : ∀ m, ¬ d.reloadsAt steps m) (hk : d.LoadsAt steps k)
      (hfirst : ∀ m < k, ¬ d.LoadsAt steps m) (hr : (d.before steps k).Indexed r)

theorem Indexed.unique {r' : Registry} (h : d.Indexed r) (h' : d.Indexed r') : r = r' :=
  Option.some.inj ((indexed_iff.1 h).symm.trans (indexed_iff.1 h'))

theorem Publishes.unique {r' : Registry} (h : d.Publishes steps r) (h' : d.Publishes steps r') : r = r' := by
  rcases h with @⟨k, hk, hlast, hr⟩ | @⟨k, hnone, hk, hfirst, hr⟩ <;>
    rcases h' with @⟨k', hk', hlast', hr'⟩ | @⟨k', hnone', hk', hfirst', hr'⟩
  · obtain rfl : k = k' := le_antisymm (not_lt.1 fun h => hlast' k h hk) (not_lt.1 fun h => hlast k' h hk')
    exact hr.unique hr'
  · exact absurd hk (hnone' k)
  · exact absurd hk' (hnone k')
  · obtain rfl : k = k' := le_antisymm (not_lt.1 fun h => hfirst k' h hk') (not_lt.1 fun h => hfirst' k h hk)
    exact hr.unique hr'

theorem Unread.not_publishes (h : d.Unread steps) : ¬ d.Publishes steps r := by
  rintro (⟨hk, -, -⟩ | ⟨-, hk, -, -⟩)
  · exact (h _).1 hk
  · exact (h _).2 hk

/-- A place of a run that is one step longer. -/
theorem lt_or_eq_of_lt_concat {k : Nat} (h : k < (steps ++ [a]).length) : k < steps.length ∨ k = steps.length := by
  rw [List.length_append, List.length_singleton] at h; omega

/-- A step that does not read the index again is not a place where it is. -/
theorem reloadsAt_concat (ha : ¬ ((d.run steps).1.step a).2.2.isReload) {k : Nat}
    (h : d.reloadsAt (steps ++ [a]) k) : d.reloadsAt steps k := by
  rcases lt_or_eq_of_lt_concat (lt_of_reloadsAt h) with hk | rfl
  · rwa [reloadsAt_concat_of_lt hk] at h
  · exact absurd (by rwa [reloadsAt_concat_length] at h) ha

theorem Unread.concat (h : d.Unread steps) (hreload : ¬ ((d.run steps).1.step a).2.2.isReload)
    (hload : ¬ (a.needsRegistry ∧ ∃ r, (d.run steps).1.Indexed r)) : d.Unread (steps ++ [a]) := by
  refine fun k => ⟨fun hk => (h k).1 (reloadsAt_concat hreload hk), fun hk => ?_⟩
  rcases lt_or_eq_of_lt_concat hk.lt with hlt | rfl
  · exact (h k).2 ((loadsAt_concat_of_lt hlt).1 hk)
  · exact hload (loadsAt_concat_length.1 hk)

/-- What has been published stays, unless the index is read again. -/
theorem Publishes.concat (h : d.Publishes steps r) (hreload : ¬ ((d.run steps).1.step a).2.2.isReload) :
    d.Publishes (steps ++ [a]) r := by
  rcases h with ⟨hk, hlast, hr⟩ | ⟨hnone, hk, hfirst, hr⟩
  · have hlt := lt_of_reloadsAt hk
    refine .reload (by rwa [reloadsAt_concat_of_lt hlt]) (fun m hm h => ?_) (by rwa [before_concat_of_le hlt.le])
    exact hlast m hm (reloadsAt_concat hreload h)
  · refine .load (fun m h => hnone m (reloadsAt_concat hreload h)) ((loadsAt_concat_of_lt hk.lt).2 hk)
      (fun m hm h => ?_) (by rwa [before_concat_of_le hk.lt.le])
    exact hfirst m hm ((loadsAt_concat_of_lt (hm.trans hk.lt)).1 h)

/-- An index that is read again is published. -/
theorem publishes_of_isReload (ha : ((d.run steps).1.step a).2.2.isReload) (hr : (d.run steps).1.Indexed r) :
    d.Publishes (steps ++ [a]) r := by
  refine .reload (k := steps.length) (by rwa [reloadsAt_concat_length]) (fun m hm h => ?_) ?_
  · rcases lt_or_eq_of_lt_concat (lt_of_reloadsAt h) with h' | h' <;> omega
  · rwa [before_concat_of_le le_rfl, before_of_length_le le_rfl]

/-- The first index that is read when it is needed is published. -/
theorem Unread.publishes (h : d.Unread steps) (ha : a.needsRegistry) (hr : (d.run steps).1.Indexed r) :
    d.Publishes (steps ++ [a]) r := by
  have hreload : ¬ ((d.run steps).1.step a).2.2.isReload := fun h => by
    rw [(isReload_iff.1 h).1] at ha; cases ha
  refine .load (k := steps.length) (fun m hm => (h m).1 (reloadsAt_concat hreload hm))
    (loadsAt_concat_length.2 ⟨ha, r, hr⟩) (fun m hm hl => (h m).2 ((loadsAt_concat_of_lt hm).1 hl)) ?_
  rwa [before_concat_of_le le_rfl, before_of_length_le le_rfl]

section
variable (hd : d.session.registry = none) (hsteps : ∀ b ∈ steps, b.goesOn)
include hd hsteps

/-- **The registry behind a run** is the one that is published, and there is none as long as the index is unread. -/
theorem registry_run : ((d.run steps).1.session.registry = none → d.Unread steps) ∧
    ∀ r, (d.run steps).1.session.registry = some r → d.Publishes steps r := by
  induction steps using List.reverseRecOn with
  | nil =>
    refine ⟨fun _ k => ⟨fun h => absurd (lt_of_reloadsAt h) (Nat.not_lt_zero k),
      fun h => absurd h.lt (Nat.not_lt_zero k)⟩, fun r hr => ?_⟩
    rw [show (d.run []).1.session.registry = none from hd] at hr
    cases hr
  | append_singleton steps a ih =>
    obtain ⟨ihNone, ihSome⟩ := ih fun b hb => hsteps b (List.mem_append_left _ hb)
    rw [run_concat]
    -- a step reads the index again, or reads it if need be, or leaves the registry alone
    by_cases hreload : ((d.run steps).1.step a).2.2.isReload
    · obtain ⟨-, r, hr⟩ := isReload_iff.1 hreload
      rw [registry_of_isReload hreload, indexed_iff.1 hr]
      refine ⟨fun h => by (cases h), fun r' h => ?_⟩
      cases h
      exact publishes_of_isReload hreload hr
    · by_cases hneeds : a.needsRegistry
      · rw [registry_of_needsRegistry hneeds]
        rcases hreg : (d.run steps).1.session.registry with _ | r
        · rw [Option.none_or]
          exact ⟨fun h => (ihNone hreg).concat hreload fun ⟨_, r, hr⟩ => indexed?_eq_none_iff.1 h r hr,
            fun r h => (ihNone hreg).publishes hneeds (indexed_iff.2 h)⟩
        · refine ⟨fun h => by (cases h), fun r' h => ?_⟩
          cases h
          exact (ihSome r hreg).concat hreload
      · rw [registry_of_others (hsteps a (by simp)) hneeds hreload]
        exact ⟨fun h => (ihNone h).concat hreload fun h => hneeds h.1, fun r h => (ihSome r h).concat hreload⟩

theorem registry_eq_none_iff : (d.run steps).1.session.registry = none ↔ d.Unread steps := by
  refine ⟨(registry_run hd hsteps).1, fun h => ?_⟩
  rcases hr : (d.run steps).1.session.registry with _ | r
  · rfl
  · exact absurd ((registry_run hd hsteps).2 r hr) h.not_publishes

theorem registry_eq_some_iff : (d.run steps).1.session.registry = some r ↔ d.Publishes steps r := by
  refine ⟨(registry_run hd hsteps).2 r, fun h => ?_⟩
  rcases hr : (d.run steps).1.session.registry with _ | r'
  · exact absurd h ((registry_run hd hsteps).1 hr).not_publishes
  · rw [h.unique ((registry_run hd hsteps).2 r' hr)]

end

theorem registry_isSome_before (hsteps : ∀ b ∈ steps, b.goesOn) {j k : Nat} (hjk : j ≤ k)
    (hj : (d.before steps j).session.registry.isSome) : (d.before steps k).session.registry.isSome := by
  induction k, hjk using Nat.le_induction with
  | base => exact hj
  | succ k hjk ih =>
    rcases hk : steps[k]? with _ | a
    · have hlen := List.getElem?_eq_none_iff.1 hk
      rwa [before_of_length_le (hlen.trans k.le_succ), ← before_of_length_le hlen]
    · rw [before_succ hk]
      exact registry_isSome_step (hsteps a (List.mem_of_getElem? hk)) ih

/-- **A run without a reload that fails is the same run**: what the other steps log and answer does not change. -/
theorem run_eraseIdx {k : Nat} (hk : steps[k]? = some .reload) (hfails : ¬ d.reloadsAt steps k) :
    d.run (steps.eraseIdx k) = ((d.run steps).1, (d.run steps).2.eraseIdx k) := by
  induction steps generalizing d k with
  | nil => cases hk
  | cons b steps ih =>
    cases k with
    | zero =>
      cases hk
      have hstep : (d.step .reload).1 = d := step_reload_of_not_isReload hfails
      simp only [List.eraseIdx_cons_zero, run, hstep]
    | succ k =>
      have ih := ih (d := (d.step b).1) hk hfails
      simp only [List.eraseIdx_cons_succ, run, ih]

/-! ## Lifecycles -/

/-- The life of the registry in a run. -/
structure Lifecycle (d : Desk) (steps : List Step) : Prop where
  /-- It is absent until the index has been read for the first time, -/
  absent : (d.run steps).1.session.registry = none ↔ d.Unread steps
  /-- it is the one that was published, -/
  published : ∀ r, (d.run steps).1.session.registry = some r ↔ d.Publishes steps r
  /-- and it is there from then on. -/
  stays : ∀ j k, j ≤ k → (d.before steps j).session.registry.isSome → (d.before steps k).session.registry.isSome
  /-- A step that needs it while it is absent publishes the one in the index file. -/
  loads : ∀ k a r, steps[k]? = some a → a.needsRegistry → (d.before steps k).session.registry = none →
    (d.before steps k).Indexed r → (d.before steps (k + 1)).session.registry = some r
  /-- If the index cannot be read, that is logged, and nothing changes: the next such step tries again. -/
  retries : ∀ k a e, steps[k]? = some a → a.needsRegistry → (d.before steps k).session.registry = none →
    loadIndex (d.before steps k).files (d.before steps k).session.config.indexPath = .error e →
    d.before steps (k + 1) = d.before steps k ∧ (d.run steps).2[k]?.map (·.1) = some [.notLoaded e]
  /-- A reload that fails changes nothing, neither at once nor in the steps behind it. -/
  fails : ∀ k, steps[k]? = some .reload → ¬ d.reloadsAt steps k →
    d.before steps (k + 1) = d.before steps k ∧
      d.run (steps.eraseIdx k) = ((d.run steps).1, (d.run steps).2.eraseIdx k)
  /-- A step that has nothing to read reads nothing. -/
  idle : ∀ k a, steps[k]? = some a → a.isIdle →
    d.before steps (k + 1) = d.before steps k ∧ (d.run steps).2[k]?.map (·.1) = some []

/-- **The life of a registry**, in every run of a new session. -/
theorem lifecycle_run {files : FileTree} {config : Config} {steps : List Step} (hsteps : ∀ a ∈ steps, a.goesOn) :
    Lifecycle (start files config) steps where
  absent := registry_eq_none_iff rfl hsteps
  published _ := registry_eq_some_iff rfl hsteps
  stays _ _ hjk := registry_isSome_before hsteps hjk
  loads k a r hk ha hnone hr := by
    rw [before_succ hk, registry_of_needsRegistry ha, hnone, Option.none_or, indexed_iff.1 hr]
  retries k a e hk ha hnone he := by
    obtain ⟨hdesk, hlog⟩ := step_of_not_loaded ha hnone he
    rw [before_succ hk, run_getElem? hk, Option.map_some, hlog]
    exact ⟨hdesk, rfl⟩
  fails k hk hfails := by
    refine ⟨?_, run_eraseIdx hk hfails⟩
    rw [before_succ hk]
    refine step_reload_of_not_isReload ?_
    rwa [reloadsAt, passesAt, run_getElem? hk] at hfails
  idle k a hk ha := by
    obtain ⟨hdesk, hlog⟩ := step_of_isIdle ha
    rw [before_succ hk, run_getElem? hk, Option.map_some, hlog]
    exact ⟨hdesk, rfl⟩

/-- The index is missing, then there, then broken, and at last another one. -/
def edits : List Step :=
  [.platforms,
   .write "templates/index".toList (.text "Template, Platform, Command\na, os, show a\n".toList),
   .parse "os".toList "show a".toList [],
   .registry,
   .resolve "os".toList "show a".toList,
   .write "templates/index".toList (.text "Template, Command\n".toList),
   .reload,
   .platforms,
   .write "templates/index".toList (.text "Template, Vendor, Command\nb, ios, show b\n".toList),
   .platforms,
   .reload,
   .platforms]

/-- The fifth step loads the index and the second reload the new one; the first reload fails. -/
theorem lifecycle_run_edits :
    (∀ a ∈ edits, a.goesOn) ∧ Lifecycle (start {} {}) edits ∧
      (List.range edits.length).filter ((start {} {}).reloadsAt edits) = [10] ∧
      (List.range edits.length).filter (fun k => ((start {} {}).before edits k).session.registry.isSome) =
        [5, 6, 7, 8, 9, 10, 11] := by
  have hsteps : ∀ a ∈ edits, a.goesOn := by decide
  exact ⟨hsteps, lifecycle_run hsteps, by decide +kernel, by decide +kernel⟩

end Desk

end Readout.Session
