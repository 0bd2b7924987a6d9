/-
  The number of templates that a session keeps does not show: as long as the index is read again between a change
  of files and the next use of a template, a session logs and answers what one without a cache does.

  * `Desk.plain` is a desk without a cache, `step_plain`: on a sound cache it does every step alike;
  * `Stale`: files have changed after a template was used, and the index has not been read again since;
  * `sound_run`: unless a run is stale, the cache behind it is sound;
  * `run_cacheSize`: with a cache of any size, a run logs and answers what it does without one.
-/
import Readout.Proofs.Session.Cache
import Readout.Session.Step

namespace Readout.Session

/-! ## Steps -/

/-- Does a step run a template? -/
def Step.parses : Step → Bool
  | .parse .. | .outcome .. | .report .. => true
  | _ => false

def Step.changesFiles : Step → Bool
  | .write .. | .makeDir .. | .remove .. => true
  | _ => false

/-- A routine step goes on with the session, and does not show its configuration. -/
def Step.isRoutine : Step → Bool
  | .begin .. | .config | .describe => false
  | _ => true

/-- Has the index been read again? -/
def Answer.isReload : Answer → Bool
  | .reloaded r => r.isOk
  | _ => false

namespace Desk

/-- The desk without the cache of its session. -/
def plain (d : Desk) : Desk := { d with session := d.session.plain }

/-- **On a sound cache, a routine step is done as without a cache.** -/
theorem step_plain {d : Desk} {a : Step} (ha : a.isRoutine)
    (hs : a.parses → d.session.cache.Sound d.files) :
    d.plain.step a = ((d.step a).1.plain, (d.step a).2) := by
  cases a with
  | begin | config | describe => cases ha
  | write | makeDir | remove | registry => rfl
  | parse platform command text => simp only [step, plain, answer, plain_parse (hs rfl)]
  | outcome platform command text => simp only [step, plain, answer, plain_outcome (hs rfl)]
  | report platform command text => simp only [step, plain, answer, plain_report (hs rfl)]
  | resolve platform command => simp only [step, plain, answer, plain_resolve]
  | platforms => simp only [step, plain, answer, plain_platforms]
  | commands platform => simp only [step, plain, answer, plain_commands]
  | reload => simp only [step, plain, answer, plain_reload]

/-- A step that does not change files keeps a cache sound. -/
theorem sound_step {d : Desk} {a : Step} (ha : a.changesFiles = false)
    (hs : d.session.cache.Sound d.files) : (d.step a).1.session.cache.Sound (d.step a).1.files := by
  cases a with
  | write | makeDir | remove => cases ha
  | begin => exact Cache.sound_of_entries_nil rfl
  | registry | config | describe => exact hs
  | parse platform command text => exact sound_parse hs platform command text
  | outcome platform command text => exact sound_outcome hs platform command text
  | report platform command text => exact sound_report hs platform command text
  | resolve | platforms | commands => exact (load_cache d.session d.files).symm ▸ hs
  | reload => exact sound_reload hs

/-- Only templates that are run are kept. -/
theorem entries_step {d : Desk} {a : Step} (ha : a.parses = false) (he : d.session.cache.entries = []) :
    (d.step a).1.session.cache.entries = [] := by
  cases a with
  | parse | outcome | report => cases ha
  | write | makeDir | remove | registry | config | describe => exact he
  | begin => rfl
  | resolve | platforms | commands => exact (load_cache d.session d.files).symm ▸ he
  | reload =>
    change ((d.session.reload d.files).1).cache.entries = []
    rw [reload_cache]
    split
    · rfl
    · exact he

/-- Behind an index that has been read again, nothing is kept. -/
theorem entries_reload {d : Desk} {a : Step} (ha : (d.step a).2.2.isReload) :
    (d.step a).1.session.cache.entries = [] := by
  cases a with
  | reload =>
    have hok : (d.session.reload d.files).2.2.isOk := ha
    change ((d.session.reload d.files).1).cache.entries = []
    rw [reload_cache, if_pos hok]; rfl
  | _ => cases ha

end Desk

/-! ## Places of a run -/

section
variable {α : Type} (p : α → Bool)

/-- Does what stands at a place of a list pass a test? -/
def passesAt (l : List α) (i : Nat) : Bool := l[i]?.any p

theorem lt_of_passesAt {l : List α} {i : Nat} (h : passesAt p l i) : i < l.length := by
  obtain ⟨a, ha, -⟩ := Option.any_eq_true _ _ |>.1 h
  exact (List.getElem?_eq_some_iff.1 ha).1

theorem passesAt_concat_of_lt {l : List α} {i : Nat} (h : i < l.length) (a : α) :
    passesAt p (l ++ [a]) i = passesAt p l i := by
  unfold passesAt; rw [List.getElem?_append_left h]

theorem passesAt_concat_length (l : List α) (a : α) : passesAt p (l ++ [a]) l.length = p a := by
  unfold passesAt; rw [List.getElem?_concat_length]; rfl

theorem exists_passesAt {l : List α} {a : α} (ha : a ∈ l) (hp : p a) : ∃ i, passesAt p l i := by
  obtain ⟨i, hi⟩ := List.getElem?_of_mem ha
  exact ⟨i, by unfold passesAt; rw [hi]; exact hp⟩

end

/-- Do files change at a place, where a template has been used before? -/
def ChangesAfterUse (steps : List Step) (j : Nat) : Prop :=
  passesAt Step.changesFiles steps j ∧ ∃ i < j, passesAt Step.parses steps i

theorem ChangesAfterUse.lt {steps : List Step} {j : Nat} (h : ChangesAfterUse steps j) : j < steps.length :=
  lt_of_passesAt _ h.1

theorem changesAfterUse_concat {steps : List Step} {j : Nat} (hj : j < steps.length) (a : Step) :
    ChangesAfterUse (steps ++ [a]) j ↔ ChangesAfterUse steps j := by
  unfold ChangesAfterUse
  rw [passesAt_concat_of_lt _ hj]
  refine and_congr_right' (exists_congr fun i => and_congr_right fun hi => ?_)
  rw [passesAt_concat_of_lt _ (hi.trans hj)]

instance (steps : List Step) (j : Nat) : Decidable (ChangesAfterUse steps j) :=
  inferInstanceAs (Decidable (_ ∧ _))

namespace Desk

/-- Is the index read again at a place of the run? -/
def reloadsAt (d : Desk) (steps : List Step) (m : Nat) : Bool := passesAt (·.2.isReload) (d.run steps).2 m

/-- Have files changed since a template was used, without the index being read again? -/
def Stale (d : Desk) (steps : List Step) : Prop :=
  ∃ j, ChangesAfterUse steps j ∧ ∀ m > j, ¬ d.reloadsAt steps m

/-- Where a template is used, has the index been read again since files changed after an earlier use? -/
def Refreshed (d : Desk) (steps : List Step) : Prop :=
  ∀ k < steps.length, passesAt Step.parses steps k →
    ∀ j < k, ChangesAfterUse steps j → ∃ m < k, j < m ∧ d.reloadsAt steps m

instance (d : Desk) (steps : List Step) : Decidable (d.Refreshed steps) := Nat.decidableBallLT _ _

/-! ## Runs -/

theorem run_concat (d : Desk) (steps : List Step) (a : Step) :
    d.run (steps ++ [a]) =
      (((d.run steps).1.step a).1, (d.run steps).2 ++ [((d.run steps).1.step a).2]) := by
  induction steps generalizing d with
  | nil => rfl
  | cons b steps ih => simp only [List.cons_append, run, ih]

theorem run_length (d : Desk) (steps : List Step) : (d.run steps).2.length = steps.length := by
  induction steps generalizing d with
  | nil => rfl
  | cons b steps ih => simp only [run, List.length_cons, ih]

variable {d : Desk} {steps : List Step} {a : Step}

theorem reloadsAt_concat_of_lt {m : Nat} (h : m < steps.length) :
    d.reloadsAt (steps ++ [a]) m = d.reloadsAt steps m := by
  unfold reloadsAt
  rw [run_concat, passesAt_concat_of_lt _ (by rw [run_length]; exact h)]

theorem reloadsAt_concat_length :
    d.reloadsAt (steps ++ [a]) steps.length = ((d.run steps).1.step a).2.2.isReload := by
  unfold reloadsAt
  rw [run_concat, ← run_length d steps, passesAt_concat_length]

theorem lt_of_reloadsAt {m : Nat} (h : d.reloadsAt steps m) : m < steps.length := by
  rw [← run_length d steps]; exact lt_of_passesAt _ h

/-- A run that is stale stays so, unless the index is read again. -/
theorem Stale.concat (h : d.Stale steps) (ha : ¬ ((d.run steps).1.step a).2.2.isReload) :
    d.Stale (steps ++ [a]) := by
  obtain ⟨j, hj, hm⟩ := h
  refine ⟨j, (changesAfterUse_concat hj.lt a).2 hj, fun m hjm hr => ?_⟩
  have hmlt := lt_of_reloadsAt hr
  rw [List.length_append, List.length_singleton, Nat.lt_succ_iff] at hmlt
  rcases hmlt.lt_or_eq with hmlt | rfl
  · exact hm m hjm (by rwa [reloadsAt_concat_of_lt hmlt] at hr)
  · exact ha (by rwa [reloadsAt_concat_length] at hr)

/-- A change of files makes a run stale in which a template was used. -/
theorem stale_of_changesFiles {b : Step} (ha : a.changesFiles) (hb : b ∈ steps) (hp : b.parses) :
    d.Stale (steps ++ [a]) := by
  obtain ⟨i, hi⟩ := exists_passesAt _ hb hp
  have hlt := lt_of_passesAt _ hi
  refine ⟨steps.length, ⟨?_, i, hlt, ?_⟩, fun m hm hr => ?_⟩
  · rwa [passesAt_concat_length]
  · rwa [passesAt_concat_of_lt _ hlt]
  · have hmlt := lt_of_reloadsAt hr
    rw [List.length_append, List.length_singleton] at hmlt
    omega

theorem Refreshed.of_concat (h : d.Refreshed (steps ++ [a])) : d.Refreshed steps := by
  intro k hk hp j hj hc
  have hk' : k < (steps ++ [a]).length := by rw [List.length_append]; omega
  obtain ⟨m, hm, hjm, hr⟩ := h k hk' (by rwa [passesAt_concat_of_lt _ hk])
    j hj ((changesAfterUse_concat (hj.trans hk) a).2 hc)
  exact ⟨m, hm, hjm, by rwa [reloadsAt_concat_of_lt (hm.trans hk)] at hr⟩

/-- No template is used behind a stale run. -/
theorem Refreshed.not_stale (h : d.Refreshed (steps ++ [a])) (ha : a.parses) : ¬ d.Stale steps := by
  rintro ⟨j, hj, hm⟩
  have hk : steps.length < (steps ++ [a]).length := by rw [List.length_append, List.length_singleton]; omega
  obtain ⟨m, hml, hjm, hr⟩ := h steps.length hk (by rwa [passesAt_concat_length])
    j hj.lt ((changesAfterUse_concat hj.lt a).2 hj)
  exact hm m hjm (by rwa [reloadsAt_concat_of_lt hml] at hr)

section
variable (hd : d.session.cache.entries = [])
include hd

theorem entries_run (h : ∀ b ∈ steps, b.parses = false) : (d.run steps).1.session.cache.entries = [] := by
  induction steps using List.reverseRecOn with
  | nil => exact hd
  | append_singleton steps a ih =>
    rw [run_concat]
    exact entries_step (h a (by simp)) (ih fun b hb => h b (List.mem_append_left _ hb))

/-- **Unless a run is stale, the cache behind it is sound.** -/
theorem sound_run (h : ¬ d.Stale steps) : (d.run steps).1.session.cache.Sound (d.run steps).1.files := by
  induction steps using List.reverseRecOn with
  | nil => exact Cache.sound_of_entries_nil hd
  | append_singleton steps a ih =>
    rw [run_concat]
    by_cases hr : ((d.run steps).1.step a).2.2.isReload
    · exact Cache.sound_of_entries_nil (entries_reload hr)
    · by_cases hc : a.changesFiles
      · have hp : ∀ b ∈ steps, b.parses = false := by
          intro b hb
          by_contra hp
          exact h (stale_of_changesFiles hc hb (by simpa using hp))
        have ha : a.parses = false := by cases a <;> first | rfl | cases hc
        exact Cache.sound_of_entries_nil (entries_step ha (entries_run hd hp))
      · exact sound_step (by simpa using hc) (ih fun hs => h (hs.concat hr))

/-- **Without a cache, a run is the same**, as long as the index is read again in time. -/
theorem plain_run (hroutine : ∀ b ∈ steps, b.isRoutine) (hr : d.Refreshed steps) :
    d.plain.run steps = ((d.run steps).1.plain, (d.run steps).2) := by
  induction steps using List.reverseRecOn with
  | nil => rfl
  | append_singleton steps a ih =>
    have ih := ih (fun b hb => hroutine b (List.mem_append_left _ hb)) hr.of_concat
    have ha := step_plain (hroutine a (by simp)) fun hp => sound_run hd (hr.not_stale hp)
    rw [run_concat, run_concat, ih, ha]

end

/-- A desk with a new session. -/
def start (files : FileTree) (config : Config) : Desk := { files, session := { config } }

/-- **The number of templates that are kept does not show.**  Whatever is dropped from the cache, a run logs and
    answers what it does without one, as long as the index is read again between a change of files and the next
    use of a template. -/
theorem run_cacheSize {files : FileTree} {config : Config} {n : Nat} {steps : List Step}
    (hroutine : ∀ b ∈ steps, b.isRoutine)
    (hr : (start files { config with cacheSize := n }).Refreshed steps) :
    ((start files { config with cacheSize := n }).run steps).2 =
      ((start files { config with cacheSize := 0 }).run steps).2 := by
  have h := plain_run (d := start files { config with cacheSize := n }) rfl hroutine hr
  exact (congrArg Prod.snd h).symm

/-- Two commands take turns; then the template of the first one changes, and the index is read again. -/
def turns : List Step :=
  [.write "templates/index".toList
     (.text "Template, Platform, Command\na, os, sh[[ow]] a\nb, os, sh[[ow]] b\n".toList),
   .write "templates/a".toList (.text "Value A (\\S+)\n\nStart\n  ^${A} -> Record\n".toList),
   .write "templates/b".toList (.text "Value B (\\d+)\n\nStart\n  ^${B} -> Record\n".toList),
   .parse "os".toList "show a".toList "x 1\n".toList,
   .parse "os".toList "show b".toList "1\n".toList,
   .parse "os".toList "show a".toList "x 1\n".toList,
   .write "templates/a".toList (.text "Value A (\\S+)\n\nStart\n  ^\\S+ ${A} -> Record\n".toList),
   .reload,
   .parse "os".toList "show a".toList "x 1\n".toList]

/-- A cache with room for one template, which has to be read anew at every turn. -/
theorem run_cacheSize_turns :
    (∀ b ∈ turns, b.isRoutine) ∧ (start {} { ({} : Config) with cacheSize := 1 }).Refreshed turns ∧
      ((start {} { ({} : Config) with cacheSize := 1 }).run turns).2 =
        ((start {} { ({} : Config) with cacheSize := 0 }).run turns).2 := by
  have hroutine : ∀ b ∈ turns, b.isRoutine := by decide
  have hr : (start {} { ({} : Config) with cacheSize := 1 }).Refreshed turns := by decide +kernel
  exact ⟨hroutine, hr, run_cacheSize hroutine hr⟩

end Desk

end Readout.Session
