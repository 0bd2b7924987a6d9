/-
  Parses that share a cache.  Whatever the order of their accesses, no template is kept that was looked for before the
  cache was invalidated for the last time.

  * `generation_run`: the generation counts how often the cache has been invalidated;
  * `MissesAt`, `exists_missesAt`: every miss is one of some look-up, and remembers the generation of that time;
  * `Fresh`: was a template looked for and handed in since the cache was invalidated for the last time?
  * `fresh_of_mem_step`, `fresh_of_mem_run`: so it is with every template that is kept;
  * `run_fresh`: and a template is taken in only if the cache has not been invalidated since it was looked for;
  * `template_cache_eq_run`: what a session does that is alone with its cache.
-/
import Readout.Proofs.Session.Cache
import Readout.Session.Sharing

namespace Readout.Session

namespace Sharing

variable {capacity : Nat} {s : Sharing} {a : Access} {as : List Access}

/-! ## One access -/

theorem run_concat (capacity : Nat) (s : Sharing) (as : List Access) (a : Access) :
    run capacity s (as ++ [a]) = (run capacity s as).step capacity a := by
  rw [run, List.foldl_append]
  rfl

/-- Only invalidating the cache starts a new generation. -/
theorem generation_step (capacity : Nat) (s : Sharing) (a : Access) :
    (s.step capacity a).cache.generation = s.cache.generation + [a].count .invalidate := by
  cases a with
  | lookUp p =>
    simp only [step]
    split
    · exact Cache.touch_generation p
    · rfl
  | handIn i t =>
    simp only [step]
    split
    · exact Cache.insert_generation ..
    · rfl
  | invalidate => rfl

/-- A miss is added by looking for a template that is not there, and none is taken away. -/
theorem misses_step (capacity : Nat) (s : Sharing) (a : Access) :
    (s.step capacity a).misses = s.misses ∨
      ∃ p, a = .lookUp p ∧ s.cache.get? p = none ∧
        (s.step capacity a).misses = s.misses ++ [⟨p, s.cache.generation⟩] := by
  cases a with
  | lookUp p =>
    simp only [step]
    split
    · exact .inl rfl
    · rename_i hmiss
      exact .inr ⟨p, rfl, hmiss, rfl⟩
  | handIn i t =>
    simp only [step]
    split <;> exact .inl rfl
  | invalidate => exact .inl rfl

/-- **What an access can do to the templates that are kept**: one that is kept was kept before, and the cache has not
    been invalidated, or it was handed in by a parse that remembers the present generation. -/
theorem mem_entries_step {e : Path × Template} (h : e ∈ (s.step capacity a).cache.entries) :
    (a ≠ .invalidate ∧ e ∈ s.cache.entries) ∨
      ∃ i, a = .handIn i e.2 ∧ s.misses[i]? = some ⟨e.1, s.cache.generation⟩ := by
  cases a with
  | lookUp p =>
    refine .inl ⟨nofun, ?_⟩
    simp only [step] at h
    split at h
    · exact Cache.mem_entries_touch h
    · exact h
  | handIn i t =>
    simp only [step] at h
    split at h
    · rename_i m hm
      rcases Cache.mem_entries_insert h with h | ⟨hgeneration, rfl⟩
      · exact .inl ⟨nofun, h⟩
      · rw [hgeneration]
        exact .inr ⟨i, rfl, hm⟩
    · exact .inl ⟨nofun, h⟩
  | invalidate => cases h

/-! ## Misses -/

/-- The generation counts how often the cache has been invalidated. -/
theorem generation_run (capacity : Nat) (s : Sharing) (as : List Access) :
    (run capacity s as).cache.generation = s.cache.generation + as.count .invalidate := by
  induction as using List.reverseRecOn with
  | nil => rfl
  | append_singleton as a ih => rw [run_concat, generation_step, ih, List.count_append, Nat.add_assoc]

/-- Does the next look-up of a path miss, behind some accesses, and is it miss `i`? -/
def MissesAt (capacity : Nat) (as : List Access) (i : Nat) (p : Path) : Prop :=
  (run capacity {} as).misses.length = i ∧ (run capacity {} as).cache.get? p = none

/-- Misses stay as they are. -/
theorem misses_run_append (capacity : Nat) (as bs : List Access) :
    (run capacity {} as).misses <+: (run capacity {} (as ++ bs)).misses := by
  induction bs using List.reverseRecOn with
  | nil => rw [List.append_nil]
  | append_singleton bs b ih =>
    rw [← List.append_assoc, run_concat]
    rcases misses_step capacity (run capacity {} (as ++ bs)) b with h | ⟨p, -, -, h⟩
    · rw [h]
      exact ih
    · rw [h]
      exact ih.trans (List.prefix_append _ _)

/-- **A look-up that misses is remembered**, with the generation of that time. -/
theorem MissesAt.getElem? {i : Nat} {p : Path} (h : MissesAt capacity as i p) (bs : List Access) :
    (run capacity {} (as ++ .lookUp p :: bs)).misses[i]? = some ⟨p, (run capacity {} as).cache.generation⟩ := by
  obtain ⟨rfl, hmiss⟩ := h
  have hstep : (run capacity {} (as ++ [.lookUp p])).misses =
      (run capacity {} as).misses ++ [⟨p, (run capacity {} as).cache.generation⟩] := by
    rw [run_concat]
    simp only [step, hmiss]
  have hprefix := misses_run_append capacity (as ++ [.lookUp p]) bs
  rw [hstep, List.append_assoc, List.singleton_append] at hprefix
  obtain ⟨u, hu⟩ := hprefix
  rw [← hu, List.append_assoc, List.getElem?_append_right (Nat.le_refl _), Nat.sub_self]
  rfl

/-- **Every miss is that of some look-up.** -/
theorem exists_missesAt {i : Nat} {m : Miss} (h : (run capacity {} as).misses[i]? = some m) :
    ∃ bs cs, as = bs ++ .lookUp m.path :: cs ∧ MissesAt capacity bs i m.path ∧
      m.generation = (run capacity {} bs).cache.generation := by
  induction as using List.reverseRecOn with
  | nil => cases h
  | append_singleton as a ih =>
    rw [run_concat] at h
    -- the miss is an old one, or that of the last access
    have hold : (run capacity {} as).misses[i]? = some m → ∃ bs cs, as ++ [a] = bs ++ .lookUp m.path :: cs ∧
        MissesAt capacity bs i m.path ∧ m.generation = (run capacity {} bs).cache.generation := by
      intro h
      obtain ⟨bs, cs, rfl, hmiss, hgeneration⟩ := ih h
      exact ⟨bs, cs ++ [a], by simp, hmiss, hgeneration⟩
    rcases misses_step capacity (run capacity {} as) a with hsame | ⟨p, rfl, hmiss, hnew⟩
    · exact hold (hsame ▸ h)
    · rw [hnew] at h
      rcases Nat.lt_or_ge i (run capacity {} as).misses.length with hi | hi
      · rw [List.getElem?_append_left hi] at h
        exact hold h
      · rw [List.getElem?_append_right hi, List.getElem?_singleton] at h
        split at h
        · rename_i hzero
          cases h
          exact ⟨as, [], rfl, ⟨by omega, hmiss⟩, rfl⟩
        · cases h

/-! ## Templates -/

/-- Behind the accesses, was the template looked for and handed in since the cache was invalidated for the last time? -/
def Fresh (capacity : Nat) (as : List Access) (e : Path × Template) : Prop :=
  ∃ i bs cs ds, as = bs ++ .lookUp e.1 :: (cs ++ .handIn i e.2 :: ds) ∧ MissesAt capacity bs i e.1 ∧
    .invalidate ∉ cs ∧ .invalidate ∉ ds

theorem Fresh.concat {e : Path × Template} (h : Fresh capacity as e) (ha : a ≠ .invalidate) :
    Fresh capacity (as ++ [a]) e := by
  obtain ⟨i, bs, cs, ds, rfl, hmiss, hcs, hds⟩ := h
  refine ⟨i, bs, cs, ds ++ [a], by simp, hmiss, hcs, ?_⟩
  rw [List.mem_append, List.mem_singleton]
  exact not_or.2 ⟨hds, fun heq => ha heq.symm⟩

/-- The cache has been invalidated since a look-up if and only if the generation is another one. -/
theorem generation_lookUp_eq_iff (capacity : Nat) (bs cs : List Access) (p : Path) :
    (run capacity {} (bs ++ .lookUp p :: cs)).cache.generation = (run capacity {} bs).cache.generation ↔
      .invalidate ∉ cs := by
  have hlookUp : Access.lookUp p ≠ .invalidate := nofun
  rw [generation_run, generation_run, List.count_append, List.count_cons_of_ne hlookUp, ← List.count_eq_zero]
  omega

/-- **Every template that is kept is fresh.** -/
theorem fresh_of_mem_run {e : Path × Template} (h : e ∈ (run capacity {} as).cache.entries) : Fresh capacity as e := by
  induction as using List.reverseRecOn with
  | nil => cases h
  | append_singleton as a ih =>
    rw [run_concat] at h
    rcases mem_entries_step h with ⟨ha, h⟩ | ⟨i, rfl, hmiss⟩
    · exact (ih h).concat ha
    · obtain ⟨bs, cs, has, hbs, hgeneration⟩ := exists_missesAt hmiss
      have hcs : .invalidate ∉ cs := by
        rw [← generation_lookUp_eq_iff capacity bs cs e.1, ← has]
        exact hgeneration
      refine ⟨i, bs, cs, [], ?_, hbs, hcs, List.not_mem_nil⟩
      rw [has, List.append_assoc, List.cons_append]

/-- **Shared caches keep no old templates.**  Whatever parses look for and hand in, in whatever order, and however often
    the cache is invalidated in between: every template that is kept was looked for and handed in since the cache was
    invalidated for the last time.  A template that is handed in after the cache was invalidated changes nothing, if it
    was looked for before; and if not, it is taken in. -/
theorem run_fresh (capacity : Nat) (as : List Access) :
    (∀ e ∈ (run capacity {} as).cache.entries, Fresh capacity as e) ∧
      ∀ (bs cs : List Access) (p : Path) (i : Nat) (t : Template), as = bs ++ .lookUp p :: cs → MissesAt capacity bs i p →
        (.invalidate ∈ cs → run capacity {} (as ++ [.handIn i t]) = run capacity {} as) ∧
          (.invalidate ∉ cs → 0 < capacity → (run capacity {} (as ++ [.handIn i t])).cache.get? p = some t) := by
  refine ⟨fun e he => fresh_of_mem_run he, ?_⟩
  rintro bs cs p i t rfl hmiss
  have hgeneration := generation_lookUp_eq_iff capacity bs cs p
  rw [run_concat, step, hmiss.getElem?]
  constructor
  · intro hcs
    simp only
    rw [Cache.insert_of_ne fun heq => hgeneration.1 heq hcs]
  · intro hcs hcapacity
    simp only
    exact Cache.get?_insert hcapacity (hgeneration.2 hcs) p t

/-- Two parses miss the same template, the first one before the cache is invalidated, and the second one after that. -/
def twoMisses (p : Path) : List Access := [.lookUp p, .invalidate, .lookUp p]

/-- The template of the first parse is not taken in, that of the second one is. -/
theorem run_fresh_twoMisses :
    let p := "x.textfsm".toList
    let t : Template := ⟨[], []⟩
    (MissesAt 1 [] 0 p ∧ run 1 {} (twoMisses p ++ [.handIn 0 t]) = run 1 {} (twoMisses p)) ∧
      (MissesAt 1 [.lookUp p, .invalidate] 1 p ∧ (run 1 {} (twoMisses p ++ [.handIn 1 t])).cache.get? p = some t) ∧
      (p, t) ∈ (run 1 {} (twoMisses p ++ [.handIn 1 t])).cache.entries ∧
      Fresh 1 (twoMisses p ++ [.handIn 1 t]) (p, t) := by
  intro p t
  have hfirst : MissesAt 1 [] 0 p := ⟨rfl, rfl⟩
  have hsecond : MissesAt 1 [.lookUp p, .invalidate] 1 p := ⟨rfl, rfl⟩
  have hkept : (p, t) ∈ (run 1 {} (twoMisses p ++ [.handIn 1 t])).cache.entries := by decide
  have hstale := (run_fresh 1 (twoMisses p)).2 [] [.invalidate, .lookUp p] p 0 t rfl hfirst
  have htaken := (run_fresh 1 (twoMisses p)).2 [.lookUp p, .invalidate] [] p 1 t rfl hsecond
  exact ⟨⟨hfirst, hstale.1 List.mem_cons_self⟩, ⟨hsecond, htaken.2 List.not_mem_nil Nat.one_pos⟩, hkept,
    (run_fresh 1 _).1 (p, t) hkept⟩

end Sharing

/-! ## Sessions -/

/-- **A session that is alone with its cache** looks for a template, and hands it in if it has not found and could read
    it. -/
theorem template_cache_eq_run {s : Session} (h : s.config.cacheSize ≠ 0) (files : FileTree) (p : Path) :
    ∃ as : List Access, (as = [.lookUp p] ∨ ∃ t, readTemplate files p = .ok t ∧ as = [.lookUp p, .handIn 0 t]) ∧
      (s.template files p).1.cache = (Sharing.run s.config.cacheSize ⟨s.cache, []⟩ as).cache := by
  rw [template, if_neg h]
  rcases hfound : s.cache.get? p with _ | t
  · rcases ht : readTemplate files p with e | t
    · refine ⟨[.lookUp p], .inl rfl, ?_⟩
      simp [Sharing.run, Sharing.step, hfound]
    · refine ⟨[.lookUp p, .handIn 0 t], .inr ⟨t, rfl, rfl⟩, ?_⟩
      simp [Sharing.run, Sharing.step, hfound]
  · refine ⟨[.lookUp p], .inl rfl, ?_⟩
    simp [Sharing.run, Sharing.step, hfound]

end Readout.Session
