/-
  Parses that share a cache.  A parse looks for its template.  If the cache does not have it, the parse remembers the
  generation, reads the template on its own, and hands it in later; in between, other parses look and hand in, and the
  cache is invalidated.

  * `Access` is one access to the cache, `Miss` is what a parse remembers of an access that found nothing;
  * `Sharing` is a cache with the misses so far, `Sharing.step` does one access, and `Sharing.run` several in a row.
-/
import Readout.Session.Cache

namespace Readout.Session

/-- What a parse remembers that has not found its template. -/
structure Miss where
  path : Path
  /-- the generation of the cache at that time -/
  generation : Nat
  deriving DecidableEq, Repr

/-- One access to the cache. -/
inductive Access where
  /-- a parse looks for the template of a path -/
  | lookUp (path : Path)
  /-- the parse of miss `i` hands in the template that it has read -/
  | handIn (i : Nat) (t : Template)
  | invalidate
  deriving DecidableEq

/-- A cache, and the misses so far, the oldest one first. -/
structure Sharing where
  cache : Cache := {}
  misses : List Miss := []
  deriving DecidableEq

namespace Sharing

/-- Does one access to a cache of some capacity. -/
def step (capacity : Nat) (s : Sharing) : Access → Sharing
  | .lookUp path =>
    match s.cache.get? path with
    | some _ => { s with cache := s.cache.touch path }
    | none => { s with misses := s.misses ++ [⟨path, s.cache.generation⟩] }
  | .handIn i t =>
    match s.misses[i]? with
    | some m => { s with cache := s.cache.insert capacity m.generation m.path t }
    | none => s
  | .invalidate => { s with cache := s.cache.invalidate }

/-- Does accesses in a row. -/
def run (capacity : Nat) (s : Sharing) (as : List Access) : Sharing := as.foldl (step capacity) s

end Sharing

end Readout.Session
