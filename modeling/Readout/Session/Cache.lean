/-
  A cache of templates, which keeps the ones that were used last.  Invalidating it starts a new generation;
  a template that was read under an older one is not taken in.

  * `Cache.get?` looks a template up, `Cache.insert` takes one in, `Cache.invalidate` drops all of them.
-/
import Readout.Path
import Readout.Template.Basic

namespace Readout.Session

/-- Templates by their paths, the one used last in front. -/
structure Cache where
  generation : Nat := 0
  entries : List (Path × Template) := []
  deriving DecidableEq

namespace Cache

/-- Do two paths name the same place? -/
def samePlace (p q : Path) : Bool := Path.key p == Path.key q

/-- The entries other than that of `p`. -/
def others (c : Cache) (p : Path) : List (Path × Template) := c.entries.filter fun e => !samePlace p e.1

/-- The template of a path. -/
def get? (c : Cache) (p : Path) : Option Template := (c.entries.find? fun e => samePlace p e.1).map (·.2)

/-- The cache after the template of a path has been used. -/
def touch (c : Cache) (p : Path) : Cache :=
  match c.entries.find? fun e => samePlace p e.1 with
  | some e => { c with entries := e :: c.others p }
  | none => c

/-- Takes in a template that was read under a generation, and drops what exceeds the capacity. -/
def insert (c : Cache) (capacity generation : Nat) (p : Path) (t : Template) : Cache :=
  if c.generation = generation then { c with entries := ((p, t) :: c.others p).take capacity } else c

/-- Drops all templates. -/
def invalidate (c : Cache) : Cache := { generation := c.generation + 1, entries := [] }

end Cache

end Readout.Session
