/-!
# Gates

A gate lets through as many as it has permits, in the order in which they came. A permit that is used is
gone. Whoever gives up waiting leaves the permit to the next one.
-/

namespace BoxOffice

/-- A gate and those who wait at it. -/
structure Gate (κ : Type) where
  /-- How many may pass. -/
  permits : Nat
  /-- Who waits, the first one first. -/
  waiting : List κ
  deriving DecidableEq, Repr

namespace Gate

variable {κ : Type} [DecidableEq κ]

/-- A gate without permits. -/
def shut : Gate κ := ⟨0, []⟩

/-- Adds permits. -/
def release (g : Gate κ) (n : Nat) : Gate κ := { g with permits := g.permits + n }

/-- Whether somebody who waits, or comes now, may pass. -/
def admits (g : Gate κ) (k : κ) : Bool := g.waiting.idxOf k < g.permits

/-- Lets somebody through. -/
def pass (g : Gate κ) (k : κ) : Gate κ := ⟨g.permits - 1, g.waiting.erase k⟩

/-- Lets somebody wait, who does not wait yet. -/
def enter (g : Gate κ) (k : κ) : Gate κ :=
  if k ∈ g.waiting then g else { g with waiting := g.waiting ++ [k] }

/-- Sends somebody away who waited. -/
def leave (g : Gate κ) (k : κ) : Gate κ := { g with waiting := g.waiting.erase k }

end Gate

end BoxOffice
