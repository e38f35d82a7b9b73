-- The progress of a build as others watch it. One sender sets the value; each receiver remembers
-- the last setting it saw and is told only of later ones, and of these only the latest.

namespace ApkForge

/-- A channel: the value, the number of settings so far, and what each receiver has seen. -/
structure Progress where
  value : Nat := 10
  version : Nat := 0
  isOpen : Bool := true
  seen : List Nat := [0]
deriving DecidableEq, Repr, Inhabited

/-- What a receiver that waits for a change is told. -/
inductive Change where
  | now (value : Nat)
  | waits
  | finished
deriving DecidableEq, Repr

namespace Progress

/-- The value before anything is set. -/
def initial : Nat := 10

/-- A new channel with one receiver. -/
def fresh : Progress := { value := initial }

/-- The value set, which is at most 100. Setting the same value again counts as a change. -/
def set (p : Progress) (percent : Nat) : Progress :=
  { p with value := min percent 100, version := p.version + 1 }

/-- A new receiver, which sees only what comes after; its number. -/
def subscribe (p : Progress) : Nat × Progress :=
  (p.seen.length, { p with seen := p.seen ++ [p.version] })

/-- A new receiver that has seen what another has; its number. -/
def clone (p : Progress) (receiver : Nat) : Nat × Progress :=
  (p.seen.length, { p with seen := p.seen ++ [p.seen[receiver]?.getD p.version] })

/-- The sender is gone. -/
def close (p : Progress) : Progress := { p with isOpen := false }

/-- What a receiver is told of changes. It has then seen them. -/
def changed (p : Progress) (receiver : Nat) : Change × Progress :=
  if p.seen[receiver]?.getD p.version < p.version then
    (.now p.value, { p with seen := p.seen.set receiver p.version })
  else if p.isOpen then (.waits, p)
  else (.finished, p)

end Progress

end ApkForge
