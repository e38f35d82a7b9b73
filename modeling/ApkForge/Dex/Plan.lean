-- Which libraries go into which container of converted code. Libraries that start the app come
-- first; the first container takes a number of them, the second the rest.
import ApkForge.Path
import ApkForge.Sorting

namespace ApkForge

/-- How many libraries the first container takes, and which libraries start the app. -/
structure DexPolicy where
  firstCap : Nat
  startup : List String
deriving DecidableEq, Repr, Inhabited

namespace DexPolicy

/-- The place of a library among those that start the app, told by its file name. -/
def startupIndex? (policy : DexPolicy) (library : Path) : Option Nat :=
  library.name?.bind fun name => policy.startup.findIdx? fun s => s == name

/-- A library starts the app. -/
def isStartup (policy : DexPolicy) (library : Path) : Bool :=
  (policy.startupIndex? library).isSome

/-- The rank of a library. All that do not start the app share the last one. -/
def rank (policy : DexPolicy) (library : Path) : Nat :=
  (policy.startupIndex? library).getD policy.startup.length

/-- Libraries by rank. Libraries of one rank keep their order. -/
def order (policy : DexPolicy) (libraries : List Path) : List Path :=
  sortBy (fun l m => policy.rank l < policy.rank m) libraries

end DexPolicy

/-- The two attempts at converting: with as many libraries in the first container as it takes, and
with only those that start the app. -/
inductive DexAttempt where
  | full
  | conservative
deriving DecidableEq, Repr

/-- The inputs of the two containers. -/
structure DexPlan where
  primary : List Path
  secondary : List Path
deriving DecidableEq, Repr, Inhabited

namespace DexPlan

/-- There is a second container. -/
def needsSecondary (plan : DexPlan) : Bool := !plan.secondary.isEmpty

/-- How many of the ordered libraries go into the first container. -/
def inFirst (policy : DexPolicy) (ordered : List Path) : DexAttempt → Nat
  | .full => min ordered.length policy.firstCap
  | .conservative => (ordered.takeWhile policy.isStartup).length

/-- The plan for an attempt. The base is always in the first container. -/
def make (base libraries : List Path) (policy : DexPolicy) (attempt : DexAttempt) : DexPlan :=
  let ordered := policy.order libraries
  let n := inFirst policy ordered attempt
  ⟨base ++ ordered.take n, ordered.drop n⟩

end DexPlan

end ApkForge
