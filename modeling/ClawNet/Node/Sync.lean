import Mathlib.Algebra.Order.Floor
import Mathlib.Data.Rat.Floor
import Mathlib.Data.Nat.Find
import ClawNet.Http.Client

namespace ClawNet.Node

open ClawNet.Http ClawNet.Py

section Loop

variable (env : SyncEnv) (sleeper : Sleeper) (interval : Double) (timeout : PyFloat)

end Loop

section Spec

variable (env : SyncEnv) (interval : Double) (timeout : PyFloat)

end Spec

section Run

variable {env : SyncEnv} {sleeper : Sleeper} {interval : Double} {timeout : PyFloat}

end Run

end ClawNet.Node
