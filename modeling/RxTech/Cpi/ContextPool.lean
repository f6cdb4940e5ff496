import RxTech.Cpi.Context
import Mathlib.Data.List.FinRange

/-!
# The context pool

`CpiContextPool`: sixteen contexts and their `in_use_` flags.
-/

set_option autoImplicit false

namespace RxTech

structure CpiContextPool where
  contexts : PoolIndex → CpiContext
  inUse : PoolIndex → Bool

/-- A context no window owns: reset, and marked recycled. -/
def CpiContext.recycled (index : PoolIndex) : CpiContext :=
  { CpiContext.reset 0 (some index) 0 with
    header.cpiId := 0
    header.poolIndex := some index
    header.state := .recycled }

def CpiContextPool.fresh : CpiContextPool where
  contexts := CpiContext.recycled
  inUse := fun _ => false

/-- `acquire`: the first free index, marked in use and reset. -/
def CpiContextPool.acquire (pool : CpiContextPool) (cpiId : UInt16) (birth : Nat) :
    Option (PoolIndex × CpiContextPool) :=
  ((List.finRange kCpiContextPoolDepth).find? fun index => !pool.inUse index).map fun index =>
    (index,
      { contexts :=
          Function.update pool.contexts index (CpiContext.reset cpiId (some index) birth)
        inUse := Function.update pool.inUse index true })

/-- `release`; an index outside the pool is ignored. -/
def CpiContextPool.release (pool : CpiContextPool) : Option PoolIndex → CpiContextPool
  | none => pool
  | some index =>
      { contexts := Function.update pool.contexts index (CpiContext.recycled index)
        inUse := Function.update pool.inUse index false }

/-- Write through a pointer that `get(index)` returned. -/
def CpiContextPool.set (pool : CpiContextPool) (index : PoolIndex) (ctx : CpiContext) :
    CpiContextPool :=
  { pool with contexts := Function.update pool.contexts index ctx }

theorem CpiContextPool.acquire_eq_none_iff {pool : CpiContextPool} {cpiId : UInt16} {birth : Nat} :
    pool.acquire cpiId birth = none ↔ ∀ index, pool.inUse index = true := by
  simp [CpiContextPool.acquire, List.find?_eq_none]

theorem CpiContextPool.acquire_eq_some {pool next : CpiContextPool} {cpiId : UInt16} {birth : Nat}
    {index : PoolIndex} (acquired : pool.acquire cpiId birth = some (index, next)) :
    pool.inUse index = false ∧
      next.contexts =
        Function.update pool.contexts index (CpiContext.reset cpiId (some index) birth) ∧
      next.inUse = Function.update pool.inUse index true := by
  simp only [CpiContextPool.acquire, Option.map_eq_some_iff, Prod.mk.injEq] at acquired
  obtain ⟨found, search, rfl, rfl⟩ := acquired
  exact ⟨by simpa using List.find?_some search, rfl, rfl⟩

end RxTech
