/-
The registry of flows: one flow for each id. A tenant's active flows are always listed in the
order of their ids, so that nothing depends on when they were registered.
-/
import Dialogue.Flow.Basic
import Dialogue.Table

namespace Dialogue

/-- Flows by id. -/
structure Registry where
  flows : Table Flow := []
  /-- Every flow stands under its own id. -/
  keyed : ∀ p ∈ flows, p.1 = p.2.id := by exact fun _ h => absurd h List.not_mem_nil
  /-- No id occurs twice. -/
  distinct : flows.keys.Nodup := by exact List.nodup_nil
deriving DecidableEq, Repr

namespace Registry

/-- The registry without flows. -/
def empty : Registry := {}

/-- Adds a flow, in place of an earlier one with its id. -/
def register (r : Registry) (f : Flow) : Registry where
  flows := r.flows.insert f.id f
  keyed p hp := (Table.mem_insert hp).elim (fun h => h ▸ rfl) (r.keyed p)
  distinct := Table.nodup_keys_insert r.distinct f.id f

/-- Removes the flow with that id. -/
def remove (r : Registry) (id : String) : Registry where
  flows := r.flows.erase id
  keyed p hp := r.keyed p ((List.mem_filter.1 hp).1)
  distinct := Table.nodup_keys_erase r.distinct id

/-- Removes all flows. -/
def clear (_ : Registry) : Registry :=
  empty

/-- The flow with that id. -/
def flow? (r : Registry) (id : String) : Option Flow :=
  r.flows.get? id

/-- The number of flows. -/
def size (r : Registry) : Nat :=
  r.flows.length

/-- Whether there are no flows. -/
def isEmpty (r : Registry) : Bool :=
  r.flows.isEmpty

/-- The active flows of a tenant in the order of their ids. -/
def activeFlows (r : Registry) (tenantId : String) : List Flow :=
  (r.flows.values.filter fun f => f.isActive && f.tenantId == tenantId).mergeSort
    fun a b => decide (a.id ≤ b.id)

/-- The tenants that have a flow, in order and each once. -/
def tenants (r : Registry) : List String :=
  ((r.flows.values.map (·.tenantId)).eraseDups).mergeSort fun a b => decide (a ≤ b)

end Registry

end Dialogue
