/-!
# Ports

Consecutive port numbers of 16 bits, which start again at zero after the
highest.
-/

namespace ClusterHub

/-- The next port to be given out. -/
structure PortPool where
  next : UInt16
deriving DecidableEq, Repr, Inhabited

namespace PortPool

/-- One port, and the pool without it. -/
def take (pool : PortPool) : UInt16 × PortPool :=
  (pool.next, ⟨pool.next + 1⟩)

/-- Two consecutive ports, and the pool without them. -/
def takePair (pool : PortPool) : (UInt16 × UInt16) × PortPool :=
  let (first, pool) := pool.take
  let (second, pool) := pool.take
  ((first, second), pool)

end PortPool

end ClusterHub
