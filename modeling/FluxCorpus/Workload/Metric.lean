import FluxCorpus.Fault

/-!
# CPU metrics

The fields that a host reports about its processor, in catalog order.
-/

namespace FluxCorpus

/-- The names of the metrics. -/
def cpuMetrics : List String :=
  ["usage_user", "usage_system", "usage_idle", "usage_nice", "usage_iowait", "usage_irq",
    "usage_softirq", "usage_steal", "usage_guest", "usage_guest_nice"]

/-- The first `n` metrics: at least one, and no more than there are. -/
def firstMetrics (n : Nat) : Except Fault (List String) :=
  if n = 0 then throw .noMetrics
  else if cpuMetrics.length < n then throw .tooManyMetrics
  else return cpuMetrics.take n

end FluxCorpus
