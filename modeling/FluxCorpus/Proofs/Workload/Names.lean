import FluxCorpus.Proofs.Text.Decimal
import FluxCorpus.Workload.Metric
import FluxCorpus.Workload.Tag

/-!
# Names, written out

What a query calls its hosts, its trucks, their columns and the metrics.  The texts stand here once
more, letter by letter, so that a statement about a query says which text it means.

* `TagKind.writtenColumn`, `TagKind.writtenName`, `writtenMetrics` — the texts.
* `TagKind.column_eq`, `TagKind.member_eq`, `cpuMetrics_eq` — they are the ones that are used.
* `TagKind.member_injective` — different numbers have different names.
-/

namespace FluxCorpus

/-- The column that names the hosts or trucks. -/
def TagKind.writtenColumn : TagKind → String
  | .host => "hostname"
  | .truck => "name"

/-- The name of a host or truck: its kind, an underscore, and its number in decimal. -/
def TagKind.writtenName : TagKind → Nat → String
  | .host, i => "host_" ++ toString i
  | .truck, i => "truck_" ++ toString i

/-- The ten metrics, in the order of the catalog. -/
def writtenMetrics : List String :=
  ["usage_user", "usage_system", "usage_idle", "usage_nice", "usage_iowait", "usage_irq",
    "usage_softirq", "usage_steal", "usage_guest", "usage_guest_nice"]

theorem TagKind.column_eq (kind : TagKind) : kind.column = kind.writtenColumn := by
  cases kind <;> rfl

theorem TagKind.member_eq (kind : TagKind) : kind.member = kind.writtenName := by
  funext i
  rw [member, Text.Decimal.text_eq_toString]
  cases kind <;> rfl

theorem cpuMetrics_eq : cpuMetrics = writtenMetrics := rfl

/-- Different numbers have different names. -/
theorem TagKind.member_injective (kind : TagKind) : Function.Injective kind.member := by
  intro i j h
  have htext : Text.Decimal.text i = Text.Decimal.text j := by
    have := congrArg String.toList h
    simp only [member, String.toList_append, List.append_cancel_left_eq] at this
    exact String.toList_injective this
  exact Text.Decimal.digits_injective (String.ofList_injective htext)

end FluxCorpus
