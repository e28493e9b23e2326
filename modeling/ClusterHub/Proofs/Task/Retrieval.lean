import ClusterHub.Proofs.Fault
import ClusterHub.Proofs.Task.Listing
import Mathlib

/-!
# Results of tasks

The results that are told of some tasks come as two lists of identities, a map of
summaries, and the results themselves, which go with the identities of the completed
tasks by their positions only.
-/

namespace ClusterHub.Ledger

variable {l : Ledger} {id : String} {ids : List String} {statusOnly : Bool}
  {record : TaskRecord} {records : List TaskRecord} {results : Results} {fault : Fault}

end ClusterHub.Ledger
