import MultiarchTuning.Api.Meta

/-!
# How the API server keeps an object that has finalizers

A delete request on an object without finalizers removes it; on an object with finalizers it only sets the deletion
timestamp, and the object stays until an update leaves it without finalizers, when the API server removes it. So a
stored object that is being deleted has a finalizer, which `Stored` carries as a field. An update cannot set or clear
the deletion timestamp, so once an object is being deleted it stays so until it is gone (`isDeleting_of_delete`,
`isDeleting_of_updateFinalizers`).

The finalizer helpers are those of controller-runtime's `controllerutil` (`AddFinalizer`, `RemoveFinalizer`,
`ContainsFinalizer`), which change the metadata in place and say whether they changed it; the operator sends an
`Update` only when they did.
-/

namespace MultiarchTuning

namespace ObjectMeta

/-- `!m.DeletionTimestamp.IsZero()`. -/
def isDeleting (m : ObjectMeta) : Bool := m.deletionTimestamp.isSome

/-- `controllerutil.ContainsFinalizer`. -/
def containsFinalizer (m : ObjectMeta) (f : String) : Bool := m.finalizers.contains f

/-- `controllerutil.AddFinalizer`: `f` appended unless it is there, and whether the finalizers changed. -/
def addFinalizer (m : ObjectMeta) (f : String) : ObjectMeta × Bool :=
  if m.finalizers.contains f then (m, false) else ({ m with finalizers := m.finalizers ++ [f] }, true)

/-- `controllerutil.RemoveFinalizer`: every occurrence of `f` dropped, and whether the finalizers changed. -/
def removeFinalizer (m : ObjectMeta) (f : String) : ObjectMeta × Bool :=
  let kept := m.finalizers.filter (· != f)
  ({ m with finalizers := kept }, kept.length != m.finalizers.length)

theorem finalizers_addFinalizer_ne_nil (m : ObjectMeta) (f : String) : (m.addFinalizer f).1.finalizers ≠ [] := by
  unfold addFinalizer
  split
  · rename_i h
    intro hnil
    rw [hnil] at h
    cases h
  · simp

end ObjectMeta

/-- An object as the API server stores it: one being deleted is kept by a finalizer. -/
structure Stored where
  metadata : ObjectMeta
  kept : metadata.isDeleting = true → metadata.finalizers ≠ []

namespace Stored

/-- A created object: no deletion timestamp. -/
def created (m : ObjectMeta) (h : m.isDeleting = false) : Stored :=
  ⟨m, fun hd => absurd (h.symm.trans hd) Bool.false_ne_true⟩

/-- A delete request at time `now`: the object goes when it has no finalizer; otherwise it keeps the first deletion
timestamp it got. -/
def delete (o : Stored) (now : String) : Option Stored :=
  if h : o.metadata.finalizers = [] then none
  else some ⟨{ o.metadata with deletionTimestamp := some (o.metadata.deletionTimestamp.getD now) }, fun _ => h⟩

/-- An update that writes the finalizers `fs`: the API server removes an object being deleted that it leaves without
finalizers. -/
def updateFinalizers (o : Stored) (fs : List String) : Option Stored :=
  if h : o.metadata.isDeleting = true ∧ fs = [] then none
  else some ⟨{ o.metadata with finalizers := fs }, fun hd hf => h ⟨hd, hf⟩⟩

/-- `controllerutil.RemoveFinalizer` and, when it changed the finalizers, the `Update`. -/
def removeFinalizer (o : Stored) (f : String) : Option Stored :=
  if (o.metadata.removeFinalizer f).2 then o.updateFinalizers (o.metadata.removeFinalizer f).1.finalizers else some o

/-- `controllerutil.AddFinalizer` and, when it changed the finalizers, the `Update`, which never removes the object. -/
def addFinalizer (o : Stored) (f : String) : Stored :=
  ⟨(o.metadata.addFinalizer f).1, fun _ => ObjectMeta.finalizers_addFinalizer_ne_nil o.metadata f⟩

theorem isDeleting_of_delete {o o' : Stored} {now : String} (h : o.delete now = some o') :
    o'.metadata.isDeleting = true := by
  unfold delete at h
  split at h
  · cases h
  · cases h
    rfl

theorem finalizers_of_delete {o o' : Stored} {now : String} (h : o.delete now = some o') :
    o'.metadata.finalizers = o.metadata.finalizers := by
  unfold delete at h
  split at h
  · cases h
  · cases h
    rfl

/-- An object with a finalizer survives a delete request. -/
theorem isSome_delete {o : Stored} (h : o.metadata.finalizers ≠ []) (now : String) : (o.delete now).isSome := by
  simp [delete, h]

/-- A delete request leaves an object that has the finalizer `f` in place, being deleted and still with `f`. -/
theorem delete_of_containsFinalizer {o : Stored} {f : String} (h : o.metadata.containsFinalizer f = true)
    (now : String) : ∃ o', o.delete now = some o' ∧ o'.metadata.isDeleting = true ∧
      o'.metadata.containsFinalizer f = true := by
  have hne : o.metadata.finalizers ≠ [] := List.ne_nil_of_mem (List.contains_iff_mem.mp h)
  obtain ⟨o', ho'⟩ := Option.isSome_iff_exists.mp (isSome_delete hne now)
  refine ⟨o', ho', isDeleting_of_delete ho', ?_⟩
  rw [ObjectMeta.containsFinalizer, finalizers_of_delete ho']
  exact h

theorem isDeleting_of_updateFinalizers {o o' : Stored} {fs : List String} (h : o.updateFinalizers fs = some o') :
    o'.metadata.isDeleting = o.metadata.isDeleting := by
  unfold updateFinalizers at h
  split at h
  · cases h
  · cases h
    rfl

theorem isDeleting_of_removeFinalizer {o o' : Stored} {f : String} (h : o.removeFinalizer f = some o') :
    o'.metadata.isDeleting = o.metadata.isDeleting := by
  unfold removeFinalizer at h
  split at h
  · exact isDeleting_of_updateFinalizers h
  · cases h
    rfl

end Stored

end MultiarchTuning
