import AsynDriver.DevEpics.DevPvt
import AsynDriver.Library.Memory

/-!
# Ring elements with memory of their own

`ringBufferElement` of `devAsynXXXArray` and of `devAsynOctet`: a slot of the ring keeps its memory, of
which a callback overwrites the beginning, and `result` is an element that points to the memory of a
slot.

* `ArrayElement` — the element, over the memory or a pointer to it.
* `ArrayElement.element` — what a slot holds, without what is behind it.
-/

namespace AsynDriver
namespace DevEpics

open Manager (AsynStatus)

variable {α : Type} {size : Nat}

/-- `ringBufferElement`; `pValue` is memory for `size` elements, or a pointer to it. -/
structure ArrayElement (π : Type) (size : Nat) where
  pValue : π
  len : Nat
  time : Nat
  status : AsynStatus
  alarmStatus : Nat
  alarmSeverity : Nat
  len_le : len ≤ size

/-- A slot of the ring. -/
abbrev Slot (α : Type) (size : Nat) : Type := ArrayElement (Fin size → α) size

namespace ArrayElement

/-- Memory from `calloc`, with `zero` for the elements. -/
def empty (zero : α) (size : Nat) : Slot α size :=
  ⟨fun _ => zero, 0, 0, .asynSuccess, 0, 0, Nat.zero_le _⟩

/-- What is in a slot. -/
def element (e : Slot α size) : RingBufferElement (List α) where
  value := (List.ofFn e.pValue).take e.len
  time := e.time
  status := e.status
  alarmStatus := e.alarmStatus
  alarmSeverity := e.alarmSeverity

/-- The element of a slot, with a pointer in the place of the memory. -/
def pointTo {π : Type} (e : Slot α size) (pointer : π) : ArrayElement π size :=
  ⟨pointer, e.len, e.time, e.status, e.alarmStatus, e.alarmSeverity, e.len_le⟩

end ArrayElement
end DevEpics
end AsynDriver
