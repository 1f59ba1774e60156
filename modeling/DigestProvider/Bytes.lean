/-! Byte strings, their division into runs of one length, and writing at the front of a buffer. -/

namespace DigestProvider

/-- A byte string. -/
abbrev Bytes := List UInt8

/-- Cuts a list into runs of `size` items, of which only the last may be shorter. -/
def chunks {Item : Type} (size : Nat) (items : List Item) : List (List Item) :=
  if _ : size = 0 ∨ items = [] then []
  else items.take size :: chunks size (items.drop size)
termination_by items.length
decreasing_by
  -- A nonempty list loses at least one item to the run in front of it.
  have nonempty : 0 < items.length := List.length_pos_iff.mpr (by simp_all)
  simp only [List.length_drop]
  omega

/-- Nothing is left to cut in an empty list. -/
@[simp] theorem chunks_nil {Item : Type} (size : Nat) :
    chunks size ([] : List Item) = [] := by
  -- The guard stops at once.
  unfold chunks
  simp

/-- A list that fills its first run continues with the runs of the rest. -/
theorem chunks_append {Item : Type} {size : Nat} (positive : 0 < size)
    (run rest : List Item) (full : run.length = size) :
    chunks size (run ++ rest) = run :: chunks size rest := by
  -- The run is exactly what the first cut takes, and the rest is what it drops.
  subst full
  rw [chunks]
  have nonempty : run ≠ [] := List.ne_nil_of_length_pos positive
  simp [nonempty]

namespace Bytes

/-- Writes `written` over the front of `buffer`, which keeps its other bytes. -/
def writeFront (written buffer : Bytes) : Bytes :=
  written ++ buffer.drop written.length

/-- A buffer that has room for what is written keeps its length. -/
theorem length_writeFront (written buffer : Bytes) (room : written.length ≤ buffer.length) :
    (writeFront written buffer).length = buffer.length := by
  -- As many bytes are dropped as are put in front.
  simp only [writeFront, List.length_append, List.length_drop]
  omega

end Bytes

end DigestProvider
