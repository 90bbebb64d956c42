import Mathlib.Data.Nat.Notation

/-! Result codes shared by every module of the library. -/
namespace WhadLib

/-- `whad_result_t`. -/
inductive WhadResult
  | success
  | error
  | none
  | ringbufEmpty
  | ringbufFull
  deriving DecidableEq, Repr

end WhadLib
