import AsynDriver.Manager.Types

/-!
# `asynOctet`

What an interposed layer sees of the driver below it: the results of its `read` and the bits of an
`eomReason`.
-/

namespace AsynDriver
namespace Miscellaneous

open Manager (AsynStatus)

/-- The bits `ASYN_EOM_CNT`, `ASYN_EOM_EOS` and `ASYN_EOM_END` of an `eomReason`. -/
structure EomReason where
  cnt : Bool
  eos : Bool
  endOfMessage : Bool
  deriving DecidableEq

/-- `eom = 0`. -/
def EomReason.zero : EomReason := ⟨false, false, false⟩

/-- `eom != 0`. -/
def EomReason.any (eom : EomReason) : Bool := eom.cnt || eom.eos || eom.endOfMessage

/-- What one call of the lower driver's `read` returns; `bytes` are the first `*nbytesTransferred`
bytes of the buffer. -/
structure LowerRead where
  status : AsynStatus
  bytes : List UInt8
  eom : EomReason
  deriving DecidableEq

/-- The values of a `size_t`. -/
def sizeRange : Nat := 2 ^ 64

end Miscellaneous
end AsynDriver
