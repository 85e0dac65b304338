import Clackd.Hal.Driver

/-!
# System calls that fail

A hidraw node goes away while a driver holds it open, and the system call that the driver
makes next fails.  `Failure` is what such a call fails with, and whether the driver was
still waiting for it.  `Recorded` puts a record of them beside any node.

## Main results

* `Failure.StandsFor.disconnected_iff`: which failures of a node that is gone a driver
  reports as a lost device.
-/

namespace Clackd.Hal

def EPERM : Nat := 1
def ENOENT : Nat := 2
def EACCES : Nat := 13
def ENODEV : Nat := 19
def EPIPE : Nat := 32

/-- A system call that failed. -/
structure Failure where
  /-- Its `errno`, if there is one. -/
  errno : Option Nat
  /-- Whether the driver was still waiting for it. -/
  noticed : Bool
  deriving DecidableEq, Repr

/-- A node, and the system calls on it that failed. -/
structure Recorded (N : Type) where
  node : N
  failed : List Failure

/-- An error without the path that it names. -/
def DriverError.pathless : DriverError → DriverError
  | .permissionDenied _ => .permissionDenied ""
  | e => e

namespace Failure

/-- The call failed because the node is gone. -/
def Vanished (f : Failure) : Prop :=
  f.errno = some ENODEV ∨ f.errno = some ENOENT ∨ f.errno = some EPIPE

instance (f : Failure) : Decidable f.Vanished := inferInstanceAs (Decidable (_ ∨ _))

/-- What a driver makes of a failure: the class of its `errno` or, if it has given up
waiting, a timeout. -/
structure StandsFor (classify : IoError → DriverError) (f : Failure) (err : DriverError) :
    Prop where
  noticed : f.noticed = true → ∀ errno, f.errno = some errno → err = classify (.os errno)
  late : f.noticed = false → ∃ device op, err = .timeout device op

/-- With the classes of the drivers, the failure of a node that is gone is a lost device if
the driver notices it, unless it is `ENODEV`. -/
theorem StandsFor.disconnected_iff {classify : IoError → DriverError} {f : Failure}
    {err : DriverError} (h : f.StandsFor classify err) (hgone : f.Vanished)
    (hnodev : classify (.os ENODEV) = .io (.os ENODEV))
    (hnoent : classify (.os ENOENT) = .disconnected)
    (hpipe : classify (.os EPIPE) = .disconnected) :
    err = .disconnected ↔ f.noticed = true ∧ f.errno ≠ some ENODEV := by
  cases hnoticed : f.noticed with
  | false =>
      obtain ⟨device, op, rfl⟩ := h.late hnoticed
      simp
  | true =>
      rcases hgone with herrno | herrno | herrno
      · rw [h.noticed hnoticed _ herrno, hnodev, herrno]
        simp
      · rw [h.noticed hnoticed _ herrno, hnoent, herrno]
        decide
      · rw [h.noticed hnoticed _ herrno, hpipe, herrno]
        decide

end Failure

end Clackd.Hal
