import Flowline.Rehearsal
import Flowline.Runner

/-!
# Rehearsing the runner

The runner at work on a stage, with files that are held in memory and
identifiers that are issued in ascending order.
-/

namespace Flowline.Rehearsal

/-- The identifier with a number; later ones are larger. -/
def ulidNumbered (number : Nat) : Ulid :=
  .ofParts (BitVec.ofNat 48 (0x19A3D5E2D00 + number))
    (BitVec.ofNat 80 (0xC0FFEE00000000000000 + number))

/-- A stage with files beside it. -/
structure Office where
  stage : Stage
  files : Keyed String
  /-- How many identifiers were issued. -/
  issued : Nat := 0

namespace Office

/-- The answers to the runner. -/
def answer : (request : Runner.Request) → Office → Runner.Reply request × Office
  | .engine request, office =>
      let (reply, stage) := Stage.answer request office.stage
      (reply, { office with stage })
  | .read path, office =>
      match Keyed.get? path office.files with
      | some text => (.ok text, office)
      | none => (.error "No such file or directory (os error 2)", office)
  | .freshId, office =>
      let issued := office.issued + 1
      (ulidNumbered issued, { office with issued })

/-- Carry out a command. -/
def run {α : Type} (action : Runner.Action α) (office : Office) : α × Office :=
  Program.run answer action office

end Office

end Flowline.Rehearsal
