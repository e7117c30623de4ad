import DocPress.ErrorKind
import DocPress.Text.Quoted

/-!
# Faults of the file system

What the file system refuses, with its number, its wording and the path.

Main results:

- `DiskReason.number_ofNumber`: a reason read from a number has that number.
-/

namespace DocPress

/-- Why the file system refuses an operation. -/
inductive DiskReason where
  | notFound
  | denied
  | exists
  | notADirectory
  | isADirectory
  | nameTooLong
  | other (number : Nat) (wording : String)
deriving DecidableEq, Repr

/-- A refusal with the path it is about. -/
structure DiskFault where
  reason : DiskReason
  path : String
deriving DecidableEq, Repr

/-- The number of a reason. -/
def DiskReason.number : DiskReason → Nat
  | .notFound => 2
  | .denied => 13
  | .exists => 17
  | .notADirectory => 20
  | .isADirectory => 21
  | .nameTooLong => 36
  | .other number _ => number

/-- The wording of a reason. -/
def DiskReason.wording : DiskReason → String
  | .notFound => "No such file or directory"
  | .denied => "Permission denied"
  | .exists => "File exists"
  | .notADirectory => "Not a directory"
  | .isADirectory => "Is a directory"
  | .nameTooLong => "File name too long"
  | .other _ wording => wording

/-- The reasons that have a kind of their own or a fixed wording. -/
def DiskReason.known : List DiskReason :=
  [.notFound, .denied, .exists, .notADirectory, .isADirectory, .nameTooLong]

/-- The reason with a number; one that is not known keeps the wording given. -/
def DiskReason.ofNumber (number : Nat) (wording : String) : DiskReason :=
  (DiskReason.known.find? fun reason => reason.number == number).getD (.other number wording)

/-- A reason read from a number has that number. -/
theorem DiskReason.number_ofNumber (number : Nat) (wording : String) :
    (DiskReason.ofNumber number wording).number = number := by
  rw [ofNumber]
  cases h : DiskReason.known.find? fun reason => reason.number == number with
  | none => rfl
  | some reason => simpa using List.find?_some h

/-- The kind of error that a reason makes. -/
def DiskReason.kind : DiskReason → ErrorKind
  | .notFound => .fileNotFound
  | .denied => .permission
  | .exists => .fileExists
  | .notADirectory => .notADirectory
  | .isADirectory => .isADirectory
  | .nameTooLong => .system
  | .other _ _ => .system

/-- Number, wording and path of a refusal. -/
def DiskFault.message (fault : DiskFault) : String :=
  "[Errno " ++ toString fault.reason.number ++ "] " ++ fault.reason.wording ++ ": " ++
    Text.quotedString fault.path

end DocPress
