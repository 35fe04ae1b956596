import ClusterAdmin.Failure
import ClusterAdmin.Text.Basic

namespace ClusterAdmin.Wire.Address

/-- A number below 2¹⁶ in decimal digits, a plus sign allowed before them. -/
def port? (t : List Char) : Option Nat :=
  let digits := match t with
    | '+' :: r => r
    | _ => t
  if digits.isEmpty || !digits.all Char.isDigit then none
  else
    let n := digits.foldl (fun n c => 10 * n + (c.toNat - 48)) 0
    if n < 65536 then some n else none

/-- What follows the last colon. -/
def portText? (address : List Char) : Option (List Char) :=
  match Text.pieces ':' address with
  | [] | [_] => none
  | _ :: rest => rest.getLast?

/-- Why an address is none. A host with a NUL in it cannot be looked up. -/
def fault? (address : String) : Option Failure.IoError :=
  match portText? address.toList with
  | none => some ⟨.invalidInput, "invalid socket address"⟩
  | some text =>
    if (port? text).isNone then some ⟨.invalidInput, "invalid port value"⟩
    else if address.toList.contains '\x00' then
      some ⟨.invalidInput, "file name contained an unexpected NUL byte"⟩
    else none

end ClusterAdmin.Wire.Address
