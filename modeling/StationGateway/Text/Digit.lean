/-!
# Digits

The digits of a radix up to sixteen, with letters of either case, and the numbers they write.
-/

namespace StationGateway.Text

/-- The value of a digit. -/
def digit? (radix : Nat) (c : Char) : Option Nat :=
  let value? :=
    if '0' ≤ c ∧ c ≤ '9' then some (c.toNat - '0'.toNat)
    else if 'a' ≤ c ∧ c ≤ 'f' then some (c.toNat - 'a'.toNat + 10)
    else if 'A' ≤ c ∧ c ≤ 'F' then some (c.toNat - 'A'.toNat + 10)
    else none
  value?.filter (· < radix)

/-- The values of the digits at the front of a text, and what follows them. -/
def digits (radix : Nat) : List Char → List Nat × List Char
  | [] => ([], [])
  | c :: cs =>
    match digit? radix c with
    | some d => (digits radix cs).map (d :: ·) id
    | none => ([], c :: cs)

/-- The number that digits write. -/
def ofDigits (radix : Nat) (ds : List Nat) : Nat :=
  ds.foldl (fun n d => n * radix + d) 0

end StationGateway.Text
