/-!
# Octets as letters

Three octets are written as four of sixty-four signs. An end of one or two octets is filled up with equals signs.
-/

namespace ControlPlane.Text.Base64

/-- The signs, in their order. -/
def signs : List Char :=
  "ABCDEFGHIJKLMNOPQRSTUVWXYZabcdefghijklmnopqrstuvwxyz0123456789+/".toList

/-- The sign for the last six bits of a number. -/
def sign (n : Nat) : Char := signs.getD (n % 64) '='

/-- Octets as signs. -/
def encode : List UInt8 → List Char
  | [] => []
  | [a] =>
    let n := a.toNat * 16
    [sign (n / 64), sign n, '=', '=']
  | [a, b] =>
    let n := (a.toNat * 256 + b.toNat) * 4
    [sign (n / 64 / 64), sign (n / 64), sign n, '=']
  | a :: b :: c :: rest =>
    let n := (a.toNat * 256 + b.toNat) * 256 + c.toNat
    sign (n / 64 / 64 / 64) :: sign (n / 64 / 64) :: sign (n / 64) :: sign n :: encode rest

end ControlPlane.Text.Base64
