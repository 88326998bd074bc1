import LfuCache.Text.Ascii

/-!
# Base64

Three bytes are written as four digits. If there are fewer at the end, equal signs stand in
the place of the digits that are not needed.
-/

namespace LfuCache.Text.Base64

def digits : String := "ABCDEFGHIJKLMNOPQRSTUVWXYZabcdefghijklmnopqrstuvwxyz0123456789+/"

/-- The digit of a value below 64. -/
def digit (n : Nat) : UInt8 := (bytes digits).getD n 0x3D

/-- The digits of a number of 24 bits. -/
def quad (n : Nat) : List UInt8 :=
  [digit (n / 262144), digit (n / 4096 % 64), digit (n / 64 % 64), digit (n % 64)]

def encode : List UInt8 → List UInt8
  | [] => []
  | [a] => (quad (ofDigits 256 [a.toNat, 0, 0])).take 2 ++ [0x3D, 0x3D]
  | [a, b] => (quad (ofDigits 256 [a.toNat, b.toNat, 0])).take 3 ++ [0x3D]
  | a :: b :: c :: rest => quad (ofDigits 256 [a.toNat, b.toNat, c.toNat]) ++ encode rest

end LfuCache.Text.Base64
