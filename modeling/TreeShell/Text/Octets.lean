/-
Texts as octets.

Octets may be written as two hexadecimal digits behind a percent sign.  A percent
sign without two such digits behind it stands for itself, and any other character
for the octets that encode it.

Octets of UTF-8 are read one code point after the other.  An octet that begins
none is kept apart, and reading goes on behind it.  Which numbers are code points
is for the reader to say, for some readers take those of surrogates and some do
not.
-/
import TreeShell.Text.Digits

namespace TreeShell
namespace Text

def hexDigit? (c : Char) : Option Nat :=
  if '0' ≤ c ∧ c ≤ '9' then some (c.toNat - '0'.toNat)
  else if 'a' ≤ c ∧ c ≤ 'f' then some (c.toNat - 'a'.toNat + 10)
  else if 'A' ≤ c ∧ c ≤ 'F' then some (c.toNat - 'A'.toNat + 10)
  else none

/-- The octet that two hexadecimal digits write. -/
def octet? (high low : Char) : Option UInt8 :=
  match hexDigit? high, hexDigit? low with
  | some h, some l => some (UInt8.ofNat (h * 16 + l))
  | _, _ => none

def percentDecode : List Char → List UInt8
  | [] => []
  | '%' :: a :: b :: rest =>
    match octet? a b with
    | some octet => octet :: percentDecode rest
    | none => 0x25 :: percentDecode (a :: b :: rest)
  | c :: rest => String.utf8EncodeChar c ++ percentDecode rest

/-- An octet behind a percent sign, in capitals. -/
def percentOctet (octet : UInt8) : List Char :=
  '%' :: (digits 16 2 octet.toNat).map Char.toUpper

/-- Writes the octets of all characters but those that are kept. -/
def percentEncode (keep : Char → Bool) (cs : List Char) : List Char :=
  cs.flatMap fun c => if keep c then [c] else (String.utf8EncodeChar c).flatMap percentOctet

/-! ## Code points -/

/-- What the first octet of a code point tells: its own share of the number, how
many octets follow, and the least number that needs so many. -/
def lead? (octet : UInt8) : Option (Nat × Nat × Nat) :=
  let n := octet.toNat
  if n < 0x80 then some (n, 0, 0)
  else if n < 0xc0 then none
  else if n < 0xe0 then some (n - 0xc0, 1, 0x80)
  else if n < 0xf0 then some (n - 0xe0, 2, 0x800)
  else if n < 0xf8 then some (n - 0xf0, 3, 0x10000)
  else none

/-- The code point that begins with an octet, and how many of the octets behind it
are part of it. -/
def codePoint? (known : Nat → Bool) (octet : UInt8) (behind : List UInt8) : Option (Nat × Nat) :=
  (lead? octet).bind fun (share, count, least) =>
    let more := behind.take count
    let code := more.foldl (fun code o => code * 0x40 + o.toNat % 0x40) share
    if more.length = count ∧ more.all (·.toNat / 0x40 = 2) ∧ least ≤ code ∧ known code then
      some (code, count)
    else none

/-- Reads octets of UTF-8, the first `passed` of which belong to a code point that
was read already. -/
def codePoints (known : Nat → Bool) (passed : Nat) : List UInt8 → List (Except UInt8 Nat)
  | [] => []
  | octet :: rest =>
    match passed with
    | passed + 1 => codePoints known passed rest
    | 0 =>
      match codePoint? known octet rest with
      | some (code, count) => .ok code :: codePoints known count rest
      | none => .error octet :: codePoints known 0 rest

end Text
end TreeShell
