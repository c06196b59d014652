/-
JSON texts as octets.

A text in octets is in one of five encodings.  If it begins with a byte order
mark, the mark tells which one and is no part of the text.  Otherwise the zero
octets among the first four do, because a JSON text begins with two characters
of ASCII; a text of two octets is long enough for one such character on two
octets.

Every encoding lets surrogates stand alone.  The texts that hold one are not
refused, but they cannot be kept as they are: see `Text.replacement`.
-/
import TreeShell.Json.Reader

namespace TreeShell
namespace Json

inductive ByteOrder where
  | big
  | little

/-- A number of two octets. -/
def ByteOrder.pair (order : ByteOrder) (a b : UInt8) : Nat :=
  match order with
  | big => a.toNat * 0x100 + b.toNat
  | little => b.toNat * 0x100 + a.toNat

/-- A number of four octets. -/
def ByteOrder.quad (order : ByteOrder) (a b c d : UInt8) : Nat :=
  match order with
  | big => big.pair a b * 0x10000 + big.pair c d
  | little => little.pair c d * 0x10000 + little.pair a b

inductive Encoding where
  | utf8
  | utf16 (order : ByteOrder)
  | utf32 (order : ByteOrder)

namespace Encoding

/-- The encoding that a byte order mark announces, and the octets behind it. -/
def ofMark? : List UInt8 → Option (Encoding × List UInt8)
  | 0x00 :: 0x00 :: 0xfe :: 0xff :: rest => some (utf32 .big, rest)
  | 0xff :: 0xfe :: 0x00 :: 0x00 :: rest => some (utf32 .little, rest)
  | 0xfe :: 0xff :: rest => some (utf16 .big, rest)
  | 0xff :: 0xfe :: rest => some (utf16 .little, rest)
  | 0xef :: 0xbb :: 0xbf :: rest => some (utf8, rest)
  | _ => none

/-- The encoding that the zero octets at the front show. -/
def ofZeros : List UInt8 → Encoding
  | a :: b :: c :: d :: _ =>
    if a = 0 then (if b = 0 then utf32 .big else utf16 .big)
    else if b = 0 then (if c = 0 ∧ d = 0 then utf32 .little else utf16 .little)
    else utf8
  | [a, b] => if a = 0 then utf16 .big else if b = 0 then utf16 .little else utf8
  | _ => utf8

end Encoding

def pairs? (order : ByteOrder) : List UInt8 → Option (List Nat)
  | [] => some []
  | [_] => none
  | a :: b :: rest => (pairs? order rest).map (order.pair a b :: ·)

def quads? (order : ByteOrder) : List UInt8 → Option (List Nat)
  | [] => some []
  | a :: b :: c :: d :: rest => (quads? order rest).map (order.quad a b c d :: ·)
  | _ => none

/-- Whether a number is a code point.  Surrogates are some. -/
def isCodePoint (code : Nat) : Bool := code < 0x110000

/-- The characters that octets encode, if they do so up to the last of them. -/
def Encoding.decode? : Encoding → List UInt8 → Option (List Char)
  | utf8, octets =>
    (Text.codePoints isCodePoint 0 octets).mapM fun
      | .ok code => some (Text.charOf code)
      | .error _ => none
  | utf16 order, octets => (pairs? order octets).map Text.charsOfUnits
  | utf32 order, octets =>
    (quads? order octets).bind fun codes =>
      if codes.all isCodePoint then some (codes.map Text.charOf) else none

/-- Reads a JSON text in octets.  Octets that encode no characters are no text. -/
def ofOctets (limit : Nat) (octets : List UInt8) : Except ReadError Json :=
  let (encoding, text) :=
    match Encoding.ofMark? octets with
    | some marked => marked
    | none => (Encoding.ofZeros octets, octets)
  match encoding.decode? text with
  | none => .error .malformed
  | some cs => ofChars limit cs

end Json
end TreeShell
