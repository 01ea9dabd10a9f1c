namespace RecordSchema

/-!
Bytes written in base 64.  Characters outside the alphabet are skipped, and reading ends
with the padding that completes a group of four.
-/

namespace Base64

def digit? (c : Char) : Option Nat :=
  if c.isUpper then some (c.toNat - 'A'.toNat)
  else if c.isLower then some (c.toNat - 'a'.toNat + 26)
  else if c.isDigit then some (c.toNat - '0'.toNat + 52)
  else if c = '+' then some 62
  else if c = '/' then some 63
  else none

/-- The bytes from a place in a group on, with the bits carried from the last digit and
the padding marks read since then; nothing if a group stays incomplete. -/
def decodeFrom? (place carry pads : Nat) : List Char → Option (List UInt8)
  | [] => if place = 0 then some [] else none
  | c :: rest =>
      if c = '=' then
        if place < 2 then decodeFrom? place carry pads rest
        else if place + pads < 3 then decodeFrom? place carry (pads + 1) rest
        else some []
      else
        match digit? c with
        | none => decodeFrom? place carry pads rest
        | some digit =>
            if place = 0 then decodeFrom? 1 digit 0 rest
            else
              let bits := 64 * carry + digit
              let unit := Nat.pow 4 (3 - place)
              (decodeFrom? ((place + 1) % 4) (bits % unit) 0 rest).map
                (UInt8.ofNat (bits / unit) :: ·)

def decode? (text : String) : Option (List UInt8) :=
  decodeFrom? 0 0 0 text.toList

end Base64

end RecordSchema
