/-!
# Text — base64

Bytes written with letters, three bytes in a group of four letters of six
bits each. The reader is a lenient one: what is no letter is passed over,
and the text ends where signs for missing letters complete a group.
`decode?` reads a text.
-/

namespace Reckon

namespace Text

namespace Base64

/-- The six bits of a letter. -/
def letterValue? (c : Char) : Option Nat :=
  let n := c.toNat
  if 'A' ≤ c ∧ c ≤ 'Z' then some (n - 'A'.toNat)
  else if 'a' ≤ c ∧ c ≤ 'z' then some (n - 'a'.toNat + 26)
  else if '0' ≤ c ∧ c ≤ '9' then some (n - '0'.toNat + 52)
  else if c = '+' then some 62
  else if c = '/' then some 63
  else none

/-- The bytes that the letters of a group complete. -/
def groupBytes : (group : List Nat) → List UInt8
  | [a, b] => [UInt8.ofNat (4 * a + b / 16)]
  | [a, b, c] => [UInt8.ofNat (4 * a + b / 16), UInt8.ofNat (16 * b + c / 4)]
  | [a, b, c, d] =>
    [UInt8.ofNat (4 * a + b / 16), UInt8.ofNat (16 * b + c / 4), UInt8.ofNat (64 * c + d)]
  | _ => []

/-- The bytes of a text within a group, of which some letters are read, and
so many signs for missing letters after them. A text may not end there. -/
def decodeGroup? (group : List Nat) (missing : Nat) : List Char → Option (List UInt8)
  | [] => if group = [] then some [] else none
  | c :: rest =>
    if c = '=' then
      if group.length < 2 then decodeGroup? group missing rest
      else if 4 ≤ group.length + missing + 1 then some (groupBytes group)
      else decodeGroup? group (missing + 1) rest
    else
      match letterValue? c with
      | none => decodeGroup? group missing rest
      | some n =>
        if group.length < 3 then decodeGroup? (group ++ [n]) 0 rest
        else (decodeGroup? [] 0 rest).map (groupBytes (group ++ [n]) ++ ·)

/-- **The bytes that a text writes.** -/
def decode? (s : List Char) : Option (List UInt8) :=
  decodeGroup? [] 0 s

end Base64

end Text

end Reckon
