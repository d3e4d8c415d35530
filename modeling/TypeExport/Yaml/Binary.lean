/-!
# Binary values

Bytes are written in sixty-four characters, four of which stand for three bytes.  Everything else
between them is passed over.  The last group may be shorter: signs of padding stand for what it
lacks, and whatever follows a group that they complete is not looked at.

* `binary?` — the bytes that a text denotes.
-/

namespace TypeExport.Yaml

/-- The characters for six bits, in the order of their values. -/
def sixBitChars : List Char :=
  "ABCDEFGHIJKLMNOPQRSTUVWXYZabcdefghijklmnopqrstuvwxyz0123456789+/".toList

/-- The value of a character for six bits. -/
def sixBits? (c : Char) : Option Nat :=
  sixBitChars.findIdx? (· == c)

/-- The bytes that a text denotes behind `count` characters of a group, the last of which holds
`left` for the next byte; `pads` signs of padding have just been read. -/
def binaryFrom? : Nat → Nat → Nat → List Char → Option (List UInt8)
  | 0, _, _, [] => some []
  | _, _, _, [] => none
  | count, left, pads, c :: rest =>
    if c = '=' then
      -- A group that is filled up by padding is the last one.
      if 2 ≤ count && 4 ≤ count + (pads + 1) then some []
      else binaryFrom? count left (if 2 ≤ count then pads + 1 else pads) rest
    else
      match sixBits? c, count with
      -- Foreign characters are passed over.
      | none, _ => binaryFrom? count left pads rest
      | some bits, 0 => binaryFrom? 1 bits 0 rest
      | some bits, 1 => do
        return (left * 4 + bits / 16).toUInt8 :: (← binaryFrom? 2 (bits % 16) 0 rest)
      | some bits, 2 => do
        return (left * 16 + bits / 4).toUInt8 :: (← binaryFrom? 3 (bits % 4) 0 rest)
      | some bits, _ => do
        return (left * 64 + bits).toUInt8 :: (← binaryFrom? 0 0 0 rest)

/-- The bytes that a text denotes; all its characters have to be plain ones. -/
def binary? (text : String) : Option (List UInt8) :=
  if text.toList.all (·.toNat < 128) then binaryFrom? 0 0 0 text.toList else none

end TypeExport.Yaml
