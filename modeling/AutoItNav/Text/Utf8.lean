import AutoItNav.Text.Basic

/-!
Text as bytes and back. The reader accepts exactly the well-formed sequences; of anything else it
reports one fault for each longest start of a well-formed sequence, or for each lone byte.
-/
namespace AutoItNav

abbrev Bytes := List UInt8

namespace Utf8

def encode (t : Text) : Bytes := t.flatMap String.utf8EncodeChar

/-- Bytes still owed to a character: the bits read so far and the range of the next byte. -/
structure Owed where
  count : Nat
  bits : Nat
  lo : UInt8 := 0x80
  hi : UInt8 := 0xBF

inductive Lead where
  | char (c : Char)
  | owes (o : Owed)
  | fault

def lead (b : UInt8) : Lead :=
  let n := b.toNat
  if n < 0x80 then .char (Char.ofNat n)
  else if n < 0xC2 then .fault
  else if n < 0xE0 then .owes { count := 1, bits := n - 0xC0 }
  else if n = 0xE0 then .owes { count := 2, bits := 0, lo := 0xA0 }
  else if n = 0xED then .owes { count := 2, bits := 13, hi := 0x9F }
  else if n < 0xF0 then .owes { count := 2, bits := n - 0xE0 }
  else if n = 0xF0 then .owes { count := 3, bits := 0, lo := 0x90 }
  else if n = 0xF4 then .owes { count := 3, bits := 4, hi := 0x8F }
  else if n < 0xF4 then .owes { count := 3, bits := n - 0xF0 }
  else .fault

/-- The characters read, newest first, with `none` for a fault. -/
def read (done : List (Option Char)) : Option Owed → Bytes → List (Option Char)
  | none, [] => done
  | some _, [] => none :: done
  | none, b :: rest =>
    match lead b with
    | .char c => read (some c :: done) none rest
    | .owes o => read done (some o) rest
    | .fault => read (none :: done) none rest
  | some o, b :: rest =>
    if o.lo ≤ b ∧ b ≤ o.hi then
      let bits := o.bits * 64 + (b.toNat - 0x80)
      if o.count ≤ 1 then read (some (Char.ofNat bits) :: done) none rest
      else read done (some { count := o.count - 1, bits }) rest
    else
      match lead b with
      | .char c => read (some c :: none :: done) none rest
      | .owes o => read (none :: done) (some o) rest
      | .fault => read (none :: none :: done) none rest

def decode? (bytes : Bytes) : Option Text :=
  (read [] none bytes).foldl (fun t c => do return (← c) :: (← t)) (some [])

/-- Every fault shows as the replacement character. -/
def decodeLossy (bytes : Bytes) : Text :=
  (read [] none bytes).foldl (fun t c => c.getD '\uFFFD' :: t) []

end Utf8

end AutoItNav
