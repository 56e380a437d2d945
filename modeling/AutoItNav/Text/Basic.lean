import AutoItNav.Text.Pieces

/-!
Source text. Text is its list of characters; offsets into it count UTF-8 bytes and columns count
UTF-16 units.
-/
namespace AutoItNav

abbrev Text := List Char

namespace Text

def byteSize (t : Text) : Nat := t.foldl (fun n c => n + c.utf8Size) 0

/-- UTF-16 units of a character: one inside the basic plane, two beyond it. -/
def unitsOf (c : Char) : Nat := if c.toNat < 0x10000 then 1 else 2

def units (t : Text) : Nat := t.foldl (fun n c => n + unitsOf c) 0

private theorem foldl_size (f : Char → Nat) (t : Text) (n : Nat) :
    t.foldl (fun n c => n + f c) n = n + t.foldl (fun n c => n + f c) 0 := by
  induction t generalizing n with
  | nil => rfl
  | cons c t ih =>
    simp only [List.foldl_cons]
    rw [ih (n + f c), ih (0 + f c)]
    omega

@[simp] theorem byteSize_nil : byteSize [] = 0 := rfl

@[simp] theorem byteSize_cons (c : Char) (t : Text) :
    byteSize (c :: t) = c.utf8Size + byteSize t := by
  simp only [byteSize, List.foldl_cons]
  rw [foldl_size]
  omega

@[simp] theorem byteSize_append (s t : Text) : byteSize (s ++ t) = byteSize s + byteSize t := by
  induction s with
  | nil => simp
  | cons c s ih => simp [ih, Nat.add_assoc]

@[simp] theorem units_nil : units [] = 0 := rfl

@[simp] theorem units_cons (c : Char) (t : Text) : units (c :: t) = unitsOf c + units t := by
  simp only [units, List.foldl_cons]
  rw [foldl_size]
  omega

@[simp] theorem units_append (s t : Text) : units (s ++ t) = units s + units t := by
  induction s with
  | nil => simp
  | cons c s ih => simp [ih, Nat.add_assoc]

/-- The characters up to the next line break or the end. -/
def restOfLine (t : Text) : Text := t.takeWhile (· ≠ '\n')

/-- Drops the trailing characters that satisfy `p`. -/
def dropTrailing (p : Char → Bool) (t : Text) : Text := (t.reverse.dropWhile p).reverse

/-- A line without the carriage return that ends it, if one does. -/
def chomp (t : Text) : Text :=
  match t.reverse with
  | '\r' :: back => back.reverse
  | _ => t

/-- The lines of a text. A break is a line feed with the carriage return right before it, if any;
one at the very end opens no further line. -/
def lines (t : Text) : List Text :=
  match (pieces '\n' t).reverse with
  | [] => []
  | last :: back =>
    ((if last.isEmpty then [] else [last]) ++ back.map chomp).reverse

end Text

end AutoItNav
