import AutoItNav.Text.Spelling
import AutoItNav.Text.Word

/-!
Regular expressions, with the constructs that declarations are searched with, and how they are
written.
-/
namespace AutoItNav

/-- Characters that mean something in a pattern. -/
def isPatternSign (c : Char) : Bool :=
  ['\\', '.', '+', '*', '?', '(', ')', '|', '[', ']', '\x7b', '\x7d', '^', '$', '#'].contains c

def escapePattern (t : Text) : Text := t.flatMap fun c => if isPatternSign c then ['\\', c] else [c]

inductive ClassItem where
  | char (c : Char)
  | word
deriving DecidableEq, Repr

/-- A set of characters. -/
inductive CharSet where
  | any
  | inLine
  | oneOf (items : List ClassItem)
  | noneOf (items : List ClassItem)
deriving DecidableEq, Repr

namespace ClassItem

def has : ClassItem → Char → Bool
  | .char d, c => c = d
  | .word, c => isBoundaryWord c

def written : ClassItem → Text
  | .char '\n' => ['\\', 'n']
  | .char '\t' => ['\\', 't']
  | .char '\\' => ['\\', '\\']
  | .char c => [c]
  | .word => ['\\', 'w']

end ClassItem

namespace CharSet

/-- The set holds all spellings of a character or none, so case is of no account here. -/
def has : CharSet → Char → Bool
  | .any, _ => true
  | .inLine, c => c ≠ '\n'
  | .oneOf items, c => items.any (·.has c)
  | .noneOf items, c => !items.any (·.has c)

def written : CharSet → Text
  | .any => "(?s:.)".toList
  | .inLine => ['.']
  | .oneOf items => ['['] ++ items.flatMap ClassItem.written ++ [']']
  | .noneOf items => ['[', '^'] ++ items.flatMap ClassItem.written ++ [']']

end CharSet

/-- What a negative look-ahead asks for: one of the words, right here or behind a run of skipped
characters. The run takes all there are and gives none back. -/
structure Look where
  skipped : Option CharSet
  words : List Text
deriving DecidableEq, Repr

namespace Look

def holds (s : Spelling) (look : Look) (t : Text) : Bool :=
  let ahead := match look.skipped with
    | none => t
    | some set => t.dropWhile set.has
  look.words.any fun word => s.begins word ahead

def written (look : Look) : Text :=
  let words := ['|'].intercalate look.words
  match look.skipped with
  | none => "(?!".toList ++ words ++ [')']
  | some set => "(?!(?>".toList ++ set.written ++ "*)(?:".toList ++ words ++ "))".toList

end Look

inductive GroupName where
  | declaration
  | keyword
  | name
deriving DecidableEq, Repr

def GroupName.written : GroupName → Text
  | .declaration => "decl".toList
  | .keyword => "keyword".toList
  | .name => "name".toList

inductive Regex where
  | empty
  | textStart
  | wordEdge
  | literal (t : Text)
  | star (set : CharSet)
  | plus (set : CharSet)
  /-- As few characters as possible, in front of none of which the look-ahead finds anything. -/
  | lazyStar (barred : Option Look) (set : CharSet)
  | optional (r : Regex)
  | group (r : Regex)
  | capture (id : GroupName) (r : Regex)
  | seq (first second : Regex)
  | either (first second : Regex)
  | notAhead (look : Look)
deriving DecidableEq, Repr

def Regex.written : Regex → Text
  | .empty => []
  | .textStart => ['\\', 'A']
  | .wordEdge => ['\\', 'b']
  | .literal t => escapePattern t
  | .star set => set.written ++ ['*']
  | .plus set => set.written ++ ['+']
  | .lazyStar none set => set.written ++ ['*', '?']
  | .lazyStar (some barred) set => "(?:".toList ++ barred.written ++ set.written ++ ")*?".toList
  | .optional r => r.written ++ ['?']
  | .group r => "(?:".toList ++ r.written ++ [')']
  | .capture id r => "(?P<".toList ++ id.written ++ ['>'] ++ r.written ++ [')']
  | .seq first second => first.written ++ second.written
  | .either first second => first.written ++ ['|'] ++ second.written
  | .notAhead look => look.written

end AutoItNav
