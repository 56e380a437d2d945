import AutoItNav.Declaration.Regex
import AutoItNav.Identifier

/-!
The pattern of an identifier's declarations. A function is declared by `Func`, blanks, its name and
an opening parenthesis; a variable by its name alone, with or without a scope keyword in front. No
comment may open in front of a declaration on its line, and behind it the next `#` may not end a
comment block.
-/
namespace AutoItNav

namespace Declaration

def funcKeyword : Text := ['F', 'u', 'n', 'c']

def localKeyword : Text := ['L', 'o', 'c', 'a', 'l']

def globalKeyword : Text := ['G', 'l', 'o', 'b', 'a', 'l']

def constKeyword : Text := ['C', 'o', 'n', 's', 't']

def blockStart : Text := ['#', 'c', 's']

def longBlockStart : Text := ['#', 'c', 'o', 'm', 'm', 'e', 'n', 't', 's', '-', 's', 't', 'a', 'r', 't']

def blockEnd : Text := ['#', 'c', 'e']

def longBlockEnd : Text := ['#', 'c', 'o', 'm', 'm', 'e', 'n', 't', 's', '-', 'e', 'n', 'd']

def commentStart : Look := ⟨none, [[';'], blockStart, longBlockStart]⟩

/-- Holds when the next `#` ends a block. -/
def nextBlockEnd : Look := ⟨some (.noneOf [.char '#']), [blockEnd, longBlockEnd]⟩

def gapSet : CharSet := .oneOf [.char ' ', .char '\t']

def indexSet : CharSet := .oneOf [.word, .char '\\', .char sigil]

/-- A function's name and the parenthesis behind it. -/
def openedRegex (name : Text) : Regex :=
  .seq (.capture .name (.literal name)) (.seq (.star gapSet) (.literal ['(']))

def functionRegex (name : Text) : Regex :=
  .seq (.capture .keyword (.seq (.literal funcKeyword) (.plus gapSet))) (openedRegex name)

def scopeRegex : Regex :=
  .seq (.group (.either (.literal localKeyword)
      (.either (.literal globalKeyword) (.literal constKeyword))))
    (.star gapSet)

/-- The rest of a line behind a variable's name: an index in brackets, blanks and an equals sign,
each of which may be missing, and anything else. -/
def tailRegex : Regex :=
  .seq (.optional (.group (.seq (.literal ['[']) (.seq (.plus indexSet) (.literal [']'])))))
    (.seq (.star gapSet)
      (.seq (.optional (.literal ['=']))
        (.star .inLine)))

/-- A variable's name as a whole word, with the rest of the line. -/
def wholeRegex (name : Text) : Regex :=
  .seq (.capture .name (.literal name)) (.seq .wordEdge tailRegex)

def variableRegex (name : Text) : Regex :=
  .seq (.optional (.capture .keyword scopeRegex)) (wholeRegex name)

end Declaration

namespace Identifier

open Declaration

def declarationRegex (id : Identifier) : Regex :=
  .capture .declaration
    (match id.kind with
    | .variable => variableRegex id.text
    | .function => functionRegex id.text)

/-- The pattern, tried at the start of a line; its last, empty branch lets a line without a
declaration match at once. -/
def regex (id : Identifier) : Regex :=
  .seq .textStart
    (.group (.either
      (.seq (.lazyStar (some commentStart) (.noneOf [.char '\n']))
        (.seq id.declarationRegex (.notAhead nextBlockEnd)))
      .empty))

/-- The pattern as it is written, with the flag that makes case no matter. -/
def pattern (id : Identifier) : String :=
  let flags := match id.spelling with
    | .anyCase => "(?i)"
    | .exact => ""
  flags ++ String.ofList id.regex.written

end Identifier

end AutoItNav
