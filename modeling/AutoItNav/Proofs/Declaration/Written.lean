import AutoItNav.Declaration.Pattern

/-!
What the patterns look like when they are written out: the name, with every sign escaped, between
parts that are the same for all names of a kind.
-/
namespace AutoItNav

namespace Regex

theorem written_seq (first second : Regex) :
    (Regex.seq first second).written = first.written ++ second.written := rfl

theorem written_name (t : Text) : (Regex.capture .name (.literal t)).written =
    "(?P<name>".toList ++ escapePattern t ++ ")".toList := rfl

theorem written_declaration (r : Regex) :
    (Regex.capture .declaration r).written = "(?P<decl>".toList ++ r.written ++ ")".toList := rfl

end Regex

namespace Declaration

open Regex

theorem written_functionRegex (name : Text) : String.ofList (functionRegex name).written =
    "(?P<keyword>Func[ \\t]+)" ++ ("(?P<name>" ++ String.ofList (escapePattern name) ++ ")") ++
      "[ \\t]*\\(" := by
  have keyword : (Regex.capture .keyword (.seq (.literal funcKeyword) (.plus gapSet))).written =
      "(?P<keyword>Func[ \\t]+)".toList := by decide +kernel
  have opening : (Regex.seq (.star gapSet) (.literal ['('])).written = "[ \\t]*\\(".toList := by
    decide +kernel
  rw [functionRegex, openedRegex, written_seq, written_seq, keyword, opening, written_name]
  simp only [String.ofList_append, String.ofList_toList, String.append_assoc]

theorem written_variableRegex (name : Text) : String.ofList (variableRegex name).written =
    "(?P<keyword>(?:Local|Global|Const)[ \\t]*)?" ++
      ("(?P<name>" ++ String.ofList (escapePattern name) ++ ")") ++
      "\\b(?:\\[[\\w\\\\$]+\\])?[ \\t]*=?.*" := by
  have scope : (Regex.optional (.capture .keyword scopeRegex)).written =
      "(?P<keyword>(?:Local|Global|Const)[ \\t]*)?".toList := by decide +kernel
  have behind : (Regex.seq .wordEdge tailRegex).written =
      "\\b(?:\\[[\\w\\\\$]+\\])?[ \\t]*=?.*".toList := by decide +kernel
  rw [variableRegex, wholeRegex, written_seq, written_seq, scope, behind, written_name]
  simp only [String.ofList_append, String.ofList_toList, String.append_assoc]

end Declaration

namespace Identifier

open Declaration Regex

theorem written_regex (id : Identifier) : String.ofList id.regex.written =
    "\\A(?:" ++ "(?:(?!;|#cs|#comments-start)[^\\n])*?" ++
      String.ofList id.declarationRegex.written ++
      "(?!(?>[^#]*)(?:#ce|#comments-end))" ++ "|)" := by
  have clear : (Regex.lazyStar (some commentStart) (.noneOf [.char '\n'])).written =
      "(?:(?!;|#cs|#comments-start)[^\\n])*?".toList := by decide +kernel
  have outside : (Regex.notAhead nextBlockEnd).written =
      "(?!(?>[^#]*)(?:#ce|#comments-end))".toList := by decide +kernel
  have framed : ∀ r : Regex, (Regex.seq .textStart (.group (.either r .empty))).written =
      "\\A(?:".toList ++ r.written ++ "|)".toList := by
    intro r
    have last : ∀ t : Text, t ++ ['|'] ++ [] ++ [')'] = t ++ "|)".toList := by simp
    exact congrArg ("\\A(?:".toList ++ ·) (last r.written)
  rw [regex, framed, written_seq, written_seq, clear, outside]
  simp only [String.ofList_append, String.ofList_toList, String.append_assoc]

theorem pattern_eq (id : Identifier) : id.pattern =
    (match id.kind with
      | .variable => "(?i)"
      | .function => "") ++
    ("\\A(?:" ++ "(?:(?!;|#cs|#comments-start)[^\\n])*?" ++
      ("(?P<decl>" ++
        (match id.kind with
          | .variable => "(?P<keyword>(?:Local|Global|Const)[ \\t]*)?" ++
              ("(?P<name>" ++ String.ofList (escapePattern id.text) ++ ")") ++
              "\\b(?:\\[[\\w\\\\$]+\\])?[ \\t]*=?.*"
          | .function => "(?P<keyword>Func[ \\t]+)" ++
              ("(?P<name>" ++ String.ofList (escapePattern id.text) ++ ")") ++ "[ \\t]*\\(") ++
        ")") ++
      "(?!(?>[^#]*)(?:#ce|#comments-end))" ++ "|)") := by
  rw [pattern, written_regex, declarationRegex, written_declaration, String.ofList_append,
    String.ofList_append, String.ofList_toList, String.ofList_toList, spelling]
  match id.kind with
  | .variable => rw [written_variableRegex]
  | .function => rw [written_functionRegex]

end Identifier

end AutoItNav
