import AutoItNav.Definition.Included

/-!
Answers to definition requests. A cursor on an include directive leads to the script it means.
Otherwise the word under the cursor is looked for in the document, then in the scripts it includes.
-/
namespace AutoItNav

inductive Origin where
  | includeLine
  | document
  | includedScript
  | nothing
deriving DecidableEq, Repr

structure Answer where
  location : Option Location
  origin : Origin
  work : Work
deriving DecidableEq, Repr

def Answer.nothing : Answer := ⟨none, .nothing, .none⟩

namespace Script

/-- The file that an include means when no script of the project does. -/
def besideFile? (s : Script) (d : Include) : FileM (Option Path) :=
  let target := d.targetPath
  let place := if target.isAbsolute then some target else s.directory?.map (·.join target)
  match place.map Path.normalized with
  | none => .done none
  | some path => .isFile path fun found => .done (if found then some path else none)

/-- The script that an include directive of the document means. -/
def includeTarget? (s : Script) (d : Include) (layout : Layout) : FileM (Option Path) :=
  match s.path? with
  | none => .done none
  | some path => do
    let chosen ← match layout.roots? path with
      | none => pure none
      | some roots => do
        let candidates ← roots.scripts layout
        pure ((d.resolve? s.directory? (candidates.map Path.normalized)).bind (candidates[·]?))
    match chosen with
    | some target => return some target
    | none => s.besideFile? d

/-- The directive on the cursor's line. -/
def includeAt? (s : Script) (p : Position) : Option Include := do
  let offset ← Text.offsetAt? s.text p
  let line ← Text.lineAt? s.text offset
  Include.parseLine? line p.line

def includeLocation? (s : Script) (p : Position) (layout : Layout) : FileM (Option Location) :=
  match s.includeAt? p with
  | none => .done none
  | some d => do
    let target ← s.includeTarget? d layout
    return target.bind (Location.ofPath? · .zero)

/-- The definition of an identifier as the document sees it. `builds` tells for which identifiers a
pattern can be built: a name of some hundred thousand characters makes too large a one. -/
def answerFor (s : Script) (id : Identifier) (layout : Layout)
    (builds : Identifier → Bool := fun _ => true) : FileM Answer :=
  if !builds id then .done .nothing
  else
    match s.declares? id with
    | some location => .done ⟨some location, .document, .none⟩
    | none =>
      if !layout.searchIncludes then .done .nothing
      else do
        let (location, work) ← s.includedDeclaration? id layout
        return ⟨location, if location.isSome then .includedScript else .nothing, work⟩

/-- The definition of whatever is under the cursor. -/
def answerAt (s : Script) (p : Position) (layout : Layout)
    (builds : Identifier → Bool := fun _ => true) : FileM Answer := do
  match ← s.includeLocation? p layout with
  | some location => return ⟨some location, .includeLine, .none⟩
  | none =>
    match (Text.wordAt s.text p).bind fun (word, _) => Identifier.ofWord? word with
    | some id => s.answerFor id layout builds
    | none => return .nothing

end Script

end AutoItNav
