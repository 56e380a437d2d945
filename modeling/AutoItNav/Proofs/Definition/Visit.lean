import AutoItNav.Definition.Tally
import AutoItNav.Proofs.Files.World

/-!
How a definition request ends. There are five ways, told apart by where the answer comes from and
whether included scripts were searched for it; the answer's origin and the work in it name the way.
-/
namespace AutoItNav

theorem Script.runIn_answerFor (s : Script) (id : Identifier) (layout : Layout)
    (builds : Identifier → Bool) (w : World) (past : List Access) :
    ((s.answerFor id layout builds).runIn w past).1 =
      if builds id then
        match s.declares? id with
        | some l => ⟨some l, .document, .none⟩
        | none =>
          if layout.searchIncludes then
            let (place, work) := ((s.includedDeclaration? id layout).runIn w past).1
            ⟨place, if place.isSome then .includedScript else .nothing, work⟩
          else .nothing
      else .nothing := by
  rw [answerFor]
  cases builds id with
  | false => rfl
  | true =>
      cases s.declares? id with
      | some l => rfl
      | none => cases layout.searchIncludes <;> simp

/-- The identifier that a request is about, with the document and the layout. -/
def Request.subject? : Request → Option (Script × Identifier × Layout)
  | .place s p layout =>
    ((Text.wordAt s.text p).bind fun (word, _) => Identifier.ofWord? word).map (s, ·, layout)
  | .identifier s id layout => some (s, id, layout)

/-- A request with all that has a part in it: for which identifiers a pattern can be built, what is
answered about files meanwhile, and the time that passes. -/
structure Visit where
  request : Request
  builds : Identifier → Bool
  world : World
  elapsed : Nat

namespace Visit

variable (v : Visit)

def answer : Answer := ((v.request.answer v.builds).runIn v.world []).1

/-- Where the cursor's include line leads, with the accesses made to find out. -/
def includeLine : Option Location × List Access :=
  match v.request with
  | .place s p layout => (s.includeLocation? p layout).runIn v.world []
  | .identifier .. => (none, [])

def led? : Option Location := v.includeLine.1

/-- What is looked for; nothing if an include line leads somewhere. -/
def sought? : Option (Script × Identifier × Layout) :=
  if v.led?.isSome then none else v.request.subject?.filter fun (_, id, _) => v.builds id

/-- Where the document itself declares what is looked for. -/
def own? : Option Location := v.sought?.bind fun (s, id, _) => s.declares? id

/-- What the search through the included scripts finds and takes, if one is run. -/
def search? : Option (Option Location × Work) :=
  v.sought?.bind fun (s, id, layout) =>
    if (s.declares? id).isNone && layout.searchIncludes then
      some ((s.includedDeclaration? id layout).runIn v.world v.includeLine.2).1
    else none

/-- Where an included script declares what is looked for. -/
def found? : Option Location := v.search?.bind (·.1)

/-- How a request ends, with its answer. -/
inductive Ends : Answer → Prop
  | led (l : Location) (led : v.led? = some l) (own : v.own? = none) (search : v.search? = none) :
      Ends ⟨some l, .includeLine, .none⟩
  | own (l : Location) (led : v.led? = none) (own : v.own? = some l) (search : v.search? = none) :
      Ends ⟨some l, .document, .none⟩
  | found (l : Location) (work : Work) (led : v.led? = none) (own : v.own? = none)
      (search : v.search? = some (some l, work)) : Ends ⟨some l, .includedScript, work⟩
  | searched (work : Work) (led : v.led? = none) (own : v.own? = none)
      (search : v.search? = some (none, work)) : Ends ⟨none, .nothing, work⟩
  | unsearched (led : v.led? = none) (own : v.own? = none) (search : v.search? = none) :
      Ends .nothing

variable {v} {l : Location}

theorem answer_of_led (led : v.led? = some l) : v.answer = ⟨some l, .includeLine, .none⟩ := by
  obtain ⟨request, builds, world, elapsed⟩ := v
  cases request with
  | place s p layout =>
      have here : ((s.includeLocation? p layout).runIn world []).1 = some l := led
      simp [answer, Request.answer, Script.answerAt, here]
  | identifier s id layout => cases led

theorem answer_of_unled (led : v.led? = none) :
    v.answer = match v.request.subject? with
      | none => .nothing
      | some (s, id, layout) =>
        ((s.answerFor id layout v.builds).runIn v.world v.includeLine.2).1 := by
  obtain ⟨request, builds, world, elapsed⟩ := v
  cases request with
  | place s p layout =>
      have here : ((s.includeLocation? p layout).runIn world []).1 = none := led
      change ((s.answerAt p layout builds).runIn world []).1 = _
      rw [Script.answerAt, FileM.runIn_bind, here]
      dsimp only [Request.subject?, includeLine]
      cases (Text.wordAt s.text p).bind fun (word, _) => Identifier.ofWord? word <;> rfl
  | identifier s id layout => rfl

/-- Every request ends in one of these ways. -/
theorem ends (v : Visit) : v.Ends v.answer := by
  cases led : v.led? with
  | some l =>
      have nothing : v.sought? = none := by simp [sought?, led]
      rw [answer_of_led led]
      exact .led l led (by simp [own?, nothing]) (by simp [search?, nothing])
  | none =>
      have unsought (nothing : v.sought? = none) : v.Ends .nothing :=
        .unsearched led (by simp [own?, nothing]) (by simp [search?, nothing])
      rw [answer_of_unled led]
      cases asked : v.request.subject? with
      | none => exact unsought (by simp [sought?, led, asked])
      | some subject =>
          obtain ⟨s, id, layout⟩ := subject
          dsimp only
          rw [Script.runIn_answerFor]
          cases built : v.builds id with
          | false => exact unsought (by simp [sought?, led, asked, built])
          | true =>
              have sought : v.sought? = some (s, id, layout) := by simp [sought?, led, asked, built]
              have own : v.own? = s.declares? id := by simp [own?, sought]
              rw [if_pos rfl]
              cases declared : s.declares? id with
              | some l => exact .own l led (own.trans declared) (by simp [search?, sought, declared])
              | none =>
                  cases on : layout.searchIncludes with
                  | false =>
                      exact .unsearched led (own.trans declared)
                        (by simp [search?, sought, declared, on])
                  | true =>
                      have search : v.search? = some
                          ((s.includedDeclaration? id layout).runIn v.world v.includeLine.2).1 := by
                        simp [search?, sought, declared, on]
                      generalize ((s.includedDeclaration? id layout).runIn v.world
                        v.includeLine.2).1 = result at search ⊢
                      obtain ⟨place, work⟩ := result
                      cases place with
                      | some l => exact .found l work led (own.trans declared) search
                      | none => exact .searched work led (own.trans declared) search

/-- The answer is the first location that the three ways lead to. -/
theorem location_answer (v : Visit) : v.answer.location = v.led?.or (v.own?.or v.found?) := by
  have ends := v.ends
  generalize v.answer = answer at ends ⊢
  cases ends <;> simp [*, found?, Answer.nothing]

/-- Which requests are counted under an origin. -/
def endsAt (v : Visit) : Origin → Bool
  | .includeLine => v.led?.isSome
  | .document => v.own?.isSome
  | .includedScript => v.found?.isSome
  | .nothing => v.answer.location.isNone

theorem origin_answer_iff (v : Visit) (o : Origin) : v.answer.origin = o ↔ v.endsAt o = true := by
  have location := v.location_answer
  have ends := v.ends
  unfold endsAt
  rw [location]
  generalize v.answer = answer at ends ⊢
  cases ends <;> cases o <;> simp [*, found?, Answer.nothing]

/-- The work done is that of the search, if one is run. -/
theorem work_answer (v : Visit) : v.answer.work = (v.search?.map (·.2)).getD .none := by
  have ends := v.ends
  generalize v.answer = answer at ends ⊢
  cases ends <;> simp [*, Answer.nothing]

end Visit

end AutoItNav
