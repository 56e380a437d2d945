import AutoItNav.Definition.Answer
import AutoItNav.Definition.Decimal

/-!
Counts over all definition requests, kept modulo `2 ^ 64`. Each request is counted once, under the
origin of its answer.
-/
namespace AutoItNav

structure Tally where
  requests : UInt64
  includeHits : UInt64
  documentHits : UInt64
  scriptHits : UInt64
  misses : UInt64
  candidates : UInt64
  reads : UInt64
  nanoseconds : UInt64
deriving DecidableEq, Repr

namespace Tally

def zero : Tally := ⟨0, 0, 0, 0, 0, 0, 0, 0⟩

/-- Requests between two summaries. -/
def period : UInt64 := 200

def countOrigin (t : Tally) : Origin → Tally
  | .includeLine => { t with includeHits := t.includeHits + 1 }
  | .document => { t with documentHits := t.documentHits + 1 }
  | .includedScript => { t with scriptHits := t.scriptHits + 1 }
  | .nothing => { t with misses := t.misses + 1 }

/-- Counts one request that took `elapsed` nanoseconds. -/
def count (t : Tally) (elapsed : Nat) (origin : Origin) (work : Work) : Tally :=
  let t := t.countOrigin origin
  { t with
    requests := t.requests + 1
    candidates := t.candidates + work.candidates.toUInt64
    reads := t.reads + work.read.toUInt64
    nanoseconds := t.nanoseconds + (min elapsed (UInt64.size - 1)).toUInt64 }

def average (t : Tally) (total : UInt64) : Float := total.toFloat / t.requests.toFloat

def summary (t : Tally) : String :=
  if t.requests = 0 then "[perf][goto-def] no requests recorded yet"
  else
    s!"[perf][goto-def] requests={t.requests}, include={t.includeHits}, " ++
    s!"local={t.documentHits}, cross_file={t.scriptHits}, misses={t.misses}, " ++
    "avg_candidates=" ++ fixedText 1 (t.average t.candidates) ++
    ", avg_reads=" ++ fixedText 1 (t.average t.reads) ++
    ", avg_ms=" ++ fixedText 2 (t.average t.nanoseconds / 1000000.0)

/-- Counts one request; a summary is due whenever the count of requests completes a period. -/
def record (t : Tally) (elapsed : Nat) (origin : Origin) (work : Work) : Tally × List String :=
  let t := t.count elapsed origin work
  (t, if t.requests % period = 0 then [t.summary] else [])

end Tally

/-- A request as counted: for a place in a document or for an identifier. -/
inductive Request where
  | place (script : Script) (position : Position) (layout : Layout)
  | identifier (script : Script) (id : Identifier) (layout : Layout)

def Request.answer (request : Request) (builds : Identifier → Bool := fun _ => true) :
    FileM Answer :=
  match request with
  | .place script position layout => script.answerAt position layout builds
  | .identifier script id layout => script.answerFor id layout builds

/-- Answers a request and counts it, given the time that it took. -/
def Tally.serve (t : Tally) (request : Request) (elapsed : Nat)
    (builds : Identifier → Bool := fun _ => true) : FileM (Answer × Tally × List String) := do
  let answer ← request.answer builds
  return (answer, t.record elapsed answer.origin answer.work)

end AutoItNav
