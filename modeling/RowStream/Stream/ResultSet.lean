import RowStream.Scan
import RowStream.Stream.Pipeline

/-! # Results one after another -/
namespace RowStream

inductive ChainState
  | single
  /-- More results follow. -/
  | hasNext
  | exhausted
deriving Repr, DecidableEq

/-- Whoever loads further results: the answer to each request, by its number and the id. -/
abbrev ResultService := Nat → String → Result Response

structure Factory where
  config : Config
  service : Option ResultService

structure ResultSet where
  cursor : RowCursor
  pending : List String
  chain : ChainState
  queryId : String
  /-- The ids that have been asked for, in order. -/
  requested : List String

namespace ResultSet

/-- Asks for a result; `requested` are the ids that were asked for before. -/
def load (f : Factory) (requested : List String) (id : String) : Result Response :=
  match f.service with
  | some service => service requested.length id
  | none => .error (.invalidState "multi-statement result needs a result service to load child results")

/-- The requests after one more; without a service there is nobody to ask. -/
def requestedAfter (f : Factory) (requested : List String) (id : String) : List String :=
  if f.service.isSome then requested ++ [id] else requested

def chainAfter (pending : List String) : ChainState := if pending.isEmpty then .exhausted else .hasNext

/-- The result set of a response and the ids it asked for. With further results the first of them
becomes the current one. -/
def create (f : Factory) (r : Response) : List String × Checked ResultSet :=
  match r.children with
  | [] =>
    ([], do
      let cursor ← Pipeline.rowCursor f.config r
      .ok ⟨cursor, [], .single, r.queryId, []⟩)
  | first :: pending =>
    let requested := requestedAfter f [] first
    (requested, do
      let child ← load f [] first
      let cursor ← Pipeline.rowCursor f.config child
      .ok ⟨cursor, pending, chainAfter pending, child.queryId, requested⟩)

/-- Moves to the next result. The current one is closed first; a result that cannot be loaded ends
the chain. -/
def next (f : Factory) (s : ResultSet) : Except Overflow (Result Bool × ResultSet) :=
  match s.chain, s.pending with
  | .hasNext, id :: pending =>
    let requested := requestedAfter f s.requested id
    let activated : Checked (RowCursor × Response) := do
      let child ← load f s.requested id
      let cursor ← Pipeline.rowCursor f.config child
      .ok (cursor, child)
    match activated with
    | .ok (cursor, child) => .ok (.ok true, ⟨cursor, pending, chainAfter pending, child.queryId, requested⟩)
    | .error (.error e) => .ok (.error e, ⟨s.cursor.close, [], .exhausted, s.queryId, requested⟩)
    | .error (.overflow o) => .error o
  | _, _ => .ok (.ok false, { s with chain := .exhausted })

def advance (s : ResultSet) : Outcome (Result Bool) × ResultSet :=
  let (outcome, c) := s.cursor.advance
  (outcome, { s with cursor := c })

def scan {α : Type} (s : ResultSet) (destinations : List (Scanner α)) : Except Error (RowScan α) :=
  match s.cursor.currentRow? with
  | some row => .ok (scanRow row s.cursor.plan.schema destinations)
  | none => .error (.invalidState "scan called without a current row")

def close (s : ResultSet) : ResultSet :=
  { s with
    cursor := s.cursor.close
    pending := []
    chain := if s.chain = .hasNext then .exhausted else s.chain }

end ResultSet
end RowStream
