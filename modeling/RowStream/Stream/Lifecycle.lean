import RowStream.Stream.RowCursor

/-! # The life of a cursor

The token can be fired at any moment, also within a look: after it was seen unfired and before room is made
for more chunks. -/
namespace RowStream

/-- The next chunk for a consumer that sees the token before it is fired: what has settled is taken all the
same, and nothing more is launched. -/
def Prefetch.nextFired {α : Type} (p : Prefetch α) : Turn α × Prefetch α :=
  if p.cancelled then (.cancelled, p)
  else match p.take with
    | (.chunk ordinal r, p) => (.chunk ordinal (r.mapError (·.withChunk ordinal)), p.cancel.launch)
    | (turn, p) => (turn, p)

def Feed.nextFired {α : Type} (f : Feed α) : Prefetch.Turn α × Feed α :=
  match f.prefetch with
  | some p => (p.nextFired.1, { f with prefetch := some p.nextFired.2 })
  | none => (.finished, f)

namespace RowCursor

/-- What becomes of a look that comes to the next chunk. -/
def turned (c : RowCursor) :
    Prefetch.Turn DecodedChunk × Feed DecodedChunk → Option (Outcome (Result Bool)) × RowCursor
  | (.chunk _ (.ok chunk), feed) => (none, { c.dropChunk with feed }.enterChunk chunk)
  | (.chunk _ (.error e), feed) => (some (.answer (.error e)), { c.dropChunk with feed }.fail e)
  | (.finished, feed) => (some (.answer (.ok false)), { c.dropChunk with feed }.finish)
  | (.cancelled, feed) =>
    (some (.answer (.error Prefetch.cancelledError)), { c.dropChunk with feed }.fail Prefetch.cancelledError)
  | (.waiting k, feed) => (some (.waiting k), { c.dropChunk with feed })

theorem look_eq_turned {c : RowCursor} (noStep : c.stepInChunk? = none) (inline : c.inline = none) :
    c.look = c.turned c.feed.next := by
  simp only [look, noStep, inline]
  rfl

def lookFired (c : RowCursor) : Option (Outcome (Result Bool)) × RowCursor :=
  match c.stepInChunk?, c.inline with
  | none, none => c.turned c.feed.nextFired
  | _, _ => c.look

inductive Happening where
  | plain (e : Consumer.Event DecodedChunk)
  /-- A look within which the token is fired. -/
  | firedLook

abbrev Use := Consumer.Use RowCursor (Result Bool)

def Use.looked (u : Use) : Option (Outcome (Result Bool)) × RowCursor → Use
  | (some (.answer a), c) => u.answered a c
  | (_, c) => { u with consumer := c }

def Use.fired (u : Use) : Use := { u with consumer := Consumer.cancel u.consumer }

def happen? (u : Use) : Happening → Option Use
  | .plain e => Consumer.step? u e
  | .firedLook => if u.calling then some (u.looked u.consumer.lookFired).fired else none

def live? (u : Use) (happenings : List Happening) : Option Use := happenings.foldlM happen? u

end RowCursor
end RowStream
