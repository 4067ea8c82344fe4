import RowStream.Stream.ResultSet

/-! # Chains of results in use

Whoever holds a result set advances in the current result, moves on to the next one and closes it all.
Advances and moves follow each other; while an advance is under way tasks settle and the token may be fired. -/
namespace RowStream.ResultSet

/-- A result set in use: whether an advance is under way, the answers of the advances so far, each with the
cursor that it left, and those of the moves to the next result, the last ones first. -/
structure Use where
  set : ResultSet
  advancing : Bool := false
  advances : List (Result Bool × RowCursor) := []
  moves : List (Result Bool) := []

inductive Event where
  /-- An advance begins, a task settles, the token is fired and so on. -/
  | rows (e : Consumer.Event DecodedChunk)
  /-- The current row is copied, which changes nothing. -/
  | scan
  | next
  | close

namespace Use

def current (u : Use) : Consumer.Use RowCursor (Result Bool) := ⟨u.set.cursor, u.advancing, u.advances⟩

def withCurrent (u : Use) (c : Consumer.Use RowCursor (Result Bool)) : Use :=
  { u with set := { u.set with cursor := c.consumer }, advancing := c.calling, advances := c.answers }

def moved (u : Use) (a : Result Bool) (s : ResultSet) : Use := { u with set := s, moves := a :: u.moves }

end Use

/-- One event, if it can happen. The cursor of a result is closed with its result set alone. A move that overflows
stops the program, so nothing comes of it. -/
def step? (f : Factory) (u : Use) : Event → Option Use
  | .rows .close => none
  | .rows e => (Consumer.step? u.current e).map u.withCurrent
  | .scan => if u.advancing then none else some u
  | .next =>
    if u.advancing then none
    else match next f u.set with
      | .ok (a, s) => some (u.moved a s)
      | .error _ => none
  | .close => if u.advancing then none else some { u with set := u.set.close }

def run? (f : Factory) (u : Use) (events : List Event) : Option Use := events.foldlM (step? f) u

def fresh (s : ResultSet) : Use := { set := s }

end RowStream.ResultSet
