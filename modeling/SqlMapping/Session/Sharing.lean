import SqlMapping.Value

/-!
# Shared lists

Several fields of several objects can hold one and the same list: a patch field that is handed
over by reference, or a value that an inserted row passes on to its entity.  What is added to
such a list shows wherever it is held.  A place is a field of a named object; places with one
tag hold one list.
-/

namespace SqlMapping

/-- A field of a named object. -/
structure Place where
  object : String
  field : String
deriving DecidableEq

/-- Which places hold one list. -/
structure Sharing where
  tags : List (Place × Nat) := []
  /-- A tag that no place has. -/
  fresh : Nat := 0

namespace Sharing

/-- The tag of a place, if it shares its list. -/
def tag? (sharing : Sharing) (place : Place) : Option Nat :=
  sharing.tags.lookup place

/-- The places that hold the list of a place, itself included. -/
def partners (sharing : Sharing) (place : Place) : List Place :=
  match sharing.tag? place with
  | some tag => (sharing.tags.filter fun entry => entry.2 = tag).map Prod.fst
  | none => [place]

/-- A place takes a list of its own. -/
def release (sharing : Sharing) (place : Place) : Sharing :=
  { sharing with tags := sharing.tags.filter fun entry => entry.1 ≠ place }

/-- Every place of an object takes a list of its own. -/
def releaseObject (sharing : Sharing) (object : String) : Sharing :=
  { sharing with tags := sharing.tags.filter fun entry => entry.1.object ≠ object }

/-- A place takes the list of another place. -/
def join (sharing : Sharing) (source place : Place) : Sharing :=
  if source = place then sharing
  else
    let released := sharing.release place
    match released.tag? source with
    | some tag => { released with tags := (place, tag) :: released.tags }
    | none =>
      { tags := (place, released.fresh) :: (source, released.fresh) :: released.tags
        fresh := released.fresh + 1 }

end Sharing

end SqlMapping
