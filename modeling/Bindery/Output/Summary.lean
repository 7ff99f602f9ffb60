/-! The outcomes of writing files. -/
namespace Bindery

/-- What became of a file. -/
inductive Outcome where
  /-- There was none before. -/
  | created
  /-- It held something else before. -/
  | updated
  | unchanged
deriving DecidableEq, Repr

namespace Outcome

def name : Outcome → String
  | created => "created"
  | updated => "updated"
  | unchanged => "unchanged"

/-- The file is not what it was. -/
def isChange (o : Outcome) : Bool := o ≠ unchanged

end Outcome

/-- The paths of a run by what became of them, each list in the order of writing. -/
structure Summary where
  created : List String := []
  updated : List String := []
  unchanged : List String := []
deriving DecidableEq, Repr

namespace Summary

/-- Adds a path. -/
def record (s : Summary) (path : String) : Outcome → Summary
  | .created => { s with created := s.created ++ [path] }
  | .updated => { s with updated := s.updated ++ [path] }
  | .unchanged => { s with unchanged := s.unchanged ++ [path] }

/-- Two runs as one. -/
def merge (s t : Summary) : Summary :=
  ⟨s.created ++ t.created, s.updated ++ t.updated, s.unchanged ++ t.unchanged⟩

/-- The number of files that are not what they were. -/
def changed (s : Summary) : Nat := s.created.length + s.updated.length

/-- The number of files written. -/
def total (s : Summary) : Nat := s.changed + s.unchanged.length

end Summary
end Bindery
