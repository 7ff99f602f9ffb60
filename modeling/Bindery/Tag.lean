/-! The four kinds of function. -/
namespace Bindery

/-- The kind of a function. -/
inductive Tag where
  /-- Makes a library object and returns its id. -/
  | constructor
  /-- Calls a member of an object. -/
  | member
  /-- Calls a member of an object that an enumeration names. -/
  | enumerationMember
  /-- Calls a free function. -/
  | procedure
deriving DecidableEq, Repr

namespace Tag

def all : List Tag := [constructor, member, enumerationMember, procedure]

def name : Tag → String
  | constructor => "Constructor"
  | member => "Member"
  | enumerationMember => "EnumerationMember"
  | procedure => "Procedure"

/-- The kind with a name. -/
def ofName? (s : String) : Option Tag := all.find? (·.name = s)

/-- Works on an object that exists. -/
def isMember : Tag → Bool
  | member | enumerationMember => true
  | constructor | procedure => false

/-- One value for each kind. -/
structure Table (α : Type) where
  constructor : α
  member : α
  enumerationMember : α
  procedure : α

/-- The value for a kind. -/
def Table.get (table : Table α) : Tag → α
  | .constructor => table.constructor
  | .member => table.member
  | .enumerationMember => table.enumerationMember
  | .procedure => table.procedure

end Tag
end Bindery
