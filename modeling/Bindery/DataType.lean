import Bindery.Vocabulary

/-! What a parameter or a return value holds: the type of its elements and how they are arranged. -/
namespace Bindery

/-- The type of an element. -/
inductive DataType where
  | long | double | bool | string | any
  /-- A structured list of properties, which only a vector of them makes. -/
  | property
deriving DecidableEq, Repr

/-- How elements are arranged. -/
inductive TensorRank where
  | scalar | vector | matrix
deriving DecidableEq, Repr

def DataType.name : DataType → String
  | long => "long"
  | double => "double"
  | bool => "bool"
  | string => "string"
  | any => "any"
  | property => "property"

def TensorRank.name : TensorRank → String
  | scalar => "scalar"
  | vector => "vector"
  | matrix => "matrix"

/-- The words for types. -/
def DataType.vocabulary : Vocabulary DataType where
  noun := "type"
  values := [.long, .double, .bool, .string, .any, .property]
  name := DataType.name

/-- The words for arrangements. -/
def TensorRank.vocabulary : Vocabulary TensorRank where
  noun := "tensor rank"
  values := [.scalar, .vector, .matrix]
  name := TensorRank.name

theorem DataType.find?_name (t : DataType) : vocabulary.find? t.name = some t := by
  cases t <;> decide +kernel

theorem DataType.find?_eq_some {word : String} {t : DataType} :
    vocabulary.find? word = some t ↔ word = t.name :=
  ⟨fun h => List.mem_singleton.1 (vocabulary.fold_mem_wordsOf h), fun h => h ▸ find?_name t⟩

theorem TensorRank.find?_name (r : TensorRank) : vocabulary.find? r.name = some r := by
  cases r <;> decide +kernel

theorem TensorRank.find?_eq_some {word : String} {r : TensorRank} :
    vocabulary.find? word = some r ↔ word = r.name :=
  ⟨fun h => List.mem_singleton.1 (vocabulary.fold_mem_wordsOf h), fun h => h ▸ find?_name r⟩

end Bindery
