import Bindery.Rule.Set

/-! The rules of the documentation. -/
namespace Bindery.Generator.Doxygen

/-- The rules. -/
def rules : Rule.Source where
  codes := [
    ("matrix", "matrix<${type}> ${name}"),
    ("param", "\\param ${name} ${description}"),
    ("scalar", "${type} ${name}"),
    ("type_matrix", "matrix<${type}>"),
    ("type_scalar", "${type}"),
    ("type_vector", "vector<${type}>"),
    ("vector", "vector<${type}> ${name}")]
  groups := [
    ("parameter_docs", {
      delimiter := "\n", after := "\n"
      rules := [
        ⟨none, none, some "param"⟩] }),
    ("return_type", {
      rules := [
        ⟨some .scalar, none, some "type_scalar"⟩,
        ⟨some .vector, none, some "type_vector"⟩,
        ⟨some .matrix, none, some "type_matrix"⟩] }),
    ("signature", {
      rules := [
        ⟨some .scalar, none, some "scalar"⟩,
        ⟨some .vector, none, some "vector"⟩,
        ⟨some .matrix, none, some "matrix"⟩] })]

end Bindery.Generator.Doxygen
