import Bindery.Rule.Set

/-! The rules of the serialization platform. -/
namespace Bindery.Generator.Serialization

/-- The rules. -/
def rules : Rule.Source where
  codes := [
    ("pass", "${name}"),
    ("read_any", "ObjectHandler::property_t ${name} = valueObject->getProperty(\"${name}\");"),
    ("read_any_vector", "std::vector<ObjectHandler::property_t> ${name} =\n        ObjectHandler::vector::convert2<ObjectHandler::property_t>(valueObject->getProperty(\"${name}\"), \"${name}\");"),
    ("read_matrix", "std::vector<std::vector<${type}> > ${name} =\n        ObjectHandler::matrix::convert2<${type}>(valueObject->getProperty(\"${name}\"), \"${name}\");"),
    ("read_scalar", "${type} ${name} =\n        ObjectHandler::convert2<${type}>(valueObject->getProperty(\"${name}\"));"),
    ("read_string", "std::string ${name} =\n        ObjectHandler::convert2<std::string>(valueObject->getProperty(\"${name}\"));"),
    ("read_string_matrix", "std::vector<std::vector<std::string> > ${name} =\n        ObjectHandler::matrix::convert2<std::string>(valueObject->getProperty(\"${name}\"), \"${name}\");"),
    ("read_string_vector", "std::vector<std::string> ${name} =\n        ObjectHandler::vector::convert2<std::string>(valueObject->getProperty(\"${name}\"), \"${name}\");"),
    ("read_vector", "std::vector<${type}> ${name} =\n        ObjectHandler::vector::convert2<${type}>(valueObject->getProperty(\"${name}\"), \"${name}\");")]
  groups := [
    ("conversions", {
      delimiter := "\n", indent := 4, after := "\n\n", skipImplicit := true
      rules := [
        ⟨some .scalar, some .string, some "read_string"⟩,
        ⟨some .scalar, some .any, some "read_any"⟩,
        ⟨some .scalar, none, some "read_scalar"⟩,
        ⟨some .vector, some .string, some "read_string_vector"⟩,
        ⟨some .vector, some .property, some "read_any_vector"⟩,
        ⟨some .vector, some .any, some "read_any_vector"⟩,
        ⟨some .vector, none, some "read_vector"⟩,
        ⟨some .matrix, some .string, some "read_string_matrix"⟩,
        ⟨some .matrix, none, some "read_matrix"⟩] }),
    ("library_call", {
      before := ", ", skipImplicit := true
      rules := [
        ⟨none, none, some "pass"⟩] })]

end Bindery.Generator.Serialization
