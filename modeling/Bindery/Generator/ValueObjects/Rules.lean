import Bindery.Rule.Set

/-! The rules of the value object platform. -/
namespace Bindery.Generator.ValueObjects

/-- The rules. -/
def rules : Rule.Source where
  codes := [
    ("arg_any", "const ObjectHandler::property_t& ${name}"),
    ("arg_any_vector", "const std::vector<ObjectHandler::property_t>& ${name}"),
    ("arg_matrix", "const std::vector<std::vector<${type}> >& ${name}"),
    ("arg_scalar", "${type} ${name}"),
    ("arg_string", "const std::string& ${name}"),
    ("arg_string_matrix", "const std::vector<std::vector<std::string> >& ${name}"),
    ("arg_string_vector", "const std::vector<std::string>& ${name}"),
    ("arg_vector", "const std::vector<${type}>& ${name}"),
    ("get_matrix", "else if (boost::iequals(name, \"${name}\"))\n            return ObjectHandler::matrix::convert2<ObjectHandler::property_t>(${name}_);"),
    ("get_scalar", "else if (boost::iequals(name, \"${name}\"))\n            return ${name}_;"),
    ("get_vector", "else if (boost::iequals(name, \"${name}\"))\n            return ObjectHandler::vector::convert2<ObjectHandler::property_t>(${name}_);"),
    ("initializer", "${name}_(${name})"),
    ("member_any", "ObjectHandler::property_t ${name}_;"),
    ("member_any_vector", "std::vector<ObjectHandler::property_t> ${name}_;"),
    ("member_matrix", "std::vector<std::vector<${type}> > ${name}_;"),
    ("member_scalar", "${type} ${name}_;"),
    ("member_string", "std::string ${name}_;"),
    ("member_string_matrix", "std::vector<std::vector<std::string> > ${name}_;"),
    ("member_string_vector", "std::vector<std::string> ${name}_;"),
    ("member_vector", "std::vector<${type}> ${name}_;"),
    ("nvp", "& boost::serialization::make_nvp(\"${name}\", ${name}_)"),
    ("property_name", "\"${name}\","),
    ("set_any", "else if (boost::iequals(name, \"${name}\"))\n            ${name}_ = value;"),
    ("set_any_vector", "else if (boost::iequals(name, \"${name}\"))\n            ${name}_ = ObjectHandler::vector::convert2<ObjectHandler::property_t>(value, name);"),
    ("set_matrix", "else if (boost::iequals(name, \"${name}\"))\n            ${name}_ = ObjectHandler::matrix::convert2<${type}>(value, name);"),
    ("set_scalar", "else if (boost::iequals(name, \"${name}\"))\n            ${name}_ = ObjectHandler::convert2<${type}>(value);"),
    ("set_string", "else if (boost::iequals(name, \"${name}\"))\n            ${name}_ = boost::get<std::string>(value);"),
    ("set_string_matrix", "else if (boost::iequals(name, \"${name}\"))\n            ${name}_ = ObjectHandler::matrix::convert2<std::string>(value, name);"),
    ("set_string_vector", "else if (boost::iequals(name, \"${name}\"))\n            ${name}_ = ObjectHandler::vector::convert2<std::string>(value, name);"),
    ("set_vector", "else if (boost::iequals(name, \"${name}\"))\n            ${name}_ = ObjectHandler::vector::convert2<${type}>(value, name);")]
  groups := [
    ("constructor_parameters", {
      delimiter := ",\n", indent := 12, after := ",\n", skipImplicit := true
      rules := [
        ⟨some .scalar, some .string, some "arg_string"⟩,
        ⟨some .scalar, some .any, some "arg_any"⟩,
        ⟨some .scalar, none, some "arg_scalar"⟩,
        ⟨some .vector, some .string, some "arg_string_vector"⟩,
        ⟨some .vector, some .property, some "arg_any_vector"⟩,
        ⟨some .vector, some .any, some "arg_any_vector"⟩,
        ⟨some .vector, none, some "arg_vector"⟩,
        ⟨some .matrix, some .string, some "arg_string_matrix"⟩,
        ⟨some .matrix, none, some "arg_matrix"⟩] }),
    ("definition_parameters", {
      delimiter := ",\n", indent := 8, after := ",\n", skipImplicit := true
      rules := [
        ⟨some .scalar, some .string, some "arg_string"⟩,
        ⟨some .scalar, some .any, some "arg_any"⟩,
        ⟨some .scalar, none, some "arg_scalar"⟩,
        ⟨some .vector, some .string, some "arg_string_vector"⟩,
        ⟨some .vector, some .property, some "arg_any_vector"⟩,
        ⟨some .vector, some .any, some "arg_any_vector"⟩,
        ⟨some .vector, none, some "arg_vector"⟩,
        ⟨some .matrix, some .string, some "arg_string_matrix"⟩,
        ⟨some .matrix, none, some "arg_matrix"⟩] }),
    ("get_property", {
      delimiter := "\n", indent := 8, after := "\n", skipImplicit := true
      rules := [
        ⟨some .scalar, none, some "get_scalar"⟩,
        ⟨some .vector, none, some "get_vector"⟩,
        ⟨some .matrix, none, some "get_matrix"⟩] }),
    ("initializers", {
      before := ",\n        ", skipImplicit := true
      rules := [
        ⟨none, none, some "initializer"⟩] }),
    ("members", {
      delimiter := "\n", indent := 8, after := "\n", skipImplicit := true
      rules := [
        ⟨some .scalar, some .string, some "member_string"⟩,
        ⟨some .scalar, some .any, some "member_any"⟩,
        ⟨some .scalar, none, some "member_scalar"⟩,
        ⟨some .vector, some .string, some "member_string_vector"⟩,
        ⟨some .vector, some .property, some "member_any_vector"⟩,
        ⟨some .vector, some .any, some "member_any_vector"⟩,
        ⟨some .vector, none, some "member_vector"⟩,
        ⟨some .matrix, some .string, some "member_string_matrix"⟩,
        ⟨some .matrix, none, some "member_matrix"⟩] }),
    ("property_names", {
      delimiter := "\n", indent := 8, after := "\n", skipImplicit := true
      rules := [
        ⟨none, none, some "property_name"⟩] }),
    ("serialize", {
      delimiter := "\n", indent := 16, after := "\n", skipImplicit := true
      rules := [
        ⟨none, none, some "nvp"⟩] }),
    ("set_property", {
      delimiter := "\n", indent := 8, after := "\n", skipImplicit := true
      rules := [
        ⟨some .scalar, some .string, some "set_string"⟩,
        ⟨some .scalar, some .any, some "set_any"⟩,
        ⟨some .scalar, none, some "set_scalar"⟩,
        ⟨some .vector, some .string, some "set_string_vector"⟩,
        ⟨some .vector, some .property, some "set_any_vector"⟩,
        ⟨some .vector, some .any, some "set_any_vector"⟩,
        ⟨some .vector, none, some "set_vector"⟩,
        ⟨some .matrix, some .string, some "set_string_matrix"⟩,
        ⟨some .matrix, none, some "set_matrix"⟩] })]

end Bindery.Generator.ValueObjects
