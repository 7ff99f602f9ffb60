import Bindery.Rule.Set

/-! The rules of the C platform. -/
namespace Bindery.Generator.C

/-- The rules. -/
def rules : Rule.Source where
  codes := [
    ("arg_any", "Varies ${name}"),
    ("arg_any_matrix", "Varies **${name}, long ${name}Rows, long ${name}Cols"),
    ("arg_any_vector", "Varies *${name}, long ${name}Size"),
    ("arg_matrix", "${type} **${name}, long ${name}Rows, long ${name}Cols"),
    ("arg_scalar", "${type} ${name}"),
    ("arg_string", "char *${name}"),
    ("arg_string_matrix", "char ***${name}, long ${name}Rows, long ${name}Cols"),
    ("arg_string_vector", "char **${name}, long ${name}Size"),
    ("arg_vector", "${type} *${name}, long ${name}Size"),
    ("call_converted", "${name}Cpp"),
    ("call_raw", "${name}"),
    ("convert_any", "ObjectHandler::Variant ${name}Cpp = ObjectHandler::convertVaries(${name});"),
    ("convert_any_vector", "std::vector<ObjectHandler::Variant> ${name}Cpp = ObjectHandler::convertVaries(${name}, ${name}Size);"),
    ("convert_matrix", "std::vector<std::vector<${type}> > ${name}Cpp = ObjectHandler::matrixToVector(${name}, ${name}Rows, ${name}Cols);"),
    ("convert_string", "std::string ${name}Cpp(${name});"),
    ("convert_string_matrix", "std::vector<std::vector<std::string> > ${name}Cpp = ObjectHandler::matrixToVector(${name}, ${name}Rows, ${name}Cols);"),
    ("convert_string_vector", "std::vector<std::string> ${name}Cpp(${name}, ${name} + ${name}Size);"),
    ("convert_vector", "std::vector<${type}> ${name}Cpp(${name}, ${name} + ${name}Size);"),
    ("result_any", "Varies *${name}"),
    ("result_any_vector", "Varies *${name}, long *${name}Size"),
    ("result_matrix", "${type} **${name}, long *${name}Rows, long *${name}Cols"),
    ("result_scalar", "${type} *${name}"),
    ("result_string", "char *${name}"),
    ("result_string_vector", "char **${name}, long *${name}Size"),
    ("result_vector", "${type} *${name}, long *${name}Size"),
    ("return_any", "ObjectHandler::convertVariant(returnValue, ${name});"),
    ("return_any_vector", "ObjectHandler::convertVariants(returnValue, ${name}, ${name}Size);"),
    ("return_matrix", "ObjectHandler::copyMatrix(returnValue, ${name}, ${name}Rows, ${name}Cols);"),
    ("return_scalar", "*${name} = returnValue;"),
    ("return_string", "strcpy(${name}, returnValue.c_str());"),
    ("return_string_vector", "ObjectHandler::copyStrings(returnValue, ${name}, ${name}Size);"),
    ("return_vector", "std::copy(returnValue.begin(), returnValue.end(), ${name});\n        *${name}Size = returnValue.size();"),
    ("type_any", "ObjectHandler::Variant"),
    ("type_any_vector", "std::vector<ObjectHandler::Variant>"),
    ("type_matrix", "std::vector<std::vector<${type}> >"),
    ("type_scalar", "${type}"),
    ("type_string", "std::string"),
    ("type_string_matrix", "std::vector<std::vector<std::string> >"),
    ("type_string_vector", "std::vector<std::string>"),
    ("type_vector", "std::vector<${type}>")]
  groups := [
    ("conversions", {
      delimiter := "\n", indent := 8, after := "\n\n"
      rules := [
        ⟨some .scalar, some .string, some "convert_string"⟩,
        ⟨some .scalar, some .any, some "convert_any"⟩,
        ⟨some .scalar, none, none⟩,
        ⟨some .vector, some .string, some "convert_string_vector"⟩,
        ⟨some .vector, some .property, some "convert_string_vector"⟩,
        ⟨some .vector, some .any, some "convert_any_vector"⟩,
        ⟨some .vector, none, some "convert_vector"⟩,
        ⟨some .matrix, some .string, some "convert_string_matrix"⟩,
        ⟨some .matrix, none, some "convert_matrix"⟩] }),
    ("library_call", {
      skipImplicit := true
      rules := [
        ⟨some .scalar, some .string, some "call_converted"⟩,
        ⟨some .scalar, some .any, some "call_converted"⟩,
        ⟨some .scalar, none, some "call_raw"⟩,
        ⟨none, none, some "call_converted"⟩] }),
    ("prototype", {
      delimiter := ",\n", indent := 4
      rules := [
        ⟨some .scalar, some .string, some "arg_string"⟩,
        ⟨some .scalar, some .any, some "arg_any"⟩,
        ⟨some .scalar, none, some "arg_scalar"⟩,
        ⟨some .vector, some .string, some "arg_string_vector"⟩,
        ⟨some .vector, some .property, some "arg_string_vector"⟩,
        ⟨some .vector, some .any, some "arg_any_vector"⟩,
        ⟨some .vector, none, some "arg_vector"⟩,
        ⟨some .matrix, some .string, some "arg_string_matrix"⟩,
        ⟨some .matrix, some .any, some "arg_any_matrix"⟩,
        ⟨some .matrix, none, some "arg_matrix"⟩] }),
    ("result", {
      indent := 4
      rules := [
        ⟨some .scalar, some .string, some "result_string"⟩,
        ⟨some .scalar, some .any, some "result_any"⟩,
        ⟨some .scalar, none, some "result_scalar"⟩,
        ⟨some .vector, some .string, some "result_string_vector"⟩,
        ⟨some .vector, some .property, some "result_string_vector"⟩,
        ⟨some .vector, some .any, some "result_any_vector"⟩,
        ⟨some .vector, none, some "result_vector"⟩,
        ⟨some .matrix, none, some "result_matrix"⟩] }),
    ("return_conversion", {
      indent := 8
      rules := [
        ⟨some .scalar, some .string, some "return_string"⟩,
        ⟨some .scalar, some .any, some "return_any"⟩,
        ⟨some .scalar, none, some "return_scalar"⟩,
        ⟨some .vector, some .string, some "return_string_vector"⟩,
        ⟨some .vector, some .property, some "return_string_vector"⟩,
        ⟨some .vector, some .any, some "return_any_vector"⟩,
        ⟨some .vector, none, some "return_vector"⟩,
        ⟨some .matrix, none, some "return_matrix"⟩] }),
    ("return_type", {
      rules := [
        ⟨some .scalar, some .string, some "type_string"⟩,
        ⟨some .scalar, some .any, some "type_any"⟩,
        ⟨some .scalar, none, some "type_scalar"⟩,
        ⟨some .vector, some .string, some "type_string_vector"⟩,
        ⟨some .vector, some .property, some "type_string_vector"⟩,
        ⟨some .vector, some .any, some "type_any_vector"⟩,
        ⟨some .vector, none, some "type_vector"⟩,
        ⟨some .matrix, some .string, some "type_string_matrix"⟩,
        ⟨some .matrix, none, some "type_matrix"⟩] })]

end Bindery.Generator.C
